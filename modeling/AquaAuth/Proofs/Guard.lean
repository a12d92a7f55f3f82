import AquaAuth.Model.HttpSig.Replay
set_option autoImplicit false
/-!
# What a call does to the guard

A call of the guard refuses a nonce it knows and changes nothing, or makes room and
records.  Making room leaves the guard alone, purges it, or evicts one live entry.
-/

namespace AquaAuth.HttpSig.NonceReplayGuard

open Support

variable {guard : NonceReplayGuard} {nonce : Str} {expiresAt now : Int}

/-- A guard within its capacity. -/
def Bounded (guard : NonceReplayGuard) : Prop := guard.seen.len ≤ guard.capacity

@[simp] theorem isFull_iff : guard.isFull = true ↔ guard.capacity ≤ guard.seen.len := by
  simp [isFull]

@[simp] theorem capacity_cleanupExpiredAt :
    (guard.cleanupExpiredAt now).capacity = guard.capacity := rfl

theorem get_cleanupExpiredAt :
    (guard.cleanupExpiredAt now).seen.get nonce =
      (guard.seen.get nonce).filter fun expiresAt => now < expiresAt := by
  simp [cleanupExpiredAt]

theorem len_cleanupExpiredAt_le : (guard.cleanupExpiredAt now).seen.len ≤ guard.seen.len :=
  KeyedMap.len_retain_le _ _

/-- A purge keeps the entries that have not expired. -/
theorem get_cleanupExpiredAt_of_live (h : guard.seen.get nonce = some expiresAt)
    (hlive : now < expiresAt) :
    (guard.cleanupExpiredAt now).seen.get nonce = some expiresAt := by
  rw [get_cleanupExpiredAt, h]
  simp [hlive]

/-- Making room adds nothing. -/
theorem get_makeRoom_none (h : guard.seen.get nonce = none) :
    (guard.makeRoom now).seen.get nonce = none := by
  have hcleanup : (guard.cleanupExpiredAt now).seen.get nonce = none := by
    rw [get_cleanupExpiredAt, h, Option.filter_none]
  unfold makeRoom
  extract_lets purged
  split_ifs
  · unfold evictSoonestExpiring removeVictim
    cases (guard.cleanupExpiredAt now).victim with
    | none => exact hcleanup
    | some victim =>
        change ((guard.cleanupExpiredAt now).seen.remove victim).get nonce = none
        rw [KeyedMap.get_remove, hcleanup, ite_self]
  · exact hcleanup
  · exact h

theorem checkAndRecordAt_known {known : Int} (h : guard.seen.get nonce = some known) :
    guard.checkAndRecordAt nonce expiresAt now = (.error .nonceReplayed, guard) :=
  if_pos (KeyedMap.containsKey_iff.mpr ⟨known, h⟩)

theorem checkAndRecordAt_new (h : guard.seen.get nonce = none) :
    guard.checkAndRecordAt nonce expiresAt now =
      (.ok (), { guard.makeRoom now with
        seen := (guard.makeRoom now).seen.insert nonce expiresAt }) := by
  rw [checkAndRecordAt, if_neg (by simp [KeyedMap.containsKey_eq_false.mpr h]), record,
    if_neg (by simp [KeyedMap.containsKey_eq_false.mpr (get_makeRoom_none h)])]

/-- A call succeeds exactly on a nonce the guard does not know. -/
theorem checkAndRecordAt_eq_ok :
    (guard.checkAndRecordAt nonce expiresAt now).1 = .ok () ↔ guard.seen.get nonce = none := by
  cases hget : guard.seen.get nonce with
  | some known => simp [checkAndRecordAt_known hget]
  | none => simp [checkAndRecordAt_new hget]

/-- What making room comes to for a guard within its capacity. -/
inductive MadeRoom (guard : NonceReplayGuard) (now : Int) : NonceReplayGuard → Prop
  /-- There was room. -/
  | spare (h : guard.seen.len < guard.capacity) : MadeRoom guard now guard
  /-- The purge made room. -/
  | purged (hfull : guard.capacity ≤ guard.seen.len)
      (h : (guard.cleanupExpiredAt now).seen.len < guard.capacity) :
      MadeRoom guard now (guard.cleanupExpiredAt now)
  /-- Nothing had expired, and the first entry of the eviction order made room. -/
  | evicted (hfull : guard.capacity ≤ guard.seen.len)
      (hlive : ∀ nonce expiresAt, guard.seen.get nonce = some expiresAt → now < expiresAt)
      {entry : Str × Int} (hleast : guard.seen.least evictionRank = some entry) :
      MadeRoom guard now { guard with seen := guard.seen.remove entry.1 }

theorem madeRoom_makeRoom (hbounded : guard.Bounded) :
    MadeRoom guard now (guard.makeRoom now) := by
  unfold makeRoom
  by_cases hfull : guard.isFull
  · rw [if_pos hfull]
    rw [isFull_iff] at hfull
    by_cases hstill : (guard.cleanupExpiredAt now).isFull
    · rw [if_pos hstill]
      rw [isFull_iff, capacity_cleanupExpiredAt] at hstill
      -- The purge dropped nothing, so the victim is the first entry of the whole guard.
      have hkept : guard.seen.len ≤ (guard.cleanupExpiredAt now).seen.len :=
        le_trans hbounded hstill
      have hseen := KeyedMap.retain_eq_self_of_len_le hkept
      have hsame : guard.cleanupExpiredAt now = guard := by
        rw [cleanupExpiredAt, hseen]
      have hlive : ∀ nonce expiresAt, guard.seen.get nonce = some expiresAt → now < expiresAt :=
        fun _ _ hget => by simpa using KeyedMap.all_of_retain_eq_self hseen hget
      rw [hsame, evictSoonestExpiring, victim]
      cases hleast : guard.seen.least evictionRank with
      | none =>
          have hzero := KeyedMap.least_eq_none.mp hleast
          have := guard.capacityPos
          omega
      | some entry => exact .evicted hfull hlive hleast
    · rw [if_neg hstill]
      rw [isFull_iff, not_le, capacity_cleanupExpiredAt] at hstill
      exact .purged hfull hstill
  · rw [if_neg hfull]
    rw [isFull_iff, not_le] at hfull
    exact .spare hfull

theorem MadeRoom.capacity_eq {room : NonceReplayGuard} (h : MadeRoom guard now room) :
    room.capacity = guard.capacity := by
  cases h <;> rfl

/-- After making room there is room. -/
theorem MadeRoom.len_lt {room : NonceReplayGuard} (h : MadeRoom guard now room)
    (hbounded : guard.Bounded) : room.seen.len < guard.capacity := by
  cases h with
  | spare h => exact h
  | purged _ h => exact h
  | evicted _ _ hleast =>
      have hlen := KeyedMap.len_remove_of_present (KeyedMap.least_get hleast)
      change (guard.seen.remove _).len < guard.capacity
      unfold Bounded at hbounded
      omega

/-- What a call does: it refuses a nonce the guard knows, or makes room and records. -/
inductive Called (guard : NonceReplayGuard) (nonce : Str) (expiresAt now : Int) :
    Except HttpSigError Unit × NonceReplayGuard → Prop
  | replayed {known : Int} (h : guard.seen.get nonce = some known) :
      Called guard nonce expiresAt now (.error .nonceReplayed, guard)
  | recorded {room : NonceReplayGuard} (h : guard.seen.get nonce = none)
      (hroom : MadeRoom guard now room) :
      Called guard nonce expiresAt now
        (.ok (), { room with seen := room.seen.insert nonce expiresAt })

theorem called_checkAndRecordAt (hbounded : guard.Bounded) :
    Called guard nonce expiresAt now (guard.checkAndRecordAt nonce expiresAt now) := by
  cases hget : guard.seen.get nonce with
  | some known =>
      rw [checkAndRecordAt_known hget]
      exact .replayed hget
  | none =>
      rw [checkAndRecordAt_new hget]
      exact .recorded hget (madeRoom_makeRoom hbounded)

/-- A call keeps the guard within its capacity. -/
theorem bounded_checkAndRecordAt (hbounded : guard.Bounded) :
    (guard.checkAndRecordAt nonce expiresAt now).2.Bounded ∧
      (guard.checkAndRecordAt nonce expiresAt now).2.capacity = guard.capacity := by
  have hcalled : guard.Called nonce expiresAt now (guard.checkAndRecordAt nonce expiresAt now) :=
    called_checkAndRecordAt hbounded
  generalize guard.checkAndRecordAt nonce expiresAt now = outcome at hcalled
  cases hcalled with
  | replayed _ => exact ⟨hbounded, rfl⟩
  | @recorded room _ hroom =>
      have hlt := hroom.len_lt hbounded
      have hinsert := KeyedMap.len_insert_le room.seen nonce expiresAt
      have hcapacity := hroom.capacity_eq
      exact ⟨by simp only [Bounded]; omega, hcapacity⟩

end AquaAuth.HttpSig.NonceReplayGuard
