import AquaAuth.Model.Challenge
set_option autoImplicit false
/-!
# What the challenge calls do

The room `create` makes is that of a keyed map that purges before it evicts, so it depends on
what a sweep leaves, and after it one challenge more fits unless too many have not expired.
-/

namespace AquaAuth

open Support

namespace ChallengeStore

variable {B : Build} {store store' : ChallengeStore} {c c' : Nat}

theorem cleanupExpired_cleanupExpired (h : c ≤ c') :
    (store.cleanupExpired c).cleanupExpired c' = store.cleanupExpired c' := by
  simp only [cleanupExpired, KeyedMap.retain_retain]
  congr 2
  funext nonce challenge
  by_cases hlive : c' < challenge.expiresAt
  · simp [hlive, h.trans_lt hlive]
  · simp [hlive]

theorem cleanupExpired_removeVictim (victim : Option Str) :
    (store.removeVictim victim).cleanupExpired c =
      (store.cleanupExpired c).removeVictim victim := by
  cases victim with
  | none => rfl
  | some nonce => simp only [removeVictim, cleanupExpired, KeyedMap.retain_remove]

theorem makeRoom_eq (store : ChallengeStore) (c : Nat) :
    store.makeRoom c = { store with
      challenges := store.challenges.makeRoom store.maxChallenges
        (fun _ challenge => c < challenge.expiresAt) evictionRank } := by
  have hvictim : ∀ store : ChallengeStore, store.evictOldest = { store with
      challenges := store.challenges.removeLeast evictionRank } := by
    intro store
    unfold evictOldest victim KeyedMap.removeLeast
    cases (store.challenges.least evictionRank).map Prod.fst <;> rfl
  simp only [makeRoom, KeyedMap.makeRoom, isFull, len, cleanupExpired, hvictim]
  by_cases hfull : store.maxChallenges ≤ store.challenges.len
  · by_cases hstill : store.maxChallenges ≤
        (store.challenges.retain fun _ challenge => c < challenge.expiresAt).len
    · simp only [hfull, hstill, decide_true, if_true]
    · simp only [hfull, hstill, decide_true, decide_false, if_true, if_false, Bool.false_eq_true]
  · simp only [hfull, decide_false, if_false, Bool.false_eq_true]

theorem cleanupExpired_makeRoom (store : ChallengeStore) (c : Nat) :
    (store.makeRoom c).cleanupExpired c = (store.cleanupExpired c).makeRoom c := by
  rw [makeRoom_eq, makeRoom_eq]
  simp only [cleanupExpired, KeyedMap.retain_makeRoom]

/-! ## The number of challenges -/

theorem len_removeVictim_le (victim : Option Str) :
    (store.removeVictim victim).len ≤ store.len := by
  cases victim with
  | none => exact le_refl _
  | some nonce => exact KeyedMap.len_remove_le _ _

theorem len_removeVictim_of_present {nonce : Str} (h : store.challenges.get nonce ≠ none) :
    (store.removeVictim (some nonce)).len + 1 = store.len := by
  obtain ⟨challenge, hget⟩ := Option.ne_none_iff_exists'.mp h
  exact KeyedMap.len_remove_of_present hget

theorem len_issue_le (did : Str) (nonceBytes : ByteArr 32) (now : ClockReading) :
    (store.issue B did nonceBytes now).2.len ≤ store.len + 1 := by
  unfold issue
  cases store.expiry now with
  | none => exact Nat.le_succ _
  | some expires =>
      cases hbuild : challengeFor B store did nonceBytes now expires with
      | error e =>
          simp only [hbuild]
          exact Nat.le_succ _
      | ok challenge =>
          simp only [hbuild]
          exact KeyedMap.len_insert_le _ _ _

theorem maxChallenges_issue (did : Str) (nonceBytes : ByteArr 32) (now : ClockReading) :
    (store.issue B did nonceBytes now).2.maxChallenges = store.maxChallenges := by
  unfold issue
  cases store.expiry now with
  | none => rfl
  | some expires =>
      cases hbuild : challengeFor B store did nonceBytes now expires <;> simp only [hbuild]

@[simp] theorem maxChallenges_removeVictim (victim : Option Str) :
    (store.removeVictim victim).maxChallenges = store.maxChallenges := by
  cases victim <;> rfl

theorem len_cleanupExpired_le : (store.cleanupExpired c).len ≤ store.len :=
  KeyedMap.len_retain_le _ _

theorem len_makeRoom (hpos : 0 < store.maxChallenges) (c : Nat) :
    (store.makeRoom c).len + 1 ≤ max store.maxChallenges (store.cleanupExpired c).len ∧
      (store.cleanupExpired c).len ≤ (store.makeRoom c).len + 1 := by
  rw [makeRoom_eq]
  exact KeyedMap.len_makeRoom hpos

theorem get_makeRoom_none {nonce : Str} (h : store.challenges.get nonce = none) :
    (store.makeRoom c).challenges.get nonce = none := by
  rw [makeRoom_eq, Option.eq_none_iff_forall_ne_some]
  intro challenge hget
  rw [KeyedMap.get_of_get_makeRoom hget] at h
  cases h

theorem issue_eq_ok {did : Str} {nonceBytes : ByteArr 32} {now : ClockReading}
    {challenge : Challenge}
    (h : store.issue B did nonceBytes now = (some (.ok challenge), store')) :
    store' = { store with
      challenges := store.challenges.insert challenge.nonce challenge } := by
  unfold issue at h
  cases hexpiry : store.expiry now with
  | none => simp [hexpiry] at h
  | some expires =>
      cases hbuild : challengeFor B store did nonceBytes now expires with
      | error e => simp [hexpiry, hbuild] at h
      | ok built =>
          simp only [hexpiry, hbuild, Prod.mk.injEq, Option.some.injEq, Except.ok.injEq] at h
          obtain ⟨rfl, rfl⟩ := h
          rfl

/-- `create` inserts one challenge behind the room it makes. -/
theorem len_create {did : Str} {draws : ChallengeDraws} {challenge : Challenge}
    (hpos : 0 < store.maxChallenges)
    (h : store.create B did draws = (some (.ok challenge), store')) :
    store'.len ≤ max store.maxChallenges (store.cleanupExpired draws.purgeAt.secs).len ∧
      (store.challenges.get challenge.nonce = none →
        (store.cleanupExpired draws.purgeAt.secs).len ≤ store'.len) := by
  unfold create at h
  cases hvalid : validateDidWellFormed B did with
  | error e => simp [hvalid] at h
  | ok _ =>
      simp only [hvalid] at h
      obtain ⟨hupper, hlower⟩ := len_makeRoom hpos draws.purgeAt.secs
      have hinsert : store'.len ≤ (store.makeRoom draws.purgeAt.secs).len + 1 := by
        rw [issue_eq_ok h]
        exact KeyedMap.len_insert_le _ _ _
      refine ⟨hinsert.trans hupper, fun hfresh => ?_⟩
      have hlen : store'.len = (store.makeRoom draws.purgeAt.secs).len + 1 := by
        rw [issue_eq_ok h]
        exact KeyedMap.len_insert_of_absent _ (get_makeRoom_none hfresh)
      rw [hlen]
      exact hlower

end ChallengeStore

end AquaAuth
