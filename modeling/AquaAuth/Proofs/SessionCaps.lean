import AquaAuth.Proofs.Sessions
set_option autoImplicit false
/-!
# The two caps of the session store

A run keeps the store within its global cap and every DID within its quota.  The global
cap rejects and the quota evicts, and neither takes a session from another DID.  A live
session of a DID is never taken for an expired one of the same DID, as long as the addition
of the time to live does not wrap.
-/

namespace AquaAuth

open Support

namespace SessionStore

variable {store : SessionStore} {did : Str} {draws : SessionDraws} {overflowChecks : Bool}

/-- The sessions that are valid after `c`. -/
def unexpired (store : SessionStore) (c : Nat) : List Session :=
  store.backend.all.filter fun s => c < s.validUntil

theorem length_unexpired (c : Nat) :
    (store.unexpired c).length = (store.cleanupExpired c).backend.len := by
  rw [← InMemoryBackend.length_all, backend_cleanupExpired, InMemoryBackend.all_retain, unexpired]

/-- Both caps hold. -/
structure WithinCaps (store : SessionStore) : Prop where
  total : store.backend.len ≤ store.maxSessions
  quota : store.WithinQuota

/-- A call leaves out a stored session that is valid after `c`.  The session of the token the
call draws does not count: a fresh token names no stored session. -/
structure Removes (before after : SessionStore) (drawn : Str) (c : Nat) (session : Session) :
    Prop where
  stored : before.backend.get session.token = some session
  live : c < session.validUntil
  other : session.token ≠ drawn
  gone : after.backend.get session.token = none

/-- `create` returned a session. -/
def Succeeds (overflowChecks : Bool) (store : SessionStore) (did : Str) (draws : SessionDraws) :
    Prop :=
  ∃ session, (store.create overflowChecks did draws).1 = some (.ok session)

/-- `create` took a session that is valid after `c`. -/
def Takes (overflowChecks : Bool) (store : SessionStore) (did : Str) (draws : SessionDraws)
    (c : Nat) (session : Session) : Prop :=
  Removes store (store.create overflowChecks did draws).2 (tokenOf draws.tokenBytes) c session

/-- What `create` owes to the sessions that have not expired, at any instant from the purge on. -/
structure RespectsLive (overflowChecks : Bool) (store : SessionStore) (did : Str)
    (draws : SessionDraws) : Prop where
  full_iff : (store.create overflowChecks did draws).1 =
      some (.error (.sessionStoreFull store.maxSessions)) ↔
    store.maxSessions ≤ (store.unexpired draws.purgeAt).length
  full_keeps : (store.create overflowChecks did draws).1 =
      some (.error (.sessionStoreFull store.maxSessions)) →
    ∀ s ∈ store.unexpired draws.purgeAt,
      (store.create overflowChecks did draws).2.backend.get s.token = some s
  takes_one : Succeeds overflowChecks store did draws → ∀ c, draws.purgeAt ≤ c →
    ∀ s s', Takes overflowChecks store did draws c s → Takes overflowChecks store did draws c s' →
      s = s'
  takes_own : Succeeds overflowChecks store did draws → ∀ c, draws.purgeAt ≤ c →
    ∀ s, Takes overflowChecks store did draws c s → s.did = did

/-- A successful `create` takes no live session of the DID while an expired one is stored. -/
def ExpiredFirst (overflowChecks : Bool) (store : SessionStore) (did : Str)
    (draws : SessionDraws) : Prop :=
  Succeeds overflowChecks store did draws → ∀ c, draws.purgeAt ≤ c →
    ∀ s, Takes overflowChecks store did draws c s →
      ∀ e ∈ store.backend.sessionsForDid did, c < e.validUntil

/-! ## The caps -/

theorem len_enforcePerDidCap_le : (store.enforcePerDidCap did).backend.len ≤ store.backend.len := by
  rw [enforcePerDidCap, evict_eq_keep]
  exact InMemoryBackend.len_retain_le _

theorem WithinCaps.call (h : store.WithinCaps) (op : SessionOp) :
    (store.call overflowChecks op).2.WithinCaps := by
  have hlimits := call_limits overflowChecks store op
  refine ⟨?_, h.quota.call op⟩
  rw [hlimits.2.1]
  have hcalls := calls_call overflowChecks store op
  generalize (store.call overflowChecks op).2 = store' at hcalls
  cases hcalls with
  | kept op p => exact (InMemoryBackend.len_retain_le _).trans h.total
  | @admitted did draws hlen =>
      have henforce : ((store.room draws.purgeAt).enforcePerDidCap did).backend.len ≤
          (store.room draws.purgeAt).backend.len := len_enforcePerDidCap_le
      rcases admitDid_eq_keep_or_insert overflowChecks (store.room draws.purgeAt) did draws
        with hadmitted | ⟨validUntil, hadmitted, _⟩
      · rw [hadmitted]
        omega
      · rw [hadmitted]
        refine InMemoryBackend.len_insert_le.trans ?_
        omega

/-! ## What is taken -/

/-- What `create` takes is the session eviction picks from the DID. -/
theorem overQuota_of_removes {c : Nat} {s : Session} (hc : draws.purgeAt ≤ c)
    (h : Removes store ((store.room draws.purgeAt).admitDid overflowChecks did draws).2
      (tokenOf draws.tokenBytes) c s) :
    (store.room draws.purgeAt).overQuota
      ((store.room draws.purgeAt).backend.sessionsForDid did) = some s := by
  have hstored : (store.room draws.purgeAt).backend.get s.token = some s := by
    rcases room_cases store draws.purgeAt with hroom | hroom <;> rw [hroom]
    · exact h.stored
    · rw [get_cleanupExpired, h.stored]
      simpa using hc.trans_lt h.live
  generalize store.room draws.purgeAt = room at h hstored
  have hgone : (room.enforcePerDidCap did).backend.get s.token = none := by
    have hgone := h.gone
    rcases admitDid_eq_keep_or_insert overflowChecks room did draws with
        hadmitted | ⟨_, hadmitted, _⟩
    · rwa [hadmitted] at hgone
    · rw [hadmitted, InMemoryBackend.get_insert, if_neg h.other] at hgone
      exact hgone
  rw [enforcePerDidCap, evict_eq_keep, keep, InMemoryBackend.get_retain, hstored] at hgone
  cases hover : room.overQuota (room.backend.sessionsForDid did) with
  | none => simp [hover] at hgone
  | some oldest =>
      have htoken : s.token = oldest.token := by simpa [hover] using hgone
      have holdest := (InMemoryBackend.mem_sessionsForDid.mp (overQuota_eq_some hover).2.1).1
      rw [← htoken, hstored] at holdest
      exact holdest.symm

theorem overQuota_of_takes {c : Nat} {s : Session}
    (hsucceeds : Succeeds overflowChecks store did draws) (hc : draws.purgeAt ≤ c)
    (h : Takes overflowChecks store did draws c s) :
    (store.room draws.purgeAt).overQuota
      ((store.room draws.purgeAt).backend.sessionsForDid did) = some s := by
  obtain ⟨session, hsucceeds⟩ := hsucceeds
  unfold Takes at h
  have hcreates := creates_create overflowChecks store did draws
  generalize store.create overflowChecks did draws = outcome at hcreates hsucceeds h
  cases hcreates with
  | rejected _ => simp at hsucceeds
  | admitted _ => exact overQuota_of_removes hc h

theorem respectsLive (overflowChecks : Bool) (store : SessionStore) (did : Str)
    (draws : SessionDraws) : RespectsLive overflowChecks store did draws where
  full_iff := by
    rw [length_unexpired]
    exact create_full_iff
  full_keeps := by
    intro hfull s hs
    rw [create_full_iff] at hfull
    have hcreates := creates_create overflowChecks store did draws
    generalize store.create overflowChecks did draws = outcome at hcreates
    cases hcreates with
    | rejected _ =>
        obtain ⟨hmem, hlive⟩ := List.mem_filter.mp hs
        rw [get_cleanupExpired, InMemoryBackend.mem_all.mp hmem]
        simpa using hlive
    | admitted hlen =>
        rcases room_cases store draws.purgeAt with hroom | hroom <;> rw [hroom] at hlen
        · have hle : (store.cleanupExpired draws.purgeAt).backend.len ≤ store.backend.len :=
            len_cleanupExpired_le
          omega
        · omega
  takes_one := by
    intro hsucceeds c hc s s' hs hs'
    have hs := overQuota_of_takes hsucceeds hc hs
    rw [overQuota_of_takes hsucceeds hc hs'] at hs
    exact (Option.some.inj hs).symm
  takes_own := by
    intro hsucceeds c hc s hs
    have hover := overQuota_of_takes hsucceeds hc hs
    exact (InMemoryBackend.mem_sessionsForDid.mp (overQuota_eq_some hover).2.1).2

/-- An expired session of the DID is either purged, which leaves the DID under its quota, or
older than the live ones. -/
theorem Regular.expiredFirst (h : store.Regular) (did : Str) (draws : SessionDraws) :
    ExpiredFirst overflowChecks store did draws := by
  intro hsucceeds c hc s hs e he
  have hover := overQuota_of_takes hsucceeds hc hs
  obtain ⟨hfull, hmem, hleast⟩ := overQuota_eq_some hover
  by_cases hstays : e ∈ (store.room draws.purgeAt).backend.sessionsForDid did
  · have hregular := h.room draws.purgeAt
    have hcreated := createdAt_le_of_rank (hleast e hstays)
    have hs' := hregular.sharedTtl s (List.mem_of_mem_filter hmem)
    have he' := hregular.sharedTtl e (List.mem_of_mem_filter hstays)
    have hlive := hs.live
    omega
  · -- The purge took `e`, so what it left of the DID is below the quota.
    exfalso
    rcases room_cases store draws.purgeAt with hroom | hroom <;> rw [hroom] at hstays hfull hmem
    · exact hstays he
    · rw [sessionsForDid_cleanupExpired] at hstays hfull hmem
      have hexpired : ¬ draws.purgeAt < e.validUntil := fun hlive =>
        hstays (List.mem_filter.mpr ⟨he, by simpa using hlive⟩)
      have hfewer : ((store.backend.sessionsForDid did).filter
          fun s => draws.purgeAt < s.validUntil).length <
            (store.backend.sessionsForDid did).length :=
        List.length_filter_lt_length_iff_exists.mpr ⟨e, he, by simpa using hexpired⟩
      have hpositive := List.length_pos_of_mem hmem
      have hquota := h.quota did
      rw [maxSessionsPerDid_cleanupExpired] at hfull
      omega

/-! ## Runs -/

/-- The store a run from an empty one leads to. -/
def reached (overflowChecks : Bool) (ttlSecs maxSessions maxSessionsPerDid : Nat)
    (ops : List SessionOp) : SessionStore :=
  (sessionService overflowChecks).after (withCapacity ttlSecs maxSessions maxSessionsPerDid) ops

theorem regular_withCapacity (ttlSecs maxSessions maxSessionsPerDid : Nat) :
    (withCapacity ttlSecs maxSessions maxSessionsPerDid).Regular where
  quota _ := Nat.zero_le _
  sharedTtl _ h := by cases h

theorem reached_limits (overflowChecks : Bool) (ttlSecs maxSessions maxSessionsPerDid : Nat)
    (ops : List SessionOp) :
    (reached overflowChecks ttlSecs maxSessions maxSessionsPerDid ops).ttlSecs = ttlSecs ∧
    (reached overflowChecks ttlSecs maxSessions maxSessionsPerDid ops).maxSessions = maxSessions ∧
    (reached overflowChecks ttlSecs maxSessions maxSessionsPerDid ops).maxSessionsPerDid =
      maxSessionsPerDid := by
  refine Service.after_of_forall (Q := fun _ => True) (S := sessionService overflowChecks)
    (P := fun store => store.ttlSecs = ttlSecs ∧ store.maxSessions = maxSessions ∧
      store.maxSessionsPerDid = maxSessionsPerDid) ?_ (fun _ _ => trivial) ⟨rfl, rfl, rfl⟩
  rintro store op ⟨httl, hmax, hper⟩ _
  obtain ⟨httl', hmax', hper'⟩ := call_limits overflowChecks store op
  exact ⟨httl'.trans httl, hmax'.trans hmax, hper'.trans hper⟩

theorem reached_withinCaps (overflowChecks : Bool) (ttlSecs maxSessions maxSessionsPerDid : Nat)
    (ops : List SessionOp) :
    (reached overflowChecks ttlSecs maxSessions maxSessionsPerDid ops).WithinCaps :=
  Service.after_of_forall (S := sessionService overflowChecks) (Q := fun _ => True)
    (fun _ op h _ => h.call op) (fun _ _ => trivial)
    ⟨Nat.zero_le _, (regular_withCapacity ttlSecs maxSessions maxSessionsPerDid).quota⟩

/-- Calls with exact additions keep a store regular. -/
theorem Regular.after {ttlSecs : Nat} (h : store.Regular) (httl : store.ttlSecs = ttlSecs)
    {ops : List SessionOp} (hexact : ∀ op ∈ ops, Exact overflowChecks ttlSecs op) :
    ((sessionService overflowChecks).after store ops).Regular :=
  (Service.after_of_forall (S := sessionService overflowChecks)
    (P := fun store => store.Regular ∧ store.ttlSecs = ttlSecs)
    (fun store op h hop => ⟨h.1.call op (h.2.symm ▸ hop),
      (call_limits overflowChecks store op).1.trans h.2⟩) hexact ⟨h, httl⟩).1

theorem reached_regular {ttlSecs maxSessions maxSessionsPerDid : Nat} {ops : List SessionOp}
    (hexact : ∀ op ∈ ops, Exact overflowChecks ttlSecs op) :
    (reached overflowChecks ttlSecs maxSessions maxSessionsPerDid ops).Regular :=
  (regular_withCapacity ttlSecs maxSessions maxSessionsPerDid).after rfl hexact

/-- Along every run the caps hold and `create` respects the live sessions, with an expired
session of the DID going first. -/
def CapsRespected (overflowChecks : Bool) : Prop :=
  ∀ ttlSecs maxSessions maxSessionsPerDid ops, ttlSecs < 2 ^ 64 →
    (sessionService overflowChecks).Chronological 0 ops →
    (reached overflowChecks ttlSecs maxSessions maxSessionsPerDid ops).WithinCaps ∧
    ∀ did draws,
      (sessionService overflowChecks).Timely
        ((sessionService overflowChecks).clockAfter 0 ops) (.create did draws) →
      RespectsLive overflowChecks
        (reached overflowChecks ttlSecs maxSessions maxSessionsPerDid ops) did draws ∧
      ExpiredFirst overflowChecks
        (reached overflowChecks ttlSecs maxSessions maxSessionsPerDid ops) did draws

/-- After every run the store is within its caps and `create` respects the live sessions; after
a run whose additions are exact it takes expired sessions of the DID first. -/
theorem caps_respected (overflowChecks : Bool) (ttlSecs maxSessions maxSessionsPerDid : Nat)
    (ops : List SessionOp) :
    (reached overflowChecks ttlSecs maxSessions maxSessionsPerDid ops).backend.len ≤
        maxSessions ∧
    (∀ did, ((reached overflowChecks ttlSecs maxSessions maxSessionsPerDid
      ops).backend.sessionsForDid did).length ≤ max 1 maxSessionsPerDid) ∧
    (∀ did draws, RespectsLive overflowChecks
      (reached overflowChecks ttlSecs maxSessions maxSessionsPerDid ops) did draws) ∧
    ((∀ op ∈ ops, Exact overflowChecks ttlSecs op) → ∀ did draws, ExpiredFirst overflowChecks
      (reached overflowChecks ttlSecs maxSessions maxSessionsPerDid ops) did draws) := by
  obtain ⟨_, hmax, hper⟩ := reached_limits overflowChecks ttlSecs maxSessions maxSessionsPerDid ops
  have hcaps := reached_withinCaps overflowChecks ttlSecs maxSessions maxSessionsPerDid ops
  refine ⟨hcaps.total.trans hmax.le, fun did => ?_, respectsLive _ _, fun hexact did draws => ?_⟩
  · have hquota := hcaps.quota did
    rwa [hper] at hquota
  · exact (reached_regular hexact).expiredFirst did draws

/-! ## An addition that wraps -/

/-- The token bytes of a session in the runs below. -/
def sampleTokenBytes (b : UInt8) : ByteArr 32 := ⟨List.replicate 32 b, length_replicate32 b⟩

/-- A login of one DID at a second. -/
def login (b : UInt8) (now : Nat) : SessionOp :=
  .create (text "did:pkh:eip155:1:0xabc") ⟨now, sampleTokenBytes b, now⟩

/-- A time to live with which the expiry of a login at 1700000000 is the last second there is. -/
def longestTtl : Nat := 2 ^ 64 - 1700000001

/-- The second login wraps to an expiry at zero and the third takes the first one, which has not
expired, in place of it. -/
theorem capsRespected_wraps_fails : ¬ CapsRespected false := by
  intro h
  have hrun := (h longestTtl 8 2 [login 1 1700000000, login 2 1700000001] (by decide)
    (by decide)).2 (text "did:pkh:eip155:1:0xabc")
    ⟨1700000002, sampleTokenBytes 3, 1700000002⟩ (by decide)
  have hfirst := hrun.2 ⟨⟨text "did:pkh:eip155:1:0xabc", tokenOf (sampleTokenBytes 3),
      (1700000002 + longestTtl) % 2 ^ 64, 1700000002⟩, by decide +kernel⟩
    1700000002 (le_refl _)
    ⟨text "did:pkh:eip155:1:0xabc", tokenOf (sampleTokenBytes 1), 2 ^ 64 - 1, 1700000000⟩
    ⟨by decide +kernel, by decide, by decide +kernel, by decide +kernel⟩
    ⟨text "did:pkh:eip155:1:0xabc", tokenOf (sampleTokenBytes 2), 0, 1700000001⟩
    (by decide +kernel)
  exact absurd hfirst (by decide)

/-- The caps after three logins of a DID with a quota of two. -/
theorem caps_respected_logins :
    (reached false 3600 8 2 [login 1 1700000000, login 2 1700000001,
      login 3 1700000002]).backend.len ≤ 8 ∧
    (∀ did, ((reached false 3600 8 2 [login 1 1700000000, login 2 1700000001,
      login 3 1700000002]).backend.sessionsForDid did).length ≤ max 1 2) ∧
    (∀ did draws, RespectsLive false (reached false 3600 8 2 [login 1 1700000000,
      login 2 1700000001, login 3 1700000002]) did draws) ∧
    ∀ did draws, ExpiredFirst false (reached false 3600 8 2 [login 1 1700000000,
      login 2 1700000001, login 3 1700000002]) did draws := by
  obtain ⟨htotal, hquota, hlive, hexpired⟩ := caps_respected false 3600 8 2
    [login 1 1700000000, login 2 1700000001, login 3 1700000002]
  refine ⟨htotal, hquota, hlive, hexpired ?_⟩
  simp [login, Exact]

end SessionStore

end AquaAuth
