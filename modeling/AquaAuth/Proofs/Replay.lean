import AquaAuth.Proofs.Guard
import AquaAuth.Proofs.RoundTrip
set_option autoImplicit false
/-!
# Runs of verifications on one guard

A nonce stays in the guard from its acceptance to its expiry, unless a call evicts
it from a full guard of unexpired nonces as the first in the eviction order.
-/

namespace AquaAuth.HttpSig

open Support Support.Result NonceReplayGuard

variable {B : Build} {S : Sfv} {guard : NonceReplayGuard} {event : GuardEvent} {nonce : Str}
  {expiresAt now : Int} {request : SignedRequest} {opts : VerifyOptions}

/-! ## One event -/

/-- A verification that stops before the guard leaves it alone; the others call it. -/
theorem after_verify (guard : NonceReplayGuard) :
    guard.after B S (.verify request opts now) =
      match checkRequest B S request opts now with
      | .error _ => guard
      | .ok (params, _) => (guard.checkAndRecordAt params.nonce params.expires now).2 := by
  simp only [after, verifyRequestAt]
  cases checkRequest B S request opts now with
  | error e => rfl
  | ok result => rfl

/-- Whether an event is an accepted request that carries a nonce and an expiry. -/
def Accepts (B : Build) (S : Sfv) (guard : NonceReplayGuard) (nonce : Str) (expiresAt : Int) :
    GuardEvent → Prop
  | .verify request opts now =>
      (∃ principal, (verifyRequestAt B S request opts (some guard) now).1 = .ok principal) ∧
      ∃ label params, parseSignatureInput S request.signatureInput = .ok (label, params) ∧
        params.nonce = nonce ∧ params.expires = expiresAt
  | .cleanup _ => False

/-- What an acceptance did to the guard. -/
theorem after_of_accepts (h : Accepts B S guard nonce expiresAt event) :
    guard.seen.get nonce = none ∧
      guard.after B S event = (guard.checkAndRecordAt nonce expiresAt event.clock).2 := by
  cases event with
  | cleanup now => exact h.elim
  | verify request opts now =>
      obtain ⟨⟨principal, hok⟩, label, params, hparse, rfl, rfl⟩ := h
      obtain ⟨params', hcheck, hguard⟩ := verifyRequestAt_eq_ok.mp hok
      obtain ⟨label', signature, hchecked⟩ := checkRequest_eq_ok.mp hcheck
      obtain ⟨_, rfl⟩ := Prod.mk.inj (Except.ok.inj (hparse.symm.trans hchecked.input))
      refine ⟨checkAndRecordAt_eq_ok.mp (hguard guard rfl), ?_⟩
      rw [after_verify, hcheck]
      rfl

theorem get_after_of_accepts (h : Accepts B S guard nonce expiresAt event) :
    (guard.after B S event).seen.get nonce = some expiresAt := by
  obtain ⟨hnew, hafter⟩ := after_of_accepts h
  rw [hafter, checkAndRecordAt_new hnew, KeyedMap.get_insert_self]

/-- An event evicts a nonce: a call that is accepted finds the guard full of nonces
that have not expired, and this one first in the eviction order. -/
structure Evicts (B : Build) (S : Sfv) (guard : NonceReplayGuard) (nonce : Str)
    (expiresAt : Int) (event : GuardEvent) : Prop where
  call : ∃ nonce' expiresAt', Accepts B S guard nonce' expiresAt' event
  full : guard.capacity ≤ guard.seen.len
  live : ∀ nonce' expiresAt', guard.seen.get nonce' = some expiresAt' → event.clock < expiresAt'
  present : guard.seen.get nonce = some expiresAt
  first : ∀ nonce' expiresAt', guard.seen.get nonce' = some expiresAt' →
    evictionRank (nonce, expiresAt) ≤ evictionRank (nonce', expiresAt')
  gone : (guard.after B S event).seen.get nonce = none

theorem bounded_after (h : guard.Bounded) (event : GuardEvent) :
    (guard.after B S event).Bounded ∧ (guard.after B S event).capacity = guard.capacity := by
  cases event with
  | cleanup now => exact ⟨le_trans len_cleanupExpiredAt_le h, rfl⟩
  | verify request opts now =>
      rw [after_verify]
      cases checkRequest B S request opts now with
      | error e => exact ⟨h, rfl⟩
      | ok result => exact bounded_checkAndRecordAt h

/-- An event before its expiry keeps a nonce, or evicts it. -/
theorem get_after_or_evicts (hbounded : guard.Bounded)
    (hget : guard.seen.get nonce = some expiresAt)
    (hclock : event.clock < expiresAt) :
    (guard.after B S event).seen.get nonce = some expiresAt ∨
      Evicts B S guard nonce expiresAt event := by
  cases event with
  | cleanup now => exact .inl (get_cleanupExpiredAt_of_live hget hclock)
  | verify request opts now =>
      have hafter : guard.after B S (.verify request opts now) =
          match checkRequest B S request opts now with
          | .error _ => guard
          | .ok (params, _) => (guard.checkAndRecordAt params.nonce params.expires now).2 :=
        after_verify guard
      cases hcheck : checkRequest B S request opts now with
      | error e =>
          rw [hcheck] at hafter
          exact .inl (hafter ▸ hget)
      | ok result =>
          obtain ⟨params, principal⟩ := result
          rw [hcheck] at hafter
          dsimp only at hafter
          have hcalled : guard.Called params.nonce params.expires now
              (guard.checkAndRecordAt params.nonce params.expires now) :=
            called_checkAndRecordAt hbounded
          generalize houtcome : guard.checkAndRecordAt params.nonce params.expires now = outcome
            at hcalled hafter
          cases hcalled with
          | replayed _ => exact .inl (hafter ▸ hget)
          | @recorded room hnew hroom =>
              have hne : nonce ≠ params.nonce := by
                rintro rfl
                simp [hnew] at hget
              have hseen : (guard.after B S (.verify request opts now)).seen.get nonce =
                  room.seen.get nonce := by
                rw [hafter]
                change (room.seen.insert params.nonce params.expires).get nonce = _
                rw [KeyedMap.get_insert, if_neg hne]
              cases hroom with
              | spare _ => exact .inl (hseen.trans hget)
              | purged _ _ => exact .inl (hseen.trans (get_cleanupExpiredAt_of_live hget hclock))
              | @evicted hfull hlive entry hleast =>
                  by_cases hentry : entry.1 = nonce
                  · have hvalue : entry = (nonce, expiresAt) := by
                      have := KeyedMap.least_get hleast
                      rw [hentry, hget] at this
                      exact Prod.ext hentry (Option.some.inj this).symm
                    obtain ⟨label, signature, hchecked⟩ := checkRequest_eq_ok.mp hcheck
                    have haccepted : ∃ principal, (verifyRequestAt B S request opts (some guard)
                        now).1 = .ok principal := by
                      refine ⟨principal, verifyRequestAt_eq_ok.mpr ⟨params, hcheck, ?_⟩⟩
                      rintro g ⟨⟩
                      exact checkAndRecordAt_eq_ok.mpr hnew
                    refine .inr ⟨⟨params.nonce, params.expires, haccepted, label, params,
                      hchecked.input, rfl, rfl⟩, hfull, hlive, hget,
                      fun nonce' expiresAt' h => ?_, ?_⟩
                    · exact hvalue ▸ KeyedMap.least_le hleast h
                    · rw [hseen, hentry]
                      exact KeyedMap.get_remove_self _ _
                  · refine .inl (hseen.trans ?_)
                    change (guard.seen.remove entry.1).get nonce = _
                    rw [KeyedMap.get_remove, if_neg (Ne.symm hentry), hget]

/-! ## Runs -/

theorem bounded_afterAll (h : guard.Bounded) (events : List GuardEvent) :
    (guard.afterAll B S events).Bounded ∧
      (guard.afterAll B S events).capacity = guard.capacity := by
  induction events generalizing guard with
  | nil => exact ⟨h, rfl⟩
  | cons event events ih =>
      have hstep := bounded_after (B := B) (S := S) h event
      have hrest := ih hstep.1
      exact ⟨hrest.1, hrest.2.trans hstep.2⟩

theorem bounded_withCapacity (capacity : Nat) : (withCapacity capacity).Bounded :=
  Nat.zero_le _

/-- A nonce lost in a run before its expiry was evicted by one of its events. -/
theorem exists_evicts_of_lost {events : List GuardEvent} (hbounded : guard.Bounded)
    (hget : guard.seen.get nonce = some expiresAt)
    (hclock : ∀ event ∈ events, event.clock < expiresAt)
    (hlost : (guard.afterAll B S events).seen.get nonce = none) :
    ∃ before event rest, events = before ++ event :: rest ∧
      Evicts B S (guard.afterAll B S before) nonce expiresAt event := by
  induction events generalizing guard with
  | nil => simp [afterAll, hget] at hlost
  | cons event events ih =>
      rcases get_after_or_evicts (B := B) (S := S) hbounded hget
        (hclock event List.mem_cons_self) with hkept | hevicts
      · obtain ⟨before, event', rest, rfl, hevicts⟩ := ih (bounded_after hbounded event).1 hkept
          (fun e he => hclock e (List.mem_cons_of_mem event he)) hlost
        exact ⟨event :: before, event', rest, rfl, hevicts⟩
      · exact ⟨[], event, events, rfl, hevicts⟩

/-- The guard along a run of verifications and sweeps under a clock that never goes
back: it stays within its capacity, a nonce is accepted a second time before its
expiry only after an eviction, and a refused request leaves the guard as it was. -/
theorem guard_run_safe (capacity : Nat) (events : List GuardEvent)
    (hclock : (events.map GuardEvent.clock).Pairwise (· ≤ ·)) :
    (∀ before after, events = before ++ after →
      ((withCapacity capacity).afterAll B S before).seen.len ≤ max capacity 1) ∧
    (∀ before first middle second after nonce expiresAt expiresAt',
      events = before ++ first :: (middle ++ second :: after) →
      Accepts B S ((withCapacity capacity).afterAll B S before) nonce expiresAt first →
      Accepts B S ((withCapacity capacity).afterAll B S (before ++ first :: middle)) nonce
        expiresAt' second →
      second.clock < expiresAt →
      ∃ kept event rest, middle = kept ++ event :: rest ∧
        Evicts B S ((withCapacity capacity).afterAll B S (before ++ first :: kept)) nonce
          expiresAt event) ∧
    ∀ before request opts now after e,
      events = before ++ .verify request opts now :: after →
      (verifyRequestAt B S request opts (some ((withCapacity capacity).afterAll B S before))
        now).1 = .error e →
      (withCapacity capacity).afterAll B S (before ++ [.verify request opts now]) =
        (withCapacity capacity).afterAll B S before := by
  refine ⟨fun before _ _ => ?_, ?_, ?_⟩
  · have hbounded := bounded_afterAll (B := B) (S := S) (bounded_withCapacity capacity) before
    have hlen := hbounded.1
    rw [Bounded, hbounded.2] at hlen
    exact hlen
  · rintro before first middle second after nonce expiresAt expiresAt' rfl hfirst hsecond hlate
    have hbounded := (bounded_afterAll (B := B) (S := S) (bounded_withCapacity capacity) before).1
    have hearlier : ∀ event ∈ middle, event.clock < expiresAt := by
      intro event hevent
      simp only [List.map_append, List.map_cons, List.pairwise_append, List.pairwise_cons]
        at hclock
      have hle := hclock.2.1.2.2.2 event.clock (List.mem_map_of_mem hevent) second.clock
        List.mem_cons_self
      exact lt_of_le_of_lt hle hlate
    have hsplit : ∀ kept, (withCapacity capacity).afterAll B S (before ++ first :: kept) =
        (((withCapacity capacity).afterAll B S before).after B S first).afterAll B S kept := by
      intro kept
      simp [afterAll, List.foldl_append]
    have hlost := (after_of_accepts hsecond).1
    rw [hsplit] at hlost
    obtain ⟨kept, event, rest, hmiddle, hevicts⟩ := exists_evicts_of_lost
      (bounded_after hbounded first).1 (get_after_of_accepts hfirst) hearlier hlost
    exact ⟨kept, event, rest, hmiddle, hsplit kept ▸ hevicts⟩
  · rintro before request opts now after e rfl herror
    have hlast : (withCapacity capacity).afterAll B S (before ++ [.verify request opts now]) =
        ((withCapacity capacity).afterAll B S before).after B S (.verify request opts now) := by
      simp [afterAll, List.foldl_append]
    rw [hlast]
    generalize (withCapacity capacity).afterAll B S before = guard at herror
    rw [after_verify]
    cases hcheck : checkRequest B S request opts now with
    | error e => rfl
    | ok result =>
        cases hget : guard.seen.get result.1.nonce with
        | some known => simp [checkAndRecordAt_known hget]
        | none =>
            simp [verifyRequestAt, hcheck, checkAndRecordAt_new hget, Except.map] at herror

/-! ## A request presented twice -/

def keyRequest : SignedRequest where
  parts := keyParts
  signatureInput := text "sig1=" ++ keyList keyDid (text "n1")
  signature :=
    text "sig1=:yex+toHaqfE5no0fQ0FS1k5Q1e4kCDhrUCW3/bcQuewL" ++
      text "VyhcdqUHOttRnaeT636Vt1Ko51b4/YYvFf7tj59YAQ==:"

/-- A request that passes the checks passes them with the parameters it parses to. -/
theorem checkRequest_of_isOk {label : Str} {params : SignatureParams}
    (hok : (checkRequest B S request opts now).isOk = true)
    (hparse : parseSignatureInput S request.signatureInput = .ok (label, params)) :
    ∃ principal, checkRequest B S request opts now = .ok (params, principal) := by
  obtain ⟨⟨params', principal⟩, hcheck⟩ := isOk_iff.mp hok
  obtain ⟨label', signature, hchecked⟩ := checkRequest_eq_ok.mp hcheck
  obtain ⟨_, rfl⟩ := Prod.mk.inj (Except.ok.inj (hchecked.input.symm.trans hparse))
  exact ⟨principal, hcheck⟩

theorem parseSignatureInput_keyRequest :
    parseSignatureInput .reference keyRequest.signatureInput = .ok (signatureLabel, keyParams) := by
  decide +kernel

theorem checkRequest_keyRequest : ∃ principal,
    checkRequest keyBuild .reference keyRequest .aquaInternal 1700000000 =
      .ok (keyParams, principal) :=
  checkRequest_of_isOk (by decide +kernel) parseSignatureInput_keyRequest

private theorem accepts_keyRequest :
    Accepts keyBuild .reference (withCapacity 1) (text "n1") 1700000300
      (.verify keyRequest .aquaInternal 1700000000) := by
  obtain ⟨principal, hcheck⟩ := checkRequest_keyRequest
  refine ⟨⟨principal, verifyRequestAt_eq_ok.mpr ⟨keyParams, hcheck, ?_⟩⟩, signatureLabel,
    keyParams, parseSignatureInput_keyRequest, rfl, rfl⟩
  rintro g ⟨⟩
  exact checkAndRecordAt_eq_ok.mpr rfl

/-- A sweep between the two presentations does not let the second one through. -/
theorem guard_run_safe_key :
    ¬ Accepts keyBuild .reference ((withCapacity 1).afterAll keyBuild .reference
        ([] ++ .verify keyRequest .aquaInternal 1700000000 :: [.cleanup 1700000100]))
      (text "n1") 1700000300 (.verify keyRequest .aquaInternal 1700000299) := by
  intro hagain
  obtain ⟨kept, event, rest, hsweep, hevicts⟩ := (guard_run_safe (B := keyBuild) (S := .reference) 1
    [.verify keyRequest .aquaInternal 1700000000, .cleanup 1700000100,
      .verify keyRequest .aquaInternal 1700000299] (by decide)).2.1
    [] _ [.cleanup 1700000100] _ [] _ _ _ rfl accepts_keyRequest hagain (by decide)
  obtain ⟨_, _, hcall⟩ := hevicts.call
  have hmem : event ∈ [GuardEvent.cleanup 1700000100] := by rw [hsweep]; simp
  obtain rfl := List.mem_singleton.mp hmem
  exact hcall

end AquaAuth.HttpSig
