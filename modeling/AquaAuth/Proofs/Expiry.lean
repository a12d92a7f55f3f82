import AquaAuth.Proofs.Admission
import AquaAuth.Proofs.Challenges
import AquaAuth.Proofs.SessionBackend
import AquaAuth.Proofs.Sessions
set_option autoImplicit false
/-!
# Deadlines

A session is valid until an unsigned 64-bit sum, and a challenge until an instant of `chrono`
that a lifetime cast to `i64` is added to.  Both are exact below a bound of their own: past it the
sum wraps or panics, and the cast turns the lifetime into seconds back.
-/

namespace AquaAuth

open Support Support.Result

variable {B : Build} {overflowChecks : Bool} {did : Str} {ttlSecs now : Nat}

/-! ## Sessions -/

/-- The outcome of a `create` at a reading of the clock: an error, or a session valid for exactly
the lifetime.  A panic is neither. -/
def ExactSession (ttlSecs now : Nat) : Option (Except AuthError Session) → Prop
  | none => False
  | some (.error _) => True
  | some (.ok session) => session.createdAt = now ∧ session.validUntil = now + ttlSecs

/-- An addition either has the exact sum or panics or wraps, and the wrapped sum is another one. -/
theorem addU64_eq_some {sum : Nat} (h : addU64 overflowChecks now ttlSecs = some sum) :
    sum = now + ttlSecs ↔ now + ttlSecs < 2 ^ 64 := by
  unfold addU64 at h
  split_ifs at h with hfits hchecks
  · cases h
    exact iff_of_true rfl hfits
  · cases h
    apply iff_of_false
    · have := Nat.mod_lt (now + ttlSecs) (show 0 < 2 ^ 64 by decide)
      omega
    · exact hfits

theorem addU64_of_lt (h : now + ttlSecs < 2 ^ 64) :
    addU64 overflowChecks now ttlSecs = some (now + ttlSecs) := if_pos h

namespace BackedSessionStore

variable {σ : Type} {backend : SessionBackend σ} {store : BackedSessionStore σ}
  {draws : SessionDraws}

theorem ttlSecs_enforcePerDidCap :
    (store.enforcePerDidCap backend did).ttlSecs = store.ttlSecs := by
  unfold enforcePerDidCap
  cases store.overQuota backend did <;> rfl

theorem ttlSecs_room (purgeAt : Nat) : (store.room backend purgeAt).ttlSecs = store.ttlSecs := by
  unfold room
  split_ifs <;> rfl

theorem issue_exact_iff :
    ExactSession store.ttlSecs draws.now
        (store.issue backend overflowChecks did draws.tokenBytes draws.now).1 ↔
      draws.now + store.ttlSecs < 2 ^ 64 ∨ store.Refuses backend overflowChecks did draws := by
  unfold issue Refuses
  cases hsum : addU64 overflowChecks draws.now store.ttlSecs with
  | none =>
      have hlarge : ¬ draws.now + store.ttlSecs < 2 ^ 64 := by
        intro h
        rw [addU64_of_lt h] at hsum
        cases hsum
      simpa [ExactSession] using Nat.not_lt.mp hlarge
  | some validUntil =>
      have hexact := addU64_eq_some hsum
      dsimp only
      cases hinsert : (backend.insert store.contents
        ⟨did, tokenOf draws.tokenBytes, validUntil, draws.now⟩).1 with
      | ok _ => simp [ExactSession, Except.map, hinsert, hexact]
      | error e => simp [ExactSession, Except.map, hinsert]

/-- Over any backend, `create` keeps its promise when the store is full, the sum is in range, or
the backend refuses the session. -/
theorem create_exact_iff (backend : SessionBackend σ) (overflowChecks : Bool)
    (store : BackedSessionStore σ) (did : Str) (draws : SessionDraws) :
    ExactSession store.ttlSecs draws.now (store.create backend overflowChecks did draws).1 ↔
      (store.room backend draws.purgeAt).isFull backend = true ∨
        draws.now + store.ttlSecs < 2 ^ 64 ∨
        ((store.room backend draws.purgeAt).enforcePerDidCap backend did).Refuses backend
          overflowChecks did draws := by
  rw [create_eq]
  cases hfull : (store.room backend draws.purgeAt).isFull backend with
  | true => simp [ExactSession]
  | false =>
      have hissue := @issue_exact_iff overflowChecks did σ backend
        ((store.room backend draws.purgeAt).enforcePerDidCap backend did) draws
      rw [ttlSecs_enforcePerDidCap, ttlSecs_room] at hissue
      simpa [admitDid] using hissue

end BackedSessionStore

namespace SessionStore

variable {store : SessionStore} {draws : SessionDraws}

theorem issue_exact_iff (tokenBytes : ByteArr 32) :
    ExactSession store.ttlSecs now (store.issue overflowChecks did tokenBytes now).1 ↔
      now + store.ttlSecs < 2 ^ 64 := by
  unfold issue
  cases hsum : addU64 overflowChecks now store.ttlSecs with
  | none =>
      apply iff_of_false not_false
      intro h
      rw [addU64_of_lt h] at hsum
      cases hsum
  | some validUntil =>
      show now = now ∧ validUntil = now + store.ttlSecs ↔ _
      rw [addU64_eq_some hsum, and_iff_right rfl]

/-- Over the in-memory backend, which refuses nothing, the sum has to be in range unless the store
is full. -/
theorem create_exact_iff (overflowChecks : Bool) (store : SessionStore) (did : Str)
    (draws : SessionDraws) :
    ExactSession store.ttlSecs draws.now (store.create overflowChecks did draws).1 ↔
      store.maxSessions ≤ (store.cleanupExpired draws.purgeAt).backend.len ∨
        draws.now + store.ttlSecs < 2 ^ 64 := by
  have hcreates := creates_create overflowChecks store did draws
  generalize store.create overflowChecks did draws = outcome at hcreates
  cases hcreates with
  | rejected hfull => exact iff_of_true trivial (.inl hfull)
  | admitted hlen =>
      have hroom : (store.cleanupExpired draws.purgeAt).backend.len < store.maxSessions := by
        rcases room_cases store draws.purgeAt with hroom | hroom <;> rw [hroom] at hlen
        · exact len_cleanupExpired_le.trans_lt hlen
        · exact hlen
      have httl : ((store.room draws.purgeAt).enforcePerDidCap did).ttlSecs = store.ttlSecs := by
        rw [enforcePerDidCap, ttlSecs_evict, ttlSecs_room]
      rw [or_iff_right (Nat.not_le.mpr hroom), admitDid, ← httl]
      exact issue_exact_iff draws.tokenBytes

end SessionStore

/-! ## Challenges -/

/-- The outcome of a `create` at a reading of the clock: an error, or a challenge whose deadline is
the lifetime after the reading, in its record and in its message. -/
def ExactChallenge (B : Build) (store : ChallengeStore) (did : Str) (now : ClockReading) :
    Option (Except AuthError Challenge) → Prop
  | none => False
  | some (.error _) => True
  | some (.ok challenge) =>
      challenge.expiresAt = now.secs + store.ttlSecs ∧
        ∃ expires : DateTime, expires.timestamp = now.secs + store.ttlSecs ∧
          buildMessage B ⟨did, store.domain, store.uri, challenge.nonce, now.1, expires⟩ =
            .ok challenge.message

/-- The deadline is a second of the calendar. -/
def InCalendar (ttlSecs : Nat) (now : ClockReading) : Prop :=
  (now.secs : Int) + ttlSecs ≤ DateTime.lastSecond

/-- A lifetime that is a negative number once it is cast to `i64`, and that many seconds back is a
second of the calendar. -/
def CastsIntoPast (ttlSecs : Nat) (now : ClockReading) : Prop :=
  asI64 ttlSecs < 0 ∧
    -8334601228800 ≤ (now.1.leaveLeapSecond (asI64 ttlSecs)).1 + asI64 ttlSecs

theorem ClockReading.timestamp_eq (now : ClockReading) : now.1.timestamp = now.secs :=
  (Int.toNat_of_nonneg now.2).symm

theorem asI64_of_nonneg {n : Nat} (hlt : n < 2 ^ 64) (h : 0 ≤ asI64 n) : asI64 n = n := by
  unfold asI64 at h ⊢
  split_ifs at h ⊢ <;> omega

/-- An instant of the calendar is no witness to a deadline beyond it. -/
theorem InCalendar.of_timestamp {now : ClockReading} {expires : DateTime}
    (h : expires.timestamp = now.secs + ttlSecs) : InCalendar ttlSecs now := by
  have hlast := expires.inRange.2
  unfold InCalendar DateTime.lastSecond
  omega

namespace ChallengeStore

variable {store : ChallengeStore} {now : ClockReading}

theorem expiry_of_inCalendar (h : InCalendar store.ttlSecs now) :
    ∃ expires, store.expiry now = some expires ∧
      expires.timestamp = now.secs + store.ttlSecs := by
  unfold InCalendar DateTime.lastSecond at h
  have hcast : asI64 store.ttlSecs = store.ttlSecs := asI64_eq (by omega)
  have hspan : DateTime.durationSeconds store.ttlSecs = some (store.ttlSecs : Int) :=
    if_pos (by omega)
  obtain ⟨expires, hexpires, htimestamp⟩ := now.1.addSeconds_of_nonneg
    (show (0 : Int) ≤ store.ttlSecs by omega)
    (show now.1.timestamp + store.ttlSecs ≤ DateTime.lastSecond by
      rw [now.timestamp_eq]
      exact h)
  refine ⟨expires, ?_, ?_⟩
  · rw [expiry, hcast, hspan]
    exact hexpires
  · rw [htimestamp, now.timestamp_eq]

theorem expiry_isSome_of_ne (hne : asI64 store.ttlSecs ≠ 0) :
    (store.expiry now).isSome ↔
      (-9223372036854775 ≤ asI64 store.ttlSecs ∧ asI64 store.ttlSecs ≤ 9223372036854775) ∧
        -8334601228800 ≤ (now.1.leaveLeapSecond (asI64 store.ttlSecs)).1 + asI64 store.ttlSecs ∧
        (now.1.leaveLeapSecond (asI64 store.ttlSecs)).1 + asI64 store.ttlSecs ≤
          DateTime.lastSecond := by
  unfold expiry DateTime.durationSeconds
  split_ifs with hspan
  · rw [and_iff_right hspan]
    exact DateTime.isSome_addSeconds hne
  · exact iff_of_false Bool.false_ne_true fun h => hspan h.1

/-- The additions of `create` panic unless the deadline, or what the cast makes of it, is in the
calendar. -/
theorem expiry_isSome_iff :
    (store.expiry now).isSome ↔
      InCalendar store.ttlSecs now ∨ CastsIntoPast store.ttlSecs now := by
  constructor
  · intro hsome
    by_cases hpast : asI64 store.ttlSecs < 0
    · obtain ⟨_, hstart, _⟩ := (expiry_isSome_of_ne hpast.ne).mp hsome
      exact .inr ⟨hpast, hstart⟩
    · left
      have hcast := asI64_of_nonneg store.ttlLt (Int.not_lt.mp hpast)
      rcases (Int.not_lt.mp hpast).eq_or_lt with hzero | hpos
      · have hlast := now.1.inRange.2
        rw [now.timestamp_eq] at hlast
        unfold InCalendar DateTime.lastSecond
        omega
      · obtain ⟨_, _, hlast⟩ := (expiry_isSome_of_ne hpos.ne').mp hsome
        rw [now.1.leaveLeapSecond_of_pos hpos, now.timestamp_eq, hcast] at hlast
        exact hlast
  · rintro (hin | ⟨hpast, hstart⟩)
    · obtain ⟨expires, hexpires, _⟩ := expiry_of_inCalendar hin
      simp [hexpires]
    · have hlast := now.1.inRange.2
      have hnear := now.1.leaveLeapSecond_near (asI64 store.ttlSecs)
      apply (expiry_isSome_of_ne hpast.ne).mpr
      unfold DateTime.lastSecond
      omega

variable {draws : ChallengeDraws}

theorem asU64_eq {n : Nat} (h : n < 2 ^ 64) : asU64 n = n := by
  unfold asU64
  omega

theorem challengeFor_exact_iff {expires : DateTime} {nonceBytes : ByteArr 32}
    {challenge : Challenge} (hexpires : store.expiry now = some expires)
    (hbuilt : challengeFor B store did nonceBytes now expires = .ok challenge) :
    ExactChallenge B store did now (some (.ok challenge)) ↔ InCalendar store.ttlSecs now := by
  obtain ⟨message, hmessage, hchallenge⟩ := bind_eq_ok.mp hbuilt
  cases hchallenge
  constructor
  · rintro ⟨_, exact, htimestamp, _⟩
    exact InCalendar.of_timestamp htimestamp
  · intro hin
    obtain ⟨expires', hexpires', htimestamp⟩ := expiry_of_inCalendar hin
    cases hexpires.symm.trans hexpires'
    refine ⟨?_, expires, htimestamp, hmessage⟩
    have hsmall := expires.inRange.2
    show asU64 expires.timestamp = _
    rw [htimestamp, ← Nat.cast_add]
    exact asU64_eq (by omega)

theorem issue_exact_iff (hvalid : validateDidWellFormed B did = .ok ()) (nonceBytes : ByteArr 32) :
    ExactChallenge B store did now (store.issue B did nonceBytes now).1 ↔
      InCalendar store.ttlSecs now ∨ NamesNoChain did ∧ CastsIntoPast store.ttlSecs now := by
  have hpanics := @expiry_isSome_iff store now
  unfold issue
  cases hexpires : store.expiry now with
  | none =>
      rw [hexpires] at hpanics
      apply iff_of_false not_false
      rintro (hin | ⟨_, hpast⟩)
      · exact Bool.false_ne_true (hpanics.mpr (.inl hin))
      · exact Bool.false_ne_true (hpanics.mpr (.inr hpast))
  | some expires =>
      rw [hexpires] at hpanics
      have hbuilds := @buildMessage_isOk_iff_namesChain B
        ⟨did, store.domain, store.uri, nonceOf nonceBytes, now.1, expires⟩ hvalid
      cases hbuilt : challengeFor B store did nonceBytes now expires with
      | error e =>
          simp only [hbuilt]
          apply iff_of_true trivial
          have hchain : NamesNoChain did := by
            by_contra hnot
            obtain ⟨message, hmessage⟩ := hbuilds.mpr hnot
            simp [challengeFor, hmessage] at hbuilt
          exact (hpanics.mp rfl).imp_right fun hpast => ⟨hchain, hpast⟩
      | ok challenge =>
          simp only [hbuilt]
          obtain ⟨message, hmessage, _⟩ := bind_eq_ok.mp hbuilt
          have hchain : ¬ NamesNoChain did := hbuilds.mp ⟨message, hmessage⟩
          rw [challengeFor_exact_iff hexpires hbuilt, or_iff_left fun h => hchain h.1]

theorem exactChallenge_makeRoom (c : Nat) :
    ExactChallenge B (store.makeRoom c) did now = ExactChallenge B store did now := by
  rw [makeRoom_eq]
  rfl

/-- `create` keeps its promise for a DID it refuses, for a deadline of the calendar, and when the
message cannot be built for a deadline the cast moves into the past. -/
theorem create_exact_iff (B : Build) (store : ChallengeStore) (did : Str)
    (draws : ChallengeDraws) :
    ExactChallenge B store did draws.now (store.create B did draws).1 ↔
      validateDidWellFormed B did ≠ .ok () ∨ InCalendar store.ttlSecs draws.now ∨
        NamesNoChain did ∧ CastsIntoPast store.ttlSecs draws.now := by
  unfold create
  cases hvalid : validateDidWellFormed B did with
  | error e => exact iff_of_true trivial (.inl (by simp))
  | ok _ =>
      rw [or_iff_right (by simp)]
      have hissue := @issue_exact_iff B did (store.makeRoom draws.purgeAt.secs) draws.now hvalid
        draws.nonceBytes
      rwa [ttlSecs_makeRoom, exactChallenge_makeRoom] at hissue

end ChallengeStore

/-! ## Both stores -/

/-- Every outcome of `SessionStore::create` is an error or has the exact deadline. -/
def SessionDeadlinesExact (overflowChecks : Bool) : Prop :=
  ∀ (store : SessionStore) (did : Str) (draws : SessionDraws), store.ttlSecs < 2 ^ 64 →
    ExactSession store.ttlSecs draws.now (store.create overflowChecks did draws).1

/-- Every outcome of `ChallengeStore::create` is an error or has the exact deadline. -/
def ChallengeDeadlinesExact (B : Build) : Prop :=
  ∀ (store : ChallengeStore) (did : Str) (draws : ChallengeDraws),
    ExactChallenge B store did draws.now (store.create B did draws).1

/-- Exactly when a deadline is exact: over the in-memory backend, over any backend, and in the
challenge store. -/
theorem deadlines_exact_iff (B : Build) (overflowChecks : Bool) (did : Str) :
    (∀ (store : SessionStore) (draws : SessionDraws),
      ExactSession store.ttlSecs draws.now (store.create overflowChecks did draws).1 ↔
        store.maxSessions ≤ (store.cleanupExpired draws.purgeAt).backend.len ∨
          draws.now + store.ttlSecs < 2 ^ 64) ∧
    (∀ (σ : Type) (backend : SessionBackend σ) (store : BackedSessionStore σ)
        (draws : SessionDraws),
      ExactSession store.ttlSecs draws.now (store.create backend overflowChecks did draws).1 ↔
        (store.room backend draws.purgeAt).isFull backend = true ∨
          draws.now + store.ttlSecs < 2 ^ 64 ∨
          ((store.room backend draws.purgeAt).enforcePerDidCap backend did).Refuses backend
            overflowChecks did draws) ∧
    ∀ (store : ChallengeStore) (draws : ChallengeDraws),
      ExactChallenge B store did draws.now (store.create B did draws).1 ↔
        validateDidWellFormed B did ≠ .ok () ∨ InCalendar store.ttlSecs draws.now ∨
          NamesNoChain did ∧ CastsIntoPast store.ttlSecs draws.now :=
  ⟨fun store draws => store.create_exact_iff overflowChecks did draws,
    fun _ backend store draws => store.create_exact_iff backend overflowChecks did draws,
    fun store draws => store.create_exact_iff B did draws⟩

/-! ### A lifetime an hour short of `u64::MAX` -/

/-- The largest number of seconds but an hour. -/
def hugeTtl : Nat := 2 ^ 64 - 3600

def hugeSessionStore : SessionStore := .withCapacity hugeTtl 8192 64

def hugeChallengeStore : ChallengeStore :=
  .withCapacity hugeTtl (by decide) (text "aqua-node") (text "http://127.0.0.1:3000") 8192

def hugeSessionDraws : SessionDraws := ⟨1700000000, sampleDraws.nonceBytes, 1700000000⟩

/-- A build with overflow checks panics; without them the session, like the challenge, has expired
an hour before it is issued. -/
theorem deadlines_exact_fails :
    ¬ SessionDeadlinesExact false ∧ ¬ SessionDeadlinesExact true ∧
      ¬ ChallengeDeadlinesExact keylessBuild := by
  refine ⟨fun h => ?_, fun h => ?_, fun h => ?_⟩
  · have hexact := h hugeSessionStore mainnetDid hugeSessionDraws (by decide)
    have hcreate : (hugeSessionStore.create false mainnetDid hugeSessionDraws).1 =
        some (.ok
          ⟨mainnetDid, tokenOf hugeSessionDraws.tokenBytes, 1699996400, 1700000000⟩) := by
      decide +kernel
    rw [hcreate] at hexact
    exact absurd hexact.2 (by decide)
  · have hexact := h hugeSessionStore mainnetDid hugeSessionDraws (by decide)
    have hcreate : (hugeSessionStore.create true mainnetDid hugeSessionDraws).1 = none := by
      decide +kernel
    rwa [hcreate] at hexact
  · have hexact := h hugeChallengeStore mainnetDid sampleDraws
    have hcreate : ((hugeChallengeStore.create keylessBuild mainnetDid sampleDraws).1.bind
        Except.toOption).map Challenge.expiresAt = some 1699996400 := by decide +kernel
    cases hresult : (hugeChallengeStore.create keylessBuild mainnetDid sampleDraws).1 with
    | none => simp [hresult] at hcreate
    | some result =>
        cases result with
        | error e => simp [hresult, Except.toOption] at hcreate
        | ok challenge =>
            rw [hresult] at hexact hcreate
            have hexpires : challenge.expiresAt = 1699996400 := Option.some.inj hcreate
            have hsum := hexact.1
            rw [hexpires] at hsum
            exact absurd hsum (by decide)

end AquaAuth
