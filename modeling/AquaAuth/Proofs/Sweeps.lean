import AquaAuth.Proofs.SessionLifetime
import AquaAuth.Proofs.Challenges
set_option autoImplicit false
/-!
# Nobody notices a sweep

Two runs of a store that make the same calls and sweep at different times agree in what a
sweep at the current reading leaves, so they give the same answers.  A session store does
because eviction commutes with a sweep, a challenge store because it evicts after a purge.
-/

namespace AquaAuth

open Support

/-- Two results of `validate`: equal, or refusals that both are among the given ones. -/
def SameVerdict {α : Type} (refusals : List AuthError) (a b : Except AuthError α) : Prop :=
  a = b ∨ (∃ e ∈ refusals, a = .error e) ∧ ∃ e ∈ refusals, b = .error e

theorem SameVerdict.of_common {α : Type} {refusals : List AuthError} {a b r : Except AuthError α}
    (ha : SameVerdict refusals a r) (hb : SameVerdict refusals b r) : SameVerdict refusals a b := by
  rcases ha with rfl | ⟨ha, hr⟩
  · rcases hb with rfl | ⟨hb, hr⟩
    · exact .inl rfl
    · exact .inr ⟨hr, hb⟩
  · rcases hb with rfl | ⟨hb, -⟩
    · exact .inr ⟨ha, hr⟩
    · exact .inr ⟨ha, hb⟩

/-! ## The challenge store -/

def ChallengeOp.isSweep : ChallengeOp → Bool
  | .cleanupExpired _ => true
  | _ => false

def SameChallengeAnswer : ChallengeAnswer → ChallengeAnswer → Prop
  | .created a, .created b => a = b
  | .validated a, .validated b => SameVerdict [.challengeNotFound, .challengeExpired] a b
  | a, b => a = b

namespace ChallengeStore

variable {B : Build} {store store' : ChallengeStore} {c c' now : Nat}

/-- Two stores that a sweep at `c` makes equal. -/
def SameLive (c : Nat) (store store' : ChallengeStore) : Prop :=
  store.cleanupExpired c = store'.cleanupExpired c

theorem SameLive.mono (hle : c ≤ c') (h : SameLive c store store') : SameLive c' store store' := by
  calc store.cleanupExpired c'
      = (store.cleanupExpired c).cleanupExpired c' := (cleanupExpired_cleanupExpired hle).symm
    _ = (store'.cleanupExpired c).cleanupExpired c' :=
      congrArg (fun s => cleanupExpired s c') h
    _ = store'.cleanupExpired c' := cleanupExpired_cleanupExpired hle

theorem SameLive.makeRoom (h : SameLive c store store') :
    SameLive c (store.makeRoom c) (store'.makeRoom c) := by
  show (store.makeRoom c).cleanupExpired c = (store'.makeRoom c).cleanupExpired c
  rw [cleanupExpired_makeRoom, cleanupExpired_makeRoom, h]

theorem insert_cleanupExpired (hle : c ≤ c') (challenge : Challenge) :
    { store with challenges := store.challenges.insert challenge.nonce challenge
      : ChallengeStore }.cleanupExpired c' =
    { store with challenges := (store.cleanupExpired c).challenges.insert challenge.nonce challenge
      : ChallengeStore }.cleanupExpired c' := by
  have hsweep : (store.cleanupExpired c).cleanupExpired c' = store.cleanupExpired c' :=
    cleanupExpired_cleanupExpired hle
  have hrest := congrArg challenges hsweep
  simp only [cleanupExpired] at hrest ⊢
  rw [KeyedMap.retain_insert, KeyedMap.retain_insert, hrest]

/-- The insertion depends on what a sweep leaves. -/
theorem issue_cleanupExpired (hle : c ≤ c') (did : Str) (nonceBytes : ByteArr 32)
    (reading : ClockReading) :
    (store.issue B did nonceBytes reading).1 =
        ((store.cleanupExpired c).issue B did nonceBytes reading).1 ∧
      (store.issue B did nonceBytes reading).2.cleanupExpired c' =
        ((store.cleanupExpired c).issue B did nonceBytes reading).2.cleanupExpired c' := by
  have hrest : store.cleanupExpired c' = (store.cleanupExpired c).cleanupExpired c' :=
    (cleanupExpired_cleanupExpired hle).symm
  cases hexpiry : store.expiry reading with
  | none =>
      have hexpiry' : (store.cleanupExpired c).expiry reading = none := hexpiry
      simp only [issue, hexpiry, hexpiry']
      exact ⟨trivial, hrest⟩
  | some expires =>
      have hexpiry' : (store.cleanupExpired c).expiry reading = some expires := hexpiry
      cases hbuild : challengeFor B store did nonceBytes reading expires with
      | error e =>
          have hbuild' : challengeFor B (store.cleanupExpired c) did nonceBytes reading expires =
              .error e := hbuild
          simp only [issue, hexpiry, hexpiry', hbuild, hbuild']
          exact ⟨trivial, hrest⟩
      | ok challenge =>
          have hbuild' : challengeFor B (store.cleanupExpired c) did nonceBytes reading expires =
              .ok challenge := hbuild
          simp only [issue, hexpiry, hexpiry', hbuild, hbuild']
          exact ⟨trivial, insert_cleanupExpired hle challenge⟩

theorem SameLive.issue (h : SameLive c store store') (hle : c ≤ c') (did : Str)
    (nonceBytes : ByteArr 32) (reading : ClockReading) :
    (store.issue B did nonceBytes reading).1 = (store'.issue B did nonceBytes reading).1 ∧
      SameLive c' (store.issue B did nonceBytes reading).2
        (store'.issue B did nonceBytes reading).2 := by
  have hleft := @issue_cleanupExpired B store c c' hle did nonceBytes reading
  have hright := @issue_cleanupExpired B store' c c' hle did nonceBytes reading
  rw [show store.cleanupExpired c = store'.cleanupExpired c from h] at hleft
  exact ⟨hleft.1.trans hright.1.symm, hleft.2.trans hright.2.symm⟩

theorem SameLive.create {draws : ChallengeDraws} (h : SameLive c store store')
    (hpurge : c ≤ draws.purgeAt.secs) (hnow : draws.purgeAt.secs ≤ draws.now.secs) (did : Str) :
    (store.create B did draws).1 = (store'.create B did draws).1 ∧
      SameLive draws.now.secs (store.create B did draws).2 (store'.create B did draws).2 := by
  unfold ChallengeStore.create
  cases validateDidWellFormed B did with
  | error e => exact ⟨rfl, h.mono (hpurge.trans hnow)⟩
  | ok _ =>
      have hroom := (h.mono hpurge).makeRoom
      exact hroom.issue hnow did draws.nonceBytes draws.now

theorem get_cleanupExpired {nonce : Str} :
    (store.cleanupExpired c).challenges.get nonce =
      (store.challenges.get nonce).filter fun challenge => c < challenge.expiresAt :=
  KeyedMap.get_retain _ _ _

/-- A challenge is found and unexpired, or the call is refused. -/
theorem validate_fst (store : ChallengeStore) (nonce : Str) (now : Nat) :
    SameVerdict [.challengeNotFound, .challengeExpired] (store.validate nonce now).1
      (((store.cleanupExpired now).challenges.get nonce).elim (.error .challengeNotFound) .ok) := by
  rw [get_cleanupExpired]
  unfold validate checkExpiry
  cases store.challenges.get nonce with
  | none => exact .inl rfl
  | some challenge =>
      by_cases hexpired : challenge.expiresAt ≤ now
      · refine .inr ⟨⟨_, by simp, if_pos hexpired⟩, ⟨.challengeNotFound, by simp, ?_⟩⟩
        rw [Option.filter_some, if_neg (by simpa using hexpired)]
        rfl
      · refine .inl ?_
        rw [Option.filter_some, if_pos (by simpa using hexpired)]
        exact if_neg hexpired

theorem validate_snd (store : ChallengeStore) (nonce : Str) (now : Nat) :
    (store.validate nonce now).2 = store.removeVictim (some nonce) := by
  unfold validate
  cases hget : store.challenges.get nonce with
  | none => simp only [removeVictim, KeyedMap.remove_eq_self_of_absent hget]
  | some challenge => rfl

theorem SameLive.validate {nonce : Str} (h : SameLive c store store') (hle : c ≤ now) :
    SameVerdict [.challengeNotFound, .challengeExpired] (store.validate nonce now).1
        (store'.validate nonce now).1 ∧
      SameLive now (store.validate nonce now).2 (store'.validate nonce now).2 := by
  have hlive : store.cleanupExpired now = store'.cleanupExpired now := h.mono hle
  refine ⟨?_, ?_⟩
  · have hleft := validate_fst store nonce now
    rw [hlive] at hleft
    exact hleft.of_common (validate_fst store' nonce now)
  · show (store.validate nonce now).2.cleanupExpired now =
      (store'.validate nonce now).2.cleanupExpired now
    rw [validate_snd, validate_snd, cleanupExpired_removeVictim, cleanupExpired_removeVictim, hlive]

/-- Two runs of a challenge store that differ in their sweeps. -/
theorem sweeps_unnoticed {ops ops' : List ChallengeOp}
    (hsame : ops.filter (fun op => !op.isSweep) = ops'.filter fun op => !op.isSweep)
    (hops : (challengeService B).Chronological c ops)
    (hops' : (challengeService B).Chronological c ops') :
    List.Forall₂ (fun a b => a.1 = b.1 ∧ SameChallengeAnswer a.2 b.2)
      ((challengeService B).audible ChallengeOp.isSweep store ops)
      ((challengeService B).audible ChallengeOp.isSweep store ops') := by
  have hmeets : ∀ ops, (challengeService B).Meets (fun _ _ => True) store ops := fun ops =>
    Service.meets_of_forall (P := fun _ => True) (G := fun _ => True)
      (fun _ _ _ _ => ⟨trivial, trivial⟩) (fun _ _ => trivial) trivial
  apply Service.audible_related (R := SameLive) (E := fun _ => SameChallengeAnswer)
    ?symm ?sweep ?both ?mono hsame hops hops' (hmeets ops) (hmeets ops') rfl
  case symm => exact fun _ _ _ h => Eq.symm h
  case mono => exact fun _ _ _ _ hle h => h.mono hle
  case sweep =>
    intro c store store' op h hsweep
    cases op with
    | cleanupExpired now =>
        show ((store.cleanupExpired now).cleanupExpired (max c now)) =
          store'.cleanupExpired (max c now)
        rw [cleanupExpired_cleanupExpired (le_max_right c now)]
        exact h.mono (le_max_left c now)
    | create did draws => cases hsweep
    | validate nonce now => cases hsweep
  case both =>
    intro c store store' op h hsweep htimely _ _
    cases op with
    | cleanupExpired now => cases hsweep
    | create did draws =>
        have hpairs : ([c, draws.purgeAt.secs, draws.now.secs] : List Nat).Pairwise (· ≤ ·) :=
          htimely
        simp only [List.pairwise_cons, List.mem_cons] at hpairs
        exact h.create (hpairs.1 _ (.inl rfl)) (hpairs.2.1 _ (.inl rfl)) did
    | validate nonce now =>
        have hpairs : ([c, now] : List Nat).Pairwise (· ≤ ·) := htimely
        simp only [List.pairwise_cons, List.mem_cons] at hpairs
        exact h.validate (hpairs.1 _ (.inl rfl))

end ChallengeStore

/-! ## The session store -/

def SessionOp.isSweep : SessionOp → Bool
  | .cleanupExpired _ => true
  | _ => false

/-- The answers of the calls that are not sweeps.  How many sessions a revocation removed may
differ: expired ones count. -/
def SameSessionAnswer : SessionAnswer → SessionAnswer → Prop
  | .created a, .created b => a = b
  | .validated a, .validated b => SameVerdict [.sessionNotFound, .sessionExpired] a b
  | .revoked _, .revoked _ => True
  | .revokedAll _, .revokedAll _ => True
  | a, b => a = b

namespace SessionStore

variable {store store' : SessionStore} {c c' now : Nat} {overflowChecks : Bool}

theorem cleanupExpired_keep (p : Session → Bool) :
    (store.keep p).cleanupExpired c = (store.cleanupExpired c).keep p := by
  simp only [cleanupExpired_eq_keep, keep, InMemoryBackend.retain_retain, Bool.and_comm]

theorem insert_cleanupExpired (h : store.cleanupExpired c = store'.cleanupExpired c)
    (session : Session) :
    { store with backend := store.backend.insert session : SessionStore }.cleanupExpired c =
      { store' with backend := store'.backend.insert session : SessionStore }.cleanupExpired c := by
  have hbackend : store.backend.retainLive c = store'.backend.retainLive c :=
    congrArg SessionStore.backend h
  have hinsert : (store.backend.insert session).retainLive c =
      (store'.backend.insert session).retainLive c := by
    simp only [InMemoryBackend.retainLive] at hbackend ⊢
    rw [InMemoryBackend.retain_insert, InMemoryBackend.retain_insert, hbackend]
  have hlimits := congrArg (fun s => (s.ttlSecs, s.maxSessions, s.maxSessionsPerDid)) h
  simp only [cleanupExpired, Prod.mk.injEq] at hlimits
  simp only [cleanupExpired, InMemoryBackend.purgeExpired_snd, hinsert, hlimits]

/-- `create` depends on what a sweep at its first reading leaves. -/
theorem create_cleanupExpired {draws : SessionDraws} (h : store.Regular)
    (hpurge : draws.purgeAt ≤ draws.now) (hsum : draws.now + store.ttlSecs < 2 ^ 64) (did : Str) :
    (store.create overflowChecks did draws).1 =
        ((store.cleanupExpired draws.purgeAt).create overflowChecks did draws).1 ∧
      (store.create overflowChecks did draws).2.cleanupExpired draws.now =
        ((store.cleanupExpired draws.purgeAt).create overflowChecks did draws).2.cleanupExpired
          draws.now := by
  have hidem : (store.cleanupExpired draws.purgeAt).cleanupExpired draws.purgeAt =
      store.cleanupExpired draws.purgeAt := cleanupExpired_cleanupExpired (le_refl _)
  have hregular : (store.cleanupExpired draws.purgeAt).Regular :=
    ⟨h.quota.keep _, h.sharedTtl.keep _⟩
  have hcreates := creates_create overflowChecks store did draws
  have hcreates' := creates_create overflowChecks (store.cleanupExpired draws.purgeAt) did draws
  generalize store.create overflowChecks did draws = outcome at hcreates ⊢
  generalize (store.cleanupExpired draws.purgeAt).create overflowChecks did draws = outcome'
    at hcreates' ⊢
  -- Both are full after the purge or neither is.
  have hroom : ∀ store : SessionStore,
      (store.room draws.purgeAt).backend.len < store.maxSessions →
        (store.cleanupExpired draws.purgeAt).backend.len < store.maxSessions := by
    intro store hlt
    rcases room_cases store draws.purgeAt with hroom | hroom <;> rw [hroom] at hlt
    · exact len_cleanupExpired_le.trans_lt hlt
    · exact hlt
  cases hcreates with
  | rejected hfull =>
      cases hcreates' with
      | rejected _ => exact ⟨rfl, by rw [hidem]⟩
      | admitted hlen =>
          have hlt := hroom _ hlen
          rw [hidem, maxSessions_cleanupExpired] at hlt
          omega
  | admitted hlen =>
      have hlt := hroom _ hlen
      cases hcreates' with
      | rejected hfull =>
          rw [hidem, maxSessions_cleanupExpired] at hfull
          omega
      | admitted hlen' =>
          have hsum' := hsum
          rw [← ttlSecs_room draws.purgeAt] at hsum
          rw [← ttlSecs_cleanupExpired (c := draws.purgeAt), ← ttlSecs_room draws.purgeAt] at hsum'
          rw [admitDid_eq overflowChecks did hsum, admitDid_eq overflowChecks did hsum']
          simp only [ttlSecs_room, ttlSecs_cleanupExpired]
          refine ⟨trivial, insert_cleanupExpired ?_ _⟩
          rw [enforcePerDidCap_cleanupExpired (h.room _),
            enforcePerDidCap_cleanupExpired (hregular.room _), cleanupExpired_room hpurge,
            cleanupExpired_room hpurge, cleanupExpired_cleanupExpired hpurge]

/-- Two regular stores that a sweep at `c` makes equal. -/
structure SameLive (c : Nat) (store store' : SessionStore) : Prop where
  live : store.cleanupExpired c = store'.cleanupExpired c
  regular : store.Regular
  regular' : store'.Regular

theorem SameLive.mono (hle : c ≤ c') (h : SameLive c store store') : SameLive c' store store' := by
  refine ⟨?_, h.regular, h.regular'⟩
  calc store.cleanupExpired c'
      = (store.cleanupExpired c).cleanupExpired c' := (cleanupExpired_cleanupExpired hle).symm
    _ = (store'.cleanupExpired c).cleanupExpired c' :=
      congrArg (fun s => cleanupExpired s c') h.live
    _ = store'.cleanupExpired c' := cleanupExpired_cleanupExpired hle

theorem SameLive.ttlSecs_eq (h : SameLive c store store') : store.ttlSecs = store'.ttlSecs := by
  have httl := congrArg SessionStore.ttlSecs h.live
  exact httl

theorem SameLive.keep (h : SameLive c store store') (p : Session → Bool) :
    SameLive c (store.keep p) (store'.keep p) := by
  refine ⟨?_, ⟨h.regular.quota.keep p, h.regular.sharedTtl.keep p⟩,
    ⟨h.regular'.quota.keep p, h.regular'.sharedTtl.keep p⟩⟩
  rw [cleanupExpired_keep, cleanupExpired_keep, h.live]

theorem SameLive.create {draws : SessionDraws} (h : SameLive c store store')
    (hc : c ≤ draws.purgeAt) (hpurge : draws.purgeAt ≤ draws.now)
    (hsum : draws.now + store.ttlSecs < 2 ^ 64) (did : Str) :
    (store.create overflowChecks did draws).1 = (store'.create overflowChecks did draws).1 ∧
      (store.create overflowChecks did draws).2.cleanupExpired draws.now =
        (store'.create overflowChecks did draws).2.cleanupExpired draws.now := by
  have hleft := @create_cleanupExpired store overflowChecks draws h.regular hpurge hsum did
  rw [h.ttlSecs_eq] at hsum
  have hright := @create_cleanupExpired store' overflowChecks draws h.regular' hpurge hsum did
  rw [(h.mono hc).live] at hleft
  exact ⟨hleft.1.trans hright.1.symm, hleft.2.trans hright.2.symm⟩

theorem validate_fst (store : SessionStore) (token : Str) (now : Nat) :
    SameVerdict [.sessionNotFound, .sessionExpired] (store.validate token now).1
      (((store.cleanupExpired now).backend.get token).elim (.error .sessionNotFound)
        fun session => .ok session.did) := by
  rw [get_cleanupExpired]
  unfold SessionStore.validate
  cases store.backend.get token with
  | none => exact .inl rfl
  | some session =>
      by_cases hexpired : session.validUntil ≤ now
      · refine .inr ⟨⟨.sessionExpired, by simp, by simp [hexpired]⟩,
          ⟨.sessionNotFound, by simp, ?_⟩⟩
        rw [Option.filter_some, if_neg (by simpa using hexpired)]
        rfl
      · refine .inl ?_
        rw [Option.filter_some, if_pos (by simpa using hexpired)]
        simp [hexpired]

theorem validate_snd (store : SessionStore) (token : Str) (now : Nat) :
    (store.validate token now).2.cleanupExpired now = store.cleanupExpired now := by
  unfold SessionStore.validate
  cases hget : store.backend.get token with
  | none => rfl
  | some session =>
      dsimp only
      split_ifs with hexpired
      · have habsent : (store.backend.retainLive now).get token = none := by
          rw [InMemoryBackend.retainLive, InMemoryBackend.get_retain, hget, Option.filter_some,
            if_neg (by simpa using hexpired)]
        have hbackend : (store.backend.erase token).retainLive now =
            store.backend.retainLive now := by
          rw [InMemoryBackend.retainLive, InMemoryBackend.retain_erase]
          exact InMemoryBackend.erase_of_absent habsent
        simp only [cleanupExpired, InMemoryBackend.remove, InMemoryBackend.purgeExpired_snd,
          hbackend]
      · rfl

theorem listSessions_eq (store : SessionStore) (now : Nat) :
    store.listSessions now =
      (store.cleanupExpired now).backend.all.map fun s => ⟨s.did, s.createdAt, s.validUntil⟩ := by
  rw [backend_cleanupExpired, InMemoryBackend.all_retain]
  rfl

theorem revoke_snd (store : SessionStore) (token : Str) :
    (store.revoke token).2 = store.keep fun s => s.token ≠ token := by
  simp only [revoke, keep, InMemoryBackend.remove, InMemoryBackend.erase_eq_retain]

theorem revokeAllForDid_snd (store : SessionStore) (did : Str) :
    (store.revokeAllForDid did).2 = store.keep fun s => s.did ≠ did := by
  simp only [revokeAllForDid, keep, InMemoryBackend.removeAllForDid_snd]

/-- A call made on both sides of a pair of stores that a sweep makes equal. -/
theorem SameLive.call {op : SessionOp} (h : SameLive c store store')
    (htimely : (sessionService overflowChecks).Timely c op)
    (hsum : op.Representable store.ttlSecs) (hcall : op.isSweep = false) :
    SameSessionAnswer (store.call overflowChecks op).1 (store'.call overflowChecks op).1 ∧
      SameLive ((sessionService overflowChecks).clock c op) (store.call overflowChecks op).2
        (store'.call overflowChecks op).2 := by
  have hsum' := hsum
  rw [h.ttlSecs_eq] at hsum'
  have hregular : (store.call overflowChecks op).2.Regular :=
    h.regular.call op (exact_of_representable hsum)
  have hregular' : (store'.call overflowChecks op).2.Regular :=
    h.regular'.call op (exact_of_representable hsum')
  cases op with
  | create did draws =>
      have hpairs : ([c, draws.purgeAt, draws.now] : List Nat).Pairwise (· ≤ ·) := htimely
      simp only [List.pairwise_cons, List.mem_cons] at hpairs
      obtain ⟨hresult, hlive⟩ := @SameLive.create store store' c overflowChecks draws h
        (hpairs.1 _ (.inl rfl)) (hpairs.2.1 _ (.inl rfl)) hsum did
      exact ⟨hresult, ⟨hlive, hregular, hregular'⟩⟩
  | validate token now =>
      have hpairs : ([c, now] : List Nat).Pairwise (· ≤ ·) := htimely
      simp only [List.pairwise_cons, List.mem_cons] at hpairs
      have hlive := (h.mono (hpairs.1 _ (.inl rfl))).live
      refine ⟨?_, ⟨?_, hregular, hregular'⟩⟩
      · have hleft := validate_fst store token now
        rw [hlive] at hleft
        exact hleft.of_common (validate_fst store' token now)
      · calc (store.validate token now).2.cleanupExpired now
            = store.cleanupExpired now := validate_snd store token now
          _ = store'.cleanupExpired now := hlive
          _ = (store'.validate token now).2.cleanupExpired now :=
            (validate_snd store' token now).symm
  | revoke token =>
      refine ⟨trivial, ?_⟩
      show SameLive c (store.revoke token).2 (store'.revoke token).2
      rw [revoke_snd, revoke_snd]
      exact h.keep _
  | revokeAllForDid did =>
      refine ⟨trivial, ?_⟩
      show SameLive c (store.revokeAllForDid did).2 (store'.revokeAllForDid did).2
      rw [revokeAllForDid_snd, revokeAllForDid_snd]
      exact h.keep _
  | listSessions now =>
      have hpairs : ([c, now] : List Nat).Pairwise (· ≤ ·) := htimely
      simp only [List.pairwise_cons, List.mem_cons] at hpairs
      have hlive := h.mono (hpairs.1 _ (.inl rfl))
      refine ⟨?_, hlive⟩
      show SessionAnswer.listed _ = SessionAnswer.listed _
      rw [listSessions_eq, listSessions_eq, hlive.live]
  | cleanupExpired now => cases hcall

/-- Two runs of a session store that differ in their sweeps. -/
theorem sweeps_unnoticed {ops ops' : List SessionOp} (hregular : store.Regular)
    (hsame : ops.filter (fun op => !op.isSweep) = ops'.filter fun op => !op.isSweep)
    (hops : (sessionService overflowChecks).Chronological c ops)
    (hops' : (sessionService overflowChecks).Chronological c ops')
    (hsum : ∀ op ∈ ops, op.Representable store.ttlSecs) :
    List.Forall₂ (fun a b => a.1 = b.1 ∧ SameSessionAnswer a.2 b.2)
      ((sessionService overflowChecks).audible SessionOp.isSweep store ops)
      ((sessionService overflowChecks).audible SessionOp.isSweep store ops') := by
  have hsum' : ∀ op ∈ ops', op.Representable store.ttlSecs := by
    intro op hop
    cases hsweep : op.isSweep with
    | true => cases op <;> first | exact trivial | cases hsweep
    | false =>
        have hmem : op ∈ ops'.filter fun op => !op.isSweep :=
          List.mem_filter.mpr ⟨hop, by simp [hsweep]⟩
        rw [← hsame] at hmem
        exact hsum op (List.mem_of_mem_filter hmem)
  have hmeets : ∀ ops : List SessionOp, (∀ op ∈ ops, op.Representable store.ttlSecs) →
      (sessionService overflowChecks).Meets (fun store op => op.Representable store.ttlSecs)
        store ops := fun ops hops =>
    Service.meets_of_forall (P := fun store' => store'.ttlSecs = store.ttlSecs)
      (fun store' op httl hop => ⟨httl.symm ▸ hop,
        (call_limits overflowChecks store' op).1.trans httl⟩) hops rfl
  apply Service.audible_related (R := SameLive) (E := fun _ => SameSessionAnswer)
    ?symm ?sweep ?both ?mono hsame hops hops' (hmeets ops hsum) (hmeets ops' hsum')
    ⟨rfl, hregular, hregular⟩
  case symm => exact fun _ _ _ h => ⟨h.live.symm, h.regular', h.regular⟩
  case mono => exact fun _ _ _ _ hle h => h.mono hle
  case both => exact fun _ _ _ _ h hcall htimely hsum _ => h.call htimely hsum hcall
  case sweep =>
    intro c store store' op h hsweep
    cases op with
    | cleanupExpired now =>
        refine ⟨?_, ⟨h.regular.quota.keep _, h.regular.sharedTtl.keep _⟩, h.regular'⟩
        show ((store.cleanupExpired now).cleanupExpired (max c now)) =
          store'.cleanupExpired (max c now)
        rw [cleanupExpired_cleanupExpired (le_max_right c now)]
        exact (h.mono (le_max_left c now)).live
    | _ => cases hsweep

end SessionStore

/-! ## Both stores -/

/-- Two runs from an empty store that make the same calls and differ in their sweeps alone get
the same answers: the same sessions and challenges are created, the same ones are validated, and
a refused `validate` is refused in both. -/
theorem sweeps_unobservable :
    (∀ (overflowChecks : Bool) (ttlSecs maxSessions maxSessionsPerDid : Nat)
      (ops ops' : List SessionOp),
      ops.filter (fun op => !op.isSweep) = ops'.filter (fun op => !op.isSweep) →
      (sessionService overflowChecks).Chronological 0 ops →
      (sessionService overflowChecks).Chronological 0 ops' →
      (∀ op ∈ ops, op.Representable ttlSecs) →
      List.Forall₂ (fun a b => a.1 = b.1 ∧ SameSessionAnswer a.2 b.2)
        ((sessionService overflowChecks).audible SessionOp.isSweep
          (.withCapacity ttlSecs maxSessions maxSessionsPerDid) ops)
        ((sessionService overflowChecks).audible SessionOp.isSweep
          (.withCapacity ttlSecs maxSessions maxSessionsPerDid) ops')) ∧
    ∀ (B : Build) (ttlSecs : Nat) (httl : ttlSecs < 2 ^ 64) (domain uri : Str)
      (maxChallenges : Nat) (ops ops' : List ChallengeOp),
      ops.filter (fun op => !op.isSweep) = ops'.filter (fun op => !op.isSweep) →
      (challengeService B).Chronological 0 ops →
      (challengeService B).Chronological 0 ops' →
      List.Forall₂ (fun a b => a.1 = b.1 ∧ SameChallengeAnswer a.2 b.2)
        ((challengeService B).audible ChallengeOp.isSweep
          (.withCapacity ttlSecs httl domain uri maxChallenges) ops)
        ((challengeService B).audible ChallengeOp.isSweep
          (.withCapacity ttlSecs httl domain uri maxChallenges) ops') := by
  refine ⟨?_, ?_⟩
  · intro overflowChecks ttlSecs maxSessions maxSessionsPerDid ops ops' hsame hops hops' hsum
    have hregular := SessionStore.regular_withCapacity ttlSecs maxSessions maxSessionsPerDid
    exact SessionStore.sweeps_unnoticed hregular hsame hops hops' hsum
  · intro B ttlSecs httl domain uri maxChallenges ops ops' hsame hops hops'
    exact ChallengeStore.sweeps_unnoticed hsame hops hops'

/-- A session that a sweep removes before it is looked up. -/
def expiredLookup : List SessionOp :=
  [SessionStore.login 1 1700000000,
    .validate (tokenOf (SessionStore.sampleTokenBytes 1)) 1700003601]

/-- The lookup reports an expired session without the sweep and none with it. -/
theorem sweeps_unobservable_lookup :
    List.Forall₂ (fun a b => a.1 = b.1 ∧ SameSessionAnswer a.2 b.2)
      ((sessionService false).audible SessionOp.isSweep (.withCapacity 3600 8 2) expiredLookup)
      ((sessionService false).audible SessionOp.isSweep (.withCapacity 3600 8 2)
        [SessionStore.login 1 1700000000, .cleanupExpired 1700003600,
          .validate (tokenOf (SessionStore.sampleTokenBytes 1)) 1700003601]) := by
  refine sweeps_unobservable.1 false 3600 8 2 _ _ rfl (by decide) (by decide) ?_
  simp [expiredLookup, SessionStore.login, SessionOp.Representable]

end AquaAuth
