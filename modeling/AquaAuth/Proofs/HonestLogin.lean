import AquaAuth.Proofs.Login
import AquaAuth.Proofs.Signers
set_option autoImplicit false
/-!
# Logins of honest clients

A client that signs the challenge a server answered it with, by a signer the server authenticates,
is given a session for its DID, whatever runs beside it.  What can come in between is the condition
`Favourable` on the steps: somebody else takes the challenge out of the store, the challenge
expires, or there is no room for a session.
-/

namespace AquaAuth

open Support Support.Result Support.Interleaving

variable {B : Build} {U : UrlCrate} {envelope : ChallengeEnvelope} {baseUrl : Str} {signer : Signer}
  {request : SessionRequest}

/-! ## The request -/

theorem trimStart0x_of_not_mem {s : Str} (h : 'x' ∉ s) : trimStart0x s = s := by
  match s, h with
  | [], _ => rfl
  | [_], _ => rw [trimStart0x]; simp
  | a :: b :: rest, h =>
      have hb : b ≠ 'x' := by
        rintro rfl
        exact h (by simp)
      rw [trimStart0x]
      intro _ heq
      exact hb (List.cons.inj (List.cons.inj heq).2).1

theorem trimStart0x_encode (bytes : Bytes) :
    trimStart0x (text "0x" ++ Hex.encode bytes) = Hex.encode bytes := by
  have hx : 'x' ∉ Hex.encode bytes := by
    intro hmem
    exact absurd (Hex.isDigit_of_mem_encode hmem) (by decide)
  show trimStart0x ('0' :: 'x' :: Hex.encode bytes) = _
  rw [trimStart0x, trimStart0x_of_not_mem hx]

theorem Client.request_eq_ok
    (h : (Client.signedSessionRequest B U envelope baseUrl signer).result = .ok request) :
    ∃ signature, signer.sign envelope.message = .ok signature ∧
      request = ⟨signer.signerDid, envelope.nonce, text "0x" ++ Hex.encode signature,
        signer.publicKey.map fun key => text "0x" ++ Hex.encode key⟩ := by
  unfold Client.signedSessionRequest at h
  split at h
  · cases h
  · split at h
    · cases h
    · rename_i signature hsign
      exact ⟨signature, hsign, (Except.ok.inj h).symm⟩

/-- The server authorises the request over the challenge the client signed. -/
theorem authorise_signed
    (h : (Client.signedSessionRequest B U envelope baseUrl signer).result = .ok request)
    (hsigner : ∀ signature, signer.sign envelope.message = .ok signature →
      Authenticates B signer envelope.message signature)
    {stored : Challenge} (hdid : stored.did = signer.signerDid)
    (hmessage : stored.message = envelope.message) :
    ∃ principal, authorise B request stored = .ok principal ∧
      principal.did = signer.signerDid := by
  obtain ⟨signature, hsign, rfl⟩ := Client.request_eq_ok h
  obtain ⟨principal, hprincipal, hauthentic⟩ := hsigner signature hsign
  refine ⟨principal, ?_, hprincipal⟩
  have hkey : ((signer.publicKey.map fun key => text "0x" ++ Hex.encode key).mapM fun hexPk =>
      (Hex.decode (trimStart0x hexPk)).mapError fun _ => StatusCode.unauthorized) =
        .ok signer.publicKey := by
    cases signer.publicKey with
    | none => rfl
    | some key =>
        simp only [Option.map_some, Option.mapM_some, trimStart0x_encode, Hex.decode_encode]
        rfl
  rw [authorise, ensure_pos hdid, ok_bind, trimStart0x_encode, Hex.decode_encode]
  simp only [Except.mapError, ok_bind] at hkey ⊢
  rw [hkey, ok_bind, hmessage, hauthentic]

/-! ## The challenge -/

variable {peer peer' : PeerState} {i j : Nat} {t t' : PeerThread} {overflowChecks : Bool}

/-- The log has the issue of the challenge. -/
def Issued (log : List LogEntry) (challenge : Challenge) : Prop :=
  ∃ e ∈ log, e.milestone = .issued ∧ e.challenge = challenge

/-- What a challenge request tells its client is a challenge issued to the DID it asked for. -/
def PeerThread.Truthful (log : List LogEntry) : PeerThread → Prop
  | .challenge did (.creating did' stage) => did = some did' ∧
      ∀ challenge, stage = .returned (some (.ok challenge)) →
        Issued log challenge ∧ challenge.did = did'
  | .challenge did (.responded (.ok envelope)) => ∃ challenge, Issued log challenge ∧
      did = some challenge.did ∧
        envelope = ⟨challenge.nonce, challenge.message, challenge.expiresAt⟩
  | _ => True

theorem Issued.mono {log log' : List LogEntry} {challenge : Challenge} (h : Issued log challenge)
    (hlog : log ⊆ log') : Issued log' challenge := by
  obtain ⟨e, he, hissued⟩ := h
  exact ⟨e, hlog he, hissued⟩

theorem PeerThread.Truthful.mono {log log' : List LogEntry} (h : t.Truthful log)
    (hlog : log ⊆ log') : t.Truthful log' := by
  match t, h with
  | .challenge did (.creating did' stage), h =>
      refine ⟨h.1, fun challenge hstage => ?_⟩
      obtain ⟨hissued, hdid⟩ := h.2 challenge hstage
      exact ⟨hissued.mono hlog, hdid⟩
  | .challenge did (.responded (.ok envelope)), h =>
      obtain ⟨challenge, hissued, hrest⟩ := h
      exact ⟨challenge, hissued.mono hlog, hrest⟩
  | .challenge _ .received, _ => trivial
  | .challenge _ (.responded (.error _)), _ => trivial
  | .login _ _, _ => trivial
  | .sweep _, _ => trivial
  | .session _, _ => trivial

/-- The log only grows. -/
theorem PeerStep.log_subset (h : PeerStep B peer i t peer' t') : peer.log ⊆ peer'.log := by
  cases h with
  | quiet _ hlog => exact hlog ▸ List.Subset.refl _
  | issues => exact List.subset_append_left _ _
  | consumes => exact List.subset_append_left _ _
  | validates => exact List.subset_append_left _ _
  | logsIn => exact List.subset_append_left _ _

theorem peerSystem_move {draw : PeerDraw}
    (h : (peerSystem B overflowChecks).move peer i t draw = some (peer', t')) :
    draw.now.secs = peer.clock ∧ peer.step B overflowChecks i t draw = some (peer', t') := by
  simp only [peerSystem] at h
  split_ifs at h with hnow
  exact ⟨hnow, h⟩

theorem PeerStep.of_move {draw : PeerDraw}
    (h : (peerSystem B overflowChecks).move peer i t draw = some (peer', t')) :
    PeerStep B peer i t peer' t' :=
  .of_step (peerSystem_move h).1 (peerSystem_move h).2

theorem Challenge.did_of_issue {store store' : ChallengeStore} {did : Str}
    {nonceBytes : ByteArr 32} {now : ClockReading} {challenge : Challenge}
    (h : store.issue B did nonceBytes now = (some (.ok challenge), store')) :
    challenge.did = did := by
  unfold ChallengeStore.issue at h
  split at h
  · cases h
  · split at h
    · cases h
    · rename_i hbuild
      obtain ⟨message, _, hchallenge⟩ := bind_eq_ok.mp hbuild
      obtain rfl := Except.ok.inj (Option.some.inj (Prod.mk.inj h).1)
      rw [← Except.ok.inj hchallenge]

/-- Short of its insertion, a `create` returns no challenge. -/
theorem ChallengeStore.createStep_ne_ok {store store' : ChallengeStore} {did : Str}
    {stage stage' : CreateStage} {draw : StepDraw} {challenge : Challenge}
    (h : store.createStep B did stage draw = some (store', stage')) (hstage : stage ≠ .insert) :
    stage' ≠ .returned (some (.ok challenge)) := by
  rintro rfl
  cases stage with
  | len =>
      simp only [createStep] at h
      split at h
      · cases h
      · split_ifs at h <;> cases h
  | cleanup => cases h
  | lenAgain =>
      simp only [createStep] at h
      split_ifs at h <;> cases h
  | scan => cases h
  | remove victim => cases h
  | insert => exact hstage rfl
  | returned result => cases h

/-- A step of a challenge request keeps what it tells its client true. -/
theorem truthful_challengeStep {did : Option Str} {stage stage' : ChallengeStage} {draw : PeerDraw}
    (h : peer.challengeStep B i did stage draw = some (peer', stage'))
    (ht : (PeerThread.challenge did stage).Truthful peer.log) :
    (PeerThread.challenge did stage').Truthful peer'.log := by
  cases stage with
  | received =>
      cases did with
      | none =>
          obtain ⟨rfl, rfl⟩ := Prod.mk.inj (Option.some.inj h)
          trivial
      | some did =>
          obtain ⟨rfl, rfl⟩ := Prod.mk.inj (Option.some.inj h)
          split_ifs
          · trivial
          · refine ⟨rfl, fun challenge hstage => ?_⟩
            cases hstage
  | creating did' stage =>
      obtain ⟨rfl, hreturned⟩ := ht
      by_cases hresult : ∃ result, stage = .returned result
      · obtain ⟨result, rfl⟩ := hresult
        cases result with
        | none => cases h
        | some result =>
            cases result with
            | error e =>
                obtain ⟨rfl, rfl⟩ := Prod.mk.inj (Option.some.inj h)
                trivial
            | ok challenge =>
                obtain ⟨rfl, rfl⟩ := Prod.mk.inj (Option.some.inj h)
                obtain ⟨hissued, hdid⟩ := hreturned challenge rfl
                exact ⟨challenge, hissued, congrArg some hdid.symm, rfl⟩
      by_cases hinsert : stage = .insert
      · subst hinsert
        simp only [PeerState.challengeStep, ChallengeStore.createStep, Option.map_some] at h
        split_ifs at h with hdrawn
        obtain ⟨rfl, rfl⟩ := Prod.mk.inj (Option.some.inj h)
        refine ⟨rfl, fun challenge hstage => ?_⟩
        have hissue := CreateStage.returned.inj hstage
        have hlog : (⟨i, peer.clock, challenge, .issued⟩ : LogEntry) ∈ ({ peer with
            challenges := (peer.challenges.issue B did' draw.nonceBytes draw.now).2
            drawn := ChallengeStore.nonceOf draw.nonceBytes :: peer.drawn }.record i
              (CreateStage.returned
                (peer.challenges.issue B did' draw.nonceBytes draw.now).1).event).log := by
          rw [hissue]
          exact List.mem_append_right _ (List.mem_singleton.mpr rfl)
        exact ⟨⟨_, hlog, rfl, rfl⟩, Challenge.did_of_issue (Prod.ext hissue rfl)⟩
      · have hstep : (peer.challenges.createStep B did' stage ⟨draw.now, draw.nonceBytes⟩).map
            (fun moved =>
              ({ peer with challenges := moved.1 }, ChallengeStage.creating did' moved.2)) =
              some (peer', stage') := by
          cases stage with
          | insert => exact absurd rfl hinsert
          | returned result => exact absurd ⟨result, rfl⟩ hresult
          | _ => exact h
        obtain ⟨⟨store, stage₁⟩, hmoved, heq⟩ := Option.map_eq_some_iff.mp hstep
        obtain ⟨rfl, rfl⟩ := Prod.mk.inj heq
        refine ⟨rfl, fun challenge hstage => ?_⟩
        exact absurd hstage (ChallengeStore.createStep_ne_ok hmoved hinsert)
  | responded response => cases h

theorem truthful_move {draw : PeerDraw}
    (h : (peerSystem B overflowChecks).move peer i t draw = some (peer', t'))
    (ht : t.Truthful peer.log) : t'.Truthful peer'.log := by
  obtain ⟨_, hstep⟩ := peerSystem_move h
  cases t with
  | challenge did stage =>
      obtain ⟨⟨peer₁, stage'⟩, hmoved, heq⟩ := Option.map_eq_some_iff.mp hstep
      obtain ⟨rfl, rfl⟩ := Prod.mk.inj heq
      exact truthful_challengeStep hmoved ht
  | login request stage =>
      obtain ⟨⟨peer₁, stage'⟩, _, heq⟩ := Option.map_eq_some_iff.mp hstep
      obtain ⟨rfl, rfl⟩ := Prod.mk.inj heq
      trivial
  | sweep done =>
      cases done with
      | false =>
          obtain ⟨rfl, rfl⟩ := Prod.mk.inj (Option.some.inj hstep)
          trivial
      | true => cases hstep
  | session call =>
      cases call with
      | create did stage => cases hstep
      | _ =>
          obtain ⟨⟨server, call'⟩, _, heq⟩ := Option.map_eq_some_iff.mp hstep
          obtain ⟨rfl, rfl⟩ := Prod.mk.inj heq
          trivial

/-- Whatever a challenge request told its client is in the log. -/
theorem truthful_run {c : Config PeerState PeerThread}
    {schedule : List (Action PeerThread PeerDraw Nat)}
    (h : (peerSystem B overflowChecks).run (.initial peer) schedule = some c) :
    ∀ (i : Nat) (t : PeerThread), c.threads[i]? = some t → t.Truthful c.shared.log := by
  refine (System.run_localInvariant (I := fun _ => True)
    (L := fun (s : PeerState) _ (t : PeerThread) =>
      t.Truthful s.log) ?spawn ?move ?stable ?ambient h trivial).2
  case spawn =>
    intro s i t _ hentry
    cases t with
    | challenge did stage =>
        obtain rfl : stage = .received := of_decide_eq_true hentry
        trivial
    | login request stage => trivial
    | sweep done => trivial
    | session call => trivial
  case move =>
    intro s i t k s' t' _ ht hmove
    exact ⟨trivial, truthful_move hmove ht⟩
  case stable =>
    intro s i t k s' t' j u _ _ hmove _ hu
    exact hu.mono (PeerStep.of_move hmove).log_subset
  case ambient =>
    intro s now s' _ hs'
    obtain rfl := Option.some.inj hs'
    exact ⟨trivial, fun _ _ => id⟩

/-- The challenge a client was told of is the one stored under its nonce, when there is one. -/
theorem stored_of_told (hI : PeerInvariant B peer) {did : Str}
    (ht : (PeerThread.challenge (some did) (.responded (.ok envelope))).Truthful peer.log)
    {stored : Challenge}
    (hstored : peer.challenges.challenges.get envelope.nonce = some stored) :
    stored.did = did ∧ stored.nonce = envelope.nonce ∧ stored.message = envelope.message ∧
      stored.expiresAt = envelope.expiresAt := by
  obtain ⟨challenge, ⟨e, he, hissued, hchallenge⟩, hdid, rfl⟩ := ht
  obtain ⟨⟨e', he', hissued', hstored'⟩, _⟩ := hI.stored hstored
  have hnonce : e'.challenge.nonce = e.challenge.nonce := by
    rw [hstored', hI.keyed hstored, hchallenge]
  have hsame : e' = e := hI.history.eq_of_mem he he' (hissued'.trans hissued.symm) hnonce
  rw [hsame, hchallenge] at hstored'
  subst hstored'
  exact ⟨(Option.some.inj hdid).symm, rfl, rfl, rfl⟩

/-! ## The login -/

/-- A bound on the steps of its own that a login has before its response. -/
def LoginStage.stepsLeft : LoginStage → Nat
  | .validating .remove => 12
  | .validating (.clock _) => 11
  | .validating (.returned _) => 10
  | .creating _ _ .len => 9
  | .creating _ _ .purgeLen => 8
  | .creating _ _ (.purgeRetain _) => 7
  | .creating _ _ (.purgeLenAfter _) => 6
  | .creating _ _ .lenAgain => 5
  | .creating _ _ .sessionsForDid => 4
  | .creating _ _ (.remove _) => 3
  | .creating _ _ .insert => 2
  | .creating _ _ (.returned _) => 1
  | .responded _ => 0

def PeerThread.loginStage : PeerThread → Option LoginStage
  | .login _ stage => some stage
  | _ => none

/-- What the login needs of the server at a step of its own: the clock before the expiry, room for
a session, and no addition or subtraction that panics. -/
def Opportune (overflowChecks : Bool) (peer : PeerState) : LoginStage → Prop
  | .validating (.clock challenge) => peer.clock < challenge.expiresAt
  | .creating _ _ (.purgeLenAfter before) => peer.sessions.underflows overflowChecks before = false
  | .creating _ _ .lenAgain => peer.sessions.store.isFull = false
  | .creating _ _ .insert =>
      addU64 overflowChecks peer.clock peer.sessions.store.ttlSecs ≠ none
  | _ => True

instance decidableOpportune (overflowChecks : Bool) (peer : PeerState) :
    ∀ stage, Decidable (Opportune overflowChecks peer stage)
  | .validating (.clock challenge) => inferInstanceAs (Decidable (peer.clock < challenge.expiresAt))
  | .creating _ _ (.purgeLenAfter before) =>
      inferInstanceAs (Decidable (peer.sessions.underflows overflowChecks before = false))
  | .creating _ _ .lenAgain =>
      inferInstanceAs (Decidable (peer.sessions.store.isFull = false))
  | .creating _ _ .insert =>
      inferInstanceAs (Decidable (addU64 overflowChecks peer.clock
        peer.sessions.store.ttlSecs ≠ none))
  | .validating .remove => isTrue trivial
  | .validating (.returned _) => isTrue trivial
  | .creating _ _ .len => isTrue trivial
  | .creating _ _ .purgeLen => isTrue trivial
  | .creating _ _ (.purgeRetain _) => isTrue trivial
  | .creating _ _ .sessionsForDid => isTrue trivial
  | .creating _ _ (.remove _) => isTrue trivial
  | .creating _ _ (.returned _) => isTrue trivial
  | .responded _ => isTrue trivial

/-- The step comes in between the login `i` and its session in no way: it is an opportune one of
the login's own, or leaves the challenge of this nonce in the store. -/
def Favourable (B : Build) (overflowChecks : Bool) (i : Nat) (nonce : Str)
    (c : Config PeerState PeerThread) : Action PeerThread PeerDraw Nat → Prop
  | .move j draw =>
      if j = i then
        ∀ t ∈ c.threads[i]?, ∀ stage ∈ t.loginStage, Opportune overflowChecks c.shared stage
      else
        ∀ c' ∈ (peerSystem B overflowChecks).next c (.move j draw),
          c'.shared.challenges.challenges.get nonce = c.shared.challenges.challenges.get nonce
  | _ => True

instance decidableFavourable (B : Build) (overflowChecks : Bool) (i : Nat) (nonce : Str)
    (c : Config PeerState PeerThread) :
    ∀ a, Decidable (Favourable B overflowChecks i nonce c a)
  | .move j draw => inferInstanceAs (Decidable (if j = i then
        ∀ t ∈ c.threads[i]?, ∀ stage ∈ t.loginStage, Opportune overflowChecks c.shared stage
      else
        ∀ c' ∈ (peerSystem B overflowChecks).next c (.move j draw),
          c'.shared.challenges.challenges.get nonce = c.shared.challenges.challenges.get nonce))
  | .spawn _ => isTrue trivial
  | .ambient _ => isTrue trivial

/-- A session of the login `i` in the log. -/
def OpenedBy (log : List LogEntry) (i : Nat) (request : SessionRequest) (session : Session) :
    Prop :=
  ∃ e ∈ log, e.thread = i ∧ e.event = .loggedIn request session

/-- How far the login has come with the challenge. -/
def LoginStage.OnTrack (peer : PeerState) (i : Nat) (request : SessionRequest)
    (challenge : Challenge) : LoginStage → Prop
  | .validating .remove => peer.challenges.challenges.get request.nonce = some challenge
  | .validating (.clock stored) => stored = challenge
  | .validating (.returned result) => result = .ok challenge
  | .creating stored did (.returned result) => stored = challenge ∧ did = request.did ∧
      ∃ session, result = some (.ok session) ∧ session.did = request.did ∧
        OpenedBy peer.log i request session
  | .creating stored did _ => stored = challenge ∧ did = request.did
  | .responded response => ∃ session, session.did = request.did ∧
      response = .ok ⟨session.did, session.token, session.validUntil, session.createdAt⟩ ∧
        OpenedBy peer.log i request session

theorem OpenedBy.mono {log log' : List LogEntry} {session : Session}
    (h : OpenedBy log i request session) (hlog : log ⊆ log') : OpenedBy log' i request session := by
  obtain ⟨e, he, hopened⟩ := h
  exact ⟨e, hlog he, hopened⟩

/-- What others do that leave the challenge in the store does not set the login back. -/
theorem LoginStage.OnTrack.mono {challenge : Challenge} {stage : LoginStage}
    (h : stage.OnTrack peer i request challenge) (hlog : peer.log ⊆ peer'.log)
    (hget : peer'.challenges.challenges.get request.nonce =
      peer.challenges.challenges.get request.nonce) :
    stage.OnTrack peer' i request challenge := by
  match stage, h with
  | .validating .remove, h => exact hget.trans h
  | .validating (.clock _), h => exact h
  | .validating (.returned _), h => exact h
  | .creating _ _ (.returned _), h =>
      obtain ⟨hstored, hdid, session, hresult, hsession, hopened⟩ := h
      exact ⟨hstored, hdid, session, hresult, hsession, hopened.mono hlog⟩
  | .creating _ _ .len, h => exact h
  | .creating _ _ .purgeLen, h => exact h
  | .creating _ _ (.purgeRetain _), h => exact h
  | .creating _ _ (.purgeLenAfter _), h => exact h
  | .creating _ _ .lenAgain, h => exact h
  | .creating _ _ .sessionsForDid, h => exact h
  | .creating _ _ (.remove _), h => exact h
  | .creating _ _ .insert, h => exact h
  | .responded _, h =>
      obtain ⟨session, hsession, hresponse, hopened⟩ := h
      exact ⟨session, hsession, hresponse, hopened.mono hlog⟩

/-- The server authorises the request over the challenge, as the request's own DID. -/
def AuthorisedOver (B : Build) (request : SessionRequest) (challenge : Challenge) : Prop :=
  ∃ principal, authorise B request challenge = .ok principal ∧ principal.did = request.did

/-- A `create` of the session store that goes on from one access to the next. -/
theorem SessionServer.createStep_cases {server server' : SessionServer} {did : Str}
    {stage stage' : SessionCreateStage} {draw : SessionStepDraw}
    (h : server.createStep overflowChecks did stage draw = some (server', stage')) :
    stage = .insert ∨
      (∃ before, stage = .purgeLenAfter before ∧
        server.underflows overflowChecks before = true) ∨
      (stage = .lenAgain ∧ server.store.isFull = true) ∨
      (∀ result, stage' ≠ .returned result) ∧ ∀ stored did',
        (LoginStage.creating stored did' stage').stepsLeft <
          (LoginStage.creating stored did' stage).stepsLeft := by
  cases stage with
  | len =>
      obtain ⟨_, rfl⟩ := Prod.mk.inj (Option.some.inj h)
      split_ifs <;> simp [LoginStage.stepsLeft]
  | purgeLen =>
      obtain ⟨_, rfl⟩ := Prod.mk.inj (Option.some.inj h)
      simp [LoginStage.stepsLeft]
  | purgeRetain before =>
      obtain ⟨_, rfl⟩ := Prod.mk.inj (Option.some.inj h)
      simp [LoginStage.stepsLeft]
  | purgeLenAfter before =>
      obtain ⟨_, rfl⟩ := Prod.mk.inj (Option.some.inj h)
      split_ifs with hunderflow
      · exact .inr (.inl ⟨before, rfl, hunderflow⟩)
      · simp [LoginStage.stepsLeft]
  | lenAgain =>
      obtain ⟨_, rfl⟩ := Prod.mk.inj (Option.some.inj h)
      split_ifs with hfull
      · exact .inr (.inr (.inl ⟨rfl, hfull⟩))
      · simp [LoginStage.stepsLeft]
  | sessionsForDid =>
      obtain ⟨_, rfl⟩ := Prod.mk.inj (Option.some.inj h)
      simp [LoginStage.stepsLeft]
  | remove oldest =>
      obtain ⟨_, rfl⟩ := Prod.mk.inj (Option.some.inj h)
      simp [LoginStage.stepsLeft]
  | insert => exact .inl rfl
  | returned result => cases h

/-- An opportune step of the login brings it nearer to its session. -/
theorem onTrack_loginStep {challenge : Challenge} {stage stage' : LoginStage} {draw : PeerDraw}
    (hauth : AuthorisedOver B request challenge) (hnow : draw.now.secs = peer.clock)
    (hopportune : Opportune overflowChecks peer stage)
    (h : peer.loginStep B overflowChecks i request stage draw = some (peer', stage'))
    (ht : stage.OnTrack peer i request challenge) :
    stage'.OnTrack peer' i request challenge ∧ stage'.stepsLeft < stage.stepsLeft := by
  cases stage with
  | validating stage =>
      cases stage with
      | remove =>
          have hget : peer.challenges.challenges.get request.nonce = some challenge := ht
          simp only [PeerState.loginStep, ChallengeStore.validateStep, hget, Option.map_some] at h
          obtain ⟨rfl, rfl⟩ := Prod.mk.inj (Option.some.inj h)
          exact ⟨rfl, by simp [LoginStage.stepsLeft]⟩
      | clock stored =>
          obtain rfl : stored = challenge := ht
          have hlive : ¬ stored.expiresAt ≤ draw.now.secs := by
            rw [hnow]
            exact Nat.not_le.mpr hopportune
          simp only [PeerState.loginStep, ChallengeStore.validateStep, Option.map_some,
            ChallengeStore.checkExpiry, if_neg hlive] at h
          obtain ⟨rfl, rfl⟩ := Prod.mk.inj (Option.some.inj h)
          exact ⟨rfl, by simp [LoginStage.stepsLeft]⟩
      | returned result =>
          obtain rfl : result = .ok challenge := ht
          obtain ⟨principal, hprincipal, hdid⟩ := hauth
          simp only [PeerState.loginStep, hprincipal] at h
          obtain ⟨rfl, rfl⟩ := Prod.mk.inj (Option.some.inj h)
          exact ⟨⟨rfl, hdid⟩, by simp [LoginStage.stepsLeft]⟩
  | creating stored did stage =>
      by_cases hresult : ∃ result, stage = .returned result
      · obtain ⟨result, rfl⟩ := hresult
        obtain ⟨_, _, session, rfl, hsession, hopened⟩ := ht
        obtain ⟨rfl, rfl⟩ := Prod.mk.inj (Option.some.inj h)
        exact ⟨⟨session, hsession, rfl, hopened⟩, by simp [LoginStage.stepsLeft]⟩
      have htrack : stored = challenge ∧ did = request.did := by
        cases stage with
        | returned result => exact absurd ⟨result, rfl⟩ hresult
        | _ => exact ht
      obtain ⟨rfl, rfl⟩ := htrack
      by_cases hinsert : stage = .insert
      · subst hinsert
        obtain ⟨validUntil, hsum⟩ := Option.ne_none_iff_exists'.mp hopportune
        simp only [PeerState.loginStep, SessionServer.createStep, SessionStore.issue, hsum] at h
        split_ifs at h
        · cases h
        · obtain ⟨rfl, rfl⟩ := Prod.mk.inj (Option.some.inj h)
          refine ⟨⟨rfl, rfl, _, rfl, rfl, ?_⟩, by simp [LoginStage.stepsLeft]⟩
          exact ⟨_, List.mem_append_right _ (List.mem_singleton.mpr rfl), rfl, rfl⟩
      · have hstep : (peer.sessions.createStep overflowChecks request.did stage
            ⟨peer.clock, draw.tokenBytes⟩).map (fun moved =>
              ({ peer with sessions := moved.1 }.record i (moved.2.event request stored),
                LoginStage.creating stored request.did moved.2)) = some (peer', stage') := by
          cases stage with
          | insert => exact absurd rfl hinsert
          | returned result => exact absurd ⟨result, rfl⟩ hresult
          | _ => exact h
        obtain ⟨⟨server, stage₁⟩, hmoved, heq⟩ := Option.map_eq_some_iff.mp hstep
        obtain ⟨rfl, rfl⟩ := Prod.mk.inj heq
        rcases SessionServer.createStep_cases hmoved with rfl | ⟨before, rfl, hunderflow⟩ |
          ⟨rfl, hfull⟩ | ⟨hgoes, hleft⟩
        · exact absurd rfl hinsert
        · rw [hopportune] at hunderflow
          cases hunderflow
        · rw [hopportune] at hfull
          cases hfull
        · refine ⟨?_, hleft _ _⟩
          cases stage₁ with
          | returned result => exact absurd rfl (hgoes result)
          | _ => exact ⟨rfl, rfl⟩
  | responded response => cases h

/-- A login that has not responded yet has a step to take. -/
theorem exists_loginStep {challenge : Challenge} {stage : LoginStage} {draw : PeerDraw}
    (hauth : AuthorisedOver B request challenge) (ht : stage.OnTrack peer i request challenge)
    (hstage : ∀ response, stage ≠ .responded response)
    (hfresh : tokenOf draw.tokenBytes ∉ peer.sessions.drawn) :
    (peer.loginStep B overflowChecks i request stage draw).isSome = true := by
  cases stage with
  | validating stage =>
      cases stage with
      | remove =>
          have hget : peer.challenges.challenges.get request.nonce = some challenge := ht
          simp [PeerState.loginStep, ChallengeStore.validateStep, hget]
      | clock stored => rfl
      | returned result =>
          obtain rfl : result = .ok challenge := ht
          obtain ⟨principal, hprincipal, _⟩ := hauth
          simp [PeerState.loginStep, hprincipal]
  | creating stored did stage =>
      cases stage with
      | insert => simp [PeerState.loginStep, SessionServer.createStep, hfresh]
      | returned result =>
          obtain ⟨_, _, session, rfl, _⟩ := ht
          rfl
      | _ => rfl
  | responded response => exact absurd rfl (hstage response)

/-! ## The run -/

/-- The login `i` is on its way to a session, or has one: it never answers with an error, its
steps so far are among the twelve it needs at most, and it is never stuck. -/
structure Served (B : Build) (overflowChecks : Bool) (i : Nat) (request : SessionRequest)
    (steps : Nat) (c : Config PeerState PeerThread) : Prop where
  thread : ∃ stage, c.threads[i]? = some (.login request stage) ∧ stage.stepsLeft + steps ≤ 12
  answered : ∀ response, c.threads[i]? = some (.login request (.responded response)) →
    ∃ session, session.did = request.did ∧
      response = .ok ⟨session.did, session.token, session.validUntil, session.createdAt⟩ ∧
        OpenedBy c.shared.log i request session
  progress : ∀ stage draw, c.threads[i]? = some (.login request stage) →
    (∀ response, stage ≠ .responded response) → draw.now.secs = c.shared.clock →
      tokenOf draw.tokenBytes ∉ c.shared.sessions.drawn →
        ((peerSystem B overflowChecks).next c (.move i draw)).isSome = true

/-- The login as the rule for one thread follows it. -/
def PeerThread.OnTrack (peer : PeerState) (i : Nat) (request : SessionRequest)
    (challenge : Challenge) (t : PeerThread) : Prop :=
  ∃ stage, t = .login request stage ∧ stage.OnTrack peer i request challenge

def PeerThread.stepsLeft : PeerThread → Nat
  | .login _ stage => stage.stepsLeft
  | _ => 0

theorem onTrack_others {challenge : Challenge} {c c' : Config PeerState PeerThread}
    {a : Action PeerThread PeerDraw Nat} (ht : t.OnTrack c.shared i request challenge)
    (hfavourable : Favourable B overflowChecks i request.nonce c a)
    (hother : ∀ k, a ≠ .move i k)
    (hnext : (peerSystem B overflowChecks).next c a = some c') :
    t.OnTrack c'.shared i request challenge := by
  obtain ⟨stage, rfl, ht⟩ := ht
  refine ⟨stage, rfl, ?_⟩
  cases a with
  | spawn call =>
      obtain ⟨_, rfl⟩ := System.next_spawn.mp hnext
      exact ht
  | move j draw =>
      have hji : j ≠ i := by
        rintro rfl
        exact hother draw rfl
      simp only [Favourable, if_neg hji] at hfavourable
      have hget := hfavourable c' hnext
      obtain ⟨t₁, peer', t', _, hmove, rfl⟩ := System.next_move.mp hnext
      exact ht.mono (PeerStep.of_move hmove).log_subset hget
  | ambient now =>
      obtain ⟨peer', hpeer, rfl⟩ := System.next_ambient.mp hnext
      obtain rfl := Option.some.inj hpeer
      exact ht.mono (List.Subset.refl _) rfl

/-- A login that starts with its challenge in the store is served along every favourable run. -/
theorem served_of_stored {challenge : Challenge} {c c' : Config PeerState PeerThread}
    {schedule : List (Action PeerThread PeerDraw Nat)}
    (hauth : AuthorisedOver B request challenge)
    (hstored : c.shared.challenges.challenges.get request.nonce = some challenge)
    (hthread : c.threads[i]? = some (.login request (.validating .remove)))
    (hrun : (peerSystem B overflowChecks).run c schedule = some c')
    (hfavourable : (peerSystem B overflowChecks).Along
      (Favourable B overflowChecks i request.nonce) c schedule) :
    Served B overflowChecks i request (System.stepsOf i schedule) c' := by
  have hstart : PeerThread.OnTrack c.shared i request challenge
      (.login request (.validating .remove)) := ⟨_, rfl, hstored⟩
  have hown : ∀ (c : Config PeerState PeerThread) draw (t : PeerThread) peer' t',
      t.OnTrack c.shared i request challenge →
      Favourable B overflowChecks i request.nonce c (.move i draw) → c.threads[i]? = some t →
      (peerSystem B overflowChecks).move c.shared i t draw = some (peer', t') →
        t'.OnTrack peer' i request challenge ∧ t'.stepsLeft < t.stepsLeft := by
    rintro c draw t peer' t' ⟨stage, rfl, ht⟩ hstep hget hmove
    obtain ⟨hnow, hmove⟩ := peerSystem_move hmove
    obtain ⟨⟨peer₁, stage'⟩, hmoved, heq⟩ := Option.map_eq_some_iff.mp hmove
    obtain ⟨rfl, rfl⟩ := Prod.mk.inj heq
    simp only [Favourable, if_pos] at hstep
    obtain ⟨htrack, hless⟩ := onTrack_loginStep hauth hnow (hstep _ hget stage rfl) hmoved ht
    exact ⟨⟨stage', rfl, htrack⟩, hless⟩
  obtain ⟨t', ht', ⟨stage, rfl, htrack⟩, hsteps⟩ := System.run_thread
    (P := fun peer t => PeerThread.OnTrack peer i request challenge t) PeerThread.stepsLeft hown
    (fun c a c' t ht hstep hother hnext => onTrack_others ht hstep hother hnext) hrun hfavourable
    hthread hstart
  have hstage : ∀ stage', c'.threads[i]? = some (.login request stage') → stage' = stage := by
    intro stage' hstage'
    cases hstage'.symm.trans ht'
    rfl
  refine ⟨⟨stage, ht', hsteps⟩, ?_, ?_⟩
  · intro response hresponse
    obtain rfl := hstage _ hresponse
    exact htrack
  · intro stage' draw hthread' hunfinished hnow hfresh
    obtain rfl := hstage _ hthread'
    have hmove : (c'.shared.loginStep B overflowChecks i request stage' draw).isSome = true :=
      exists_loginStep hauth htrack hunfinished hfresh
    obtain ⟨⟨peer', stage''⟩, hmoved⟩ := Option.isSome_iff_exists.mp hmove
    rw [Option.isSome_iff_exists]
    refine ⟨⟨peer', c'.threads.set i (.login request stage'')⟩, System.next_move.mpr ?_⟩
    refine ⟨_, peer', .login request stage'', hthread', ?_, rfl⟩
    simp only [peerSystem, if_pos hnow, PeerState.step, hmoved, Option.map_some]

/-- An honest client is served: the server told it of a challenge for its DID, it signed that
challenge by a signer the server authenticates, and the challenge is still stored when its request
arrives.  Along every favourable run the request is given a session for its DID within twelve
steps of its own. -/
theorem honest_login_served (B : Build) (U : UrlCrate) (overflowChecks : Bool)
    (clock challengeTtl : Nat) (httl : challengeTtl < 2 ^ 64) (domain uri : Str)
    (maxChallenges sessionTtl maxSessions maxSessionsPerDid : Nat)
    (before after : List (Action PeerThread PeerDraw Nat)) (c₀ c : Config PeerState PeerThread)
    (j : Nat) (envelope : ChallengeEnvelope) (baseUrl : Str) (signer : Signer)
    (request : SessionRequest)
    (hbefore : (peerSystem B overflowChecks).run (.initial (.start clock challengeTtl httl domain
      uri maxChallenges sessionTtl maxSessions maxSessionsPerDid)) before = some c₀)
    (htold : c₀.threads[j]? =
      some (.challenge (some signer.signerDid) (.responded (.ok envelope))))
    (hstored : c₀.shared.challenges.challenges.get envelope.nonce ≠ none)
    (hrequest : (Client.signedSessionRequest B U envelope baseUrl signer).result = .ok request)
    (hsigner : ∀ signature, signer.sign envelope.message = .ok signature →
      Authenticates B signer envelope.message signature)
    (hafter : (peerSystem B overflowChecks).run c₀
      (.spawn (.login request (.validating .remove)) :: after) = some c)
    (hfavourable : (peerSystem B overflowChecks).Along
      (Favourable B overflowChecks c₀.threads.length envelope.nonce) c₀
      (.spawn (.login request (.validating .remove)) :: after)) :
    request.did = signer.signerDid ∧ Served B overflowChecks c₀.threads.length request
      (System.stepsOf c₀.threads.length after) c := by
  obtain ⟨signature, hsign, hfields⟩ := Client.request_eq_ok hrequest
  have hdid : request.did = signer.signerDid := congrArg SessionRequest.did hfields
  have hnonce : request.nonce = envelope.nonce := congrArg SessionRequest.nonce hfields
  refine ⟨hdid, ?_⟩
  obtain ⟨challenge, hchallenge⟩ := Option.ne_none_iff_exists'.mp hstored
  have hI : PeerInvariant B c₀.shared := .run hbefore (.start ..)
  obtain ⟨hfor, _, hmessage, _⟩ := stored_of_told hI (truthful_run hbefore j _ htold) hchallenge
  obtain ⟨principal, hprincipal, hprincipalDid⟩ := authorise_signed hrequest hsigner hfor hmessage
  have hauth : AuthorisedOver B request challenge := ⟨principal, hprincipal,
    hprincipalDid.trans hdid.symm⟩
  obtain ⟨c₁, hspawn, hrun⟩ := System.run_cons.mp hafter
  have halong := hfavourable.2 c₁ hspawn
  obtain ⟨_, rfl⟩ := System.next_spawn.mp hspawn
  rw [← hnonce] at halong hchallenge
  have hthread : (c₀.threads ++ [.login request (.validating .remove)])[c₀.threads.length]? =
      some (.login request (.validating .remove)) := List.getElem?_concat_length
  exact served_of_stored (c := ⟨c₀.shared, c₀.threads ++ [.login request (.validating .remove)]⟩)
    hauth hchallenge hthread hrun halong

/-! ### A login beside a sweep -/

def loginUrls : UrlCrate := .ofTable
  [(text "http://127.0.0.1:3000", ⟨text "http", text "127.0.0.1", some 3000, by decide⟩)]

/-- The signer of the login, on its one message. -/
def loginSigner : Signer where
  signerDid := loginDid
  sign message :=
    if message = loginMessage then .ok (bytesOfHex loginSignatureHex)
    else .error ⟨text "another message"⟩
  publicKey := none

def loginEnvelope : ChallengeEnvelope := ⟨loginNonce, loginMessage, 1700000300⟩

theorem loginSigner_authenticates :
    Authenticates loginBuild loginSigner loginMessage (bytesOfHex loginSignatureHex) :=
  authenticates_iff.mpr ⟨by decide +kernel, by decide +kernel⟩

def toldSchedule : List (Action PeerThread PeerDraw Nat) :=
  .spawn (.challenge (some loginDid) .received) ::
    List.replicate 4 (.move 0 challengeDraw) ++ [.ambient 1700000010]

/-- The login, with a sweep between its first step and the rest. -/
def servedSchedule : List (Action PeerThread PeerDraw Nat) :=
  .move 1 loginDraw :: .spawn (.sweep false) :: .move 2 loginDraw ::
    List.replicate 7 (.move 1 loginDraw)

/-- What the run up to the login comes to, and that the run from there is possible and favourable. -/
theorem toldSchedule_run :
    ((peerSystem loginBuild false).run loginPeer toldSchedule).map (fun c₀ =>
      (c₀.threads, (c₀.shared.challenges.challenges.get loginEnvelope.nonce).isSome,
        ((peerSystem loginBuild false).run c₀
          (.spawn (.login loginRequest (.validating .remove)) :: servedSchedule)).isSome,
        decide ((peerSystem loginBuild false).Along
          (Favourable loginBuild false 1 loginEnvelope.nonce) c₀
            (.spawn (.login loginRequest (.validating .remove)) :: servedSchedule)))) =
      some ([.challenge (some loginDid) (.responded (.ok loginEnvelope))], true, true, true) := by
  decide +kernel

theorem loginSigner_sign :
    loginSigner.sign loginMessage = .ok (bytesOfHex loginSignatureHex) := by
  simp only [loginSigner, if_true]

theorem loginSigner_request :
    (Client.signedSessionRequest loginBuild loginUrls loginEnvelope (text "http://127.0.0.1:3000")
      loginSigner).result = .ok loginRequest := by
  decide +kernel

theorem honest_login_served_sweep : ∃ c₀ c,
    (peerSystem loginBuild false).run loginPeer toldSchedule = some c₀ ∧
      (peerSystem loginBuild false).run c₀
        (.spawn (.login loginRequest (.validating .remove)) :: servedSchedule) = some c ∧
      loginRequest.did = loginDid ∧ Served loginBuild false c₀.threads.length loginRequest
        (System.stepsOf c₀.threads.length servedSchedule) c := by
  obtain ⟨c₀, hbefore, hends⟩ := Option.map_eq_some_iff.mp toldSchedule_run
  obtain ⟨hthreads, hends⟩ := Prod.mk.inj hends
  obtain ⟨hstored, hends⟩ := Prod.mk.inj hends
  obtain ⟨hafter, hfavourable⟩ := Prod.mk.inj hends
  obtain ⟨c, hafter⟩ := Option.isSome_iff_exists.mp hafter
  have hlength : c₀.threads.length = 1 := congrArg List.length hthreads
  have htold : c₀.threads[0]? =
      some (.challenge (some loginDid) (.responded (.ok loginEnvelope))) := by
    rw [hthreads]
    rfl
  have hsigner : ∀ signature, loginSigner.sign loginEnvelope.message = .ok signature →
      Authenticates loginBuild loginSigner loginEnvelope.message signature := by
    intro signature hsign
    obtain rfl := Except.ok.inj (loginSigner_sign.symm.trans hsign)
    exact loginSigner_authenticates
  have hserved := honest_login_served loginBuild loginUrls false 1700000000 300
    Duration.fiveMinutes_lt (text "aqua-node") (text "http://127.0.0.1:3000") 8192 3600 8192 64
    toldSchedule servedSchedule c₀ c 0 loginEnvelope (text "http://127.0.0.1:3000") loginSigner
    loginRequest hbefore htold (Option.isSome_iff_ne_none.mp hstored) loginSigner_request hsigner
    hafter (hlength ▸ of_decide_eq_true hfavourable)
  exact ⟨c₀, c, hbefore, hafter, hserved⟩

end AquaAuth
