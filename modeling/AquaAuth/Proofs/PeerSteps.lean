import AquaAuth.Model.Peer
import AquaAuth.Proofs.Challenges
import AquaAuth.Proofs.SessionConcurrent
set_option autoImplicit false
/-!
# What a step of the login server does

A step leaves the log as it is, or issues a challenge, takes one out of the store, accepts it or
opens a session for it.  Nothing else is said of the steps of the server afterwards.
-/

namespace AquaAuth

open Support Support.Result

/-! ## Stages -/

/-- The stages of a challenge. -/
inductive Milestone where
  | issued
  | consumed
  | validated
  | loggedIn
  deriving DecidableEq

def PeerEvent.milestone : PeerEvent → Milestone
  | .issued => .issued
  | .consumed => .consumed
  | .validated _ => .validated
  | .loggedIn _ _ => .loggedIn

namespace LogEntry

def milestone (e : LogEntry) : Milestone := e.event.milestone

end LogEntry

/-- The signature of the request verifies over the message of the challenge under its DID. -/
def Authorised (B : Build) (request : SessionRequest) (challenge : Challenge) (did : Str) : Prop :=
  ∃ principal, authorise B request challenge = .ok principal ∧ principal.did = did

/-- A challenge that a request has taken and not yet turned into a session. -/
structure Holding where
  milestone : Milestone
  request : SessionRequest
  challenge : Challenge
  did : Option Str

def PeerThread.holding : PeerThread → Option Holding
  | .login request (.validating (.clock stored)) => some ⟨.consumed, request, stored, none⟩
  | .login request (.validating (.returned (.ok stored))) =>
      some ⟨.validated, request, stored, none⟩
  | .login _ (.creating _ _ (.returned _)) => none
  | .login request (.creating stored did _) => some ⟨.validated, request, stored, some did⟩
  | _ => none

theorem PeerThread.holding_of_starts {t : PeerThread} (h : t.starts = true) : t.holding = none := by
  cases t with
  | challenge did stage => rfl
  | login request stage =>
      obtain rfl : stage = .validating .remove := of_decide_eq_true h
      rfl
  | sweep done => rfl
  | session call => rfl

variable {B : Build}

/-- What one step does: nothing to the log, or one of the four things the log records. -/
inductive PeerStep (B : Build) (peer : PeerState) (i : Nat) (t : PeerThread) :
    PeerState → PeerThread → Prop
  | quiet {peer' : PeerState} {t' : PeerThread} (hclock : peer'.clock = peer.clock)
      (hlog : peer'.log = peer.log) (hdrawn : peer.drawn ⊆ peer'.drawn)
      (hget : ∀ {nonce c}, peer'.challenges.challenges.get nonce = some c →
        peer.challenges.challenges.get nonce = some c)
      (hsessions : ∀ {token session}, peer'.sessions.store.backend.get token = some session →
        peer.sessions.store.backend.get token = some session)
      (hholding : ∀ h' ∈ t'.holding, ∃ h ∈ t.holding, h'.milestone = h.milestone ∧
        h'.request = h.request ∧ h'.challenge = h.challenge ∧
          ∀ did ∈ h'.did, did ∈ h.did ∨ Authorised B h.request h.challenge did) :
      PeerStep B peer i t peer' t'
  | issues {challenge : Challenge} {store : ChallengeStore} {t' : PeerThread}
      (hfresh : challenge.nonce ∉ peer.drawn)
      (hstore : store.challenges = peer.challenges.challenges.insert challenge.nonce challenge)
      (ht' : t'.holding = none) :
      PeerStep B peer i t { peer with
        challenges := store
        drawn := challenge.nonce :: peer.drawn
        log := peer.log ++ [⟨i, peer.clock, challenge, .issued⟩] } t'
  | consumes {request : SessionRequest} {challenge : Challenge} {store : ChallengeStore}
      {t' : PeerThread} (hget : peer.challenges.challenges.get request.nonce = some challenge)
      (hstore : store.challenges = peer.challenges.challenges.remove request.nonce)
      (ht' : t'.holding = some ⟨.consumed, request, challenge, none⟩) :
      PeerStep B peer i t { peer with
        challenges := store
        log := peer.log ++ [⟨i, peer.clock, challenge, .consumed⟩] } t'
  | validates {request : SessionRequest} {challenge : Challenge} {t' : PeerThread}
      (ht : t.holding = some ⟨.consumed, request, challenge, none⟩)
      (hunexpired : peer.clock < challenge.expiresAt)
      (ht' : t'.holding = some ⟨.validated, request, challenge, none⟩) :
      PeerStep B peer i t { peer with
        log := peer.log ++ [⟨i, peer.clock, challenge, .validated request.nonce⟩] } t'
  | logsIn {request : SessionRequest} {challenge : Challenge} {session : Session}
      {server : SessionServer} {t' : PeerThread}
      (hsessions : server.store.backend = peer.sessions.store.backend.insert session)
      (ht : t.holding = some ⟨.validated, request, challenge, some session.did⟩)
      (ht' : t'.holding = none) :
      PeerStep B peer i t { peer with
        sessions := server
        log := peer.log ++ [⟨i, peer.clock, challenge, .loggedIn request session⟩] } t'

namespace ChallengeStore

variable {store store' : ChallengeStore} {did : Str} {nonceBytes : ByteArr 32} {now : ClockReading}

/-- What the insertion does: nothing, or one challenge more under the drawn nonce. -/
theorem issue_cases (B : Build) (store : ChallengeStore) (did : Str) (nonceBytes : ByteArr 32)
    (now : ClockReading) :
    (∃ result, store.issue B did nonceBytes now = (result, store) ∧
      ∀ challenge, result ≠ some (.ok challenge)) ∨
    ∃ challenge, store.issue B did nonceBytes now = (some (.ok challenge),
        { store with challenges := store.challenges.insert challenge.nonce challenge }) ∧
      challenge.nonce = nonceOf nonceBytes := by
  unfold issue
  cases hexpiry : store.expiry now with
  | none => exact .inl ⟨none, rfl, by simp⟩
  | some expires =>
      dsimp only
      cases hbuild : challengeFor B store did nonceBytes now expires with
      | error e => exact .inl ⟨some (.error e), rfl, by simp⟩
      | ok challenge =>
          obtain ⟨message, _, hchallenge⟩ := bind_eq_ok.mp hbuild
          refine .inr ⟨challenge, rfl, ?_⟩
          rw [← Except.ok.inj hchallenge]

theorem get_of_get_cleanupExpired {c : Nat} {nonce : Str} {challenge : Challenge}
    (h : (store.cleanupExpired c).challenges.get nonce = some challenge) :
    store.challenges.get nonce = some challenge := by
  rw [cleanupExpired, KeyedMap.get_retain] at h
  exact (Option.filter_eq_some_iff.mp h).1

theorem get_of_get_removeVictim {victim : Option Str} {nonce : Str} {challenge : Challenge}
    (h : (store.removeVictim victim).challenges.get nonce = some challenge) :
    store.challenges.get nonce = some challenge := by
  cases victim with
  | none => exact h
  | some key =>
      rw [removeVictim, KeyedMap.get_remove] at h
      split_ifs at h
      exact h

/-- Short of its insertion, a `create` stores nothing new. -/
theorem get_of_createStep {stage stage' : CreateStage} {draw : StepDraw}
    (h : store.createStep B did stage draw = some (store', stage')) (hstage : stage ≠ .insert)
    {nonce : Str} {c : Challenge} (hget : store'.challenges.get nonce = some c) :
    store.challenges.get nonce = some c := by
  cases stage with
  | len =>
      simp only [createStep] at h
      split at h
      · obtain ⟨rfl, _⟩ := Prod.mk.inj (Option.some.inj h)
        exact hget
      · obtain ⟨rfl, _⟩ := Prod.mk.inj (Option.some.inj h)
        exact hget
  | cleanup =>
      obtain ⟨rfl, _⟩ := Prod.mk.inj (Option.some.inj h)
      exact get_of_get_cleanupExpired hget
  | lenAgain =>
      obtain ⟨rfl, _⟩ := Prod.mk.inj (Option.some.inj h)
      exact hget
  | scan =>
      obtain ⟨rfl, _⟩ := Prod.mk.inj (Option.some.inj h)
      exact hget
  | remove victim =>
      obtain ⟨rfl, _⟩ := Prod.mk.inj (Option.some.inj h)
      exact get_of_get_removeVictim hget
  | insert => exact absurd rfl hstage
  | returned result => cases h

end ChallengeStore

namespace SessionServer

variable {server server' : SessionServer} {overflowChecks : Bool} {did : Str}
  {stage stage' : SessionCreateStage} {draw : SessionStepDraw}

/-- Short of its insertion, a `create` makes no session. -/
theorem event_of_createStep (h : server.createStep overflowChecks did stage draw =
    some (server', stage')) (hstage : stage ≠ .insert) (request : SessionRequest)
    (stored : Challenge) : stage'.event request stored = none := by
  cases stage with
  | len =>
      obtain ⟨_, rfl⟩ := Prod.mk.inj (Option.some.inj h)
      split_ifs <;> rfl
  | purgeLen =>
      obtain ⟨_, rfl⟩ := Prod.mk.inj (Option.some.inj h)
      rfl
  | purgeRetain before =>
      obtain ⟨_, rfl⟩ := Prod.mk.inj (Option.some.inj h)
      rfl
  | purgeLenAfter before =>
      obtain ⟨_, rfl⟩ := Prod.mk.inj (Option.some.inj h)
      split_ifs <;> rfl
  | lenAgain =>
      obtain ⟨_, rfl⟩ := Prod.mk.inj (Option.some.inj h)
      split_ifs <;> rfl
  | sessionsForDid =>
      obtain ⟨_, rfl⟩ := Prod.mk.inj (Option.some.inj h)
      rfl
  | remove oldest =>
      obtain ⟨_, rfl⟩ := Prod.mk.inj (Option.some.inj h)
      rfl
  | insert => exact absurd rfl hstage
  | returned result => cases h

/-- Short of the insertion of a `create`, an access stores nothing new. -/
theorem get_of_step_of_ne_insert {t t' : SessionThread}
    (h : server.step overflowChecks t draw = some (server', t'))
    (ht : ∀ did, t ≠ .create did .insert) {token : Str} {session : Session}
    (hget : server'.store.backend.get token = some session) :
    server.store.backend.get token = some session := by
  cases accesses_step h with
  | kept p _ => exact (get_keep.mp hget).1
  | checks _ => exact hget
  | inserts _ => exact absurd rfl (ht _)

end SessionServer

namespace PeerStep

variable {peer peer' : PeerState} {i : Nat} {t t' : PeerThread} {overflowChecks : Bool}
  {draw : PeerDraw}

/-- A step that leaves the log and ends without a challenge in hand. -/
theorem idle (hclock : peer'.clock = peer.clock) (hlog : peer'.log = peer.log)
    (hdrawn : peer.drawn ⊆ peer'.drawn)
    (hget : ∀ {nonce c}, peer'.challenges.challenges.get nonce = some c →
      peer.challenges.challenges.get nonce = some c)
    (hsessions : ∀ {token session}, peer'.sessions.store.backend.get token = some session →
      peer.sessions.store.backend.get token = some session)
    (ht' : t'.holding = none) : PeerStep B peer i t peer' t' := by
  refine .quiet hclock hlog hdrawn hget hsessions ?_
  intro held hheld
  rw [ht'] at hheld
  cases hheld

theorem same (h : t'.holding = none) : PeerStep B peer i t peer t' :=
  idle rfl rfl (List.Subset.refl _) id id h

theorem ofChallengeStep {did : Option Str} {stage stage' : ChallengeStage}
    (h : peer.challengeStep B i did stage draw = some (peer', stage')) :
    PeerStep B peer i (.challenge did stage) peer' (.challenge did stage') := by
  cases stage with
  | received =>
      cases did with
      | none =>
          obtain ⟨rfl, _⟩ := Prod.mk.inj (Option.some.inj h)
          exact same rfl
      | some did =>
          obtain ⟨rfl, _⟩ := Prod.mk.inj (Option.some.inj h)
          exact same rfl
  | creating did stage =>
      by_cases hreturned : ∃ result, stage = .returned result
      · obtain ⟨result, rfl⟩ := hreturned
        cases result with
        | none => cases h
        | some result =>
            cases result with
            | error e =>
                obtain ⟨rfl, _⟩ := Prod.mk.inj (Option.some.inj h)
                exact same rfl
            | ok challenge =>
                obtain ⟨rfl, _⟩ := Prod.mk.inj (Option.some.inj h)
                exact same rfl
      by_cases hinsert : stage = .insert
      · subst hinsert
        simp only [PeerState.challengeStep, ChallengeStore.createStep, Option.map_some] at h
        split_ifs at h with hdrawn
        obtain ⟨rfl, rfl⟩ := Prod.mk.inj (Option.some.inj h)
        rcases ChallengeStore.issue_cases B peer.challenges did draw.nonceBytes draw.now with
          ⟨result, hissue, hnot⟩ | ⟨challenge, hissue, hnonce⟩
        · rw [hissue]
          have hevent : (CreateStage.returned result).event = none := by
            cases result with
            | none => rfl
            | some result =>
                cases result with
                | error e => rfl
                | ok challenge => exact absurd rfl (hnot challenge)
          rw [hevent]
          exact idle rfl rfl (List.subset_cons_self _ _) id id rfl
        · rw [hissue]
          rw [← hnonce] at hdrawn ⊢
          exact .issues hdrawn rfl rfl
      · have hstep : (peer.challenges.createStep B did stage ⟨draw.now, draw.nonceBytes⟩).map
            (fun moved =>
              ({ peer with challenges := moved.1 }, ChallengeStage.creating did moved.2)) =
              some (peer', stage') := by
          cases stage with
          | insert => exact absurd rfl hinsert
          | returned result => exact absurd ⟨result, rfl⟩ hreturned
          | _ => exact h
        obtain ⟨⟨store, stage₁⟩, hmoved, heq⟩ := Option.map_eq_some_iff.mp hstep
        obtain ⟨rfl, rfl⟩ := Prod.mk.inj heq
        exact idle rfl rfl (List.Subset.refl _)
          (ChallengeStore.get_of_createStep hmoved hinsert) id rfl
  | responded response => cases h

/-- The steps of a login while it has no session yet to make. -/
theorem ofValidating {request : SessionRequest} {stage : ValidateStage} {stage' : LoginStage}
    (hnow : draw.now.secs = peer.clock)
    (h : peer.loginStep B overflowChecks i request (.validating stage) draw =
      some (peer', stage')) :
    PeerStep B peer i (.login request (.validating stage)) peer' (.login request stage') := by
  cases stage with
  | remove =>
      cases hget : peer.challenges.challenges.get request.nonce with
      | none =>
          simp only [PeerState.loginStep, ChallengeStore.validateStep, hget,
            Option.map_some] at h
          obtain ⟨rfl, rfl⟩ := Prod.mk.inj (Option.some.inj h)
          exact same rfl
      | some challenge =>
          simp only [PeerState.loginStep, ChallengeStore.validateStep, hget,
            Option.map_some] at h
          obtain ⟨rfl, rfl⟩ := Prod.mk.inj (Option.some.inj h)
          exact .consumes hget rfl rfl
  | clock challenge =>
      simp only [PeerState.loginStep, ChallengeStore.validateStep, Option.map_some,
        hnow] at h
      obtain ⟨rfl, rfl⟩ := Prod.mk.inj (Option.some.inj h)
      by_cases hexpired : challenge.expiresAt ≤ peer.clock
      · rw [show ChallengeStore.checkExpiry challenge peer.clock = .error .challengeExpired
          from if_pos hexpired]
        exact same rfl
      · rw [show ChallengeStore.checkExpiry challenge peer.clock = .ok challenge
          from if_neg hexpired]
        exact .validates rfl (Nat.not_le.mp hexpired) rfl
  | returned result =>
      cases result with
      | error e =>
          cases e <;>
            · obtain ⟨rfl, rfl⟩ := Prod.mk.inj (Option.some.inj h)
              exact same rfl
      | ok stored =>
          simp only [PeerState.loginStep] at h
          cases hauth : authorise B request stored with
          | error status =>
              rw [hauth] at h
              obtain ⟨rfl, rfl⟩ := Prod.mk.inj (Option.some.inj h)
              exact same rfl
          | ok principal =>
              rw [hauth] at h
              obtain ⟨rfl, rfl⟩ := Prod.mk.inj (Option.some.inj h)
              refine .quiet rfl rfl (List.Subset.refl _) id id ?_
              rintro held ⟨⟩
              refine ⟨_, rfl, rfl, rfl, rfl, ?_⟩
              rintro did ⟨⟩
              exact .inr ⟨principal, hauth, rfl⟩

/-- The steps of a login that makes its session. -/
theorem ofCreating {request : SessionRequest} {stored : Challenge} {did : Str}
    {stage : SessionCreateStage} {stage' : LoginStage}
    (h : peer.loginStep B overflowChecks i request (.creating stored did stage) draw =
      some (peer', stage')) :
    PeerStep B peer i (.login request (.creating stored did stage)) peer'
      (.login request stage') := by
  by_cases hreturned : ∃ result, stage = .returned result
  · obtain ⟨result, rfl⟩ := hreturned
    cases result with
    | none => cases h
    | some result =>
        cases result with
        | error e =>
            obtain ⟨rfl, rfl⟩ := Prod.mk.inj (Option.some.inj h)
            exact same rfl
        | ok session =>
            obtain ⟨rfl, rfl⟩ := Prod.mk.inj (Option.some.inj h)
            exact same rfl
  have hholding : (PeerThread.login request (.creating stored did stage)).holding =
      some ⟨.validated, request, stored, some did⟩ := by
    cases stage with
    | returned result => exact absurd ⟨result, rfl⟩ hreturned
    | _ => rfl
  by_cases hinsert : stage = .insert
  · subst hinsert
    simp only [PeerState.loginStep, SessionServer.createStep] at h
    split_ifs at h with hdrawn
    · cases h
    obtain ⟨rfl, rfl⟩ := Prod.mk.inj (Option.some.inj h)
    rcases SessionStore.issue_cases overflowChecks peer.sessions.store did draw.tokenBytes
      peer.clock with ⟨hissue, _⟩ | ⟨validUntil, hissue, _⟩
    · rw [hissue]
      exact idle rfl rfl (List.Subset.refl _) id id rfl
    · rw [hissue]
      exact .logsIn rfl hholding rfl
  · have hstep : (peer.sessions.createStep overflowChecks did stage
        ⟨peer.clock, draw.tokenBytes⟩).map (fun moved =>
          ({ peer with sessions := moved.1 }.record i (moved.2.event request stored),
            LoginStage.creating stored did moved.2)) = some (peer', stage') := by
      cases stage with
      | returned result => exact absurd ⟨result, rfl⟩ hreturned
      | insert => exact absurd rfl hinsert
      | _ => exact h
    obtain ⟨⟨server, stage₁⟩, hmoved, heq⟩ := Option.map_eq_some_iff.mp hstep
    obtain ⟨rfl, rfl⟩ := Prod.mk.inj heq
    rw [SessionServer.event_of_createStep hmoved hinsert request stored]
    refine .quiet rfl rfl (List.Subset.refl _) id ?_ ?_
    · have hmove : peer.sessions.step overflowChecks (.create did stage)
          ⟨peer.clock, draw.tokenBytes⟩ = some (server, .create did stage₁) := by
        rw [SessionServer.step, hmoved]
        rfl
      intro token session hget
      refine SessionServer.get_of_step_of_ne_insert hmove (fun did' heq => hinsert ?_) hget
      exact (SessionThread.create.inj heq).2
    · intro held hheld
      refine ⟨held, ?_, rfl, rfl, rfl, fun did hdid => .inl hdid⟩
      rw [hholding]
      cases stage₁ with
      | returned result => cases hheld
      | _ => exact hheld

theorem ofLoginStep {request : SessionRequest} {stage stage' : LoginStage}
    (hnow : draw.now.secs = peer.clock)
    (h : peer.loginStep B overflowChecks i request stage draw = some (peer', stage')) :
    PeerStep B peer i (.login request stage) peer' (.login request stage') := by
  cases stage with
  | validating stage => exact ofValidating hnow h
  | creating stored did stage => exact ofCreating h
  | responded response => cases h

/-- Every step of a thread is one of these. -/
theorem of_step (hnow : draw.now.secs = peer.clock)
    (h : peer.step B overflowChecks i t draw = some (peer', t')) :
    PeerStep B peer i t peer' t' := by
  cases t with
  | challenge did stage =>
      obtain ⟨⟨_, stage'⟩, hmoved, heq⟩ := Option.map_eq_some_iff.mp h
      obtain ⟨rfl, rfl⟩ := Prod.mk.inj heq
      exact ofChallengeStep hmoved
  | login request stage =>
      obtain ⟨⟨_, stage'⟩, hmoved, heq⟩ := Option.map_eq_some_iff.mp h
      obtain ⟨rfl, rfl⟩ := Prod.mk.inj heq
      exact ofLoginStep hnow hmoved
  | sweep done =>
      cases done with
      | true => cases h
      | false =>
          obtain ⟨rfl, rfl⟩ := Prod.mk.inj (Option.some.inj h)
          exact idle rfl rfl (List.Subset.refl _) ChallengeStore.get_of_get_cleanupExpired id rfl
  | session call =>
      have hcall : ∀ did stage, call ≠ .create did stage := by
        rintro did stage rfl
        cases h
      have hstep : (peer.sessions.step overflowChecks call ⟨peer.clock, draw.tokenBytes⟩).map
          (fun moved => ({ peer with sessions := moved.1 }, PeerThread.session moved.2)) =
            some (peer', t') := by
        cases call with
        | create did stage => exact absurd rfl (hcall did stage)
        | _ => exact h
      obtain ⟨⟨server, call'⟩, hmoved, heq⟩ := Option.map_eq_some_iff.mp hstep
      obtain ⟨rfl, rfl⟩ := Prod.mk.inj heq
      exact idle rfl rfl (List.Subset.refl _) id
        (SessionServer.get_of_step_of_ne_insert hmoved fun did => hcall did _) rfl

end PeerStep

end AquaAuth
