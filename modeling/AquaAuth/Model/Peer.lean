import AquaAuth.Model.Challenge
import AquaAuth.Model.Client
import AquaAuth.Model.Principal
import AquaAuth.Model.Session
set_option autoImplicit false
/-!
# The login server

`challenge_handler` and `session_handler` of the test kit's peer, over one challenge store and one
session store.  A request is a thread whose steps are those of the store calls it makes, with the
computations between them; the sweeps and the other calls of the session store run beside.

The clock is part of the shared state and moves by itself.  The log is a history variable: it
records the issue of a challenge, its removal by a `validate`, the `Ok` of that `validate` and the
insertion of a session, and no step reads it.
-/

namespace AquaAuth

open Support Support.Result

/-- `axum::http::StatusCode`, as far as the handlers answer with it. -/
inductive StatusCode where
  | badRequest
  | unauthorized
  | notFound
  | serviceUnavailable
  deriving DecidableEq

/-- `wire::SessionResponse` -/
structure SessionResponse where
  did : Str
  token : Str
  validUntil : Nat
  createdAt : Nat
  deriving DecidableEq

/-- `str::trim_start_matches("0x")` -/
def trimStart0x : Str → Str
  | '0' :: 'x' :: rest => trimStart0x rest
  | s => s

/-- What `session_handler` asks between the two stores. -/
def authorise (B : Build) (request : SessionRequest) (stored : Challenge) :
    Except StatusCode (Principal B) := do
  ensure (stored.did = request.did) .unauthorized
  let signature ← (Hex.decode (trimStart0x request.signature)).mapError fun _ => .unauthorized
  let publicKey ← request.publicKey.mapM fun hexPk =>
    (Hex.decode (trimStart0x hexPk)).mapError fun _ => .unauthorized
  (authenticateWithPublicKey B request.did stored.message signature publicKey).mapError
    fun _ => .unauthorized

/-- Where a call of `challenge_handler` stands. -/
inductive ChallengeStage where
  | received
  | creating (did : Str) (stage : CreateStage)
  | responded (response : Except StatusCode ChallengeEnvelope)
  deriving DecidableEq

/-- Where a call of `session_handler` stands. -/
inductive LoginStage where
  | validating (stage : ValidateStage)
  | creating (stored : Challenge) (did : Str) (stage : SessionCreateStage)
  | responded (response : Except StatusCode SessionResponse)
  deriving DecidableEq

/-- A request, a sweep of the challenges, or another call of the session store. -/
inductive PeerThread where
  | challenge (did : Option Str) (stage : ChallengeStage)
  | login (request : SessionRequest) (stage : LoginStage)
  | sweep (done : Bool)
  | session (call : SessionThread)
  deriving DecidableEq

/-- What the log records of a challenge. -/
inductive PeerEvent where
  | issued
  | consumed
  /-- A `validate` of the nonce returned `Ok`. -/
  | validated (nonce : Str)
  | loggedIn (request : SessionRequest) (session : Session)
  deriving DecidableEq

structure LogEntry where
  thread : Nat
  now : Nat
  challenge : Challenge
  event : PeerEvent
  deriving DecidableEq

structure PeerState where
  clock : Nat
  challenges : ChallengeStore
  sessions : SessionServer
  /-- The nonces drawn so far. -/
  drawn : List Str
  log : List LogEntry
  deriving DecidableEq

/-- A server on which nothing has happened. -/
def PeerState.start (clock challengeTtl : Nat) (httl : challengeTtl < 2 ^ 64) (domain uri : Str)
    (maxChallenges sessionTtl maxSessions maxSessionsPerDid : Nat) : PeerState where
  clock := clock
  challenges := .withCapacity challengeTtl httl domain uri maxChallenges
  sessions := ⟨.withCapacity sessionTtl maxSessions maxSessionsPerDid, []⟩
  drawn := []
  log := []

/-- What a step draws: a reading of the clock and random bytes. -/
structure PeerDraw where
  now : ClockReading
  nonceBytes : ByteArr 32
  tokenBytes : ByteArr 32
  deriving DecidableEq

/-- What the log records when a `create` of the challenge store gets there. -/
def CreateStage.event : CreateStage → Option (Challenge × PeerEvent)
  | .returned (some (.ok challenge)) => some (challenge, .issued)
  | _ => none

/-- The same for a `validate` of a nonce. -/
def ValidateStage.event (nonce : Str) : ValidateStage → Option (Challenge × PeerEvent)
  | .clock challenge => some (challenge, .consumed)
  | .returned (.ok challenge) => some (challenge, .validated nonce)
  | _ => none

/-- The same for a `create` of the session store. -/
def SessionCreateStage.event (request : SessionRequest) (stored : Challenge) :
    SessionCreateStage → Option (Challenge × PeerEvent)
  | .returned (some (.ok session)) => some (stored, .loggedIn request session)
  | _ => none

namespace PeerState

def record (peer : PeerState) (thread : Nat) : Option (Challenge × PeerEvent) → PeerState
  | none => peer
  | some (challenge, event) =>
      { peer with log := peer.log ++ [⟨thread, peer.clock, challenge, event⟩] }

variable (B : Build) (overflowChecks : Bool) (peer : PeerState) (thread : Nat)

/-- One step of `challenge_handler`.  The random source never draws a nonce twice. -/
def challengeStep (did : Option Str) (stage : ChallengeStage) (draw : PeerDraw) :
    Option (PeerState × ChallengeStage) :=
  match stage with
  | .received =>
      match did with
      | none => some (peer, .responded (.error .badRequest))
      | some did =>
          some (peer, if (findDidMethod B did).isNone then .responded (.error .badRequest)
            else .creating did .len)
  | .creating _ (.returned none) => none
  | .creating _ (.returned (some (.error _))) => some (peer, .responded (.error .badRequest))
  | .creating _ (.returned (some (.ok challenge))) =>
      some (peer, .responded (.ok ⟨challenge.nonce, challenge.message, challenge.expiresAt⟩))
  | .creating did .insert =>
      let nonce := ChallengeStore.nonceOf draw.nonceBytes
      if nonce ∈ peer.drawn then none
      else
        (peer.challenges.createStep B did .insert ⟨draw.now, draw.nonceBytes⟩).map fun moved =>
          ({ peer with challenges := moved.1, drawn := nonce :: peer.drawn }.record thread
            moved.2.event, .creating did moved.2)
  | .creating did stage =>
      (peer.challenges.createStep B did stage ⟨draw.now, draw.nonceBytes⟩).map fun moved =>
        ({ peer with challenges := moved.1 }, .creating did moved.2)
  | .responded _ => none

/-- One step of `session_handler`. -/
def loginStep (request : SessionRequest) (stage : LoginStage) (draw : PeerDraw) :
    Option (PeerState × LoginStage) :=
  match stage with
  | .validating (.returned (.error .challengeNotFound)) =>
      some (peer, .responded (.error .notFound))
  | .validating (.returned (.error _)) => some (peer, .responded (.error .unauthorized))
  | .validating (.returned (.ok stored)) =>
      match authorise B request stored with
      | .error status => some (peer, .responded (.error status))
      | .ok principal => some (peer, .creating stored principal.did .len)
  | .validating stage =>
      (peer.challenges.validateStep request.nonce stage ⟨draw.now, draw.nonceBytes⟩).map
        fun moved => ({ peer with challenges := moved.1 }.record thread
          (moved.2.event request.nonce), .validating moved.2)
  | .creating _ _ (.returned none) => none
  | .creating _ _ (.returned (some (.error _))) =>
      some (peer, .responded (.error .serviceUnavailable))
  | .creating _ _ (.returned (some (.ok session))) =>
      some (peer, .responded
        (.ok ⟨session.did, session.token, session.validUntil, session.createdAt⟩))
  | .creating stored did stage =>
      (peer.sessions.createStep overflowChecks did stage ⟨peer.clock, draw.tokenBytes⟩).map
        fun moved => ({ peer with sessions := moved.1 }.record thread
          (moved.2.event request stored), .creating stored did moved.2)
  | .responded _ => none

/-- One step of a thread. -/
def step (t : PeerThread) (draw : PeerDraw) : Option (PeerState × PeerThread) :=
  match t with
  | .challenge did stage =>
      (peer.challengeStep B thread did stage draw).map fun moved =>
        (moved.1, .challenge did moved.2)
  | .login request stage =>
      (peer.loginStep B overflowChecks thread request stage draw).map fun moved =>
        (moved.1, .login request moved.2)
  | .sweep false =>
      some ({ peer with challenges := peer.challenges.cleanupExpired peer.clock }, .sweep true)
  | .sweep true => none
  | .session (.create _ _) => none
  | .session call =>
      (peer.sessions.step overflowChecks call ⟨peer.clock, draw.tokenBytes⟩).map fun moved =>
        ({ peer with sessions := moved.1 }, .session moved.2)

end PeerState

/-- A request as it arrives, a sweep, or a call of the session store other than `create`. -/
def PeerThread.starts : PeerThread → Bool
  | .challenge _ stage => stage = .received
  | .login _ stage => stage = .validating .remove
  | .sweep done => !done
  | .session (.create _ _) => false
  | .session call => call.starts

/-- Requests, sweeps and calls at one server.  A step reads the clock as it stands; the clock may
be set to anything. -/
def peerSystem (B : Build) (overflowChecks : Bool) :
    Interleaving.System PeerState PeerThread PeerDraw Nat where
  entry := PeerThread.starts
  move peer thread t draw :=
    if draw.now.secs = peer.clock then peer.step B overflowChecks thread t draw else none
  ambient peer now := some { peer with clock := now }

end AquaAuth
