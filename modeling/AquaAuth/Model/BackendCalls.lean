import AquaAuth.Model.Session
set_option autoImplicit false
/-!
# Concurrent calls of the in-memory backend

The operations of `InMemoryBackend` as the sequences of their atomic accesses to the map, with
what each call returns.  A history records which call added or removed which entry: it is what
the reported numbers are compared with, and no call reads it.
-/

namespace AquaAuth

open Support

/-- A subtraction of 64-bit `usize` numbers.  A build with overflow checks panics where another
one wraps. -/
def subUsize (overflowChecks : Bool) (a b : Nat) : Option Nat :=
  if b ≤ a then some (a - b)
  else if overflowChecks then none
  else some (a + 2 ^ 64 - b)

/-- Where a call of `purge_expired` stands, named by the access it makes next. -/
inductive SweepStage where
  | len
  | retain (before : Nat)
  | lenAfter (before : Nat)
  | returned (count : Nat)
  | panicked
  deriving DecidableEq

/-- A call of the backend. -/
inductive BackendCall where
  | insert (session : Session) (done : Bool)
  | remove (token : Str) (result : Option Bool)
  | removeAllForDid (did : Str) (stage : RevokeAllStage)
  | purgeExpired (nowSecs : Nat) (stage : SweepStage)
  deriving DecidableEq

/-- What a call did to the map. -/
inductive BackendEvent where
  /-- The first length a purge reads. -/
  | counted
  | added (token : Str)
  | removed (token : Str)
  deriving DecidableEq

/-- The backend and what its calls did to it, latest first. -/
structure BackendServer where
  backend : InMemoryBackend
  history : List (Nat × BackendEvent)
  deriving DecidableEq

namespace BackendServer

/-- The entries that differ between two states of the map. -/
def changes (before after : InMemoryBackend) : List BackendEvent :=
  (after.sessions.missingFrom before.sessions).map .added ++
    (before.sessions.missingFrom after.sessions).map .removed

/-- A call changes the map. -/
def become (server : BackendServer) (i : Nat) (backend : InMemoryBackend) : BackendServer :=
  ⟨backend, (changes server.backend backend).map (Prod.mk i) ++ server.history⟩

variable (overflowChecks : Bool) (server : BackendServer) (i : Nat)

/-- One atomic access of `remove_all_for_did`. -/
def removeAllStep (did : Str) (stage : RevokeAllStage) : Option (BackendServer × RevokeAllStage) :=
  match stage with
  | .scan =>
      let tokens := (server.backend.sessionsForDid did).map Session.token
      some (server, .removing tokens tokens.length)
  | .removing [] count => some (server, .returned count)
  | .removing (token :: tokens) count =>
      some (server.become i (server.backend.erase token), .removing tokens count)
  | .returned _ => none

/-- One atomic access of `purge_expired`. -/
def purgeStep (nowSecs : Nat) (stage : SweepStage) : Option (BackendServer × SweepStage) :=
  match stage with
  | .len =>
      some ({ server with history := (i, .counted) :: server.history },
        .retain server.backend.len)
  | .retain before => some (server.become i (server.backend.retainLive nowSecs), .lenAfter before)
  | .lenAfter before =>
      match subUsize overflowChecks before server.backend.len with
      | some count => some (server, .returned count)
      | none => some (server, .panicked)
  | .returned _ => none
  | .panicked => none

/-- One atomic access of a call. -/
def step (call : BackendCall) : Option (BackendServer × BackendCall) :=
  match call with
  | .insert session false =>
      some (server.become i (server.backend.insert session), .insert session true)
  | .insert _ true => none
  | .remove token none =>
      some (server.become i (server.backend.erase token),
        .remove token (some (server.backend.remove token).1))
  | .remove _ (some _) => none
  | .removeAllForDid did stage =>
      (server.removeAllStep i did stage).map fun moved => (moved.1, .removeAllForDid did moved.2)
  | .purgeExpired nowSecs stage =>
      (server.purgeStep overflowChecks i nowSecs stage).map fun moved =>
        (moved.1, .purgeExpired nowSecs moved.2)

end BackendServer

/-- A call that has made no access. -/
def BackendCall.starts : BackendCall → Bool
  | .insert _ done => !done
  | .remove _ result => result = none
  | .removeAllForDid _ stage => stage = .scan
  | .purgeExpired _ stage => stage = .len

/-- Calls of one in-memory backend. -/
def backendSystem (overflowChecks : Bool) :
    Interleaving.System BackendServer BackendCall Unit Empty where
  entry := BackendCall.starts
  move server i call _ := server.step overflowChecks i call
  ambient _ event := event.elim

end AquaAuth
