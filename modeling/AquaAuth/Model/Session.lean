import AquaAuth.Support.Interleaving
import AquaAuth.Support.KeyedMap
import AquaAuth.Support.Service
import AquaAuth.Model.Error
import AquaAuth.Model.Crates
set_option autoImplicit false
/-!
# The session store

`session_backend.rs` and `session.rs`: the store over its in-memory backend as one
caller after another sees it, and its calls as the sequences of their atomic accesses
to the backend's map.

Times are in seconds, as `Utc::now().timestamp() as u64` gives them.
-/

namespace AquaAuth

open Support

/-- `types::Session` -/
structure Session where
  did : Str
  token : Str
  validUntil : Nat
  createdAt : Nat
  deriving DecidableEq

/-- `types::SessionInfo` -/
structure SessionInfo where
  did : Str
  createdAt : Nat
  validUntil : Nat
  deriving DecidableEq

/-! ## session_backend.rs -/

/-- `InMemoryBackend`.  A session is stored under its own token. -/
structure InMemoryBackend where
  sessions : KeyedMap Str Session
  keyed : ∀ e ∈ sessions.entries, e.2.token = e.1
  deriving DecidableEq

namespace InMemoryBackend

/-- `InMemoryBackend::new` -/
def new : InMemoryBackend := ⟨.empty, by simp [KeyedMap.empty]⟩

/-- Keep the sessions that satisfy a test. -/
def retain (p : Session → Bool) (backend : InMemoryBackend) : InMemoryBackend :=
  ⟨backend.sessions.retain fun _ s => p s, fun e he => backend.keyed e (List.mem_of_mem_filter he)⟩

/-- `insert` -/
def insert (backend : InMemoryBackend) (session : Session) : InMemoryBackend :=
  ⟨backend.sessions.insert session.token session, by
    intro e he
    rcases List.mem_cons.mp he with rfl | he
    · rfl
    · exact backend.keyed e (List.mem_of_mem_filter he)⟩

/-- `get` -/
def get (backend : InMemoryBackend) (token : Str) : Option Session := backend.sessions.get token

/-- The removal of one token from the map. -/
def erase (backend : InMemoryBackend) (token : Str) : InMemoryBackend :=
  ⟨backend.sessions.remove token, fun e he => backend.keyed e (List.mem_of_mem_filter he)⟩

/-- `remove` -/
def remove (backend : InMemoryBackend) (token : Str) : Bool × InMemoryBackend :=
  (backend.sessions.containsKey token, backend.erase token)

/-- `all` -/
def all (backend : InMemoryBackend) : List Session := backend.sessions.entries.map Prod.snd

/-- `sessions_for_did` -/
def sessionsForDid (backend : InMemoryBackend) (did : Str) : List Session :=
  backend.all.filter fun s => s.did = did

/-- `remove_all_for_did` -/
def removeAllForDid (backend : InMemoryBackend) (did : Str) : Nat × InMemoryBackend :=
  let tokens := (backend.sessionsForDid did).map Session.token
  (tokens.length, tokens.foldl erase backend)

/-- `len` -/
def len (backend : InMemoryBackend) : Nat := backend.sessions.len

/-- The `retain` of `purge_expired`. -/
def retainLive (backend : InMemoryBackend) (nowSecs : Nat) : InMemoryBackend :=
  backend.retain fun s => nowSecs < s.validUntil

/-- `purge_expired` -/
def purgeExpired (backend : InMemoryBackend) (nowSecs : Nat) : Nat × InMemoryBackend :=
  (backend.len - (backend.retainLive nowSecs).len, backend.retainLive nowSecs)

end InMemoryBackend

/-! ## session.rs -/

/-- An addition of unsigned 64-bit numbers.  A build with overflow checks panics where
another one wraps. -/
def addU64 (overflowChecks : Bool) (a b : Nat) : Option Nat :=
  if a + b < 2 ^ 64 then some (a + b)
  else if overflowChecks then none
  else some ((a + b) % 2 ^ 64)

/-- `SessionStore` over the in-memory backend. -/
structure SessionStore where
  backend : InMemoryBackend
  ttlSecs : Nat
  maxSessions : Nat
  maxSessionsPerDid : Nat
  deriving DecidableEq

/-- What a call of `create` draws from its surroundings. -/
structure SessionDraws where
  /-- The reading of the purge at capacity. -/
  purgeAt : Nat
  tokenBytes : ByteArr 32
  now : Nat

/-- The token of 32 random bytes. -/
def tokenOf (tokenBytes : ByteArr 32) : Str := Hex.encode tokenBytes.1

namespace SessionStore

/-- `SessionStore::with_capacity` -/
def withCapacity (ttlSecs maxSessions maxSessionsPerDid : Nat) : SessionStore :=
  ⟨.new, ttlSecs, maxSessions, maxSessionsPerDid⟩

def isFull (store : SessionStore) : Bool := store.maxSessions ≤ store.backend.len

/-- `SessionStore::cleanup_expired` -/
def cleanupExpired (store : SessionStore) (now : Nat) : SessionStore :=
  { store with backend := (store.backend.purgeExpired now).2 }

/-- The order eviction follows: oldest first, ties by token. -/
def evictionRank (session : Session) : Lex (Nat × Str) := toLex (session.createdAt, session.token)

/-- The session `enforce_per_did_cap` evicts, out of the sessions of one DID. -/
def overQuota (store : SessionStore) (sessions : List Session) : Option Session :=
  if sessions.length < store.maxSessionsPerDid then none
  else sessions.minOn? evictionRank

/-- The removal of `enforce_per_did_cap`. -/
def evict (store : SessionStore) : Option Session → SessionStore
  | some session => { store with backend := (store.backend.remove session.token).2 }
  | none => store

/-- `SessionStore::enforce_per_did_cap` -/
def enforcePerDidCap (store : SessionStore) (did : Str) : SessionStore :=
  store.evict (store.overQuota (store.backend.sessionsForDid did))

/-- The insertion that ends `create`; nothing is inserted when the addition panics. -/
def issue (overflowChecks : Bool) (store : SessionStore) (did : Str) (tokenBytes : ByteArr 32)
    (now : Nat) : Option (Except AuthError Session) × SessionStore :=
  match addU64 overflowChecks now store.ttlSecs with
  | none => (none, store)
  | some validUntil =>
      let session : Session := ⟨did, tokenOf tokenBytes, validUntil, now⟩
      (some (.ok session), { store with backend := store.backend.insert session })

/-- What `create` does once it has found room. -/
def admitDid (overflowChecks : Bool) (store : SessionStore) (did : Str) (draws : SessionDraws) :
    Option (Except AuthError Session) × SessionStore :=
  (store.enforcePerDidCap did).issue overflowChecks did draws.tokenBytes draws.now

/-- `SessionStore::create` -/
def create (overflowChecks : Bool) (store : SessionStore) (did : Str) (draws : SessionDraws) :
    Option (Except AuthError Session) × SessionStore :=
  if store.isFull then
    let store := store.cleanupExpired draws.purgeAt
    if store.isFull then (some (.error (.sessionStoreFull store.maxSessions)), store)
    else store.admitDid overflowChecks did draws
  else store.admitDid overflowChecks did draws

/-- `SessionStore::revoke` -/
def revoke (store : SessionStore) (token : Str) : Bool × SessionStore :=
  ((store.backend.remove token).1, { store with backend := (store.backend.remove token).2 })

/-- `SessionStore::revoke_all_for_did` -/
def revokeAllForDid (store : SessionStore) (did : Str) : Nat × SessionStore :=
  ((store.backend.removeAllForDid did).1,
    { store with backend := (store.backend.removeAllForDid did).2 })

/-- `SessionStore::validate` -/
def validate (store : SessionStore) (token : Str) (now : Nat) :
    Except AuthError Str × SessionStore :=
  match store.backend.get token with
  | none => (.error .sessionNotFound, store)
  | some session =>
      if session.validUntil ≤ now then
        (.error .sessionExpired, { store with backend := (store.backend.remove token).2 })
      else (.ok session.did, store)

/-- `SessionStore::list_sessions` -/
def listSessions (store : SessionStore) (now : Nat) : List SessionInfo :=
  (store.backend.all.filter fun s => now < s.validUntil).map
    fun s => ⟨s.did, s.createdAt, s.validUntil⟩

end SessionStore

/-! ## One call after another -/

/-- A call of the store, with what it draws. -/
inductive SessionOp where
  | create (did : Str) (draws : SessionDraws)
  | validate (token : Str) (now : Nat)
  | revoke (token : Str)
  | revokeAllForDid (did : Str)
  | listSessions (now : Nat)
  | cleanupExpired (now : Nat)

/-- What a call returns. -/
inductive SessionAnswer where
  | created (result : Option (Except AuthError Session))
  | validated (result : Except AuthError Str)
  | revoked (removed : Bool)
  | revokedAll (removed : Nat)
  | listed (sessions : List SessionInfo)
  | swept
  deriving DecidableEq

namespace SessionStore

def call (overflowChecks : Bool) (store : SessionStore) : SessionOp → SessionAnswer × SessionStore
  | .create did draws =>
      let outcome := store.create overflowChecks did draws
      (.created outcome.1, outcome.2)
  | .validate token now =>
      let outcome := store.validate token now
      (.validated outcome.1, outcome.2)
  | .revoke token =>
      let outcome := store.revoke token
      (.revoked outcome.1, outcome.2)
  | .revokeAllForDid did =>
      let outcome := store.revokeAllForDid did
      (.revokedAll outcome.1, outcome.2)
  | .listSessions now => (.listed (store.listSessions now), store)
  | .cleanupExpired now => (.swept, store.cleanupExpired now)

end SessionStore

/-- The readings of the clock a call takes in turn. -/
def SessionOp.readings : SessionOp → List Nat
  | .create _ draws => [draws.purgeAt, draws.now]
  | .validate _ now => [now]
  | .revoke _ => []
  | .revokeAllForDid _ => []
  | .listSessions now => [now]
  | .cleanupExpired now => [now]

/-- The session store as a service. -/
def sessionService (overflowChecks : Bool) : Service Nat SessionStore SessionOp SessionAnswer where
  call := SessionStore.call overflowChecks
  readings := SessionOp.readings

/-! ## Concurrent calls -/

/-- Where a call of `create` stands, named by the access it makes next. -/
inductive SessionCreateStage where
  | len
  | purgeLen
  | purgeRetain (before : Nat)
  | purgeLenAfter (before : Nat)
  | lenAgain
  | sessionsForDid
  | remove (oldest : Option Session)
  | insert
  | returned (result : Option (Except AuthError Session))
  deriving DecidableEq

/-- Where a call of `validate` stands. -/
inductive SessionValidateStage where
  | get
  | clock (session : Session)
  | remove
  | returned (result : Except AuthError Str)
  deriving DecidableEq

/-- Where a call of `revoke_all_for_did` stands. -/
inductive RevokeAllStage where
  | scan
  | removing (tokens : List Str) (count : Nat)
  | returned (count : Nat)
  deriving DecidableEq

/-- Where a call of `cleanup_expired` stands. -/
inductive PurgeStage where
  | len
  | retain (before : Nat)
  | lenAfter (before : Nat)
  | returned
  | panicked
  deriving DecidableEq

/-- A call of the store. -/
inductive SessionThread where
  | create (did : Str) (stage : SessionCreateStage)
  | validate (token : Str) (stage : SessionValidateStage)
  | revoke (token : Str) (result : Option Bool)
  | revokeAllForDid (did : Str) (stage : RevokeAllStage)
  | cleanup (stage : PurgeStage)
  deriving DecidableEq

/-- What a step draws: a reading of the clock and random bytes. -/
structure SessionStepDraw where
  now : Nat
  tokenBytes : ByteArr 32
  deriving DecidableEq

/-- The store and the tokens drawn so far. -/
structure SessionServer where
  store : SessionStore
  drawn : List Str
  deriving DecidableEq

namespace SessionServer

/-- `before - self.sessions.len()`, which underflows when the map has grown. -/
def underflows (overflowChecks : Bool) (before : Nat) (server : SessionServer) : Bool :=
  overflowChecks && before < server.store.backend.len

def purge (server : SessionServer) (now : Nat) : SessionServer :=
  { server with store := server.store.cleanupExpired now }

def removeToken (server : SessionServer) (token : Str) : SessionServer :=
  { server with store := { server.store with backend := server.store.backend.erase token } }

variable (overflowChecks : Bool) (server : SessionServer)

/-- One atomic access of `create`.  The random source never draws a token twice. -/
def createStep (did : Str) (stage : SessionCreateStage) (draw : SessionStepDraw) :
    Option (SessionServer × SessionCreateStage) :=
  match stage with
  | .len => some (server, if server.store.isFull then .purgeLen else .sessionsForDid)
  | .purgeLen => some (server, .purgeRetain server.store.backend.len)
  | .purgeRetain before => some (server.purge draw.now, .purgeLenAfter before)
  | .purgeLenAfter before =>
      some (server, if server.underflows overflowChecks before then .returned none else .lenAgain)
  | .lenAgain =>
      some (server,
        if server.store.isFull then
          .returned (some (.error (.sessionStoreFull server.store.maxSessions)))
        else .sessionsForDid)
  | .sessionsForDid =>
      some (server, .remove (server.store.overQuota (server.store.backend.sessionsForDid did)))
  | .remove oldest => some ({ server with store := server.store.evict oldest }, .insert)
  | .insert =>
      if tokenOf draw.tokenBytes ∈ server.drawn then none
      else
        let outcome := server.store.issue overflowChecks did draw.tokenBytes draw.now
        some (⟨outcome.2, tokenOf draw.tokenBytes :: server.drawn⟩, .returned outcome.1)
  | .returned _ => none

/-- One atomic access of `validate`, or its reading of the clock. -/
def validateStep (token : Str) (stage : SessionValidateStage) (draw : SessionStepDraw) :
    Option (SessionServer × SessionValidateStage) :=
  match stage with
  | .get =>
      match server.store.backend.get token with
      | none => some (server, .returned (.error .sessionNotFound))
      | some session => some (server, .clock session)
  | .clock session =>
      some (server,
        if session.validUntil ≤ draw.now then .remove else .returned (.ok session.did))
  | .remove => some (server.removeToken token, .returned (.error .sessionExpired))
  | .returned _ => none

/-- One atomic access of `revoke_all_for_did`. -/
def revokeAllStep (did : Str) (stage : RevokeAllStage) : Option (SessionServer × RevokeAllStage) :=
  match stage with
  | .scan =>
      let tokens := (server.store.backend.sessionsForDid did).map Session.token
      some (server, .removing tokens tokens.length)
  | .removing [] count => some (server, .returned count)
  | .removing (token :: tokens) count => some (server.removeToken token, .removing tokens count)
  | .returned _ => none

/-- One atomic access of `cleanup_expired`. -/
def purgeStep (stage : PurgeStage) (draw : SessionStepDraw) : Option (SessionServer × PurgeStage) :=
  match stage with
  | .len => some (server, .retain server.store.backend.len)
  | .retain before => some (server.purge draw.now, .lenAfter before)
  | .lenAfter before =>
      some (server, if server.underflows overflowChecks before then .panicked else .returned)
  | .returned => none
  | .panicked => none

/-- One atomic access of a call. -/
def step (thread : SessionThread) (draw : SessionStepDraw) :
    Option (SessionServer × SessionThread) :=
  match thread with
  | .create did stage =>
      (server.createStep overflowChecks did stage draw).map fun moved =>
        (moved.1, .create did moved.2)
  | .validate token stage =>
      (server.validateStep token stage draw).map fun moved => (moved.1, .validate token moved.2)
  | .revoke token none =>
      some (server.removeToken token,
        .revoke token (some (server.store.backend.sessions.containsKey token)))
  | .revoke _ (some _) => none
  | .revokeAllForDid did stage =>
      (server.revokeAllStep did stage).map fun moved => (moved.1, .revokeAllForDid did moved.2)
  | .cleanup stage =>
      (server.purgeStep overflowChecks stage draw).map fun moved => (moved.1, .cleanup moved.2)

end SessionServer

/-- A call that has made no access. -/
def SessionThread.starts : SessionThread → Bool
  | .create _ stage => stage = .len
  | .validate _ stage => stage = .get
  | .revoke _ result => result = none
  | .revokeAllForDid _ stage => stage = .scan
  | .cleanup stage => stage = .len

/-- Calls of one session store. -/
def sessionSystem (overflowChecks : Bool) :
    Interleaving.System SessionServer SessionThread SessionStepDraw Empty where
  entry := SessionThread.starts
  move server _ thread draw := server.step overflowChecks thread draw
  ambient _ event := event.elim

end AquaAuth
