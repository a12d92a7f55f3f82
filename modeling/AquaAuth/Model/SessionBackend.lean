import AquaAuth.Model.Session
set_option autoImplicit false
/-!
# The session store over any backend

`SessionBackend` of `session_backend.rs` and `SessionStore` of `session.rs` over it.  A backend
is a state and the operations on it; `Lawful` is what the trait documents for them.
-/

namespace AquaAuth

open Support

/-- `trait SessionBackend` -/
structure SessionBackend (σ : Type) where
  insert : σ → Session → Except AuthError Unit × σ
  get : σ → Str → Option Session
  remove : σ → Str → Bool × σ
  sessionsForDid : σ → Str → List Session
  removeAllForDid : σ → Str → Nat × σ
  purgeExpired : σ → Nat → Nat × σ
  all : σ → List Session
  len : σ → Nat

namespace SessionBackend

variable {σ : Type}

/-- Remove the tokens in turn and count those that were stored. -/
def removeCounting (remove : σ → Str → Bool × σ) : σ → List Str → Nat × σ
  | contents, [] => (0, contents)
  | contents, token :: tokens =>
      let removed := remove contents token
      let rest := removeCounting remove removed.2 tokens
      (removed.1.toNat + rest.1, rest.2)

/-- The body the trait gives `purge_expired`. -/
def defaultPurgeExpired (remove : σ → Str → Bool × σ) (all : σ → List Session) (contents : σ)
    (nowSecs : Nat) : Nat × σ :=
  removeCounting remove contents
    (((all contents).filter fun s => s.validUntil ≤ nowSecs).map Session.token)

/-- Every session of `contents'` is one of `contents`, and those valid after `nowSecs` are all
still there.  A backend whose store expires entries itself may leave the expired ones. -/
def Purges (backend : SessionBackend σ) (contents : σ) (nowSecs : Nat) (contents' : σ) : Prop :=
  ∀ token session,
    (backend.get contents' token = some session → backend.get contents token = some session) ∧
      (backend.get contents token = some session → nowSecs < session.validUntil →
        backend.get contents' token = some session)

/-- What the trait says of its operations.  An insertion may fail, and then stores nothing. -/
structure Lawful (backend : SessionBackend σ) : Prop where
  token_of_get : ∀ contents token session,
    backend.get contents token = some session → session.token = token
  get_insert : ∀ contents session, (backend.insert contents session).1 = .ok () → ∀ token,
    backend.get (backend.insert contents session).2 token =
      if token = session.token then some session else backend.get contents token
  get_insert_error : ∀ contents session e, (backend.insert contents session).1 = .error e →
    ∀ token, backend.get (backend.insert contents session).2 token = backend.get contents token
  get_remove : ∀ contents token token', backend.get (backend.remove contents token).2 token' =
    if token' = token then none else backend.get contents token'
  remove_fst : ∀ contents token,
    (backend.remove contents token).1 = (backend.get contents token).isSome
  mem_sessionsForDid : ∀ contents did session,
    session ∈ backend.sessionsForDid contents did ↔
      backend.get contents session.token = some session ∧ session.did = did
  get_removeAllForDid : ∀ contents did token,
    backend.get (backend.removeAllForDid contents did).2 token =
      (backend.get contents token).filter fun s => s.did ≠ did
  purges : ∀ contents nowSecs,
    backend.Purges contents nowSecs (backend.purgeExpired contents nowSecs).2
  mem_all : ∀ contents session,
    session ∈ backend.all contents ↔ backend.get contents session.token = some session
  length_all : ∀ contents, (backend.all contents).length = backend.len contents

end SessionBackend

/-- `InMemoryBackend` as a `SessionBackend`.  Its insertion never fails. -/
def inMemoryBackend : SessionBackend InMemoryBackend where
  insert backend session := (.ok (), backend.insert session)
  get := InMemoryBackend.get
  remove := InMemoryBackend.remove
  sessionsForDid := InMemoryBackend.sessionsForDid
  removeAllForDid := InMemoryBackend.removeAllForDid
  purgeExpired := InMemoryBackend.purgeExpired
  all := InMemoryBackend.all
  len := InMemoryBackend.len

/-- `SessionStore` with the contents of its backend. -/
structure BackedSessionStore (σ : Type) where
  contents : σ
  ttlSecs : Nat
  maxSessions : Nat
  maxSessionsPerDid : Nat

namespace BackedSessionStore

variable {σ : Type} (backend : SessionBackend σ)

def isFull (store : BackedSessionStore σ) : Bool :=
  store.maxSessions ≤ backend.len store.contents

/-- `SessionStore::cleanup_expired` -/
def cleanupExpired (store : BackedSessionStore σ) (now : Nat) : BackedSessionStore σ :=
  { store with contents := (backend.purgeExpired store.contents now).2 }

/-- The session `enforce_per_did_cap` evicts. -/
def overQuota (store : BackedSessionStore σ) (did : Str) : Option Session :=
  let sessions := backend.sessionsForDid store.contents did
  if sessions.length < store.maxSessionsPerDid then none
  else sessions.minOn? SessionStore.evictionRank

/-- `SessionStore::enforce_per_did_cap` -/
def enforcePerDidCap (store : BackedSessionStore σ) (did : Str) : BackedSessionStore σ :=
  match store.overQuota backend did with
  | some oldest => { store with contents := (backend.remove store.contents oldest.token).2 }
  | none => store

/-- The insertion that ends `create`; nothing is inserted when the addition panics. -/
def issue (overflowChecks : Bool) (store : BackedSessionStore σ) (did : Str)
    (tokenBytes : ByteArr 32) (now : Nat) :
    Option (Except AuthError Session) × BackedSessionStore σ :=
  match addU64 overflowChecks now store.ttlSecs with
  | none => (none, store)
  | some validUntil =>
      let session : Session := ⟨did, tokenOf tokenBytes, validUntil, now⟩
      let inserted := backend.insert store.contents session
      (some (inserted.1.map fun _ => session), { store with contents := inserted.2 })

/-- What `create` does once it has found room. -/
def admitDid (overflowChecks : Bool) (store : BackedSessionStore σ) (did : Str)
    (draws : SessionDraws) : Option (Except AuthError Session) × BackedSessionStore σ :=
  (store.enforcePerDidCap backend did).issue backend overflowChecks did draws.tokenBytes draws.now

/-- `SessionStore::create` -/
def create (overflowChecks : Bool) (store : BackedSessionStore σ) (did : Str)
    (draws : SessionDraws) : Option (Except AuthError Session) × BackedSessionStore σ :=
  if store.isFull backend then
    let store := store.cleanupExpired backend draws.purgeAt
    if store.isFull backend then (some (.error (.sessionStoreFull store.maxSessions)), store)
    else store.admitDid backend overflowChecks did draws
  else store.admitDid backend overflowChecks did draws

/-- `SessionStore::revoke` -/
def revoke (store : BackedSessionStore σ) (token : Str) : Bool × BackedSessionStore σ :=
  let removed := backend.remove store.contents token
  (removed.1, { store with contents := removed.2 })

/-- `SessionStore::revoke_all_for_did` -/
def revokeAllForDid (store : BackedSessionStore σ) (did : Str) : Nat × BackedSessionStore σ :=
  let removed := backend.removeAllForDid store.contents did
  (removed.1, { store with contents := removed.2 })

/-- `SessionStore::validate` -/
def validate (store : BackedSessionStore σ) (token : Str) (now : Nat) :
    Except AuthError Str × BackedSessionStore σ :=
  match backend.get store.contents token with
  | none => (.error .sessionNotFound, store)
  | some session =>
      if session.validUntil ≤ now then
        (.error .sessionExpired,
          { store with contents := (backend.remove store.contents token).2 })
      else (.ok session.did, store)

/-- `SessionStore::list_sessions` -/
def listSessions (store : BackedSessionStore σ) (now : Nat) : List SessionInfo :=
  ((backend.all store.contents).filter fun s => now < s.validUntil).map
    fun s => ⟨s.did, s.createdAt, s.validUntil⟩

/-- A call of the store. -/
def call (overflowChecks : Bool) (store : BackedSessionStore σ) :
    SessionOp → SessionAnswer × BackedSessionStore σ
  | .create did draws =>
      let outcome := store.create backend overflowChecks did draws
      (.created outcome.1, outcome.2)
  | .validate token now =>
      let outcome := store.validate backend token now
      (.validated outcome.1, outcome.2)
  | .revoke token =>
      let outcome := store.revoke backend token
      (.revoked outcome.1, outcome.2)
  | .revokeAllForDid did =>
      let outcome := store.revokeAllForDid backend did
      (.revokedAll outcome.1, outcome.2)
  | .listSessions now => (.listed (store.listSessions backend now), store)
  | .cleanupExpired now => (.swept, store.cleanupExpired backend now)

end BackedSessionStore

end AquaAuth
