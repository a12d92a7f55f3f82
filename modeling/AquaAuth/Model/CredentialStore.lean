import AquaAuth.Support.KeyedMap
import AquaAuth.Support.Service
import AquaAuth.Support.Text
set_option autoImplicit false
/-!
# The credential store

`webauthn_store.rs`: the in-memory store of passkey credentials, one call after another.

Its critical sections do no more than work on the map, so its lock is never poisoned.
Counts and times are unsigned integers that are only stored and compared.
-/

namespace AquaAuth

open Support

/-- `CredentialId` -/
@[ext] structure CredentialId where
  bytes : Bytes
  deriving DecidableEq, Repr

/-- `StoredCredential` -/
structure StoredCredential where
  did : Str
  credentialId : CredentialId
  publicKey : Bytes
  signCount : Nat
  transports : List Str
  label : Option Str
  createdAt : Nat
  deriving DecidableEq, Repr

/-- `NewCredential` -/
structure NewCredential where
  did : Str
  credentialId : CredentialId
  publicKey : Bytes
  signCount : Nat
  transports : List Str
  label : Option Str
  deriving DecidableEq, Repr

/-- The row `insert` stores. -/
def NewCredential.stored (cred : NewCredential) (now : Nat) : StoredCredential where
  did := cred.did
  credentialId := cred.credentialId
  publicKey := cred.publicKey
  signCount := cred.signCount
  transports := cred.transports
  label := cred.label
  createdAt := now

/-- `WebauthnStoreError` -/
inductive WebauthnStoreError where
  | notFound
  | backend (reason : Str)
  deriving DecidableEq, Repr

/-- `InMemoryWebauthnStore`.  A credential is stored under its own id. -/
structure InMemoryWebauthnStore where
  creds : KeyedMap Bytes StoredCredential
  keyed : ∀ e ∈ creds.entries, e.2.credentialId.bytes = e.1
  deriving DecidableEq

namespace InMemoryWebauthnStore

/-- `InMemoryWebauthnStore::new` -/
def new : InMemoryWebauthnStore := ⟨.empty, by simp [KeyedMap.empty]⟩

/-- Store a row, in place of the one with its id. -/
def put (store : InMemoryWebauthnStore) (cred : StoredCredential) : InMemoryWebauthnStore :=
  ⟨store.creds.insert cred.credentialId.bytes cred, by
    intro e he
    rcases List.mem_cons.mp he with rfl | he
    · rfl
    · exact store.keyed e (List.mem_of_mem_filter he)⟩

/-- Drop the row with an id. -/
def erase (store : InMemoryWebauthnStore) (credId : CredentialId) : InMemoryWebauthnStore :=
  ⟨store.creds.remove credId.bytes, fun e he => store.keyed e (List.mem_of_mem_filter he)⟩

/-- `insert` -/
def insert (store : InMemoryWebauthnStore) (cred : NewCredential) (now : Nat) :
    Except WebauthnStoreError Unit × InMemoryWebauthnStore :=
  (.ok (), store.put (cred.stored now))

/-- `list_for_did` -/
def listForDid (store : InMemoryWebauthnStore) (did : Str) :
    Except WebauthnStoreError (List StoredCredential) :=
  .ok ((store.creds.entries.map Prod.snd).filter fun c => c.did = did)

/-- `get_by_id` -/
def getById (store : InMemoryWebauthnStore) (credId : CredentialId) :
    Except WebauthnStoreError (Option StoredCredential) :=
  .ok (store.creds.get credId.bytes)

/-- `update_sign_count` -/
def updateSignCount (store : InMemoryWebauthnStore) (credId : CredentialId) (newCount : Nat) :
    Except WebauthnStoreError Unit × InMemoryWebauthnStore :=
  match store.creds.get credId.bytes with
  | none => (.error .notFound, store)
  | some cred =>
      (.ok (), if cred.signCount < newCount then store.put { cred with signCount := newCount }
        else store)

/-- `delete` -/
def delete (store : InMemoryWebauthnStore) (did : Str) (credId : CredentialId) :
    Except WebauthnStoreError Bool × InMemoryWebauthnStore :=
  match store.creds.get credId.bytes with
  | some c => if c.did = did then (.ok true, store.erase credId) else (.ok false, store)
  | none => (.ok false, store)

end InMemoryWebauthnStore

/-! ## One call after another -/

/-- A call of the store.  `insert` reads the clock. -/
inductive CredentialOp where
  | insert (cred : NewCredential) (now : Nat)
  | listForDid (did : Str)
  | getById (credId : CredentialId)
  | updateSignCount (credId : CredentialId) (newCount : Nat)
  | delete (did : Str) (credId : CredentialId)

/-- What a call returns. -/
inductive CredentialAnswer where
  | done (result : Except WebauthnStoreError Unit)
  | listed (result : Except WebauthnStoreError (List StoredCredential))
  | found (result : Except WebauthnStoreError (Option StoredCredential))
  | deleted (result : Except WebauthnStoreError Bool)

def InMemoryWebauthnStore.call (store : InMemoryWebauthnStore) :
    CredentialOp → CredentialAnswer × InMemoryWebauthnStore
  | .insert cred now =>
      let outcome := store.insert cred now
      (.done outcome.1, outcome.2)
  | .listForDid did => (.listed (store.listForDid did), store)
  | .getById credId => (.found (store.getById credId), store)
  | .updateSignCount credId newCount =>
      let outcome := store.updateSignCount credId newCount
      (.done outcome.1, outcome.2)
  | .delete did credId =>
      let outcome := store.delete did credId
      (.deleted outcome.1, outcome.2)

/-- The readings of the clock a call takes. -/
def CredentialOp.readings : CredentialOp → List Nat
  | .insert _ now => [now]
  | _ => []

/-- The DID a call is made on behalf of, where it changes the store. -/
def CredentialOp.onBehalfOf : CredentialOp → Option Str
  | .insert cred _ => some cred.did
  | .delete did _ => some did
  | _ => none

/-- The credential store as a service. -/
def credentialService : Service Nat InMemoryWebauthnStore CredentialOp CredentialAnswer where
  call := InMemoryWebauthnStore.call
  readings := CredentialOp.readings

end AquaAuth
