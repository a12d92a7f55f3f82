import AquaAuth.Support.JsonReader
import AquaAuth.Model.Peer
set_option autoImplicit false
/-!
# The login messages on the wire

`wire.rs`: the three bodies of the login as JSON.  Unknown members are skipped, and the public key
of a request is written only where there is one.
-/

namespace AquaAuth

open Support Support.Serde

/-! ## ChallengeEnvelope -/

namespace ChallengeEnvelope

/-- The fields, in their order. -/
def fields : List Str := [text "nonce", text "message", text "expires_at"]

/-- `ChallengeEnvelope::serialize` -/
def serialize (envelope : ChallengeEnvelope) : Value :=
  .object
    [(text "nonce", .string envelope.nonce), (text "message", .string envelope.message),
      (text "expires_at", .u64 envelope.expiresAt)]

/-- `ChallengeEnvelope::deserialize` -/
def deserialize (value : Value) : Option ChallengeEnvelope := do
  let members ← value.structMembers fields
  let nonce ← members.lookup (text "nonce") >>= Value.asStr
  let message ← members.lookup (text "message") >>= Value.asStr
  let expiresAt ← members.lookup (text "expires_at") >>= Value.asU64
  pure { nonce, message, expiresAt }

end ChallengeEnvelope

/-! ## SessionRequest -/

namespace SessionRequest

def fields : List Str := [text "did", text "nonce", text "signature", text "public_key"]

/-- `SessionRequest::serialize` -/
def serialize (request : SessionRequest) : Value :=
  .object
    ([(text "did", .string request.did), (text "nonce", .string request.nonce),
        (text "signature", .string request.signature)] ++
      match request.publicKey with
      | some publicKey => [(text "public_key", .string publicKey)]
      | none => [])

/-- `SessionRequest::deserialize` -/
def deserialize (value : Value) : Option SessionRequest := do
  let members ← value.structMembers fields
  let did ← members.lookup (text "did") >>= Value.asStr
  let nonce ← members.lookup (text "nonce") >>= Value.asStr
  let signature ← members.lookup (text "signature") >>= Value.asStr
  let publicKey ← match members.lookup (text "public_key") with
    | some value => value.asOptionStr
    | none => some none
  pure { did, nonce, signature, publicKey }

end SessionRequest

/-! ## SessionResponse -/

namespace SessionResponse

def fields : List Str := [text "did", text "token", text "valid_until", text "created_at"]

/-- `SessionResponse::serialize` -/
def serialize (response : SessionResponse) : Value :=
  .object
    [(text "did", .string response.did), (text "token", .string response.token),
      (text "valid_until", .u64 response.validUntil),
      (text "created_at", .u64 response.createdAt)]

/-- `SessionResponse::deserialize` -/
def deserialize (value : Value) : Option SessionResponse := do
  let members ← value.structMembers fields
  let did ← members.lookup (text "did") >>= Value.asStr
  let token ← members.lookup (text "token") >>= Value.asStr
  let validUntil ← members.lookup (text "valid_until") >>= Value.asU64
  let createdAt ← members.lookup (text "created_at") >>= Value.asU64
  pure { did, token, validUntil, createdAt }

end SessionResponse

end AquaAuth
