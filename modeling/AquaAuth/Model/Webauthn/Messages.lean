import AquaAuth.Support.JsonReader
import AquaAuth.Model.Webauthn.Select
set_option autoImplicit false
/-!
# What a passkey login sends

`webauthn_options.rs`, the options of a `get()`, and the assertion that answers them as
`webauthn_recover.rs` reads it, both as JSON.
-/

namespace AquaAuth

open Support Support.Serde

/-! ## RequestOptionsJson -/

/-- `CredentialDescriptorJson` -/
structure CredentialDescriptorJson where
  type : Str
  id : Str
  deriving DecidableEq, Repr

/-- `PublicKeyRequestOptionsJson` -/
structure PublicKeyRequestOptionsJson where
  challenge : Str
  rpId : Str
  allowCredentials : List CredentialDescriptorJson
  userVerification : Str
  deriving DecidableEq, Repr

/-- `RequestOptionsJson` -/
structure RequestOptionsJson where
  publicKey : PublicKeyRequestOptionsJson
  deriving DecidableEq, Repr

/-- `request_options` -/
def requestOptions (rpId : Str) (challenge : Bytes) (allow : List Bytes) : RequestOptionsJson where
  publicKey :=
    { challenge := Base64.encodeNoPad Base64.urlSafe challenge
      rpId
      allowCredentials := allow.map fun id =>
        { type := text "public-key", id := Base64.encodeNoPad Base64.urlSafe id }
      userVerification := text "required" }

namespace CredentialDescriptorJson

def fields : List Str := [text "type", text "id"]

/-- `CredentialDescriptorJson::serialize` -/
def serialize (descriptor : CredentialDescriptorJson) : Value :=
  .object [(text "type", .string descriptor.type), (text "id", .string descriptor.id)]

/-- `CredentialDescriptorJson::deserialize` -/
def deserialize (value : Value) : Option CredentialDescriptorJson := do
  let members ← value.structMembers fields
  let type ← members.lookup (text "type") >>= Value.asStr
  let id ← members.lookup (text "id") >>= Value.asStr
  pure { type, id }

end CredentialDescriptorJson

namespace PublicKeyRequestOptionsJson

def fields : List Str :=
  [text "challenge", text "rpId", text "allowCredentials", text "userVerification"]

/-- `PublicKeyRequestOptionsJson::serialize`.  No credentials are not written. -/
def serialize (options : PublicKeyRequestOptionsJson) : Value :=
  .object
    ([(text "challenge", .string options.challenge), (text "rpId", .string options.rpId)] ++
      (if options.allowCredentials = [] then []
        else [(text "allowCredentials",
          .array (options.allowCredentials.map CredentialDescriptorJson.serialize))]) ++
      [(text "userVerification", .string options.userVerification)])

/-- `Vec<CredentialDescriptorJson>::deserialize` -/
def deserializeCredentials : Value → Option (List CredentialDescriptorJson)
  | .array items => items.mapM CredentialDescriptorJson.deserialize
  | _ => none

/-- `PublicKeyRequestOptionsJson::deserialize` -/
def deserialize (value : Value) : Option PublicKeyRequestOptionsJson := do
  let members ← value.structMembers fields
  let challenge ← members.lookup (text "challenge") >>= Value.asStr
  let rpId ← members.lookup (text "rpId") >>= Value.asStr
  let allowCredentials ← match members.lookup (text "allowCredentials") with
    | some value => deserializeCredentials value
    | none => some []
  let userVerification ← members.lookup (text "userVerification") >>= Value.asStr
  pure { challenge, rpId, allowCredentials, userVerification }

end PublicKeyRequestOptionsJson

namespace RequestOptionsJson

def fields : List Str := [text "publicKey"]

/-- `RequestOptionsJson::serialize` -/
def serialize (options : RequestOptionsJson) : Value :=
  .object [(text "publicKey", options.publicKey.serialize)]

/-- `RequestOptionsJson::deserialize` -/
def deserialize (value : Value) : Option RequestOptionsJson := do
  let members ← value.structMembers fields
  let publicKey ← members.lookup (text "publicKey") >>= PublicKeyRequestOptionsJson.deserialize
  pure { publicKey }

end RequestOptionsJson

/-! ## AssertionJson -/

namespace AssertionResponseJson

def fields : List Str :=
  [text "authenticatorData", text "clientDataJSON", text "signature", text "userHandle"]

/-- An `Option<String>` as a value. -/
def optionStr : Option Str → Value
  | some s => .string s
  | none => .null

/-- `AssertionResponseJson::serialize` -/
def serialize (response : AssertionResponseJson) : Value :=
  .object
    [(text "authenticatorData", .string response.authenticatorData),
      (text "clientDataJSON", .string response.clientDataJson),
      (text "signature", .string response.signature),
      (text "userHandle", optionStr response.userHandle)]

/-- `AssertionResponseJson::deserialize` -/
def deserialize (value : Value) : Option AssertionResponseJson := do
  let members ← value.structMembers fields
  let authenticatorData ← members.lookup (text "authenticatorData") >>= Value.asStr
  let clientDataJson ← members.lookup (text "clientDataJSON") >>= Value.asStr
  let signature ← members.lookup (text "signature") >>= Value.asStr
  let userHandle ← match members.lookup (text "userHandle") with
    | some value => value.asOptionStr
    | none => some none
  pure { authenticatorData, clientDataJson, signature, userHandle }

end AssertionResponseJson

namespace AssertionJson

/-- The fields, in their order.  The last one holds any value and has a default. -/
def fields : List Str :=
  [text "id", text "rawId", text "type", text "response", text "clientExtensionResults"]

/-- A member name as the fields have it: the extension outputs have two. -/
def fieldName (name : Str) : Str :=
  if name = text "extensions" then text "clientExtensionResults" else name

/-- `AssertionJson::serialize`, with the extension outputs. -/
def serialize (a : AssertionJson) (clientExtensionResults : Value) : Value :=
  .object
    [(text "id", .string a.id), (text "rawId", .string a.rawId), (text "type", .string a.type),
      (text "response", a.response.serialize),
      (text "clientExtensionResults", clientExtensionResults)]

/-- The members of an object under the names of fields. -/
def underFieldNames : Value → Value
  | .object members => .object (members.map fun member => (fieldName member.1, member.2))
  | value => value

/-- `AssertionJson::deserialize` -/
def deserialize (value : Value) : Option AssertionJson := do
  let members ← (underFieldNames value).structMembers fields
  let id ← members.lookup (text "id") >>= Value.asStr
  let rawId ← members.lookup (text "rawId") >>= Value.asStr
  let type ← members.lookup (text "type") >>= Value.asStr
  let response ← members.lookup (text "response") >>= AssertionResponseJson.deserialize
  pure { id, rawId, type, response }

end AssertionJson

end AquaAuth
