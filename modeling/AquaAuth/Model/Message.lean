import AquaAuth.Support.DateTime
import AquaAuth.Model.Principal
set_option autoImplicit false
/-!
# The sign-in message

`message.rs`: the CAIP-122 text a challenge carries.
-/

namespace AquaAuth

open Support Support.Result

/-- `message::MessageParams` -/
structure MessageParams where
  did : Str
  domain : Str
  uri : Str
  nonce : Str
  issuedAt : DateTime
  expirationTime : DateTime
  deriving DecidableEq

/-- The lines every message has. -/
def messageBody (params : MessageParams) (identifier methodLabel : Str) : Str :=
  params.domain ++ text " wants you to sign in with your " ++ methodLabel ++ text " account:\n" ++
    identifier ++
    text "\n\nSign in to Aqua Node\n\nURI: " ++ params.uri ++
    text "\nVersion: 1\nNonce: " ++ params.nonce ++
    text "\nIssued At: " ++ params.issuedAt.format ++
    text "\nExpiration Time: " ++ params.expirationTime.format

/-- The `Chain ID` line, for the methods that have a chain. -/
def chainIdLine (method : DIDMethod) (did : Str) : Str :=
  match method.chainId did with
  | .ok (some chain) =>
      match Text.stripPrefix (text "eip155:") chain with
      | some id => text "\nChain ID: " ++ id
      | none => []
  | _ => []

/-- `message::build_message` -/
def buildMessage (B : Build) (params : MessageParams) : Except AuthError Str := do
  let method ← okOr (.crypto (.unsupportedMethod params.did)) (findDidMethod B params.did)
  let identifier ← (method.addressForMessage params.did).mapError .crypto
  let methodLabel ← (method.methodLabel params.did).mapError .crypto
  pure (messageBody params identifier methodLabel ++ chainIdLine method params.did)

end AquaAuth
