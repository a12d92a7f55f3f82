import AquaAuth.Model.DidMethod
set_option autoImplicit false
/-!
# The format gate and the authenticated identity

`did_format.rs`, the dispatching verifiers of `lib.rs`, and `principal.rs`.
-/

namespace AquaAuth

open Support Support.Result

variable (B : Build)

/-! ## did_format.rs -/

/-- `ED25519_PUBKEY_BYTES` -/
def ed25519PubkeyBytes : Nat := 32

/-- `P256_COMPRESSED_PUBKEY_BYTES` -/
def p256CompressedPubkeyBytes : Nat := 33

/-- `validate_pkh` -/
def validatePkh (did : Str) : Except CryptoError Unit := do
  let ns ← parseDidNamespace did
  if ns = text "eip155" then (addressFromDid did).map fun _ => ()
  else if ns = text "ed25519" then (pubkeyFromEd25519Did B.dalek did).map fun _ => ()
  else if ns = text "p256" then (pubkeyFromP256Did did).map fun _ => ()
  else .error (.unsupportedMethod ns)

/-- `validate_multibase_key_body` -/
def validateMultibaseKeyBody (zBody : Str) : Except CryptoError Unit := do
  let key ← decodeMultibaseKey B.dalek zBody
  match key with
  | .ed25519 raw =>
      ensure (raw.length = ed25519PubkeyBytes) (.invalidDid
        (text "Ed25519 public key must be 32 bytes, got " ++ Text.decimal raw.length))
  | .p256 raw =>
      ensure (raw.length = p256CompressedPubkeyBytes) (.invalidDid
        (text "P-256 compressed public key must be 33 bytes, got " ++
          Text.decimal raw.length))

/-- `validate_did_well_formed` -/
def validateDidWellFormed (did : Str) : Except CryptoError Unit := do
  let method ← okOr (.unsupportedMethod did) (findDidMethod B did)
  if method.methodName = text "pkh" then validatePkh B did
  else if method.methodName = text "key" then do
    let zBody ← okOr (.invalidDid (text "did:key body must be multibase 'z': " ++ did))
      (Text.stripPrefix (text "did:key:z") did)
    validateMultibaseKeyBody B zBody
  else if method.methodName = text "peer" then do
    let zBody ← extractZBody did
    validateMultibaseKeyBody B zBody
  else if method.methodName = text "aqua" ∧ B.didAqua = true then
    (Aqua.multihashFromAquaDid did).map fun _ => ()
  else .error (.unsupportedMethod method.methodName)

/-! ## lib.rs -/

/-- `verify_caip122_with_public_key` -/
def verifyCaip122WithPublicKey (did message : Str) (signature : Bytes)
    (publicKey : Option Bytes) : Except CryptoError Bool := do
  let method ← okOr (.unsupportedMethod did) (findDidMethod B did)
  method.verifyWithPublicKey did message signature publicKey

/-! ## principal.rs -/

/-- `Principal`: a DID, together with the format check every constructor makes. -/
structure Principal where
  did : Str
  wellFormed : validateDidWellFormed B did = .ok ()

/-- `Principal::from_trusted_did` -/
def Principal.fromTrustedDid (did : Str) : Except CryptoError (Principal B) :=
  match h : validateDidWellFormed B did with
  | .ok () => .ok ⟨did, h⟩
  | .error e => .error e

/-- `authenticate_with_public_key` -/
def authenticateWithPublicKey (did message : Str) (signature : Bytes)
    (publicKey : Option Bytes) : Except CryptoError (Principal B) := do
  validateDidWellFormed B did
  let verified ← verifyCaip122WithPublicKey B did message signature publicKey
  if verified then Principal.fromTrustedDid B did
  else .error (.invalidSignature (text "CAIP-122 signature did not verify for this DID"))

/-- `authenticate` -/
def authenticate (did message : Str) (signature : Bytes) : Except CryptoError (Principal B) :=
  authenticateWithPublicKey B did message signature none

end AquaAuth
