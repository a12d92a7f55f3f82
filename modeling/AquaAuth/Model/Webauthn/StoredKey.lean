import AquaAuth.Model.Webauthn.Recover
set_option autoImplicit false
/-!
# Assertions under a stored key

`verify_webauthn_assertion` of `webauthn.rs`: the same assertion against a credential key that the
server kept from registration.
-/

namespace AquaAuth

open Support Support.Result

/-- What the stored-key verifier uses of `serde_json` and `base64`. -/
structure StoredKeyCrates where
  /-- `serde_json::from_slice::<serde_json::Value>` -/
  fromSlice : Bytes → Except Str Serde.Value
  /-- The text of the error of a text that is not base64url without padding. -/
  base64Error : Str → Str

/-- `WebAuthnAssertionParams` -/
structure WebAuthnAssertionParams where
  credentialPublicKey : Bytes
  authenticatorData : Bytes
  clientDataJson : Bytes
  signature : Bytes
  expectedChallenge : Bytes
  expectedOrigin : Str
  expectedRpId : Str
  deriving DecidableEq, Repr

/-- A text member of the client data. -/
def clientText (clientData : Serde.Value) (name : Str) : Except CryptoError Str :=
  okOr (.invalidSignature (text "clientDataJSON missing '" ++ name ++ text "' field"))
    (clientData.get name >>= Serde.Value.asStr)

/-- `verify_webauthn_assertion` -/
def verifyWebauthnAssertion (S : StoredKeyCrates) (P : P256) (sha256 : Bytes → ByteArr 32)
    (params : WebAuthnAssertionParams) : Except CryptoError Bool := do
  let authData ← (parseAuthenticatorData params.authenticatorData).mapError .invalidSignature
  ensure (authData.rpIdHash = sha256 (Text.utf8 params.expectedRpId)) (.invalidSignature
    (text "rpIdHash mismatch: authenticatorData does not match expected rpId"))
  ensure (authData.flags &&& flagUp ≠ 0)
    (.invalidSignature (text "User Present flag not set in authenticatorData"))
  let clientData ← (S.fromSlice params.clientDataJson).mapError fun e =>
    .invalidSignature (text "invalid clientDataJSON: " ++ e)
  let type ← clientText clientData (text "type")
  ensure (type = text "webauthn.get") (.invalidSignature
    (text "clientDataJSON type mismatch: expected 'webauthn.get', got '" ++ type ++ text "'"))
  let challenge ← clientText clientData (text "challenge")
  let decoded ← okOr
    (.invalidSignature (text "invalid base64url challenge: " ++ S.base64Error challenge))
    (Base64.decodeNoPad Base64.urlSafe challenge)
  ensure (decoded = params.expectedChallenge) (.invalidSignature (text "challenge mismatch"))
  let origin ← clientText clientData (text "origin")
  ensure (origin = params.expectedOrigin) (.invalidSignature (text "origin mismatch: expected '" ++
    params.expectedOrigin ++ text "', got '" ++ origin ++ text "'"))
  let payload := signedPayload sha256 params.authenticatorData params.clientDataJson
  ensure (params.signature.length = 64) (.invalidSignature
    (text "signature must be 64 bytes (r||s), got " ++ Text.decimal params.signature.length))
  let point ← (P.encodedPointFromBytes params.credentialPublicKey).mapError fun e =>
    .invalidSignature (text "invalid public key encoding: " ++ e)
  let verifyingKey ← (P.verifyingKeyFromEncodedPoint point).mapError fun e =>
    .invalidSignature (text "invalid P-256 public key: " ++ e)
  let signature ← (P.signatureFromSlice params.signature).mapError fun e =>
    .invalidSignature (text "invalid signature encoding: " ++ e)
  pure (P.verify verifyingKey payload signature)

end AquaAuth
