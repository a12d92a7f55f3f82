import AquaAuth.Model.Webauthn.Messages
set_option autoImplicit false
/-!
# The software passkey

`webauthn_testkit.rs`: browser and authenticator at once, for the assertions of a login.
-/

namespace AquaAuth

open Support Support.Result

variable {P : P256}

/-- What the passkey uses of `p256` and `pkcs8`. -/
structure SoftKeys (P : P256) where
  SigningKey : Type
  verifyingKey : SigningKey → P.VerifyingKey
  sign : SigningKey → Bytes → P.Signature
  /-- `Signature::from_scalars` on `r` and the negation of `s`. -/
  negateS : P.Signature → Option P.Signature
  toDer : P.Signature → Bytes
  /-- `to_public_key_der` of the verifying key. -/
  publicKeyDer : SigningKey → Bytes

/-- `SoftPasskey` -/
structure SoftPasskey (K : SoftKeys P) where
  key : K.SigningKey
  credentialId : Bytes
  rpId : Str
  userHandle : Option Bytes

/-- `AssertOpts` -/
structure AssertOpts where
  challenge : Bytes
  origin : Str
  flags : UInt8
  crossOrigin : Option Bool
  rpIdOverride : Option Str
  type : Str
  highS : Bool
  deriving DecidableEq, Repr

/-- `AssertOpts::new` -/
def AssertOpts.new (challenge : Bytes) (origin : Str) : AssertOpts where
  challenge
  origin
  flags := flagUp ||| flagUv
  crossOrigin := some false
  rpIdOverride := none
  type := text "webauthn.get"
  highS := false

/-- `b64` -/
def b64 (bytes : Bytes) : Str := Base64.encodeNoPad Base64.urlSafe bytes

namespace SoftPasskey

variable {K : SoftKeys P} (R : P256Recovery P) (sha256 : Bytes → ByteArr 32)

/-- `SoftPasskey::did` -/
def did (passkey : SoftPasskey K) : Str :=
  p256DidKeyFromPubkey (R.toCompressedPoint (K.verifyingKey passkey.key))

/-- `SoftPasskey::spki_der` -/
def spkiDer (passkey : SoftPasskey K) : Bytes := K.publicKeyDer passkey.key

/-- `authenticator_data` -/
def authenticatorData (rpId : Str) (flags : UInt8) (attested : Bytes) : Bytes :=
  (sha256 (Text.utf8 rpId)).1 ++ flags :: ([0, 0, 0, 0] ++ attested)

/-- `client_data_json` -/
def clientDataJson (type : Str) (challenge : Bytes) (origin : Str) (crossOrigin : Option Bool) :
    Bytes :=
  let crossOrigin := match crossOrigin with
    | some true => text ",\"crossOrigin\":true"
    | some false => text ",\"crossOrigin\":false"
    | none => []
  Text.utf8 (text "\x7b\"type\":" ++ Json.quote type ++ text ",\"challenge\":\"" ++
    b64 challenge ++ text "\",\"origin\":" ++ Json.quote origin ++ crossOrigin ++ text "\x7d")

/-- `SoftPasskey::assert_raw`.  Nothing when `from_scalars` panics. -/
def assertRaw (passkey : SoftPasskey K) (authenticatorData clientDataJson : Bytes) (highS : Bool) :
    Option AssertionJson := do
  let low := K.sign passkey.key (signedPayload sha256 authenticatorData clientDataJson)
  let low := (R.normalizeS low).getD low
  let chosen := if highS then K.negateS low else some low
  let signature ← chosen
  pure
    { id := b64 passkey.credentialId
      rawId := b64 passkey.credentialId
      type := text "public-key"
      response :=
        { authenticatorData := b64 authenticatorData
          clientDataJson := b64 clientDataJson
          signature := b64 (K.toDer signature)
          userHandle := passkey.userHandle.map b64 } }

/-- `SoftPasskey::assert` -/
def assert (passkey : SoftPasskey K) (o : AssertOpts) : Option AssertionJson :=
  let rpId := o.rpIdOverride.getD passkey.rpId
  passkey.assertRaw R sha256 (authenticatorData sha256 rpId o.flags [])
    (clientDataJson o.type o.challenge o.origin o.crossOrigin) o.highS

/-- The `login` of the flow tests (`tests/webauthn_login_flow.rs`), its two messages as JSON: the
browser answers the options from an origin, and the server verifies against the challenge it
issued.  Nothing when a message cannot be read or the passkey panics. -/
def login (W : WebauthnCrates) (policy : AssertionPolicy) (passkey : SoftPasskey K) (origin : Str)
    (clientExtensionResults : Serde.Value) (challenge : Bytes) (allow : List Bytes) :
    Option (Except AssertionError (RecoveredAssertion P)) := do
  let options := requestOptions passkey.rpId challenge allow
  let options ← (W.serdeJson.read RequestOptionsJson.deserialize
    (W.serdeJson.toVec options.serialize)).toOption
  let asked ← Base64.decodeNoPad Base64.urlSafe options.publicKey.challenge
  let a ← passkey.assert R sha256 (.new asked origin)
  let a ← (W.serdeJson.read AssertionJson.deserialize
    (W.serdeJson.toVec (a.serialize clientExtensionResults))).toOption
  pure (verifyAndRecover W sha256 R a (.exact challenge) policy)

end SoftPasskey

end AquaAuth
