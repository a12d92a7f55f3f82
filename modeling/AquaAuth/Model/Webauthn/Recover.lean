import AquaAuth.Support.Serde
import AquaAuth.Model.Key
import AquaAuth.Model.Did
set_option autoImplicit false
/-!
# Store-free passkey assertions

`webauthn_recover.rs`, with what it uses of `webauthn.rs`, `webauthn_policy.rs` and
`login_challenge.rs`: the checks that need no public key, then the two keys that the
signature recovers to.
-/

namespace AquaAuth

open Support Support.Result

/-! ## Crates -/

/-- `ecdsa::RecoveryId` -/
structure RecoveryId where
  isYOdd : Bool
  isXReduced : Bool
  deriving DecidableEq, Repr

/-- What the `webauthn` feature uses of `p256` beyond verification. -/
structure P256Recovery (P : P256) where
  PublicKey : Type
  normalizeS : P.Signature → Option P.Signature
  recoverFromPrehash : ByteArr 32 → P.Signature → RecoveryId → Option P.VerifyingKey
  /-- The compressed SEC1 encoding of the key. -/
  toCompressedPoint : P.VerifyingKey → ByteArr 33
  publicKeyFromSec1Bytes : ByteArr 33 → Option PublicKey
  publicKeyFromPublicKeyDer : Bytes → Except Str PublicKey
  publicKeyToCompressedPoint : PublicKey → ByteArr 33

/-- What the derivation of a challenge reads of a parsed `url::Url`. -/
structure NodeUrl where
  scheme : Str
  /-- `origin().ascii_serialization()` -/
  asciiOrigin : Str
  deriving DecidableEq, Repr

/-- The other crates of the `webauthn` feature, with the texts of their errors. -/
structure WebauthnCrates where
  serdeJson : Serde.Json
  parseUrl : Str → Except Str NodeUrl
  /-- The text of the error of a text that is not base64url. -/
  base64Error : Str → Str
  /-- The debug rendering of a string. -/
  debugStr : Str → Str

/-! ## webauthn.rs -/

/-- `FLAG_UP` -/
def flagUp : UInt8 := 0x01

/-- `FLAG_UV` -/
def flagUv : UInt8 := 0x04

/-- `FLAG_BE` -/
def flagBe : UInt8 := 0x08

/-- `FLAG_BS` -/
def flagBs : UInt8 := 0x10

/-- `AuthenticatorData` -/
structure AuthenticatorData where
  rpIdHash : ByteArr 32
  flags : UInt8
  deriving DecidableEq, Repr

theorem length_take_of_le {bytes : Bytes} {k n : Nat} (h : n ≤ bytes.length) (hk : k ≤ n) :
    (bytes.take k).length = k := by
  rw [List.length_take]
  omega

/-- `parse_authenticator_data` -/
def parseAuthenticatorData (bytes : Bytes) : Except Str AuthenticatorData :=
  if h : 37 ≤ bytes.length then
    .ok { rpIdHash := ⟨bytes.take 32, length_take_of_le h (Nat.le_add_right 32 5)⟩
          flags := bytes.getD 32 0 }
  else
    .error (text "authenticatorData too short: " ++ Text.decimal bytes.length ++
      text " bytes, need at least 37")

/-- `signed_payload` -/
def signedPayload (sha256 : Bytes → ByteArr 32) (authenticatorData clientDataJson : Bytes) :
    Bytes :=
  authenticatorData ++ (sha256 clientDataJson).1

/-! ## webauthn_policy.rs -/

/-- `RpEntry` -/
structure RpEntry where
  rpId : Str
  rpIdHash : ByteArr 32
  origins : List Str
  deriving DecidableEq, Repr

/-- `RpEntry::allows_origin` -/
def RpEntry.allowsOrigin (entry : RpEntry) (origin : Str) : Bool :=
  entry.origins.any fun o => o = origin

/-- `AssertionPolicy` -/
structure AssertionPolicy where
  entries : List RpEntry
  requireUv : Bool
  deriving DecidableEq, Repr

/-- `AssertionPolicy::entry_for_rp_id_hash` -/
def AssertionPolicy.entryForRpIdHash (policy : AssertionPolicy) (h : ByteArr 32) :
    Option RpEntry :=
  policy.entries.find? fun e => e.rpIdHash = h

/-! ## login_challenge.rs -/

/-- `LOGIN_CHALLENGE_TAG` -/
def loginChallengeTag : Bytes := Text.utf8 (text "aqua-auth/webauthn-login/v1")

/-- `LoginChallengeError` -/
inductive LoginChallengeError where
  | invalidUrl (reason : Str)
  | unsupportedScheme (scheme : Str)
  deriving DecidableEq, Repr

/-- `derive_login_challenge` -/
def deriveLoginChallenge (W : WebauthnCrates) (sha256 : Bytes → ByteArr 32) (nonce : ByteArr 32)
    (nodeUrl : Str) : Except LoginChallengeError (ByteArr 32) := do
  let url ← (W.parseUrl nodeUrl).mapError .invalidUrl
  ensure (url.scheme = text "http" ∨ url.scheme = text "https") (.unsupportedScheme url.scheme)
  pure (sha256 (loginChallengeTag ++ nonce.1 ++ Text.utf8 url.asciiOrigin))

/-! ## The assertion -/

/-- `AssertionResponseJson` -/
structure AssertionResponseJson where
  authenticatorData : Str
  clientDataJson : Str
  signature : Str
  userHandle : Option Str
  deriving DecidableEq, Repr

/-- `AssertionJson`, less the extension outputs, which nothing reads. -/
structure AssertionJson where
  id : Str
  rawId : Str
  type : Str
  response : AssertionResponseJson
  deriving DecidableEq, Repr

/-- `ExpectedChallenge` -/
inductive ExpectedChallenge where
  | exact (challenge : Bytes)
  | derivedLogin (nonce : ByteArr 32) (nodeUrl : Str)

/-- `AssertionError` -/
inductive AssertionError where
  | malformed (reason : Str)
  | rpIdNotAllowed
  | originNotAllowed
  | crossOrigin
  | topOriginPresent
  | wrongType
  | challengeMismatch
  | userPresenceMissing
  | userVerificationMissing
  | badSignature
  | invalidNodeUrl (error : LoginChallengeError)
  deriving DecidableEq, Repr

/-- `RecoveredAssertion` -/
structure RecoveredAssertion (P : P256) where
  rpId : Str
  origin : Str
  userVerified : Bool
  backupEligible : Bool
  backupState : Bool
  credentialId : Bytes
  userHandle : Option Bytes
  /-- The keys for an even and an odd `y` coordinate. -/
  candidates : P.VerifyingKey × P.VerifyingKey

/-! ## clientDataJSON -/

/-- `ClientData` -/
structure ClientData where
  type : Str
  challenge : Str
  origin : Str
  crossOrigin : Option Bool
  /-- Whether `topOrigin` is present, with any value. -/
  topOrigin : Bool
  deriving DecidableEq, Repr

/-- The members of `ClientData`, in its order. -/
def ClientData.members : List Str :=
  [text "type", text "challenge", text "origin", text "crossOrigin", text "topOrigin"]

/-- `ClientData::deserialize` -/
def ClientData.deserialize (value : Serde.Value) : Option ClientData := do
  let members ← value.structMembers ClientData.members
  let type ← members.lookup (text "type") >>= Serde.Value.asStr
  let challenge ← members.lookup (text "challenge") >>= Serde.Value.asStr
  let origin ← members.lookup (text "origin") >>= Serde.Value.asStr
  let crossOrigin ← match members.lookup (text "crossOrigin") with
    | some value => value.asOptionBool
    | none => some none
  pure { type, challenge, origin, crossOrigin
         topOrigin := (members.lookup (text "topOrigin")).isSome }

/-- `serde_json::from_slice::<ClientData>` -/
def ClientData.fromSlice (W : WebauthnCrates) (bytes : Bytes) : Except Str ClientData := do
  let value ← W.serdeJson.fromSlice bytes
  okOr (W.serdeJson.dataError bytes) (ClientData.deserialize value)

/-! ## verify_and_recover -/

variable (W : WebauthnCrates) (sha256 : Bytes → ByteArr 32)

/-- `decode` -/
def decodeMember (member value : Str) : Except AssertionError Bytes :=
  okOr (.malformed (member ++ text ": " ++ W.base64Error value))
    (Base64.decodeIndifferent Base64.urlSafe value)

/-- The binary members of an assertion. -/
structure DecodedAssertion where
  credentialId : Bytes
  authenticatorData : Bytes
  clientDataJson : Bytes
  signature : Bytes
  userHandle : Option Bytes
  deriving DecidableEq, Repr

/-- `verify_and_recover`, the structure: every binary member decodes, `id` agrees with
`rawId`. -/
def decodeAssertion (a : AssertionJson) : Except AssertionError DecodedAssertion := do
  ensure (a.type = text "public-key") (.malformed
    (text "credential type " ++ W.debugStr a.type ++ text " is not public-key"))
  let credentialId ← decodeMember W (text "rawId") a.rawId
  let id ← decodeMember W (text "id") a.id
  ensure (id = credentialId) (.malformed (text "id does not match rawId"))
  let authenticatorData ← decodeMember W (text "authenticatorData") a.response.authenticatorData
  let clientDataJson ← decodeMember W (text "clientDataJSON") a.response.clientDataJson
  let signature ← decodeMember W (text "signature") a.response.signature
  let userHandle ← a.response.userHandle.mapM (decodeMember W (text "userHandle"))
  pure { credentialId, authenticatorData, clientDataJson, signature, userHandle }

/-- The challenge bytes the assertion must carry. -/
def ExpectedChallenge.want : ExpectedChallenge → Except AssertionError Bytes
  | .exact challenge => .ok challenge
  | .derivedLogin nonce nodeUrl =>
      ((deriveLoginChallenge W sha256 nonce nodeUrl).map Subtype.val).mapError .invalidNodeUrl

/-- What the checks find out. -/
structure Ceremony where
  entry : RpEntry
  origin : Str
  flags : UInt8
  deriving DecidableEq, Repr

/-- `verify_and_recover`, the checks: none of them needs the public key. -/
def checkCeremony (authenticatorData clientDataJson : Bytes) (expected : ExpectedChallenge)
    (policy : AssertionPolicy) : Except AssertionError Ceremony := do
  let authData ← (parseAuthenticatorData authenticatorData).mapError .malformed
  let client ← (ClientData.fromSlice W clientDataJson).mapError fun e =>
    .malformed (text "clientDataJSON: " ++ e)
  ensure (client.type = text "webauthn.get") .wrongType
  let challenge ← decodeMember W (text "clientDataJSON challenge") client.challenge
  let want ← expected.want W sha256
  ensure (challenge = want) .challengeMismatch
  let entry ← okOr .rpIdNotAllowed (policy.entryForRpIdHash authData.rpIdHash)
  ensure (entry.allowsOrigin client.origin = true) .originNotAllowed
  ensure (client.crossOrigin ≠ some true) .crossOrigin
  ensure (client.topOrigin = false) .topOriginPresent
  ensure (authData.flags &&& flagUp ≠ 0) .userPresenceMissing
  ensure (policy.requireUv = true → authData.flags &&& flagUv ≠ 0) .userVerificationMissing
  pure { entry, origin := client.origin, flags := authData.flags }

/-- `verify_and_recover`, the recovery: both parities of the nonce point. -/
def recoverCandidates {P : P256} (R : P256Recovery P) (members : DecodedAssertion) :
    Except AssertionError (P.VerifyingKey × P.VerifyingKey) := do
  let sig ← (P.signatureFromDer members.signature).mapError fun _ => .badSignature
  let sig := (R.normalizeS sig).getD sig
  let z := sha256 (signedPayload sha256 members.authenticatorData members.clientDataJson)
  let recover (yOdd : Bool) := okOr .badSignature (R.recoverFromPrehash z sig ⟨yOdd, false⟩)
  let even ← recover false
  let odd ← recover true
  pure (even, odd)

/-- `verify_and_recover` -/
def verifyAndRecover {P : P256} (R : P256Recovery P) (a : AssertionJson)
    (expected : ExpectedChallenge) (policy : AssertionPolicy) :
    Except AssertionError (RecoveredAssertion P) := do
  let members ← decodeAssertion W a
  let ceremony ← checkCeremony W sha256 members.authenticatorData members.clientDataJson expected
    policy
  let candidates ← recoverCandidates sha256 R members
  pure
    { rpId := ceremony.entry.rpId
      origin := ceremony.origin
      userVerified := ceremony.flags &&& flagUv ≠ 0
      backupEligible := ceremony.flags &&& flagBe ≠ 0
      backupState := ceremony.flags &&& flagBs ≠ 0
      credentialId := members.credentialId
      userHandle := members.userHandle
      candidates }

/-- `did_key_of` -/
def didKeyOf {P : P256} (R : P256Recovery P) (vk : P.VerifyingKey) : Str :=
  p256DidKeyFromPubkey (R.toCompressedPoint vk)

/-- `RecoveredAssertion::candidate_dids` -/
def RecoveredAssertion.candidateDids {P : P256} (R : P256Recovery P)
    (recovered : RecoveredAssertion P) : Str × Str :=
  (didKeyOf R recovered.candidates.1, didKeyOf R recovered.candidates.2)

end AquaAuth
