import AquaAuth.Support.Result
import AquaAuth.Model.Crates
import AquaAuth.Model.Error
set_option autoImplicit false
/-!
# Keys carried by an identifier

`key/ed25519.rs` (the strict key check) and `key/mod.rs` (the multibase and
multicodec envelope shared by `did:key` and `did:peer`).
-/

namespace AquaAuth

open Support Support.Result

/-- `key::ed25519::strict_verifying_key` -/
def strictVerifyingKey (D : Dalek) (bytes : ByteArr 32) :
    Except CryptoError D.VerifyingKey := do
  let point ← okOr (.invalidDid (text "Ed25519 public key is not a curve point"))
    (D.decompress bytes)
  ensure (D.compress point = bytes)
    (.invalidDid (text "Ed25519 public key has a non-canonical encoding"))
  let key ← (D.verifyingKeyFromBytes bytes).mapError fun e =>
    .invalidDid (text "invalid Ed25519 public key: " ++ e)
  ensure (D.isWeak key = false)
    (.invalidDid (text "Ed25519 public key is a weak (small order) key"))
  ensure (D.isTorsionFree point = true)
    (.invalidDid (text "Ed25519 public key is not in the prime-order subgroup"))
  pure key

/-- `key::ED25519_PREFIX` -/
def ed25519Prefix : Bytes := [0xED, 0x01]

/-- `key::P256_PREFIX` -/
def p256Prefix : Bytes := [0x80, 0x24]

/-- `key::KeyType` -/
inductive KeyType where
  | ed25519 (raw : Bytes)
  | p256 (raw : Bytes)
  deriving DecidableEq, Repr

/-- `key::key_type_label` -/
def keyTypeLabel : KeyType → Str
  | .ed25519 _ => text "Ed25519"
  | .p256 _ => text "P-256"

/-- An ASCII character as the debug format prints it, in quotes. -/
def debugAsciiChar (c : Char) : Str :=
  let body : Str :=
    if c = '\'' ∨ c = '\\' then ['\\', c]
    else if c.toNat = 0 then text "\\0"
    else if c = '\t' then text "\\t"
    else if c = '\r' then text "\\r"
    else if c = '\n' then text "\\n"
    else if c.toNat < 32 ∨ c.toNat = 127 then
      text "\\u\x7b" ++ Nat.toDigits 16 c.toNat ++ text "\x7d"
    else [c]
  ['\''] ++ body ++ ['\'']

/-- A character of the Latin-1 range as the debug format prints it. -/
def debugLatin1Char (c : Char) : Str :=
  if (128 ≤ c.toNat ∧ c.toNat ≤ 160) ∨ c.toNat = 173 then
    text "'\\u\x7b" ++ Nat.toDigits 16 c.toNat ++ text "\x7d'"
  else debugAsciiChar c

/-- The text of a hexadecimal decoding error. -/
def hexErrorText : Hex.DecodeError → Str
  | .invalidHexCharacter c index =>
      text "Invalid character " ++ debugLatin1Char c ++ text " at position " ++ Text.decimal index
  | .oddLength => text "Odd number of digits"
  | .invalidStringLength => text "Invalid string length"

/-- The `Display` of `crypto_error::CryptoError`. -/
def CryptoError.display : CryptoError → Str
  | .unsupportedMethod did => text "unsupported DID method: " ++ did
  | .invalidDid reason => text "invalid DID: " ++ reason
  | .invalidSignature reason => text "invalid signature: " ++ reason
  | .verificationFailed => text "signature verification failed"
  | .hexDecode e => text "hex decode error: " ++ hexErrorText e

/-- The text of a base58 decoding error. -/
def base58ErrorText : Base58.DecodeError → Str
  | .invalidCharacter c index =>
      text "provided string contained invalid character " ++ debugAsciiChar c ++
        text " at byte " ++ Text.decimal index
  | .nonAsciiCharacter index =>
      text "provided string contained non-ascii character starting at byte " ++
        Text.decimal index

/-- Byte lists in lowercase hexadecimal, as the debug format prints them. -/
def debugHex (bytes : Bytes) : Str :=
  text "[" ++ List.intercalate (text ", ") (bytes.map fun b => Hex.encode [b]) ++ text "]"

/-- The strict check `decode_multibase_key` makes on a key of the right length. -/
def checkEd25519Raw (D : Dalek) (raw : Bytes) : Except CryptoError Unit :=
  if h : raw.length = 32 then do
    let _ ← strictVerifyingKey D ⟨raw, h⟩
    pure ()
  else
    -- A wrong length is reported by the callers.
    pure ()

/-- `key::decode_multibase_key` -/
def decodeMultibaseKey (D : Dalek) (zBody : Str) : Except CryptoError KeyType := do
  let bytes ← (Base58.decode zBody).mapError fun e =>
    .invalidDid (text "base58btc decode error: " ++ base58ErrorText e)
  if ed25519Prefix.isPrefixOf bytes then
    let raw := bytes.drop ed25519Prefix.length
    checkEd25519Raw D raw
    pure (.ed25519 raw)
  else if p256Prefix.isPrefixOf bytes then
    pure (.p256 (bytes.drop p256Prefix.length))
  else
    .error (.invalidDid (text "unknown multicodec prefix " ++ debugHex (bytes.take 2)))

/-- `key::ed25519_pubkey_from_did_key` -/
def ed25519PubkeyFromDidKey (D : Dalek) (did : Str) : Except CryptoError (ByteArr 32) := do
  let zBody ← okOr (.invalidDid (text "expected did:key DID: " ++ did))
    (Text.stripPrefix (text "did:key:z") did)
  let key ← decodeMultibaseKey D zBody
  match key with
  | .ed25519 raw => tryIntoArr 32 (.invalidDid (text "Ed25519 public key must be 32 bytes")) raw
  | other => .error (.invalidDid
      (text "expected an Ed25519 did:key, got " ++ keyTypeLabel other))

/-- `key::verify_with_key`, on an Ed25519 key. -/
def verifyWithEd25519Key (D : Dalek) (raw : Bytes) (message : Str) (signature : Bytes) :
    Except CryptoError Bool := do
  let keyBytes ← tryIntoArr 32
    (.invalidSignature (text "Ed25519 public key must be 32 bytes")) raw
  let verifyingKey ← strictVerifyingKey D keyBytes
  ensure (signature.length = 64) (.invalidSignature
    (text "Ed25519 signature must be 64 bytes, got " ++ Text.decimal signature.length))
  let sig ← (D.signatureFromSlice signature).mapError fun e =>
    .invalidSignature (text "invalid Ed25519 sig: " ++ e)
  pure (D.verifyStrict verifyingKey (Text.utf8 message) sig)

/-- A P-256 signature in DER, else in the fixed-size encoding; the error is the
one of the second attempt. -/
def p256SignatureFromBytes (P : P256) (signature : Bytes) : Except Str P.Signature :=
  match P.signatureFromDer signature with
  | .ok sig => .ok sig
  | .error _ => P.signatureFromSlice signature

/-- `key::verify_with_key`, on a P-256 key. -/
def verifyWithP256Key (P : P256) (raw : Bytes) (message : Str) (signature : Bytes) :
    Except CryptoError Bool := do
  let point ← (P.encodedPointFromBytes raw).mapError fun e =>
    .invalidSignature (text "invalid P-256 encoded point: " ++ e)
  let verifyingKey ← (P.verifyingKeyFromEncodedPoint point).mapError fun e =>
    .invalidSignature (text "invalid P-256 key: " ++ e)
  let sig ← (p256SignatureFromBytes P signature).mapError fun e =>
    .invalidSignature (text "invalid P-256 sig: " ++ e)
  pure (P.verify verifyingKey (Text.utf8 message) sig)

/-- `key::verify_with_key` -/
def verifyWithKey (B : Build) (key : KeyType) (message : Str) (signature : Bytes) :
    Except CryptoError Bool :=
  match key with
  | .ed25519 raw => verifyWithEd25519Key B.dalek raw message signature
  | .p256 raw => verifyWithP256Key B.p256 raw message signature

/-! ## What a decoded body says -/

/-- The encoding of a P-256 key decodes to it. -/
theorem decodeMultibaseKey_p256 (D : Dalek) (raw : ByteArr 33) :
    decodeMultibaseKey D (Base58.encode (p256Prefix ++ raw.1)) = .ok (.p256 raw.1) := by
  have hother : ed25519Prefix.isPrefixOf (p256Prefix ++ raw.1) = false := rfl
  have hprefix : p256Prefix.isPrefixOf (p256Prefix ++ raw.1) = true := rfl
  rw [decodeMultibaseKey, Base58.decode_encode]
  simp only [Except.mapError, ok_bind, hother, hprefix, Bool.false_eq_true, if_false, if_true]
  rfl

/-- A body that decodes is written in the base58 alphabet. -/
theorem mem_alphabet_of_decodeMultibaseKey {D : Dalek} {zBody : Str} {key : KeyType}
    (h : decodeMultibaseKey D zBody = .ok key) : ∀ c ∈ zBody, c ∈ Base58.alphabet := by
  obtain ⟨bytes, hbytes, _⟩ := bind_eq_ok.mp h
  exact Base58.mem_alphabet_of_decode (mapError_eq_ok.mp hbytes)

/-- A body that decodes is the encoding of its key behind the prefix of the key's type. -/
theorem encode_of_decodeMultibaseKey {D : Dalek} {zBody : Str} {key : KeyType}
    (h : decodeMultibaseKey D zBody = .ok key) :
    match key with
    | .ed25519 raw => Base58.encode (ed25519Prefix ++ raw) = zBody
    | .p256 raw => Base58.encode (p256Prefix ++ raw) = zBody := by
  obtain ⟨bytes, hbytes, h⟩ := bind_eq_ok.mp h
  have hencode := Base58.encode_of_decode (mapError_eq_ok.mp hbytes)
  have hdrop : ∀ {pre : Bytes}, pre.isPrefixOf bytes = true →
      pre ++ bytes.drop pre.length = bytes := by
    intro pre hpre
    obtain ⟨rest, rfl⟩ := List.isPrefixOf_iff_prefix.mp hpre
    simp
  split_ifs at h with hed hp256
  · obtain ⟨_, _, h⟩ := bind_eq_ok.mp h
    obtain rfl := Except.ok.inj h
    show Base58.encode (ed25519Prefix ++ bytes.drop ed25519Prefix.length) = zBody
    rw [hdrop hed, hencode]
  · obtain rfl := Except.ok.inj h
    show Base58.encode (p256Prefix ++ bytes.drop p256Prefix.length) = zBody
    rw [hdrop hp256, hencode]

end AquaAuth
