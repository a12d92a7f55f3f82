import AquaAuth.Model.Did
set_option autoImplicit false
/-!
# did:aqua

`aqua/codec.rs` (the key-hash identifier) and `aqua/ml_dsa.rs` (the hint gate
and the verification pipeline).
-/

namespace AquaAuth

open Support Support.Result

namespace Aqua

/-! ## codec.rs -/

/-- `DID_AQUA_LEN` -/
def didAquaLen : Nat := 56

/-- `MULTIHASH_SHA2_256` -/
def multihashSha2256 : UInt8 := 0x12

/-- `MULTIHASH_DIGEST_LEN` -/
def multihashDigestLen : UInt8 := 0x20

/-- The RFC 7638 preimage `aqua_did_from_pubkey` hashes. -/
def jwk (pubkey : Bytes) : Str :=
  text "\x7b\"alg\":\"ML-DSA-87\",\"kty\":\"AKP\",\"pub\":\"" ++
    Base64.encodeNoPad Base64.urlSafe pubkey ++ text "\"\x7d"

/-- `aqua_did_from_pubkey` -/
def aquaDidFromPubkey (sha256 : Bytes → ByteArr 32) (pubkey : Bytes) : Str :=
  let digest := (sha256 (Text.utf8 (jwk pubkey))).1
  (text "did:aqua:z") ++ Base58.encode (multihashSha2256 :: multihashDigestLen :: digest)

/-- The refusal of `multihash_from_aqua_did`. -/
def bad (why : Str) : CryptoError := .invalidDid (text "did:aqua: " ++ why)

/-- `multihash_from_aqua_did` -/
def multihashFromAquaDid (did : Str) : Except CryptoError (ByteArr 34) := do
  ensure (∀ c ∈ did, c ≠ '/' ∧ c ≠ '?' ∧ c ≠ '#' ∧ c ≠ ';')
    (bad (text "forbidden component (path, query, fragment or parameter)"))
  ensure (Text.utf8Len did = didAquaLen)
    (bad (text "wrong total length (expected 56 characters, got " ++
      Text.decimal (Text.utf8Len did) ++ text ")"))
  let rest ← okOr (bad (text "missing or incorrect \"did:aqua:\" prefix"))
    (Text.stripPrefix (text "did:aqua:") did)
  let body ← okOr (bad (text "missing or wrong multibase prefix (expected 'z')"))
    (Text.stripPrefix (text "z") rest)
  let raw ← (Base58.decode body).mapError fun _ =>
    bad (text "non-base58btc characters or decode failure")
  ensure (raw[0]? = some multihashSha2256)
    (bad ("wrong multihash code (expected 0x12 / sha2-256, the RFC 7638 thumbprint " ++
      "hash)").toList)
  ensure (raw[1]? = some multihashDigestLen)
    (bad (text "wrong digest length (expected 0x20 / 32 bytes)"))
  tryIntoArr 34 (bad (text "multihash is not 34 bytes")) raw

/-- `aqua_did_binds_pubkey` -/
def aquaDidBindsPubkey (sha256 : Bytes → ByteArr 32) (did : Str) (pubkey : Bytes) :
    Except CryptoError Bool := do
  let claimed ← multihashFromAquaDid did
  let derived ← multihashFromAquaDid (aquaDidFromPubkey sha256 pubkey)
  pure (claimed = derived)

/-! ## ml_dsa.rs -/

/-- `OMEGA` -/
def omega : Nat := 75

/-- `HINT_OFFSET` -/
def hintOffset : Nat := 4544

/-- `HintDefect` -/
inductive HintDefect where
  | cumulativeCountNotMonotone
  | cumulativeCountAboveOmega
  | indicesNotStrictlyIncreasing
  | unusedHintByteNonZero
  deriving DecidableEq, Repr

/-- The text of a hint defect. -/
def HintDefect.display : HintDefect → Str
  | .cumulativeCountNotMonotone => text "cumulative hint counts are not monotone"
  | .cumulativeCountAboveOmega => text "a cumulative hint count exceeds omega"
  | .indicesNotStrictlyIncreasing =>
      text "hint indices are not strictly increasing within a polynomial"
  | .unusedHintByteNonZero => text "an unused hint byte is non-zero"

/-- Gates 1 and 2: the walk over the cumulative counts, returning the last one. -/
def walkCuts (running : Nat) : Bytes → Except HintDefect Nat
  | [] => .ok running
  | cut :: cuts =>
      if cut.toNat < running then .error .cumulativeCountNotMonotone
      else if omega < cut.toNat then .error .cumulativeCountAboveOmega
      else walkCuts cut.toNat cuts

/-- Whether each byte is below the next one. -/
def strictlyIncreasing : Bytes → Bool
  | a :: b :: rest => a < b && strictlyIncreasing (b :: rest)
  | _ => true

/-- Gate 4: the walk over the index windows the counts cut out. -/
def walkWindows (indices : Bytes) (start : Nat) : Bytes → Except HintDefect Unit
  | [] => .ok ()
  | cut :: cuts =>
      if strictlyIncreasing ((indices.take cut.toNat).drop start) then
        walkWindows indices cut.toNat cuts
      else .error .indicesNotStrictlyIncreasing

/-- `hint_encoding_is_canonical` -/
def hintEncodingIsCanonical (sig : ByteArr 4627) : Except HintDefect Unit := do
  let hint := sig.1.drop hintOffset
  let indices := hint.take omega
  let cuts := hint.drop omega
  let maxCut ← walkCuts 0 cuts
  ensure (∀ b ∈ indices.drop maxCut, b = 0) .unusedHintByteNonZero
  walkWindows indices 0 cuts

/-- `ml_dsa::verify` -/
def verify (M : MlDsa) (publicKey signature message : Bytes) : Except CryptoError Bool := do
  let pk ← tryIntoArr 2592 (.invalidSignature
    (text "ML-DSA-87 public key must be 2592 bytes, got " ++ Text.decimal publicKey.length))
    publicKey
  let sig ← tryIntoArr 4627 (.invalidSignature
    (text "ML-DSA-87 signature must be 4627 bytes, got " ++ Text.decimal signature.length))
    signature
  (hintEncodingIsCanonical sig).mapError fun d =>
    .invalidSignature (text "ML-DSA-87 hint encoding: " ++ d.display)
  match M.decodeSignature sig with
  -- Past the hint gate a signature that does not decode is one whose `z` is out of range.
  | none => pure false
  | some decoded => pure (M.verifyWithContext (M.decodeVerifyingKey pk) message [] decoded)

end Aqua

end AquaAuth
