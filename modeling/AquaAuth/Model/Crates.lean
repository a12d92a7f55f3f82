import AquaAuth.Support.Encoding
set_option autoImplicit false
/-!
# Third-party crates

The cryptographic crates the program links, as parameters: their types, the
functions it calls and nothing about what they compute.  What a result relies on
is a hypothesis of that result.  A fallible constructor carries the text its
error displays, which is all the program ever reads of it.
-/

namespace AquaAuth

open Support

/-- Byte arrays of a fixed length. -/
abbrev ByteArr (n : Nat) := { bytes : Bytes // bytes.length = n }

/-- `curve25519-dalek` and `ed25519-dalek`. -/
structure Dalek where
  EdwardsPoint : Type
  VerifyingKey : Type
  Signature : Type
  decompress : ByteArr 32 → Option EdwardsPoint
  compress : EdwardsPoint → ByteArr 32
  isTorsionFree : EdwardsPoint → Bool
  verifyingKeyFromBytes : ByteArr 32 → Except Str VerifyingKey
  isWeak : VerifyingKey → Bool
  signatureFromSlice : Bytes → Except Str Signature
  verifyStrict : VerifyingKey → Bytes → Signature → Bool

/-- `p256`. -/
structure P256 where
  EncodedPoint : Type
  VerifyingKey : Type
  Signature : Type
  encodedPointFromBytes : Bytes → Except Str EncodedPoint
  verifyingKeyFromEncodedPoint : EncodedPoint → Except Str VerifyingKey
  signatureFromDer : Bytes → Except Str Signature
  signatureFromSlice : Bytes → Except Str Signature
  verify : VerifyingKey → Bytes → Signature → Bool

/-- `k256`. -/
structure K256 where
  RecoveryId : Type
  VerifyingKey : Type
  Signature : Type
  recoveryIdFromByte : UInt8 → Option RecoveryId
  signatureFromSlice : Bytes → Except Str Signature
  recoverFromPrehash : ByteArr 32 → Signature → RecoveryId → Except Str VerifyingKey
  /-- The SEC1 encoding of the key without point compression. -/
  toUncompressedPoint : VerifyingKey → ByteArr 65

/-- `ml-dsa`, at the ML-DSA-87 parameter set. -/
structure MlDsa where
  VerifyingKey : Type
  Signature : Type
  decodeVerifyingKey : ByteArr 2592 → VerifyingKey
  decodeSignature : ByteArr 4627 → Option Signature
  verifyWithContext : VerifyingKey → Bytes → Bytes → Signature → Bool

/-- One build of the program: its `did-aqua` feature and the crates it links. -/
structure Build where
  didAqua : Bool
  dalek : Dalek
  p256 : P256
  k256 : K256
  mlDsa : MlDsa
  keccak256 : Bytes → ByteArr 32
  sha256 : Bytes → ByteArr 32

theorem length_replicate32 (b : UInt8) : (List.replicate 32 b).length = 32 := by simp

/-- Convert to a fixed-length array, as `try_into` does. -/
def tryIntoArr {ε : Type} (n : Nat) (e : ε) (bytes : Bytes) : Except ε (ByteArr n) :=
  if h : bytes.length = n then .ok ⟨bytes, h⟩ else .error e

theorem tryIntoArr_eq_ok {ε : Type} {n : Nat} {e : ε} {bytes : Bytes} {arr : ByteArr n} :
    tryIntoArr n e bytes = .ok arr ↔ arr.1 = bytes := by
  unfold tryIntoArr
  split_ifs with h
  · simp [Subtype.ext_iff, eq_comm]
  · simp only [false_iff]
    rintro rfl
    exact h arr.2

/-! ## Crates given by a table -/

/-- The bytes a hexadecimal literal writes. -/
def bytesOfHex (s : String) : Bytes :=
  match Hex.decode (text s) with
  | .ok bytes => bytes
  | .error _ => []

/-- The array of `n` bytes a hexadecimal literal writes, filled up with zeros. -/
def arrOfHex (n : Nat) (s : String) : ByteArr n :=
  ⟨(bytesOfHex s ++ List.replicate n 0).take n, by simp⟩

/-- A hash function as far as a list of digests tells. -/
def digestOfTable (table : List (Bytes × ByteArr 32)) (bytes : Bytes) : ByteArr 32 :=
  ((table.find? fun entry => entry.1 = bytes).map Prod.snd).getD (arrOfHex 32 "")

/-- A public key, a message and a signature that verifies. -/
structure Signed where
  key : Bytes
  message : Bytes
  signature : Bytes
  deriving DecidableEq, Repr

/-- Ed25519 as far as a list of signatures tells: the keys in it are sound, and
what verifies is what is in it. -/
def Dalek.ofTable (table : List Signed) : Dalek where
  EdwardsPoint := ByteArr 32
  VerifyingKey := ByteArr 32
  Signature := Bytes
  decompress bytes := if bytes.1 ∈ table.map Signed.key then some bytes else none
  compress bytes := bytes
  isTorsionFree _ := true
  verifyingKeyFromBytes := .ok
  isWeak _ := false
  signatureFromSlice bytes :=
    if bytes.length = 64 then .ok bytes else .error (text "signature error")
  verifyStrict key message signature := ⟨key.1, message, signature⟩ ∈ table

/-- P-256 as far as a list of signatures tells.  Point encodings are told apart
by their SEC1 tag and length. -/
def P256.ofTable (table : List Signed) : P256 where
  EncodedPoint := Bytes
  VerifyingKey := Bytes
  Signature := Bytes
  encodedPointFromBytes bytes :=
    let tag := bytes.headD 0xFF
    if (tag = 0 ∧ bytes.length = 1) ∨ (tag = 4 ∧ bytes.length = 65) ∨
        ((tag = 2 ∨ tag = 3 ∨ tag = 5) ∧ bytes.length = 33) then .ok bytes
    else .error (text "crypto error")
  verifyingKeyFromEncodedPoint point :=
    if point ∈ table.map Signed.key then .ok point else .error (text "signature error")
  signatureFromDer _ := .error (text "signature error")
  signatureFromSlice bytes :=
    if bytes.length = 64 then .ok bytes else .error (text "signature error")
  verify key message signature := ⟨key, message, signature⟩ ∈ table

/-- A build on which runs over listed Ed25519 and P-256 signatures evaluate.  The
other crates refuse whatever they are given. -/
def Build.ofTable (ed25519 p256 : List Signed) : Build where
  didAqua := true
  dalek := .ofTable ed25519
  p256 := .ofTable p256
  k256 :=
    { RecoveryId := Empty
      VerifyingKey := Empty
      Signature := Empty
      recoveryIdFromByte := fun _ => none
      signatureFromSlice := fun _ => .error (text "signature error")
      recoverFromPrehash := fun _ _ _ => .error (text "signature error")
      toUncompressedPoint := nofun }
  mlDsa :=
    { VerifyingKey := Unit
      Signature := Empty
      decodeVerifyingKey := fun _ => ()
      decodeSignature := fun _ => none
      verifyWithContext := fun _ _ _ _ => false }
  keccak256 _ := ⟨List.replicate 32 0, by simp⟩
  sha256 _ := ⟨List.replicate 32 0, by simp⟩

end AquaAuth
