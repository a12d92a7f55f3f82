import AquaAuth.Model.DidMethod
import AquaAuth.Support.Der
import AquaAuth.Support.P256Order
set_option autoImplicit false
/-!
# Encodings of P-256 signatures

The two byte strings that encode one signature, and which of them a verifier that tries DER first
reads back.
-/

namespace AquaAuth

open Support Support.Result

/-- The two constructors of `p256` read strict DER and 64 bytes, as the pair `scalars` of the
signature. -/
structure SignatureEncodings (P : P256) (scalars : P.Signature → ℕ × ℕ) : Prop where
  scalars_lt : ∀ sig, (scalars sig).1 < 256 ^ 32 ∧ (scalars sig).2 < 256 ^ 32
  fromDer_iff : ∀ bytes sig, P.signatureFromDer bytes = .ok sig ↔
    Der.decode bytes = some (scalars sig)
  fromSlice_iff : ∀ bytes sig, P.signatureFromSlice bytes = .ok sig ↔
    bytes.length = 64 ∧ (Der.value (bytes.take 32), Der.value (bytes.drop 32)) = scalars sig

/-- The DER encoding of a pair. -/
def derBytes (pair : ℕ × ℕ) : Bytes := Der.signature pair.1 pair.2

/-- The fixed-size encoding of a pair. -/
def fixedBytes (pair : ℕ × ℕ) : Bytes := Der.fixed 32 pair.1 ++ Der.fixed 32 pair.2

section

variable {P : P256} {scalars : P.Signature → ℕ × ℕ} (h : SignatureEncodings P scalars)
  {sig other : P.Signature}

include h

/-- The DER encoding is read back. -/
theorem signatureFromBytes_der : p256SignatureFromBytes P (derBytes (scalars sig)) = .ok sig := by
  obtain ⟨hr, hs⟩ := h.scalars_lt sig
  have hder : P.signatureFromDer (derBytes (scalars sig)) = .ok sig := by
    rw [h.fromDer_iff, derBytes, Der.decode_signature hr hs]
  rw [p256SignatureFromBytes, hder]

theorem signatureFromSlice_fixed : P.signatureFromSlice (fixedBytes (scalars sig)) = .ok sig := by
  obtain ⟨hr, hs⟩ := h.scalars_lt sig
  have hlen := Der.length_fixed hr
  have hlen' := Der.length_fixed hs
  rw [h.fromSlice_iff, fixedBytes]
  constructor
  · rw [List.length_append, hlen, hlen']
  · rw [List.take_left' hlen, List.drop_left' hlen, Der.value_fixed, Der.value_fixed]

/-- The fixed-size encoding is read back unless it is a DER encoding, which is then read instead. -/
theorem signatureFromBytes_fixed :
    p256SignatureFromBytes P (fixedBytes (scalars sig)) = .ok other ↔
      Der.decode (fixedBytes (scalars sig)) = some (scalars other) ∨
        sig = other ∧ ∀ sig', Der.decode (fixedBytes (scalars sig)) ≠ some (scalars sig') := by
  unfold p256SignatureFromBytes
  simp only [signatureFromSlice_fixed h, ne_eq, ← h.fromDer_iff]
  cases hder : P.signatureFromDer (fixedBytes (scalars sig)) with
  | ok sig' =>
      constructor
      · exact Or.inl
      · rintro (heq | ⟨_, hnone⟩)
        · exact heq
        · exact absurd rfl (hnone sig')
  | error e =>
      constructor
      · intro heq
        exact .inr ⟨Except.ok.inj heq, nofun⟩
      · rintro (heq | ⟨heq, _⟩)
        · cases heq
        · exact congrArg Except.ok heq

end

/-! ## The verifiers -/

/-- The bytes are an encoding of the key. -/
def EncodesKey (P : P256) (raw : Bytes) (key : P.VerifyingKey) : Prop :=
  ∃ point, P.encodedPointFromBytes raw = .ok point ∧ P.verifyingKeyFromEncodedPoint point = .ok key

variable {B : Build} {did message : Str} {key : B.p256.VerifyingKey}

/-- A signature is read, and then it is checked under the key. -/
theorem readThenVerify_eq_true {P : P256} {key : P.VerifyingKey} {payload bytes : Bytes}
    {f : Str → CryptoError} :
    ((p256SignatureFromBytes P bytes).mapError f >>= fun sig =>
        pure (P.verify key payload sig)) = .ok true ↔
      ∃ sig, p256SignatureFromBytes P bytes = .ok sig ∧ P.verify key payload sig = true := by
  constructor
  · intro hok
    obtain ⟨sig, hsig, hok⟩ := bind_eq_ok.mp hok
    exact ⟨sig, mapError_eq_ok.mp hsig, Except.ok.inj hok⟩
  · rintro ⟨sig, hsig, hverify⟩
    exact bind_eq_ok.mpr ⟨sig, mapError_eq_ok.mpr hsig, congrArg Except.ok hverify⟩

/-- What the suite says of a signature under a DID that carries the key. -/
theorem p256Verify_eq_true {raw : ByteArr 33} (hdid : pubkeyFromP256Did did = .ok raw)
    (hkey : EncodesKey B.p256 raw.1 key) {bytes : Bytes} :
    p256Verify B did message bytes = .ok true ↔
      ∃ sig, p256SignatureFromBytes B.p256 bytes = .ok sig ∧
        B.p256.verify key (Text.utf8 message) sig = true := by
  obtain ⟨point, hpoint, hload⟩ := hkey
  rw [p256Verify, hdid, ok_bind, hpoint]
  simp only [Except.mapError, ok_bind, hload]
  exact readThenVerify_eq_true

theorem verifyWithKey_eq_true {raw : Bytes} (hkey : EncodesKey B.p256 raw key) {bytes : Bytes} :
    verifyWithKey B (.p256 raw) message bytes = .ok true ↔
      ∃ sig, p256SignatureFromBytes B.p256 bytes = .ok sig ∧
        B.p256.verify key (Text.utf8 message) sig = true := by
  obtain ⟨point, hpoint, hload⟩ := hkey
  rw [verifyWithKey, verifyWithP256Key, hpoint]
  simp only [Except.mapError, ok_bind, hload]
  exact readThenVerify_eq_true

/-- A verifier accepts both encodings of a pair. -/
structure AcceptsBoth (verify : Bytes → Except CryptoError Bool) (pair : ℕ × ℕ) : Prop where
  der : verify (derBytes pair) = .ok true
  fixed : verify (fixedBytes pair) = .ok true

/-- The 64 bytes of a pair are no DER signature but one that verifies as well. -/
def FixedReadsAsValid {P : P256} (scalars : P.Signature → ℕ × ℕ) (key : P.VerifyingKey)
    (message : Str) (pair : ℕ × ℕ) : Prop :=
  ∀ other, Der.decode (fixedBytes pair) = some (scalars other) →
    P.verify key (Text.utf8 message) other = true

variable {scalars : B.p256.Signature → ℕ × ℕ} {sig : B.p256.Signature}

theorem acceptsBoth_of_reads (h : SignatureEncodings B.p256 scalars)
    (hvalid : B.p256.verify key (Text.utf8 message) sig = true)
    {verify : Bytes → Except CryptoError Bool}
    (hverify : ∀ bytes, verify bytes = .ok true ↔
      ∃ sig, p256SignatureFromBytes B.p256 bytes = .ok sig ∧
        B.p256.verify key (Text.utf8 message) sig = true) :
    AcceptsBoth verify (scalars sig) ↔ FixedReadsAsValid scalars key message (scalars sig) := by
  have hunique : ∀ {other other'}, Der.decode (fixedBytes (scalars sig)) = some (scalars other) →
      Der.decode (fixedBytes (scalars sig)) = some (scalars other') → other = other' := by
    intro other other' hother hother'
    rw [← h.fromDer_iff] at hother hother'
    exact Except.ok.inj (hother.symm.trans hother')
  constructor
  · intro hboth other hother
    obtain ⟨sig', hsig', hvalid'⟩ := (hverify _).mp hboth.fixed
    rcases (signatureFromBytes_fixed h).mp hsig' with hder | ⟨_, hnone⟩
    · rw [hunique hother hder]
      exact hvalid'
    · exact absurd hother (hnone other)
  · intro hreads
    refine ⟨(hverify _).mpr ⟨sig, signatureFromBytes_der h, hvalid⟩, (hverify _).mpr ?_⟩
    by_cases hder : ∃ other, Der.decode (fixedBytes (scalars sig)) = some (scalars other)
    · obtain ⟨other, hother⟩ := hder
      exact ⟨other, (signatureFromBytes_fixed h).mpr (.inl hother), hreads other hother⟩
    · have hnone : ∀ other, Der.decode (fixedBytes (scalars sig)) ≠ some (scalars other) :=
        fun other hother => hder ⟨other, hother⟩
      exact ⟨sig, (signatureFromBytes_fixed h).mpr (.inr ⟨rfl, hnone⟩), hvalid⟩

/-- Both verifiers accept both encodings of a valid signature exactly when its 64 bytes are not
the DER encoding of an invalid one. -/
theorem acceptsBoth_iff (h : SignatureEncodings B.p256 scalars) {raw : ByteArr 33} {raw' : Bytes}
    (hdid : pubkeyFromP256Did did = .ok raw) (hkey : EncodesKey B.p256 raw.1 key)
    (hkey' : EncodesKey B.p256 raw' key)
    (hvalid : B.p256.verify key (Text.utf8 message) sig = true) :
    AcceptsBoth (p256Verify B did message) (scalars sig) ∧
        AcceptsBoth (verifyWithKey B (.p256 raw') message) (scalars sig) ↔
      FixedReadsAsValid scalars key message (scalars sig) := by
  rw [acceptsBoth_of_reads h hvalid fun bytes => p256Verify_eq_true hdid hkey,
    acceptsBoth_of_reads h hvalid fun bytes => verifyWithKey_eq_true hkey', and_self_iff]

/-! ## Crates by a table of pairs -/

/-- The pairs that are signatures. -/
abbrev ScalarPair : Type :=
  { pair : ℕ × ℕ // (0 < pair.1 ∧ pair.1 < Primality.p256Order) ∧
    0 < pair.2 ∧ pair.2 < Primality.p256Order }

def scalarPair (pair : ℕ × ℕ) : Except Str ScalarPair :=
  if h : (0 < pair.1 ∧ pair.1 < Primality.p256Order) ∧
      0 < pair.2 ∧ pair.2 < Primality.p256Order then .ok ⟨pair, h⟩
  else .error (text "signature error")

theorem scalarPair_eq_ok {pair : ℕ × ℕ} {sig : ScalarPair} :
    scalarPair pair = .ok sig ↔ pair = sig.1 := by
  unfold scalarPair
  split_ifs with h
  · rw [Except.ok.injEq, Subtype.ext_iff]
  · constructor
    · intro heq
      cases heq
    · rintro rfl
      exact absurd sig.2 h

/-- P-256 as far as a list of keys, messages and valid pairs tells. -/
def P256.ofPairs (table : List (Bytes × Bytes × (ℕ × ℕ))) : P256 where
  EncodedPoint := Bytes
  VerifyingKey := Bytes
  Signature := ScalarPair
  encodedPointFromBytes := .ok
  verifyingKeyFromEncodedPoint point :=
    if table.any fun entry => entry.1 = point then .ok point else .error (text "signature error")
  signatureFromDer bytes := okOr (text "signature error") (Der.decode bytes) >>= scalarPair
  signatureFromSlice bytes :=
    if bytes.length = 64 then
      scalarPair (Der.value (bytes.take 32), Der.value (bytes.drop 32))
    else .error (text "signature error")
  verify key message sig := table.any fun entry => entry = (key, message, sig.1)

def pairOf (sig : ScalarPair) : ℕ × ℕ := sig.1

theorem p256Order_lt : Primality.p256Order < 256 ^ 32 := by decide +kernel

theorem signatureEncodings_ofPairs (table : List (Bytes × Bytes × (ℕ × ℕ))) :
    SignatureEncodings (P256.ofPairs table) pairOf where
  scalars_lt sig := ⟨sig.2.1.2.trans p256Order_lt, sig.2.2.2.trans p256Order_lt⟩
  fromDer_iff bytes sig := by
    constructor
    · intro h
      obtain ⟨pair, hpair, hsig⟩ := bind_eq_ok.mp h
      rw [okOr_eq_ok.mp hpair, scalarPair_eq_ok.mp hsig]
      rfl
    · intro h
      exact bind_eq_ok.mpr ⟨sig.1, okOr_eq_ok.mpr h, scalarPair_eq_ok.mpr rfl⟩
  fromSlice_iff bytes sig := by
    show (if bytes.length = 64 then
      scalarPair (Der.value (bytes.take 32), Der.value (bytes.drop 32))
      else .error (text "signature error")) = .ok sig ↔ _
    split_ifs with hlen
    · constructor
      · intro h
        exact ⟨hlen, scalarPair_eq_ok.mp h⟩
      · rintro ⟨_, h⟩
        exact scalarPair_eq_ok.mpr h
    · constructor
      · intro h
        cases h
      · rintro ⟨h, _⟩
        exact absurd h hlen

theorem encodesKey_ofPairs {table : List (Bytes × Bytes × (ℕ × ℕ))} {key : Bytes}
    (h : (table.any fun entry => entry.1 = key) = true) : EncodesKey (P256.ofPairs table) key key :=
  ⟨key, rfl, if_pos h⟩

/-- A key and a pair whose 64 bytes are a DER sequence of two numbers of 29 bytes. -/
def derLikeKey : ByteArr 33 :=
  arrOfHex 33 "033e6be7fe0acef00d216f22f91abf8605a4d5b8cbc14d6f6431152db2a1a42af3"

def derLikePair : ℕ × ℕ :=
  (0x303e021d01d376cc0f75505ae166a9665f1e1d2ecdc45606fe5939b9facc78dc,
    0x11021d01043a718774c572bd8a25adbeb1bfcd5c0256ae11cecf9f9c3f925d0e)

/-- The base point, and a pair by it. -/
def basePoint : ByteArr 33 :=
  arrOfHex 33 "036b17d1f2e12c4247f8bce6e563a440f277037d812deb33a0f4a13945d898c296"

def basePair : ℕ × ℕ :=
  (0x7cf27b188d034f7e8a52380304b51ac3c08969e277f21b35a60b48fc47669978,
    0xf01e0884e41ea3578d6be7f395baffe9bb815c42d1bc5303ffe31f3e29ef295e)

def helloMessage : Str := text "hello siwx"

def pairBuild : Build :=
  { Build.ofTable [] [] with
    p256 := .ofPairs [(derLikeKey.1, Text.utf8 helloMessage, derLikePair),
      (basePoint.1, Text.utf8 helloMessage, basePair)] }

def p256Did (key : ByteArr 33) : Str := text "did:pkh:p256:0x" ++ Hex.encode key.1

def derLikeSig : pairBuild.p256.Signature := ⟨derLikePair, by decide +kernel⟩

def baseSig : pairBuild.p256.Signature := ⟨basePair, by decide +kernel⟩

/-- The suite reads the 64 bytes of a valid pair as another one. -/
theorem acceptsBoth_fails :
    ¬ ∀ (did message : Str) (raw : ByteArr 33) (key : pairBuild.p256.VerifyingKey)
    (sig : pairBuild.p256.Signature), pubkeyFromP256Did did = .ok raw →
      EncodesKey pairBuild.p256 raw.1 key →
        pairBuild.p256.verify key (Text.utf8 message) sig = true →
          AcceptsBoth (p256Verify pairBuild did message) (pairOf sig) ∧
            AcceptsBoth (verifyWithKey pairBuild (.p256 raw.1) message) (pairOf sig) := by
  intro h
  have hboth := h (p256Did derLikeKey) helloMessage derLikeKey derLikeKey.1 derLikeSig
    (by decide +kernel) (encodesKey_ofPairs (by decide +kernel)) (by decide +kernel)
  exact absurd hboth.1.fixed (by decide +kernel)

/-- Both encodings of the pair by the base point are accepted. -/
theorem acceptsBoth_base :
    AcceptsBoth (p256Verify pairBuild (p256Did basePoint) helloMessage) (pairOf baseSig) ∧
      AcceptsBoth (verifyWithKey pairBuild (.p256 basePoint.1) helloMessage) (pairOf baseSig) := by
  have hnone : Der.decode (fixedBytes (pairOf baseSig)) = none := by decide +kernel
  have hdid : pubkeyFromP256Did (p256Did basePoint) = .ok basePoint := by decide +kernel
  have hkey : EncodesKey pairBuild.p256 basePoint.1 basePoint.1 :=
    encodesKey_ofPairs (by decide +kernel)
  have hvalid : pairBuild.p256.verify basePoint.1 (Text.utf8 helloMessage) baseSig = true := by
    decide +kernel
  apply (acceptsBoth_iff (signatureEncodings_ofPairs _) hdid hkey hkey hvalid).mpr
  intro other hother
  have hread := hnone.symm.trans hother
  cases hread

end AquaAuth
