import AquaAuth.Support.Ecdsa
import AquaAuth.Support.P256Order
import AquaAuth.Model.Webauthn.Recover
set_option autoImplicit false
/-!
# Key recovery

An assertion that passes the checks recovers two keys, its signer and another one, whichever of
the two forms its signature has.
-/

namespace AquaAuth

open Support Support.Result Support.Ecdsa

/-- The number a byte string writes, the most significant byte first. -/
def bigEndian (bytes : Bytes) : ℕ := bytes.foldl (fun acc b => acc * 256 + b.toNat) 0

/-- The scalar that a digest stands for. -/
def digestScalar (n : ℕ) (digest : ByteArr 32) : ZMod n := (bigEndian digest.1 : ℕ)

section

variable {n : ℕ} {Pt : Type} [AddCommGroup Pt] [Module (ZMod n) Pt] {P : P256}

/-- The crates compute textbook ECDSA on the curve `C`. -/
structure Textbook (C : Curve n Pt) (R : P256Recovery P) (sha256 : Bytes → ByteArr 32)
    [Fact n.Prime] (point : P.VerifyingKey → Pt) (scalars : P.Signature → Signature n) : Prop where
  point_ne_zero : ∀ key, point key ≠ 0
  point_injective : Function.Injective point
  exists_key : ∀ Q, Q ≠ 0 → ∃ key, point key = Q
  verify_iff : ∀ key message sig, P.verify key message sig = true ↔
    C.Verifies (point key) (digestScalar n (sha256 message)) (scalars sig)
  recover_iff : ∀ z sig odd key, R.recoverFromPrehash z sig ⟨odd, false⟩ = some key ↔
    C.Recovers (digestScalar n z) (scalars sig) odd (point key)
  normalizeS_high : ∀ sig, (scalars sig).IsHigh →
    ∃ low, R.normalizeS sig = some low ∧ scalars low = (scalars sig).neg
  normalizeS_low : ∀ sig, ¬ (scalars sig).IsHigh → R.normalizeS sig = none

variable {C : Curve n Pt} {R : P256Recovery P} {sha256 : Bytes → ByteArr 32} [Fact n.Prime]
  {point : P.VerifyingKey → Pt} {scalars : P.Signature → Signature n} {W : WebauthnCrates}

theorem Textbook.scalars_normalized (h : Textbook C R sha256 point scalars) (sig : P.Signature) :
    scalars ((R.normalizeS sig).getD sig) = (scalars sig).lowS := by
  unfold Signature.lowS
  split_ifs with hhigh
  · obtain ⟨low, hlow, hneg⟩ := h.normalizeS_high sig hhigh
    rw [hlow, Option.getD_some, hneg]
  · rw [h.normalizeS_low sig hhigh, Option.getD_none]

/-- What the signature of an assertion covers, as a scalar. -/
def payloadScalar (n : ℕ) (sha256 : Bytes → ByteArr 32) (members : DecodedAssertion) : ZMod n :=
  digestScalar n (sha256 (signedPayload sha256 members.authenticatorData members.clientDataJson))

/-- Recovery returns the keys that the low form of the signature recovers to. -/
theorem recoverCandidates_eq_ok (h : Textbook C R sha256 point scalars)
    {members : DecodedAssertion} {sig : P.Signature}
    (hsig : P.signatureFromDer members.signature = .ok sig)
    {keys : P.VerifyingKey × P.VerifyingKey} :
    recoverCandidates sha256 R members = .ok keys ↔
      C.Recovers (payloadScalar n sha256 members) (scalars sig).lowS false (point keys.1) ∧
        C.Recovers (payloadScalar n sha256 members) (scalars sig).lowS true (point keys.2) := by
  have hrecover : ∀ odd key, R.recoverFromPrehash
      (sha256 (signedPayload sha256 members.authenticatorData members.clientDataJson))
        ((R.normalizeS sig).getD sig) ⟨odd, false⟩ = some key ↔
      C.Recovers (payloadScalar n sha256 members) (scalars sig).lowS odd (point key) := by
    intro odd key
    rw [h.recover_iff, h.scalars_normalized]
    rfl
  rw [← hrecover, ← hrecover]
  unfold recoverCandidates
  rw [hsig]
  constructor
  · intro hok
    obtain ⟨sig', hsig', hok⟩ := bind_eq_ok.mp hok
    obtain rfl : sig = sig' := Except.ok.inj hsig'
    obtain ⟨even, heven, hok⟩ := bind_eq_ok.mp hok
    obtain ⟨odd, hodd, hok⟩ := bind_eq_ok.mp hok
    obtain rfl := Except.ok.inj hok
    exact ⟨okOr_eq_ok.mp heven, okOr_eq_ok.mp hodd⟩
  · rintro ⟨heven, hodd⟩
    simp [Except.mapError, heven, hodd]

/-- A signature that some recovery succeeds on recovers two different keys. -/
theorem recoverCandidates_ne (h : Textbook C R sha256 point scalars) {members : DecodedAssertion}
    {keys : P.VerifyingKey × P.VerifyingKey}
    (hkeys : recoverCandidates sha256 R members = .ok keys) : keys.1 ≠ keys.2 := by
  obtain ⟨sig, hsig, _⟩ := bind_eq_ok.mp hkeys
  obtain ⟨heven, hodd⟩ := (recoverCandidates_eq_ok h (mapError_eq_ok.mp hsig)).mp hkeys
  intro heq
  apply heven.ne hodd
  rw [heq]

/-- The signature verifies under both keys. -/
theorem verify_of_recoverCandidates (h : Textbook C R sha256 point scalars)
    {members : DecodedAssertion} {sig : P.Signature}
    (hsig : P.signatureFromDer members.signature = .ok sig) {keys : P.VerifyingKey × P.VerifyingKey}
    (hkeys : recoverCandidates sha256 R members = .ok keys) :
    let payload := signedPayload sha256 members.authenticatorData members.clientDataJson
    P.verify keys.1 payload sig = true ∧ P.verify keys.2 payload sig = true := by
  obtain ⟨heven, hodd⟩ := (recoverCandidates_eq_ok h hsig).mp hkeys
  constructor
  · rw [h.verify_iff]
    exact Curve.verifies_lowS.mp heven.verifies
  · rw [h.verify_iff]
    exact Curve.verifies_lowS.mp hodd.verifies

/-- The signer made the signature of an assertion, with a nonce point whose coordinate is below
the order and whose other parity is no zero point. -/
structure SignedBy (C : Curve n Pt) (sha256 : Bytes → ByteArr 32) (point : P.VerifyingKey → Pt)
    (scalars : P.Signature → Signature n) (signer : P.VerifyingKey) (members : DecodedAssertion)
    (sig : P.Signature) (d k : ZMod n) : Prop where
  key : point signer = d • C.base
  signs : C.Signs d k (payloadScalar n sha256 members) (scalars sig)
  nonceBelow : C.x (k • C.base) < n
  otherKey : C.candidate (payloadScalar n sha256 members) (scalars sig) (-(k • C.base)) ≠ 0

/-- Recovery succeeds on what a key signed, and one of the keys is the signer. -/
theorem recoverCandidates_signer (h : Textbook C R sha256 point scalars)
    {members : DecodedAssertion} {sig : P.Signature}
    (hsig : P.signatureFromDer members.signature = .ok sig) {signer : P.VerifyingKey}
    {d k : ZMod n} (hsigned : SignedBy C sha256 point scalars signer members sig d k) :
    ∃ keys, recoverCandidates sha256 R members = .ok keys ∧
      (signer = keys.1 ∨ signer = keys.2) := by
  have hne : d • C.base ≠ 0 := hsigned.key ▸ h.point_ne_zero signer
  obtain ⟨hkey, hother⟩ := hsigned.signs.recovers hsigned.nonceBelow hne hsigned.otherKey
  obtain ⟨odd', hkey, hother⟩ := hkey.lowS hother
  obtain ⟨other, hpoint⟩ := h.exists_key _ hsigned.otherKey
  rw [← hsigned.key] at hkey
  rw [← hpoint] at hother
  cases odd' with
  | false => exact ⟨(signer, other), (recoverCandidates_eq_ok h hsig).mpr ⟨hkey, hother⟩, .inl rfl⟩
  | true => exact ⟨(other, signer), (recoverCandidates_eq_ok h hsig).mpr ⟨hother, hkey⟩, .inr rfl⟩

/-! ## Assertions -/

/-- The assertion with another signature. -/
def AssertionJson.withSignature (a : AssertionJson) (signature : Str) : AssertionJson :=
  { a with response := { a.response with signature } }

theorem decodeAssertion_withSignature {a : AssertionJson} {members : DecodedAssertion}
    (h : decodeAssertion W a = .ok members) {signature : Str} {bytes : Bytes}
    (hbytes : Base64.decodeIndifferent Base64.urlSafe signature = some bytes) :
    decodeAssertion W (a.withSignature signature) = .ok { members with signature := bytes } := by
  unfold decodeAssertion at h ⊢
  obtain ⟨u, htype, h⟩ := bind_eq_ok.mp h
  obtain ⟨credentialId, hraw, h⟩ := bind_eq_ok.mp h
  obtain ⟨id, hid, h⟩ := bind_eq_ok.mp h
  obtain ⟨v, hagree, h⟩ := bind_eq_ok.mp h
  obtain ⟨authenticatorData, hauth, h⟩ := bind_eq_ok.mp h
  obtain ⟨clientDataJson, hclient, h⟩ := bind_eq_ok.mp h
  obtain ⟨old, _, h⟩ := bind_eq_ok.mp h
  obtain ⟨userHandle, hhandle, h⟩ := bind_eq_ok.mp h
  obtain rfl := Except.ok.inj h
  have hpublic : (a.withSignature signature).type = text "public-key" := ensure_eq_ok.mp htype
  have hnew : decodeMember W (text "signature") signature = .ok bytes := by
    rw [decodeMember, hbytes, okOr_some]
  rw [ensure_pos hpublic, ok_bind]
  simp only [AssertionJson.withSignature, hraw, hid, hagree, hauth, hclient, hnew, hhandle, ok_bind,
    pure_eq_ok]

/-- Recovery does not depend on the form of the signature. -/
theorem recoverCandidates_neg (h : Textbook C R sha256 point scalars) {members : DecodedAssertion}
    {sig sig' : P.Signature} (hsig : P.signatureFromDer members.signature = .ok sig) {bytes : Bytes}
    (hsig' : P.signatureFromDer bytes = .ok sig') (hneg : scalars sig' = (scalars sig).neg)
    {keys : P.VerifyingKey × P.VerifyingKey}
    (hkeys : recoverCandidates sha256 R members = .ok keys) :
    recoverCandidates sha256 R { members with signature := bytes } = .ok keys := by
  rw [recoverCandidates_eq_ok h hsig] at hkeys
  have hodd : n ≠ 2 := by
    obtain ⟨Q, _, _, hQ⟩ := hkeys.1
    exact Curve.order_ne_two hQ C
  rw [recoverCandidates_eq_ok h hsig', hneg, Signature.lowS_neg hodd]
  exact hkeys

/-- The assertion recovers its signer among two keys that its signature verifies under, in either
form of the signature. -/
structure RecoversSigner (W : WebauthnCrates) (sha256 : Bytes → ByteArr 32) (R : P256Recovery P)
    (scalars : P.Signature → Signature n) (a : AssertionJson) (expected : ExpectedChallenge)
    (policy : AssertionPolicy) (members : DecodedAssertion) (sig : P.Signature)
    (signer : P.VerifyingKey) (recovered : RecoveredAssertion P) : Prop where
  recovers : verifyAndRecover W sha256 R a expected policy = .ok recovered
  distinct : recovered.candidates.1 ≠ recovered.candidates.2
  signer : Xor (signer = recovered.candidates.1) (signer = recovered.candidates.2)
  verifiesEven : P.verify recovered.candidates.1
    (signedPayload sha256 members.authenticatorData members.clientDataJson) sig = true
  verifiesOdd : P.verify recovered.candidates.2
    (signedPayload sha256 members.authenticatorData members.clientDataJson) sig = true
  negated : ∀ signature bytes sig', Base64.decodeIndifferent Base64.urlSafe signature = some bytes →
    P.signatureFromDer bytes = .ok sig' → scalars sig' = (scalars sig).neg →
      verifyAndRecover W sha256 R (a.withSignature signature) expected policy = .ok recovered

/-- What the parts of `verify_and_recover` add up to. -/
def assembled (members : DecodedAssertion) (ceremony : Ceremony)
    (keys : P.VerifyingKey × P.VerifyingKey) : RecoveredAssertion P where
  rpId := ceremony.entry.rpId
  origin := ceremony.origin
  userVerified := ceremony.flags &&& flagUv ≠ 0
  backupEligible := ceremony.flags &&& flagBe ≠ 0
  backupState := ceremony.flags &&& flagBs ≠ 0
  credentialId := members.credentialId
  userHandle := members.userHandle
  candidates := keys

theorem verifyAndRecover_eq {a : AssertionJson} {expected : ExpectedChallenge}
    {policy : AssertionPolicy} {members : DecodedAssertion} {ceremony : Ceremony}
    {keys : P.VerifyingKey × P.VerifyingKey} (hmembers : decodeAssertion W a = .ok members)
    (hceremony : checkCeremony W sha256 members.authenticatorData members.clientDataJson expected
      policy = .ok ceremony) (hkeys : recoverCandidates sha256 R members = .ok keys) :
    verifyAndRecover W sha256 R a expected policy = .ok (assembled members ceremony keys) := by
  rw [verifyAndRecover, hmembers, ok_bind, hceremony, ok_bind, hkeys, ok_bind]
  rfl

/-- Recovery is complete and does not depend on the form of the signature. -/
theorem verifyAndRecover_complete (h : Textbook C R sha256 point scalars) {a : AssertionJson}
    {expected : ExpectedChallenge} {policy : AssertionPolicy} {members : DecodedAssertion}
    {ceremony : Ceremony} {sig : P.Signature} {signer : P.VerifyingKey} {d k : ZMod n}
    (hmembers : decodeAssertion W a = .ok members)
    (hceremony : checkCeremony W sha256 members.authenticatorData members.clientDataJson expected
      policy = .ok ceremony)
    (hsig : P.signatureFromDer members.signature = .ok sig)
    (hsigned : SignedBy C sha256 point scalars signer members sig d k) :
    ∃ recovered,
      RecoversSigner W sha256 R scalars a expected policy members sig signer recovered := by
  obtain ⟨keys, hkeys, hsigner⟩ := recoverCandidates_signer h hsig hsigned
  have hne := recoverCandidates_ne h hkeys
  obtain ⟨heven, hodd⟩ := verify_of_recoverCandidates h hsig hkeys
  refine ⟨assembled members ceremony keys, verifyAndRecover_eq hmembers hceremony hkeys, hne, ?_,
    heven, hodd, ?_⟩
  · rcases hsigner with rfl | rfl
    · exact .inl ⟨rfl, hne⟩
    · exact .inr ⟨rfl, hne.symm⟩
  · intro signature bytes sig' hbytes hsig' hneg
    have hagain := verifyAndRecover_eq (decodeAssertion_withSignature hmembers hbytes) hceremony
      (recoverCandidates_neg h hsig hsig' hneg hkeys)
    exact hagain

/-! ## Crates on a curve -/

open Classical in
/-- Textbook ECDSA on a curve, with the DER texts that are signatures. -/
noncomputable def curveP256 (C : Curve n Pt) (sha256 : Bytes → ByteArr 32)
    (der : List (Bytes × Signature n)) : P256 where
  EncodedPoint := Bytes
  VerifyingKey := { Q : Pt // Q ≠ 0 }
  Signature := Signature n
  encodedPointFromBytes := .ok
  verifyingKeyFromEncodedPoint _ := .error (text "signature error")
  signatureFromDer bytes :=
    okOr (text "signature error") ((der.find? fun entry => entry.1 = bytes).map Prod.snd)
  signatureFromSlice _ := .error (text "signature error")
  verify key message sig := decide (C.Verifies key.1 (digestScalar n (sha256 message)) sig)

open Classical in
noncomputable def curveRecovery (C : Curve n Pt) (sha256 : Bytes → ByteArr 32)
    (der : List (Bytes × Signature n)) (compress : { Q : Pt // Q ≠ 0 } → ByteArr 33) :
    P256Recovery (curveP256 C sha256 der) where
  PublicKey := ByteArr 33
  normalizeS sig := if Signature.IsHigh sig then some sig.neg else none
  recoverFromPrehash z sig id :=
    if h : id.isXReduced = false ∧
        ∃ key : { Q : Pt // Q ≠ 0 }, C.Recovers (digestScalar n z) sig id.isYOdd key.1 then
      some h.2.choose
    else none
  toCompressedPoint := compress
  publicKeyFromSec1Bytes := some
  publicKeyFromPublicKeyDer _ := .error (text "ASN.1 error")
  publicKeyToCompressedPoint key := key

theorem signatureFromDer_curve (C : Curve n Pt) (sha256 : Bytes → ByteArr 32) (bytes : Bytes)
    (sig : Signature n) (der : List (Bytes × Signature n)) :
    (curveP256 C sha256 ((bytes, sig) :: der)).signatureFromDer bytes = .ok sig := by
  simp [curveP256]

open Classical in
/-- The crates on a curve compute textbook ECDSA. -/
theorem textbook_curve (C : Curve n Pt) (sha256 : Bytes → ByteArr 32)
    (der : List (Bytes × Signature n)) (compress : { Q : Pt // Q ≠ 0 } → ByteArr 33) :
    Textbook C (curveRecovery C sha256 der compress) sha256 Subtype.val id where
  point_ne_zero key := key.2
  point_injective := Subtype.val_injective
  exists_key Q hQ := ⟨⟨Q, hQ⟩, rfl⟩
  verify_iff key message sig := decide_eq_true_iff
  recover_iff z sig odd key := by
    show (if h : false = false ∧
        ∃ key : { Q : Pt // Q ≠ 0 }, C.Recovers (digestScalar n z) sig odd key.1 then
      some h.2.choose else none) = some key ↔ C.Recovers (digestScalar n z) sig odd key.1
    split_ifs with h
    · have hchosen := h.2.choose_spec
      constructor
      · intro heq
        rwa [← Option.some.inj heq]
      · intro hkey
        exact congrArg some (Subtype.ext (hchosen.unique hkey))
    · constructor
      · intro heq
        cases heq
      · intro hkey
        exact absurd ⟨rfl, key, hkey⟩ h
  normalizeS_high sig hhigh := ⟨Signature.neg sig, if_pos hhigh, rfl⟩
  normalizeS_low sig hlow := if_neg hlow

end

/-! ## A curve by its logarithms -/

section

variable {n : ℕ} [Fact n.Prime]

/-- A point up to sign, given by its logarithm. -/
def foldLog (R : ZMod n) : ℕ := min R.val (-R).val

theorem foldLog_neg (R : ZMod n) : foldLog (-R) = foldLog R := by
  rw [foldLog, foldLog, neg_neg, min_comm]

theorem eq_or_eq_neg_of_foldLog {R S : ZMod n} (h : foldLog R = foldLog S) : R = S ∨ R = -S := by
  have hval : ∀ {Q T : ZMod n}, Q.val = T.val → Q = T := fun h => ZMod.val_injective n h
  unfold foldLog at h
  rcases min_choice R.val (-R).val with hR | hR <;>
    rcases min_choice S.val (-S).val with hS | hS <;>
    rw [hR, hS] at h
  · exact .inl (hval h)
  · exact .inr (hval h)
  · exact .inr (neg_eq_iff_eq_neg.mp (hval h))
  · exact .inl (neg_injective (hval h))

/-- The parity of a point that is given no coordinates. -/
def highLog (R : ZMod n) : Bool := n / 2 < R.val

theorem highLog_neg (hodd : n ≠ 2) {R : ZMod n} (hR : R ≠ 0) : highLog (-R) = !highLog R := by
  let sig : Signature n := ⟨R, R, hR, hR⟩
  have hhigh : sig.neg.IsHigh ↔ ¬ sig.IsHigh := Signature.isHigh_neg hodd
  unfold highLog
  rw [← decide_not, decide_eq_decide]
  exact hhigh

theorem ne_neg_of_odd (hodd : n ≠ 2) {k : ZMod n} (hk : k ≠ 0) : -k ≠ k := by
  intro h
  have hhigh := highLog_neg hodd hk
  rw [h] at hhigh
  simp at hhigh

/-- A curve whose points stand for their logarithms.  The nonce point `k` has the given
coordinates. -/
def nonceCurve (hodd : n ≠ 2) (k : ZMod n) (hk : k ≠ 0) (x : ℕ) (odd : Bool) :
    Curve n (ZMod n) where
  base := 1
  x R := if R = k ∨ R = -k then x else x + 1 + foldLog R
  yIsOdd R := if R = k then odd else if R = -k then !odd else highLog R
  x_neg R := by
    have hnonce : (-R = k ∨ -R = -k) ↔ (R = k ∨ R = -k) := by
      rw [neg_eq_iff_eq_neg, neg_inj, or_comm]
    simp only [hnonce, foldLog_neg]
  yIsOdd_neg R hR := by
    have hself : -k ≠ k := ne_neg_of_odd hodd hk
    by_cases h1 : R = k
    · subst h1
      simp [hself]
    · by_cases h2 : R = -k
      · subst h2
        simp [hself]
      · have h3 : -R ≠ k := fun h => h2 (neg_eq_iff_eq_neg.mp h)
        have h4 : -R ≠ -k := fun h => h1 (neg_injective h)
        rw [if_neg h3, if_neg h4, if_neg h1, if_neg h2, highLog_neg hodd hR]
  determined R S hR hS hx hparity := by
    by_cases hRk : R = k ∨ R = -k
    · by_cases hSk : S = k ∨ S = -k
      · have hself : -k ≠ k := ne_neg_of_odd hodd hk
        rcases hRk with rfl | rfl <;> rcases hSk with rfl | rfl <;> simp [hself] at hparity ⊢
      · rw [if_pos hRk, if_neg hSk] at hx
        omega
    · by_cases hSk : S = k ∨ S = -k
      · rw [if_neg hRk, if_pos hSk] at hx
        omega
      · rw [if_neg hRk, if_neg hSk] at hx
        rw [not_or] at hRk hSk
        rw [if_neg hRk.1, if_neg hRk.2, if_neg hSk.1, if_neg hSk.2] at hparity
        rcases eq_or_eq_neg_of_foldLog (by omega : foldLog R = foldLog S) with heq | heq
        · exact heq
        · rw [heq, highLog_neg hodd hS] at hparity
          simp at hparity

theorem nonceCurve_yIsOdd_nonce (hodd : n ≠ 2) {k : ZMod n} (hk : k ≠ 0) {x : ℕ} {odd : Bool} :
    (nonceCurve hodd k hk x odd).yIsOdd k = odd :=
  if_pos rfl

theorem nonceCurve_x_nonce (hodd : n ≠ 2) {k : ZMod n} (hk : k ≠ 0) {x : ℕ} {odd : Bool} :
    (nonceCurve hodd k hk x odd).x k = x :=
  if_pos (Or.inl rfl)

end

/-! ## An assertion by the base point -/

instance : Fact Primality.p256Order.Prime := ⟨Primality.p256Order_prime⟩

theorem p256Order_ne_two : Primality.p256Order ≠ 2 := by decide +kernel

theorem two_ne_zero_p256 : (2 : ZMod Primality.p256Order) ≠ 0 := by decide +kernel

/-- The `x` coordinate of twice the base point of P-256. -/
def sampleX : ℕ := 0x7cf27b188d034f7e8a52380304b51ac3c08969e277f21b35a60b48fc47669978

/-- P-256 by its logarithms, with the coordinates of the nonce point two. -/
def sampleCurve : Curve Primality.p256Order (ZMod Primality.p256Order) :=
  nonceCurve p256Order_ne_two 2 two_ne_zero_p256 sampleX true

def sampleR : ZMod Primality.p256Order := (sampleX : ℕ)

def sampleS : ZMod Primality.p256Order :=
  (0xb451e36208fae821347dd336e70a986b9cbd14fcc27d9cb167cc3c7a450273df : ℕ)

theorem sampleR_ne_zero : sampleR ≠ 0 := by decide +kernel

theorem sampleS_ne_zero : sampleS ≠ 0 := by decide +kernel

def sampleSig : Signature Primality.p256Order :=
  ⟨sampleR, sampleS, sampleR_ne_zero, sampleS_ne_zero⟩

@[irreducible] def sampleDer : Bytes := bytesOfHex (
  "304502207cf27b188d034f7e8a52380304b51ac3c08969e277f21b35a60b48" ++
  "fc47669978022100b451e36208fae821347dd336e70a986b9cbd14fcc27d9cb167cc3c7a450273df")

/-- The DER text of the negated signature. -/
def sampleNegDer : Bytes := bytesOfHex (
  "304402207cf27b188d034f7e8a52380304b51ac3c08969e277f21b35a60b" ++
  "48fc4766997802204bae1c9cf70517dfcb822cc918f567942029e5b0e49a01d38bed8e48b760b172")

def sampleClientData : Bytes := Text.utf8 (text ("\x7b\"type\":\"webauthn.get\",\"challenge\":" ++
  "\"MDEyMzQ1Njc4OWFiY2RlZjAxMjM0NTY3ODlhYmNkZWY\",\"origin\":\"https://siwx.inblock.io\"\x7d"))

def sampleRpIdHash : ByteArr 32 :=
  arrOfHex 32 "71f05bdb3faa692d91fe647769a0c35eedecdb87ee8f9124b10be0a254837378"

/-- The hash of the RP ID, the flags UP and UV and a counter of zero. -/
def sampleAuthenticatorData : Bytes := sampleRpIdHash.1 ++ [5, 0, 0, 0, 0]

def sampleClientDataHash : ByteArr 32 :=
  arrOfHex 32 "ec5ba147698de25605c9da9b07da0c29ee3498e5d8f3676da890d1ce6ebc6ba1"

def sampleSha256 : Bytes → ByteArr 32 :=
  digestOfTable [(sampleClientData, sampleClientDataHash),
    (sampleAuthenticatorData ++ sampleClientDataHash.1,
      arrOfHex 32 "ebb14bab84f280c3dea96e6ac960161378f0c0170d091e2d298d2ff8429e4e46")]

/-- What `serde_json` reads from the client data. -/
def sampleClientValue : Serde.Value :=
  .object
    [(text "type", .string (text "webauthn.get")),
      (text "challenge", .string (text "MDEyMzQ1Njc4OWFiY2RlZjAxMjM0NTY3ODlhYmNkZWY")),
      (text "origin", .string (text "https://siwx.inblock.io"))]

/-- Crates that read the client data and the given texts. -/
def sampleWebauthn (texts : List (Bytes × Serde.Value)) : WebauthnCrates where
  serdeJson :=
    { toVec := fun value => Text.utf8 value.compact
      fromSlice := fun bytes => okOr (text "expected value at line 1 column 1")
        ((((sampleClientData, sampleClientValue) :: texts).find? fun entry =>
          entry.1 = bytes).map Prod.snd)
      dataError := fun _ => text "invalid type" }
  parseUrl _ := .error (text "relative URL without a base")
  base64Error _ := text "Invalid padding"
  debugStr s := '"' :: (s ++ ['"'])

def samplePolicy : AssertionPolicy :=
  ⟨[⟨text "inblock.io", sampleRpIdHash, [text "https://siwx.inblock.io"]⟩], true⟩

def sampleChallenge : ExpectedChallenge :=
  .exact (Text.utf8 (text "0123456789abcdef0123456789abcdef"))

def b64Url (bytes : Bytes) : Str := Base64.encodeNoPad Base64.urlSafe bytes

def sampleAssertion : AssertionJson where
  id := b64Url (List.replicate 16 7)
  rawId := b64Url (List.replicate 16 7)
  type := text "public-key"
  response :=
    { authenticatorData := b64Url sampleAuthenticatorData
      clientDataJson := b64Url sampleClientData
      signature := b64Url sampleDer
      userHandle := none }

def sampleMembers : DecodedAssertion :=
  ⟨List.replicate 16 7, sampleAuthenticatorData, sampleClientData, sampleDer, none⟩

variable (texts : List (Bytes × Serde.Value))

theorem decodeAssertion_sample :
    decodeAssertion (sampleWebauthn texts) sampleAssertion = .ok sampleMembers := by
  have hdecode : ∀ member bytes,
      decodeMember (sampleWebauthn texts) member (b64Url bytes) = .ok bytes := by
    intro member bytes
    rw [decodeMember, b64Url, Base64.decodeIndifferent_encodeNoPad Base64.urlSafe_alphabet,
      okOr_some]
  simp only [decodeAssertion, sampleAssertion, hdecode, ok_bind, ensure_pos]
  rfl

theorem fromSlice_sample : ClientData.fromSlice (sampleWebauthn texts) sampleClientData =
    .ok ⟨text "webauthn.get", text "MDEyMzQ1Njc4OWFiY2RlZjAxMjM0NTY3ODlhYmNkZWY",
      text "https://siwx.inblock.io", none, false⟩ := by
  have hread : (sampleWebauthn texts).serdeJson.fromSlice sampleClientData =
      .ok sampleClientValue := by
    simp [sampleWebauthn]
  rw [ClientData.fromSlice, hread, ok_bind]
  rfl

def sampleCeremony : Ceremony :=
  ⟨⟨text "inblock.io", sampleRpIdHash, [text "https://siwx.inblock.io"]⟩,
    text "https://siwx.inblock.io", 5⟩

theorem checkCeremony_sample :
    checkCeremony (sampleWebauthn texts) sampleSha256 sampleMembers.authenticatorData
      sampleMembers.clientDataJson sampleChallenge samplePolicy = .ok sampleCeremony := by
  have hauth : parseAuthenticatorData sampleMembers.authenticatorData =
      .ok ⟨sampleRpIdHash, 5⟩ := by
    decide +kernel
  have hchallenge : Base64.decodeIndifferent Base64.urlSafe
      (text "MDEyMzQ1Njc4OWFiY2RlZjAxMjM0NTY3ODlhYmNkZWY") =
        some (Text.utf8 (text "0123456789abcdef0123456789abcdef")) := by decide +kernel
  have hentry : samplePolicy.entryForRpIdHash sampleRpIdHash = some sampleCeremony.entry := by
    decide +kernel
  have hclient := fromSlice_sample texts
  rw [checkCeremony, hauth]
  simp only [Except.mapError, ok_bind, sampleMembers, hclient, decodeMember, hchallenge, okOr_some,
    sampleChallenge, ExpectedChallenge.want, hentry, ensure_pos]
  decide +kernel

/-- The key one signs with the nonce two. -/
theorem sample_signs :
    payloadScalar Primality.p256Order sampleSha256 sampleMembers + sampleR = 2 * sampleS := by
  decide +kernel

/-- The key for the other parity is not the zero point. -/
theorem sample_other :
    payloadScalar Primality.p256Order sampleSha256 sampleMembers + 2 * sampleS ≠ 0 := by
  decide +kernel

/-- The logarithm of the other key. -/
def sampleOtherLog : ZMod Primality.p256Order :=
  (0xed1d5815763f92cfde8cb92e9736a91dc01389c3086bb74b889a9daa47592d4a : ℕ)

/-- The bytes of a number, the least significant byte first. -/
def littleEndian : ℕ → ℕ → Bytes
  | 0, _ => []
  | count + 1, v => UInt8.ofNat v :: littleEndian count (v / 256)

theorem length_littleEndian (count v : ℕ) : (littleEndian count v).length = count := by
  induction count generalizing v with
  | zero => rfl
  | succ count ih => rw [littleEndian, List.length_cons, ih]

theorem length_taggedLog (v : ℕ) : (7 :: littleEndian 32 v).length = 33 := by
  rw [List.length_cons, length_littleEndian]

/-- The SEC1 encodings of the two keys, and a tag of its own for the logarithm of each other one. -/
def sampleCompress (key : { Q : ZMod Primality.p256Order // Q ≠ 0 }) : ByteArr 33 :=
  if key.1 = 1 then
    arrOfHex 33 "036b17d1f2e12c4247f8bce6e563a440f277037d812deb33a0f4a13945d898c296"
  else if key.1 = sampleOtherLog then
    arrOfHex 33 "02ddb203118627112698167ac1366c8dcc1a76e974a396342c59f00df8bee93080"
  else ⟨7 :: littleEndian 32 key.1.val, length_taggedLog key.1.val⟩

def sampleDers : List (Bytes × Signature Primality.p256Order) :=
  [(sampleDer, sampleSig), (sampleNegDer, sampleSig.neg)]

noncomputable def sampleP256 : P256 := curveP256 sampleCurve sampleSha256 sampleDers

noncomputable def sampleRecovery : P256Recovery sampleP256 :=
  curveRecovery sampleCurve sampleSha256 sampleDers sampleCompress

def samplePoint (key : { Q : ZMod Primality.p256Order // Q ≠ 0 }) : ZMod Primality.p256Order :=
  key.1

def sampleScalars (sig : Signature Primality.p256Order) : Signature Primality.p256Order := sig

theorem textbook_sample :
    Textbook sampleCurve sampleRecovery sampleSha256 samplePoint sampleScalars :=
  textbook_curve sampleCurve sampleSha256 sampleDers sampleCompress

def baseKey : { Q : ZMod Primality.p256Order // Q ≠ 0 } := ⟨1, one_ne_zero⟩

theorem sample_signedBy : SignedBy sampleCurve sampleSha256 (P := sampleP256) samplePoint
    sampleScalars baseKey sampleMembers sampleSig 1 2 := by
  have hnonce : (2 : ZMod Primality.p256Order) • sampleCurve.base = 2 := mul_one 2
  have hx : sampleCurve.x 2 = sampleX := nonceCurve_x_nonce p256Order_ne_two two_ne_zero_p256
  refine ⟨(mul_one 1).symm, ⟨?_, ?_⟩, ?_, ?_⟩
  · rw [hnonce, hx]
    rfl
  · show sampleS =
      2⁻¹ * (payloadScalar Primality.p256Order sampleSha256 sampleMembers + sampleR * 1)
    rw [mul_one, sample_signs, inv_mul_cancel_left₀ two_ne_zero_p256]
  · rw [hnonce, hx]
    decide +kernel
  · rw [hnonce]
    show sampleR⁻¹ * (sampleS * -2 -
      payloadScalar Primality.p256Order sampleSha256 sampleMembers * 1) ≠ 0
    apply mul_ne_zero (inv_ne_zero sampleR_ne_zero)
    intro hzero
    apply sample_other
    linear_combination -hzero

theorem signatureFromDer_sample :
    sampleP256.signatureFromDer sampleMembers.signature = .ok sampleSig :=
  signatureFromDer_curve sampleCurve sampleSha256 sampleDer sampleSig
    [(sampleNegDer, sampleSig.neg)]

/-- An assertion that the base point signed recovers it. -/
theorem verifyAndRecover_complete_base :
    ∃ recovered, RecoversSigner (sampleWebauthn []) sampleSha256 sampleRecovery sampleScalars
      sampleAssertion sampleChallenge samplePolicy sampleMembers sampleSig baseKey recovered :=
  verifyAndRecover_complete textbook_sample (decodeAssertion_sample []) (checkCeremony_sample [])
    signatureFromDer_sample sample_signedBy

end AquaAuth
