import AquaAuth.Model.Webauthn.Select
import AquaAuth.Proofs.Webauthn.Recovery
import AquaAuth.Proofs.Admission
import AquaAuth.Proofs.DidKeyCodec
set_option autoImplicit false
/-!
# Selection

Whatever hints and flags a request carries, only a key that every assertion used recovers is
ever selected, and the state between two assertions survives its storage.
-/

namespace AquaAuth

open Support Support.Result Support.Ecdsa

variable {B : Build} {R : P256Recovery B.p256} {W : WebauthnCrates}
  {first second : RecoveredAssertion B.p256} {did : Str}

/-- The compressed encoding of a key determines it and is read back. -/
structure Sec1 {P : P256} (R : P256Recovery P) : Prop where
  compressed_injective : Function.Injective R.toCompressedPoint
  accepts : ∀ key, ∃ publicKey, R.publicKeyFromSec1Bytes (R.toCompressedPoint key) = some publicKey

/-! ## Candidates -/

/-- The DID is a candidate of the assertion. -/
def RecoveredAssertion.HasCandidate (R : P256Recovery B.p256)
    (recovered : RecoveredAssertion B.p256)
    (did : Str) : Prop :=
  did = (recovered.candidateDids R).1 ∨ did = (recovered.candidateDids R).2

instance (R : P256Recovery B.p256) (recovered : RecoveredAssertion B.p256) (did : Str) :
    Decidable (recovered.HasCandidate R did) := inferInstanceAs (Decidable (_ ∨ _))

theorem p256DidKeyFromPubkey_injective : Function.Injective p256DidKeyFromPubkey := by
  intro point point' h
  have hencode : Base58.encode (p256Prefix ++ point.1) = Base58.encode (p256Prefix ++ point'.1) :=
    List.append_cancel_left h
  exact Subtype.ext (List.append_cancel_left (Base58.encode_injective hencode))

/-- The candidates of an assertion whose keys differ are two DIDs. -/
theorem candidateDids_ne (h : Sec1 R) (hne : first.candidates.1 ≠ first.candidates.2) :
    (first.candidateDids R).1 ≠ (first.candidateDids R).2 := by
  intro heq
  apply hne
  apply h.compressed_injective
  exact p256DidKeyFromPubkey_injective heq

/-! ## Selection -/

theorem hasCandidate_principal (i : Fin 2) : first.HasCandidate R (first.principal R i).did := by
  match i with
  | 0 => exact .inl rfl
  | 1 => exact .inr rfl

/-- What `select` returns. -/
theorem select_cases (hints : List DidHint) (known : Bool × Bool) :
    (∃ i rule, first.select R hints known = .selected (first.principal R i) rule) ∨
      first.select R hints known = .needSecondAssertion (first.pending R) := by
  unfold RecoveredAssertion.select
  cases theOnly (first.hinted R hints) with
  | some i => exact .inl ⟨i, .hint, rfl⟩
  | none =>
      cases theOnly known with
      | some i => exact .inl ⟨i, .knownPrincipal, rfl⟩
      | none => exact .inr rfl

theorem hasCandidate_of_select {hints : List DidHint} {known : Bool × Bool}
    {principal : Principal B}
    {rule : SelectedBy} (h : first.select R hints known = .selected principal rule) :
    first.HasCandidate R principal.did := by
  rcases select_cases hints known with ⟨i, rule', heq⟩ | heq
  · rw [h] at heq
    obtain ⟨rfl, rfl⟩ := Selection.selected.inj heq
    exact hasCandidate_principal i
  · rw [h] at heq
    cases heq

theorem pending_of_select {hints : List DidHint} {known : Bool × Bool} {pending : PendingRecovery}
    (h : first.select R hints known = .needSecondAssertion pending) :
    pending = first.pending R := by
  rcases select_cases hints known with ⟨i, rule, heq⟩ | heq
  · rw [h] at heq
    cases heq
  · rw [h] at heq
    exact Selection.needSecondAssertion.inj heq

/-- Whether a hint names a candidate is told by the hints that are candidates. -/
theorem any_filter_hasCandidate (hints : List DidHint) (hdid : first.HasCandidate R did) :
    (hints.any fun h => h.did = did) =
      (hints.filter fun h => first.HasCandidate R h.did).any fun h => h.did = did := by
  rw [List.any_filter]
  congr 1
  funext h
  rw [Bool.eq_iff_iff]
  simp only [decide_eq_true_eq, Bool.and_eq_true]
  constructor
  · intro heq
    exact ⟨heq ▸ hdid, heq⟩
  · exact And.right

theorem select_congr {hints hints' : List DidHint} (known : Bool × Bool)
    (h : (hints.filter fun h => first.HasCandidate R h.did) =
      hints'.filter fun h => first.HasCandidate R h.did) :
    first.select R hints known = first.select R hints' known := by
  have hhinted : first.hinted R hints = first.hinted R hints' := by
    unfold RecoveredAssertion.hinted
    rw [any_filter_hasCandidate hints (.inl rfl), any_filter_hasCandidate hints (.inr rfl), h,
      ← any_filter_hasCandidate hints' (.inl rfl), ← any_filter_hasCandidate hints' (.inr rfl)]
  rw [RecoveredAssertion.select, RecoveredAssertion.select, hhinted]

/-! ## The second assertion -/

/-- The candidates that `resolve` compares. -/
theorem mem_candidateDids (c : DidHint) :
    ((second.candidateDids R).1 = c.did ∨ (second.candidateDids R).2 = c.did) ↔
      second.HasCandidate R c.did := by
  unfold RecoveredAssertion.HasCandidate
  constructor
  · rintro (h | h)
    · exact .inl h.symm
    · exact .inr h.symm
  · rintro (h | h)
    · exact .inl h.symm
    · exact .inr h.symm

/-- `resolve` returns the one candidate of the first assertion that the second has, when it lacks
the other. -/
theorem resolve_eq_ok {principal : Principal B} :
    (first.pending R).resolve R second = .ok principal ↔
      first.credentialId = second.credentialId ∧
        ∃ i, principal = first.principal R i ∧ second.HasCandidate R (first.principal R i).did ∧
          ¬ second.HasCandidate R (first.principal R (1 - i)).did := by
  have hone : (first.principal R 1).did = (first.candidateHints R).2.did := rfl
  have hzero : (first.principal R 0).did = (first.candidateHints R).1.did := rfl
  unfold PendingRecovery.resolve
  split_ifs with hid
  · constructor
    · intro h
      cases h
    · rintro ⟨heq, _⟩
      exact absurd heq.symm hid
  · have hid : first.credentialId = second.credentialId := (not_not.mp hid).symm
    rw [and_iff_right hid, Fin.exists_fin_two]
    simp only [mem_candidateDids, RecoveredAssertion.pending, hone, hzero, sub_zero, sub_self]
    by_cases h1 : second.HasCandidate R (first.candidateHints R).1.did <;>
      by_cases h2 : second.HasCandidate R (first.candidateHints R).2.did <;>
        simp [h1, h2, RecoveredAssertion.principal, nth, eq_comm]

theorem hasCandidate_iff : first.HasCandidate R did ↔ ∃ i, did = (first.principal R i).did := by
  rw [Fin.exists_fin_two]
  exact Iff.rfl

theorem principal_did_ne (hne : (first.candidateDids R).1 ≠ (first.candidateDids R).2) (i : Fin 2) :
    (first.principal R (1 - i)).did ≠ (first.principal R i).did := by
  match i with
  | 0 => exact hne.symm
  | 1 => exact hne

/-- `resolve` succeeds when the two assertions have one candidate in common. -/
theorem resolve_isOk_iff (hne : (first.candidateDids R).1 ≠ (first.candidateDids R).2) :
    (∃ principal, (first.pending R).resolve R second = .ok principal) ↔
      first.credentialId = second.credentialId ∧
        ∃! did, first.HasCandidate R did ∧ second.HasCandidate R did := by
  constructor
  · rintro ⟨principal, hok⟩
    obtain ⟨hid, i, _, hsecond, hother⟩ := resolve_eq_ok.mp hok
    refine ⟨hid, (first.principal R i).did, ⟨hasCandidate_principal i, hsecond⟩, ?_⟩
    rintro did ⟨hfirst, hdid⟩
    obtain ⟨j, rfl⟩ := hasCandidate_iff.mp hfirst
    have hj : j = i ∨ j = 1 - i := by omega
    rcases hj with rfl | rfl
    · rfl
    · exact absurd hdid hother
  · rintro ⟨hid, did, ⟨hfirst, hsecond⟩, hunique⟩
    obtain ⟨i, rfl⟩ := hasCandidate_iff.mp hfirst
    refine ⟨first.principal R i, resolve_eq_ok.mpr ⟨hid, i, rfl, hsecond, ?_⟩⟩
    intro hother
    exact principal_did_ne hne i (hunique _ ⟨hasCandidate_principal _, hother⟩)

theorem hasCandidate_of_resolve {principal : Principal B}
    (h : (first.pending R).resolve R second = .ok principal) :
    first.HasCandidate R principal.did ∧ second.HasCandidate R principal.did := by
  obtain ⟨_, i, rfl, hsecond, _⟩ := resolve_eq_ok.mp h
  exact ⟨hasCandidate_principal i, hsecond⟩

/-! ## Storage -/

/-- A point on the curve survives its `did:key`. -/
theorem parse_ofPoint {point : ByteArr 33} {publicKey : R.PublicKey}
    (h : R.publicKeyFromSec1Bytes point = some publicKey) :
    DidHint.parse B R (DidHint.ofPoint point).did = some (DidHint.ofPoint point) := by
  have hpoint : p256PubkeyFromDidKey B R (p256DidKeyFromPubkey point) = .ok point :=
    p256PubkeyFromDidKey_encode h
  simp [DidHint.parse, DidHint.ofPoint, hpoint]

/-- A pending recovery is read back from what is stored of it. -/
theorem deserialize_serialize (h : Sec1 R) :
    PendingRecovery.deserialize B R (first.pending R).serialize = some (first.pending R) := by
  have hread : ∀ key, DidHint.deserialize B R
      (.string (DidHint.ofPoint (R.toCompressedPoint key)).did) =
        some (DidHint.ofPoint (R.toCompressedPoint key)) := by
    intro key
    obtain ⟨publicKey, haccepts⟩ := h.accepts key
    have hparse : DidHint.parse B R (DidHint.ofPoint (R.toCompressedPoint key)).did =
        some (DidHint.ofPoint (R.toCompressedPoint key)) := parse_ofPoint haccepts
    simp [DidHint.deserialize, Serde.Value.asStr, DidHint.tryFrom, hparse]
  have hid : Base64.decodeIndifferent Base64.urlSafe
      (Base64.encodeNoPad Base64.urlSafe first.credentialId) = some first.credentialId :=
    Base64.decodeIndifferent_encodeNoPad Base64.urlSafe_alphabet first.credentialId
  have hother : (text "credential_id" == text "candidates") = false := by decide
  have hmembers :
      (first.pending R).serialize.structMembers [text "candidates", text "credential_id"] =
      some [(text "candidates",
          .array [.string (first.candidateHints R).1.did, .string (first.candidateHints R).2.did]),
        (text "credential_id", .string (Base64.encodeNoPad Base64.urlSafe first.credentialId))] :=
    Serde.Value.structMembers_object rfl (by decide)
  rw [PendingRecovery.deserialize, hmembers]
  simp [List.lookup, hother, deserializeHintPair, RecoveredAssertion.pending,
    RecoveredAssertion.candidateHints, hread, Serde.Value.asStr, hid]

/-! ## Soundness -/

/-- What selection promises about a verified assertion. -/
structure SelectionSound (R : P256Recovery B.p256) (W : WebauthnCrates)
    (first : RecoveredAssertion B.p256) : Prop where
  selected : ∀ hints known principal rule,
    first.select R hints known = .selected principal rule → first.HasCandidate R principal.did
  otherHints : ∀ hints hints' known,
    (hints.filter fun h => first.HasCandidate R h.did) =
        (hints'.filter fun h => first.HasCandidate R h.did) →
      first.select R hints known = first.select R hints' known
  resolved : ∀ hints known pending, first.select R hints known = .needSecondAssertion pending →
    ∀ second principal, pending.resolve R second = .ok principal →
      first.HasCandidate R principal.did ∧ second.HasCandidate R principal.did
  resolves : ∀ hints known pending, first.select R hints known = .needSecondAssertion pending →
    ∀ second, (∃ principal, pending.resolve R second = .ok principal) ↔
      first.credentialId = second.credentialId ∧
        ∃! did, first.HasCandidate R did ∧ second.HasCandidate R did
  stored : ∀ hints known pending, first.select R hints known = .needSecondAssertion pending →
    PendingRecovery.fromSlice B R W (pending.toVec W) = .ok pending

variable {n : ℕ} {Pt : Type} [AddCommGroup Pt] [Module (ZMod n) Pt] [Fact n.Prime] {C : Curve n Pt}
  {point : B.p256.VerifyingKey → Pt} {scalars : B.p256.Signature → Signature n}

/-- A verified assertion selects soundly, alone or with a second one. -/
theorem selection_sound (h : Textbook C R B.sha256 point scalars) (hsec1 : Sec1 R)
    {a : AssertionJson} {expected : ExpectedChallenge} {policy : AssertionPolicy}
    (hfirst : verifyAndRecover W B.sha256 R a expected policy = .ok first)
    (hserde : W.serdeJson.fromSlice (W.serdeJson.toVec (first.pending R).serialize) =
      .ok (first.pending R).serialize) :
    SelectionSound R W first := by
  obtain ⟨members, _, hrest⟩ := bind_eq_ok.mp hfirst
  obtain ⟨ceremony, _, hrest⟩ := bind_eq_ok.mp hrest
  obtain ⟨keys, hkeys, hrest⟩ := bind_eq_ok.mp hrest
  have hcandidates : first.candidates = keys := by
    rw [← Except.ok.inj hrest]
  have hne : (first.candidateDids R).1 ≠ (first.candidateDids R).2 := by
    apply candidateDids_ne hsec1
    rw [hcandidates]
    exact recoverCandidates_ne h hkeys
  refine ⟨fun _ _ _ _ => hasCandidate_of_select, fun _ _ known => select_congr known, ?_, ?_, ?_⟩
  · intro hints known pending hselect second principal hresolve
    rw [pending_of_select hselect] at hresolve
    exact hasCandidate_of_resolve hresolve
  · intro hints known pending hselect second
    rw [pending_of_select hselect]
    exact resolve_isOk_iff hne
  · intro hints known pending hselect
    rw [pending_of_select hselect, PendingRecovery.fromSlice, PendingRecovery.toVec, hserde,
      ok_bind, deserialize_serialize hsec1, okOr_some]

/-! ## The sample assertion -/

theorem sampleOtherLog_ne_zero : sampleOtherLog ≠ 0 := by decide +kernel

def otherKey : { Q : ZMod Primality.p256Order // Q ≠ 0 } := ⟨sampleOtherLog, sampleOtherLog_ne_zero⟩

/-- The logarithm of the key for the other parity. -/
theorem sample_candidate : sampleCurve.candidate
    (payloadScalar Primality.p256Order sampleSha256 sampleMembers) sampleSig (-2) =
      sampleOtherLog := by
  have hlog : sampleS * -2 - payloadScalar Primality.p256Order sampleSha256 sampleMembers * 1 =
      sampleR * sampleOtherLog := by decide +kernel
  show sampleR⁻¹ * (sampleS * -2 -
    payloadScalar Primality.p256Order sampleSha256 sampleMembers * 1) = sampleOtherLog
  rw [hlog, inv_mul_cancel_left₀ sampleR_ne_zero]

theorem sampleSig_lowS : sampleSig.lowS = sampleSig.neg := by
  have hhigh : Primality.p256Order / 2 < sampleS.val := by decide +kernel
  exact if_pos hhigh

/-- The assertion recovers the base point and one other key. -/
theorem recoverCandidates_sample :
    recoverCandidates sampleSha256 sampleRecovery sampleMembers = .ok (baseKey, otherKey) := by
  have hnonce : (2 : ZMod Primality.p256Order) • sampleCurve.base = 2 := mul_one 2
  have hbase : (1 : ZMod Primality.p256Order) • sampleCurve.base = 1 := mul_one 1
  have hparity : sampleCurve.yIsOdd 2 = true :=
    nonceCurve_yIsOdd_nonce p256Order_ne_two two_ne_zero_p256
  have hne : (1 : ZMod Primality.p256Order) • sampleCurve.base ≠ 0 := by
    rw [hbase]
    exact one_ne_zero
  obtain ⟨hsigner, hother⟩ := sample_signedBy.signs.recovers sample_signedBy.nonceBelow hne
    sample_signedBy.otherKey
  rw [hnonce, hparity, hbase] at hsigner
  rw [hnonce, hparity] at hother
  have hlog : sampleCurve.candidate (payloadScalar Primality.p256Order sampleSha256 sampleMembers)
      (sampleScalars sampleSig) (-2) = sampleOtherLog := sample_candidate
  rw [hlog] at hother
  rw [recoverCandidates_eq_ok textbook_sample signatureFromDer_sample]
  have hlow : (sampleScalars sampleSig).lowS = (sampleScalars sampleSig).neg := sampleSig_lowS
  rw [hlow, Curve.recovers_neg, Curve.recovers_neg]
  exact ⟨hsigner, hother⟩

theorem littleEndian_injective (count : ℕ) :
    ∀ {v w : ℕ}, v < 256 ^ count → w < 256 ^ count → littleEndian count v = littleEndian count w →
      v = w := by
  induction count with
  | zero =>
      intro v w hv hw _
      omega
  | succ count ih =>
      intro v w hv hw h
      obtain ⟨hlow, hhigh⟩ := List.cons.inj h
      have hdiv : v / 256 = w / 256 := by
        apply ih _ _ hhigh <;> rw [Nat.div_lt_iff_lt_mul (by omega)] <;> rwa [← pow_succ]
      have hmod : v % 256 = w % 256 := by
        have hbytes := congrArg UInt8.toNat hlow
        rwa [UInt8.toNat_ofNat', UInt8.toNat_ofNat'] at hbytes
      omega

/-- The tag that tells the encodings apart. -/
theorem head_sampleCompress (key : { Q : ZMod Primality.p256Order // Q ≠ 0 }) :
    (sampleCompress key).1.head? =
      if key.1 = 1 then some 3 else if key.1 = sampleOtherLog then some 2 else some 7 := by
  unfold sampleCompress
  split_ifs
  · decide +kernel
  · decide +kernel
  · rfl

/-- The encodings of different keys differ. -/
theorem sampleCompress_injective : Function.Injective sampleCompress := by
  intro key key' h
  have hbytes : (sampleCompress key).1 = (sampleCompress key').1 := congrArg Subtype.val h
  have htag := congrArg List.head? hbytes
  rw [head_sampleCompress, head_sampleCompress] at htag
  apply Subtype.ext
  split_ifs at htag with h1 h1' h2' h2 h1' h2' h1' h2'
  · rw [h1, h1']
  · cases htag
  · cases htag
  · cases htag
  · rw [h2, h2']
  · cases htag
  · cases htag
  · cases htag
  · rw [sampleCompress, sampleCompress, if_neg h1, if_neg h2, if_neg h1', if_neg h2'] at hbytes
    have hbound : ∀ a : ZMod Primality.p256Order, a.val < 256 ^ 32 := by
      intro a
      have horder : Primality.p256Order < 256 ^ 32 := by decide +kernel
      exact (ZMod.val_lt a).trans horder
    apply ZMod.val_injective
    exact littleEndian_injective 32 (hbound _) (hbound _) (List.cons.inj hbytes).2

theorem sec1_sample : Sec1 sampleRecovery where
  compressed_injective := sampleCompress_injective
  accepts key := ⟨sampleCompress key, rfl⟩

/-- The build with the given crates. -/
def buildWith (P : P256) (sha256 : Bytes → ByteArr 32) : Build :=
  { keylessBuild with p256 := P, sha256 := sha256 }

theorem Textbook.buildWith {n : ℕ} {Pt : Type} [AddCommGroup Pt] [Module (ZMod n) Pt]
    [Fact n.Prime] {C : Curve n Pt} {P : P256} {R : P256Recovery P} {sha256 : Bytes → ByteArr 32}
    {point : P.VerifyingKey → Pt} {scalars : P.Signature → Signature n}
    (h : Textbook C R sha256 point scalars) :
    Textbook C (P := (buildWith P sha256).p256) R (buildWith P sha256).sha256 point scalars :=
  h

theorem verifyAndRecover_buildWith {P : P256} {R : P256Recovery P} {sha256 : Bytes → ByteArr 32}
    {W : WebauthnCrates} {a : AssertionJson} {expected : ExpectedChallenge}
    {policy : AssertionPolicy} {recovered : RecoveredAssertion P}
    (h : verifyAndRecover W sha256 R a expected policy = .ok recovered) :
    verifyAndRecover (P := (buildWith P sha256).p256) W (buildWith P sha256).sha256 R a expected
      policy = .ok recovered :=
  h

/-- The build with the sample crates. -/
noncomputable def sampleBuild : Build := buildWith sampleP256 sampleSha256

noncomputable def sampleRecovered : RecoveredAssertion sampleP256 :=
  assembled sampleMembers sampleCeremony (baseKey, otherKey)

/-- What is kept of the sample assertion. -/
def samplePending : PendingRecovery :=
  ⟨(.ofPoint (sampleCompress baseKey), .ofPoint (sampleCompress otherKey)), List.replicate 16 7⟩

/-- Crates that read the stored recovery. -/
def sampleStorage : WebauthnCrates :=
  sampleWebauthn [(Text.utf8 samplePending.serialize.compact, samplePending.serialize)]

theorem sampleStorage_fromSlice :
    sampleStorage.serdeJson.fromSlice (sampleStorage.serdeJson.toVec samplePending.serialize) =
      .ok samplePending.serialize := by
  have hother : ¬ sampleClientData = Text.utf8 samplePending.serialize.compact := by decide +kernel
  simp [sampleStorage, sampleWebauthn, hother]

theorem verifyAndRecover_sample :
    verifyAndRecover sampleStorage sampleSha256 sampleRecovery sampleAssertion sampleChallenge
      samplePolicy = .ok sampleRecovered :=
  verifyAndRecover_eq (decodeAssertion_sample _) (checkCeremony_sample _) recoverCandidates_sample

theorem fromSlice_sampleBuild :
    sampleStorage.serdeJson.fromSlice (sampleStorage.serdeJson.toVec
        (RecoveredAssertion.pending (B := sampleBuild) sampleRecovery sampleRecovered).serialize) =
      .ok (RecoveredAssertion.pending (B := sampleBuild) sampleRecovery
        sampleRecovered).serialize :=
  sampleStorage_fromSlice

/-- The sample assertion selects soundly. -/
theorem selection_sound_base :
    SelectionSound (B := sampleBuild) sampleRecovery sampleStorage sampleRecovered :=
  selection_sound (B := sampleBuild) textbook_sample.buildWith sec1_sample
    (verifyAndRecover_buildWith verifyAndRecover_sample) fromSlice_sampleBuild

end AquaAuth
