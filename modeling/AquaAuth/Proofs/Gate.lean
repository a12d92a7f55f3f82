import AquaAuth.Proofs.Registry
set_option autoImplicit false
/-!
# The format gate against the verifiers

Where the verifier of a method returns a verdict on a DID, the gate has let that
DID past, with one exception: a multibase body that carries a P-256 point in an
encoding of another length than the compressed one.
-/

namespace AquaAuth

open Support Support.Result

variable {B : Build} {did : Str}

/-- Bytes that `p256` turns into a verifying key. -/
def P256.IsPublicKey (P : P256) (raw : Bytes) : Prop :=
  ∃ point key, P.encodedPointFromBytes raw = .ok point ∧
    P.verifyingKeyFromEncodedPoint point = .ok key

/-- The multibase key in a `did:key` or a supported `did:peer`. -/
def CarriesKey (B : Build) (did : Str) (key : KeyType) : Prop :=
  ∃ zBody, (Text.stripPrefix (text "did:key:z") did = some zBody ∨
      ((peerMethod B).supportsDid did = true ∧ extractZBody did = .ok zBody)) ∧
    decodeMultibaseKey B.dalek zBody = .ok key

/-- A DID the gate refuses is one its method refuses, whatever is presented. -/
def RefusalsAgree (B : Build) (did : Str) : Prop :=
  (∃ e, validateDidWellFormed B did = .error e) →
    ∀ m, findDidMethod B did = some m → ∀ message signature,
      (∃ e, m.verify did message signature = .error e) ∧
      ∀ publicKey, ∃ e, m.verifyWithPublicKey did message signature publicKey = .error e

/-- A verdict of the boolean entry point is about a DID the gate lets past. -/
def VerdictsWellFormed (B : Build) (did : Str) : Prop :=
  ∀ message signature publicKey b,
    verifyCaip122WithPublicKey B did message signature publicKey = .ok b →
      validateDidWellFormed B did = .ok ()

/-- A public key the verifier reads out of a multibase body and the gate does not
count as one. -/
def CarriesLongPoint (B : Build) (did : Str) : Prop :=
  ∃ raw, CarriesKey B did (.p256 raw) ∧ B.p256.IsPublicKey raw ∧ raw.length ≠ 33

/-! ## Verdicts imply the gate -/

theorem pkh_wellFormed_of_verify {message : Str} {signature : Bytes} {b : Bool}
    (hm : findDidMethod B did = some (pkhMethod B))
    (h : (pkhMethod B).verify did message signature = .ok b) :
    validateDidWellFormed B did = .ok () := by
  obtain ⟨⟨ns, remainder⟩, hsplit, h⟩ := bind_eq_ok.mp h
  obtain ⟨suite, hsuite, h⟩ := bind_eq_ok.mp h
  have hns := parseDidNamespace_of_splitNamespace hsplit
  rw [validateDidWellFormed_pkh hm]
  rcases findCipherSuite_cases (okOr_eq_ok.mp hsuite) with ⟨rfl, rfl⟩ | ⟨rfl, rfl⟩ | ⟨rfl, rfl⟩
  · obtain ⟨addr, haddr, _⟩ := bind_eq_ok.mp h
    simp [validatePkh, hns, haddr, Except.map]
  · obtain ⟨key, hkey, _⟩ := bind_eq_ok.mp h
    simp [validatePkh, hns, hkey, Except.map]
  · obtain ⟨key, hkey, _⟩ := bind_eq_ok.mp h
    simp [validatePkh, hns, hkey, Except.map]

/-- A verdict under a decoded key is about a key of the right length, or about a
P-256 point that `p256` accepts. -/
theorem verifyWithKey_ok_cases {key : KeyType} {message : Str} {signature : Bytes} {b : Bool}
    (h : verifyWithKey B key message signature = .ok b) :
    (∃ raw, key = .ed25519 raw ∧ raw.length = 32) ∨
    (∃ raw, key = .p256 raw ∧ B.p256.IsPublicKey raw) := by
  cases key with
  | ed25519 raw =>
      obtain ⟨arr, harr, _⟩ := bind_eq_ok.mp h
      rw [tryIntoArr_eq_ok] at harr
      exact .inl ⟨raw, rfl, harr ▸ arr.2⟩
  | p256 raw =>
      obtain ⟨point, hpoint, h⟩ := bind_eq_ok.mp h
      obtain ⟨key, hkey, _⟩ := bind_eq_ok.mp h
      exact .inr ⟨raw, rfl, point, key, mapError_eq_ok.mp hpoint, mapError_eq_ok.mp hkey⟩

theorem multibase_wellFormed_of_verify {zBody : Str} {key : KeyType} {message : Str}
    {signature : Bytes} {b : Bool} (hkey : decodeMultibaseKey B.dalek zBody = .ok key)
    (hlong : ∀ raw, key = .p256 raw → B.p256.IsPublicKey raw → raw.length = 33)
    (h : verifyWithKey B key message signature = .ok b) :
    validateMultibaseKeyBody B zBody = .ok () := by
  rw [validateMultibaseKeyBody_eq_ok]
  rcases verifyWithKey_ok_cases h with ⟨raw, rfl, hlen⟩ | ⟨raw, rfl, hpoint⟩
  · exact .inl ⟨raw, hkey, hlen⟩
  · exact .inr ⟨raw, hkey, hlong raw rfl hpoint⟩

/-- Outside the exception, a verdict implies that the gate lets the DID past. -/
theorem wellFormed_of_verify (hshort : ¬ CarriesLongPoint B did) {m : DIDMethod}
    (hm : findDidMethod B did = some m) {message : Str} {signature : Bytes}
    {publicKey : Option Bytes} {b : Bool}
    (h : m.verify did message signature = .ok b ∨
      m.verifyWithPublicKey did message signature publicKey = .ok b) :
    validateDidWellFormed B did = .ok () := by
  have hlong : ∀ raw, CarriesKey B did (.p256 raw) → B.p256.IsPublicKey raw →
      raw.length = 33 := fun raw hkey hpoint => by
    by_contra hne
    exact hshort ⟨raw, hkey, hpoint, hne⟩
  rcases findDidMethod_cases hm with ⟨rfl, _⟩ | ⟨rfl, _⟩ | ⟨rfl, hsupports⟩ | ⟨rfl, haqua, _⟩
  · exact pkh_wellFormed_of_verify hm (h.elim id id)
  · obtain ⟨zBody, hbody, h⟩ := bind_eq_ok.mp (h.elim id id)
    obtain ⟨key, hkey, h⟩ := bind_eq_ok.mp h
    have hbody := okOr_eq_ok.mp hbody
    rw [validateDidWellFormed_key hm, hbody]
    refine multibase_wellFormed_of_verify hkey (fun raw hraw => hlong raw ?_) h
    exact ⟨zBody, .inl hbody, hraw ▸ hkey⟩
  · obtain ⟨zBody, hbody, h⟩ := bind_eq_ok.mp (h.elim id id)
    obtain ⟨key, hkey, h⟩ := bind_eq_ok.mp h
    rw [validateDidWellFormed_peer hm, hbody]
    refine multibase_wellFormed_of_verify hkey (fun raw hraw => hlong raw ?_) h
    exact ⟨zBody, .inr ⟨hsupports, hbody⟩, hraw ▸ hkey⟩
  · rcases h with h | h
    · simp [aquaMethod] at h
    · obtain ⟨pk, _, h⟩ := bind_eq_ok.mp h
      obtain ⟨bound, hbound, _⟩ := bind_eq_ok.mp h
      obtain ⟨claimed, hclaimed, _⟩ := bind_eq_ok.mp hbound
      rw [validateDidWellFormed_aqua hm haqua, hclaimed]
      rfl

/-! ## The exception -/

/-- A long point is refused by the gate and still gets a verdict. -/
theorem verify_of_carriesLongPoint (h : CarriesLongPoint B did)
    {signature : Bytes} {sig : B.p256.Signature}
    (hsig : p256SignatureFromBytes B.p256 signature = .ok sig) (message : Str) :
    (∃ e, validateDidWellFormed B did = .error e) ∧
      ∃ m b, findDidMethod B did = some m ∧ m.verify did message signature = .ok b ∧
        ∀ publicKey, m.verifyWithPublicKey did message signature publicKey = .ok b := by
  obtain ⟨raw, ⟨zBody, hbody, hdecode⟩, ⟨point, key, hpoint, hkey⟩, hlen⟩ := h
  have hgate : ∃ e, validateMultibaseKeyBody B zBody = .error e := by
    rw [isError_iff]
    intro u hu
    rcases validateMultibaseKeyBody_eq_ok.mp hu with ⟨raw', h, _⟩ | ⟨raw', h, hlen'⟩
    · simp [hdecode] at h
    · rw [hdecode, Except.ok.injEq, KeyType.p256.injEq] at h
      exact hlen (h ▸ hlen')
  have hverdict : verifyWithKey B (.p256 raw) message signature =
      .ok (B.p256.verify key (Text.utf8 message) sig) := by
    simp [verifyWithKey, verifyWithP256Key, hpoint, hkey, hsig, Except.mapError]
  rcases hbody with hbody | ⟨hsupports, hbody⟩
  · have hm : findDidMethod B did = some (keyMethod B) := by
      obtain rfl := Text.stripPrefix_eq_some.mp hbody
      exact findDidMethod_key ('z' :: zBody)
    have hkeyVerdict : (keyMethod B).verify did message signature =
        .ok (B.p256.verify key (Text.utf8 message) sig) := by
      simp only [keyMethod, hbody, okOr_some, ok_bind, hdecode]
      exact hverdict
    refine ⟨?_, keyMethod B, _, hm, hkeyVerdict, fun _ => hkeyVerdict⟩
    rw [validateDidWellFormed_key hm, hbody]
    exact hgate
  · have hm := findDidMethod_peer hsupports
    have hpeerVerdict : (peerMethod B).verify did message signature =
        .ok (B.p256.verify key (Text.utf8 message) sig) := by
      simp only [peerMethod, hbody, ok_bind, hdecode]
      exact hverdict
    refine ⟨?_, peerMethod B, _, hm, hpeerVerdict, fun _ => hpeerVerdict⟩
    rw [validateDidWellFormed_peer hm, hbody]
    exact hgate

/-- The gate's refusals are refusals of the verifier, and its verdicts are about
DIDs the gate lets past, exactly for the DIDs that carry no long point.  The
hypothesis says that some byte string is a P-256 signature, as every pair of
scalars in range is. -/
theorem refusalsAgree_iff
    (hsig : ∃ signature sig, p256SignatureFromBytes B.p256 signature = .ok sig) (did : Str) :
    (RefusalsAgree B did ↔ ¬ CarriesLongPoint B did) ∧
      (VerdictsWellFormed B did ↔ ¬ CarriesLongPoint B did) := by
  obtain ⟨signature, sig, hsig⟩ := hsig
  refine ⟨⟨fun hagree hlong => ?_, ?_⟩, ⟨fun hverdicts hlong => ?_, ?_⟩⟩
  · obtain ⟨hgate, m, b, hm, hverdict⟩ := verify_of_carriesLongPoint hlong hsig []
    obtain ⟨e, he⟩ := (hagree hgate m hm [] signature).1
    simp [hverdict.1] at he
  · rintro hshort ⟨e, hgate⟩ m hm message signature
    have hnot : ∀ (publicKey : Option Bytes) {b : Bool},
        ¬ (m.verify did message signature = .ok b ∨
          m.verifyWithPublicKey did message signature publicKey = .ok b) := fun _ _ h => by
      have hok := wellFormed_of_verify hshort hm h
      simp [hgate] at hok
    exact ⟨isError_iff.mpr fun b hb => hnot none (.inl hb),
      fun publicKey => isError_iff.mpr fun b hb => hnot publicKey (.inr hb)⟩
  · obtain ⟨⟨e, hgate⟩, m, b, hm, -, hverdict⟩ := verify_of_carriesLongPoint hlong hsig []
    have hok := hverdicts [] signature none b (by
      rw [verifyCaip122WithPublicKey, hm]
      exact hverdict none)
    simp [hgate] at hok
  · intro hshort message signature publicKey b hverdict
    obtain ⟨m, hm, hverdict⟩ := bind_eq_ok.mp hverdict
    exact wellFormed_of_verify hshort (okOr_eq_ok.mp hm) (.inr hverdict)

/-! ## The generator of P-256, uncompressed -/

/-- The uncompressed generator point and a signature made with the secret scalar 1
over the message `login`. -/
def generatorSigned : Signed where
  key := bytesOfHex <|
    "046b17d1f2e12c4247f8bce6e563a440f277037d812deb33a0f4a13945d898c296" ++
    "4fe342e2fe1a7f9b8ee7eb4a7c0f9e162bce33576b315ececbb6406837bf51f5"
  message := Text.utf8 (text "login")
  signature := bytesOfHex <|
    "7cf27b188d034f7e8a52380304b51ac3c08969e277f21b35a60b48fc47669978" ++
    "5fbd4e26cdccf063d4d9d1bc28c6a611bc7b71ae95a7cfb50ff93df5ebe6764e"

def generatorBuild : Build := .ofTable [] [generatorSigned]

/-- The `did:key` of the uncompressed generator. -/
def generatorDid : Str :=
  text "did:key:" ++ text ("z4oJ8bvMUow7fJp7Y6oHK1sHtBWTqaJdwQbcZscsJ3cE7GGscDHFbKSjYsc4EZime" ++
    "RknigVKHNxisYKeM8dvEAKgSHKqW")

/-- The gate refuses the uncompressed generator and its signature verifies. -/
theorem refusalsAgree_generator_fails :
    validateDidWellFormed generatorBuild generatorDid =
        .error (.invalidDid (text "P-256 compressed public key must be 33 bytes, got 65")) ∧
      verifyCaip122WithPublicKey generatorBuild generatorDid (text "login")
        generatorSigned.signature none = .ok true ∧
      ¬ RefusalsAgree generatorBuild generatorDid := by
  have hgate : validateDidWellFormed generatorBuild generatorDid =
      .error (.invalidDid (text "P-256 compressed public key must be 33 bytes, got 65")) := by
    decide +kernel
  have hm : findDidMethod generatorBuild generatorDid = some (keyMethod generatorBuild) :=
    findDidMethod_key _
  have hverdict : (keyMethod generatorBuild).verify generatorDid (text "login")
      generatorSigned.signature = .ok true := by
    decide +kernel
  refine ⟨hgate, ?_, fun hagree => ?_⟩
  · rw [verifyCaip122WithPublicKey, hm, okOr_some, ok_bind, keyMethod_verifyWithPublicKey]
    exact hverdict
  · obtain ⟨e, he⟩ := (hagree ⟨_, hgate⟩ _ hm (text "login") generatorSigned.signature).1
    rw [hverdict] at he
    cases he

private theorem ofTable_signature (ed25519 p256 : List Signed) {signature : Bytes}
    (h : signature.length = 64) :
    ∃ signature sig,
      p256SignatureFromBytes (Build.ofTable ed25519 p256).p256 signature = .ok sig :=
  ⟨signature, signature, if_pos h⟩

/-- The `did:key` of the compressed generator. -/
def compressedDid : Str :=
  text "did:key:z" ++ text "DnaepsL7AXenJkVYdkh5KuKsSU7Ykh7kyXaLLU7auN9FWSiZ"

/-- The uncompressed point of a listed key loads. -/
private theorem isPublicKey_ofTable {table : List Signed} {raw : Bytes} (htag : raw.headD 0xFF = 4)
    (hlen : raw.length = 65) (hkey : raw ∈ table.map Signed.key) :
    (P256.ofTable table).IsPublicKey raw :=
  ⟨raw, raw, if_pos (.inr (.inl ⟨htag, hlen⟩)), if_pos hkey⟩

private theorem generatorDid_carriesLongPoint : CarriesLongPoint generatorBuild generatorDid := by
  have hlen : generatorSigned.key.length = 65 := by decide +kernel
  have htag : generatorSigned.key.headD 0xFF = 4 := by decide +kernel
  refine ⟨generatorSigned.key, ⟨_, .inl rfl, by decide +kernel⟩, ?_, by omega⟩
  exact isPublicKey_ofTable htag hlen (List.mem_singleton_self _)

private theorem compressedDid_carriesNoLongPoint :
    ¬ CarriesLongPoint generatorBuild compressedDid := by
  rintro ⟨raw, ⟨zBody, hbody, hdecode⟩, _, hlong⟩
  rcases hbody with hbody | ⟨hpeer, _⟩
  · obtain rfl := Option.some.inj hbody
    have hpoint : decodeMultibaseKey generatorBuild.dalek
        (text "DnaepsL7AXenJkVYdkh5KuKsSU7Ykh7kyXaLLU7auN9FWSiZ") = .ok (.p256 (bytesOfHex
          "036b17d1f2e12c4247f8bce6e563a440f277037d812deb33a0f4a13945d898c296")) := by
      decide +kernel
    obtain rfl := KeyType.p256.inj (Except.ok.inj (hpoint.symm.trans hdecode))
    exact hlong (by decide +kernel)
  · exact absurd hpeer (by decide)

/-- The two sides agree about the compressed generator and not about the uncompressed one. -/
theorem refusalsAgree_iff_generator :
    (RefusalsAgree generatorBuild compressedDid ∧ VerdictsWellFormed generatorBuild compressedDid) ∧
      ¬ RefusalsAgree generatorBuild generatorDid ∧
        ¬ VerdictsWellFormed generatorBuild generatorDid := by
  have hlength : generatorSigned.signature.length = 64 := by decide +kernel
  have hsig := ofTable_signature [] [generatorSigned] hlength
  obtain ⟨hagree, hverdicts⟩ := refusalsAgree_iff hsig compressedDid
  obtain ⟨hagree', hverdicts'⟩ := refusalsAgree_iff hsig generatorDid
  refine ⟨⟨hagree.mpr compressedDid_carriesNoLongPoint,
    hverdicts.mpr compressedDid_carriesNoLongPoint⟩, ?_, ?_⟩
  · exact fun h => hagree'.mp h generatorDid_carriesLongPoint
  · exact fun h => hverdicts'.mp h generatorDid_carriesLongPoint

end AquaAuth
