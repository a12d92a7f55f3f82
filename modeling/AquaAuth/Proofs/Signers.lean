import AquaAuth.Model.Signers
import AquaAuth.Proofs.AquaCodec
import AquaAuth.Proofs.EthereumSignatures
import AquaAuth.Proofs.Gate
import AquaAuth.Proofs.SignatureEncodings
import AquaAuth.Proofs.Spelling
set_option autoImplicit false
/-!
# What the signers in memory sign

Each signer over a key in memory carries the DID its own signatures verify under: what it signs a
message with, the server authenticates as its DID.  The one exception is a P-256 signature whose
64 bytes happen to be a signature in DER as well.
-/

namespace AquaAuth

open Support Support.Result

variable {B : Build} {did message : Str} {signature : Bytes}

/-- The server authenticates the bearer of the signature as the signer's DID. -/
def Authenticates (B : Build) (signer : Signer) (message : Str) (signature : Bytes) : Prop :=
  ∃ principal : Principal B, principal.did = signer.signerDid ∧
    authenticateWithPublicKey B signer.signerDid message signature signer.publicKey =
      .ok principal

/-! ## A key and its own crate -/

/-- `ed25519-dalek` on a key of its own: the public key passes the strict check, and what the key
signs verifies. -/
structure SignsEd25519 {B : Build} (S : SigningCrates B) (key : S.Ed25519Key) (payload : Bytes) :
    Prop where
  point : ∃ point, B.dalek.decompress (S.ed25519VerifyingKey key) = some point ∧
    B.dalek.compress point = S.ed25519VerifyingKey key ∧ B.dalek.isTorsionFree point = true
  verifies : ∃ verifyingKey sig,
    B.dalek.verifyingKeyFromBytes (S.ed25519VerifyingKey key) = .ok verifyingKey ∧
      B.dalek.isWeak verifyingKey = false ∧
      B.dalek.signatureFromSlice (S.ed25519Sign key payload).1 = .ok sig ∧
        B.dalek.verifyStrict verifyingKey payload sig = true

/-- `p256` on a key of its own. -/
structure SignsP256 {B : Build} (S : SigningCrates B) (key : S.P256Key) (payload : Bytes) :
    Prop where
  verifies : ∃ verifyingKey sig, EncodesKey B.p256 (S.p256CompressedPoint key).1 verifyingKey ∧
    B.p256.signatureFromSlice (S.p256Sign key payload).1 = .ok sig ∧
      B.p256.verify verifyingKey payload sig = true

/-- `k256` on a key of its own: the key is recovered from what it signs, with an id below four. -/
structure SignsK256 {B : Build} (S : SigningCrates B) (key : S.K256Key) (prehash : ByteArr 32) :
    Prop where
  recovers : ∀ bytes id, S.signPrehashRecoverable key prehash = .ok (bytes, id) → id.toNat ≤ 3 ∧
    ∃ recId sig, B.k256.recoveryIdFromByte id = some recId ∧
      B.k256.signatureFromSlice bytes.1 = .ok sig ∧
        B.k256.recoverFromPrehash prehash sig recId = .ok (S.k256VerifyingKey key)

/-- `ml-dsa` on a key of its own: the hint is encoded the one way FIPS 204 has. -/
structure SignsMlDsa {B : Build} (S : SigningCrates B) (key : S.MlDsaKey) (payload : Bytes) :
    Prop where
  hint : Aqua.hintEncodingIsCanonical (S.mlDsaSign key payload) = .ok ()
  verifies : ∃ sig, B.mlDsa.decodeSignature (S.mlDsaSign key payload) = some sig ∧
    B.mlDsa.verifyWithContext (B.mlDsa.decodeVerifyingKey (S.mlDsaVerifyingKey key)) payload [] sig =
      true

/-! ## The signers -/

/-- A signer of `local_key.rs` or of the testkit. -/
inductive MemorySigner {B : Build} (S : SigningCrates B) where
  | localKey (signer : LocalKeySigner S)
  | ed25519 (key : S.Ed25519Key) (spelling : Spelling)
  | p256 (key : S.P256Key) (spelling : Spelling)
  | eip155 (key : S.K256Key)
  | mlDsa87 (key : S.MlDsaKey)

namespace MemorySigner

variable {S : SigningCrates B}

/-- The signer as the client drives it. -/
def signer : MemorySigner S → Signer
  | .localKey s => s.signer
  | .ed25519 key spelling => Ed25519Local key spelling
  | .p256 key spelling => P256Local key spelling
  | .eip155 key => Eip155Local key
  | .mlDsa87 key => MlDsa87Local key

/-- The crate of the key keeps its word on the message. -/
def KeyWorks (message : Str) : MemorySigner S → Prop
  | .localKey s =>
      match s.key with
      | .ed25519 key => SignsEd25519 S key (Text.utf8 message)
      | .p256 key => SignsP256 S key (Text.utf8 message)
  | .ed25519 key _ => SignsEd25519 S key (Text.utf8 message)
  | .p256 key _ => SignsP256 S key (Text.utf8 message)
  | .eip155 key => SignsK256 S key (eip191Prehash B message)
  | .mlDsa87 key => SignsMlDsa S key (Text.utf8 message)

/-- The 64 bytes are no signature in DER, or one that verifies under the same key. -/
def ReadsAsSigned (S : SigningCrates B) (key : S.P256Key) (payload : Bytes) : Prop :=
  ∀ verifyingKey other, EncodesKey B.p256 (S.p256CompressedPoint key).1 verifyingKey →
    B.p256.signatureFromDer (S.p256Sign key payload).1 = .ok other →
      B.p256.verify verifyingKey payload other = true

/-- What the server has to bring for the signer's kind of key. -/
def ServerReads (message : Str) : MemorySigner S → Prop
  | .localKey s =>
      match s.key with
      | .ed25519 _ => True
      | .p256 key => ReadsAsSigned S key (Text.utf8 message)
  | .p256 key _ => ReadsAsSigned S key (Text.utf8 message)
  | .mlDsa87 _ => B.didAqua = true
  | _ => True

end MemorySigner

/-! ## Verdicts -/

theorem authenticates_iff {signer : Signer} : Authenticates B signer message signature ↔
    validateDidWellFormed B signer.signerDid = .ok () ∧
      verifyCaip122WithPublicKey B signer.signerDid message signature signer.publicKey =
        .ok true := by
  constructor
  · rintro ⟨principal, hdid, h⟩
    exact ⟨hdid ▸ principal.wellFormed, (authenticateWithPublicKey_eq_ok.mp h).1⟩
  · rintro ⟨hgate, hverify⟩
    exact ⟨⟨signer.signerDid, hgate⟩, rfl, authenticateWithPublicKey_eq_ok.mpr ⟨hverify, rfl⟩⟩

/-- Without a public key every registered method gives the verdict of its `verify`. -/
theorem verifyWithPublicKey_none {m : DIDMethod} (hm : findDidMethod B did = some m) :
    m.verifyWithPublicKey did message signature none = .ok true ↔
      m.verify did message signature = .ok true := by
  rcases findDidMethod_cases hm with ⟨rfl, _⟩ | ⟨rfl, _⟩ | ⟨rfl, _⟩ | ⟨rfl, _⟩
  · exact Iff.rfl
  · exact Iff.rfl
  · exact Iff.rfl
  · constructor
    · intro h
      cases h
    · intro h
      cases h

theorem Judged.authenticates_iff {signer : Signer} {wellFormed : Prop}
    {verdict : Str → Bytes → Option Bool} (h : Judged B signer.signerDid wellFormed verdict)
    (hkey : signer.publicKey = none) :
    Authenticates B signer message signature ↔
      wellFormed ∧ verdict message signature = some true := by
  obtain ⟨m, hm, hverify⟩ := h.verify
  rw [AquaAuth.authenticates_iff, h.gate, ← hverify, hkey, verifyCaip122WithPublicKey, hm,
    okOr_some, ok_bind, verifyWithPublicKey_none hm]
  cases m.verify signer.signerDid message signature <;> simp [Except.toOption]

/-! ## Ed25519 and P-256 -/

variable {S : SigningCrates B}

theorem SignsEd25519.strict {key : S.Ed25519Key} {payload : Bytes}
    (h : SignsEd25519 S key payload) :
    ∃ verifyingKey, strictVerifyingKey B.dalek (S.ed25519VerifyingKey key) = .ok verifyingKey ∧
      ∃ sig, B.dalek.signatureFromSlice (S.ed25519Sign key payload).1 = .ok sig ∧
        B.dalek.verifyStrict verifyingKey payload sig = true := by
  obtain ⟨point, hpoint, hcompress, htorsion⟩ := h.point
  obtain ⟨verifyingKey, sig, hkey, hweak, hsig, hverify⟩ := h.verifies
  refine ⟨verifyingKey, ?_, sig, hsig, hverify⟩
  rw [strictVerifyingKey, hpoint, okOr_some, ok_bind, ensure_pos hcompress, ok_bind, hkey]
  simp only [Except.mapError, ok_bind, ensure_pos hweak, ensure_pos htorsion]
  rfl

theorem authenticates_ed25519 {signer : Signer} {key : S.Ed25519Key}
    (hdid : signer.signerDid ∈ ed25519Spellings (S.ed25519VerifyingKey key))
    (hkey : signer.publicKey = none) (h : SignsEd25519 S key (Text.utf8 message)) :
    Authenticates B signer message (S.ed25519Sign key (Text.utf8 message)).1 := by
  obtain ⟨verifyingKey, hstrict, sig, hsig, hverify⟩ := h.strict
  have hlen := (S.ed25519Sign key (Text.utf8 message)).2
  apply (Judged.authenticates_iff (judged_ed25519 B _ _ hdid) hkey).mpr
  refine ⟨⟨verifyingKey, hstrict⟩, ?_⟩
  rw [ed25519Verdict, verifyWithEd25519Key, tryIntoArr_self, ok_bind, hstrict, ok_bind,
    ensure_pos hlen, ok_bind, hsig]
  simp [Except.mapError, Except.toOption, hverify]

theorem authenticates_p256 {signer : Signer} {key : S.P256Key}
    (hdid : signer.signerDid ∈ p256Spellings (S.p256CompressedPoint key))
    (hkey : signer.publicKey = none) (h : SignsP256 S key (Text.utf8 message)) :
    Authenticates B signer message (S.p256Sign key (Text.utf8 message)).1 ↔
      MemorySigner.ReadsAsSigned S key (Text.utf8 message) := by
  obtain ⟨verifyingKey, sig, hencodes, hsig, hverify⟩ := h.verifies
  have hverdict : ∀ signature, p256Verdict B.p256 (S.p256CompressedPoint key) message signature =
      some true ↔ ∃ other, p256SignatureFromBytes B.p256 signature = .ok other ∧
        B.p256.verify verifyingKey (Text.utf8 message) other = true := by
    intro signature
    rw [← verifyWithKey_eq_true hencodes, p256Verdict, verifyWithKey]
    cases verifyWithP256Key B.p256 (S.p256CompressedPoint key).1 message signature <;>
      simp [Except.toOption]
  rw [Judged.authenticates_iff (judged_p256 B _ _ hdid) hkey, true_and, hverdict]
  unfold p256SignatureFromBytes
  constructor
  · rintro ⟨other, hread, hother⟩ verifyingKey' other' hencodes' hder
    obtain ⟨point, hpoint, hload⟩ := hencodes
    obtain ⟨point', hpoint', hload'⟩ := hencodes'
    obtain rfl : point = point' := Except.ok.inj (hpoint.symm.trans hpoint')
    obtain rfl : verifyingKey = verifyingKey' := Except.ok.inj (hload.symm.trans hload')
    rw [hder] at hread
    obtain rfl := Except.ok.inj hread
    exact hother
  · intro hreads
    cases hder : B.p256.signatureFromDer (S.p256Sign key (Text.utf8 message)).1 with
    | ok other => exact ⟨other, rfl, hreads verifyingKey other hencodes hder⟩
    | error e => exact ⟨sig, hsig, hverify⟩

/-! ## Ethereum -/

theorem asciiLower_eip55 {keccak256 : Bytes → ByteArr 32} {addr : ByteArr 20} :
    Text.asciiLower (eip55Checksum keccak256 addr) = Hex.encode addr.1 := by
  have hcases : ∀ n < 16, (Hex.digit n).toLower = Hex.digit n ∧
      (Hex.digit n).toUpper.toLower = Hex.digit n := by decide
  apply List.ext_getElem
  · simp [Text.asciiLower, eip55Checksum]
  · intro i hi hi'
    obtain ⟨n, hn, hdigit⟩ := Hex.exists_digit_of_mem_encode (List.getElem_mem hi')
    simp only [Text.asciiLower, eip55Checksum, List.getElem_map, List.getElem_mapIdx, hdigit]
    split_ifs
    · exact (hcases n hn).1
    · exact (hcases n hn).2
    · exact (hcases n hn).1
    · exact (hcases n hn).2
    · exact (hcases n hn).1

theorem addressSegment_eip155Local (key : S.K256Key) :
    AddressSegment (Eip155Local key).signerDid
      (addressFromVerifyingKey B (S.k256VerifyingKey key)) := by
  have hcolon : ':' ∉ eip55Checksum B.keccak256
      (addressFromVerifyingKey B (S.k256VerifyingKey key)) := by
    intro hmem
    exact absurd (alphanumeric_eip55 _ hmem) (by decide)
  have hdigits : ∀ c ∈ eip55Checksum B.keccak256
      (addressFromVerifyingKey B (S.k256VerifyingKey key)), Hex.isDigit c = true := by
    have hlower : Text.asciiLower (eip55Checksum B.keccak256
        (addressFromVerifyingKey B (S.k256VerifyingKey key))) =
          Text.asciiLower (Hex.encode (addressFromVerifyingKey B (S.k256VerifyingKey key)).1) := by
      rw [asciiLower_eip55]
      exact (Hex.decode_eq_ok.mp (Hex.decode_encode _)).2.symm
    apply (isDigit_iff_of_asciiLower hlower).mpr
    exact fun c hc => Hex.isDigit_of_mem_encode hc
  have hsegment : AddressSegment (didOfAddress (some (text "1")) _) _ :=
    (addressSegment_didOfAddress hcolon).mpr ⟨hdigits, asciiLower_eip55⟩
  exact hsegment

theorem authenticates_eip155 {key : S.K256Key} (h : SignsK256 S key (eip191Prehash B message))
    (hsign : (Eip155Local key).sign message = .ok signature) :
    Authenticates B (Eip155Local key) message signature := by
  obtain ⟨⟨bytes, id⟩, hsigned, hbytes⟩ := bind_eq_ok.mp hsign
  have hsignature : bytes.1 ++ [id + 27] = signature := Except.ok.inj hbytes
  obtain ⟨hid, recId, sig, hrecId, hsig, hrecover⟩ := h.recovers bytes id
    (mapError_eq_ok.mp hsigned)
  have haddr := addressSegment_eip155Local (S := S) key
  have hm : findDidMethod B (Eip155Local key).signerDid = some (pkhMethod B) :=
    findDidMethod_pkh _
  have hvalue : recoveryValue signature = id + 27 := by
    rw [← hsignature, recoveryValue, List.getD_eq_getElem?_getD,
      List.getElem?_append_right (by rw [bytes.2]), bytes.2]
    rfl
  have hverify : (pkhMethod B).verify (Eip155Local key).signerDid message signature =
      .ok true := by
    have hsplit : splitNamespace (Eip155Local key).signerDid = .ok (text "eip155",
        text "1:0x" ++ eip55Checksum B.keccak256
          (addressFromVerifyingKey B (S.k256VerifyingKey key))) :=
      @splitNamespace_append (text "eip155") _ (by decide)
    have hsuite : findCipherSuite B (text "eip155") = some (eip155Suite B) := rfl
    simp only [pkhMethod, hsplit, ok_bind, hsuite, okOr_some]
    apply eip155Verify_eq_ok.mpr
    refine ⟨_, S.k256VerifyingKey key, haddr, ?_, ⟨?_, recId, sig, ?_, ?_, hrecover⟩, ?_⟩
    · rw [hvalue, UInt8.toNat_add]
      have h27 : (27 : UInt8).toNat = 27 := rfl
      omega
    · rw [← hsignature, List.length_append, bytes.2]
      rfl
    · rw [hvalue, UInt8.add_sub_cancel]
      exact hrecId
    · rw [← hsignature, List.take_left' bytes.2]
      exact hsig
    · simp
  apply authenticates_iff.mpr
  refine ⟨pkh_wellFormed_of_verify hm hverify, ?_⟩
  rw [verifyCaip122WithPublicKey, hm, okOr_some, ok_bind]
  exact hverify

/-! ## did:aqua -/

theorem verify_mlDsaSign {key : S.MlDsaKey} {payload : Bytes} (h : SignsMlDsa S key payload) :
    Aqua.verify B.mlDsa (S.mlDsaVerifyingKey key).1 (S.mlDsaSign key payload).1 payload =
      .ok true := by
  obtain ⟨sig, hsig, hverify⟩ := h.verifies
  unfold Aqua.verify
  apply bind_eq_ok.mpr
  refine ⟨S.mlDsaVerifyingKey key, tryIntoArr_self _ _, bind_eq_ok.mpr ?_⟩
  refine ⟨S.mlDsaSign key payload, tryIntoArr_self _ _, bind_eq_ok.mpr ⟨(), ?_, ?_⟩⟩
  · exact mapError_eq_ok.mpr h.hint
  · rw [hsig]
    exact congrArg Except.ok hverify

theorem authenticates_mlDsa87 {key : S.MlDsaKey} (h : SignsMlDsa S key (Text.utf8 message)) :
    Authenticates B (MlDsa87Local key) message (S.mlDsaSign key (Text.utf8 message)).1 ↔
      B.didAqua = true := by
  rw [authenticates_iff]
  constructor
  · rintro ⟨_, haccept⟩
    obtain ⟨m, hm, _⟩ := bind_eq_ok.mp haccept
    rcases findDidMethod_cases (okOr_eq_ok.mp hm) with ⟨_, rest, hrest⟩ | ⟨_, rest, hrest⟩ |
      ⟨_, hpeer⟩ | ⟨_, haqua, _⟩
    · cases hrest
    · cases hrest
    · rcases peer_supportsDid_cases hpeer with ⟨rest, hrest⟩ | ⟨rest, hrest⟩ <;> cases hrest
    · exact haqua
  · intro haqua
    have hm : findDidMethod B (MlDsa87Local key).signerDid = some (aquaMethod B) := by
      rw [findDidMethod, allDidMethods, if_pos haqua]
      rfl
    have hbound : Aqua.aquaDidBindsPubkey B.sha256 (MlDsa87Local key).signerDid
        (S.mlDsaVerifyingKey key).1 = .ok true := (Aqua.aquaDidBindsPubkey_eq_true _).mpr rfl
    constructor
    · rw [validateDidWellFormed_aqua hm haqua]
      show (Aqua.multihashFromAquaDid (Aqua.aquaDidFromPubkey _ _)).map _ = _
      rw [Aqua.aquaDidFromPubkey_eq, Aqua.multihashFromAquaDid_didOfDigest]
      rfl
    · rw [verifyCaip122WithPublicKey, hm, okOr_some, ok_bind]
      apply bind_eq_ok.mpr
      refine ⟨(S.mlDsaVerifyingKey key).1, okOr_some _ _, bind_eq_ok.mpr ⟨true, hbound, ?_⟩⟩
      exact verify_mlDsaSign h

/-! ## Keys from PEM files -/

section

variable {Key : Type} {curve : Str} {fromPkcs8Pem : Str → Except Str Key} {wrap : Key → LocalKey S}
  {readToString : Str → Except Str Str} {path : Str} {s : LocalKeySigner S}

namespace LocalKeySigner

/-- A signer from a key file holds the key of the file, with its DID. -/
theorem readPem_fromPem_eq_ok :
    (readPem readToString path >>= fromPem curve fromPkcs8Pem wrap) = .ok s ↔
      ∃ pem key, readToString path = .ok pem ∧ fromPkcs8Pem pem = .ok key ∧
        s = ⟨wrap key, (wrap key).did, rfl⟩ := by
  simp only [readPem, fromPem, bind_eq_ok, mapError_eq_ok, pure_eq_ok, Except.ok.injEq]
  constructor
  · rintro ⟨pem, hread, key, hkey, rfl⟩
    exact ⟨pem, key, hread, hkey, rfl⟩
  · rintro ⟨pem, key, hread, hkey, rfl⟩
    exact ⟨pem, hread, key, hkey, rfl⟩

/-- What cannot be read is refused with its path, and what is no key with the curve. -/
theorem readPem_fromPem_eq_error {e : LocalKeyError} :
    (readPem readToString path >>= fromPem curve fromPkcs8Pem wrap) = .error e ↔
      (∃ source, readToString path = .error source ∧ e = .io path source) ∨
        ∃ pem detail, readToString path = .ok pem ∧ fromPkcs8Pem pem = .error detail ∧
          e = .pkcs8 curve detail := by
  cases hread : readToString path with
  | error source => simp [readPem, hread, Except.mapError, eq_comm]
  | ok pem =>
      cases hkey : fromPkcs8Pem pem with
      | error detail => simp [readPem, fromPem, hread, hkey, Except.mapError, eq_comm]
      | ok key => simp [readPem, fromPem, hread, hkey, Except.mapError]

/-- A signer from an Ed25519 key file is authenticated as the `did:key` of the key in the file. -/
theorem authenticates_ed25519FromPemFile
    (hload : ed25519FromPemFile S readToString path = .ok s) :
    ∃ pem key, readToString path = .ok pem ∧ S.ed25519FromPkcs8Pem pem = .ok key ∧
      s.did = ed25519DidKeyFromPubkey (S.ed25519VerifyingKey key) ∧
      ∀ message, SignsEd25519 S key (Text.utf8 message) →
        Authenticates B s.signer message (s.key.sign message) := by
  obtain ⟨pem, key, hread, hkey, rfl⟩ := readPem_fromPem_eq_ok.mp hload
  refine ⟨pem, key, hread, hkey, rfl, fun message hworks => ?_⟩
  exact authenticates_ed25519 List.mem_cons_self rfl hworks

/-- A signer from a P-256 key file is authenticated as the `did:key` of the key in the file, as far
as its 64 bytes are read as they were written. -/
theorem authenticates_p256FromPemFile
    (hload : p256FromPemFile S readToString path = .ok s) :
    ∃ pem key, readToString path = .ok pem ∧ S.p256FromPkcs8Pem pem = .ok key ∧
      s.did = p256DidKeyFromPubkey (S.p256CompressedPoint key) ∧
      ∀ message, SignsP256 S key (Text.utf8 message) →
        (Authenticates B s.signer message (s.key.sign message) ↔
          MemorySigner.ReadsAsSigned S key (Text.utf8 message)) := by
  obtain ⟨pem, key, hread, hkey, rfl⟩ := readPem_fromPem_eq_ok.mp hload
  refine ⟨pem, key, hread, hkey, rfl, fun message hworks => ?_⟩
  exact authenticates_p256 List.mem_cons_self rfl hworks

end LocalKeySigner

end

/-! ## Every signer -/

/-- What a signer in memory signs is authenticated as its DID, provided the server can read it:
it has the feature `did-aqua` for a `did:aqua`, and does not take a P-256 signature for another
one in DER. -/
theorem memorySigner_authenticates (s : MemorySigner S) (hworks : s.KeyWorks message)
    (hsign : s.signer.sign message = .ok signature) :
    Authenticates B s.signer message signature ↔ s.ServerReads message := by
  cases s with
  | localKey s =>
      obtain ⟨key, did, hderived⟩ := s
      obtain rfl := Except.ok.inj hsign
      cases key with
      | ed25519 key =>
          have hdid : did ∈ ed25519Spellings (S.ed25519VerifyingKey key) := by
            rw [hderived]
            exact List.mem_cons_self
          exact iff_of_true (authenticates_ed25519 hdid rfl hworks) trivial
      | p256 key =>
          have hdid : did ∈ p256Spellings (S.p256CompressedPoint key) := by
            rw [hderived]
            exact List.mem_cons_self
          exact authenticates_p256 hdid rfl hworks
  | ed25519 key spelling =>
      obtain rfl := Except.ok.inj hsign
      have hdid : (Ed25519Local key spelling).signerDid ∈
          ed25519Spellings (S.ed25519VerifyingKey key) := by
        cases spelling with
        | didKey => exact List.mem_cons_self
        | didPkh => simp [ed25519Spellings, Ed25519Local]
      exact iff_of_true (authenticates_ed25519 hdid rfl hworks) trivial
  | p256 key spelling =>
      obtain rfl := Except.ok.inj hsign
      have hdid : (P256Local key spelling).signerDid ∈
          p256Spellings (S.p256CompressedPoint key) := by
        cases spelling with
        | didKey => exact List.mem_cons_self
        | didPkh => simp [p256Spellings, P256Local]
      exact authenticates_p256 hdid rfl hworks
  | eip155 key => exact iff_of_true (authenticates_eip155 hworks hsign) trivial
  | mlDsa87 key =>
      obtain rfl := Except.ok.inj hsign
      exact authenticates_mlDsa87 hworks

/-! ## The key one -/

/-- What the secret key one signs the message with, with the nonce of RFC 6979. -/
def unitPair : ℕ × ℕ :=
  (0x6ae5500db19a232f61ae1b6661e7af9ee2b2f36bfe06c3fd106a3fc856b45767,
    0xdd128d19d79c377fd69aeb3426e7b77b11becf8464d1d6992cd6def7fb9ea191)

def unitBuild : Build :=
  { Build.ofTable [] [] with
    p256 := .ofPairs [(basePoint.1, Text.utf8 helloMessage, unitPair)] }

def unitSig : unitBuild.p256.Signature := ⟨unitPair, by decide +kernel⟩

theorem length_fixedBytes_unitPair : (fixedBytes unitPair).length = 64 := by decide +kernel

/-- The key one and the message it signs; no other keys. -/
def unitCrates : SigningCrates unitBuild where
  Ed25519Key := Empty
  ed25519VerifyingKey key := key.elim
  ed25519Sign key := key.elim
  ed25519FromPkcs8Pem _ := .error (text "PEM error")
  P256Key := Unit
  p256CompressedPoint _ := basePoint
  p256Sign _ _ := ⟨fixedBytes unitPair, length_fixedBytes_unitPair⟩
  p256FromPkcs8Pem _ := .error (text "PEM error")
  K256Key := Empty
  k256VerifyingKey key := key.elim
  signPrehashRecoverable key := key.elim
  MlDsaKey := Empty
  mlDsaVerifyingKey key := key.elim
  mlDsaSign key := key.elim

theorem memorySigner_authenticates_unit :
    Authenticates unitBuild (P256Local (S := unitCrates) () .didPkh) helloMessage
      (fixedBytes unitPair) := by
  have hkey : EncodesKey unitBuild.p256 basePoint.1 basePoint.1 :=
    encodesKey_ofPairs (by decide +kernel)
  have hslice : unitBuild.p256.signatureFromSlice (fixedBytes (pairOf unitSig)) = .ok unitSig :=
    signatureFromSlice_fixed (signatureEncodings_ofPairs _)
  have hworks : SignsP256 unitCrates () (Text.utf8 helloMessage) :=
    { verifies := ⟨basePoint.1, unitSig, hkey, hslice, by decide +kernel⟩ }
  have hnone : Der.decode (fixedBytes unitPair) = none := by decide +kernel
  apply (memorySigner_authenticates (S := unitCrates) (.p256 () .didPkh) hworks rfl).mpr
  intro verifyingKey other _ hder
  have hread := ((signatureEncodings_ofPairs _).fromDer_iff _ other).mp hder
  cases hnone.symm.trans hread

end AquaAuth
