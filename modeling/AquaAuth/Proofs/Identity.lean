import AquaAuth.Model.Session
import AquaAuth.Proofs.EthereumSignatures
import AquaAuth.Proofs.Gate
import AquaAuth.Proofs.SignatureEncodings
import AquaAuth.Proofs.Spelling
set_option autoImplicit false
/-!
# One key, one identity

An identity is a DID compared as a string, while a login compares keys that the DID is decoded to.
Within a family of spellings a key has one identity where its decoder takes one text to the key:
there are no letters in the hexadecimal digits, no second encoding of the point, no room between
the chain and the address.
-/

namespace AquaAuth

open Support Support.Result

/-! ## Hexadecimal spellings -/

def WithoutLetters (pre did : Str) : Prop :=
  ∀ hexStr, did = pre ++ hexStr → ∀ c ∈ hexStr, c.isAlpha = false

/-- The other case of a letter. -/
def flipCase (c : Char) : Char := if c.isUpper then c.toLower else c.toUpper

theorem flipCase_spec {c : Char} (h : Hex.isDigit c = true) :
    Hex.isDigit (flipCase c) = true ∧ (flipCase c).toLower = c.toLower ∧
      (c.isAlpha = true → flipCase c ≠ c) := by
  have hall : ∀ n < 128, Hex.isDigit (Char.ofNat n) = true →
      Hex.isDigit (flipCase (Char.ofNat n)) = true ∧
        (flipCase (Char.ofNat n)).toLower = (Char.ofNat n).toLower ∧
          ((Char.ofNat n).isAlpha = true → flipCase (Char.ofNat n) ≠ Char.ofNat n) := by
    decide +kernel
  have hlt : c.toNat < 128 := by
    simp only [Hex.isDigit, Bool.or_eq_true, Bool.and_eq_true, decide_eq_true_eq, Char.le_def,
      UInt32.le_iff_toNat_le] at h
    change c.val.toNat < 128
    have hbounds : ('9'.val.toNat = 57 ∧ 'f'.val.toNat = 102) ∧ 'F'.val.toNat = 70 := by decide
    omega
  have hc := hall c.toNat hlt
  rw [Char.ofNat_toNat] at hc
  exact hc h

theorem SpellsHex.flip {pre hexStr : Str} {bytes : Bytes}
    (h : SpellsHex pre (pre ++ hexStr) bytes) :
    SpellsHex pre (pre ++ hexStr.map flipCase) bytes := by
  obtain ⟨hexStr', heq, hdigits, hlower⟩ := h
  obtain rfl := List.append_cancel_left heq
  refine ⟨_, rfl, ?_, ?_⟩
  · rw [List.forall_mem_map]
    exact fun c hc => (flipCase_spec (hdigits c hc)).1
  · rw [← hlower, Text.asciiLower, List.map_map]
    exact List.map_congr_left fun c hc => (flipCase_spec (hdigits c hc)).2.1

/-- The bytes have one hexadecimal spelling exactly when it has no letters. -/
theorem SpellsHex.sole_iff {pre did : Str} {bytes : Bytes} (h : SpellsHex pre did bytes) :
    (∀ did', SpellsHex pre did' bytes → did' = did) ↔ WithoutLetters pre did := by
  constructor
  · rintro hsole hexStr rfl c hc
    have hsame := List.append_cancel_left (hsole _ h.flip)
    have hfixed : ∀ d ∈ hexStr, flipCase d = id d := by
      rw [← List.map_inj_left, hsame, List.map_id]
    obtain ⟨hexStr', heq, hdigits, _⟩ := h
    obtain rfl := List.append_cancel_left heq
    rw [← Bool.not_eq_true]
    exact fun hletter => (flipCase_spec (hdigits c hc)).2.2 hletter (hfixed c hc)
  · rintro hletters did' ⟨hexStr', rfl, _, hlower'⟩
    obtain ⟨hexStr, rfl, _, hlower⟩ := h
    rw [Text.asciiLower_of_not_isAlpha (hletters hexStr rfl)] at hlower
    have hother : ∀ c ∈ hexStr', c.isAlpha = false := by
      intro c hc
      have hmem : c.toLower ∈ hexStr := by
        rw [hlower, ← hlower']
        exact List.mem_map_of_mem hc
      rw [← Char.isAlpha_toLower_eq_isAlpha]
      exact hletters hexStr rfl _ hmem
    rw [Text.asciiLower_of_not_isAlpha hother] at hlower'
    rw [hlower', hlower]

theorem SpellsHex.encode (pre : Str) (bytes : Bytes) :
    SpellsHex pre (pre ++ Hex.encode bytes) bytes :=
  have h := Hex.decode_eq_ok.mp (Hex.decode_encode bytes)
  ⟨_, rfl, h.1, h.2⟩

/-! ## Families of spellings -/

/-- The spelling families, `did:pkh:eip155` with one chain id each. -/
inductive Family where
  | didKey
  | pkhEd25519
  | pkhP256
  | pkhEip155 (chain : Str)

/-- A public key: a point of the curve, or the address that stands for one. -/
inductive PublicKey (B : Build) where
  | ed25519 (point : B.dalek.EdwardsPoint)
  | p256 (key : B.p256.VerifyingKey)
  | address (addr : ByteArr 20)

/-- The DID is of the family and is decoded to the key. -/
inductive Spells (B : Build) : Family → Str → PublicKey B → Prop where
  | keyEd25519 {zBody : Str} {raw : ByteArr 32} {point : B.dalek.EdwardsPoint} :
      decodeMultibaseKey B.dalek zBody = .ok (.ed25519 raw.1) →
      B.dalek.decompress raw = some point →
      Spells B .didKey (text "did:key:z" ++ zBody) (.ed25519 point)
  | keyP256 {zBody : Str} {raw : Bytes} {key : B.p256.VerifyingKey} :
      decodeMultibaseKey B.dalek zBody = .ok (.p256 raw) → EncodesKey B.p256 raw key →
      Spells B .didKey (text "did:key:z" ++ zBody) (.p256 key)
  | pkhEd25519 {did : Str} {raw : ByteArr 32} {point : B.dalek.EdwardsPoint} :
      pubkeyFromEd25519Did B.dalek did = .ok raw → B.dalek.decompress raw = some point →
      Spells B .pkhEd25519 did (.ed25519 point)
  | pkhP256 {did : Str} {raw : ByteArr 33} {key : B.p256.VerifyingKey} :
      pubkeyFromP256Did did = .ok raw → EncodesKey B.p256 raw.1 key →
      Spells B .pkhP256 did (.p256 key)
  | pkhEip155 {chain rest : Str} {addr : ByteArr 20} : ':' ∉ chain →
      addressFromDid (text "did:pkh:eip155:" ++ (chain ++ ':' :: rest)) = .ok addr →
      Spells B (.pkhEip155 chain) (text "did:pkh:eip155:" ++ (chain ++ ':' :: rest)) (.address addr)

/-- Some login under the DID succeeds. -/
def Accepted (B : Build) (did : Str) : Prop :=
  ∃ message signature publicKey principal,
    authenticateWithPublicKey B did message signature publicKey = .ok principal

/-- Two DIDs are one identity to the server. -/
structure OneIdentity (B : Build) (did did' : Str) : Prop where
  same : did' = did
  principal : ∀ p p' : Principal B, p.did = did → p'.did = did' → p' = p
  quota : ∀ store : SessionStore, store.enforcePerDidCap did' = store.enforcePerDidCap did
  revocation : ∀ store : SessionStore, store.revokeAllForDid did' = store.revokeAllForDid did

/-- `p256` reads the key from one compressed encoding only. -/
def OneEncoding (P : P256) (key : P.VerifyingKey) : Prop :=
  ∀ raw raw' : ByteArr 33, EncodesKey P raw.1 key → EncodesKey P raw'.1 key → raw' = raw

/-- The decoder of the family takes no other text to the key of the DID. -/
def SoleSpelling {B : Build} : Family → Str → PublicKey B → Prop
  | .didKey, _, .ed25519 _ => True
  | .didKey, _, .p256 key => OneEncoding B.p256 key
  | .pkhEd25519, did, _ => WithoutLetters (text "did:pkh:ed25519:0x") did
  | .pkhP256, did, .p256 key =>
      WithoutLetters (text "did:pkh:p256:0x") did ∧ OneEncoding B.p256 key
  | _, _, _ => False

variable {B : Build} {did did' : Str}

theorem oneIdentity_iff : OneIdentity B did did' ↔ did' = did := by
  constructor
  · exact OneIdentity.same
  · rintro rfl
    refine ⟨rfl, ?_, fun _ => rfl, fun _ => rfl⟩
    rintro ⟨_, _⟩ ⟨_, _⟩ rfl rfl
    rfl

/-! ## Logins -/

theorem accepted_iff {m : DIDMethod} (hm : findDidMethod B did = some m) :
    Accepted B did ↔ validateDidWellFormed B did = .ok () ∧ ∃ message signature publicKey,
      m.verifyWithPublicKey did message signature publicKey = .ok true := by
  constructor
  · rintro ⟨message, signature, publicKey, principal, h⟩
    obtain ⟨hverify, hdid⟩ := authenticateWithPublicKey_eq_ok.mp h
    obtain ⟨m', hm', hverify⟩ := bind_eq_ok.mp hverify
    obtain rfl := Option.some.inj (hm.symm.trans (okOr_eq_ok.mp hm'))
    exact ⟨hdid ▸ principal.wellFormed, message, signature, publicKey, hverify⟩
  · rintro ⟨hgate, message, signature, publicKey, hverify⟩
    refine ⟨message, signature, publicKey, ⟨did, hgate⟩, ?_⟩
    apply authenticateWithPublicKey_eq_ok.mpr
    exact ⟨bind_eq_ok.mpr ⟨m, okOr_eq_ok.mpr hm, hverify⟩, rfl⟩

/-- Under a `did:pkh` a login succeeds when a signature verifies; the gate asks nothing more. -/
theorem accepted_pkh {ns remainder : Str} {suite : CipherSuite} (hns : ':' ∉ ns)
    (hsuite : findCipherSuite B ns = some suite)
    (hdid : did = text "did:pkh:" ++ (ns ++ ':' :: remainder)) :
    Accepted B did ↔ ∃ message signature, suite.verify did message signature = .ok true := by
  have hm : findDidMethod B did = some (pkhMethod B) := hdid ▸ findDidMethod_pkh _
  have hverify : ∀ message signature,
      (pkhMethod B).verify did message signature = suite.verify did message signature := by
    intro message signature
    simp only [pkhMethod, hdid, splitNamespace_append remainder hns, ok_bind, hsuite, okOr_some]
  rw [accepted_iff hm]
  constructor
  · rintro ⟨_, message, signature, _, h⟩
    exact ⟨message, signature, (hverify message signature).symm.trans h⟩
  · rintro ⟨message, signature, h⟩
    have hpkh := (hverify message signature).trans h
    exact ⟨pkh_wellFormed_of_verify hm hpkh, message, signature, none, hpkh⟩

theorem accepted_key {zBody : Str} :
    Accepted B (text "did:key:z" ++ zBody) ↔ validateMultibaseKeyBody B zBody = .ok () ∧
      ∃ key message signature, decodeMultibaseKey B.dalek zBody = .ok key ∧
        verifyWithKey B key message signature = .ok true := by
  have hm : findDidMethod B (text "did:key:z" ++ zBody) = some (keyMethod B) :=
    findDidMethod_key ('z' :: zBody)
  rw [accepted_iff hm, validateDidWellFormed_key hm, Text.stripPrefix_append, okOr_some, ok_bind]
  refine and_congr_right fun _ => ?_
  constructor
  · rintro ⟨message, signature, _, h⟩
    obtain ⟨zBody', hbody, h⟩ := bind_eq_ok.mp h
    rw [Text.stripPrefix_append, okOr_some] at hbody
    obtain rfl := Except.ok.inj hbody
    obtain ⟨key, hkey, h⟩ := bind_eq_ok.mp h
    exact ⟨key, message, signature, hkey, h⟩
  · rintro ⟨key, message, signature, hkey, h⟩
    refine ⟨message, signature, none, bind_eq_ok.mpr ⟨zBody, ?_, bind_eq_ok.mpr ⟨key, hkey, h⟩⟩⟩
    rw [Text.stripPrefix_append, okOr_some]

/-! ## did:key -/

theorem strictVerifyingKey_of_decode {zBody : Str} {raw : ByteArr 32}
    (h : decodeMultibaseKey B.dalek zBody = .ok (.ed25519 raw.1)) :
    ∃ key, strictVerifyingKey B.dalek raw = .ok key := by
  have hzBody := encode_of_decodeMultibaseKey h
  dsimp only at hzBody
  rw [← hzBody, ← multibaseBody, decodeMultibaseKey_ed25519] at h
  cases hkey : strictVerifyingKey B.dalek raw with
  | error e => simp [hkey, Except.map] at h
  | ok key => exact ⟨key, rfl⟩

/-- A strict key is the encoding of its point. -/
theorem compress_of_strict {raw : ByteArr 32} {key : B.dalek.VerifyingKey}
    {point : B.dalek.EdwardsPoint} (h : strictVerifyingKey B.dalek raw = .ok key)
    (hpoint : B.dalek.decompress raw = some point) : B.dalek.compress point = raw := by
  obtain ⟨point', hpoint', h⟩ := bind_eq_ok.mp h
  obtain ⟨_, hcanonical, _⟩ := bind_eq_ok.mp h
  obtain rfl := Option.some.inj (hpoint.symm.trans (okOr_eq_ok.mp hpoint'))
  exact ensure_eq_ok.mp hcanonical

theorem sole_keyEd25519 {zBody zBody' : Str} {raw raw' : ByteArr 32} {point : B.dalek.EdwardsPoint}
    (h : decodeMultibaseKey B.dalek zBody = .ok (.ed25519 raw.1))
    (hpoint : B.dalek.decompress raw = some point)
    (h' : decodeMultibaseKey B.dalek zBody' = .ok (.ed25519 raw'.1))
    (hpoint' : B.dalek.decompress raw' = some point) : zBody' = zBody := by
  obtain ⟨key, hstrict⟩ := strictVerifyingKey_of_decode h
  obtain ⟨key', hstrict'⟩ := strictVerifyingKey_of_decode h'
  have hraw : raw' = raw :=
    (compress_of_strict hstrict' hpoint').symm.trans (compress_of_strict hstrict hpoint)
  rw [← encode_of_decodeMultibaseKey h', ← encode_of_decodeMultibaseKey h, hraw]

/-- The `did:key` of an encoding of the key. -/
theorem accepted_keyP256 {zBody : Str} {raw : Bytes} {key : B.p256.VerifyingKey}
    (h : decodeMultibaseKey B.dalek zBody = .ok (.p256 raw)) (hkey : EncodesKey B.p256 raw key) :
    Accepted B (text "did:key:z" ++ zBody) ↔ raw.length = 33 ∧ ∃ message signature sig,
      p256SignatureFromBytes B.p256 signature = .ok sig ∧
        B.p256.verify key (Text.utf8 message) sig = true := by
  have hgate : validateMultibaseKeyBody B zBody = .ok () ↔ raw.length = 33 := by
    rw [validateMultibaseKeyBody_eq_ok, h]
    simp
  rw [accepted_key, hgate]
  refine and_congr_right fun _ => ?_
  constructor
  · rintro ⟨key', message, signature, hdecode, hverify⟩
    obtain rfl := Except.ok.inj (h.symm.trans hdecode)
    exact ⟨message, signature, (verifyWithKey_eq_true hkey).mp hverify⟩
  · rintro ⟨message, signature, hverify⟩
    exact ⟨_, message, signature, h, (verifyWithKey_eq_true hkey).mpr hverify⟩

theorem sole_keyP256 {zBody : Str} {raw : Bytes} {key : B.p256.VerifyingKey}
    (h : decodeMultibaseKey B.dalek zBody = .ok (.p256 raw)) (hkey : EncodesKey B.p256 raw key)
    (haccepted : Accepted B (text "did:key:z" ++ zBody)) :
    (∀ did', Spells B .didKey did' (.p256 key) → Accepted B did' →
      did' = text "did:key:z" ++ zBody) ↔
      OneEncoding B.p256 key := by
  obtain ⟨hlength, hverified⟩ := (accepted_keyP256 h hkey).mp haccepted
  constructor
  · intro hsole
    have hspelled : ∀ arr : ByteArr 33, EncodesKey B.p256 arr.1 key →
        text "did:key:z" ++ Base58.encode (p256Prefix ++ arr.1) = text "did:key:z" ++ zBody := by
      intro arr harr
      have hdecode := decodeMultibaseKey_p256 B.dalek arr
      exact hsole _ (.keyP256 hdecode harr) ((accepted_keyP256 hdecode harr).mpr ⟨arr.2, hverified⟩)
    intro arr arr' harr harr'
    have hbody := List.append_cancel_left ((hspelled arr' harr').trans (hspelled arr harr).symm)
    exact Subtype.ext (List.append_cancel_left (Base58.encode_injective hbody))
  · intro hone did' hspells' haccepted'
    cases hspells' with
    | keyP256 h' hkey' =>
        obtain ⟨hlength', _⟩ := (accepted_keyP256 h' hkey').mp haccepted'
        have hraw := congrArg Subtype.val (hone ⟨_, hlength⟩ ⟨_, hlength'⟩ hkey hkey')
        dsimp only at hraw
        rw [← encode_of_decodeMultibaseKey h', ← encode_of_decodeMultibaseKey h, hraw]

/-! ## did:pkh -/

theorem accepted_pkhEd25519 {raw : ByteArr 32} (h : pubkeyFromEd25519Did B.dalek did = .ok raw)
    (h' : pubkeyFromEd25519Did B.dalek did' = .ok raw) (haccepted : Accepted B did) :
    Accepted B did' := by
  have hns : ':' ∉ text "ed25519" := by decide
  have hsuite : findCipherSuite B (text "ed25519") = some (ed25519Suite B) := rfl
  obtain ⟨hexStr, hdid, _⟩ := (pubkeyFromEd25519Did_eq_ok.mp h).1
  obtain ⟨hexStr', hdid', _⟩ := (pubkeyFromEd25519Did_eq_ok.mp h').1
  obtain ⟨message, signature, hverify⟩ := (accepted_pkh hns hsuite hdid).mp haccepted
  refine (accepted_pkh hns hsuite hdid').mpr ⟨message, signature, ?_⟩
  have hsame : ed25519Verify B did' message signature = ed25519Verify B did message signature := by
    rw [ed25519Verify, ed25519Verify, h, h']
  exact hsame.trans hverify

theorem sole_pkhEd25519 {raw : ByteArr 32} {point : B.dalek.EdwardsPoint}
    (h : pubkeyFromEd25519Did B.dalek did = .ok raw) (hpoint : B.dalek.decompress raw = some point)
    (haccepted : Accepted B did) :
    (∀ did', Spells B .pkhEd25519 did' (.ed25519 point) → Accepted B did' → did' = did) ↔
      WithoutLetters (text "did:pkh:ed25519:0x") did := by
  obtain ⟨hhex, key, hstrict⟩ := pubkeyFromEd25519Did_eq_ok.mp h
  rw [← hhex.sole_iff]
  constructor
  · intro hsole did' hhex'
    have h' := pubkeyFromEd25519Did_eq_ok.mpr ⟨hhex', key, hstrict⟩
    exact hsole did' (.pkhEd25519 h' hpoint) (accepted_pkhEd25519 h h' haccepted)
  · intro hsole did' hspells' _
    cases hspells' with
    | pkhEd25519 h' hpoint' =>
        obtain ⟨hhex', key', hstrict'⟩ := pubkeyFromEd25519Did_eq_ok.mp h'
        rw [← compress_of_strict hstrict' hpoint', compress_of_strict hstrict hpoint] at hhex'
        exact hsole did' hhex'

theorem accepted_pkhP256 {raw raw' : ByteArr 33} {key : B.p256.VerifyingKey}
    (h : pubkeyFromP256Did did = .ok raw) (hkey : EncodesKey B.p256 raw.1 key)
    (h' : pubkeyFromP256Did did' = .ok raw') (hkey' : EncodesKey B.p256 raw'.1 key)
    (haccepted : Accepted B did) : Accepted B did' := by
  have hns : ':' ∉ text "p256" := by decide
  have hsuite : findCipherSuite B (text "p256") = some (p256Suite B) := rfl
  obtain ⟨hexStr, hdid, _⟩ := pubkeyFromP256Did_eq_ok.mp h
  obtain ⟨hexStr', hdid', _⟩ := pubkeyFromP256Did_eq_ok.mp h'
  obtain ⟨message, signature, hverify⟩ := (accepted_pkh hns hsuite hdid).mp haccepted
  refine (accepted_pkh hns hsuite hdid').mpr ⟨message, signature, ?_⟩
  exact (p256Verify_eq_true h' hkey').mpr ((p256Verify_eq_true h hkey).mp hverify)

theorem sole_pkhP256 {raw : ByteArr 33} {key : B.p256.VerifyingKey}
    (h : pubkeyFromP256Did did = .ok raw) (hkey : EncodesKey B.p256 raw.1 key)
    (haccepted : Accepted B did) :
    (∀ did', Spells B .pkhP256 did' (.p256 key) → Accepted B did' → did' = did) ↔
      WithoutLetters (text "did:pkh:p256:0x") did ∧ OneEncoding B.p256 key := by
  have hhex := pubkeyFromP256Did_eq_ok.mp h
  have hsame : ∀ {raw' : ByteArr 33} {did'}, (∀ did', Spells B .pkhP256 did' (.p256 key) →
      Accepted B did' → did' = did) → EncodesKey B.p256 raw'.1 key →
        SpellsHex (text "did:pkh:p256:0x") did' raw'.1 → did' = did := by
    intro raw' did' hsole hkey' hhex'
    have h' := pubkeyFromP256Did_eq_ok.mpr hhex'
    exact hsole did' (.pkhP256 h' hkey') (accepted_pkhP256 h hkey h' hkey' haccepted)
  constructor
  · intro hsole
    constructor
    · exact hhex.sole_iff.mp fun did' hhex' => hsame hsole hkey hhex'
    · intro arr arr' harr harr'
      have hdid := hsame hsole harr (.encode _ _)
      have hdid' := hsame hsole harr' (.encode _ _)
      exact Subtype.ext (Hex.encode_injective (List.append_cancel_left (hdid'.trans hdid.symm)))
  · rintro ⟨hletters, hone⟩ did' hspells' _
    cases hspells' with
    | pkhP256 h' hkey' =>
        have hhex' := pubkeyFromP256Did_eq_ok.mp h'
        rw [hone _ _ hkey hkey'] at hhex'
        exact hhex.sole_iff.mpr hletters did' hhex'

theorem accepted_pkhEip155 {rest rest' : Str} {addr : ByteArr 20}
    (h : addressFromDid (text "did:pkh:eip155:" ++ rest) = .ok addr)
    (h' : addressFromDid (text "did:pkh:eip155:" ++ rest') = .ok addr)
    (haccepted : Accepted B (text "did:pkh:eip155:" ++ rest)) :
    Accepted B (text "did:pkh:eip155:" ++ rest') := by
  have hns : ':' ∉ text "eip155" := by decide
  have hsuite : findCipherSuite B (text "eip155") = some (eip155Suite B) := rfl
  have hdid : ∀ rest, text "did:pkh:eip155:" ++ rest =
      text "did:pkh:" ++ (text "eip155" ++ ':' :: rest) := fun _ => rfl
  obtain ⟨message, signature, hverify⟩ := (accepted_pkh hns hsuite (hdid rest)).mp haccepted
  refine (accepted_pkh hns hsuite (hdid rest')).mpr ⟨message, signature, ?_⟩
  have hsame : eip155Verify B (text "did:pkh:eip155:" ++ rest') message signature =
      eip155Verify B (text "did:pkh:eip155:" ++ rest) message signature := by
    rw [eip155Verify, eip155Verify, h, h']
  exact hsame.trans hverify

/-- Between the chain and the address another segment may stand. -/
theorem addressFromDid_segment {chain rest : Str} (segment : Str) {addr : ByteArr 20}
    (h : addressFromDid (text "did:pkh:eip155:" ++ (chain ++ ':' :: rest)) = .ok addr) :
    addressFromDid (text "did:pkh:eip155:" ++ (chain ++ ':' :: (segment ++ ':' :: rest))) =
      .ok addr := by
  rw [addressFromDid_eq_ok] at h ⊢
  obtain ⟨_, hexStr, heq, hlast, hspelled⟩ := h
  rw [← List.append_cancel_left heq, Text.lastSegment_append_append] at hlast
  refine ⟨_, hexStr, rfl, ?_, hspelled⟩
  rw [Text.lastSegment_append_append, Text.lastSegment_append_append, hlast]

theorem not_sole_pkhEip155 {chain rest : Str} {addr : ByteArr 20} (hchain : ':' ∉ chain)
    (h : addressFromDid (text "did:pkh:eip155:" ++ (chain ++ ':' :: rest)) = .ok addr)
    (haccepted : Accepted B (text "did:pkh:eip155:" ++ (chain ++ ':' :: rest))) :
    ¬ ∀ did', Spells B (.pkhEip155 chain) did' (.address addr) → Accepted B did' →
      did' = text "did:pkh:eip155:" ++ (chain ++ ':' :: rest) := by
  intro hsole
  have h' := addressFromDid_segment [] h
  have hequal := hsole _ (.pkhEip155 hchain h') (accepted_pkhEip155 h h' haccepted)
  have hlength := congrArg List.length hequal
  simp only [List.length_append, List.length_cons, List.length_nil] at hlength
  omega

/-! ## The families -/

/-- A key has one identity in a family exactly where its decoder takes one text to the key. -/
theorem oneIdentity_iff_soleSpelling {F : Family} {key : PublicKey B} (hkey : Spells B F did key)
    (haccepted : Accepted B did) :
    (∀ did', Spells B F did' key → Accepted B did' → OneIdentity B did did') ↔
      SoleSpelling F did key := by
  simp only [oneIdentity_iff]
  cases hkey with
  | keyEd25519 h hpoint =>
      refine iff_true_intro fun did' hspells' _ => ?_
      cases hspells' with
      | keyEd25519 h' hpoint' => rw [sole_keyEd25519 h hpoint h' hpoint']
  | keyP256 h hkey => exact sole_keyP256 h hkey haccepted
  | pkhEd25519 h hpoint => exact sole_pkhEd25519 h hpoint haccepted
  | pkhP256 h hkey => exact sole_pkhP256 h hkey haccepted
  | pkhEip155 hchain h => exact iff_false_intro (not_sole_pkhEip155 hchain h haccepted)

/-! ### A DID of one address in two spellings -/

def baseAddress : ByteArr 20 := arrOfHex 20 "7e5f4552091a69125d5dfcb7b8c2659029395bdf"

def baseAddressDid (hexStr : Str) : Str :=
  text "did:pkh:eip155:" ++ (text "1" ++ ':' :: (text "0x" ++ hexStr))

theorem spells_baseAddressDid {hexStr : Str}
    (h : addressFromDid (baseAddressDid hexStr) = .ok baseAddress) :
    Spells ethereumBuild (.pkhEip155 (text "1")) (baseAddressDid hexStr) (.address baseAddress) :=
  .pkhEip155 (by decide) h

/-- One wallet logs in under the address in lowercase and under the checksummed one. -/
theorem oneIdentity_checksum_fails :
    ¬ ∀ (B : Build) (F : Family) (did did' : Str) (key : PublicKey B), Spells B F did key →
      Accepted B did → Spells B F did' key → Accepted B did' → OneIdentity B did did' := by
  intro hclaim
  have hns : ':' ∉ text "eip155" := by decide
  have hsuite : findCipherSuite ethereumBuild (text "eip155") = some (eip155Suite ethereumBuild) :=
    rfl
  have haddress :
      addressFromDid (baseAddressDid (text "7e5f4552091a69125d5dfcb7b8c2659029395bdf")) =
      .ok baseAddress := by decide +kernel
  have haddress' :
      addressFromDid (baseAddressDid (text "7E5F4552091A69125d5DfCb7b8C2659029395Bdf")) =
      .ok baseAddress := by decide +kernel
  have hverify : eip155Verify ethereumBuild
      (baseAddressDid (text "7e5f4552091a69125d5dfcb7b8c2659029395bdf")) (text "hello siwx")
        (baseRecoverable ++ [27]) = .ok true := by decide +kernel
  have haccepted := (accepted_pkh hns hsuite rfl).mpr ⟨_, _, hverify⟩
  have haccepted' := accepted_pkhEip155 haddress haddress' haccepted
  have hone := hclaim _ _ _ _ _ (spells_baseAddressDid haddress) haccepted
    (spells_baseAddressDid haddress') haccepted'
  exact absurd hone.same (by decide +kernel)

/-! ### A did:key -/

/-- A signature of the empty message. -/
def emptySigned : Signed where
  key := bytesOfHex "d75a980182b10ab7d54bfed3c964073a0ee172f3daa62325af021a68f707511a"
  message := []
  signature := bytesOfHex ("e5564300c360ac729086e2cc806e828a84877f1eb8e5d974d873e065224901555f" ++
    "b8821590a33bacc61e39701cf9b46bd25bf5f0595bbe24655141438e7a100b")

def emptySigner : ByteArr 32 :=
  arrOfHex 32 "d75a980182b10ab7d54bfed3c964073a0ee172f3daa62325af021a68f707511a"

def emptyBuild : Build := .ofTable [emptySigned] []

theorem oneIdentity_iff_soleSpelling_didKey :
    Accepted emptyBuild (ed25519DidKeyFromPubkey emptySigner) ∧
      ∀ did', Spells emptyBuild .didKey did' (.ed25519 emptySigner) → Accepted emptyBuild did' →
        OneIdentity emptyBuild (ed25519DidKeyFromPubkey emptySigner) did' := by
  have hdecode : decodeMultibaseKey emptyBuild.dalek
      (Base58.encode (ed25519Prefix ++ emptySigner.1)) = .ok (.ed25519 emptySigner.1) :=
    (decodeMultibaseKey_ed25519 emptyBuild.dalek emptySigner).trans (by decide +kernel)
  have hgate : validateMultibaseKeyBody emptyBuild
      (Base58.encode (ed25519Prefix ++ emptySigner.1)) = .ok () :=
    validateMultibaseKeyBody_eq_ok.mpr (.inl ⟨_, hdecode, emptySigner.2⟩)
  have hverify : verifyWithKey emptyBuild (.ed25519 emptySigner.1) [] emptySigned.signature =
      .ok true := by decide +kernel
  have hlisted : emptySigner.1 ∈ [emptySigned].map Signed.key := by decide +kernel
  have hpoint : emptyBuild.dalek.decompress emptySigner = some emptySigner := by
    unfold emptyBuild Build.ofTable Dalek.ofTable
    dsimp only
    rw [if_pos hlisted]
  have haccepted : Accepted emptyBuild (ed25519DidKeyFromPubkey emptySigner) :=
    accepted_key.mpr ⟨hgate, _, [], _, hdecode, hverify⟩
  exact ⟨haccepted,
    (oneIdentity_iff_soleSpelling (.keyEd25519 hdecode hpoint) haccepted).mpr trivial⟩

end AquaAuth
