import AquaAuth.Proofs.Registry
import AquaAuth.Model.Message
set_option autoImplicit false
/-!
# The identifier line

The identifier of a well-formed DID is a word of letters and digits that starts
with `0` (a hexadecimal key or address) or with `z` (a multibase body), and the
message built for the DID carries it on its second line.
-/

namespace AquaAuth

open Support Support.Result

variable {B : Build} {did : Str} {m : DIDMethod}

/-- A word that starts with `0` or `z`. -/
structure IsIdentifier (s : Str) : Prop where
  alphanumeric : ∀ c ∈ s, c.isAlphanum = true
  start : ∃ rest, s = '0' :: rest ∨ s = 'z' :: rest

/-! ## Alphabets -/

theorem alphanumeric_of_mem_alphabet {c : Char} (h : c ∈ Base58.alphabet) :
    c.isAlphanum = true := by
  have hall : Base58.alphabet.all Char.isAlphanum = true := by decide
  exact List.all_eq_true.mp hall c h

private theorem alphanumeric_of_isDigit {c : Char} (h : Hex.isDigit c = true) :
    c.isAlphanum = true := by
  simp only [Hex.isDigit, Bool.or_eq_true, Bool.and_eq_true, decide_eq_true_eq] at h
  simp only [Char.isAlphanum, Char.isAlpha, Char.isUpper, Char.isLower, Char.isDigit,
    Bool.or_eq_true, Bool.and_eq_true, decide_eq_true_eq]
  rcases h with (⟨h1, h2⟩ | ⟨h1, h2⟩) | ⟨h1, h2⟩
  · exact .inr ⟨h1, h2⟩
  · exact .inl (.inr ⟨h1, le_trans (b := 'f') h2 (by decide)⟩)
  · exact .inl (.inl ⟨h1, le_trans (b := 'F') h2 (by decide)⟩)

theorem alphanumeric_eip55 {keccak256 : Bytes → ByteArr 32} {addr : ByteArr 20} :
    ∀ c ∈ eip55Checksum keccak256 addr, c.isAlphanum = true := by
  have hcases : ∀ n < 16, (Hex.digit n).isAlphanum = true ∧
      (Hex.digit n).toUpper.isAlphanum = true := by decide
  intro c hc
  obtain ⟨i, hi, rfl⟩ := List.mem_mapIdx.mp hc
  obtain ⟨n, hn, hdigit⟩ := Hex.exists_digit_of_mem_encode (List.getElem_mem hi)
  simp only [hdigit]
  split_ifs
  · exact (hcases n hn).1
  · exact (hcases n hn).2
  · exact (hcases n hn).1
  · exact (hcases n hn).2
  · exact (hcases n hn).1

private theorem isIdentifier_hex {s : Str} (h : ∀ c ∈ s, c.isAlphanum = true) :
    IsIdentifier (text "0x" ++ s) where
  alphanumeric := by
    intro c hc
    rcases List.mem_append.mp hc with hc | hc
    · have hall : (text "0x").all Char.isAlphanum = true := by decide
      exact List.all_eq_true.mp hall c hc
    · exact h c hc
  start := ⟨'x' :: s, .inl rfl⟩

private theorem isIdentifier_multibase {body : Str} (h : ∀ c ∈ body, c ∈ Base58.alphabet) :
    IsIdentifier ('z' :: body) where
  alphanumeric := by
    intro c hc
    rcases List.mem_cons.mp hc with rfl | hc
    · decide
    · exact alphanumeric_of_mem_alphabet (h c hc)
  start := ⟨body, .inr rfl⟩

/-! ## Keys in hexadecimal -/

/-- A DID of this prefix and hexadecimal digits, of either case, for the bytes. -/
def SpellsHex (pre did : Str) (bytes : Bytes) : Prop :=
  ∃ hexStr, did = pre ++ hexStr ∧ (∀ c ∈ hexStr, Hex.isDigit c = true) ∧
    Text.asciiLower hexStr = Hex.encode bytes

theorem SpellsHex.length {hexStr : Str} {n : ℕ} {arr : ByteArr n}
    (hdigits : ∀ c ∈ hexStr, Hex.isDigit c = true)
    (hlower : Text.asciiLower hexStr = Hex.encode arr.1) :
    Text.utf8Len hexStr = 2 * n := by
  have hmap : (Text.asciiLower hexStr).length = hexStr.length := List.length_map _
  rw [Hex.utf8Len_of_digits hdigits, ← hmap, hlower, Hex.length_encode, arr.2]

theorem pubkeyFromEd25519Did_eq_ok {D : Dalek} {did : Str} {raw : ByteArr 32} :
    pubkeyFromEd25519Did D did = .ok raw ↔
      SpellsHex (text "did:pkh:ed25519:0x") did raw.1 ∧
        ∃ key, strictVerifyingKey D raw = .ok key := by
  constructor
  · intro h
    obtain ⟨hexStr, hhex, h⟩ := bind_eq_ok.mp h
    obtain ⟨_, _, h⟩ := bind_eq_ok.mp h
    obtain ⟨bytes, hbytes, h⟩ := bind_eq_ok.mp h
    obtain ⟨arr, harr, h⟩ := bind_eq_ok.mp h
    obtain ⟨key, hkey, h⟩ := bind_eq_ok.mp h
    obtain rfl := Except.ok.inj h
    obtain rfl := tryIntoArr_eq_ok.mp harr
    exact ⟨⟨hexStr, Text.stripPrefix_eq_some.mp (okOr_eq_ok.mp hhex),
      Hex.decode_eq_ok.mp (mapError_eq_ok.mp hbytes)⟩, key, hkey⟩
  · rintro ⟨⟨hexStr, rfl, hdigits, hlower⟩, key, hkey⟩
    unfold pubkeyFromEd25519Did
    refine bind_eq_ok.mpr ⟨hexStr, okOr_eq_ok.mpr (Text.stripPrefix_append _ _), ?_⟩
    refine bind_eq_ok.mpr ⟨(), ensure_eq_ok.mpr (SpellsHex.length hdigits hlower), ?_⟩
    refine bind_eq_ok.mpr ⟨raw.1, mapError_eq_ok.mpr (Hex.decode_eq_ok.mpr ⟨hdigits, hlower⟩), ?_⟩
    refine bind_eq_ok.mpr ⟨raw, tryIntoArr_eq_ok.mpr rfl, ?_⟩
    exact bind_eq_ok.mpr ⟨key, hkey, rfl⟩

theorem pubkeyFromP256Did_eq_ok {did : Str} {raw : ByteArr 33} :
    pubkeyFromP256Did did = .ok raw ↔ SpellsHex (text "did:pkh:p256:0x") did raw.1 := by
  constructor
  · intro h
    obtain ⟨hexStr, hhex, h⟩ := bind_eq_ok.mp h
    obtain ⟨_, _, h⟩ := bind_eq_ok.mp h
    obtain ⟨bytes, hbytes, h⟩ := bind_eq_ok.mp h
    obtain rfl := tryIntoArr_eq_ok.mp h
    exact ⟨hexStr, Text.stripPrefix_eq_some.mp (okOr_eq_ok.mp hhex),
      Hex.decode_eq_ok.mp (mapError_eq_ok.mp hbytes)⟩
  · rintro ⟨hexStr, rfl, hdigits, hlower⟩
    unfold pubkeyFromP256Did
    refine bind_eq_ok.mpr ⟨hexStr, okOr_eq_ok.mpr (Text.stripPrefix_append _ _), ?_⟩
    refine bind_eq_ok.mpr ⟨(), ensure_eq_ok.mpr (SpellsHex.length hdigits hlower), ?_⟩
    refine bind_eq_ok.mpr ⟨raw.1, mapError_eq_ok.mpr (Hex.decode_eq_ok.mpr ⟨hdigits, hlower⟩), ?_⟩
    exact tryIntoArr_eq_ok.mpr rfl

/-! ## The identifier of a well-formed DID -/

/-- The pieces of a `did:pkh`. -/
theorem splitNamespace_eq_ok {ns remainder : Str} :
    splitNamespace did = .ok (ns, remainder) ↔
      did = text "did:pkh:" ++ (ns ++ ':' :: remainder) ∧ ':' ∉ ns := by
  simp only [splitNamespace, bind_eq_ok, okOr_eq_ok, Text.stripPrefix_eq_some,
    Text.splitOnceChar_eq_some]
  constructor
  · rintro ⟨rest, rfl, rfl, hns⟩
    exact ⟨rfl, hns⟩
  · rintro ⟨rfl, hns⟩
    exact ⟨_, rfl, rfl, hns⟩

/-- What `did:pkh` says behind the namespace and its colon. -/
theorem splitNamespace_append {ns : Str} (remainder : Str) (h : ':' ∉ ns) :
    splitNamespace (text "did:pkh:" ++ (ns ++ ':' :: remainder)) = .ok (ns, remainder) :=
  splitNamespace_eq_ok.mpr ⟨rfl, h⟩

theorem pkhAddressForMessage_cases {address : Str}
    (h : pkhAddressForMessage B did = .ok address) :
    ∃ ns remainder, splitNamespace did = .ok (ns, remainder) ∧
      ((ns = text "eip155" ∧ checksummedAddress B.keccak256 did = .ok address) ∨
        (ns = text "ed25519" ∧ address = remainder) ∨
        (ns = text "p256" ∧ address = remainder)) := by
  obtain ⟨⟨ns, remainder⟩, hsplit, h⟩ := bind_eq_ok.mp h
  obtain ⟨suite, hsuite, h⟩ := bind_eq_ok.mp h
  obtain ⟨⟨part, chain⟩, hparts, haddress⟩ := bind_eq_ok.mp h
  refine ⟨ns, remainder, hsplit, ?_⟩
  dsimp only at haddress
  rcases findCipherSuite_cases (okOr_eq_ok.mp hsuite) with ⟨rfl, rfl⟩ | ⟨rfl, rfl⟩ | ⟨rfl, rfl⟩
  · rw [if_pos rfl] at haddress
    exact .inl ⟨rfl, haddress⟩
  · rw [if_neg (by decide)] at haddress
    obtain ⟨rfl, _⟩ := Prod.mk.inj (Except.ok.inj hparts)
    exact .inr (.inl ⟨rfl, (Except.ok.inj haddress).symm⟩)
  · rw [if_neg (by decide)] at haddress
    obtain ⟨rfl, _⟩ := Prod.mk.inj (Except.ok.inj hparts)
    exact .inr (.inr ⟨rfl, (Except.ok.inj haddress).symm⟩)

/-- The address of a `did:pkh` with a key is the text of the key. -/
theorem pkhAddressForMessage_hex {ns remainder : Str}
    (hsplit : splitNamespace did = .ok (ns, remainder))
    (hns : ns = text "ed25519" ∨ ns = text "p256") :
    pkhAddressForMessage B did = .ok remainder := by
  simp only [pkhAddressForMessage, hsplit]
  rcases hns with rfl | rfl <;> rfl

/-- Under `eip155` it is the address with its checksum. -/
theorem pkhAddressForMessage_eip155 {remainder address : Str}
    (hsplit : splitNamespace did = .ok (text "eip155", remainder))
    (h : pkhAddressForMessage B did = .ok address) :
    checksummedAddress B.keccak256 did = .ok address := by
  obtain ⟨ns, _, hsplit', hcases⟩ := pkhAddressForMessage_cases h
  obtain ⟨hns, _⟩ := Prod.mk.inj (Except.ok.inj (hsplit'.symm.trans hsplit))
  rcases hcases with ⟨_, haddress⟩ | ⟨hed25519, _⟩ | ⟨hp256, _⟩
  · exact haddress
  · exact absurd (hed25519.symm.trans hns) (by decide)
  · exact absurd (hp256.symm.trans hns) (by decide)

/-- What the gate found in a `did:pkh` it let past. -/
inductive AdmittedPkh (B : Build) (did : Str) : Prop where
  | eip155 {remainder : Str} {addr : ByteArr 20}
      (hsplit : splitNamespace did = .ok (text "eip155", remainder))
      (haddr : addressFromDid did = .ok addr)
  | ed25519 {hexStr : Str} {key : ByteArr 32}
      (hsplit : splitNamespace did = .ok (text "ed25519", text "0x" ++ hexStr))
      (hkey : pubkeyFromEd25519Did B.dalek did = .ok key)
      (hdecode : Hex.decode hexStr = .ok key.1)
  | p256 {hexStr : Str} {key : ByteArr 33}
      (hsplit : splitNamespace did = .ok (text "p256", text "0x" ++ hexStr))
      (hkey : pubkeyFromP256Did did = .ok key)
      (hdecode : Hex.decode hexStr = .ok key.1)

theorem admittedPkh_of_validatePkh (h : validatePkh B did = .ok ()) : AdmittedPkh B did := by
  obtain ⟨ns, _, hparse⟩ := bind_eq_ok.mp h
  split_ifs at hparse with h1 h2 h3
  · obtain ⟨addr, haddr, _⟩ := map_eq_ok.mp hparse
    obtain ⟨remainder, hstrip, _⟩ := bind_eq_ok.mp haddr
    have hdid := Text.stripPrefix_eq_some.mp (okOr_eq_ok.mp hstrip)
    have hsplit : splitNamespace did = .ok (text "eip155", remainder) := by
      rw [hdid]
      exact @splitNamespace_append (text "eip155") _ (by decide)
    exact .eip155 hsplit haddr
  · obtain ⟨key, hkey, _⟩ := map_eq_ok.mp hparse
    obtain ⟨⟨hexStr, hdid, hspelled⟩, _⟩ := pubkeyFromEd25519Did_eq_ok.mp hkey
    have hsplit : splitNamespace did = .ok (text "ed25519", text "0x" ++ hexStr) := by
      rw [hdid]
      exact @splitNamespace_append (text "ed25519") _ (by decide)
    exact .ed25519 hsplit hkey (Hex.decode_eq_ok.mpr hspelled)
  · obtain ⟨key, hkey, _⟩ := map_eq_ok.mp hparse
    obtain ⟨hexStr, hdid, hspelled⟩ := pubkeyFromP256Did_eq_ok.mp hkey
    have hsplit : splitNamespace did = .ok (text "p256", text "0x" ++ hexStr) := by
      rw [hdid]
      exact @splitNamespace_append (text "p256") _ (by decide)
    exact .p256 hsplit hkey (Hex.decode_eq_ok.mpr hspelled)

private theorem isIdentifier_of_decode {hexStr : Str} {bytes : Bytes}
    (h : Hex.decode hexStr = .ok bytes) : IsIdentifier (text "0x" ++ hexStr) :=
  isIdentifier_hex fun c hc => alphanumeric_of_isDigit (Hex.isDigit_of_decode h c hc)

private theorem pkh_isIdentifier {address : Str} (hvalid : validatePkh B did = .ok ())
    (h : pkhAddressForMessage B did = .ok address) : IsIdentifier address := by
  cases admittedPkh_of_validatePkh hvalid with
  | eip155 hsplit _ =>
      obtain ⟨addr, _, haddress⟩ := bind_eq_ok.mp (pkhAddressForMessage_eip155 hsplit h)
      obtain rfl := Except.ok.inj haddress
      exact isIdentifier_hex alphanumeric_eip55
  | ed25519 hsplit _ hdecode =>
      obtain rfl := Except.ok.inj (h.symm.trans (pkhAddressForMessage_hex hsplit (.inl rfl)))
      exact isIdentifier_of_decode hdecode
  | p256 hsplit _ hdecode =>
      obtain rfl := Except.ok.inj (h.symm.trans (pkhAddressForMessage_hex hsplit (.inr rfl)))
      exact isIdentifier_of_decode hdecode

private theorem multibase_isIdentifier {zBody : Str}
    (h : validateMultibaseKeyBody B zBody = .ok ()) : IsIdentifier ('z' :: zBody) := by
  obtain ⟨key, hkey, _⟩ := bind_eq_ok.mp h
  exact isIdentifier_multibase (mem_alphabet_of_decodeMultibaseKey hkey)

private theorem aqua_isIdentifier {mh : ByteArr 34} {address : Str}
    (h : Aqua.multihashFromAquaDid did = .ok mh)
    (haddress : Text.stripPrefix (text "did:aqua:") did = some address) :
    IsIdentifier address := by
  obtain ⟨_, _, h⟩ := bind_eq_ok.mp h
  obtain ⟨_, _, h⟩ := bind_eq_ok.mp h
  obtain ⟨rest, hrest, h⟩ := bind_eq_ok.mp h
  obtain ⟨body, hbody, h⟩ := bind_eq_ok.mp h
  obtain ⟨raw, hraw, _⟩ := bind_eq_ok.mp h
  obtain rfl := Option.some.inj (haddress.symm.trans (okOr_eq_ok.mp hrest))
  obtain rfl := Text.stripPrefix_eq_some.mp (okOr_eq_ok.mp hbody)
  exact isIdentifier_multibase (Base58.mem_alphabet_of_decode (mapError_eq_ok.mp hraw))

/-- The identifier of a DID the gate lets past. -/
theorem address_isIdentifier {address : Str} (hm : findDidMethod B did = some m)
    (hvalid : validateDidWellFormed B did = .ok ())
    (h : m.addressForMessage did = .ok address) : IsIdentifier address := by
  rcases findDidMethod_cases hm with ⟨rfl, _⟩ | ⟨rfl, _⟩ | ⟨rfl, _⟩ | ⟨rfl, haqua, _⟩
  · exact pkh_isIdentifier (validateDidWellFormed_pkh hm ▸ hvalid) h
  · rw [validateDidWellFormed_key hm] at hvalid
    obtain ⟨zBody, hbody, hmultibase⟩ := bind_eq_ok.mp hvalid
    have hdid := Text.stripPrefix_eq_some.mp (okOr_eq_ok.mp hbody)
    have haddress : okOr (CryptoError.invalidDid did) (Text.stripPrefix (text "did:key:") did) =
        .ok address := h
    have haddress := Text.stripPrefix_eq_some.mp (okOr_eq_ok.mp haddress)
    obtain rfl : 'z' :: zBody = address :=
      (List.append_right_inj (text "did:key:")).mp (hdid.symm.trans haddress)
    exact multibase_isIdentifier hmultibase
  · rw [validateDidWellFormed_peer hm] at hvalid
    obtain ⟨zBody, hbody, hmultibase⟩ := bind_eq_ok.mp hvalid
    obtain ⟨body, hbody', haddress⟩ := bind_eq_ok.mp h
    obtain rfl := Except.ok.inj (hbody.symm.trans hbody')
    obtain rfl := Except.ok.inj haddress
    exact multibase_isIdentifier hmultibase
  · obtain ⟨mh, hmh, h⟩ := bind_eq_ok.mp h
    exact aqua_isIdentifier hmh (okOr_eq_ok.mp h)

end AquaAuth
