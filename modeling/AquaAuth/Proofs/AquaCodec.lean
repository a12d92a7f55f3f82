import AquaAuth.Model.Aqua
import AquaAuth.Support.LeadingDigits
import AquaAuth.Support.Slice
set_option autoImplicit false
/-!
# The did:aqua codec

The strings `multihash_from_aqua_did` accepts are the encodings of the digests, and a DID binds
one key.
-/

namespace AquaAuth.Aqua

open Support Support.Result

/-- The multihash of a digest. -/
def multihash (digest : ByteArr 32) : Bytes := multihashSha2256 :: multihashDigestLen :: digest.1

/-- The DID that spells a digest. -/
def didOfDigest (digest : ByteArr 32) : Str := text "did:aqua:z" ++ Base58.encode (multihash digest)

theorem length_multihash (digest : ByteArr 32) : (multihash digest).length = 34 := by
  rw [multihash, List.length_cons, List.length_cons, digest.2]

/-! ## Length and prefix -/

/-- The body of every DID is `Qm` and 44 digits. -/
theorem encode_multihash (digest : ByteArr 32) :
    ∃ tail : Str, tail.length = 44 ∧ Base58.encode (multihash digest) = text "Qm" ++ tail := by
  obtain ⟨tail, hlen, htail⟩ := Base58.encode_leading (x := multihashSha2256)
    [multihashDigestLen] digest.1 (by decide) 44 1378 (by decide)
    (by rw [digest.2]; decide +kernel) (by rw [digest.2]; decide +kernel)
  have hchars : Base58.chars (Nat.digits 58 1378).reverse = text "Qm" := by decide +kernel
  rw [hchars] at htail
  exact ⟨tail, hlen, htail⟩

theorem length_encode_multihash (digest : ByteArr 32) :
    (Base58.encode (multihash digest)).length = 46 := by
  obtain ⟨tail, hlen, htail⟩ := encode_multihash digest
  rw [htail, List.length_append, hlen]
  rfl

theorem prefix_didOfDigest (digest : ByteArr 32) : text "did:aqua:zQm" <+: didOfDigest digest := by
  obtain ⟨tail, _, htail⟩ := encode_multihash digest
  refine ⟨tail, ?_⟩
  rw [didOfDigest, htail]
  rfl

theorem isAscii_of_alphabet {s : Str} (h : ∀ c ∈ s, c ∈ Base58.alphabet) :
    Text.isAscii s = true := by
  have halphabet : Text.isAscii Base58.alphabet = true := by decide +kernel
  rw [Text.isAscii, List.all_eq_true] at halphabet ⊢
  intro c hc
  exact halphabet c (h c hc)

theorem utf8Len_didOfDigest (digest : ByteArr 32) :
    Text.utf8Len (didOfDigest digest) = didAquaLen := by
  have hascii := isAscii_of_alphabet (s := Base58.encode (multihash digest))
    Base58.mem_alphabet_of_mem_encode
  rw [didOfDigest, Text.utf8Len_append, Text.utf8Len_of_isAscii hascii, length_encode_multihash]
  rfl

/-- A body of 46 digits for a sha2-256 multihash has a digest of 32 bytes. -/
theorem length_of_encode {rest : Bytes}
    (h : (Base58.encode (multihashSha2256 :: multihashDigestLen :: rest)).length = 46) :
    rest.length = 32 := by
  have hlow : 58 ^ 45 ≤
      Radix.value 256 ((multihashSha2256 :: multihashDigestLen :: rest).map UInt8.toNat) :=
    (Base58.lt_length_encode (by decide)).mp (by omega)
  have hhigh : ¬ 58 ^ 46 ≤
      Radix.value 256 ((multihashSha2256 :: multihashDigestLen :: rest).map UInt8.toNat) := by
    intro hle
    have hlt := (Base58.lt_length_encode (by decide)).mpr hle
    omega
  have hrest : ∀ y ∈ rest.map UInt8.toNat, y < 256 := by
    intro y hy
    obtain ⟨c, _, rfl⟩ := List.mem_map.mp hy
    exact c.toNat_lt
  obtain ⟨hge, hlt⟩ := Radix.value_bounds [0x12, 0x20] (by decide) hrest
  rw [List.length_map] at hge hlt
  have hvalue : Radix.value 256 [0x12, 0x20] = 0x1220 := by decide
  rw [hvalue] at hge hlt
  have hnum : (multihashSha2256 :: multihashDigestLen :: rest).map UInt8.toNat =
      [0x12, 0x20] ++ rest.map UInt8.toNat := rfl
  rw [hnum] at hlow hhigh
  rcases Nat.lt_trichotomy rest.length 32 with hshort | hlen | hlong
  · have hpow : 256 ^ rest.length ≤ 256 ^ 31 := Nat.pow_le_pow_right (by decide) (by omega)
    have hmax : (0x1220 + 1) * 256 ^ 31 < 58 ^ 45 := by decide +kernel
    omega
  · exact hlen
  · have hpow : 256 ^ 33 ≤ 256 ^ rest.length := Nat.pow_le_pow_right (by decide) (by omega)
    have hmin : 58 ^ 46 ≤ 0x1220 * 256 ^ 33 := by decide +kernel
    omega

/-! ## Acceptance -/

/-- Base58 digits are none of the forbidden characters. -/
theorem alphabet_allowed :
    ∀ c ∈ text "did:aqua:z" ++ Base58.alphabet, c ≠ '/' ∧ c ≠ '?' ∧ c ≠ '#' ∧ c ≠ ';' := by
  have hall : (text "did:aqua:z" ++ Base58.alphabet).all
      (fun c => c ≠ '/' ∧ c ≠ '?' ∧ c ≠ '#' ∧ c ≠ ';') = true := by decide +kernel
  intro c hc
  exact of_decide_eq_true (List.all_eq_true.mp hall c hc)

theorem didOfDigest_allowed (digest : ByteArr 32) :
    ∀ c ∈ didOfDigest digest, c ≠ '/' ∧ c ≠ '?' ∧ c ≠ '#' ∧ c ≠ ';' := by
  intro c hc
  apply alphabet_allowed c
  rcases List.mem_append.mp hc with hc | hc
  · exact List.mem_append_left _ hc
  · exact List.mem_append_right _ (Base58.mem_alphabet_of_mem_encode c hc)

/-- A body that decodes to a sha2-256 multihash is 34 bytes long. -/
theorem length_of_decode {did rest body : Str} {raw : Bytes}
    (hlen : Text.utf8Len did = didAquaLen)
    (hrest : Text.stripPrefix (text "did:aqua:") did = some rest)
    (hbody : Text.stripPrefix (text "z") rest = some body) (hraw : Base58.decode body = .ok raw)
    (hcode : raw[0]? = some multihashSha2256) (hdigest : raw[1]? = some multihashDigestLen) :
    ∃ digest : ByteArr 32, raw = multihash digest ∧ did = didOfDigest digest := by
  obtain ⟨_, bytes, rfl⟩ : ∃ a b, raw = a :: b := by
    cases raw with
    | nil => cases hcode
    | cons a b => exact ⟨a, b, rfl⟩
  obtain rfl := Option.some.inj hcode
  obtain ⟨_, bytes, rfl⟩ : ∃ a b, bytes = a :: b := by
    cases bytes with
    | nil => cases hdigest
    | cons a b => exact ⟨a, b, rfl⟩
  obtain rfl := Option.some.inj hdigest
  have hdid := Text.stripPrefix_eq_some.mp hrest
  have hz := Text.stripPrefix_eq_some.mp hbody
  have hencode := Base58.encode_of_decode hraw
  have hascii := isAscii_of_alphabet (Base58.mem_alphabet_of_decode hraw)
  subst hz
  subst hdid
  rw [Text.utf8Len_append, Text.utf8Len_append, Text.utf8Len_of_isAscii hascii] at hlen
  have hprefix : Text.utf8Len (text "did:aqua:") + (Text.utf8Len (text "z") + 46) = didAquaLen :=
    rfl
  have hbytes : bytes.length = 32 := by
    apply length_of_encode
    rw [hencode]
    omega
  refine ⟨⟨bytes, hbytes⟩, rfl, ?_⟩
  rw [didOfDigest, multihash, hencode]
  rfl

theorem multihashFromAquaDid_didOfDigest (digest : ByteArr 32) :
    multihashFromAquaDid (didOfDigest digest) =
      .ok ⟨multihash digest, length_multihash digest⟩ := by
  have hrest : Text.stripPrefix (text "did:aqua:") (didOfDigest digest) =
      some (text "z" ++ Base58.encode (multihash digest)) :=
    Text.stripPrefix_append (text "did:aqua:") (text "z" ++ Base58.encode (multihash digest))
  have hcode : (multihash digest)[0]? = some multihashSha2256 := rfl
  have hdigest : (multihash digest)[1]? = some multihashDigestLen := rfl
  rw [multihashFromAquaDid, ensure_pos (didOfDigest_allowed digest), ok_bind,
    ensure_pos (utf8Len_didOfDigest digest), ok_bind, hrest, okOr_some, ok_bind,
    Text.stripPrefix_append, okOr_some, ok_bind, Base58.decode_encode]
  simp only [Except.mapError, ok_bind, ensure_pos hcode, ensure_pos hdigest]
  exact dif_pos (length_multihash digest)

/-- The accepted strings. -/
theorem multihashFromAquaDid_eq_ok {did : Str} {mh : ByteArr 34} :
    multihashFromAquaDid did = .ok mh ↔
      ∃ digest, did = didOfDigest digest ∧ mh.1 = multihash digest := by
  constructor
  · intro h
    obtain ⟨_, _, h⟩ := bind_eq_ok.mp h
    obtain ⟨_, hlen, h⟩ := bind_eq_ok.mp h
    obtain ⟨rest, hrest, h⟩ := bind_eq_ok.mp h
    obtain ⟨body, hbody, h⟩ := bind_eq_ok.mp h
    obtain ⟨raw, hraw, h⟩ := bind_eq_ok.mp h
    obtain ⟨_, hcode, h⟩ := bind_eq_ok.mp h
    obtain ⟨_, hdigest, h⟩ := bind_eq_ok.mp h
    obtain ⟨digest, hmultihash, hdid⟩ := length_of_decode (ensure_eq_ok.mp hlen)
      (okOr_eq_ok.mp hrest) (okOr_eq_ok.mp hbody) (mapError_eq_ok.mp hraw) (ensure_eq_ok.mp hcode)
      (ensure_eq_ok.mp hdigest)
    exact ⟨digest, hdid, by rw [tryIntoArr_eq_ok.mp h, hmultihash]⟩
  · rintro ⟨digest, rfl, hmh⟩
    rw [multihashFromAquaDid_didOfDigest]
    exact congrArg Except.ok (Subtype.ext hmh.symm)

/-- The last guard never fails. -/
theorem multihashFromAquaDid_guard (did : Str) :
    multihashFromAquaDid did ≠ .error (bad (text "multihash is not 34 bytes")) := by
  have hbad : ∀ why : String, why.toList ≠ "multihash is not 34 bytes".toList →
      bad (text why) ≠ bad (text "multihash is not 34 bytes") := by
    intro why hne heq
    exact hne (List.append_cancel_left (CryptoError.invalidDid.inj heq))
  intro h
  rcases bind_eq_error.mp h with h | ⟨_, _, h⟩
  · exact absurd (ensure_eq_error.mp h).2 (hbad _ (by decide +kernel))
  rcases bind_eq_error.mp h with h | ⟨_, hlen, h⟩
  · have htext := List.append_cancel_left (CryptoError.invalidDid.inj (ensure_eq_error.mp h).2)
    have hhead : 'w' = 'm' := Option.some.inj (congrArg List.head? htext)
    exact absurd hhead (by decide)
  rcases bind_eq_error.mp h with h | ⟨rest, hrest, h⟩
  · exact absurd (okOr_eq_error.mp h).2 (hbad _ (by decide +kernel))
  rcases bind_eq_error.mp h with h | ⟨body, hbody, h⟩
  · exact absurd (okOr_eq_error.mp h).2 (hbad _ (by decide +kernel))
  rcases bind_eq_error.mp h with h | ⟨raw, hraw, h⟩
  · obtain ⟨_, _, heq⟩ := mapError_eq_error.mp h
    exact absurd heq (hbad _ (by decide +kernel))
  rcases bind_eq_error.mp h with h | ⟨_, hcode, h⟩
  · exact absurd (ensure_eq_error.mp h).2 (hbad _ (by decide +kernel))
  rcases bind_eq_error.mp h with h | ⟨_, hdigest, h⟩
  · exact absurd (ensure_eq_error.mp h).2 (hbad _ (by decide +kernel))
  obtain ⟨digest, rfl, _⟩ := length_of_decode (ensure_eq_ok.mp hlen) (okOr_eq_ok.mp hrest)
    (okOr_eq_ok.mp hbody) (mapError_eq_ok.mp hraw) (ensure_eq_ok.mp hcode) (ensure_eq_ok.mp hdigest)
  have hok := tryIntoArr_eq_ok (e := bad (text "multihash is not 34 bytes")).mpr
    (rfl : (⟨multihash digest, length_multihash digest⟩ : ByteArr 34).1 = multihash digest)
  rw [hok] at h
  cases h

theorem didOfDigest_injective {digest digest' : ByteArr 32}
    (h : didOfDigest digest = didOfDigest digest') : digest = digest' := by
  have hbytes := Base58.encode_injective (List.append_cancel_left h)
  exact Subtype.ext (List.cons.inj (List.cons.inj hbytes).2).2

/-! ## Keys -/

section

variable (sha256 : Bytes → ByteArr 32)

theorem aquaDidFromPubkey_eq (pubkey : Bytes) :
    aquaDidFromPubkey sha256 pubkey = didOfDigest (sha256 (Text.utf8 (jwk pubkey))) := rfl

/-- A DID binds the keys that it is the DID of. -/
theorem aquaDidBindsPubkey_eq_true {did : Str} {pubkey : Bytes} :
    aquaDidBindsPubkey sha256 did pubkey = .ok true ↔ did = aquaDidFromPubkey sha256 pubkey := by
  have hderived := multihashFromAquaDid_didOfDigest (sha256 (Text.utf8 (jwk pubkey)))
  rw [aquaDidBindsPubkey, aquaDidFromPubkey_eq, hderived]
  constructor
  · intro h
    obtain ⟨mh, hmh, hclaimed⟩ := bind_eq_ok.mp h
    obtain ⟨digest, rfl, hbytes⟩ := multihashFromAquaDid_eq_ok.mp hmh
    rw [ok_bind, pure_eq_ok] at hclaimed
    have hsame : decide (mh = ⟨multihash (sha256 (Text.utf8 (jwk pubkey))), length_multihash _⟩) =
        true := Except.ok.inj hclaimed
    rw [of_decide_eq_true hsame] at hbytes
    rw [didOfDigest, didOfDigest, ← hbytes]
  · rintro rfl
    rw [hderived, ok_bind, ok_bind, pure_eq_ok, decide_eq_true rfl]

theorem jwk_injective {pubkey pubkey' : Bytes} (h : jwk pubkey = jwk pubkey') :
    pubkey = pubkey' := by
  unfold jwk at h
  rw [List.append_left_inj, List.append_right_inj] at h
  have hdecode := congrArg (Base64.decodeNoPad Base64.urlSafe) h
  rw [Base64.decodeNoPad_encodeNoPad Base64.urlSafe_alphabet,
    Base64.decodeNoPad_encodeNoPad Base64.urlSafe_alphabet] at hdecode
  exact Option.some.inj hdecode

/-- The codec of `did:aqua` under a hash function. -/
structure Codec : Prop where
  accepts : ∀ did mh, multihashFromAquaDid did = .ok mh ↔
    ∃ digest : ByteArr 32, did = text "did:aqua:z" ++ Base58.encode (0x12 :: 0x20 :: digest.1) ∧
      mh.1 = 0x12 :: 0x20 :: digest.1
  injective : ∀ did did' mh,
    multihashFromAquaDid did = .ok mh → multihashFromAquaDid did' = .ok mh →
    did = did'
  shape : ∀ did mh, multihashFromAquaDid did = .ok mh →
    did.length = 56 ∧ Text.utf8Len did = 56 ∧ text "did:aqua:zQm" <+: did
  guard : ∀ did, multihashFromAquaDid did ≠ .error (bad (text "multihash is not 34 bytes"))
  accepted : ∀ pubkey, ∃ mh, multihashFromAquaDid (aquaDidFromPubkey sha256 pubkey) = .ok mh
  binds : ∀ did pubkey,
    aquaDidBindsPubkey sha256 did pubkey = .ok true ↔ did = aquaDidFromPubkey sha256 pubkey
  bindsOne : ∀ did pubkey pubkey', pubkey.length = 2592 → pubkey'.length = 2592 →
    (sha256 (Text.utf8 (jwk pubkey)) = sha256 (Text.utf8 (jwk pubkey')) →
      jwk pubkey = jwk pubkey') →
      aquaDidBindsPubkey sha256 did pubkey = .ok true →
        aquaDidBindsPubkey sha256 did pubkey' = .ok true → pubkey = pubkey'

/-- The codec is a bijection with its grammar, and a DID binds one key. -/
theorem codec_bijective : Codec sha256 where
  accepts did mh := multihashFromAquaDid_eq_ok
  injective did did' mh h h' := by
    obtain ⟨digest, rfl, hmh⟩ := multihashFromAquaDid_eq_ok.mp h
    obtain ⟨digest', rfl, hmh'⟩ := multihashFromAquaDid_eq_ok.mp h'
    rw [didOfDigest, didOfDigest, ← hmh, ← hmh']
  shape did mh h := by
    obtain ⟨digest, rfl, _⟩ := multihashFromAquaDid_eq_ok.mp h
    refine ⟨?_, utf8Len_didOfDigest digest, prefix_didOfDigest digest⟩
    rw [didOfDigest, List.length_append, length_encode_multihash]
    rfl
  guard := multihashFromAquaDid_guard
  accepted pubkey := ⟨_, multihashFromAquaDid_didOfDigest (sha256 (Text.utf8 (jwk pubkey)))⟩
  binds did pubkey := aquaDidBindsPubkey_eq_true sha256
  bindsOne did pubkey pubkey' _ _ hsha256 h h' := by
    rw [aquaDidBindsPubkey_eq_true] at h h'
    apply jwk_injective
    apply hsha256
    apply didOfDigest_injective
    rw [← aquaDidFromPubkey_eq, ← aquaDidFromPubkey_eq, ← h, ← h']

end

end AquaAuth.Aqua
