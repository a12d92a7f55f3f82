import AquaAuth.Model.Webauthn.Select
import AquaAuth.Support.LeadingDigits
import AquaAuth.Proofs.Spelling
set_option autoImplicit false
/-!
# The did:key codec

Encoding and decoding of Ed25519 and P-256 identifiers, and the characters each of them begins
with.
-/

namespace AquaAuth

open Support Support.Result

/-! ## Prefixes -/

theorem encode_ed25519Prefix (pubkey : ByteArr 32) :
    text "6Mk" <+: Base58.encode (ed25519Prefix ++ pubkey.1) := by
  obtain ⟨tail, _, htail⟩ := Base58.encode_leading (x := 0xED) [0x01] pubkey.1
    (by decide) 44 18023 (by decide) (by rw [pubkey.2]; decide +kernel)
    (by rw [pubkey.2]; decide +kernel)
  have hchars : Base58.chars (Nat.digits 58 18023).reverse = text "6Mk" := by decide +kernel
  rw [hchars] at htail
  exact ⟨tail, htail.symm⟩

theorem encode_p256Prefix (pubkey : ByteArr 33) :
    text "Dn" <+: Base58.encode (p256Prefix ++ pubkey.1) := by
  obtain ⟨tail, _, htail⟩ := Base58.encode_leading (x := 0x80) [0x24] pubkey.1
    (by decide) 46 741 (by decide) (by rw [pubkey.2]; decide +kernel)
    (by rw [pubkey.2]; decide +kernel)
  have hchars : Base58.chars (Nat.digits 58 741).reverse = text "Dn" := by decide +kernel
  rw [hchars] at htail
  exact ⟨tail, htail.symm⟩

theorem prefix_ed25519DidKey (pubkey : ByteArr 32) :
    text "did:key:z6Mk" <+: ed25519DidKeyFromPubkey pubkey :=
  (List.prefix_append_right_inj (text "did:key:z")).mpr (encode_ed25519Prefix pubkey)

theorem prefix_p256DidKey (pubkey : ByteArr 33) :
    text "did:key:zDn" <+: p256DidKeyFromPubkey pubkey :=
  (List.prefix_append_right_inj (text "did:key:z")).mpr (encode_p256Prefix pubkey)

/-- The two kinds of identifiers differ. -/
theorem ed25519DidKey_ne_p256DidKey (pubkey : ByteArr 32) (pubkey' : ByteArr 33) :
    ed25519DidKeyFromPubkey pubkey ≠ p256DidKeyFromPubkey pubkey' := by
  intro h
  have hed := prefix_ed25519DidKey pubkey
  rw [h] at hed
  rcases List.prefix_or_prefix_of_prefix hed (prefix_p256DidKey pubkey') with hpre | hpre
  · exact absurd hpre (by decide +kernel)
  · exact absurd hpre (by decide +kernel)

/-! ## Round trips -/

theorem ed25519PubkeyFromDidKey_encode {D : Dalek} {pubkey : ByteArr 32} {key : D.VerifyingKey}
    (h : strictVerifyingKey D pubkey = .ok key) :
    ed25519PubkeyFromDidKey D (ed25519DidKeyFromPubkey pubkey) = .ok pubkey := by
  have hdecode : decodeMultibaseKey D (Base58.encode (ed25519Prefix ++ pubkey.1)) =
      .ok (.ed25519 pubkey.1) := by
    have hbody := decodeMultibaseKey_ed25519 D pubkey
    rw [h] at hbody
    exact hbody
  rw [ed25519PubkeyFromDidKey, ed25519DidKeyFromPubkey, encodeDidKey, Text.stripPrefix_append,
    okOr_some, ok_bind, hdecode, ok_bind]
  exact tryIntoArr_self _ pubkey

section

variable {B : Build} {R : P256Recovery B.p256}

theorem p256PubkeyFromDidKey_encode {pubkey : ByteArr 33} {publicKey : R.PublicKey}
    (h : R.publicKeyFromSec1Bytes pubkey = some publicKey) :
    p256PubkeyFromDidKey B R (p256DidKeyFromPubkey pubkey) = .ok pubkey := by
  rw [p256PubkeyFromDidKey, p256DidKeyFromPubkey, encodeDidKey, Text.stripPrefix_append, okOr_some,
    ok_bind, decodeMultibaseKey_p256, ok_bind]
  simp only [tryIntoArr_self, h, ok_bind, okOr_some, pure_eq_ok]

theorem p256DidKey_of_decode {did : Str} {pubkey : ByteArr 33}
    (h : p256PubkeyFromDidKey B R did = .ok pubkey) : p256DidKeyFromPubkey pubkey = did := by
  obtain ⟨zBody, hbody, hrest⟩ := bind_eq_ok.mp h
  obtain ⟨key, hkey, hrest⟩ := bind_eq_ok.mp hrest
  have hdid := Text.stripPrefix_eq_some.mp (okOr_eq_ok.mp hbody)
  cases key with
  | ed25519 raw => cases hrest
  | p256 raw =>
      obtain ⟨compressed, hcompressed, hrest⟩ := bind_eq_ok.mp hrest
      obtain ⟨_, _, hrest⟩ := bind_eq_ok.mp hrest
      obtain rfl := Except.ok.inj hrest
      have hraw : compressed.1 = raw := tryIntoArr_eq_ok.mp hcompressed
      have hencode : Base58.encode (p256Prefix ++ raw) = zBody := encode_of_decodeMultibaseKey hkey
      rw [p256DidKeyFromPubkey, encodeDidKey, hraw, hencode, hdid]

end

/-- The codec of `did:key`. -/
structure DidKeyCodec (B : Build) (R : P256Recovery B.p256) : Prop where
  ed25519 : ∀ pubkey key, strictVerifyingKey B.dalek pubkey = .ok key →
    ed25519PubkeyFromDidKey B.dalek (ed25519DidKeyFromPubkey pubkey) = .ok pubkey
  p256 : ∀ pubkey publicKey, R.publicKeyFromSec1Bytes pubkey = some publicKey →
    p256PubkeyFromDidKey B R (p256DidKeyFromPubkey pubkey) = .ok pubkey
  ed25519Reencodes : ∀ did pubkey, ed25519PubkeyFromDidKey B.dalek did = .ok pubkey →
    ed25519DidKeyFromPubkey pubkey = did
  p256Reencodes : ∀ did pubkey, p256PubkeyFromDidKey B R did = .ok pubkey →
    p256DidKeyFromPubkey pubkey = did
  ed25519Prefix : ∀ pubkey, text "did:key:z6Mk" <+: ed25519DidKeyFromPubkey pubkey
  p256Prefix : ∀ pubkey, text "did:key:zDn" <+: p256DidKeyFromPubkey pubkey
  disjoint : ∀ did pubkey pubkey', ed25519PubkeyFromDidKey B.dalek did = .ok pubkey →
    p256PubkeyFromDidKey B R did ≠ .ok pubkey'

/-- The codec round-trips both ways, and no identifier is of both kinds. -/
theorem didKeyCodec_roundtrip (B : Build) (R : P256Recovery B.p256) : DidKeyCodec B R where
  ed25519 _ _ := ed25519PubkeyFromDidKey_encode
  p256 _ _ := p256PubkeyFromDidKey_encode
  ed25519Reencodes _ _ := ed25519DidKey_of_decode
  p256Reencodes _ _ := p256DidKey_of_decode
  ed25519Prefix := prefix_ed25519DidKey
  p256Prefix := prefix_p256DidKey
  disjoint did pubkey pubkey' h h' := by
    apply ed25519DidKey_ne_p256DidKey pubkey pubkey'
    rw [ed25519DidKey_of_decode h, p256DidKey_of_decode h']

end AquaAuth
