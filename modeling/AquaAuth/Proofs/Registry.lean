import AquaAuth.Model.Principal
set_option autoImplicit false
/-!
# The method registry

Which method handles a DID, and what the format gate and the verifier of each
method read from it.
-/

namespace AquaAuth

open Support Support.Result

variable {B : Build} {did : Str} {m : DIDMethod}

/-! ## Lookup -/

private theorem isPrefixOf_iff {pre s : Str} :
    pre.isPrefixOf s = true ↔ ∃ rest, s = pre ++ rest := by
  rw [List.isPrefixOf_iff_prefix]
  exact ⟨fun ⟨rest, h⟩ => ⟨rest, h.symm⟩, fun ⟨rest, h⟩ => ⟨rest, h.symm⟩⟩

/-- The methods, each with the prefix of the DIDs it handles. -/
theorem findDidMethod_cases (h : findDidMethod B did = some m) :
    (m = pkhMethod B ∧ ∃ rest, did = text "did:pkh:" ++ rest) ∨
    (m = keyMethod B ∧ ∃ rest, did = text "did:key:" ++ rest) ∨
    (m = peerMethod B ∧ (peerMethod B).supportsDid did = true) ∨
    (m = aquaMethod B ∧ B.didAqua = true ∧ ∃ rest, did = text "did:aqua:" ++ rest) := by
  have hmem := List.mem_of_find?_eq_some h
  have hsupports : m.supportsDid did = true := by simpa using List.find?_some h
  simp only [allDidMethods, List.cons_append, List.nil_append, List.mem_cons] at hmem
  rcases hmem with rfl | rfl | rfl | hmem
  · exact .inl ⟨rfl, isPrefixOf_iff.mp hsupports⟩
  · exact .inr (.inl ⟨rfl, isPrefixOf_iff.mp hsupports⟩)
  · exact .inr (.inr (.inl ⟨rfl, hsupports⟩))
  · split_ifs at hmem with haqua
    · obtain rfl := List.mem_singleton.mp hmem
      exact .inr (.inr (.inr ⟨rfl, haqua, isPrefixOf_iff.mp hsupports⟩))
    · simp at hmem

/-- A method handles every DID it supports that no earlier method supports. -/
theorem findDidMethod_pkh (rest : Str) :
    findDidMethod B (text "did:pkh:" ++ rest) = some (pkhMethod B) := rfl

theorem findDidMethod_key (rest : Str) :
    findDidMethod B (text "did:key:" ++ rest) = some (keyMethod B) := rfl

theorem peer_supportsDid_cases (h : (peerMethod B).supportsDid did = true) :
    (∃ rest, did = text "did:peer:0z" ++ rest) ∨ ∃ rest, did = text "did:peer:2." ++ rest := by
  simpa only [peerMethod, Bool.or_eq_true, isPrefixOf_iff] using h

theorem findDidMethod_peer (h : (peerMethod B).supportsDid did = true) :
    findDidMethod B did = some (peerMethod B) := by
  rcases peer_supportsDid_cases h with ⟨rest, rfl⟩ | ⟨rest, rfl⟩ <;> rfl

theorem keyMethod_verifyWithPublicKey (did message : Str) (signature : Bytes)
    (publicKey : Option Bytes) :
    (keyMethod B).verifyWithPublicKey did message signature publicKey =
      (keyMethod B).verify did message signature := rfl

/-! ## The gate, by method -/

@[simp] theorem pkhMethod_methodName : (pkhMethod B).methodName = text "pkh" := rfl

@[simp] theorem keyMethod_methodName : (keyMethod B).methodName = text "key" := rfl

@[simp] theorem peerMethod_methodName : (peerMethod B).methodName = text "peer" := rfl

@[simp] theorem aquaMethod_methodName : (aquaMethod B).methodName = text "aqua" := rfl

theorem validateDidWellFormed_pkh (h : findDidMethod B did = some (pkhMethod B)) :
    validateDidWellFormed B did = validatePkh B did := by
  simp [validateDidWellFormed, h]

theorem validateDidWellFormed_key (h : findDidMethod B did = some (keyMethod B)) :
    validateDidWellFormed B did =
      (okOr (.invalidDid (text "did:key body must be multibase 'z': " ++ did))
        (Text.stripPrefix (text "did:key:z") did) >>= validateMultibaseKeyBody B) := by
  simp [validateDidWellFormed, h]

theorem validateDidWellFormed_peer (h : findDidMethod B did = some (peerMethod B)) :
    validateDidWellFormed B did = (extractZBody did >>= validateMultibaseKeyBody B) := by
  simp [validateDidWellFormed, h]

theorem validateDidWellFormed_aqua (h : findDidMethod B did = some (aquaMethod B))
    (haqua : B.didAqua = true) :
    validateDidWellFormed B did = (Aqua.multihashFromAquaDid did).map fun _ => () := by
  have hpkh : text "aqua" ≠ text "pkh" := by decide
  have hkey : text "aqua" ≠ text "key" := by decide
  have hpeer : text "aqua" ≠ text "peer" := by decide
  rw [validateDidWellFormed, h, okOr_some, ok_bind, aquaMethod_methodName, if_neg hpkh,
    if_neg hkey, if_neg hpeer, if_pos ⟨rfl, haqua⟩]

/-- The gate lets a body past when it decodes to a key of the expected length. -/
theorem validateMultibaseKeyBody_eq_ok {zBody : Str} :
    validateMultibaseKeyBody B zBody = .ok () ↔
      (∃ raw, decodeMultibaseKey B.dalek zBody = .ok (.ed25519 raw) ∧ raw.length = 32) ∨
      (∃ raw, decodeMultibaseKey B.dalek zBody = .ok (.p256 raw) ∧ raw.length = 33) := by
  unfold validateMultibaseKeyBody
  cases hkey : decodeMultibaseKey B.dalek zBody with
  | error e => simp
  | ok key =>
      cases key with
      | ed25519 raw =>
          rw [ok_bind, ensure_eq_ok]
          simp [ed25519PubkeyBytes]
      | p256 raw =>
          rw [ok_bind, ensure_eq_ok]
          simp [p256CompressedPubkeyBytes]

/-- The namespace a `did:pkh` names, read by either of the two parsers. -/
theorem parseDidNamespace_of_splitNamespace {ns remainder : Str}
    (h : splitNamespace did = .ok (ns, remainder)) : parseDidNamespace did = .ok ns := by
  obtain ⟨rest, hrest, hsplit⟩ := bind_eq_ok.mp h
  obtain hrest := okOr_eq_ok.mp hrest
  have hsplit := okOr_eq_ok.mp hsplit
  simp [parseDidNamespace, hrest, Text.firstSegment, hsplit]

theorem findCipherSuite_cases {ns : Str} {suite : CipherSuite}
    (h : findCipherSuite B ns = some suite) :
    (ns = text "eip155" ∧ suite = eip155Suite B) ∨
    (ns = text "ed25519" ∧ suite = ed25519Suite B) ∨
    (ns = text "p256" ∧ suite = p256Suite B) := by
  have hmem := List.mem_of_find?_eq_some h
  have hname : suite.namespaceName = ns := by simpa using List.find?_some h
  simp only [allCipherSuites, List.mem_cons, List.not_mem_nil, or_false] at hmem
  rcases hmem with rfl | rfl | rfl
  · exact .inl ⟨hname.symm, rfl⟩
  · exact .inr (.inl ⟨hname.symm, rfl⟩)
  · exact .inr (.inr ⟨hname.symm, rfl⟩)

/-! ## Logging in -/

/-- A login mints the principal of the DID exactly when the signature verifies under it. -/
theorem authenticateWithPublicKey_eq_ok {message : Str} {signature : Bytes}
    {publicKey : Option Bytes} {principal : Principal B} :
    authenticateWithPublicKey B did message signature publicKey = .ok principal ↔
      verifyCaip122WithPublicKey B did message signature publicKey = .ok true ∧
        principal.did = did := by
  have hmint : Principal.fromTrustedDid B did = .ok principal ↔ principal.did = did := by
    unfold Principal.fromTrustedDid
    constructor
    · intro h
      split at h
      · rw [← Except.ok.inj h]
      · cases h
    · rintro rfl
      split
      · rfl
      · rename_i hgate
        exact absurd (principal.wellFormed.symm.trans hgate) nofun
  constructor
  · intro h
    obtain ⟨_, _, h⟩ := bind_eq_ok.mp h
    obtain ⟨verified, hverified, h⟩ := bind_eq_ok.mp h
    cases verified with
    | false => cases h
    | true => exact ⟨hverified, hmint.mp h⟩
  · rintro ⟨hverified, hdid⟩
    have hgate : validateDidWellFormed B did = .ok () := hdid ▸ principal.wellFormed
    exact bind_eq_ok.mpr ⟨(), hgate, bind_eq_ok.mpr ⟨true, hverified, hmint.mpr hdid⟩⟩

end AquaAuth
