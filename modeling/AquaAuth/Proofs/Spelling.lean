import AquaAuth.Proofs.Identifier
set_option autoImplicit false
/-!
# Spellings of one key

A key written as `did:key`, as `did:peer` and as `did:pkh` is let past by the format gate
in all three spellings or in none, and a signature gets one verdict under all three.
-/

namespace AquaAuth

open Support Support.Result

variable {B : Build}

/-- The multibase body of a key: its multicodec prefix and its bytes, in base58. -/
def multibaseBody (pre key : Bytes) : Str := Base58.encode (pre ++ key)

/-- The spellings of an Ed25519 key. -/
def ed25519Spellings (key : ByteArr 32) : List Str :=
  [text "did:key:z" ++ multibaseBody ed25519Prefix key.1,
    text "did:peer:0z" ++ multibaseBody ed25519Prefix key.1,
    text "did:pkh:ed25519:0x" ++ Hex.encode key.1]

/-- The spellings of a compressed P-256 key. -/
def p256Spellings (key : ByteArr 33) : List Str :=
  [text "did:key:z" ++ multibaseBody p256Prefix key.1,
    text "did:peer:0z" ++ multibaseBody p256Prefix key.1,
    text "did:pkh:p256:0x" ++ Hex.encode key.1]

/-- What the format gate and the registered verifier make of a DID: whether it is let past,
and the verdict on each signature, `none` for an error. -/
structure Judged (B : Build) (did : Str) (wellFormed : Prop) (verdict : Str → Bytes → Option Bool) :
    Prop where
  gate : validateDidWellFormed B did = .ok () ↔ wellFormed
  verify : ∃ m, findDidMethod B did = some m ∧
    ∀ message signature, (m.verify did message signature).toOption = verdict message signature

/-- The gate lets two DIDs past or refuses both, and the verifier registered for each gives the
same one of `Ok(true)`, `Ok(false)` and an error. -/
def SameJudgement (B : Build) (did did' : Str) : Prop :=
  (validateDidWellFormed B did = .ok () ↔ validateDidWellFormed B did' = .ok ()) ∧
    ∃ m m', findDidMethod B did = some m ∧ findDidMethod B did' = some m' ∧
      ∀ message signature,
        (m.verify did message signature).toOption = (m'.verify did' message signature).toOption

theorem Judged.same {did did' : Str} {wellFormed : Prop} {verdict : Str → Bytes → Option Bool}
    (h : Judged B did wellFormed verdict) (h' : Judged B did' wellFormed verdict) :
    SameJudgement B did did' := by
  obtain ⟨m, hm, hverify⟩ := h.verify
  obtain ⟨m', hm', hverify'⟩ := h'.verify
  exact ⟨h.gate.trans h'.gate.symm, m, m', hm, hm', fun message signature =>
    (hverify message signature).trans (hverify' message signature).symm⟩

/-! ## Multibase spellings -/

/-- The `did:key` and the `did:peer` of a body are judged by the key in it. -/
theorem judged_multibase {zBody : Str} {wellFormed : Prop} {verdict : Str → Bytes → Option Bool}
    (hgate : validateMultibaseKeyBody B zBody = .ok () ↔ wellFormed)
    (hverdict : ∀ message signature,
      (decodeMultibaseKey B.dalek zBody >>= fun key =>
        verifyWithKey B key message signature).toOption = verdict message signature) :
    Judged B (text "did:key:z" ++ zBody) wellFormed verdict ∧
      Judged B (text "did:peer:0z" ++ zBody) wellFormed verdict := by
  have hkey : findDidMethod B (text "did:key:z" ++ zBody) = some (keyMethod B) :=
    findDidMethod_key ('z' :: zBody)
  have hpeer : findDidMethod B (text "did:peer:0z" ++ zBody) = some (peerMethod B) :=
    findDidMethod_peer (by simp [peerMethod, text])
  have hbody : extractZBody (text "did:peer:0z" ++ zBody) = .ok zBody := by
    have hstrip : Text.stripPrefix (text "did:peer:") (text "did:peer:0z" ++ zBody) =
        some (text "0z" ++ zBody) := Text.stripPrefix_eq_some.mpr (by simp [text])
    have hvariant : Text.stripPrefix (text "0") (text "0z" ++ zBody) =
        some (text "z" ++ zBody) := Text.stripPrefix_eq_some.mpr (by simp [text])
    simp [extractZBody, hstrip, hvariant]
  refine ⟨⟨?_, _, hkey, fun message signature => ?_⟩, ⟨?_, _, hpeer, fun message signature => ?_⟩⟩
  · rw [validateDidWellFormed_key hkey, Text.stripPrefix_append, okOr_some, ok_bind]
    exact hgate
  · rw [← hverdict]
    simp only [keyMethod, Text.stripPrefix_append, okOr_some, ok_bind]
  · rw [validateDidWellFormed_peer hpeer, hbody, ok_bind]
    exact hgate
  · rw [← hverdict]
    simp only [peerMethod, hbody, ok_bind]

/-! ## did:pkh -/

/-- A `did:pkh` is judged by the cipher suite of its namespace. -/
theorem judged_pkh {ns remainder : Str} {suite : CipherSuite} {wellFormed : Prop}
    {verdict : Str → Bytes → Option Bool} (hns : ':' ∉ ns)
    (hsuite : findCipherSuite B ns = some suite)
    (hgate : validatePkh B (text "did:pkh:" ++ (ns ++ ':' :: remainder)) = .ok () ↔ wellFormed)
    (hverdict : ∀ message signature,
      (suite.verify (text "did:pkh:" ++ (ns ++ ':' :: remainder)) message signature).toOption =
        verdict message signature) :
    Judged B (text "did:pkh:" ++ (ns ++ ':' :: remainder)) wellFormed verdict := by
  have hm := findDidMethod_pkh (B := B) (ns ++ ':' :: remainder)
  refine ⟨?_, _, hm, fun message signature => ?_⟩
  · rw [validateDidWellFormed_pkh hm]
    exact hgate
  · rw [← hverdict]
    simp only [pkhMethod, splitNamespace_append remainder hns, ok_bind, hsuite, okOr_some]

/-! ## Ed25519 -/

theorem tryIntoArr_self {ε : Type} {n : Nat} (e : ε) (arr : ByteArr n) :
    tryIntoArr n e arr.1 = .ok arr :=
  tryIntoArr_eq_ok.mpr rfl

private theorem utf8Len_hexEncode {n : Nat} (arr : ByteArr n) :
    Text.utf8Len (Hex.encode arr.1) = 2 * n := by
  rw [Hex.utf8Len_of_digits fun c hc => Hex.isDigit_of_mem_encode hc, Hex.length_encode, arr.2]

/-- The verdict of a 32-byte key. -/
def ed25519Verdict (D : Dalek) (key : ByteArr 32) (message : Str) (signature : Bytes) :
    Option Bool :=
  (verifyWithEd25519Key D key.1 message signature).toOption

theorem decodeMultibaseKey_ed25519 (D : Dalek) (key : ByteArr 32) :
    decodeMultibaseKey D (multibaseBody ed25519Prefix key.1) =
      (strictVerifyingKey D key).map fun _ => KeyType.ed25519 key.1 := by
  obtain ⟨raw, hraw⟩ := key
  have hprefix : ed25519Prefix.isPrefixOf (ed25519Prefix ++ raw) = true := by
    simp [ed25519Prefix]
  have hdrop : (ed25519Prefix ++ raw).drop ed25519Prefix.length = raw := List.drop_left
  simp only [decodeMultibaseKey, multibaseBody, Base58.decode_encode, Except.mapError, ok_bind,
    hprefix, hdrop, if_true, checkEd25519Raw, hraw, dif_pos]
  cases strictVerifyingKey D ⟨raw, hraw⟩ <;> rfl

theorem pubkeyFromEd25519Did_encode (D : Dalek) (key : ByteArr 32) :
    pubkeyFromEd25519Did D (text "did:pkh:ed25519:0x" ++ Hex.encode key.1) =
      (strictVerifyingKey D key).map fun _ => key := by
  have hlen := utf8Len_hexEncode key
  simp only [pubkeyFromEd25519Did, Text.stripPrefix_append, okOr_some, ok_bind, hlen,
    ensure_pos, Hex.decode_encode, Except.mapError, tryIntoArr_self]
  cases strictVerifyingKey D key <;> rfl

private theorem parseDidNamespace_append {ns : Str} (remainder : Str) (h : ':' ∉ ns) :
    parseDidNamespace (text "did:pkh:" ++ (ns ++ ':' :: remainder)) = .ok ns :=
  parseDidNamespace_of_splitNamespace (splitNamespace_append remainder h)

theorem validatePkh_ed25519 (B : Build) (key : ByteArr 32) :
    validatePkh B (text "did:pkh:ed25519:0x" ++ Hex.encode key.1) = .ok () ↔
      ∃ vk, strictVerifyingKey B.dalek key = .ok vk := by
  have hns : parseDidNamespace (text "did:pkh:ed25519:0x" ++ Hex.encode key.1) =
      .ok (text "ed25519") :=
    @parseDidNamespace_append (text "ed25519") (text "0x" ++ Hex.encode key.1) (by decide)
  have hother : text "ed25519" ≠ text "eip155" := by decide
  rw [validatePkh, hns, ok_bind, if_neg hother, if_pos rfl, pubkeyFromEd25519Did_encode]
  cases strictVerifyingKey B.dalek key <;> simp [Except.map]

/-- The cipher suite makes the checks of `verify_with_key`. -/
theorem ed25519Verify_toOption (B : Build) (key : ByteArr 32) (message : Str)
    (signature : Bytes) :
    (ed25519Verify B (text "did:pkh:ed25519:0x" ++ Hex.encode key.1) message
      signature).toOption = ed25519Verdict B.dalek key message signature := by
  rw [ed25519Verify, pubkeyFromEd25519Did_encode, ed25519Verdict, verifyWithEd25519Key,
    tryIntoArr_self, ok_bind]
  cases hstrict : strictVerifyingKey B.dalek key with
  | error e => simp [Except.map]
  | ok vk => simp [Except.map, hstrict]

/-- All spellings of an Ed25519 key are judged by the strict check and the verdict of the key. -/
theorem judged_ed25519 (B : Build) (key : ByteArr 32) :
    ∀ did ∈ ed25519Spellings key,
      Judged B did (∃ vk, strictVerifyingKey B.dalek key = .ok vk)
        (ed25519Verdict B.dalek key) := by
  have hgate : validateMultibaseKeyBody B (multibaseBody ed25519Prefix key.1) = .ok () ↔
      ∃ vk, strictVerifyingKey B.dalek key = .ok vk := by
    rw [validateMultibaseKeyBody, decodeMultibaseKey_ed25519]
    cases strictVerifyingKey B.dalek key with
    | error e => simp [Except.map]
    | ok vk => simp [Except.map, key.2, ed25519PubkeyBytes]
  have hverdict : ∀ message signature,
      (decodeMultibaseKey B.dalek (multibaseBody ed25519Prefix key.1) >>= fun key =>
        verifyWithKey B key message signature).toOption =
          ed25519Verdict B.dalek key message signature := fun message signature => by
    rw [decodeMultibaseKey_ed25519, ed25519Verdict, verifyWithEd25519Key]
    cases hstrict : strictVerifyingKey B.dalek key with
    | error e => simp [Except.map, tryIntoArr_self, hstrict]
    | ok vk => simp [Except.map, verifyWithKey, verifyWithEd25519Key]
  have hmultibase := judged_multibase hgate hverdict
  intro did hdid
  simp only [ed25519Spellings, List.mem_cons, List.not_mem_nil, or_false] at hdid
  rcases hdid with rfl | rfl | rfl
  · exact hmultibase.1
  · exact hmultibase.2
  · have hns : ':' ∉ text "ed25519" := by decide
    have hsuite : findCipherSuite B (text "ed25519") = some (ed25519Suite B) := rfl
    exact judged_pkh hns hsuite (validatePkh_ed25519 B key) (ed25519Verify_toOption B key)

/-! ## P-256 -/

/-- The verdict of a point encoding. -/
def p256Verdict (P : P256) (key : ByteArr 33) (message : Str) (signature : Bytes) :
    Option Bool :=
  (verifyWithP256Key P key.1 message signature).toOption

theorem pubkeyFromP256Did_encode (key : ByteArr 33) :
    pubkeyFromP256Did (text "did:pkh:p256:0x" ++ Hex.encode key.1) = .ok key := by
  have hlen := utf8Len_hexEncode key
  simp only [pubkeyFromP256Did, Text.stripPrefix_append, okOr_some, ok_bind, hlen,
    ensure_pos, Hex.decode_encode, Except.mapError, tryIntoArr_self]

theorem validatePkh_p256 (B : Build) (key : ByteArr 33) :
    validatePkh B (text "did:pkh:p256:0x" ++ Hex.encode key.1) = .ok () := by
  have hns : parseDidNamespace (text "did:pkh:p256:0x" ++ Hex.encode key.1) =
      .ok (text "p256") :=
    @parseDidNamespace_append (text "p256") (text "0x" ++ Hex.encode key.1) (by decide)
  have heip155 : text "p256" ≠ text "eip155" := by decide
  have hed25519 : text "p256" ≠ text "ed25519" := by decide
  rw [validatePkh, hns, ok_bind, if_neg heip155, if_neg hed25519, if_pos rfl,
    pubkeyFromP256Did_encode]
  rfl

theorem p256Verify_toOption (B : Build) (key : ByteArr 33) (message : Str) (signature : Bytes) :
    (p256Verify B (text "did:pkh:p256:0x" ++ Hex.encode key.1) message signature).toOption =
      p256Verdict B.p256 key message signature := by
  rw [p256Verify, pubkeyFromP256Did_encode, p256Verdict, verifyWithP256Key, ok_bind]
  simp

/-- All spellings of a P-256 key are let past and judged by the verdict of the point. -/
theorem judged_p256 (B : Build) (key : ByteArr 33) :
    ∀ did ∈ p256Spellings key, Judged B did True (p256Verdict B.p256 key) := by
  have hgate : validateMultibaseKeyBody B (multibaseBody p256Prefix key.1) = .ok () ↔ True := by
    rw [validateMultibaseKeyBody, multibaseBody, decodeMultibaseKey_p256]
    simp [key.2, p256CompressedPubkeyBytes]
  have hverdict : ∀ message signature,
      (decodeMultibaseKey B.dalek (multibaseBody p256Prefix key.1) >>= fun decoded =>
        verifyWithKey B decoded message signature).toOption =
          p256Verdict B.p256 key message signature := fun message signature => by
    rw [multibaseBody, decodeMultibaseKey_p256]
    rfl
  have hmultibase := judged_multibase hgate hverdict
  intro did hdid
  simp only [p256Spellings, List.mem_cons, List.not_mem_nil, or_false] at hdid
  rcases hdid with rfl | rfl | rfl
  · exact hmultibase.1
  · exact hmultibase.2
  · have hns : ':' ∉ text "p256" := by decide
    have hsuite : findCipherSuite B (text "p256") = some (p256Suite B) := rfl
    exact judged_pkh hns hsuite (iff_true_intro (validatePkh_p256 B key))
      (p256Verify_toOption B key)

/-! ## The spellings agree -/

/-- Whatever the bytes of the key, the message and the signature, the spellings of a key are let
past or refused together and their verifiers classify alike. -/
theorem spellings_agree (B : Build) :
    (∀ key : ByteArr 32, ∀ did ∈ ed25519Spellings key, ∀ did' ∈ ed25519Spellings key,
      SameJudgement B did did') ∧
    ∀ key : ByteArr 33, ∀ did ∈ p256Spellings key, ∀ did' ∈ p256Spellings key,
      SameJudgement B did did' :=
  ⟨fun key did hdid did' hdid' => (judged_ed25519 B key did hdid).same
      (judged_ed25519 B key did' hdid'),
    fun key did hdid did' hdid' => (judged_p256 B key did hdid).same
      (judged_p256 B key did' hdid')⟩

end AquaAuth
