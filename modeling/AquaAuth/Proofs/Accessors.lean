import AquaAuth.Proofs.AquaCodec
import AquaAuth.Proofs.HintGate
import AquaAuth.Proofs.Identifier
set_option autoImplicit false
/-!
# What the accessors slice

Each slice behind an accessor of a DID method, against what the parser in front of it promises.
The accessors that have a total model agree with it.
-/

namespace AquaAuth

open Support Support.Result Support.Attempt

/-! ## Addresses -/

theorem eip55Checksum?_eq (keccak256 : Bytes → ByteArr 32) (addr : ByteArr 20) :
    eip55Checksum? keccak256 addr = some (eip55Checksum keccak256 addr) := by
  have hlen : (Hex.encode addr.1).length = 40 := by rw [Hex.length_encode, addr.2]
  rw [eip55Checksum, List.mapIdx_eq_zipIdx_map]
  apply mapM_eq_map
  rintro ⟨c, i⟩ hmem
  have hi : i < 40 := by
    have hlt := List.snd_lt_of_mem_zipIdx hmem
    rwa [hlen] at hlt
  have hbyte : i / 2 < (keccak256 (Text.utf8 (Hex.encode addr.1))).1.length := by
    rw [(keccak256 (Text.utf8 (Hex.encode addr.1))).2]
    omega
  by_cases hc : c.isDigit = true
  · simp only [if_pos hc]
  · simp only [if_neg hc, List.getElem?_eq_getElem hbyte, List.getD_eq_getElem _ _ hbyte]
    rfl

theorem checksummedAddress?_agrees (keccak256 : Bytes → ByteArr 32) (did : Str) :
    Agrees (checksummedAddress? keccak256 did) (checksummedAddress keccak256 did) := by
  apply Agrees.bind (agrees_of _)
  intro addr _
  exact agrees_slice_bind (eip55Checksum?_eq keccak256 addr) (agrees_pure _)

theorem addressFromVerifyingKey?_eq (B : Build) (key : B.k256.VerifyingKey) :
    addressFromVerifyingKey? B key = some (addressFromVerifyingKey B key) := by
  have hpoint : Slice.from? (B.k256.toUncompressedPoint key).1 1 =
      some ((B.k256.toUncompressedPoint key).1.drop 1) :=
    Slice.from?_eq_some (by rw [(B.k256.toUncompressedPoint key).2]; decide)
  have hhash : ∀ hash : ByteArr 32, Slice.from? hash.1 12 = some (hash.1.drop 12) := fun hash =>
    Slice.from?_eq_some (by rw [hash.2]; decide)
  have hlen : ∀ hash : ByteArr 32, (hash.1.drop 12).length = 20 := by
    intro hash
    rw [List.length_drop, hash.2]
  rw [addressFromVerifyingKey?, hpoint, Option.bind_eq_bind, Option.bind_some, hhash,
    Option.bind_some, dif_pos (hlen _)]
  rfl

/-! ## Signatures -/

theorem eip155Verify?_agrees (B : Build) (did message : Str) (signature : Bytes) :
    Agrees (eip155Verify? B did message signature) (eip155Verify B did message signature) := by
  apply Agrees.bind (agrees_of _)
  intro addr _
  apply Agrees.bind (agrees_of _)
  intro _ h
  have hlen : signature.length = 65 := ensure_eq_ok.mp h
  have hv : signature[64]? = some (signature.getD 64 0) := by
    rw [List.getD_eq_getElem?_getD, List.getElem?_eq_getElem (by omega), Option.getD_some]
  apply agrees_slice_bind hv
  apply Agrees.bind (agrees_of _)
  intro _ _
  apply Agrees.bind (agrees_of _)
  intro recId _
  apply agrees_slice_bind (Slice.to?_eq_some (by omega : 64 ≤ signature.length))
  apply Agrees.bind (agrees_of _)
  intro sig _
  apply Agrees.bind (agrees_of _)
  intro key _
  exact agrees_slice_bind (addressFromVerifyingKey?_eq B key) (agrees_pure _)

theorem Aqua.verify?_agrees (M : MlDsa) (publicKey signature message : Bytes) :
    Agrees (Aqua.verify? M publicKey signature message)
      (Aqua.verify M publicKey signature message) := by
  apply Agrees.bind (agrees_of _)
  intro pk _
  apply Agrees.bind (agrees_of _)
  intro sig _
  apply agrees_slice_bind (Aqua.hintEncodingIsCanonical?_eq sig)
  apply Agrees.bind (agrees_of _)
  intro _ _
  cases M.decodeSignature sig with
  | none => exact agrees_pure _
  | some decoded => exact agrees_pure _

/-! ## Bodies -/

theorem decodeMultibaseKey?_agrees (D : Dalek) (zBody : Str) :
    Agrees (decodeMultibaseKey? D zBody) (decodeMultibaseKey D zBody) := by
  have hpre : ∀ {pre bytes : Bytes}, pre.isPrefixOf bytes = true →
      Slice.from? bytes pre.length = some (bytes.drop pre.length) := by
    intro pre bytes h
    exact Slice.from?_eq_some (List.isPrefixOf_iff_prefix.mp h).length_le
  apply Agrees.bind (agrees_of _)
  intro bytes _
  split_ifs with hed hp
  · apply agrees_slice_bind (hpre hed)
    apply Agrees.bind (agrees_of _)
    intro _ _
    exact agrees_pure _
  · exact agrees_slice_bind (hpre hp) (agrees_pure _)
  · have hshown : bytes.take (min 2 bytes.length) = bytes.take 2 := (List.take_eq_take_min ..).symm
    apply agrees_slice_bind (Slice.to?_eq_some (Nat.min_le_right 2 bytes.length))
    rw [hshown]
    exact agrees_of _

theorem firstVerificationBody?_eq (components : List Str) :
    firstVerificationBody? components = some (firstVerificationBody components) := by
  induction components with
  | nil => rfl
  | cons component components ih =>
      unfold firstVerificationBody? firstVerificationBody
      split_ifs with hv
      · rw [Text.find_eq]
        cases hsplit : Text.splitOnceChar 'z' component with
        | none => exact ih
        | some halves =>
            obtain ⟨left, body⟩ := halves
            obtain ⟨rfl, _⟩ := Text.splitOnceChar_eq_some.mp hsplit
            exact congrArg (Option.map some) (Text.sliceFrom?_behind left body (by decide))
      · exact ih

theorem extractZBody?_agrees (did : Str) : Agrees (extractZBody? did) (extractZBody did) := by
  apply Agrees.bind (agrees_of _)
  intro body _
  cases Text.stripPrefix (text "0") body with
  | some rest => exact agrees_of _
  | none =>
      cases Text.stripPrefix (text "2") body with
      | some rest => exact agrees_slice_bind (firstVerificationBody?_eq _) (agrees_of _)
      | none => exact agrees_of _

theorem splitNamespace?_agrees (did : Str) : Agrees (splitNamespace? did) (splitNamespace did) := by
  apply Agrees.bind (agrees_of _)
  intro rest _
  rw [Text.find_eq]
  cases hsplit : Text.splitOnceChar ':' rest with
  | none => rfl
  | some halves =>
      obtain ⟨ns, remainder⟩ := halves
      obtain ⟨rfl, _⟩ := Text.splitOnceChar_eq_some.mp hsplit
      apply agrees_slice_bind (Text.sliceTo?_append ns (':' :: remainder))
      exact agrees_slice_bind (Text.sliceFrom?_behind ns remainder (by decide)) (agrees_pure _)

/-! ## The registries -/

/-- The suite that runs is the total one. -/
structure RunningCipherSuite.Refines (suite : RunningCipherSuite) (total : CipherSuite) : Prop where
  namespaceName : suite.namespaceName = total.namespaceName
  parseDidParts : suite.parseDidParts = total.parseDidParts
  verify : ∀ did message signature,
    Agrees (suite.verify did message signature) (total.verify did message signature)

theorem findRunningSuite_refines (B : Build) (name : Str) :
    Option.Rel RunningCipherSuite.Refines (findRunningSuite B name) (findCipherSuite B name) := by
  have hall : List.Forall₂ RunningCipherSuite.Refines (allRunningSuites B) (allCipherSuites B) :=
    .cons ⟨rfl, rfl, eip155Verify?_agrees B⟩
      (.cons ⟨rfl, rfl, fun _ _ _ => agrees_of _⟩ (.cons ⟨rfl, rfl, fun _ _ _ => agrees_of _⟩ .nil))
  apply find?_rel hall
  intro suite total h
  rw [h.namespaceName]

/-- The method that runs is the total one, where that has the accessor. -/
structure RunningDIDMethod.Refines (m : RunningDIDMethod) (total : DIDMethod) : Prop where
  methodName : m.methodName = total.methodName
  supportsDid : m.supportsDid = total.supportsDid
  methodLabel : ∀ did, Agrees (m.methodLabel did) (total.methodLabel did)
  addressForMessage : ∀ did, Agrees (m.addressForMessage did) (total.addressForMessage did)
  chainId : ∀ did, Agrees (m.chainId did) (total.chainId did)
  verify : ∀ did message signature,
    Agrees (m.verify did message signature) (total.verify did message signature)
  verifyWithPublicKey : ∀ did message signature publicKey,
    Agrees (m.verifyWithPublicKey did message signature publicKey)
      (total.verifyWithPublicKey did message signature publicKey)

theorem pkhAddressForMessage?_agrees (B : Build) (did : Str) :
    Agrees (pkhAddressForMessage? B did) (pkhAddressForMessage B did) := by
  apply Agrees.bind (splitNamespace?_agrees did)
  rintro ⟨ns, remainder⟩ _
  apply Agrees.okOr_bind (findRunningSuite_refines B ns)
  intro suite total h
  rw [h.parseDidParts]
  apply Agrees.bind (agrees_of _)
  rintro ⟨address, _⟩ _
  dsimp only
  split_ifs
  · exact checksummedAddress?_agrees B.keccak256 did
  · exact agrees_pure _

theorem runningPkhMethod_refines (B : Build) : (runningPkhMethod B).Refines (pkhMethod B) := by
  have hverify : ∀ did message signature, Agrees ((runningPkhMethod B).verify did message signature)
      ((pkhMethod B).verify did message signature) := by
    intro did message signature
    apply Agrees.bind (splitNamespace?_agrees did)
    rintro ⟨ns, _⟩ _
    apply Agrees.okOr_bind (findRunningSuite_refines B ns)
    intro suite total h
    exact h.verify did message signature
  refine ⟨rfl, rfl, ?_, pkhAddressForMessage?_agrees B, ?_, hverify, ?_⟩
  · intro did
    apply Agrees.bind (splitNamespace?_agrees did)
    rintro ⟨ns, _⟩ _
    exact agrees_of _
  · intro did
    apply Agrees.bind (splitNamespace?_agrees did)
    rintro ⟨ns, remainder⟩ _
    apply Agrees.okOr_bind (findRunningSuite_refines B ns)
    intro suite total h
    rw [h.parseDidParts]
    apply Agrees.bind (agrees_of _)
    rintro ⟨_, chainId⟩ _
    exact agrees_pure _
  · intro did message signature _
    exact hverify did message signature

theorem runningKeyMethod_refines (B : Build) : (runningKeyMethod B).Refines (keyMethod B) := by
  have hverify : ∀ did message signature, Agrees ((runningKeyMethod B).verify did message signature)
      ((keyMethod B).verify did message signature) := by
    intro did message signature
    apply Agrees.bind (agrees_of _)
    intro zBody _
    exact Agrees.bind (decodeMultibaseKey?_agrees B.dalek zBody) fun _ _ => agrees_of _
  refine ⟨rfl, rfl, ?_, fun _ => agrees_of _, fun _ => agrees_pure _, hverify, ?_⟩
  · intro did
    apply Agrees.bind (agrees_of _)
    intro zBody _
    exact Agrees.bind (decodeMultibaseKey?_agrees B.dalek zBody) fun _ _ => agrees_pure _
  · intro did message signature _
    exact hverify did message signature

theorem runningPeerMethod_refines (B : Build) : (runningPeerMethod B).Refines (peerMethod B) := by
  have hverify : ∀ did message signature,
      Agrees ((runningPeerMethod B).verify did message signature)
      ((peerMethod B).verify did message signature) := by
    intro did message signature
    apply Agrees.bind (extractZBody?_agrees did)
    intro zBody _
    exact Agrees.bind (decodeMultibaseKey?_agrees B.dalek zBody) fun _ _ => agrees_of _
  refine ⟨rfl, rfl, ?_, ?_, fun _ => agrees_pure _, hverify, ?_⟩
  · intro did
    apply Agrees.bind (extractZBody?_agrees did)
    intro zBody _
    exact Agrees.bind (decodeMultibaseKey?_agrees B.dalek zBody) fun _ _ => agrees_pure _
  · intro did
    exact Agrees.bind (extractZBody?_agrees did) fun _ _ => agrees_pure _
  · intro did message signature _
    exact hverify did message signature

theorem runningAquaMethod_refines (B : Build) : (runningAquaMethod B).Refines (aquaMethod B) := by
  refine ⟨rfl, rfl, fun _ => agrees_of _, fun _ => agrees_of _, fun _ => agrees_pure _,
    fun _ _ _ => agrees_of _, ?_⟩
  intro did message signature publicKey
  apply Agrees.bind (agrees_of _)
  intro publicKey _
  apply Agrees.bind (agrees_of _)
  intro bound _
  split_ifs
  · exact Aqua.verify?_agrees B.mlDsa publicKey signature (Text.utf8 message)
  · exact agrees_pure _

/-- The registry that runs finds the total method. -/
theorem findRunningMethod_refines (B : Build) (did : Str) :
    Option.Rel RunningDIDMethod.Refines (findRunningMethod B did) (findDidMethod B did) := by
  have hall : List.Forall₂ RunningDIDMethod.Refines (allRunningMethods B) (allDidMethods B) := by
    have hgated : List.Forall₂ RunningDIDMethod.Refines
        (if B.didAqua then [runningAquaMethod B] else [])
        (if B.didAqua then [aquaMethod B] else []) := by
      split_ifs
      · exact .cons (runningAquaMethod_refines B) .nil
      · exact .nil
    exact .cons (runningPkhMethod_refines B)
      (.cons (runningKeyMethod_refines B) (.cons (runningPeerMethod_refines B) hgated))
  apply find?_rel hall
  intro m total h
  rw [h.supportsDid]

/-! ## Labels -/

theorem isAscii_of_alphanumeric {s : Str} (h : ∀ c ∈ s, c.isAlphanum = true) :
    Text.isAscii s = true := by
  rw [Text.isAscii, List.all_eq_true]
  intro c hc
  have hval := h c hc
  simp only [Char.isAlphanum, Char.isAlpha, Char.isUpper, Char.isLower, Char.isDigit,
    Bool.or_eq_true, Bool.and_eq_true, decide_eq_true_eq] at hval
  rw [decide_eq_true_eq]
  rcases hval with (⟨_, h⟩ | ⟨_, h⟩) | ⟨_, h⟩ <;>
    · have hle := UInt32.le_iff_toNat_le.mp h
      simp at hle
      omega

theorem shortened?_of_isAscii {s : Str} (h : Text.isAscii s = true) (n : Nat) :
    ∃ short, shortened? s n = some short :=
  Option.isSome_iff_exists.mp
    (Text.sliceTo?_isSome.mpr (Text.isBoundary_of_isAscii h (Nat.min_le_left _ n)))

/-- A label of a body that decodes. -/
theorem returns_bodyLabel {D : Dalek} {zBody : Str} {f : KeyType → Str → Str} :
    Returns (do
      let key ← decodeMultibaseKey? D zBody
      let short ← slice (shortened? zBody 8)
      pure (f key short) : Attempt CryptoError Str) := by
  rw [(decodeMultibaseKey?_agrees D zBody).returns_bind]
  intro key hkey
  have hascii := Aqua.isAscii_of_alphabet (mem_alphabet_of_decodeMultibaseKey hkey)
  obtain ⟨short, hshort⟩ := shortened?_of_isAscii hascii 8
  exact returns_slice_bind.mpr ⟨short, hshort, (agrees_pure _).returns⟩

/-- Both cuts of a long address are at character boundaries. -/
def CutsCleanly (address : Str) : Prop :=
  12 < Text.utf8Len address →
    Text.IsBoundary address 6 ∧ Text.IsBoundary address (Text.utf8Len address - 4)

theorem shortAddress?_isSome {address : Str} :
    (shortAddress? address).isSome = true ↔ CutsCleanly address := by
  rw [shortAddress?, CutsCleanly]
  split_ifs with hlong
  · rw [← Text.sliceTo?_isSome, ← Text.sliceFrom?_isSome, forall_prop_of_true hlong]
    cases Text.sliceTo? address 6 with
    | none => simp
    | some front => cases Text.sliceFrom? address (Text.utf8Len address - 4) <;> simp
  · simp [hlong]

theorem cutsCleanly_of_isAscii {address : Str} (h : Text.isAscii address = true) :
    CutsCleanly address := fun hlong =>
  ⟨Text.isBoundary_of_isAscii h (by omega), Text.isBoundary_of_isAscii h (Nat.sub_le _ _)⟩

/-- A DID whose remainder is shown unread, with a cut inside a character. -/
def CutsCharacter (did : Str) : Prop :=
  ∃ ns address, (ns = text "ed25519" ∨ ns = text "p256") ∧
    did = text "did:pkh:" ++ (ns ++ ':' :: address) ∧ ¬ CutsCleanly address

theorem not_cutsCharacter_of_isAscii {did : Str} (h : Text.isAscii did = true) :
    ¬ CutsCharacter did := by
  rintro ⟨ns, address, _, rfl, hcuts⟩
  have haddress := (Text.isAscii_append.mp (Text.isAscii_append.mp h).2).2
  exact hcuts (cutsCleanly_of_isAscii ((Text.isAscii_append (s := [':'])).mp haddress).2)

theorem returns_pkhDisplayLabel (B : Build) (did : Str) :
    Returns (pkhDisplayLabel? B did) ↔ ¬ CutsCharacter did := by
  have hsteps : Returns (pkhDisplayLabel? B did) ↔
      ∀ parts, splitNamespace did = .ok parts →
        ∀ address, pkhAddressForMessage B did = .ok address → CutsCleanly address := by
    rw [pkhDisplayLabel?, (splitNamespace?_agrees did).returns_bind]
    apply forall₂_congr
    rintro ⟨ns, _⟩ _
    dsimp only
    rw [(pkhAddressForMessage?_agrees B did).returns_bind]
    apply forall₂_congr
    intro address _
    rw [returns_slice_bind, ← shortAddress?_isSome, Option.isSome_iff_exists]
    apply exists_congr
    intro short
    exact and_iff_left (agrees_pure _).returns
  rw [hsteps]
  constructor
  · rintro h ⟨ns, address, hns, rfl, hcuts⟩
    have hcolon : ':' ∉ ns := by rcases hns with rfl | rfl <;> decide
    have hsplit := splitNamespace_append address hcolon
    exact hcuts (h _ hsplit address (pkhAddressForMessage_hex hsplit hns))
  · intro hnot _ _ address haddress
    obtain ⟨ns, remainder, hsplit, hcases⟩ := pkhAddressForMessage_cases haddress
    obtain ⟨hdid, _⟩ := splitNamespace_eq_ok.mp hsplit
    rcases hcases with ⟨_, hchecksum⟩ | ⟨hns, rfl⟩ | ⟨hns, rfl⟩
    · obtain ⟨addr, _, haddr⟩ := bind_eq_ok.mp hchecksum
      obtain rfl := Except.ok.inj haddr
      apply cutsCleanly_of_isAscii
      exact Text.isAscii_append.mpr ⟨by decide, isAscii_of_alphanumeric alphanumeric_eip55⟩
    · by_contra hcuts
      exact hnot ⟨ns, address, .inl hns, hdid, hcuts⟩
    · by_contra hcuts
      exact hnot ⟨ns, address, .inr hns, hdid, hcuts⟩

theorem returns_aquaDisplayLabel (B : Build) (did : Str) :
    Returns ((runningAquaMethod B).displayLabel did) := by
  apply (agrees_of _).returns_bind.mpr
  intro digest hdigest
  obtain ⟨digest, rfl, _⟩ := Aqua.multihashFromAquaDid_eq_ok.mp hdigest
  have hascii : Text.isAscii ('z' :: Base58.encode (Aqua.multihash digest)) = true :=
    Text.isAscii_append.mpr ⟨(by decide : Text.isAscii ['z'] = true),
      Aqua.isAscii_of_alphabet Base58.mem_alphabet_of_mem_encode⟩
  obtain ⟨short, hshort⟩ := shortened?_of_isAscii hascii 9
  apply returns_slice_bind.mpr
  refine ⟨_, Text.sliceFrom?_append (text "did:aqua:") _, ?_⟩
  exact returns_slice_bind.mpr ⟨short, hshort, (agrees_pure _).returns⟩

/-! ## Every accessor -/

/-- No accessor panics on the DID. -/
structure AccessorsReturn (m : RunningDIDMethod) (did : Str) : Prop where
  methodLabel : Returns (m.methodLabel did)
  displayLabel : Returns (m.displayLabel did)
  addressForMessage : Returns (m.addressForMessage did)
  hasChainId : (m.hasChainId did).isSome = true
  chainId : Returns (m.chainId did)
  canonicalSubject : Returns (m.canonicalSubject did)
  verify : ∀ message signature, Returns (m.verify did message signature)
  verifyWithPublicKey : ∀ message signature publicKey,
    Returns (m.verifyWithPublicKey did message signature publicKey)

section

variable {B : Build} {did : Str} {m : RunningDIDMethod}

theorem mem_allRunningMethods (h : m ∈ allRunningMethods B) :
    m = runningPkhMethod B ∨ m = runningKeyMethod B ∨ m = runningPeerMethod B ∨
      m = runningAquaMethod B := by
  rcases List.mem_append.mp h with h | h
  · simp only [List.mem_cons, List.not_mem_nil, or_false] at h
    rcases h with h | h | h
    · exact .inl h
    · exact .inr (.inl h)
    · exact .inr (.inr (.inl h))
  · split_ifs at h
    · exact .inr (.inr (.inr (List.mem_singleton.mp h)))
    · cases h

/-- The method of `did:pkh` handles the DIDs that can be cut. -/
theorem eq_pkh_or_not_cuts (h : findRunningMethod B did = some m) :
    m = runningPkhMethod B ∨ ¬ CutsCharacter did := by
  rw [findRunningMethod, allRunningMethods, List.cons_append, List.find?_cons] at h
  cases hpkh : (runningPkhMethod B).supportsDid did with
  | true =>
      rw [hpkh] at h
      exact .inl (Option.some.inj h).symm
  | false =>
      right
      rintro ⟨ns, address, _, rfl, _⟩
      have hpre : (runningPkhMethod B).supportsDid
          (text "did:pkh:" ++ (ns ++ ':' :: address)) = true :=
        List.isPrefixOf_iff_prefix.mpr (List.prefix_append _ _)
      rw [hpre] at hpkh
      cases hpkh

theorem returns_displayLabel (h : findRunningMethod B did = some m) :
    Returns (m.displayLabel did) ↔ ¬ CutsCharacter did := by
  have hpkh : m = runningPkhMethod B → (Returns (m.displayLabel did) ↔ ¬ CutsCharacter did) := by
    rintro rfl
    exact returns_pkhDisplayLabel B did
  rcases eq_pkh_or_not_cuts h with hm | hnot
  · exact hpkh hm
  · rcases mem_allRunningMethods (List.mem_of_find?_eq_some h) with hm | rfl | rfl | rfl
    · exact hpkh hm
    · apply iff_of_true ?_ hnot
      apply (agrees_of _).returns_bind.mpr
      intro zBody _
      exact returns_bodyLabel
    · apply iff_of_true ?_ hnot
      apply (extractZBody?_agrees did).returns_bind.mpr
      intro zBody _
      exact returns_bodyLabel
    · exact iff_of_true (returns_aquaDisplayLabel B did) hnot

theorem hasChainId_isSome (h : m ∈ allRunningMethods B) : (m.hasChainId did).isSome = true := by
  rcases mem_allRunningMethods h with rfl | rfl | rfl | rfl
  · show (pkhHasChainId? B did).isSome = true
    rw [pkhHasChainId?, splitNamespace?_agrees did]
    rfl
  · rfl
  · rfl
  · rfl

theorem returns_canonicalSubject (h : m ∈ allRunningMethods B) :
    Returns (m.canonicalSubject did) := by
  rcases mem_allRunningMethods h with rfl | rfl | rfl | rfl
  · exact (agrees_pure did).returns
  · exact (agrees_pure did).returns
  · exact (agrees_pure did).returns
  · apply (agrees_of _).returns_bind.mpr
    intro _ _
    exact (agrees_pure did).returns

end

/-- An accessor panics exactly on the DIDs that have a character cut in the label shown of them. -/
theorem accessorsReturn_iff (B : Build) (did : Str) (m : RunningDIDMethod)
    (h : findRunningMethod B did = some m) : AccessorsReturn m did ↔ ¬ CutsCharacter did := by
  have hmem := List.mem_of_find?_eq_some h
  have hrefines := findRunningMethod_refines B did
  rw [h] at hrefines
  obtain ⟨total, htotal⟩ : ∃ total : DIDMethod, m.Refines total := by
    generalize findDidMethod B did = found at hrefines
    cases hrefines with
    | some h => exact ⟨_, h⟩
  constructor
  · intro haccessors
    exact (returns_displayLabel h).mp haccessors.displayLabel
  · intro hnot
    exact {
      methodLabel := (htotal.methodLabel did).returns
      displayLabel := (returns_displayLabel h).mpr hnot
      addressForMessage := (htotal.addressForMessage did).returns
      hasChainId := hasChainId_isSome hmem
      chainId := (htotal.chainId did).returns
      canonicalSubject := returns_canonicalSubject hmem
      verify := fun message signature => (htotal.verify did message signature).returns
      verifyWithPublicKey := fun message signature publicKey =>
        (htotal.verifyWithPublicKey did message signature publicKey).returns }

/-! ## A DID that is cut -/

/-- Its remainder has thirteen characters, the sixth of them of two bytes. -/
def cutDid : Str := text "did:pkh:p256:aaaaaéaaaaaaa"

/-- `display_label` panics on it. -/
theorem accessorsReturn_fails :
    ¬ ∀ (B : Build) (did : Str) (m : RunningDIDMethod), findRunningMethod B did = some m →
      AccessorsReturn m did := by
  intro h
  have hfound : findRunningMethod (.ofTable [] []) cutDid =
      some (runningPkhMethod (.ofTable [] [])) := rfl
  obtain ⟨y, hy⟩ := (h _ _ _ hfound).displayLabel
  have hpanics : ((runningPkhMethod (.ofTable [] [])).displayLabel cutDid).run = none := by rfl
  rw [hy] at hpanics
  cases hpanics

/-- The compressed base point of P-256. -/
def compressedBaseDid : Str :=
  text "did:pkh:p256:0x036b17d1f2e12c4247f8bce6e563a440f277037d812deb33a0f4a13945d898c296"

private theorem cutsCharacter_cutDid : CutsCharacter cutDid := by
  refine ⟨text "p256", text "aaaaaéaaaaaaa", .inr rfl, rfl, ?_⟩
  rw [CutsCleanly]
  decide

/-- The accessors return where the label cuts a long remainder between characters, and not where it
cuts a character. -/
theorem accessorsReturn_base :
    AccessorsReturn (runningPkhMethod (.ofTable [] [])) compressedBaseDid ∧
      ((runningPkhMethod (.ofTable [] [])).displayLabel compressedBaseDid).run =
        some (.ok (text "0x036b...c296 (P-256)")) ∧
      ¬ AccessorsReturn (runningPkhMethod (.ofTable [] [])) cutDid := by
  refine ⟨?_, by rfl, fun haccessors => ?_⟩
  · exact (accessorsReturn_iff (.ofTable [] []) _ _ rfl).mpr
      (not_cutsCharacter_of_isAscii (by decide))
  · exact (accessorsReturn_iff (.ofTable [] []) _ _ rfl).mp haccessors cutsCharacter_cutDid

end AquaAuth
