import AquaAuth.Proofs.MessageTemplate
set_option autoImplicit false
/-!
# Two derivations of an identifier

The message of a `did:pkh` carries a key as the DID spells it, and `identifier_from_did` spells
the decoded key anew, in lowercase.  An `eip155` address gets its checksum in both.
-/

namespace AquaAuth

open Support Support.Result

variable {B : Build} {did : Str} {params : MessageParams}

/-- The identifier read out of a message is the one derived from the DID. -/
def IdentifiersAgree (B : Build) (did message : Str) : Prop :=
  ∃ identifier, identifierFromDid B.dalek B.keccak256 did = .ok identifier ∧
    identifierFromMessage message = some identifier

/-- A `did:pkh` of another namespace than `eip155` spells its key in lowercase. -/
def SpelledInLowercase (did : Str) : Prop :=
  ∀ ns remainder, splitNamespace did = .ok (ns, remainder) → ns ≠ text "eip155" →
    ∀ c ∈ remainder, c.isUpper = false

/-! ## Hexadecimal keys -/

/-- A key spelled in hexadecimal is spelled the same anew when it is in lowercase. -/
theorem hexEncode_eq_iff {hexStr : Str} {bytes : Bytes} (h : Hex.decode hexStr = .ok bytes) :
    text "0x" ++ Hex.encode bytes = text "0x" ++ hexStr ↔
      ∀ c ∈ text "0x" ++ hexStr, c.isUpper = false := by
  have hprefix : ∀ c ∈ text "0x", c.isUpper = false := by
    intro c hc
    have hc : c = '0' ∨ c = 'x' := by simpa [text] using hc
    rcases hc with rfl | rfl <;> decide
  rw [List.append_right_inj, ← (Hex.decode_eq_ok.mp h).2, Text.asciiLower_eq_self_iff,
    List.forall_mem_append]
  exact (and_iff_right hprefix).symm

/-! ## The derivations -/

theorem spelledInLowercase_iff {ns remainder : Str}
    (hsplit : splitNamespace did = .ok (ns, remainder)) :
    SpelledInLowercase did ↔ (ns ≠ text "eip155" → ∀ c ∈ remainder, c.isUpper = false) := by
  constructor
  · exact fun h => h ns remainder hsplit
  · intro h ns' remainder' hsplit'
    obtain ⟨rfl, rfl⟩ := Prod.mk.inj (Except.ok.inj (hsplit.symm.trans hsplit'))
    exact h

/-- A key in hexadecimal: the message has the text of the DID, the derivation spells the key. -/
private theorem identifier_hex_iff {ns hexStr address : Str} {bytes : Bytes}
    (hsplit : splitNamespace did = .ok (ns, text "0x" ++ hexStr))
    (hns : ns = text "ed25519" ∨ ns = text "p256") (hdecode : Hex.decode hexStr = .ok bytes)
    (haddress : pkhAddressForMessage B did = .ok address)
    (hfrom : identifierFromDid B.dalek B.keccak256 did = .ok (text "0x" ++ Hex.encode bytes)) :
    identifierFromDid B.dalek B.keccak256 did = .ok address ↔ SpelledInLowercase did := by
  have hother : ns ≠ text "eip155" := by rcases hns with rfl | rfl <;> decide
  obtain rfl := Except.ok.inj (haddress.symm.trans (pkhAddressForMessage_hex hsplit hns))
  rw [hfrom, Except.ok.injEq, hexEncode_eq_iff hdecode, spelledInLowercase_iff hsplit]
  exact ⟨fun h _ => h, fun h => h hother⟩

/-- What both derivations make of a `did:pkh` the gate lets past. -/
theorem identifierFromDid_eq_iff (hvalid : validatePkh B did = .ok ()) {address : Str}
    (haddress : pkhAddressForMessage B did = .ok address) :
    identifierFromDid B.dalek B.keccak256 did = .ok address ↔ SpelledInLowercase did := by
  cases admittedPkh_of_validatePkh hvalid with
  | eip155 hsplit _ =>
      have hfrom : identifierFromDid B.dalek B.keccak256 did =
          checksummedAddress B.keccak256 did := by
        rw [identifierFromDid, parseDidNamespace_of_splitNamespace hsplit, ok_bind, if_pos rfl]
      rw [hfrom, spelledInLowercase_iff hsplit]
      exact iff_of_true (pkhAddressForMessage_eip155 hsplit haddress) fun hne => absurd rfl hne
  | ed25519 hsplit hkey hdecode =>
      apply identifier_hex_iff hsplit (.inl rfl) hdecode haddress
      rw [identifierFromDid, parseDidNamespace_of_splitNamespace hsplit, ok_bind,
        if_neg (by decide), if_pos rfl, hkey]
      rfl
  | p256 hsplit hkey hdecode =>
      apply identifier_hex_iff hsplit (.inr rfl) hdecode haddress
      rw [identifierFromDid, parseDidNamespace_of_splitNamespace hsplit, ok_bind,
        if_neg (by decide), if_neg (by decide), if_pos rfl, hkey]
      rfl

/-- The message carries the identifier that the method gives the DID. -/
theorem identifiersAgree_of_buildMessage (hpkh : ∃ rest, params.did = text "did:pkh:" ++ rest)
    (hvalid : validateDidWellFormed B params.did = .ok ()) (hdomain : '\n' ∉ params.domain)
    {message : Str} (hmessage : buildMessage B params = .ok message) :
    ∃ address, validatePkh B params.did = .ok () ∧
      pkhAddressForMessage B params.did = .ok address ∧
      (IdentifiersAgree B params.did message ↔
        identifierFromDid B.dalek B.keccak256 params.did = .ok address) := by
  obtain ⟨m, identifier, methodLabel, hm, hid, hlabel, rfl⟩ := buildMessage_eq_ok.mp hmessage
  have hread := identifierFromMessage_body hdomain (newline_not_mem_methodLabel hm hlabel)
    (address_isIdentifier hm hvalid hid) (chainIdLine m params.did)
  obtain ⟨rest, hrest⟩ := hpkh
  have hmethod : m = pkhMethod B := by
    rw [hrest, findDidMethod_pkh] at hm
    exact (Option.some.inj hm).symm
  subst hmethod
  refine ⟨identifier, validateDidWellFormed_pkh hm ▸ hvalid, hid, ?_, ?_⟩
  · rintro ⟨identifier', hfrom, hline⟩
    rw [hread] at hline
    rw [hfrom, Option.some.inj hline]
  · intro hfrom
    exact ⟨identifier, hfrom, hread⟩

/-- The message of a `did:pkh` carries the identifier derived from the DID exactly when the DID
spells its key in lowercase, or has an address. -/
theorem identifiersAgree_iff (hpkh : ∃ rest, params.did = text "did:pkh:" ++ rest)
    (hvalid : validateDidWellFormed B params.did = .ok ()) (hdomain : '\n' ∉ params.domain)
    {message : Str} (hmessage : buildMessage B params = .ok message) :
    IdentifiersAgree B params.did message ↔ SpelledInLowercase params.did := by
  obtain ⟨address, hpkhValid, haddress, hagree⟩ :=
    identifiersAgree_of_buildMessage hpkh hvalid hdomain hmessage
  rw [hagree]
  exact identifierFromDid_eq_iff hpkhValid haddress

/-! ### A key in capitals -/

def generatorHex : Str := text "6B17D1F2E12C4247F8BCE6E563A440F277037D812DEB33A0F4A13945D898C296"

/-- The generator of the P-256 curve, spelled in capitals. -/
def capitalDid : Str := text "did:pkh:p256:0x03" ++ generatorHex

/-- The message has the capitals, the identifier derived from the DID has not. -/
theorem identifiersAgree_capitals_fails :
    ¬ ∀ (B : Build) (params : MessageParams) (message : Str),
      (∃ rest, params.did = text "did:pkh:" ++ rest) → validateDidWellFormed B params.did = .ok () →
      '\n' ∉ params.domain → buildMessage B params = .ok message →
        IdentifiersAgree B params.did message := by
  intro hclaim
  let params := sampleMessageParams capitalDid (text "aqua-node")
  have hvalid : validateDidWellFormed keylessBuild params.did = .ok () := by decide +kernel
  have hpkh : ∃ rest, params.did = text "did:pkh:" ++ rest :=
    ⟨text "p256:0x03" ++ generatorHex, by decide⟩
  have hmessage : ∃ message, buildMessage keylessBuild params = .ok message := ⟨_, rfl⟩
  obtain ⟨message, hmessage⟩ := hmessage
  have hagree := hclaim keylessBuild params message hpkh hvalid (by decide) hmessage
  obtain ⟨address, hpkhValid, haddress, hiff⟩ :=
    identifiersAgree_of_buildMessage hpkh hvalid (by decide) hmessage
  have hlower := (identifierFromDid_eq_iff hpkhValid haddress).mp (hiff.mp hagree)
  have hcapital := hlower (text "p256") (text "0x03" ++ generatorHex) (by decide +kernel)
    (by decide) 'B' (by decide)
  cases hcapital

/-- An address on a chain. -/
theorem identifiersAgree_iff_mainnet :
    ∃ message, buildMessage keylessBuild (sampleMessageParams mainnetDid (text "aqua-node")) =
        .ok message ∧
      (IdentifiersAgree keylessBuild mainnetDid message ↔ SpelledInLowercase mainnetDid) := by
  have hmessage : ∃ message, buildMessage keylessBuild
      (sampleMessageParams mainnetDid (text "aqua-node")) = .ok message := ⟨_, rfl⟩
  obtain ⟨message, hmessage⟩ := hmessage
  refine ⟨message, hmessage, ?_⟩
  exact identifiersAgree_iff ⟨text "eip155:1:0x" ++ addressHex, by decide⟩ (by decide +kernel)
    (by decide) hmessage

end AquaAuth
