import AquaAuth.Proofs.Relay
import AquaAuth.Proofs.BaseLines
set_option autoImplicit false
/-!
# Login messages and signature bases

The second line of a signature base starts with a quotation mark, and the client
signs no message whose second line is not an identifier.  A built message ends in
a line that no signature base ends in.
-/

namespace AquaAuth

open Support Support.Result

variable {B : Build} {S : Sfv}

/-! ## Second lines -/

/-- A second line that starts with a visible character starts the identifier. -/
theorem identifierFromMessage_of_second {first s : Str} {c : Char} (hfirst : '\n' ∉ first)
    (hc : Text.isWhitespace c = false) :
    ∃ rest, identifierFromMessage (first ++ '\n' :: c :: s) = some (c :: rest) := by
  have hne : c ≠ '\n' := by
    rintro rfl
    exact absurd hc (by decide)
  have hcr : decide (c = '\r') = false := by
    rw [decide_eq_false_iff_not]
    rintro rfl
    exact absurd hc (by decide)
  obtain ⟨line, lines, hlines⟩ := Text.splitOn_head s hne
  obtain ⟨kept, hkept⟩ := Text.trimEndMatches_head (p := (· = '\r')) line hcr
  obtain ⟨rest, hrest⟩ := Text.trim_head kept hc
  refine ⟨rest, ?_⟩
  rw [identifierFromMessage, List.splitOn_append_cons_self_of_not_mem hfirst, hlines]
  simp [hkept, hrest]

/-! ## The second line of a base -/

namespace HttpSig

variable {parts : RequestParts} {params : SignatureParams}

private theorem hostPortText_subset (rest : Str) : hostPortText rest ⊆ rest := by
  intro c hc
  have htake : c ∈ rest.takeWhile fun c => !(c = '/' || c = '?' || c = '#') := by
    rw [hostPortText, Text.lastSegment] at hc
    split at hc
    · rename_i left right hsplit
      rw [(Text.rsplitOnceChar_eq_some.mp hsplit).1]
      simp [hc]
    · exact hc
  exact (List.takeWhile_sublist _).subset htake

/-- The authority of a one-line URI is on one line. -/
theorem newline_not_mem_authorityFromUri {uri authority : Str}
    (h : authorityFromUri uri = .ok authority) (huri : '\n' ∉ uri) : '\n' ∉ authority := by
  obtain ⟨⟨scheme, rest⟩, hsplit, _⟩ := bind_eq_ok.mp h
  have hsplit := okOr_eq_ok.mp hsplit
  rw [mem_authorityFromUri_iff h hsplit (by decide) (by decide) (by decide) (by decide)]
  intro hmem
  apply huri
  rw [Text.splitOnce_eq_append hsplit]
  exact List.mem_append_right _ (hostPortText_subset rest hmem)

/-- The second line of a base over a one-line URI starts with a quotation mark. -/
theorem identifierFromMessage_base {base : Str} (h : buildSignatureBase S parts params = .ok base)
    (huri : '\n' ∉ parts.targetUri) :
    ∃ rest, identifierFromMessage base = some ('"' :: rest) := by
  obtain ⟨lines, serialized, hlines, _, rfl, _⟩ := buildSignatureBase_eq_ok.mp h
  have hquote : Text.isWhitespace '"' = false := by decide
  have hauthority : ∀ {authority}, authorityFromUri parts.targetUri = .ok authority →
      '\n' ∉ componentText componentAuthority authority := fun ha =>
    newline_not_mem_componentText (by decide) (newline_not_mem_authorityFromUri ha huri)
  have htext := coveredText_of_componentLines hlines
  generalize params.covered = covered at htext
  cases htext with
  | authority ha =>
      simp only [componentLine_eq, List.append_assoc, List.singleton_append]
      exact identifierFromMessage_of_second (hauthority ha) hquote
  | authorityAgent ha _ =>
      simp only [componentLine_eq, List.append_assoc, List.singleton_append]
      exact identifierFromMessage_of_second (hauthority ha) hquote
  | agentAuthority _ hagent =>
      simp only [componentLine_eq, List.append_assoc, List.singleton_append]
      exact identifierFromMessage_of_second (newline_not_mem_agentText hagent) hquote

/-- The last line of a base. -/
theorem lastSegment_base (hS : S.PrintsLists) {base : Str}
    (h : buildSignatureBase S parts params = .ok base) :
    ∃ serialized, Text.lastSegment '\n' base = paramsLine serialized := by
  obtain ⟨lines, serialized, hlines, hserialized, rfl, _⟩ := buildSignatureBase_eq_ok.mp h
  obtain ⟨rest, rfl⟩ := (coveredText_of_componentLines hlines).exists_append
  have hline := newline_not_mem_paramsLine
    (newline_not_mem_serializeSignatureParams hS hserialized)
  refine ⟨serialized, ?_⟩
  rw [List.append_assoc, List.singleton_append, Text.lastSegment_append_cons hline]

end HttpSig

/-! ## The last line of a message -/

/-- The chain of an `eip155` DID ends at the next colon. -/
private theorem colon_not_mem_chainId {did chain id : Str}
    (h : (pkhMethod B).chainId did = .ok (some chain))
    (hid : Text.stripPrefix (text "eip155:") chain = some id) : ':' ∉ id := by
  obtain ⟨⟨ns, remainder⟩, _, h⟩ := bind_eq_ok.mp h
  obtain ⟨suite, hsuite, h⟩ := bind_eq_ok.mp h
  obtain ⟨⟨address, chainId⟩, hparts, h⟩ := bind_eq_ok.mp h
  obtain rfl := Except.ok.inj h
  rcases findCipherSuite_cases (okOr_eq_ok.mp hsuite) with ⟨_, rfl⟩ | ⟨_, rfl⟩ | ⟨_, rfl⟩
  · obtain ⟨⟨first, second⟩, hsplit, hpair⟩ := bind_eq_ok.mp hparts
    obtain ⟨rfl, hchain⟩ := Prod.mk.inj (Except.ok.inj hpair)
    obtain rfl := Option.some.inj hchain
    rw [Text.stripPrefix_append] at hid
    obtain rfl := Option.some.inj hid
    exact (Text.splitOnceChar_eq_some.mp (okOr_eq_ok.mp hsplit)).2
  · cases (Prod.mk.inj (Except.ok.inj hparts)).2
  · cases (Prod.mk.inj (Except.ok.inj hparts)).2

private theorem chainIdLine_cases {m : DIDMethod} {did : Str} (hm : findDidMethod B did = some m) :
    chainIdLine m did = [] ∨ ∃ id, ':' ∉ id ∧ chainIdLine m did = text "\nChain ID: " ++ id := by
  rcases findDidMethod_cases hm with ⟨rfl, _⟩ | ⟨rfl, _⟩ | ⟨rfl, _⟩ | ⟨rfl, _⟩
  · unfold chainIdLine
    split
    · rename_i chain hchain
      split
      · rename_i id hid
        refine .inr ⟨id, ?_, rfl⟩
        exact colon_not_mem_chainId hchain hid
      · exact .inl rfl
    · exact .inl rfl
  · exact .inl rfl
  · exact .inl rfl
  · exact .inl rfl

/-- The last line of a message starts with a letter or has no colon. -/
theorem lastSegment_message {params : MessageParams} {message : Str}
    (h : buildMessage B params = .ok message) :
    (∃ c rest, Text.lastSegment '\n' message = c :: rest ∧ c ≠ '"') ∨
      ':' ∉ Text.lastSegment '\n' message := by
  obtain ⟨m, identifier, methodLabel, hm, _, _, rfl⟩ := buildMessage_eq_ok.mp h
  have hbody : ∃ before, messageBody params identifier methodLabel =
      before ++ '\n' :: (text "Expiration Time: " ++ params.expirationTime.format) := by
    have hexpires : text "\nExpiration Time: " = '\n' :: text "Expiration Time: " := rfl
    exact ⟨_, by rw [messageBody, hexpires, List.append_assoc, List.cons_append]⟩
  rcases chainIdLine_cases hm with hchain | ⟨id, hcolon, hchain⟩
  · obtain ⟨before, hbefore⟩ := hbody
    have hline : '\n' ∉ text "Expiration Time: " ++ params.expirationTime.format := by
      have hlabel : '\n' ∉ text "Expiration Time: " := by decide
      simp [hlabel, params.expirationTime.newline_not_mem_format]
    rw [hchain, List.append_nil, hbefore, Text.lastSegment_append_cons hline]
    exact .inl ⟨'E', _, rfl, by decide⟩
  · have hlabel : text "\nChain ID: " = '\n' :: text "Chain ID: " := rfl
    rw [hchain]
    -- The chain of a DID may hold a line feed; what follows its last one has no colon.
    cases hsplit : Text.rsplitOnceChar '\n' id with
    | none =>
        have hline : '\n' ∉ text "Chain ID: " ++ id := by
          have hname : '\n' ∉ text "Chain ID: " := by decide
          simp [hname, Text.rsplitOnceChar_eq_none.mp hsplit]
        rw [hlabel, List.cons_append, Text.lastSegment_append_cons hline]
        exact .inl ⟨'C', _, rfl, by decide⟩
    | some halves =>
        obtain ⟨rfl, hline⟩ := Text.rsplitOnceChar_eq_some.mp hsplit
        rw [← List.append_assoc, ← List.append_assoc, Text.lastSegment_append_cons hline]
        simp only [List.mem_append, List.mem_cons, not_or] at hcolon
        exact .inr hcolon.2.2

/-! ## Separation -/

/-- Neither a message the client signs nor a built message is a signature base. -/
theorem login_ne_signatureBase (hS : S.PrintsLists) {U : UrlCrate} :
    (∀ (envelope : ChallengeEnvelope) (baseUrl : Str) (signer : Signer),
      validateDidWellFormed B signer.signerDid = .ok () →
      ∀ message ∈ (Client.signedSessionRequest B U envelope baseUrl signer).signed,
      ∀ parts params, '\n' ∉ parts.targetUri →
        HttpSig.buildSignatureBase S parts params ≠ .ok message) ∧
    ∀ (msg : MessageParams) (message : Str), validateDidWellFormed B msg.did = .ok () →
      buildMessage B msg = .ok message →
      ∀ parts params, '\n' ∉ parts.targetUri →
        HttpSig.buildSignatureBase S parts params ≠ .ok message := by
  refine ⟨fun envelope baseUrl signer hvalid message hsigned parts params huri hbase => ?_,
    fun msg message _ hmessage parts params _ hbase => ?_⟩
  · have hcheck := Client.signed_ne_nil_iff.mp (List.ne_nil_of_mem hsigned)
    rw [Client.signed_eq, hcheck, List.mem_singleton] at hsigned
    obtain ⟨m, expected, hm, hexpected, hactual, _⟩ := Client.checkChallenge_eq_ok.mp hcheck
    obtain ⟨rest, hrest⟩ := HttpSig.identifierFromMessage_base hbase huri
    obtain rfl := Option.some.inj (hrest.symm.trans (hsigned ▸ hactual))
    obtain ⟨rest', h | h⟩ := (address_isIdentifier hm hvalid hexpected).start
    · cases h
    · cases h
  · obtain ⟨serialized, hlast⟩ := HttpSig.lastSegment_base hS hbase
    rcases lastSegment_message hmessage with ⟨c, rest, hstart, hc⟩ | hcolon
    · rw [hlast] at hstart
      exact hc (List.cons.inj hstart).1.symm
    · rw [hlast] at hcolon
      exact hcolon (by simp [HttpSig.paramsLine, text])

/-- The sample challenge, signed and built, is no base of the sample request. -/
theorem login_ne_signatureBase_relay :
    HttpSig.buildSignatureBase .reference HttpSig.sampleParts HttpSig.sampleParams ≠
      .ok Client.relayMessage ∧
    HttpSig.buildSignatureBase .reference HttpSig.sampleParts HttpSig.sampleParams ≠
      .ok Client.relayEnvelope.message := by
  have huri : '\n' ∉ HttpSig.sampleParts.targetUri := by decide
  have hvalid := Client.relayMinted.wellFormed
  have hsigned : Client.relayMessage ∈ (Client.signedSessionRequest Client.relayBuild
      Client.relayUrls Client.relayEnvelope (text "https://node.example:443/")
      Client.relaySigner).signed := by
    decide +kernel
  have hseparate := login_ne_signatureBase (B := Client.relayBuild) (U := Client.relayUrls)
    Sfv.reference_printsLists
  exact ⟨hseparate.1 _ _ _ hvalid _ hsigned _ _ huri,
    hseparate.2 Client.relayParams _ hvalid Client.relayMinted.built _ _ huri⟩

end AquaAuth
