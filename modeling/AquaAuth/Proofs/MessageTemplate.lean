import AquaAuth.Proofs.Admission
import AquaAuth.Proofs.MessageLines
set_option autoImplicit false
/-!
# The template of a sign-in message

A message has ten lines, and for `eip155` the text `Chain ID: ` and the chain segment of the DID
follow.  The segment goes into the message verbatim: a line feed in it starts a new line, and as
the segment ends at the first colon no such line carries a label.
-/

namespace AquaAuth

open Support Support.Result

variable {B : Build} {did : Str} {m : DIDMethod} {params : MessageParams}

/-- The chain segment of a `did:pkh:eip155` DID. -/
def chainSegment (did : Str) : Option Str :=
  (Text.stripPrefix (text "did:pkh:eip155:") did).bind fun rest =>
    (Text.splitOnceChar ':' rest).map Prod.fst

/-- The lines every message has. -/
def templateLines (params : MessageParams) (identifier methodLabel : Str) : List Str :=
  [domainLine params methodLabel, identifier, [], text "Sign in to Aqua Node", [],
    text "URI: " ++ params.uri, text "Version: 1", text "Nonce: " ++ params.nonce,
    text "Issued At: " ++ params.issuedAt.format,
    text "Expiration Time: " ++ params.expirationTime.format]

/-- The labels of the lines that carry a value. -/
def messageLabels : List Str :=
  [text "URI:", text "Version:", text "Nonce:", text "Issued At:", text "Expiration Time:"]

/-! ## The chain -/

theorem chainSegment_eq_some {chain : Str} :
    chainSegment did = some chain ↔
      ∃ rest, did = text "did:pkh:eip155:" ++ (chain ++ ':' :: rest) ∧ ':' ∉ chain := by
  simp only [chainSegment, Option.bind_eq_some_iff, Option.map_eq_some_iff,
    Text.stripPrefix_eq_some, Prod.exists, Text.splitOnceChar_eq_some]
  constructor
  · rintro ⟨_, rfl, left, right, ⟨rfl, hcolon⟩, rfl⟩
    exact ⟨right, rfl, hcolon⟩
  · rintro ⟨right, rfl, hcolon⟩
    exact ⟨_, rfl, chain, right, ⟨rfl, hcolon⟩, rfl⟩

private theorem chainSegment_eq_none {pre rest : Str} (hdid : did = pre ++ rest)
    (hpre : ∀ tail, pre ++ rest ≠ text "did:pkh:eip155:" ++ tail) : chainSegment did = none := by
  rw [Option.eq_none_iff_forall_ne_some]
  intro chain hchain
  obtain ⟨tail, heq, _⟩ := chainSegment_eq_some.mp hchain
  exact hpre _ (hdid.symm.trans heq)

/-- The namespace and the remainder of a `did:pkh` the gate lets past. -/
theorem splitNamespace_of_valid (hvalid : validatePkh B did = .ok ()) :
    ∃ ns remainder, splitNamespace did = .ok (ns, remainder) ∧
      (ns = text "eip155" ∨ ns = text "ed25519" ∨ ns = text "p256") := by
  cases admittedPkh_of_validatePkh hvalid with
  | eip155 hsplit _ => exact ⟨_, _, hsplit, .inl rfl⟩
  | ed25519 hsplit _ _ => exact ⟨_, _, hsplit, .inr (.inl rfl)⟩
  | p256 hsplit _ _ => exact ⟨_, _, hsplit, .inr (.inr rfl)⟩

private theorem chainIdLine_pkh (hvalid : validatePkh B did = .ok ()) :
    chainIdLine (pkhMethod B) did =
      ((chainSegment did).map (text "\nChain ID: " ++ ·)).getD [] := by
  obtain ⟨ns, remainder, hsplit, hns⟩ := splitNamespace_of_valid hvalid
  obtain ⟨hdid, _⟩ := splitNamespace_eq_ok.mp hsplit
  have hchain : (pkhMethod B).chainId did =
      okOr (.unsupportedMethod ns) (findCipherSuite B ns) >>= fun suite =>
        suite.parseDidParts remainder >>= fun parts => .ok parts.2 := by
    simp only [pkhMethod, hsplit, ok_bind]
    rfl
  rcases hns with rfl | rfl | rfl
  · have hstrip : Text.stripPrefix (text "did:pkh:eip155:") did = some remainder :=
      Text.stripPrefix_eq_some.mpr (by simp [hdid, text])
    have hsuite : findCipherSuite B (text "eip155") = some (eip155Suite B) := rfl
    unfold chainIdLine
    rw [hchain, hsuite, chainSegment, hstrip]
    cases hcolon : Text.splitOnceChar ':' remainder with
    | none => simp [eip155Suite, hcolon]
    | some parts => simp [eip155Suite, hcolon]
  · have hnone : chainSegment did = none := chainSegment_eq_none hdid (by simp [text])
    have hsuite : findCipherSuite B (text "ed25519") = some (ed25519Suite B) := rfl
    unfold chainIdLine
    rw [hchain, hsuite, hnone]
    rfl
  · have hnone : chainSegment did = none := chainSegment_eq_none hdid (by simp [text])
    have hsuite : findCipherSuite B (text "p256") = some (p256Suite B) := rfl
    unfold chainIdLine
    rw [hchain, hsuite, hnone]
    rfl

/-- The last lines of a message carry the chain segment of its DID. -/
theorem chainIdLine_eq (hm : findDidMethod B did = some m)
    (hvalid : validateDidWellFormed B did = .ok ()) :
    chainIdLine m did = ((chainSegment did).map (text "\nChain ID: " ++ ·)).getD [] := by
  rcases findDidMethod_cases hm with ⟨rfl, _⟩ | ⟨rfl, rest, hdid⟩ | ⟨rfl, hpeer⟩ |
    ⟨rfl, _, rest, hdid⟩
  · exact chainIdLine_pkh (validateDidWellFormed_pkh hm ▸ hvalid)
  · rw [chainSegment_eq_none hdid (by simp [text])]
    rfl
  · rcases peer_supportsDid_cases hpeer with ⟨rest, hdid⟩ | ⟨rest, hdid⟩
    · rw [chainSegment_eq_none hdid (by simp [text])]
      rfl
    · rw [chainSegment_eq_none hdid (by simp [text])]
      rfl
  · rw [chainSegment_eq_none hdid (by simp [text])]
    rfl

/-! ## The lines -/

/-- The lines that carry the chain segment. -/
def chainLines (did : Str) : List Str :=
  match chainSegment did with
  | some chain => (text "Chain ID: " ++ chain).splitOn '\n'
  | none => []

theorem splitOn_messageTail (hnonce : '\n' ∉ params.nonce) (did : Str) :
    (messageTail params ++ ((chainSegment did).map (text "\nChain ID: " ++ ·)).getD []).splitOn
        '\n' =
      [text "Version: 1", text "Nonce: " ++ params.nonce,
        text "Issued At: " ++ params.issuedAt.format,
        text "Expiration Time: " ++ params.expirationTime.format] ++ chainLines did := by
  have hversion : '\n' ∉ text "Version: 1" := by decide
  have hnonceLine : '\n' ∉ text "Nonce: " ++ params.nonce := by
    have hlabel : '\n' ∉ text "Nonce: " := by decide
    simp [hlabel, hnonce]
  have hissued : '\n' ∉ text "Issued At: " ++ params.issuedAt.format := by
    have hlabel : '\n' ∉ text "Issued At: " := by decide
    simp [hlabel, params.issuedAt.newline_not_mem_format]
  have hexpires : '\n' ∉ text "Expiration Time: " ++ params.expirationTime.format := by
    have hlabel : '\n' ∉ text "Expiration Time: " := by decide
    simp [hlabel, params.expirationTime.newline_not_mem_format]
  have h1 : text "Version: 1\nNonce: " = text "Version: 1" ++ '\n' :: text "Nonce: " := rfl
  have h2 : text "\nIssued At: " = '\n' :: text "Issued At: " := rfl
  have h3 : text "\nExpiration Time: " = '\n' :: text "Expiration Time: " := rfl
  have h4 : text "\nChain ID: " = '\n' :: text "Chain ID: " := rfl
  simp only [messageTail, h1, h2, h3, h4, List.append_assoc, List.cons_append]
  rw [List.splitOn_append_cons_self_of_not_mem hversion, ← List.append_assoc (text "Nonce: "),
    List.splitOn_append_cons_self_of_not_mem hnonceLine, ← List.append_assoc (text "Issued At: "),
    List.splitOn_append_cons_self_of_not_mem hissued]
  unfold chainLines
  cases chainSegment did with
  | none => simp [List.splitOn_eq_singleton hexpires]
  | some chain =>
      simp only [Option.map_some, Option.getD_some]
      rw [← List.append_assoc, List.splitOn_append_cons_self_of_not_mem hexpires]
      rfl

theorem chainLines_eq {chain : Str} (h : chainSegment did = some chain) :
    ∃ first rest, chainLines did = (text "Chain ID: " ++ first) :: rest ∧
      ∀ line ∈ rest, ':' ∉ line := by
  obtain ⟨_, _, hcolon⟩ := chainSegment_eq_some.mp h
  obtain ⟨first, rest, hsplit⟩ := List.exists_cons_of_ne_nil (List.splitOn_ne_nil '\n' chain)
  have hlabel : '\n' ∉ text "Chain ID: " := by decide
  refine ⟨first, rest, ?_, fun line hline hmem => ?_⟩
  · rw [chainLines, h]
    dsimp only
    rw [Text.splitOn_append_of_not_mem hlabel, hsplit]
    rfl
  · have hpiece : line ∈ chain.splitOn '\n' := hsplit ▸ List.mem_cons_of_mem _ hline
    exact hcolon (Text.subset_of_mem_splitOn hpiece hmem)

theorem length_chainLines (did : Str) :
    (chainLines did).length = ((chainSegment did).map (·.count '\n' + 1)).getD 0 := by
  unfold chainLines
  cases chainSegment did with
  | none => rfl
  | some chain =>
      have hlabel : (text "Chain ID: ").count '\n' = 0 := by decide
      simp [Text.length_splitOn, List.count_append, hlabel]

/-! ## Labels -/

variable {label : Str}

private theorem colon_mem_label (h : label ∈ messageLabels) : ':' ∈ label := by
  revert label
  decide

/-- A line without a colon carries no label. -/
theorem label_isPrefixOf_of_colon (h : label ∈ messageLabels) {line : Str} (hline : ':' ∉ line) :
    label.isPrefixOf line = false := by
  rw [Bool.eq_false_iff]
  intro hprefix
  exact hline ((List.isPrefixOf_iff_prefix.mp hprefix).subset (colon_mem_label h))

/-- The first line carries a label only if the domain does. -/
theorem label_isPrefixOf_domainLine (h : label ∈ messageLabels) {methodLabel : Str}
    (hdomain : label.isPrefixOf params.domain = false) :
    label.isPrefixOf (domainLine params methodLabel) = false := by
  have hshort : ∀ label ∈ messageLabels, label.length ≤ 16 ∧ ∀ k < label.length,
      (label.drop k).isPrefixOf (text " wants you to sign in with your ") = false := by decide
  rw [Bool.eq_false_iff] at hdomain ⊢
  intro hprefix
  apply hdomain
  rw [List.isPrefixOf_iff_prefix] at hprefix ⊢
  rw [domainLine, List.append_assoc, List.append_assoc] at hprefix
  by_cases hlen : label.length ≤ params.domain.length
  · exact List.prefix_of_prefix_length_le hprefix (List.prefix_append _ _) hlen
  · -- The label would run on into the fixed text.
    exfalso
    obtain ⟨rest, hrest⟩ := List.prefix_of_prefix_length_le (List.prefix_append params.domain _)
      hprefix (Nat.le_of_not_le hlen)
    rw [← hrest] at hprefix
    have hfixed := (List.prefix_append_right_inj params.domain).mp hprefix
    have hdrop : label.drop params.domain.length = rest := by
      rw [← hrest, List.drop_left]
    obtain ⟨hle, hnone⟩ := hshort label h
    have hbound : rest.length ≤ (text " wants you to sign in with your ").length := by
      have hlong : 16 ≤ (text " wants you to sign in with your ").length := by decide
      rw [← hdrop, List.length_drop]
      omega
    have hin := List.prefix_of_prefix_length_le hfixed (List.prefix_append _ _) hbound
    rw [← hdrop, ← List.isPrefixOf_iff_prefix, hnone _ (Nat.lt_of_not_le hlen)] at hin
    cases hin

theorem label_isPrefixOf_identifier (h : label ∈ messageLabels) {identifier : Str}
    (hid : IsIdentifier identifier) : label.isPrefixOf identifier = false := by
  apply label_isPrefixOf_of_colon h
  intro hmem
  exact absurd (hid.alphanumeric _ hmem) (by decide)

/-- Each label stands on one line of the template. -/
theorem countP_templateLines (h : label ∈ messageLabels) {identifier methodLabel : Str}
    (hid : IsIdentifier identifier) (hdomain : label.isPrefixOf params.domain = false) :
    (templateLines params identifier methodLabel).countP (label.isPrefixOf ·) = 1 := by
  have hfirst : label.isPrefixOf (domainLine params methodLabel) = false :=
    label_isPrefixOf_domainLine h hdomain
  have hsecond := label_isPrefixOf_identifier h hid
  rw [templateLines, List.countP_cons_of_neg (Bool.not_eq_true _ ▸ hfirst),
    List.countP_cons_of_neg (Bool.not_eq_true _ ▸ hsecond)]
  simp only [messageLabels, List.mem_cons, List.not_mem_nil, or_false] at h
  rcases h with rfl | rfl | rfl | rfl | rfl <;> simp [text]

theorem countP_chainLines (h : label ∈ messageLabels) (did : Str) :
    (chainLines did).countP (label.isPrefixOf ·) = 0 := by
  rw [List.countP_eq_zero]
  intro line hline
  cases hchain : chainSegment did with
  | none => simp [chainLines, hchain] at hline
  | some chain =>
      obtain ⟨first, rest, heq, hrest⟩ := chainLines_eq hchain
      rw [heq] at hline
      rcases List.mem_cons.mp hline with rfl | hline
      · simp only [messageLabels, List.mem_cons, List.not_mem_nil, or_false] at h
        rcases h with rfl | rfl | rfl | rfl | rfl <;> simp [text]
      · simp [label_isPrefixOf_of_colon h (hrest line hline)]

/-! ## The template -/

/-- A DID `ChallengeStore::create` has accepted. -/
def Admitted (B : Build) (did : Str) : Prop :=
  ∃ (store : ChallengeStore) (draws : ChallengeDraws) (challenge : Challenge),
    (store.create B did draws).1 = some (.ok challenge)

theorem Admitted.wellFormed (h : Admitted B did) : validateDidWellFormed B did = .ok () := by
  obtain ⟨store, draws, challenge, h⟩ := h
  unfold ChallengeStore.create at h
  cases hvalid : validateDidWellFormed B did with
  | ok _ => rfl
  | error e => simp [hvalid] at h

theorem Admitted.namesChain (h : Admitted B did) : ¬ NamesNoChain did := by
  have hvalid := h.wellFormed
  obtain ⟨store, draws, challenge, h⟩ := h
  have hexpiry : (store.expiry draws.now).isSome := by
    cases hexpiry : store.expiry draws.now with
    | some expires => rfl
    | none =>
        simp only [ChallengeStore.create, hvalid, ChallengeStore.issue,
          ChallengeStore.expiry_makeRoom, hexpiry] at h
        cases h
  exact (create_isOk_iff_namesChain hvalid hexpiry).mp ⟨challenge, h⟩

/-- A DID with the `eip155` prefix that names a chain has a chain segment. -/
theorem chainSegment_isSome_iff (h : ¬ NamesNoChain did) :
    (chainSegment did).isSome ↔ ∃ rest, did = text "did:pkh:eip155:" ++ rest := by
  constructor
  · intro hsome
    obtain ⟨chain, hchain⟩ := Option.isSome_iff_exists.mp hsome
    obtain ⟨rest, hdid, _⟩ := chainSegment_eq_some.mp hchain
    exact ⟨_, hdid⟩
  · rintro ⟨rest, rfl⟩
    have hcolon : ':' ∈ rest := by
      by_contra hnot
      exact h ⟨rest, Text.stripPrefix_append _ _, hnot⟩
    cases hsplit : Text.splitOnceChar ':' rest with
    | none => exact absurd hcolon (Text.splitOnceChar_eq_none.mp hsplit)
    | some parts => simp [chainSegment, hsplit]

/-- A message line by line. -/
structure FollowsTemplate (B : Build) (params : MessageParams) (message : Str) : Prop where
  lines : ∃ m identifier methodLabel, findDidMethod B params.did = some m ∧
    m.addressForMessage params.did = .ok identifier ∧
    m.methodLabel params.did = .ok methodLabel ∧
    message.splitOn '\n' = templateLines params identifier methodLabel ++ chainLines params.did
  hasChain : (chainSegment params.did).isSome ↔ ∃ rest, params.did = text "did:pkh:eip155:" ++ rest
  count : (message.splitOn '\n').length =
    10 + ((chainSegment params.did).map (·.count '\n' + 1)).getD 0
  oneChainLine : ∀ chain, chainSegment params.did = some chain → '\n' ∉ chain →
    (message.splitOn '\n').getLast? = some (text "Chain ID: " ++ chain)
  oneOfEach : ∀ label ∈ messageLabels, label.isPrefixOf params.domain = false →
    (message.splitOn '\n').countP (label.isPrefixOf ·) = 1
  unlabelled : ∀ line ∈ (message.splitOn '\n').drop 11, ':' ∉ line

theorem followsTemplate_of_buildMessage (hadmitted : Admitted B params.did)
    (hdomain : '\n' ∉ params.domain) (huri : '\n' ∉ params.uri) (hnonce : '\n' ∉ params.nonce)
    {message : Str} (hmessage : buildMessage B params = .ok message) :
    FollowsTemplate B params message := by
  have hvalid := hadmitted.wellFormed
  obtain ⟨m, identifier, methodLabel, hm, hid, hlabel, rfl⟩ := buildMessage_eq_ok.mp hmessage
  have hidentifier := address_isIdentifier hm hvalid hid
  have hlines : (messageBody params identifier methodLabel ++ chainIdLine m params.did).splitOn
      '\n' = templateLines params identifier methodLabel ++ chainLines params.did := by
    rw [splitOn_messageBody hdomain (newline_not_mem_methodLabel hm hlabel)
      hidentifier.newline_not_mem huri, chainIdLine_eq hm hvalid, splitOn_messageTail hnonce]
    rfl
  have hten : (templateLines params identifier methodLabel).length = 10 := rfl
  refine ⟨⟨m, identifier, methodLabel, hm, hid, hlabel, hlines⟩,
    chainSegment_isSome_iff hadmitted.namesChain, ?_, ?_, ?_, ?_⟩
  · rw [hlines, List.length_append, hten, length_chainLines]
  · intro chain hchain hone
    have hlabel : '\n' ∉ text "Chain ID: " ++ chain := by
      have hname : '\n' ∉ text "Chain ID: " := by decide
      simp [hname, hone]
    have hlast : chainLines params.did = [text "Chain ID: " ++ chain] := by
      rw [chainLines, hchain]
      exact List.splitOn_eq_singleton hlabel
    rw [hlines, hlast, List.getLast?_append_of_ne_nil _ (by simp)]
    rfl
  · intro label hlabel hfree
    rw [hlines, List.countP_append, countP_templateLines hlabel hidentifier hfree,
      countP_chainLines hlabel]
  · intro line hline
    rw [hlines] at hline
    cases hchain : chainSegment params.did with
    | none =>
        rw [chainLines, hchain] at hline
        simp [templateLines] at hline
    | some chain =>
        obtain ⟨first, rest, heq, hrest⟩ := chainLines_eq hchain
        rw [heq] at hline
        exact hrest line (by simpa [templateLines] using hline)

/-- The message of an accepted DID follows the template.  Line feeds in the chain segment start
lines without a colon. -/
theorem buildMessage_template (hadmitted : Admitted B params.did) (hdomain : '\n' ∉ params.domain)
    (huri : '\n' ∉ params.uri) (hnonce : '\n' ∉ params.nonce) :
    ∃ message, buildMessage B params = .ok message ∧ FollowsTemplate B params message := by
  have hvalid := hadmitted.wellFormed
  obtain ⟨message, hmessage⟩ := (buildMessage_isOk_iff_namesChain hvalid).mpr hadmitted.namesChain
  exact ⟨message, hmessage, followsTemplate_of_buildMessage hadmitted hdomain huri hnonce hmessage⟩

/-! ### A chain segment over two lines -/

/-- The template as one line for the chain, whatever the DID. -/
def OneLineEach (params : MessageParams) (message : Str) : Prop :=
  ∃ identifier methodLabel, message.splitOn '\n' = templateLines params identifier methodLabel ++
    ((chainSegment params.did).map (text "Chain ID: " ++ ·)).toList

/-- Every label on one line, for each domain without the label of the URI. -/
def OneOfEachLabel (params : MessageParams) (message : Str) : Prop :=
  (text "URI:").isPrefixOf params.domain = false → ∀ label ∈ messageLabels,
    (message.splitOn '\n').countP (label.isPrefixOf ·) = 1

/-- The chain segment holds a line feed. -/
def brokenChainDid : Str := text "did:pkh:eip155:1\nURI:0x" ++ addressHex

def sampleMessageParams (did domain : Str) : MessageParams where
  did := did
  domain := domain
  uri := text "http://127.0.0.1:3000"
  nonce := text "0x00"
  issuedAt := sampleReading.1
  expirationTime := sampleReading.1

theorem admitted_of_segment (rest : Str) (hvalid : validateDidWellFormed keylessBuild
    (text "did:pkh:eip155:" ++ rest) = .ok ()) (hcolon : ':' ∈ rest) :
    Admitted keylessBuild (text "did:pkh:eip155:" ++ rest) := by
  refine ⟨sampleStore, sampleDraws, (create_isOk_iff_namesChain hvalid (by decide)).mpr ?_⟩
  rintro ⟨address, hstrip, hnot⟩
  rw [Text.stripPrefix_append] at hstrip
  obtain rfl := Option.some.inj hstrip
  exact hnot hcolon

theorem admitted_brokenChain : Admitted keylessBuild brokenChainDid :=
  admitted_of_segment (text "1\nURI:0x" ++ addressHex) (by decide +kernel) (by decide)

theorem admitted_mainnet : Admitted keylessBuild mainnetDid :=
  admitted_of_segment (text "1:0x" ++ addressHex) (by decide +kernel) (by decide)

/-- A DID adds a line, and a domain the label of another line. -/
theorem buildMessage_template_fails :
    (¬ ∀ (B : Build) (params : MessageParams) (message : Str), Admitted B params.did →
      '\n' ∉ params.domain → '\n' ∉ params.uri → '\n' ∉ params.nonce →
      buildMessage B params = .ok message → OneLineEach params message) ∧
    ¬ ∀ (B : Build) (params : MessageParams) (message : Str), Admitted B params.did →
      '\n' ∉ params.domain → '\n' ∉ params.uri → '\n' ∉ params.nonce →
      buildMessage B params = .ok message → OneOfEachLabel params message := by
  constructor
  · intro hclaim
    let params := sampleMessageParams brokenChainDid (text "aqua-node")
    have hbuilt : ∃ message, buildMessage keylessBuild params = .ok message := ⟨_, rfl⟩
    obtain ⟨message, hmessage⟩ := hbuilt
    have htemplate := followsTemplate_of_buildMessage admitted_brokenChain (by decide) (by decide)
      (by decide) hmessage
    obtain ⟨identifier, methodLabel, hlines⟩ := hclaim keylessBuild _ message admitted_brokenChain
      (by decide) (by decide) (by decide) hmessage
    have htwelve : (message.splitOn '\n').length = 12 := htemplate.count
    have heleven : (message.splitOn '\n').length = 11 := by
      rw [hlines]
      rfl
    omega
  · intro hclaim
    let params := sampleMessageParams mainnetDid (text "Version: 2")
    have hbuilt : ∃ message, buildMessage keylessBuild params = .ok message := ⟨_, rfl⟩
    obtain ⟨message, hmessage⟩ := hbuilt
    have hone := hclaim keylessBuild params message admitted_mainnet (by decide) (by decide)
      (by decide) hmessage (by decide) (text "Version:") (by decide)
    have htwo : (buildMessage keylessBuild params).map (fun message =>
        (message.splitOn '\n').countP ((text "Version:").isPrefixOf ·)) = .ok 2 := by
      decide +kernel
    rw [hmessage] at htwo
    exact absurd (hone.symm.trans (Except.ok.inj htwo)) (by decide)

/-- The message of an address on a chain follows the template. -/
theorem buildMessage_template_mainnet : ∃ message,
    buildMessage keylessBuild (sampleMessageParams mainnetDid (text "aqua-node")) = .ok message ∧
      FollowsTemplate keylessBuild (sampleMessageParams mainnetDid (text "aqua-node")) message :=
  buildMessage_template admitted_mainnet (by decide) (by decide) (by decide)

end AquaAuth
