import AquaAuth.Model.HttpSig.Base
set_option autoImplicit false
/-!
# What a signature base determines

The base is a few lines of text.  The parameters line is the last one, and of the
component lines only the authority can hold a line feed, so the text determines
the components, their values and the parameters.
-/

namespace AquaAuth

open Support Support.Result Support.StructuredField

/-- What is assumed of `sfv` here: the text of an inner list determines it and has
no line feed. -/
structure Sfv.PrintsLists (S : Sfv) : Prop where
  injective : ∀ {l l' : InnerList} {out : Str}, l.Simple → l'.Simple →
    S.serializeList l = some out → S.serializeList l' = some out → l = l'
  oneLine : ∀ {l : InnerList} {out : Str}, l.Simple → S.serializeList l = some out → '\n' ∉ out

theorem Sfv.reference_printsLists : Sfv.PrintsLists Sfv.reference where
  injective h h' hl hl' := serializeInnerList_injective h h' hl hl'
  oneLine h hout hmem := by
    have := (printable_innerList h hout).chars _ hmem
    exact absurd this (by decide)

namespace HttpSig

variable {S : Sfv} {parts : RequestParts} {params : SignatureParams}

/-! ## Parameters -/

private theorem sfString_eq_ok {value : Str} {s : SfString} :
    sfString S value = .ok s ↔ s.1 = value := by
  unfold sfString
  split_ifs with h
  · simp [Subtype.ext_iff, eq_comm]
  · simp only [false_iff]
    rintro rfl
    exact h s.2

private theorem sfInteger_eq_ok {value : Int} {n : SfInteger} :
    sfInteger S value = .ok n ↔ n.1 = value := by
  unfold sfInteger
  split_ifs with h
  · simp [Subtype.ext_iff, eq_comm]
  · simp only [false_iff]
    rintro rfl
    exact h n.2

theorem sfKey_eq_ok {name : Str} {key : Key} : sfKey S name = .ok key ↔ key.1 = name := by
  unfold sfKey
  split_ifs with h
  · simp [Subtype.ext_iff, eq_comm]
  · simp only [false_iff]
    rintro rfl
    exact h key.2

/-- The inner list of some parameters holds exactly them. -/
theorem paramsInnerList_eq_ok {inner : InnerList} :
    paramsInnerList S params = .ok inner ↔
      ∃ (names : List SfString) (created expires : SfInteger) (keyid alg nonce tag : SfString),
        params = ⟨names.map Subtype.val, created.1, expires.1, keyid.1, alg.1, nonce.1, tag.1⟩ ∧
        inner = ⟨names.map fun name => ⟨.string name, .empty⟩,
          sixParameters created expires keyid alg nonce tag⟩ := by
  obtain ⟨covered, created, expires, keyid, alg, nonce, tag⟩ := params
  have hnames : ∀ {names : List SfString}, covered.mapM (sfString S) = .ok names ↔
      covered = names.map Subtype.val := by
    intro names
    rw [mapM_eq_ok]
    simp only [sfString_eq_ok]
    rw [← List.forall₂_map_right_iff (f := Subtype.val) (R := fun a b => b = a)]
    simp only [eq_comm (b := (_ : Str)), List.forall₂_eq_eq_eq]
  simp only [paramsInnerList, bind_eq_ok, hnames, sfInteger_eq_ok, sfString_eq_ok, pure_eq_ok,
    Except.ok.injEq, SignatureParams.mk.injEq]
  constructor
  · rintro ⟨names, rfl, c, rfl, e, rfl, k, rfl, a, rfl, n, rfl, t, rfl, rfl⟩
    exact ⟨names, c, e, k, a, n, t, ⟨rfl, rfl, rfl, rfl, rfl, rfl, rfl⟩, rfl⟩
  · rintro ⟨names, c, e, k, a, n, t, ⟨rfl, rfl, rfl, rfl, rfl, rfl, rfl⟩, rfl⟩
    exact ⟨names, rfl, c, rfl, e, rfl, k, rfl, a, rfl, n, rfl, t, rfl, rfl⟩

theorem paramsInnerList_simple {inner : InnerList} (h : paramsInnerList S params = .ok inner) :
    inner.Simple := by
  obtain ⟨names, created, expires, keyid, alg, nonce, tag, _, rfl⟩ := paramsInnerList_eq_ok.mp h
  constructor
  · intro item hitem
    obtain ⟨name, _, rfl⟩ := List.mem_map.mp hitem
    exact ⟨rfl, name, rfl⟩
  · intro p hp
    simp only [sixParameters, List.mem_cons, List.not_mem_nil, or_false] at hp
    rcases hp with rfl | rfl | rfl | rfl | rfl | rfl <;> trivial

/-- The inner list determines the parameters. -/
theorem paramsInnerList_injective {params' : SignatureParams} {inner : InnerList}
    (h : paramsInnerList S params = .ok inner) (h' : paramsInnerList S params' = .ok inner) :
    params = params' := by
  obtain ⟨names, c, e, k, a, n, t, rfl, rfl⟩ := paramsInnerList_eq_ok.mp h
  obtain ⟨names', c', e', k', a', n', t', rfl, heq⟩ := paramsInnerList_eq_ok.mp h'
  simp only [InnerList.mk.injEq, sixParameters, KeyedMap.mk.injEq, List.cons.injEq,
    Prod.mk.injEq, BareItem.integer.injEq, BareItem.string.injEq] at heq
  obtain ⟨hnames, ⟨_, rfl⟩, ⟨_, rfl⟩, ⟨_, rfl⟩, ⟨_, rfl⟩, ⟨_, rfl⟩, ⟨_, rfl⟩, _⟩ := heq
  have hinj : Function.Injective fun name : SfString => (⟨.string name, .empty⟩ : Item) := by
    intro a b hab
    simpa using hab
  rw [hinj.list_map hnames]

theorem serializeSignatureParams_eq_ok {out : Str} :
    serializeSignatureParams S params = .ok out ↔
      ∃ inner, paramsInnerList S params = .ok inner ∧ S.serializeList inner = some out := by
  simp only [serializeSignatureParams, bind_eq_ok, okOr_eq_ok]

theorem serializeSignatureParams_injective (hS : S.PrintsLists) {params' : SignatureParams}
    {out : Str} (h : serializeSignatureParams S params = .ok out)
    (h' : serializeSignatureParams S params' = .ok out) : params = params' := by
  obtain ⟨inner, hinner, hout⟩ := serializeSignatureParams_eq_ok.mp h
  obtain ⟨inner', hinner', hout'⟩ := serializeSignatureParams_eq_ok.mp h'
  obtain rfl := hS.injective (paramsInnerList_simple hinner) (paramsInnerList_simple hinner')
    hout hout'
  exact paramsInnerList_injective hinner hinner'

theorem newline_not_mem_serializeSignatureParams (hS : S.PrintsLists) {out : Str}
    (h : serializeSignatureParams S params = .ok out) : '\n' ∉ out := by
  obtain ⟨inner, hinner, hout⟩ := serializeSignatureParams_eq_ok.mp h
  exact hS.oneLine (paramsInnerList_simple hinner) hout

/-! ## Component lines -/

/-- The trimmed `Signature-Agent` value, on one line. -/
theorem componentValue_signatureAgent {value : Str} :
    componentValue componentSignatureAgent parts = .ok value ↔
      ∃ raw, parts.signatureAgent = some raw ∧ value = Text.trim raw ∧ value ≠ [] ∧
        '\r' ∉ value ∧ '\n' ∉ value := by
  have hne : componentSignatureAgent ≠ componentAuthority := by decide
  simp only [componentValue, if_neg hne, if_true, bind_eq_ok, okOr_eq_ok, ensure_eq_ok,
    pure_eq_ok, Except.ok.injEq]
  constructor
  · rintro ⟨raw, hraw, _, hnonempty, _, hline, rfl⟩
    exact ⟨raw, hraw, rfl, hnonempty, hline⟩
  · rintro ⟨raw, hraw, rfl, hnonempty, hline⟩
    exact ⟨raw, hraw, (), hnonempty, (), hline, rfl⟩

theorem componentLines_cons {seen names : List Str} {name lines : Str} :
    componentLines parts seen (name :: names) = .ok lines ↔
      name ∈ allowedComponents ∧ name ∉ seen ∧ ∃ value rest,
        componentValue name parts = .ok value ∧
        componentLines parts (seen ++ [name]) names = .ok rest ∧
        lines = componentLine name value ++ rest := by
  simp only [componentLines, bind_eq_ok, ensure_eq_ok, pure_eq_ok, Except.ok.injEq]
  constructor
  · rintro ⟨_, hallowed, _, hnew, value, hvalue, rest, hrest, rfl⟩
    exact ⟨hallowed, hnew, value, rest, hvalue, hrest, rfl⟩
  · rintro ⟨hallowed, hnew, value, rest, hvalue, hrest, rfl⟩
    exact ⟨(), hallowed, (), hnew, value, hvalue, rest, hrest, rfl⟩

theorem componentLines_nil {seen : List Str} {lines : Str} :
    componentLines parts seen [] = .ok lines ↔ componentAuthority ∈ seen ∧ lines = [] := by
  simp only [componentLines, bind_eq_ok, ensure_eq_ok, pure_eq_ok, Except.ok.injEq]
  constructor
  · rintro ⟨_, hmem, rfl⟩
    exact ⟨hmem, rfl⟩
  · rintro ⟨hmem, rfl⟩
    exact ⟨(), hmem, rfl⟩

/-- The component lines a base can have, for each list of covered components. -/
inductive CoveredText (parts : RequestParts) : List Str → Str → Prop
  | authority {authority : Str} (h : authorityFromUri parts.targetUri = .ok authority) :
      CoveredText parts [componentAuthority] (componentLine componentAuthority authority)
  | authorityAgent {authority agent : Str}
      (h : authorityFromUri parts.targetUri = .ok authority)
      (hagent : componentValue componentSignatureAgent parts = .ok agent) :
      CoveredText parts [componentAuthority, componentSignatureAgent]
        (componentLine componentAuthority authority ++
          componentLine componentSignatureAgent agent)
  | agentAuthority {authority agent : Str}
      (h : authorityFromUri parts.targetUri = .ok authority)
      (hagent : componentValue componentSignatureAgent parts = .ok agent) :
      CoveredText parts [componentSignatureAgent, componentAuthority]
        (componentLine componentSignatureAgent agent ++
          componentLine componentAuthority authority)

theorem coveredText_of_componentLines {covered : List Str} {lines : Str}
    (h : componentLines parts [] covered = .ok lines) : CoveredText parts covered lines := by
  have hne : componentSignatureAgent ≠ componentAuthority := by decide
  have hvalue : componentValue componentAuthority parts = authorityFromUri parts.targetUri :=
    if_pos rfl
  -- A third component would repeat one of the two that are allowed.
  have hthird : ∀ (seen names : List Str) (name : Str) (rest : Str),
      componentAuthority ∈ seen → componentSignatureAgent ∈ seen →
      componentLines parts seen (name :: names) ≠ .ok rest := by
    intro seen names name rest hauthority hagent hok
    obtain ⟨hallowed, hnew, _⟩ := componentLines_cons.mp hok
    simp only [allowedComponents, List.mem_cons, List.not_mem_nil, or_false] at hallowed
    rcases hallowed with rfl | rfl
    · exact hnew hauthority
    · exact hnew hagent
  cases covered with
  | nil => simp [componentLines_nil] at h
  | cons first names =>
      obtain ⟨hfirst, _, value, rest, hv, hrest, rfl⟩ := componentLines_cons.mp h
      simp only [List.nil_append, allowedComponents, List.mem_cons, List.not_mem_nil,
        or_false] at hfirst hrest
      cases names with
      | nil =>
          obtain ⟨hmem, rfl⟩ := componentLines_nil.mp hrest
          obtain rfl := List.mem_singleton.mp hmem
          rw [List.append_nil]
          exact .authority (hvalue ▸ hv)
      | cons second names =>
          obtain ⟨hsecond, hnew, value', rest', hv', hrest', rfl⟩ := componentLines_cons.mp hrest
          simp only [allowedComponents, List.mem_cons, List.not_mem_nil, or_false,
            List.singleton_append] at hsecond hnew hrest'
          cases names with
          | cons third names =>
              rcases hfirst with rfl | rfl <;> rcases hsecond with rfl | rfl
              · exact absurd rfl hnew
              · exact absurd hrest' (hthird _ _ _ _ (by simp) (by simp))
              · exact absurd hrest' (hthird _ _ _ _ (by simp) (by simp))
              · exact absurd rfl hnew
          | nil =>
              obtain ⟨_, rfl⟩ := componentLines_nil.mp hrest'
              rw [List.append_nil]
              rcases hfirst with rfl | rfl <;> rcases hsecond with rfl | rfl
              · exact absurd rfl hnew
              · exact .authorityAgent (hvalue ▸ hv) hv'
              · exact .agentAuthority (hvalue ▸ hv') hv
              · exact absurd rfl hnew

/-- The values a request gives to the covered components. -/
structure SameValues (parts parts' : RequestParts) (covered : List Str) : Prop where
  authority : ∃ authority, authorityFromUri parts.targetUri = .ok authority ∧
    authorityFromUri parts'.targetUri = .ok authority
  signatureAgent : componentSignatureAgent ∈ covered → ∃ raw raw',
    parts.signatureAgent = some raw ∧ parts'.signatureAgent = some raw' ∧
    Text.trim raw = Text.trim raw'

private theorem sameValues_intro {parts parts' : RequestParts} {covered : List Str}
    {authority agent : Str} (h : authorityFromUri parts.targetUri = .ok authority)
    (h' : authorityFromUri parts'.targetUri = .ok authority)
    (hagent : componentValue componentSignatureAgent parts = .ok agent)
    (hagent' : componentValue componentSignatureAgent parts' = .ok agent) :
    SameValues parts parts' covered := by
  obtain ⟨raw, hraw, heq, _⟩ := componentValue_signatureAgent.mp hagent
  obtain ⟨raw', hraw', heq', _⟩ := componentValue_signatureAgent.mp hagent'
  exact ⟨⟨authority, h, h'⟩, fun _ => ⟨raw, raw', hraw, hraw', heq.symm.trans heq'⟩⟩

/-- A component line without its line feed. -/
def componentText (name value : Str) : Str := '"' :: name ++ text "\": " ++ value

theorem componentLine_eq (name value : Str) :
    componentLine name value = componentText name value ++ ['\n'] := rfl

private theorem componentText_inj {name value value' : Str}
    (h : componentText name value = componentText name value') : value = value' := by
  simpa [componentText] using h

theorem newline_not_mem_componentText {name value : Str} (hname : name ∈ allowedComponents)
    (h : '\n' ∉ value) : '\n' ∉ componentText name value := by
  have hallowed : ∀ name ∈ allowedComponents, '\n' ∉ '"' :: name ++ text "\": " := by decide
  rw [componentText, List.mem_append, not_or]
  exact ⟨hallowed name hname, h⟩

theorem newline_not_mem_agentText {agent : Str}
    (h : componentValue componentSignatureAgent parts = .ok agent) :
    '\n' ∉ componentText componentSignatureAgent agent := by
  obtain ⟨_, _, _, _, _, hline⟩ := componentValue_signatureAgent.mp h
  exact newline_not_mem_componentText (by decide) hline

/-- The authority may hold a line feed; the agent's line ends at its own. -/
theorem CoveredText.sameValues {parts' : RequestParts} {covered : List Str} {lines : Str}
    (h : CoveredText parts covered lines) (h' : CoveredText parts' covered lines) :
    SameValues parts parts' covered := by
  generalize hcovered : covered = covered' at h'
  generalize hlines : lines = lines' at h'
  cases h with
  | authority ha =>
      cases h' with
      | authority ha' =>
          obtain rfl := componentText_inj (List.append_cancel_right hlines)
          exact ⟨⟨_, ha, ha'⟩, fun hmem => absurd (List.mem_singleton.mp hmem) (by decide)⟩
      | authorityAgent _ _ => exact absurd hcovered (by decide)
      | agentAuthority _ _ => exact absurd hcovered (by decide)
  | authorityAgent ha hagent =>
      cases h' with
      | authority _ => exact absurd hcovered (by decide)
      | authorityAgent ha' hagent' =>
          simp only [componentLine_eq, List.append_assoc, List.singleton_append] at hlines
          simp only [← List.cons_append, ← List.append_assoc, List.append_cancel_right_eq]
            at hlines
          obtain ⟨hfirst, hlast⟩ := Text.append_cons_inj_right (newline_not_mem_agentText hagent)
            (newline_not_mem_agentText hagent') (by simpa using hlines)
          obtain rfl := componentText_inj hfirst
          obtain rfl := componentText_inj hlast
          exact sameValues_intro ha ha' hagent hagent'
      | agentAuthority _ _ => exact absurd hcovered (by decide)
  | agentAuthority ha hagent =>
      cases h' with
      | authority _ => exact absurd hcovered (by decide)
      | authorityAgent _ _ => exact absurd hcovered (by decide)
      | agentAuthority ha' hagent' =>
          simp only [componentLine_eq, List.append_assoc, List.singleton_append] at hlines
          obtain ⟨hfirst, hlast⟩ := Text.append_cons_inj_left (newline_not_mem_agentText hagent)
            (newline_not_mem_agentText hagent') hlines
          obtain rfl := componentText_inj hfirst
          obtain rfl := componentText_inj (List.append_cancel_right hlast)
          exact sameValues_intro ha ha' hagent hagent'

/-! ## The base -/

theorem buildSignatureBase_eq_ok {base : Str} :
    buildSignatureBase S parts params = .ok base ↔
      ∃ lines serialized, componentLines parts [] params.covered = .ok lines ∧
        serializeSignatureParams S params = .ok serialized ∧
        base = lines ++ paramsLine serialized ∧ Text.isAscii base = true := by
  simp only [buildSignatureBase, bind_eq_ok, ensure_eq_ok, pure_eq_ok, Except.ok.injEq]
  constructor
  · rintro ⟨lines, hlines, serialized, hserialized, _, hascii, rfl⟩
    exact ⟨lines, serialized, hlines, hserialized, rfl, hascii⟩
  · rintro ⟨lines, serialized, hlines, hserialized, rfl, hascii⟩
    exact ⟨lines, hlines, serialized, hserialized, (), hascii, rfl⟩

theorem newline_not_mem_paramsLine {serialized : Str} (h : '\n' ∉ serialized) :
    '\n' ∉ paramsLine serialized := by
  have hname : '\n' ∉ '"' :: componentSignatureParams ++ text "\": " := by decide
  rw [paramsLine, List.mem_append, not_or]
  exact ⟨hname, h⟩

/-- Component lines end in a line feed. -/
theorem CoveredText.exists_append {covered : List Str} {lines : Str}
    (h : CoveredText parts covered lines) : ∃ rest, lines = rest ++ ['\n'] := by
  cases h with
  | authority _ => exact ⟨_, componentLine_eq _ _⟩
  | authorityAgent _ _ => exact ⟨_, by rw [componentLine_eq componentSignatureAgent,
      ← List.append_assoc]⟩
  | agentAuthority _ _ => exact ⟨_, by rw [componentLine_eq componentAuthority,
      ← List.append_assoc]⟩

/-- The base determines its two halves. -/
theorem lines_paramsLine_inj {parts' : RequestParts} {covered covered' : List Str}
    {lines lines' serialized serialized' : Str} (h : CoveredText parts covered lines)
    (h' : CoveredText parts' covered' lines') (hs : '\n' ∉ serialized)
    (hs' : '\n' ∉ serialized')
    (heq : lines ++ paramsLine serialized = lines' ++ paramsLine serialized') :
    lines = lines' ∧ serialized = serialized' := by
  obtain ⟨rest, rfl⟩ := h.exists_append
  obtain ⟨rest', rfl⟩ := h'.exists_append
  simp only [List.append_assoc, List.singleton_append] at heq
  obtain ⟨rfl, hline⟩ := Text.append_cons_inj_right (newline_not_mem_paramsLine hs)
    (newline_not_mem_paramsLine hs') heq
  exact ⟨rfl, List.append_cancel_left hline⟩

/-- Equal bases cover equal values under equal parameters. -/
theorem buildSignatureBase_injective (hS : S.PrintsLists) {parts' : RequestParts}
    {params' : SignatureParams} {base : Str} (h : buildSignatureBase S parts params = .ok base)
    (h' : buildSignatureBase S parts' params' = .ok base) :
    params = params' ∧ SameValues parts parts' params.covered := by
  obtain ⟨lines, serialized, hlines, hserialized, hbase, _⟩ := buildSignatureBase_eq_ok.mp h
  obtain ⟨lines', serialized', hlines', hserialized', hbase', _⟩ := buildSignatureBase_eq_ok.mp h'
  have htext := coveredText_of_componentLines hlines
  have htext' := coveredText_of_componentLines hlines'
  obtain ⟨rfl, rfl⟩ := lines_paramsLine_inj htext htext'
    (newline_not_mem_serializeSignatureParams hS hserialized)
    (newline_not_mem_serializeSignatureParams hS hserialized') (hbase.symm.trans hbase')
  obtain rfl := serializeSignatureParams_injective hS hserialized hserialized'
  exact ⟨rfl, htext.sameValues htext'⟩

/-! ## Two spellings of one request -/

def sampleParts : RequestParts where
  targetUri := text "https://Node.example.com/v1/trees"
  signatureAgent := some (text " \"https://directory.example.com\"")

def sampleParts' : RequestParts where
  targetUri := text "https://user@node.example.com:443?page=1"
  signatureAgent := some (text "\"https://directory.example.com\" ")

def sampleParams : SignatureParams where
  covered := [componentSignatureAgent, componentAuthority]
  created := 1618884473
  expires := 1618884773
  keyid := text "did:key:z6MkhaXg"
  alg := algEd25519
  nonce := text "e4ZQMcuRoxHt"
  tag := tagAquaInternal

def sampleBase : Str :=
  text "\"signature-agent\": \"https://directory.example.com\"\n" ++
    text "\"@authority\": node.example.com\n" ++
    text "\"@signature-params\": " ++
    text "(\"signature-agent\" \"@authority\")" ++
    text ";created=1618884473;expires=1618884773" ++
    text ";keyid=\"did:key:z6MkhaXg\";alg=\"ed25519\"" ++
    text ";nonce=\"e4ZQMcuRoxHt\";tag=\"aqua-auth\""

theorem buildSignatureBase_injective_sample :
    SameValues sampleParts sampleParts' sampleParams.covered := by
  have h : buildSignatureBase .reference sampleParts sampleParams = .ok sampleBase := by
    decide +kernel
  have h' : buildSignatureBase .reference sampleParts' sampleParams = .ok sampleBase := by
    decide +kernel
  exact (buildSignatureBase_injective Sfv.reference_printsLists h h').2

end HttpSig

end AquaAuth
