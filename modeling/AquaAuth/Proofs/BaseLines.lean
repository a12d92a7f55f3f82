import AquaAuth.Proofs.SignatureBase
import AquaAuth.Support.DateTime
set_option autoImplicit false
/-!
# Lines of a signature base

A base has one line for each covered component and a last one for the parameters.  The value of
`Signature-Agent` is checked for line breaks and the parameters are printable; the authority is
taken out of the target URI as it stands, so a line break in the host adds a line.
-/

namespace AquaAuth

open Support Support.Result

/-- What is assumed of `sfv` here: a serialized inner list is printable. -/
def Sfv.PrintsVisible (S : Sfv) : Prop :=
  ∀ {l : StructuredField.InnerList} {out : Str}, l.Simple → S.serializeList l = some out →
    ∀ c ∈ out, StructuredField.isStringChar c = true

theorem Sfv.reference_printsVisible : Sfv.PrintsVisible Sfv.reference := fun h hout =>
  (StructuredField.printable_innerList h hout).chars

namespace HttpSig

variable {S : Sfv} {parts : RequestParts} {params : SignatureParams}

def isLineBreak (c : Char) : Bool := c = '\n' || c = '\r'

/-! ## The authority -/

/-- A port is of digits, after a plus sign perhaps. -/
theorem mem_of_parseU16 {port : Str} {n : Nat} (h : parseU16 port = some n) {c : Char}
    (hc : c ∈ port) : c = '+' ∨ c.isDigit = true := by
  have hdigits : ∀ digits : Str, ¬ (digits = [] ∨ digits.any (fun c => !c.isDigit) = true) →
      ∀ c ∈ digits, c.isDigit = true := by
    intro digits hdigits c hc
    rw [not_or] at hdigits
    simpa using List.any_eq_false.mp (Bool.eq_false_iff.mpr hdigits.2) c hc
  unfold parseU16 at h
  dsimp only at h
  split_ifs at h with hbad hlt
  split at hbad
  · rcases List.mem_cons.mp hc with rfl | hc
    · exact .inl rfl
    · exact .inr (hdigits _ hbad c hc)
  · exact .inr (hdigits _ hbad c hc)

/-- The authority is cut into its host and what follows a colon. -/
theorem splitHostPort_eq_append {uri authority host : Str} {port : Option Str}
    (h : splitHostPort uri authority = .ok (host, port)) :
    authority = host ++ (port.map (':' :: ·)).getD [] := by
  unfold splitHostPort at h
  split at h
  · rename_i before tail hsplit
    rw [(Text.rsplitOnceChar_eq_some.mp hsplit).1]
    split_ifs at h
    split at h
    · obtain ⟨rfl, rfl⟩ := Prod.mk.inj (Except.ok.inj h)
      simp
    · obtain ⟨rfl, rfl⟩ := Prod.mk.inj (Except.ok.inj h)
      simp
    · cases h
  · split at h
    · rename_i left right hsplit
      obtain ⟨rfl, rfl⟩ := Prod.mk.inj (Except.ok.inj h)
      exact (Text.splitOnceChar_eq_some.mp hsplit).1
    · obtain ⟨rfl, rfl⟩ := Prod.mk.inj (Except.ok.inj h)
      simp

/-- The authority keeps the characters of the host that are not part of a name or a port. -/
theorem mem_authorityFromUri_iff {uri scheme rest authority : Str} {c : Char}
    (h : authorityFromUri uri = .ok authority)
    (hsplit : Text.splitOnce (text "://") uri = some (scheme, rest))
    (hletter : c.isAlpha = false) (hdigit : c.isDigit = false) (hcolon : c ≠ ':')
    (hplus : c ≠ '+') :
    c ∈ authority ↔ c ∈ hostPortText rest := by
  obtain ⟨⟨scheme', rest'⟩, hsplit', h⟩ := bind_eq_ok.mp h
  cases hsplit.symm.trans (okOr_eq_ok.mp hsplit')
  obtain ⟨port₀, _, h⟩ := bind_eq_ok.mp h
  obtain ⟨_, _, h⟩ := bind_eq_ok.mp h
  obtain ⟨⟨host, port⟩, hhost, h⟩ := bind_eq_ok.mp h
  obtain ⟨_, _, h⟩ := bind_eq_ok.mp h
  have hlower : c ∈ Text.asciiLower host ↔ c ∈ host := Text.mem_asciiLower_iff hletter
  rw [splitHostPort_eq_append hhost]
  cases port with
  | none =>
      obtain rfl := Except.ok.inj h
      simp [hlower]
  | some port =>
      obtain ⟨n, hport, h⟩ := bind_eq_ok.mp h
      have hnotPort : c ∉ port := by
        intro hmem
        rcases mem_of_parseU16 (okOr_eq_ok.mp hport) hmem with heq | hdigit'
        · exact hplus heq
        · simp [hdigit] at hdigit'
      have hnotDecimal : c ∉ Text.decimal n := by
        intro hmem
        have hdigit' := DateTime.isDigit_of_mem_decimal hmem
        simp [hdigit] at hdigit'
      split_ifs at h
      · obtain rfl := Except.ok.inj h
        simp [hlower, hcolon, hnotPort]
      · obtain rfl := Except.ok.inj h
        simp [hlower, hcolon, hnotPort, hnotDecimal]

/-- A line break stands between `://` and the path, after any user information. -/
def breaksHost (targetUri : Str) : Bool :=
  match Text.splitOnce (text "://") targetUri with
  | some (_, rest) => (hostPortText rest).any isLineBreak
  | none => false

/-- The authority holds a line break when the host of the target URI does. -/
theorem any_isLineBreak_authorityFromUri {uri authority : Str}
    (h : authorityFromUri uri = .ok authority) :
    authority.any isLineBreak = breaksHost uri := by
  obtain ⟨⟨scheme, rest⟩, hsplit, _⟩ := bind_eq_ok.mp h
  have hsplit := okOr_eq_ok.mp hsplit
  have hbreaks : breaksHost uri = (hostPortText rest).any isLineBreak := by
    rw [breaksHost, hsplit]
  rw [hbreaks, Bool.eq_iff_iff, List.any_eq_true, List.any_eq_true]
  apply exists_congr
  intro c
  apply and_congr_left
  intro hbreak
  rw [isLineBreak, Bool.or_eq_true, decide_eq_true_eq, decide_eq_true_eq] at hbreak
  rcases hbreak with rfl | rfl
  · exact mem_authorityFromUri_iff h hsplit (by decide) (by decide) (by decide) (by decide)
  · exact mem_authorityFromUri_iff h hsplit (by decide) (by decide) (by decide) (by decide)

/-! ## The component lines -/

/-- One line for each covered component, with the value the request gives it. -/
theorem componentLines_eq_flatten {seen names : List Str} {lines : Str}
    (h : componentLines parts seen names = .ok lines) :
    ∃ values, List.Forall₂ (fun name value => componentValue name parts = .ok value) names values ∧
      (∀ name ∈ names, name ∈ allowedComponents) ∧
      lines = (List.zipWith componentLine names values).flatten := by
  induction names generalizing seen lines with
  | nil => exact ⟨[], .nil, by simp, (componentLines_nil.mp h).2⟩
  | cons name names ih =>
      obtain ⟨hallowed, _, value, rest, hvalue, hrest, rfl⟩ := componentLines_cons.mp h
      obtain ⟨values, hvalues, hnames, rfl⟩ := ih hrest
      refine ⟨value :: values, .cons hvalue hvalues, ?_, rfl⟩
      rw [List.forall_mem_cons]
      exact ⟨hallowed, hnames⟩

theorem splitOn_componentLines {names values : List Str} {last : Str}
    (hnames : ∀ name ∈ names, name ∈ allowedComponents) (hvalues : ∀ value ∈ values, '\n' ∉ value)
    (hlast : '\n' ∉ last) :
    ((List.zipWith componentLine names values).flatten ++ last).splitOn '\n' =
      List.zipWith componentText names values ++ [last] := by
  induction names generalizing values with
  | nil => simpa using List.splitOn_eq_singleton hlast
  | cons name names ih =>
      cases values with
      | nil => simpa using List.splitOn_eq_singleton hlast
      | cons value values =>
          have htext : '\n' ∉ componentText name value :=
            newline_not_mem_componentText (hnames name List.mem_cons_self)
              (hvalues value List.mem_cons_self)
          have hrest := @ih values (fun n hn => hnames n (List.mem_cons_of_mem _ hn))
            (fun v hv => hvalues v (List.mem_cons_of_mem _ hv))
          simp only [List.zipWith_cons_cons, List.flatten_cons, componentLine_eq,
            List.append_assoc, List.cons_append, List.nil_append]
          rw [List.splitOn_append_cons_self_of_not_mem htext, hrest]

/-- Each covered component has its line. -/
theorem exists_value_of_mem {names values : List Str} {name : Str}
    (h : List.Forall₂ (fun name value => componentValue name parts = .ok value) names values)
    (hname : name ∈ names) :
    ∃ value, componentValue name parts = .ok value ∧
      ∀ line : Str → Str → Str, line name value ∈ List.zipWith line names values := by
  induction h with
  | nil => cases hname
  | @cons first value names values hfirst _ ih =>
      rcases List.mem_cons.mp hname with rfl | hname
      · exact ⟨value, hfirst, fun _ => List.mem_cons_self⟩
      · obtain ⟨value', hvalue', hmem⟩ := ih hname
        exact ⟨value', hvalue', fun line => List.mem_cons_of_mem _ (hmem line)⟩

theorem exists_name_of_mem {names values : List Str} {value : Str}
    (h : List.Forall₂ (fun name value => componentValue name parts = .ok value) names values)
    (hvalue : value ∈ values) : ∃ name, componentValue name parts = .ok value := by
  induction h with
  | nil => cases hvalue
  | @cons name first names values hfirst _ ih =>
      rcases List.mem_cons.mp hvalue with rfl | hvalue
      · exact ⟨name, hfirst⟩
      · exact ih hvalue

theorem return_not_mem_componentLines {names values : List Str}
    (hnames : ∀ name ∈ names, name ∈ allowedComponents)
    (hvalues : ∀ value ∈ values, '\r' ∉ value) :
    '\r' ∉ (List.zipWith componentLine names values).flatten := by
  have hallowed : ∀ name ∈ allowedComponents, '\r' ∉ '"' :: name ++ text "\": " := by decide
  induction names generalizing values with
  | nil => simp
  | cons name names ih =>
      cases values with
      | nil => simp
      | cons value values =>
          have hrest := @ih values (fun n hn => hnames n (List.mem_cons_of_mem _ hn))
            (fun v hv => hvalues v (List.mem_cons_of_mem _ hv))
          have hname := hallowed name (hnames name List.mem_cons_self)
          have hvalue := hvalues value List.mem_cons_self
          rw [List.zipWith_cons_cons, List.flatten_cons, componentLine]
          simp only [List.mem_append, not_or]
          rw [List.mem_append, not_or] at hname
          exact ⟨⟨⟨hname, hvalue⟩, by decide⟩, hrest⟩

theorem authority_mem_of_componentLines {lines : Str}
    (h : componentLines parts [] params.covered = .ok lines) :
    componentAuthority ∈ params.covered := by
  have htext := coveredText_of_componentLines h
  generalize params.covered = covered at htext
  cases htext <;> simp

/-! ## The base -/

/-- A base line by line: one line for each covered component, in order, and the parameters. -/
structure LineByLine (S : Sfv) (parts : RequestParts) (params : SignatureParams) (base : Str) :
    Prop where
  count : (base.splitOn '\n').length = params.covered.length + 1
  lines : ∃ values serialized,
    List.Forall₂ (fun name value => componentValue name parts = .ok value) params.covered values ∧
    serializeSignatureParams S params = .ok serialized ∧
    base.splitOn '\n' = List.zipWith componentText params.covered values ++ [paramsLine serialized]
  endsInLine : base.getLast? ≠ some '\n'
  noReturn : '\r' ∉ base

theorem printable_serializeSignatureParams (hS : S.PrintsVisible) {out : Str}
    (h : serializeSignatureParams S params = .ok out) :
    ∀ c ∈ out, StructuredField.isStringChar c = true := by
  obtain ⟨inner, hinner, hout⟩ := serializeSignatureParams_eq_ok.mp h
  exact hS (paramsInnerList_simple hinner) hout

/-- A covered value holds a line break only as the authority of a URI that does. -/
theorem any_isLineBreak_componentValue {name value : Str}
    (h : componentValue name parts = .ok value) (hhost : breaksHost parts.targetUri = false) :
    value.any isLineBreak = false := by
  by_cases hauthority : name = componentAuthority
  · have hvalue : authorityFromUri parts.targetUri = .ok value := by
      simpa [componentValue, hauthority] using h
    rw [any_isLineBreak_authorityFromUri hvalue, hhost]
  · by_cases hagent : name = componentSignatureAgent
    · subst hagent
      obtain ⟨_, _, _, _, hreturn, hfeed⟩ := componentValue_signatureAgent.mp h
      rw [List.any_eq_false]
      intro c hc
      rw [isLineBreak, Bool.or_eq_true, decide_eq_true_eq, decide_eq_true_eq, not_or]
      constructor
      · rintro rfl
        exact hfeed hc
      · rintro rfl
        exact hreturn hc
    · simp [componentValue, hauthority, hagent] at h

private theorem not_mem_of_any_isLineBreak {s : Str} (h : s.any isLineBreak = false) :
    '\n' ∉ s ∧ '\r' ∉ s := by
  rw [List.any_eq_false] at h
  exact ⟨fun hmem => h _ hmem (by decide), fun hmem => h _ hmem (by decide)⟩

theorem paramsLine_ne_nil (serialized : Str) : paramsLine serialized ≠ [] := by
  simp [paramsLine]

/-- The last character of a text is on its last line. -/
theorem getLast?_ne_newline {before last : Str} (h : '\n' ∉ last) (hne : last ≠ []) :
    (before ++ last).getLast? ≠ some '\n' := by
  rw [List.getLast?_append_of_ne_nil _ hne]
  intro hlast
  exact h (List.mem_of_mem_getLast? hlast)

/-- A base is made of its lines exactly when the host of the target URI holds no line break. -/
theorem buildSignatureBase_lineByLine_iff (hS : S.PrintsVisible) {base : Str}
    (h : buildSignatureBase S parts params = .ok base) :
    LineByLine S parts params base ↔ breaksHost parts.targetUri = false := by
  obtain ⟨lines, serialized, hlines, hserialized, rfl, _⟩ := buildSignatureBase_eq_ok.mp h
  obtain ⟨values, hvalues, hnames, rfl⟩ := componentLines_eq_flatten hlines
  have hvisible := printable_serializeSignatureParams hS hserialized
  have hserial : '\n' ∉ serialized ∧ '\r' ∉ serialized :=
    ⟨fun hmem => absurd (hvisible _ hmem) (by decide),
      fun hmem => absurd (hvisible _ hmem) (by decide)⟩
  have hlast := newline_not_mem_paramsLine hserial.1
  constructor
  · intro hbase
    obtain ⟨values', serialized', hvalues', _, hsplit⟩ := hbase.lines
    -- The authority is among the covered values, and no line holds a line feed.
    obtain ⟨value, hvalue, hmem⟩ :=
      exists_value_of_mem hvalues' (authority_mem_of_componentLines hlines)
    obtain ⟨value', hvalue', hmem'⟩ :=
      exists_value_of_mem hvalues (authority_mem_of_componentLines hlines)
    obtain rfl : value = value' := Except.ok.inj (hvalue.symm.trans hvalue')
    have hauthority : authorityFromUri parts.targetUri = .ok value := hvalue
    have hfeed : '\n' ∉ componentText componentAuthority value := by
      apply Text.not_mem_of_mem_splitOn
      rw [hsplit]
      exact List.mem_append_left _ (hmem componentText)
    have hreturn : '\r' ∉ componentLine componentAuthority value := fun hin =>
      hbase.noReturn (List.mem_append_left _ (List.mem_flatten_of_mem (hmem' componentLine) hin))
    rw [← any_isLineBreak_authorityFromUri hauthority, List.any_eq_false]
    intro c hc
    rw [isLineBreak, Bool.or_eq_true, decide_eq_true_eq, decide_eq_true_eq, not_or]
    have hin : c ∈ componentText componentAuthority value := List.mem_append_right _ hc
    constructor
    · rintro rfl
      exact hfeed hin
    · rintro rfl
      exact hreturn (List.mem_append_left _ hin)
  · intro hhost
    have hclean : ∀ value ∈ values, '\n' ∉ value ∧ '\r' ∉ value := by
      intro value hvalue
      obtain ⟨name, hname⟩ := exists_name_of_mem hvalues hvalue
      exact not_mem_of_any_isLineBreak (any_isLineBreak_componentValue hname hhost)
    have hsplit := splitOn_componentLines hnames (fun value hvalue => (hclean value hvalue).1) hlast
    refine ⟨?_, ⟨values, serialized, hvalues, hserialized, hsplit⟩, ?_, ?_⟩
    · rw [hsplit]
      simp [hvalues.length_eq]
    · exact getLast?_ne_newline hlast (paramsLine_ne_nil serialized)
    · have hlines :=
        return_not_mem_componentLines hnames fun value hvalue => (hclean value hvalue).2
      have hname : '\r' ∉ '"' :: componentSignatureParams ++ text "\": " := by decide
      rw [paramsLine]
      simp only [List.mem_append, not_or]
      rw [List.mem_append, not_or] at hname
      exact ⟨hlines, hname, hserial.2⟩

/-! ### A host over two lines -/

def brokenParts : RequestParts where
  targetUri := text "http://[::1\n\"signature-agent\": x]/v1/trees"
  signatureAgent := none

def brokenParams : SignatureParams := { sampleParams with covered := [componentAuthority] }

def brokenBase : Str :=
  text "\"@authority\": [::1\n\"signature-agent\": x]\n" ++
    text "\"@signature-params\": (\"@authority\")" ++
    text ";created=1618884473;expires=1618884773" ++
    text ";keyid=\"did:key:z6MkhaXg\";alg=\"ed25519\"" ++
    text ";nonce=\"e4ZQMcuRoxHt\";tag=\"aqua-auth\""

/-- The host of a target URI adds a line that looks like a component. -/
theorem lineByLine_host_fails :
    ¬ ∀ (S : Sfv) (parts : RequestParts) (params : SignatureParams) (base : Str),
      S.PrintsVisible → buildSignatureBase S parts params = .ok base →
        LineByLine S parts params base := by
  intro hclaim
  have hbase : buildSignatureBase .reference brokenParts brokenParams = .ok brokenBase := by
    decide +kernel
  have hlines := hclaim _ _ _ _ Sfv.reference_printsVisible hbase
  have hthree : (brokenBase.splitOn '\n').length = 3 := by decide +kernel
  have htwo : (brokenBase.splitOn '\n').length = 2 := hlines.count
  omega

/-- The base of the sample request, line by line. -/
theorem buildSignatureBase_lineByLine_sample :
    LineByLine .reference sampleParts sampleParams sampleBase ↔
      breaksHost sampleParts.targetUri = false :=
  buildSignatureBase_lineByLine_iff Sfv.reference_printsVisible (by decide +kernel)

end HttpSig

end AquaAuth
