import AquaAuth.Proofs.Replay
set_option autoImplicit false
/-!
# The shape of accepted headers

The re-serialization check compares the header with a serialization under the
label and the order of components that the header itself names, and the parser of
the other header looks at one member only.  So of the emitted shape, four choices
are left to the sender.
-/

namespace AquaAuth.HttpSig

open Support Support.Result Support.StructuredField

variable {B : Build} {S : Sfv} {request : SignedRequest} {opts : VerifyOptions} {now : Int}
  {guard : Option NonceReplayGuard} {label : Str} {params : SignatureParams} {signature : Bytes}
  {principal : Principal B}

/-- `SIGNATURE_LABEL` as a structured-field key. -/
def keySignatureLabel : Key := ⟨signatureLabel, by decide⟩

/-- A `Signature` header with one member, a bare byte sequence under the label. -/
def OneBareSignature (S : Sfv) (header : Str) : Prop :=
  ∃ bytes, S.parseDictionary header =
    .ok (.single keySignatureLabel (.item ⟨.byteSequence bytes, .empty⟩))

/-- The headers `sign_request` emits for a request. -/
structure EmittedShape (S : Sfv) (request : SignedRequest) : Prop where
  input : ∃ params : SignatureParams, params.covered = coveredComponents request.parts ∧
    signatureInputHeader S signatureLabel params = .ok (Text.trim request.signatureInput)
  signature : OneBareSignature S request.signature

/-- Every acceptance of this request is of the emitted shape. -/
def AcceptsEmittedOnly (B : Build) (S : Sfv) (request : SignedRequest) (opts : VerifyOptions)
    (guard : Option NonceReplayGuard) (now : Int) : Prop :=
  ∀ principal, (verifyRequestAt B S request opts guard now).1 = .ok principal →
    EmittedShape S request

/-- The headers make a choice that no check looks at. -/
inductive Deviates (S : Sfv) (request : SignedRequest) : Prop where
  /-- The signature has another label. -/
  | label {label : Str} {params : SignatureParams}
      (hparse : parseSignatureInput S request.signatureInput = .ok (label, params))
      (hlabel : label ≠ signatureLabel)
  /-- `signature-agent` is listed before `@authority`. -/
  | agentFirst {label : Str} {params : SignatureParams}
      (hparse : parseSignatureInput S request.signatureInput = .ok (label, params))
      (horder : params.covered = [componentSignatureAgent, componentAuthority])
  /-- `Signature` has further members. -/
  | members {dict : Dictionary} (hparse : S.parseDictionary request.signature = .ok dict)
      (hmany : dict.len ≠ 1)
  /-- A member of `Signature` has parameters. -/
  | parameters {dict : Dictionary} {key : Key} {item : Item}
      (hparse : S.parseDictionary request.signature = .ok dict)
      (hentry : (key, .item item) ∈ dict.entries) (hparams : item.params ≠ .empty)

/-! ## Signature-Input -/

/-- The text of a `Signature-Input` header determines its label and parameters. -/
theorem signatureInputHeader_injective (hS : S.Inverts) {label label' out : Str}
    {params params' : SignatureParams} (h : signatureInputHeader S label params = .ok out)
    (h' : signatureInputHeader S label' params' = .ok out) :
    label = label' ∧ params = params' := by
  obtain ⟨key, inner, rfl, hinner, hout⟩ := signatureInputHeader_eq_ok.mp h
  obtain ⟨key', inner', rfl, hinner', hout'⟩ := signatureInputHeader_eq_ok.mp h'
  have hparse := hS.innerList (paramsInnerList_simple hinner) hout
  have hparse' := hS.innerList (paramsInnerList_simple hinner') hout'
  have heq := Except.ok.inj (hparse.symm.trans hparse')
  simp only [KeyedMap.single, KeyedMap.mk.injEq, List.cons.injEq, Prod.mk.injEq,
    ListEntry.innerList.injEq, and_true] at heq
  obtain ⟨rfl, rfl⟩ := heq
  exact ⟨rfl, paramsInnerList_injective hinner hinner'⟩

/-- What an accepted request covers: the canonical list, or that list reversed. -/
theorem covered_of_checked
    (hchecked : Checked B S request opts now label params signature principal) :
    params.covered = coveredComponents request.parts ∨
      (request.parts.signatureAgent.isSome ∧
        params.covered = [componentSignatureAgent, componentAuthority]) := by
  obtain ⟨base, hbase, _⟩ := hchecked.authentic
  obtain ⟨lines, _, hlines, _⟩ := buildSignatureBase_eq_ok.mp hbase
  have htext := coveredText_of_componentLines hlines
  have hcoverage := hchecked.coverage
  generalize params.covered = covered at htext hcoverage
  unfold checkSignatureAgentCoverage at hcoverage
  have hne : componentSignatureAgent ∉ [componentAuthority] := by decide
  cases hagent : request.parts.signatureAgent.isSome with
  | false =>
      cases htext with
      | authority _ => exact .inl (by simp [coveredComponents, hagent])
      | authorityAgent _ _ => simp [hagent] at hcoverage
      | agentAuthority _ _ => simp [hagent] at hcoverage
  | true =>
      cases htext with
      | authority _ => simp [hagent, hne] at hcoverage
      | authorityAgent _ _ => exact .inl (by simp [coveredComponents, hagent])
      | agentAuthority _ _ => exact .inr ⟨rfl, rfl⟩

theorem coveredComponents_ne_agentFirst (parts : RequestParts) :
    coveredComponents parts ≠ [componentSignatureAgent, componentAuthority] := by
  unfold coveredComponents
  split_ifs <;> decide

/-! ## Signature -/

/-- The signature that is read is a byte sequence under the label. -/
theorem parseSignature_eq_ok {header : Str} (h : parseSignature S header label = .ok signature) :
    ∃ dict key params, S.parseDictionary header = .ok dict ∧ key.1 = label ∧
      (key, .item ⟨.byteSequence signature, params⟩) ∈ dict.entries := by
  obtain ⟨dict, hparse, h⟩ := bind_eq_ok.mp h
  obtain ⟨entry, hlookup, h⟩ := bind_eq_ok.mp h
  rw [okOr_eq_ok, lookup] at hlookup
  split_ifs at hlookup with hkey
  have hmem := KeyedMap.get_eq_some.mp hlookup
  cases entry with
  | innerList inner => cases h
  | item item =>
      obtain ⟨bare, itemParams⟩ := item
      cases bare with
      | byteSequence bytes =>
          obtain rfl := Except.ok.inj h
          exact ⟨dict, ⟨label, hkey⟩, itemParams, mapError_eq_ok.mp hparse, rfl, hmem⟩
      | _ => cases h

/-- A signature under `sig1` is the only member, and bare, unless there are further
members or parameters. -/
theorem oneBareSignature_of_parse (hregular : ¬ Deviates S request)
    (h : parseSignature S request.signature signatureLabel = .ok signature) :
    OneBareSignature S request.signature := by
  obtain ⟨dict, key, itemParams, hparse, hkey, hentry⟩ := parseSignature_eq_ok h
  have hone : dict.entries.length = 1 := by
    by_contra hmany
    exact hregular (.members hparse hmany)
  have hbare : itemParams = .empty := by
    by_contra hparams
    exact hregular (.parameters hparse hentry hparams)
  obtain ⟨entry, hentries⟩ := List.length_eq_one_iff.mp hone
  rw [hentries, List.mem_singleton] at hentry
  obtain rfl : key = keySignatureLabel := Subtype.ext hkey
  refine ⟨signature, hparse.trans (congrArg Except.ok (KeyedMap.ext ?_))⟩
  rw [hentries, ← hentry, hbare]
  rfl

/-! ## Both headers -/

theorem not_deviates_of_read
    (hread : parseSignatureInput S request.signatureInput = .ok (signatureLabel, params))
    (hcovered : params.covered = coveredComponents request.parts)
    (hbare : OneBareSignature S request.signature) : ¬ Deviates S request := by
  obtain ⟨bytes, hbare⟩ := hbare
  intro hdeviates
  cases hdeviates with
  | label hparse hlabel =>
      obtain ⟨rfl, _⟩ := Prod.mk.inj (Except.ok.inj (hread.symm.trans hparse))
      exact hlabel rfl
  | agentFirst hparse horder =>
      obtain ⟨_, rfl⟩ := Prod.mk.inj (Except.ok.inj (hread.symm.trans hparse))
      exact coveredComponents_ne_agentFirst request.parts (hcovered.symm.trans horder)
  | members hparse hmany =>
      obtain rfl := Except.ok.inj (hbare.symm.trans hparse)
      exact hmany rfl
  | parameters hparse hentry hparams =>
      obtain rfl := Except.ok.inj (hbare.symm.trans hparse)
      obtain ⟨_, hitem⟩ := Prod.mk.inj (List.mem_singleton.mp hentry)
      obtain rfl := ListEntry.item.inj hitem
      exact hparams rfl

theorem not_deviates_of_emittedShape (hS : S.Inverts)
    (hchecked : Checked B S request opts now label params signature principal)
    (hshape : EmittedShape S request) : ¬ Deviates S request := by
  obtain ⟨⟨params', hcovered, hinput⟩, hbare⟩ := hshape
  obtain ⟨rfl, rfl⟩ := signatureInputHeader_injective hS hinput hchecked.canonical
  exact not_deviates_of_read hchecked.input hcovered hbare

theorem emittedShape_of_not_deviates
    (hchecked : Checked B S request opts now label params signature principal)
    (hregular : ¬ Deviates S request) : EmittedShape S request := by
  have hlabel : label = signatureLabel := by
    by_contra hlabel
    exact hregular (.label hchecked.input hlabel)
  subst hlabel
  have hcovered : params.covered = coveredComponents request.parts :=
    (covered_of_checked hchecked).resolve_right fun hreversed =>
      hregular (.agentFirst hchecked.input hreversed.2)
  exact ⟨⟨params, hcovered, hchecked.canonical⟩,
    oneBareSignature_of_parse hregular hchecked.signature⟩

/-- The headers of an accepted request have the emitted shape exactly when they
leave those choices alone. -/
theorem emittedShape_iff (hS : S.Inverts) (request : SignedRequest) (opts : VerifyOptions)
    (guard : Option NonceReplayGuard) (now : Int) (principal : Principal B)
    (hok : (verifyRequestAt B S request opts guard now).1 = .ok principal) :
    EmittedShape S request ↔ ¬ Deviates S request := by
  obtain ⟨params, hcheck, _⟩ := verifyRequestAt_eq_ok.mp hok
  obtain ⟨label, signature, hchecked⟩ := checkRequest_eq_ok.mp hcheck
  exact ⟨not_deviates_of_emittedShape hS hchecked, emittedShape_of_not_deviates hchecked⟩

/-! ## A signature under another label -/

/-- The headers of a signature, under the label `sig2`. -/
def labelRequest : SignedRequest where
  parts := keyParts
  signatureInput := text "sig2=" ++ keyList keyDid (text "n1")
  signature :=
    text "sig2=:yex+toHaqfE5no0fQ0FS1k5Q1e4kCDhrUCW3/bcQuewL" ++
      text "VyhcdqUHOttRnaeT636Vt1Ko51b4/YYvFf7tj59YAQ==:"

private theorem labelRequest_accepted : ∃ principal,
    (verifyRequestAt keyBuild .reference labelRequest .aquaInternal none 1700000000).1 =
      .ok principal :=
  isOk_iff.mp (by decide +kernel)

private theorem labelRequest_deviates : Deviates .reference labelRequest := by
  have hparse : parseSignatureInput .reference labelRequest.signatureInput =
      .ok (text "sig2", keyParams) := by
    decide +kernel
  exact .label hparse (by decide)

/-- The verifier accepts headers of a shape that `sign_request` does not emit. -/
theorem acceptsEmittedOnly_label_fails :
    ¬ ∀ request opts guard now,
      AcceptsEmittedOnly keyBuild .reference request opts guard now := by
  intro hstrict
  obtain ⟨principal, hok⟩ := labelRequest_accepted
  have hshape := hstrict _ _ _ _ principal hok
  obtain ⟨params, hcheck, _⟩ := verifyRequestAt_eq_ok.mp hok
  obtain ⟨label, signature, hchecked⟩ := checkRequest_eq_ok.mp hcheck
  exact not_deviates_of_emittedShape Sfv.reference_inverts hchecked hshape labelRequest_deviates

private theorem keyRequest_accepted : ∃ principal,
    (verifyRequestAt keyBuild .reference keyRequest .aquaInternal none 1700000000).1 =
      .ok principal := by
  obtain ⟨principal, hcheck⟩ := checkRequest_keyRequest
  exact ⟨principal, verifyRequestAt_eq_ok.mpr ⟨keyParams, hcheck, by rintro g ⟨⟩⟩⟩

private theorem keyRequest_regular : ¬ Deviates .reference keyRequest :=
  not_deviates_of_read parseSignatureInput_keyRequest rfl
    ⟨keySigned.signature, by decide +kernel⟩

/-- The same signature under `sig1` has the emitted shape, under `sig2` it has not. -/
theorem emittedShape_iff_label :
    EmittedShape .reference keyRequest ∧ ¬ EmittedShape .reference labelRequest := by
  obtain ⟨principal, hok⟩ := keyRequest_accepted
  obtain ⟨principal', hok'⟩ := labelRequest_accepted
  have hregular := emittedShape_iff Sfv.reference_inverts _ _ _ _ principal hok
  have hlabel := emittedShape_iff Sfv.reference_inverts _ _ _ _ principal' hok'
  exact ⟨hregular.mpr keyRequest_regular, fun hshape => hlabel.mp hshape labelRequest_deviates⟩

end AquaAuth.HttpSig
