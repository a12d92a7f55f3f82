import AquaAuth.Model.HttpSig.Verify
import AquaAuth.Proofs.Registry
import AquaAuth.Proofs.SignatureBase
set_option autoImplicit false
/-!
# What an accepted request has passed

The verifier returns a principal exactly when a list of checks passes.  What the
parsers read from a header that the signer's serializers wrote is what was written.
-/

namespace AquaAuth

open Support Support.Result Support.StructuredField

/-- What is assumed of `sfv` here: parsing inverts serializing, and a serialized
dictionary has no surrounding whitespace. -/
structure Sfv.Inverts (S : Sfv) : Prop where
  innerList : ∀ {key : Key} {list : InnerList} {out : Str}, list.Simple →
    S.serializeDictInnerList key list = some out →
    S.parseDictionary out = .ok (.single key (.innerList list))
  bytes : ∀ {key : Key} {value : Bytes} {out : Str}, S.serializeDictBytes key value = some out →
    S.parseDictionary out = .ok (.single key (.item ⟨.byteSequence value, .empty⟩))
  trimmed : ∀ {key : Key} {list : InnerList} {out : Str}, list.Simple →
    S.serializeDictInnerList key list = some out → Text.Trimmed out

theorem Sfv.reference_inverts : Sfv.Inverts Sfv.reference where
  innerList hsimple hout := by
    obtain ⟨out, hout', hparse⟩ := parseDictionary_serializeDictInnerList _ hsimple
    obtain rfl := Option.some.inj (hout'.symm.trans hout)
    exact okOr_eq_ok.mpr hparse
  bytes hout := by
    obtain ⟨out, hout', hparse⟩ := parseDictionary_serializeDictBytes _ _
    obtain rfl := Option.some.inj (hout'.symm.trans hout)
    exact okOr_eq_ok.mpr hparse
  trimmed hsimple hout := trimmed_serializeDictInnerList hsimple hout

theorem authenticate_did {B : Build} {did message : Str} {signature : Bytes}
    {principal : Principal B} (h : authenticate B did message signature = .ok principal) :
    principal.did = did :=
  (authenticateWithPublicKey_eq_ok.mp h).2

namespace HttpSig

variable {B : Build} {S : Sfv} {request : SignedRequest} {opts : VerifyOptions} {now : Int}
  {params : SignatureParams} {label : Str}

/-! ## The checks -/

/-- The checks an accepted request passes, with what they read and computed. -/
structure Checked (B : Build) (S : Sfv) (request : SignedRequest) (opts : VerifyOptions)
    (now : Int) (label : Str) (params : SignatureParams) (bytes : Bytes)
    (principal : Principal B) : Prop where
  input : parseSignatureInput S request.signatureInput = .ok (label, params)
  signature : parseSignature S request.signature label = .ok bytes
  coverage : checkSignatureAgentCoverage request.parts params.covered = .ok ()
  tag : checkTag params opts = .ok ()
  window : checkWindow params opts now = .ok ()
  alg : algForDid B params.keyid = .ok params.alg
  canonical : signatureInputHeader S label params = .ok (Text.trim request.signatureInput)
  authentic : ∃ base, buildSignatureBase S request.parts params = .ok base ∧
    authenticate B params.keyid base bytes = .ok principal

theorem checkRequest_eq_ok {principal : Principal B} :
    checkRequest B S request opts now = .ok (params, principal) ↔
      ∃ label signature, Checked B S request opts now label params signature principal := by
  simp only [checkRequest, bind_eq_ok, ensure_eq_ok, mapError_eq_ok, pure_eq_ok,
    Except.ok.injEq, Prod.exists, Prod.mk.injEq]
  constructor
  · rintro ⟨label, params', hinput, signature, hsignature, _, hcoverage, _, htag, _, hwindow,
      alg, halg, _, rfl, canonical, hcanonical, _, rfl, base, hbase, p, hauth, rfl, rfl⟩
    exact ⟨label, signature, hinput, hsignature, hcoverage, htag, hwindow, halg, hcanonical,
      base, hbase, hauth⟩
  · rintro ⟨label, signature, h⟩
    obtain ⟨base, hbase, hauth⟩ := h.authentic
    exact ⟨label, params, h.input, signature, h.signature, (), h.coverage, (), h.tag, (),
      h.window, _, h.alg, (), rfl, _, h.canonical, (), rfl, base, hbase, principal, hauth,
      rfl, rfl⟩

theorem checkWindow_eq_ok :
    checkWindow params opts now = .ok () ↔
      params.created < params.expires ∧ params.expires - params.created ≤ 86400 ∧
      params.created ≤ saturatingAdd now (asI64 opts.clockSkew.secs) ∧ now < params.expires := by
  have hmax : asI64 maxValidity.secs = 86400 := by decide
  simp only [checkWindow, bind_eq_ok, ensure_eq_ok, hmax]
  constructor
  · rintro ⟨_, h1, _, h2, _, h3, h4⟩
    exact ⟨h1, h2, h3, h4⟩
  · rintro ⟨h1, h2, h3, h4⟩
    exact ⟨(), h1, (), h2, (), h3, h4⟩

/-- Whether a request is accepted, given the guard. -/
theorem verifyRequestAt_eq_ok {guard : Option NonceReplayGuard} {principal : Principal B} :
    (verifyRequestAt B S request opts guard now).1 = .ok principal ↔
      ∃ params, checkRequest B S request opts now = .ok (params, principal) ∧
        ∀ g ∈ guard, (g.checkAndRecordAt params.nonce params.expires now).1 = .ok () := by
  unfold verifyRequestAt
  cases hcheck : checkRequest B S request opts now with
  | error e => simp
  | ok result =>
      obtain ⟨params, p⟩ := result
      cases guard with
      | none => simp
      | some g =>
          cases hguard : (g.checkAndRecordAt params.nonce params.expires now).1 with
          | error e => simp [hguard, Except.map]
          | ok u => simp [hguard, Except.map]

/-! ## Reading what was written -/

theorem signatureInputHeader_eq_ok {out : Str} :
    signatureInputHeader S label params = .ok out ↔
      ∃ (key : Key) (inner : InnerList), key.1 = label ∧ paramsInnerList S params = .ok inner ∧
        S.serializeDictInnerList key inner = some out := by
  simp only [signatureInputHeader, bind_eq_ok, sfKey_eq_ok, okOr_eq_ok]
  constructor
  · rintro ⟨key, hkey, inner, hinner, hout⟩
    exact ⟨key, inner, hkey, hinner, hout⟩
  · rintro ⟨key, inner, hkey, hinner, hout⟩
    exact ⟨key, hkey, inner, hinner, hout⟩

private theorem coveredNames_strings {names : List SfString}
    (h : ∀ name ∈ names, name.1 ∈ allowedComponents) :
    coveredNames (names.map fun name => ⟨.string name, .empty⟩) = .ok (names.map Subtype.val) := by
  induction names with
  | nil => rfl
  | cons name names ih =>
      have hname := h name List.mem_cons_self
      have htail := ih fun n hn => h n (List.mem_cons_of_mem name hn)
      rw [List.map_cons, coveredNames, ensure_pos rfl, ok_bind, componentName, pure_eq_ok, ok_bind,
        ensure_pos hname, ok_bind, htail, ok_bind, pure_eq_ok, List.map_cons]

/-- The covered lists the parser lets through. -/
structure Coverable (covered : List Str) : Prop where
  allowed : ∀ name ∈ covered, name ∈ allowedComponents
  authority : componentAuthority ∈ covered

theorem readParams_paramsInnerList {inner : InnerList} (h : paramsInnerList S params = .ok inner)
    (hcovered : Coverable params.covered) : readParams inner = .ok params := by
  obtain ⟨names, created, expires, keyid, alg, nonce, tag, rfl, rfl⟩ := paramsInnerList_eq_ok.mp h
  have hnames := coveredNames_strings fun name hname =>
    hcovered.allowed name.1 (List.mem_map.mpr ⟨name, hname, rfl⟩)
  have horder : (sixParameters created expires keyid alg nonce tag).entries.map Prod.fst =
      paramOrder := rfl
  simp only [readParams, hnames, ok_bind, ensure_pos hcovered.authority, ensure_pos horder]
  rfl

theorem parseSignatureInput_header (hS : S.Inverts) {out : Str}
    (h : signatureInputHeader S label params = .ok out) (hcovered : Coverable params.covered) :
    parseSignatureInput S out = .ok (label, params) := by
  obtain ⟨key, inner, rfl, hinner, hout⟩ := signatureInputHeader_eq_ok.mp h
  rw [parseSignatureInput, hS.innerList (paramsInnerList_simple hinner) hout]
  have hread := readParams_paramsInnerList hinner hcovered
  simp only [Except.mapError, ok_bind, KeyedMap.single, hread, pure_eq_ok]

theorem parseSignature_header (hS : S.Inverts) {signature : Bytes} {out : Str}
    (h : signatureHeader S label signature = .ok out) :
    parseSignature S out label = .ok signature := by
  simp only [signatureHeader, bind_eq_ok, sfKey_eq_ok, okOr_eq_ok] at h
  obtain ⟨key, rfl, hout⟩ := h
  have hlookup : lookup (KeyedMap.single key
      (ListEntry.item ⟨.byteSequence signature, .empty⟩)) key.1 =
      some (.item ⟨.byteSequence signature, .empty⟩) := by
    rw [lookup, dif_pos key.2, KeyedMap.get_single_self]
  rw [parseSignature, hS.bytes hout]
  simp only [Except.mapError, ok_bind, hlookup, okOr_some, pure_eq_ok]

end HttpSig

end AquaAuth
