import AquaAuth.Proofs.Accepted
set_option autoImplicit false
/-!
# Signing and verifying

A request signed under the internal profile is accepted exactly inside its window.
-/

namespace AquaAuth.HttpSig

open Support Support.Result Support.StructuredField

variable {B : Build} {S : Sfv} {signer : Signer} {parts : RequestParts} {validity : Duration}
  {created : Int} {bytes : ByteArr nonceBytes} {headers : SignedHeaders} {opts : VerifyOptions}
  {now : Int} {params : SignatureParams}

/-! ## What the signer emits -/

theorem validitySeconds_eq_ok {window : Int} (h : validitySeconds validity = .ok window) :
    0 < validity.secs ∧ validity.secs ≤ 86400 ∧ window = validity.secs := by
  simp only [validitySeconds, bind_eq_ok, ensure_eq_ok, pure_eq_ok, Except.ok.injEq] at h
  obtain ⟨_, hzero, _, hcap, rfl⟩ := h
  have hsecs : maxValidity.secs = 86400 := rfl
  have hle : validity.secs ≤ 86400 := by
    by_contra hlt
    exact hcap (.inl (by omega))
  exact ⟨by omega, hle, asI64_eq (by omega)⟩

theorem requestParams_aquaInternal {did : Str}
    (h : requestParams B did parts .aquaInternal validity created bytes = .ok params) :
    0 < validity.secs ∧ validity.secs ≤ 86400 ∧ ∃ alg, algForDid B did = .ok alg ∧
      params = ⟨coveredComponents parts, created, saturatingAdd created validity.secs, did, alg,
        generateNonce bytes, tagAquaInternal⟩ := by
  obtain ⟨window, hwindow, h⟩ := bind_eq_ok.mp h
  obtain ⟨⟨keyid, alg, tag⟩, hprofile, h⟩ := bind_eq_ok.mp h
  obtain ⟨alg', halg, htriple⟩ := bind_eq_ok.mp hprofile
  obtain ⟨rfl, hpair⟩ := Prod.mk.inj (Except.ok.inj htriple)
  obtain ⟨rfl, rfl⟩ := Prod.mk.inj hpair
  obtain rfl := Except.ok.inj h
  obtain ⟨hpos, hle, rfl⟩ := validitySeconds_eq_ok hwindow
  exact ⟨hpos, hle, alg', halg, rfl⟩

theorem signRequestAt_eq_ok {profile : Profile} :
    signRequestAt B S signer parts profile validity created bytes = .ok headers ↔
      ∃ params base signature,
        requestParams B signer.signerDid parts profile validity created bytes = .ok params ∧
        buildSignatureBase S parts params = .ok base ∧ signer.sign base = .ok signature ∧
        signatureInputHeader S signatureLabel params = .ok headers.signatureInput ∧
        signatureHeader S signatureLabel signature = .ok headers.signature := by
  simp only [signRequestAt, bind_eq_ok, mapError_eq_ok, pure_eq_ok, Except.ok.injEq]
  constructor
  · rintro ⟨params, hparams, base, hbase, signature, hsign, input, hinput, header, hheader, rfl⟩
    exact ⟨params, base, signature, hparams, hbase, hsign, hinput, hheader⟩
  · rintro ⟨params, base, signature, hparams, hbase, hsign, hinput, hheader⟩
    exact ⟨params, hparams, base, hbase, signature, hsign, _, hinput, _, hheader, rfl⟩

theorem coverable_coveredComponents : Coverable (coveredComponents parts) := by
  unfold coveredComponents
  split_ifs
  · exact ⟨by simp [allowedComponents], by simp⟩
  · exact ⟨by simp [allowedComponents], by simp⟩

theorem coverage_coveredComponents :
    checkSignatureAgentCoverage parts (coveredComponents parts) = .ok () := by
  have hne : componentSignatureAgent ≠ componentAuthority := by decide
  unfold checkSignatureAgentCoverage coveredComponents
  cases parts.signatureAgent <;> simp [hne]

/-- The timestamps of a signature base are far from the ends of the 64-bit range. -/
theorem timestamps_of_base {base : Str} (h : buildSignatureBase S parts params = .ok base) :
    params.created.natAbs ≤ maxInteger ∧ params.expires.natAbs ≤ maxInteger := by
  obtain ⟨_, _, _, hserialized, _⟩ := buildSignatureBase_eq_ok.mp h
  obtain ⟨inner, hinner, _⟩ := serializeSignatureParams_eq_ok.mp hserialized
  obtain ⟨_, created, expires, _, _, _, _, rfl, _⟩ := paramsInnerList_eq_ok.mp hinner
  exact ⟨created.2, expires.2⟩

/-! ## The window -/

/-- On a window the signer chose, the check compares the clock with its two ends. -/
theorem checkWindow_signed_iff (hcreated : params.created.natAbs ≤ maxInteger)
    (hexpires : params.expires = params.created + validity.secs)
    (hpos : 0 < validity.secs) (hle : validity.secs ≤ 86400)
    (hskew : opts.clockSkew.secs < 2 ^ 63) (hnow : InI64 now) :
    checkWindow params opts now = .ok () ↔
      params.created - opts.clockSkew.secs ≤ now ∧ now < params.created + validity.secs := by
  have hmax : maxInteger = 999999999999999 := rfl
  unfold InI64 at hnow
  rw [checkWindow_eq_ok, asI64_eq hskew, saturatingAdd, hexpires]
  omega

/-! ## The round trip -/

/-- A signed request is accepted exactly inside its window, as its signer. -/
theorem verifyRequestAt_signed_iff (hS : S.Inverts)
    (hsigner : ∀ message signature, signer.sign message = .ok signature →
      ∃ principal, authenticate B signer.signerDid message signature = .ok principal)
    (hsign : signRequestAt B S signer parts .aquaInternal validity created bytes = .ok headers)
    (htag : opts.expectedTag = tagAquaInternal) (hskew : opts.clockSkew.secs < 2 ^ 63)
    (hnow : InI64 now) :
    ((∃ principal, (verifyRequestAt B S ⟨parts, headers.signatureInput, headers.signature⟩ opts
        none now).1 = .ok principal) ↔
      created - opts.clockSkew.secs ≤ now ∧ now < created + validity.secs) ∧
    ∀ principal, (verifyRequestAt B S ⟨parts, headers.signatureInput, headers.signature⟩ opts
      none now).1 = .ok principal → principal.did = signer.signerDid := by
  obtain ⟨params, base, signature, hparams, hbase, hsigned, hinput, hheader⟩ :=
    signRequestAt_eq_ok.mp hsign
  obtain ⟨hpos, hle, alg, halg, hparams⟩ := requestParams_aquaInternal hparams
  have hcovered : Coverable params.covered := by
    rw [hparams]
    exact coverable_coveredComponents
  have hparse := parseSignatureInput_header hS hinput hcovered
  have hparseSignature := parseSignature_header hS hheader
  have htrim : Text.trim headers.signatureInput = headers.signatureInput := by
    obtain ⟨key, inner, _, hinner, hout⟩ := signatureInputHeader_eq_ok.mp hinput
    exact hS.trimmed (paramsInnerList_simple hinner) hout
  have hkeyid : params.keyid = signer.signerDid := by rw [hparams]
  have hcreated : params.created = created := by rw [hparams]
  have hbounds := timestamps_of_base hbase
  have hexpires : params.expires = params.created + validity.secs := by
    have hmax : maxInteger = 999999999999999 := rfl
    rw [hcreated] at hbounds ⊢
    rw [hparams]
    exact saturatingAdd_eq ⟨by omega, by omega⟩
  have hwindow : checkWindow params opts now = .ok () ↔
      created - opts.clockSkew.secs ≤ now ∧ now < created + validity.secs := by
    rw [← hcreated]
    exact checkWindow_signed_iff hbounds.1 hexpires hpos hle hskew hnow
  obtain ⟨principal, hauth⟩ := hsigner base signature hsigned
  constructor
  · simp only [verifyRequestAt_eq_ok, checkRequest_eq_ok, Option.mem_def, reduceCtorEq,
      false_imp_iff, implies_true, and_true]
    rw [← hwindow]
    constructor
    · rintro ⟨_, params', label', signature', hchecked⟩
      obtain ⟨rfl, rfl⟩ := Prod.mk.inj (Except.ok.inj (hparse.symm.trans hchecked.input))
      exact hchecked.window
    · intro hok
      refine ⟨principal, params, signatureLabel, signature, ?_⟩
      exact
        { input := hparse
          signature := hparseSignature
          coverage := by rw [hparams]; exact coverage_coveredComponents
          tag := by rw [checkTag, ensure_eq_ok, htag, hparams]
          window := hok
          alg := by rw [hkeyid, halg, hparams]
          canonical := by rw [htrim]; exact hinput
          authentic := ⟨base, hbase, by rw [hkeyid]; exact hauth⟩ }
  · intro p hok
    obtain ⟨params', hcheck, _⟩ := verifyRequestAt_eq_ok.mp hok
    obtain ⟨label', signature', hchecked⟩ := checkRequest_eq_ok.mp hcheck
    obtain ⟨_, _, hauth'⟩ := hchecked.authentic
    obtain ⟨_, rfl⟩ := Prod.mk.inj (Except.ok.inj (hparse.symm.trans hchecked.input))
    rw [authenticate_did hauth', hkeyid]

/-! ## Requests signed with two Ed25519 keys -/

def keyDid : Str := text "did:key:z6Mkon3Necd6NkkyfoGoHxid2znGc59LU3K7mubaRcFbLfLX"

def otherKeyDid : Str := text "did:key:z6Mko9hTggMwjSTEaJaPUfE6tqcy2xvU6BnNq3e3o8qVBiyH"

def keyParts : RequestParts := ⟨text "https://a.example/x", none⟩

/-- A list of parameters as it is serialized. -/
def keyList (did nonce : Str) : Str :=
  text "(\"@authority\");created=1700000000;expires=1700000300;keyid=\"" ++ did ++
    text "\";alg=\"ed25519\";nonce=\"" ++ nonce ++ text "\";tag=\"aqua-auth\""

def keyBase (did nonce : Str) : Str :=
  text "\"@authority\": a.example\n" ++ text "\"@signature-params\": " ++ keyList did nonce

def keyParams : SignatureParams where
  covered := [componentAuthority]
  created := 1700000000
  expires := 1700000300
  keyid := keyDid
  alg := algEd25519
  nonce := text "n1"
  tag := tagAquaInternal

def keyBytes : Bytes :=
  bytesOfHex "8a88e3dd7409f195fd52db2d3cba5d72ca6709bf1d94121bf3748801b40f6f5c"

def otherKeyBytes : Bytes :=
  bytesOfHex "8139770ea87d175f56a35466c34c7ecccb8d8a91b4ee37a25df60f5b8fc9b394"

/-- The nonce that encodes 64 zero bytes. -/
def zeroNonce : Str := List.replicate 86 'A'

def zeroSigned : Signed where
  key := keyBytes
  message := Text.utf8 (keyBase keyDid zeroNonce)
  signature := bytesOfHex <|
    "2834a6cfd09dbc7c71228476b9ab24688ea424d3d2f7a9a07bb56638da113c0b" ++
    "c221a276525066a6b252909bf8fe0a0b7021b6e43e717511bc27c61c5953eb03"

def keySigned : Signed where
  key := keyBytes
  message := Text.utf8 (keyBase keyDid (text "n1"))
  signature := bytesOfHex <|
    "c9ec7eb681daa9f1399e8d1f434152d64e50d5ee2408386b5025b7fdb710b9ec" ++
    "0b57285c76a5073adb519da793eb7e95b752a8e756f8fd862f15feed8f9f5801"

def otherKeySigned : Signed where
  key := otherKeyBytes
  message := Text.utf8 (keyBase otherKeyDid (text "n1"))
  signature := bytesOfHex <|
    "bc6097dc40030fd072693e94a140b79fbf091c0e3c7293a0ea1fe79a0791590f" ++
    "63ea25f5ed4108f67cef521eeb7cebe7685824e7d2c6427b3690c9eb00d7a303"

def keyBuild : Build := .ofTable [zeroSigned, keySigned, otherKeySigned] []

def zeroSigner : Signer where
  signerDid := keyDid
  sign message :=
    if message = keyBase keyDid zeroNonce then .ok zeroSigned.signature
    else .error ⟨text "no key"⟩
  publicKey := none

def zeroValidity : Duration := .fromSecs 300 Duration.fiveMinutes_lt

def zeroBytes : ByteArr nonceBytes := ⟨List.replicate 64 0, by decide⟩

private theorem zeroSigner_authentic (message : Str) (signature : Bytes)
    (h : zeroSigner.sign message = .ok signature) :
    ∃ principal, authenticate keyBuild keyDid message signature = .ok principal := by
  have hok : ∃ principal,
      authenticate keyBuild keyDid (keyBase keyDid zeroNonce) zeroSigned.signature =
        .ok principal :=
    isOk_iff.mp (by decide +kernel)
  simp only [zeroSigner] at h
  split_ifs at h with hbase
  obtain rfl := Except.ok.inj h
  exact hbase ▸ hok

/-- The first second of the window is in it, the second after the last is not. -/
theorem verifyRequestAt_signed_trip : ∃ headers : SignedHeaders,
    (∃ principal, (verifyRequestAt keyBuild .reference
      ⟨keyParts, headers.signatureInput, headers.signature⟩ .aquaInternal none
        1699999940).1 = .ok principal) ∧
    ¬ ∃ principal, (verifyRequestAt keyBuild .reference
      ⟨keyParts, headers.signatureInput, headers.signature⟩ .aquaInternal none
        1700000300).1 = .ok principal := by
  have hsign : ∃ headers, signRequestAt keyBuild .reference zeroSigner keyParts .aquaInternal
      zeroValidity 1700000000 zeroBytes = .ok headers :=
    isOk_iff.mp (by decide +kernel)
  obtain ⟨headers, hsign⟩ := hsign
  refine ⟨headers, ?_, ?_⟩
  · refine (verifyRequestAt_signed_iff Sfv.reference_inverts zeroSigner_authentic hsign rfl
      (by decide) (by decide)).1.mpr ?_
    decide
  · rw [(verifyRequestAt_signed_iff Sfv.reference_inverts zeroSigner_authentic hsign rfl
      (by decide) (by decide)).1]
    decide

end AquaAuth.HttpSig
