import AquaAuth.Support.JsonReader
import AquaAuth.Model.Webauthn.SoftPasskey
import AquaAuth.Proofs.Webauthn.StoredKey
set_option autoImplicit false
/-!
# What the software passkey trips

Every knob of an assertion trips the one check it is for, the checks in their order; what trips none
recovers the passkey, in either form of the signature.
-/

namespace AquaAuth

open Support Support.Result Support.Ecdsa

/-! ## The bytes of an assertion -/

theorem decode_b64 (bytes : Bytes) :
    Base64.decodeIndifferent Base64.urlSafe (b64 bytes) = some bytes :=
  Base64.decodeIndifferent_encodeNoPad Base64.urlSafe_alphabet bytes

theorem quote_b64 (bytes : Bytes) : Json.quote (b64 bytes) = '"' :: (b64 bytes ++ ['"']) := by
  have hescape : ∀ d < 64, Json.escape (Base64.urlSafe.getD d 'A') =
      [Base64.urlSafe.getD d 'A'] := by decide +kernel
  have hall : (b64 bytes).flatMap Json.escape = (b64 bytes).flatMap fun c => [c] := by
    apply List.flatMap_congr
    intro c hc
    obtain ⟨d, hd, rfl⟩ := Base64.mem_encodeNoPad hc
    exact hescape d hd
  rw [Json.quote, hall, List.flatMap_singleton']

/-- The client data as a value. -/
def AssertOpts.clientValue (o : AssertOpts) : Serde.Value :=
  .object ([(text "type", .string o.type), (text "challenge", .string (b64 o.challenge)),
    (text "origin", .string o.origin)] ++
      o.crossOrigin.toList.map fun crossOrigin => (text "crossOrigin", .bool crossOrigin))

namespace SoftPasskey

variable {W : WebauthnCrates} {sha256 : Bytes → ByteArr 32}

theorem clientDataJson_eq (o : AssertOpts) :
    clientDataJson o.type o.challenge o.origin o.crossOrigin = Text.utf8 o.clientValue.compact := by
  have htype : Json.quote (text "type") = text "\"type\"" := by decide
  have hchallenge : Json.quote (text "challenge") = text "\"challenge\"" := by decide
  have horigin : Json.quote (text "origin") = text "\"origin\"" := by decide
  have hcross : Json.quote (text "crossOrigin") = text "\"crossOrigin\"" := by decide
  unfold clientDataJson
  refine congrArg Text.utf8 ?_
  obtain ⟨challenge, origin, flags, crossOrigin, rpIdOverride, type, highS⟩ := o
  rcases crossOrigin with _ | _ | _ <;>
    simp only [AssertOpts.clientValue, Option.toList, List.map_nil, List.map_cons, List.nil_append,
      List.cons_append, Serde.Value.compact, Serde.Value.compactMembers, quote_b64, htype,
      hchallenge, horigin, hcross] <;>
    simp [text]

theorem fromSlice_clientDataJson (hjson : W.serdeJson.Faithful) (o : AssertOpts) :
    ClientData.fromSlice W (clientDataJson o.type o.challenge o.origin o.crossOrigin) =
      .ok ⟨o.type, b64 o.challenge, o.origin, o.crossOrigin, false⟩ := by
  have hplain : o.clientValue.Plain Serde.depthLimit := by
    change ∀ member ∈ ((_ ++ _ : List (Str × Serde.Value))), Serde.Value.Plain 127 member.2
    intro member hmember
    simp only [List.mem_append, List.mem_cons, List.not_mem_nil, or_false, List.mem_map] at hmember
    rcases hmember with (rfl | rfl | rfl) | ⟨_, _, rfl⟩ <;> simp
  have hread : W.serdeJson.fromSlice (clientDataJson o.type o.challenge o.origin o.crossOrigin) =
      .ok o.clientValue := by
    rw [clientDataJson_eq, hjson.fromSlice_compact _ hplain]
  rw [ClientData.fromSlice, hread, ok_bind]
  obtain ⟨challenge, origin, flags, crossOrigin, rpIdOverride, type, highS⟩ := o
  rcases crossOrigin with _ | crossOrigin <;> rfl

theorem parse_authenticatorData (rpId : Str) (flags : UInt8) :
    parseAuthenticatorData (authenticatorData sha256 rpId flags []) =
      .ok ⟨sha256 (Text.utf8 rpId), flags⟩ := by
  rw [authenticatorData]
  obtain ⟨hash, hhash⟩ := sha256 (Text.utf8 rpId)
  have hlong : 37 ≤ (hash ++ flags :: ([0, 0, 0, 0] ++ [])).length := by simp [hhash]
  have hflags : (hash ++ flags :: ([0, 0, 0, 0] ++ [])).getD 32 0 = flags := by
    rw [List.getD_append_right _ _ _ _ hhash.le, hhash]
    rfl
  simp only [parseAuthenticatorData, dif_pos hlong, hflags, List.take_left' hhash]

end SoftPasskey

/-! ## The knobs -/

/-- The check that the knobs trip first, for a passkey of the RP ID. -/
def AssertOpts.tripped (W : WebauthnCrates) (sha256 : Bytes → ByteArr 32) (rpId : Str)
    (expected : ExpectedChallenge) (policy : AssertionPolicy) (o : AssertOpts) :
    Option AssertionError :=
  if o.type ≠ text "webauthn.get" then some .wrongType
  else match expected.want W sha256 with
    | .error e => some e
    | .ok want =>
        if o.challenge ≠ want then some .challengeMismatch
        else match policy.entryForRpIdHash (sha256 (Text.utf8 (o.rpIdOverride.getD rpId))) with
          | none => some .rpIdNotAllowed
          | some entry =>
              if entry.allowsOrigin o.origin = false then some .originNotAllowed
              else if o.crossOrigin = some true then some .crossOrigin
              else if o.flags &&& flagUp = 0 then some .userPresenceMissing
              else if policy.requireUv = true ∧ o.flags &&& flagUv = 0 then
                some .userVerificationMissing
              else none

namespace SoftPasskey

variable {W : WebauthnCrates} {sha256 : Bytes → ByteArr 32}

variable (sha256) in
/-- The checks that need no key find what the knobs say. -/
theorem checkCeremony_knobs (hjson : W.serdeJson.Faithful) (rpId : Str) (o : AssertOpts)
    (expected : ExpectedChallenge) (policy : AssertionPolicy) :
    match o.tripped W sha256 rpId expected policy with
    | some e => checkCeremony W sha256
        (authenticatorData sha256 (o.rpIdOverride.getD rpId) o.flags [])
        (clientDataJson o.type o.challenge o.origin o.crossOrigin) expected policy = .error e
    | none => ∃ entry, checkCeremony W sha256
        (authenticatorData sha256 (o.rpIdOverride.getD rpId) o.flags [])
        (clientDataJson o.type o.challenge o.origin o.crossOrigin) expected policy =
          .ok ⟨entry, o.origin, o.flags⟩ := by
  have hchallenge : decodeMember W (text "clientDataJSON challenge") (b64 o.challenge) =
      .ok o.challenge := by
    rw [decodeMember, decode_b64, okOr_some]
  unfold AssertOpts.tripped checkCeremony
  rw [parse_authenticatorData, fromSlice_clientDataJson hjson]
  simp only [Except.mapError, ok_bind, hchallenge]
  by_cases htype : o.type = text "webauthn.get"
  swap
  · rw [if_pos htype, ensure_neg htype]
    rfl
  rw [if_neg (not_not.mpr htype), ensure_pos htype, ok_bind]
  cases hwant : expected.want W sha256 with
  | error e => rfl
  | ok want =>
      dsimp only
      rw [ok_bind]
      by_cases hsame : o.challenge = want
      swap
      · rw [if_pos hsame, ensure_neg hsame]
        rfl
      rw [if_neg (not_not.mpr hsame), ensure_pos hsame, ok_bind]
      cases hentry : policy.entryForRpIdHash (sha256 (Text.utf8 (o.rpIdOverride.getD rpId))) with
      | none => rfl
      | some entry =>
          dsimp only
          rw [okOr_some, ok_bind]
          by_cases hallows : entry.allowsOrigin o.origin = true
          swap
          · rw [if_pos (Bool.eq_false_of_not_eq_true hallows), ensure_neg hallows]
            rfl
          rw [if_neg (by simp [hallows]), ensure_pos hallows, ok_bind]
          by_cases hcross : o.crossOrigin = some true
          · rw [if_pos hcross, ensure_neg (not_not.mpr hcross)]
            rfl
          rw [if_neg hcross, ensure_pos hcross, ok_bind, ensure_pos trivial, ok_bind]
          by_cases hup : o.flags &&& flagUp = 0
          · rw [if_pos hup, ensure_neg (not_not.mpr hup)]
            rfl
          rw [if_neg hup, ensure_pos hup, ok_bind]
          by_cases huv : policy.requireUv = true ∧ o.flags &&& flagUv = 0
          · rw [if_pos huv, ensure_neg fun h => h huv.1 huv.2]
            rfl
          · have hverified : policy.requireUv = true → o.flags &&& flagUv ≠ 0 :=
              fun h hzero => huv ⟨h, hzero⟩
            rw [if_neg huv, ensure_pos hverified]
            exact ⟨entry, rfl⟩

end SoftPasskey

/-! ## The signature -/

section

variable {n : ℕ} {Pt : Type} [AddCommGroup Pt] [Module (ZMod n) Pt] [Fact n.Prime] {P : P256}
  {C : Curve n Pt} {R : P256Recovery P} {sha256 : Bytes → ByteArr 32}
  {point : P.VerifyingKey → Pt} {scalars : P.Signature → Signature n} {W : WebauthnCrates}
  {K : SoftKeys P}

/-- The crates of the passkey: DER reads back, and `n - s` is a scalar. -/
structure SoftKeys.Lawful (K : SoftKeys P) (scalars : P.Signature → Signature n) : Prop where
  fromDer_toDer : ∀ sig, P.signatureFromDer (K.toDer sig) = .ok sig
  negateS : ∀ sig, ∃ negated, K.negateS sig = some negated ∧ scalars negated = (scalars sig).neg

namespace SoftPasskey

variable (sha256) in
/-- What is decoded of an assertion with some signature. -/
def decoded (passkey : SoftPasskey K) (o : AssertOpts) (sig : P.Signature) : DecodedAssertion where
  credentialId := passkey.credentialId
  authenticatorData := authenticatorData sha256 (o.rpIdOverride.getD passkey.rpId) o.flags []
  clientDataJson := clientDataJson o.type o.challenge o.origin o.crossOrigin
  signature := K.toDer sig
  userHandle := passkey.userHandle

omit [Fact n.Prime] in
/-- The form of the signature is not part of what is signed. -/
theorem payloadScalar_decoded {passkey : SoftPasskey K} {o : AssertOpts} (sig sig' : P.Signature) :
    payloadScalar n sha256 (passkey.decoded sha256 o sig) =
      payloadScalar n sha256 (passkey.decoded sha256 o sig') :=
  rfl

variable (sha256) in
/-- What the key signs an assertion with, before its form is chosen. -/
def signed (passkey : SoftPasskey K) (o : AssertOpts) : P.Signature :=
  K.sign passkey.key (signedPayload sha256
    (authenticatorData sha256 (o.rpIdOverride.getD passkey.rpId) o.flags [])
    (clientDataJson o.type o.challenge o.origin o.crossOrigin))

/-- The signature is one of the two forms of what the key signed. -/
def IsForm (scalars : P.Signature → Signature n) (signed sig : P.Signature) : Prop :=
  scalars sig = scalars signed ∨ scalars sig = (scalars signed).neg

/-- The key signs the assertion with textbook ECDSA and recovers from it. -/
def SignsRecoverably (C : Curve n Pt) (sha256 : Bytes → ByteArr 32) (point : P.VerifyingKey → Pt)
    (scalars : P.Signature → Signature n) (passkey : SoftPasskey K) (o : AssertOpts) : Prop :=
  ∃ d k, SignedBy C sha256 point scalars (K.verifyingKey passkey.key)
    (passkey.decoded sha256 o (passkey.signed sha256 o)) (passkey.signed sha256 o) d k

variable {passkey : SoftPasskey K} {o : AssertOpts}

variable (sha256) in
/-- The assertion with some signature. -/
def asserted (passkey : SoftPasskey K) (o : AssertOpts) (sig : P.Signature) : AssertionJson where
  id := b64 passkey.credentialId
  rawId := b64 passkey.credentialId
  type := text "public-key"
  response :=
    { authenticatorData :=
        b64 (authenticatorData sha256 (o.rpIdOverride.getD passkey.rpId) o.flags [])
      clientDataJson := b64 (clientDataJson o.type o.challenge o.origin o.crossOrigin)
      signature := b64 (K.toDer sig)
      userHandle := passkey.userHandle.map b64 }

theorem decodeAssertion_asserted (sig : P.Signature) :
    decodeAssertion W (passkey.asserted sha256 o sig) = .ok (passkey.decoded sha256 o sig) := by
  have hdecode : ∀ member bytes, decodeMember W member (b64 bytes) = .ok bytes := by
    intro member bytes
    rw [decodeMember, decode_b64, okOr_some]
  have hhandle : (passkey.userHandle.map b64).mapM (decodeMember W (text "userHandle")) =
      .ok passkey.userHandle := by
    cases passkey.userHandle with
    | none => rfl
    | some bytes => simp [hdecode]
  simp only [decodeAssertion, asserted, hdecode, hhandle, ok_bind, ensure_pos]
  rfl

/-- The passkey asserts with its signature in one of the two forms. -/
theorem assert_eq (h : Textbook C R sha256 point scalars) (hkeys : K.Lawful scalars)
    (highS : Bool) :
    ∃ sig, passkey.assert R sha256 { o with highS } = some (passkey.asserted sha256 o sig) ∧
      IsForm scalars (passkey.signed sha256 o) sig := by
  let low := (R.normalizeS (passkey.signed sha256 o)).getD (passkey.signed sha256 o)
  have hlow : scalars low = (scalars (passkey.signed sha256 o)).lowS := h.scalars_normalized _
  have hform : IsForm scalars (passkey.signed sha256 o) low := by
    unfold IsForm
    rw [hlow, Signature.lowS]
    split_ifs
    · exact .inr rfl
    · exact .inl rfl
  have hassert : ∀ sig, (if highS then K.negateS low else some low) = some sig →
      passkey.assert R sha256 { o with highS } = some (passkey.asserted sha256 o sig) := by
    intro sig hchosen
    unfold assert assertRaw
    exact Option.bind_eq_some_iff.mpr ⟨sig, hchosen, rfl⟩
  cases highS with
  | false => exact ⟨low, hassert low rfl, hform⟩
  | true =>
      obtain ⟨negated, hnegated, hneg⟩ := hkeys.negateS low
      refine ⟨negated, hassert negated hnegated, ?_⟩
      rw [IsForm, hneg]
      rcases hform with heq | heq
      · exact .inr (by rw [heq])
      · exact .inl (by rw [heq, Signature.neg_neg])

theorem assert_low (h : Textbook C R sha256 point scalars) (hkeys : K.Lawful scalars)
    (hlow : o.highS = false) :
    ∃ sig, passkey.assert R sha256 o = some (passkey.asserted sha256 o sig) ∧
      IsForm scalars (passkey.signed sha256 o) sig := by
  have hsame : { o with highS := false } = o := by rw [← hlow]
  have hassert : ∃ sig, passkey.assert R sha256 { o with highS := false } =
      some (passkey.asserted sha256 o sig) ∧ IsForm scalars (passkey.signed sha256 o) sig :=
    assert_eq h hkeys false
  rwa [hsame] at hassert

/-- Both forms recover the same two keys, the passkey's among them. -/
theorem recovers_decoded (h : Textbook C R sha256 point scalars) (hkeys : K.Lawful scalars)
    (hsigns : passkey.SignsRecoverably C sha256 point scalars o) :
    ∃ keys : P.VerifyingKey × P.VerifyingKey,
      (K.verifyingKey passkey.key = keys.1 ∨ K.verifyingKey passkey.key = keys.2) ∧
        ∀ sig, IsForm scalars (passkey.signed sha256 o) sig →
          recoverCandidates sha256 R (passkey.decoded sha256 o sig) = .ok keys := by
  obtain ⟨d, k, hsigned⟩ := hsigns
  obtain ⟨keys, hrecovered, hsigner⟩ :=
    recoverCandidates_signer h (hkeys.fromDer_toDer (passkey.signed sha256 o)) hsigned
  refine ⟨keys, hsigner, ?_⟩
  rintro sig (hsame | hneg)
  · rw [recoverCandidates_eq_ok h (hkeys.fromDer_toDer _)] at hrecovered ⊢
    rw [hsame]
    exact hrecovered
  · exact recoverCandidates_neg h (hkeys.fromDer_toDer _) (hkeys.fromDer_toDer sig) hneg hrecovered

/-- What recovery says of an assertion of the passkey. -/
structure Recovers (passkey : SoftPasskey K) (o : AssertOpts) (recovered : RecoveredAssertion P) :
    Prop where
  signer : K.verifyingKey passkey.key = recovered.candidates.1 ∨
    K.verifyingKey passkey.key = recovered.candidates.2
  distinct : recovered.candidates.1 ≠ recovered.candidates.2
  credentialId : recovered.credentialId = passkey.credentialId
  userHandle : recovered.userHandle = passkey.userHandle
  origin : recovered.origin = o.origin
  userVerified : recovered.userVerified = decide (o.flags &&& flagUv ≠ 0)

/-- A tripped check is the answer. -/
theorem verifyAndRecover_tripped (hjson : W.serdeJson.Faithful) {expected : ExpectedChallenge}
    {policy : AssertionPolicy} {e : AssertionError}
    (htripped : o.tripped W sha256 passkey.rpId expected policy = some e) (sig : P.Signature) :
    verifyAndRecover W sha256 R (passkey.asserted sha256 o sig) expected policy = .error e := by
  have hchecks := checkCeremony_knobs sha256 hjson passkey.rpId o expected policy
  rw [htripped] at hchecks
  rw [verifyAndRecover, decodeAssertion_asserted, ok_bind]
  simp only [decoded]
  rw [hchecks, error_bind]

/-- With no check tripped both forms recover the same. -/
theorem verifyAndRecover_untripped (h : Textbook C R sha256 point scalars)
    (hkeys : K.Lawful scalars) (hjson : W.serdeJson.Faithful)
    (hsigns : passkey.SignsRecoverably C sha256 point scalars o) {expected : ExpectedChallenge}
    {policy : AssertionPolicy}
    (htripped : o.tripped W sha256 passkey.rpId expected policy = none) :
    ∃ recovered, passkey.Recovers o recovered ∧
      ∀ sig, IsForm scalars (passkey.signed sha256 o) sig →
        verifyAndRecover W sha256 R (passkey.asserted sha256 o sig) expected policy =
          .ok recovered := by
  obtain ⟨keys, hsigner, hrecovers⟩ := recovers_decoded h hkeys hsigns
  have hchecks := checkCeremony_knobs sha256 hjson passkey.rpId o expected policy
  rw [htripped] at hchecks
  obtain ⟨entry, hceremony⟩ := hchecks
  have hdistinct := recoverCandidates_ne h (hrecovers (passkey.signed sha256 o) (.inl rfl))
  refine ⟨assembled (passkey.decoded sha256 o (passkey.signed sha256 o))
    ⟨entry, o.origin, o.flags⟩ keys, ⟨hsigner, hdistinct, rfl, rfl, rfl, rfl⟩, ?_⟩
  intro sig hform
  rw [verifyAndRecover_eq (decodeAssertion_asserted sig) hceremony (hrecovers sig hform)]
  rfl

/-- An assertion is refused with the error of the first check its knobs trip; one that trips none
recovers the passkey.  The form of its signature does not matter. -/
theorem soft_passkey_verdict (h : Textbook C R sha256 point scalars) (hkeys : K.Lawful scalars)
    (hjson : W.serdeJson.Faithful)
    (hsigns : passkey.SignsRecoverably C sha256 point scalars o) (expected : ExpectedChallenge)
    (policy : AssertionPolicy) :
    ∃ verdict : Except AssertionError (RecoveredAssertion P),
      (∀ highS, ∃ a, passkey.assert R sha256 { o with highS } = some a ∧
        verifyAndRecover W sha256 R a expected policy = verdict) ∧
      (∀ e, verdict = .error e ↔ o.tripped W sha256 passkey.rpId expected policy = some e) ∧
      ∀ recovered, verdict = .ok recovered → passkey.Recovers o recovered := by
  have hverify : ∀ verdict : Except AssertionError (RecoveredAssertion P),
      (∀ sig, IsForm scalars (passkey.signed sha256 o) sig →
        verifyAndRecover W sha256 R (passkey.asserted sha256 o sig) expected policy = verdict) →
      ∀ highS, ∃ a, passkey.assert R sha256 { o with highS } = some a ∧
        verifyAndRecover W sha256 R a expected policy = verdict := by
    intro verdict hverdict highS
    obtain ⟨sig, hassert, hform⟩ := assert_eq h hkeys highS
    exact ⟨_, hassert, hverdict sig hform⟩
  cases htripped : o.tripped W sha256 passkey.rpId expected policy with
  | some e =>
      refine ⟨.error e, hverify _ fun sig _ => verifyAndRecover_tripped hjson htripped sig, ?_, ?_⟩
      · intro e'
        rw [Except.error.injEq, Option.some.injEq]
      · intro recovered hok
        cases hok
  | none =>
      obtain ⟨recovered, hrecovers, hok⟩ :=
        verifyAndRecover_untripped h hkeys hjson hsigns htripped
      refine ⟨.ok recovered, hverify _ hok, ?_, ?_⟩
      · intro e
        constructor
        · intro herror
          cases herror
        · intro hsome
          cases hsome
      · intro recovered' heq
        rwa [← Except.ok.inj heq]

end SoftPasskey

end

/-! ## The base point as a passkey -/

/-- The second scalar of a signature by the key one with the nonce two. -/
def baseScalar (z : ZMod Primality.p256Order) : ZMod Primality.p256Order :=
  ((2 : Nat) : ZMod Primality.p256Order)⁻¹ * (z + sampleR)

theorem baseScalar_eq (z : ZMod Primality.p256Order) : baseScalar z = 2⁻¹ * (z + sampleR) := by
  rw [baseScalar, Nat.cast_ofNat]

/-- The signature by the key one with the nonce two. -/
def baseSign (z : ZMod Primality.p256Order) : Signature Primality.p256Order :=
  if h : baseScalar z ≠ 0 then ⟨sampleR, baseScalar z, sampleR_ne_zero, h⟩ else sampleSig

def softKeys (sha256 : Bytes → ByteArr 32) : SoftKeys (codecP256 sha256) where
  SigningKey := Unit
  verifyingKey _ := baseKey
  sign _ payload := baseSign (digestScalar Primality.p256Order (sha256 payload))
  negateS := fun (sig : Signature Primality.p256Order) => some sig.neg
  toDer := fun (sig : Signature Primality.p256Order) => derBytes (sig.r.val, sig.s.val)
  publicKeyDer _ := []

theorem lawful_softKeys (sha256 : Bytes → ByteArr 32) :
    (softKeys sha256).Lawful sampleScalars where
  fromDer_toDer := signatureFromDer_codec sha256
  negateS sig := ⟨Signature.neg sig, rfl, rfl⟩

def basePasskey (sha256 : Bytes → ByteArr 32) : SoftPasskey (softKeys sha256) where
  key := ()
  credentialId := List.replicate 16 7
  rpId := text "inblock.io"
  userHandle := none

/-- The base point recovers from what it signs, but for two payloads. -/
theorem signsRecoverably_base {sha256 : Bytes → ByteArr 32} {o : AssertOpts}
    {z : ZMod Primality.p256Order}
    (hz : payloadScalar Primality.p256Order sha256
      ((basePasskey sha256).decoded sha256 o sampleSig) = z)
    (hscalar : z + sampleR ≠ 0) (hother : z + (z + sampleR) ≠ 0) :
    (basePasskey sha256).SignsRecoverably sampleCurve sha256 samplePoint sampleScalars o := by
  have htwo : (2 : ZMod Primality.p256Order) ≠ 0 := two_ne_zero_p256
  have hnonce : (2 : ZMod Primality.p256Order) • sampleCurve.base = 2 := mul_one 2
  have hx : sampleCurve.x 2 = sampleX := nonceCurve_x_nonce p256Order_ne_two two_ne_zero_p256
  have hne : baseScalar z ≠ 0 := by
    rw [baseScalar_eq]
    exact mul_ne_zero (inv_ne_zero htwo) hscalar
  have hsig : baseSign z = ⟨sampleR, baseScalar z, sampleR_ne_zero, hne⟩ := dif_pos hne
  have hsigned : (basePasskey sha256).signed sha256 o = baseSign z := congrArg baseSign hz
  have hpayload : payloadScalar Primality.p256Order sha256
      ((basePasskey sha256).decoded sha256 o ((basePasskey sha256).signed sha256 o)) = z :=
    (SoftPasskey.payloadScalar_decoded _ _).trans hz
  refine ⟨1, 2, (mul_one 1).symm, ?_, ?_, ?_⟩
  · rw [hpayload, hsigned, hsig]
    refine ⟨?_, ?_⟩
    · rw [hnonce, hx]
      rfl
    · show baseScalar z = 2⁻¹ * (z + sampleR * 1)
      rw [mul_one, baseScalar_eq]
  · rw [hnonce, hx]
    decide +kernel
  · rw [hpayload, hsigned, hsig, hnonce]
    show sampleR⁻¹ * (baseScalar z * -2 - z * 1) ≠ 0
    apply mul_ne_zero (inv_ne_zero sampleR_ne_zero)
    intro hzero
    apply hother
    have hdouble : baseScalar z * 2 = z + sampleR := by
      rw [baseScalar_eq, mul_comm, ← mul_assoc, mul_inv_cancel₀ htwo, one_mul]
    linear_combination -hzero - hdouble

/-- The knobs that make the sample assertion. -/
def sampleOpts : AssertOpts :=
  { AssertOpts.new (Text.utf8 (text "0123456789abcdef0123456789abcdef"))
      (text "https://siwx.inblock.io") with crossOrigin := none }

def softWebauthn : WebauthnCrates :=
  { sampleWebauthn [] with serdeJson := Serde.Json.compactCrate }

theorem signsRecoverably_sample : (basePasskey codecSha256).SignsRecoverably sampleCurve codecSha256
    samplePoint sampleScalars sampleOpts := by
  apply signsRecoverably_base rfl
  · decide +kernel
  · decide +kernel

/-- The base point as a passkey, with the knobs of the sample assertion. -/
theorem soft_passkey_verdict_base :
    ∃ verdict : Except AssertionError (RecoveredAssertion (codecP256 codecSha256)),
      (∀ highS, ∃ a, (basePasskey codecSha256).assert (codecRecovery codecSha256) codecSha256
          { sampleOpts with highS } = some a ∧
        verifyAndRecover softWebauthn codecSha256 (codecRecovery codecSha256) a sampleChallenge
          samplePolicy = verdict) ∧
      (∀ e, verdict = .error e ↔ sampleOpts.tripped softWebauthn codecSha256 (text "inblock.io")
        sampleChallenge samplePolicy = some e) ∧
      ∀ recovered, verdict = .ok recovered →
        (basePasskey codecSha256).Recovers sampleOpts recovered :=
  SoftPasskey.soft_passkey_verdict (textbook_codec codecSha256) (lawful_softKeys codecSha256)
    Serde.Json.compactCrate_faithful signsRecoverably_sample sampleChallenge samplePolicy

end AquaAuth
