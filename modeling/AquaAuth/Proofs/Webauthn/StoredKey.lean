import AquaAuth.Model.Webauthn.StoredKey
import AquaAuth.Proofs.SignatureEncodings
import AquaAuth.Proofs.Webauthn.AssertionGate
import AquaAuth.Proofs.Webauthn.Recovery
set_option autoImplicit false
/-!
# Recovery against a stored key

The two verifiers of an assertion side by side: recovery names a key exactly when the verifier that
was given the key accepts it, up to what only one of them looks at.
-/

namespace AquaAuth

open Support Support.Result Support.Ecdsa

/-! ## Client data -/

/-- What the untyped reading finds under a name. -/
theorem get_of_named {name : Str} {members : List (Str × Serde.Value)} {value : Serde.Value}
    (h : Serde.Value.named name members = [value]) :
    (Serde.Value.object members).get name = some value := by
  rw [Serde.Value.get, h]
  rfl

theorem get_mem {name : Str} {value found : Serde.Value} (h : value.get name = some found) :
    ∃ members, value = .object members ∧ (name, found) ∈ members := by
  cases value with
  | object members => exact ⟨members, rfl, Serde.Value.mem_named.mp (List.mem_of_getLast? h)⟩
  | null => cases h
  | bool b => cases h
  | number literal => cases h
  | string s => cases h
  | array items => cases h

theorem clientText_eq_ok {clientData : Serde.Value} {name s : Str} :
    clientText clientData name = .ok s ↔ clientData.get name = some (.string s) := by
  rw [clientText, okOr_eq_ok]
  constructor
  · intro h
    obtain ⟨value, hvalue, hs⟩ := Option.bind_eq_some_iff.mp h
    rw [hvalue, asStr_eq_some hs]
  · intro h
    rw [h]
    rfl

/-- Base64 that is read with or without padding is read without exactly when it has none. -/
theorem decodeNoPad_eq_some {alphabet value : Str} (halphabet : Base64.Alphabet alphabet)
    {bytes : Bytes} : Base64.decodeNoPad alphabet value = some bytes ↔
      Base64.decodeIndifferent alphabet value = some bytes ∧ '=' ∉ value := by
  constructor
  · intro h
    obtain ⟨_, hencode⟩ := Option.filter_eq_some_iff.mp h
    obtain rfl := of_decide_eq_true hencode
    refine ⟨Base64.decodeIndifferent_encodeNoPad halphabet bytes, ?_⟩
    intro hpadding
    obtain ⟨d, hd, heq⟩ := Base64.mem_encodeNoPad hpadding
    exact halphabet.notPadding d hd heq.symm
  · rintro ⟨h, hpadding⟩
    obtain ⟨hdecode, hencode⟩ := Option.filter_eq_some_iff.mp h
    have hbody : value.rdropWhile (· = '=') = value := by
      rw [List.rdropWhile_eq_self_iff]
      intro hne hlast
      exact hpadding (of_decide_eq_true hlast ▸ List.getLast_mem hne)
    rw [hbody] at hencode
    exact Option.filter_eq_some_iff.mpr ⟨hdecode, decide_eq_true (of_decide_eq_true hencode).1⟩

/-! ## The two verifiers -/

/-- What the stored-key verifier accepts under a key. -/
structure StoredKeyAccepts (S : StoredKeyCrates) (P : P256) (sha256 : Bytes → ByteArr 32)
    (params : WebAuthnAssertionParams) (key : P.VerifyingKey) : Prop where
  authData : ∃ authData, parseAuthenticatorData params.authenticatorData = .ok authData ∧
    authData.rpIdHash = sha256 (Text.utf8 params.expectedRpId) ∧ authData.flags &&& flagUp ≠ 0
  client : ∃ clientData challenge, S.fromSlice params.clientDataJson = .ok clientData ∧
    clientData.get (text "type") = some (.string (text "webauthn.get")) ∧
    clientData.get (text "challenge") = some (.string challenge) ∧
    Base64.decodeNoPad Base64.urlSafe challenge = some params.expectedChallenge ∧
    clientData.get (text "origin") = some (.string params.expectedOrigin)
  signature : params.signature.length = 64 ∧ ∃ sig,
    P.signatureFromSlice params.signature = .ok sig ∧
    P.verify key (signedPayload sha256 params.authenticatorData params.clientDataJson) sig = true

theorem verifyWebauthnAssertion_eq_true {S : StoredKeyCrates} {P : P256}
    {sha256 : Bytes → ByteArr 32} {params : WebAuthnAssertionParams} {key : P.VerifyingKey}
    (hkey : EncodesKey P params.credentialPublicKey key) :
    verifyWebauthnAssertion S P sha256 params = .ok true ↔
      StoredKeyAccepts S P sha256 params key := by
  obtain ⟨point, hpoint, hload⟩ := hkey
  constructor
  · intro h
    obtain ⟨authData, hauth, h⟩ := bind_eq_ok.mp h
    obtain ⟨_, hhash, h⟩ := bind_eq_ok.mp h
    obtain ⟨_, hup, h⟩ := bind_eq_ok.mp h
    obtain ⟨clientData, hread, h⟩ := bind_eq_ok.mp h
    obtain ⟨type, htype, h⟩ := bind_eq_ok.mp h
    obtain ⟨_, hget, h⟩ := bind_eq_ok.mp h
    obtain ⟨challenge, hchallenge, h⟩ := bind_eq_ok.mp h
    obtain ⟨decoded, hdecoded, h⟩ := bind_eq_ok.mp h
    obtain ⟨_, hsame, h⟩ := bind_eq_ok.mp h
    obtain ⟨origin, horigin, h⟩ := bind_eq_ok.mp h
    obtain ⟨_, hlisted, h⟩ := bind_eq_ok.mp h
    obtain ⟨_, hlength, h⟩ := bind_eq_ok.mp h
    obtain ⟨point', hpoint', h⟩ := bind_eq_ok.mp h
    obtain ⟨key', hload', h⟩ := bind_eq_ok.mp h
    obtain ⟨sig, hsig, hverify⟩ := bind_eq_ok.mp h
    obtain rfl : point' = point := Except.ok.inj ((mapError_eq_ok.mp hpoint').symm.trans hpoint)
    obtain rfl : key' = key := Except.ok.inj ((mapError_eq_ok.mp hload').symm.trans hload)
    obtain rfl : type = text "webauthn.get" := ensure_eq_ok.mp hget
    obtain rfl : decoded = params.expectedChallenge := ensure_eq_ok.mp hsame
    obtain rfl : origin = params.expectedOrigin := ensure_eq_ok.mp hlisted
    exact {
      authData := ⟨authData, mapError_eq_ok.mp hauth, ensure_eq_ok.mp hhash, ensure_eq_ok.mp hup⟩
      client := ⟨clientData, challenge, mapError_eq_ok.mp hread, clientText_eq_ok.mp htype,
        clientText_eq_ok.mp hchallenge, okOr_eq_ok.mp hdecoded, clientText_eq_ok.mp horigin⟩
      signature := ⟨ensure_eq_ok.mp hlength, sig, mapError_eq_ok.mp hsig, Except.ok.inj hverify⟩ }
  · rintro ⟨⟨authData, hauth, hhash, hup⟩,
      ⟨clientData, challenge, hread, htype, hchallenge, hdecoded, horigin⟩,
      ⟨hlength, sig, hsig, hverify⟩⟩
    rw [verifyWebauthnAssertion, mapError_eq_ok.mpr hauth, ok_bind, ensure_pos hhash, ok_bind,
      ensure_pos hup, ok_bind, mapError_eq_ok.mpr hread, ok_bind, clientText_eq_ok.mpr htype,
      ok_bind, ensure_pos rfl, ok_bind, clientText_eq_ok.mpr hchallenge, ok_bind,
      okOr_eq_ok.mpr hdecoded, ok_bind, ensure_pos rfl, ok_bind, clientText_eq_ok.mpr horigin,
      ok_bind, ensure_pos rfl, ok_bind]
    simp only [ensure_pos hlength, mapError_eq_ok.mpr hpoint, mapError_eq_ok.mpr hload,
      mapError_eq_ok.mpr hsig, ok_bind, pure_eq_ok, hverify]

/-- What the checks of a ceremony over an exact challenge find in order. -/
structure ChecksOut (W : WebauthnCrates) (authenticatorData clientDataJson challenge : Bytes)
    (policy : AssertionPolicy) (authData : AuthenticatorData) (client : ClientData)
    (ceremony : Ceremony) : Prop where
  parse : parseAuthenticatorData authenticatorData = .ok authData
  read : ClientData.fromSlice W clientDataJson = .ok client
  type : client.type = text "webauthn.get"
  challenge : IsBase64 client.challenge challenge
  entry : policy.entryForRpIdHash authData.rpIdHash = some ceremony.entry
  allows : ceremony.entry.allowsOrigin client.origin = true
  crossOrigin : client.crossOrigin ≠ some true
  topOrigin : client.topOrigin = false
  userPresent : authData.flags &&& flagUp ≠ 0
  userVerified : policy.requireUv = true → authData.flags &&& flagUv ≠ 0
  origin : ceremony.origin = client.origin
  flags : ceremony.flags = authData.flags

theorem checkCeremony_exact_eq_ok {W : WebauthnCrates} {sha256 : Bytes → ByteArr 32}
    {authenticatorData clientDataJson challenge : Bytes} {policy : AssertionPolicy}
    {ceremony : Ceremony} :
    checkCeremony W sha256 authenticatorData clientDataJson (.exact challenge) policy =
        .ok ceremony ↔
      ∃ authData client, ChecksOut W authenticatorData clientDataJson challenge policy authData client
        ceremony := by
  constructor
  · intro h
    obtain ⟨authData, hauth, h⟩ := bind_eq_ok.mp h
    obtain ⟨client, hclient, h⟩ := bind_eq_ok.mp h
    obtain ⟨_, htype, h⟩ := bind_eq_ok.mp h
    obtain ⟨decoded, hdecoded, h⟩ := bind_eq_ok.mp h
    obtain ⟨want, hwant, h⟩ := bind_eq_ok.mp h
    obtain ⟨_, hsame, h⟩ := bind_eq_ok.mp h
    obtain ⟨entry, hentry, h⟩ := bind_eq_ok.mp h
    obtain ⟨_, hallows, h⟩ := bind_eq_ok.mp h
    obtain ⟨_, hcross, h⟩ := bind_eq_ok.mp h
    obtain ⟨_, htop, h⟩ := bind_eq_ok.mp h
    obtain ⟨_, hup, h⟩ := bind_eq_ok.mp h
    obtain ⟨_, huv, h⟩ := bind_eq_ok.mp h
    obtain rfl := Except.ok.inj h
    obtain rfl : challenge = want := Except.ok.inj hwant
    obtain rfl : decoded = challenge := ensure_eq_ok.mp hsame
    exact ⟨authData, client, {
      parse := mapError_eq_ok.mp hauth
      read := mapError_eq_ok.mp hclient
      type := ensure_eq_ok.mp htype
      challenge := okOr_eq_ok.mp hdecoded
      entry := okOr_eq_ok.mp hentry
      allows := ensure_eq_ok.mp hallows
      crossOrigin := ensure_eq_ok.mp hcross
      topOrigin := ensure_eq_ok.mp htop
      userPresent := ensure_eq_ok.mp hup
      userVerified := ensure_eq_ok.mp huv
      origin := rfl
      flags := rfl }⟩
  · rintro ⟨authData, client, h⟩
    have hchallenge : decodeMember W (text "clientDataJSON challenge") client.challenge =
        .ok challenge := okOr_eq_ok.mpr h.challenge
    rw [checkCeremony, mapError_eq_ok.mpr h.parse, ok_bind, mapError_eq_ok.mpr h.read, ok_bind,
      ensure_pos h.type, ok_bind, hchallenge, ok_bind]
    simp only [ExpectedChallenge.want, ok_bind, ensure_pos, h.entry, okOr_some, h.allows,
      ensure_pos h.crossOrigin, ensure_pos h.topOrigin, ensure_pos h.userPresent,
      ensure_pos h.userVerified, pure_eq_ok]
    rw [← h.origin, ← h.flags]

/-! ## Agreement -/

section

variable {n : ℕ} {Pt : Type} [AddCommGroup Pt] [Module (ZMod n) Pt] [Fact n.Prime] {P : P256}
  {C : Curve n Pt} {R : P256Recovery P} {sha256 : Bytes → ByteArr 32}
  {point : P.VerifyingKey → Pt} {scalars : P.Signature → Signature n} {W : WebauthnCrates}
  {S : StoredKeyCrates}

/-- Recovery names the keys that verify, short of a nonce point whose coordinate was reduced. -/
theorem mem_candidates_iff (h : Textbook C R sha256 point scalars) {members : DecodedAssertion}
    {sig : P.Signature} (hsig : P.signatureFromDer members.signature = .ok sig)
    {keys : P.VerifyingKey × P.VerifyingKey}
    (hkeys : recoverCandidates sha256 R members = .ok keys) {key : P.VerifyingKey} :
    (key = keys.1 ∨ key = keys.2) ↔
      P.verify key (signedPayload sha256 members.authenticatorData members.clientDataJson) sig =
          true ∧
        C.x (C.nonce (point key) (payloadScalar n sha256 members) (scalars sig)) < n := by
  obtain ⟨heven, hodd⟩ := (recoverCandidates_eq_ok h hsig).mp hkeys
  rw [h.verify_iff]
  change _ ↔ C.Verifies (point key) (payloadScalar n sha256 members) (scalars sig) ∧ _
  rw [← Curve.verifies_lowS, ← Curve.x_nonce_lowS,
    ← Curve.exists_recovers_iff (h.point_ne_zero key)]
  constructor
  · rintro (rfl | rfl)
    · exact ⟨false, heven⟩
    · exact ⟨true, hodd⟩
  · rintro ⟨odd, hkey⟩
    cases odd with
    | false => exact .inl (h.point_injective (hkey.unique heven))
    | true => exact .inr (h.point_injective (hkey.unique hodd))

/-- The stored-key verifier is asked about the same assertion, with its signature in either form
as 64 bytes. -/
structure AsksAbout (scalars : P.Signature → Signature n) (members : DecodedAssertion)
    (sig : P.Signature) (params : WebAuthnAssertionParams) : Prop where
  authenticatorData : params.authenticatorData = members.authenticatorData
  clientDataJson : params.clientDataJson = members.clientDataJson
  length : params.signature.length = 64
  signature : ∃ fixed, P.signatureFromSlice params.signature = .ok fixed ∧
    (scalars fixed = scalars sig ∨ scalars fixed = (scalars sig).neg)

/-- The assertion recovers the key among its candidates, for this RP ID and origin. -/
def NamesKey (W : WebauthnCrates) (sha256 : Bytes → ByteArr 32) (R : P256Recovery P)
    (a : AssertionJson) (policy : AssertionPolicy) (params : WebAuthnAssertionParams)
    (key : P.VerifyingKey) : Prop :=
  ∃ recovered,
    verifyAndRecover W sha256 R a (.exact params.expectedChallenge) policy = .ok recovered ∧
      recovered.rpId = params.expectedRpId ∧ recovered.origin = params.expectedOrigin ∧
        (key = recovered.candidates.1 ∨ key = recovered.candidates.2)

/-- What only the stored-key verifier asks of the client data: an object, for the untyped reading
as well, and a challenge without padding. -/
def ReadsUntyped (S : StoredKeyCrates) (params : WebAuthnAssertionParams) : Prop :=
  ∃ members, S.fromSlice params.clientDataJson = .ok (.object members) ∧
    ∀ s, (text "challenge", .string s) ∈ members → '=' ∉ s

/-- What only recovery asks: of the policy, of the client data and of the signature. -/
structure LoginAsks (C : Curve n Pt) (W : WebauthnCrates) (sha256 : Bytes → ByteArr 32)
    (R : P256Recovery P) (point : P.VerifyingKey → Pt) (scalars : P.Signature → Signature n)
    (policy : AssertionPolicy) (members : DecodedAssertion) (sig : P.Signature)
    (params : WebAuthnAssertionParams) (key : P.VerifyingKey) : Prop where
  listed : ∃ entry, policy.entryForRpIdHash (sha256 (Text.utf8 params.expectedRpId)) = some entry ∧
    entry.rpId = params.expectedRpId ∧ entry.allowsOrigin params.expectedOrigin = true
  userVerified : policy.requireUv = true →
    members.authenticatorData.getD 32 0 &&& flagUv ≠ 0
  client : ∃ client, ClientData.fromSlice W members.clientDataJson = .ok client ∧
    client.crossOrigin ≠ some true ∧ client.topOrigin = false
  recovers : ∃ keys, recoverCandidates sha256 R members = .ok keys
  nonceBelow : C.x (C.nonce (point key) (payloadScalar n sha256 members) (scalars sig)) < n

theorem flags_of_parse {bytes : Bytes} {authData : AuthenticatorData}
    (h : parseAuthenticatorData bytes = .ok authData) : authData.flags = bytes.getD 32 0 := by
  rw [parseAuthenticatorData] at h
  split_ifs at h
  rw [← Except.ok.inj h]

variable {parseUrl : Str → Except Str OriginUrl} {calls : List BuilderCall} {a : AssertionJson}
  {policy : AssertionPolicy} {members : DecodedAssertion} {sig : P.Signature}
  {params : WebAuthnAssertionParams} {key : P.VerifyingKey}

/-- The key accepts the 64 bytes when it accepts the signature they are a form of. -/
theorem verify_form (h : Textbook C R sha256 point scalars) {payload : Bytes} {fixed : P.Signature}
    (hform : scalars fixed = scalars sig ∨ scalars fixed = (scalars sig).neg) :
    P.verify key payload fixed = true ↔ P.verify key payload sig = true := by
  rw [h.verify_iff, h.verify_iff]
  rcases hform with hsame | hneg
  · rw [hsame]
  · rw [hneg, Curve.verifies_neg]

/-- A key that an assertion recovers is accepted by the stored-key verifier that can read it. -/
theorem accepts_of_namesKey (h : Textbook C R sha256 point scalars)
    (huntyped : ∀ bytes value, S.fromSlice bytes = .ok value →
      W.serdeJson.fromSlice bytes = .ok value)
    (hpolicy : AssertionPolicy.ofCalls parseUrl sha256 calls = .ok policy)
    (hmembers : decodeAssertion W a = .ok members)
    (hsig : P.signatureFromDer members.signature = .ok sig)
    (hasks : AsksAbout scalars members sig params)
    (hrecovers : NamesKey W sha256 R a policy params key) (hreads : ReadsUntyped S params) :
    StoredKeyAccepts S P sha256 params key ∧
      LoginAsks C W sha256 R point scalars policy members sig params key := by
  obtain ⟨recovered, hrecovered, hrpId, horigin, hcandidate⟩ := hrecovers
  obtain ⟨members', hmembers', hrecovered⟩ := bind_eq_ok.mp hrecovered
  obtain rfl : members' = members := Except.ok.inj (hmembers'.symm.trans hmembers)
  obtain ⟨ceremony, hceremony, hrecovered⟩ := bind_eq_ok.mp hrecovered
  obtain ⟨keys, hkeys, hrecovered⟩ := bind_eq_ok.mp hrecovered
  obtain rfl := Except.ok.inj hrecovered
  obtain ⟨authData, client, hchecks⟩ := checkCeremony_exact_eq_ok.mp hceremony
  -- The policy's entry is the one of the RP ID that the stored-key verifier expects.
  obtain ⟨hentries, _⟩ := builderInvariant_of_calls hpolicy
  obtain ⟨_, hconfigures⟩ := exists_of_forall₂ hentries (List.mem_of_find?_eq_some hchecks.entry)
  have hhash : ceremony.entry.rpIdHash = authData.rpIdHash := by
    have hfound := List.find?_some (p := fun e : RpEntry => e.rpIdHash = authData.rpIdHash)
      hchecks.entry
    exact of_decide_eq_true hfound
  have hrp : authData.rpIdHash = sha256 (Text.utf8 params.expectedRpId) := by
    rw [← hhash, hconfigures.rpIdHash, ← hrpId]
  have horigin' : client.origin = params.expectedOrigin := hchecks.origin.symm.trans horigin
  -- Both readings of the client data are of one object.
  obtain ⟨object, hobject, hunpadded⟩ := hreads
  rw [hasks.clientDataJson] at hobject
  obtain ⟨value, hvalue, hclient⟩ := bind_eq_ok.mp hchecks.read
  obtain rfl : value = .object object :=
    Except.ok.inj (hvalue.symm.trans (huntyped _ _ hobject))
  have hobjectReads := readsObject_of_deserialize (okOr_eq_ok.mp hclient)
  have hpadding : '=' ∉ client.challenge := by
    apply hunpadded
    rw [← Serde.Value.mem_named, hobjectReads.challenge]
    exact List.mem_singleton.mpr rfl
  obtain ⟨hverify, hnonce⟩ := (mem_candidates_iff h hsig hkeys).mp hcandidate
  obtain ⟨fixed, hfixed, hform⟩ := hasks.signature
  constructor
  · exact {
      authData := ⟨authData, hasks.authenticatorData ▸ hchecks.parse, hrp, hchecks.userPresent⟩
      client := ⟨.object object, client.challenge, hasks.clientDataJson ▸ hobject,
        hchecks.type ▸ get_of_named hobjectReads.type, get_of_named hobjectReads.challenge,
        (decodeNoPad_eq_some Base64.urlSafe_alphabet).mpr ⟨hchecks.challenge, hpadding⟩,
        horigin' ▸ get_of_named hobjectReads.origin⟩
      signature := by
        rw [hasks.authenticatorData, hasks.clientDataJson]
        exact ⟨hasks.length, fixed, hfixed, (verify_form h hform).mpr hverify⟩ }
  · exact {
      listed := ⟨ceremony.entry, hrp ▸ hchecks.entry, hrpId, horigin' ▸ hchecks.allows⟩
      userVerified := flags_of_parse hchecks.parse ▸ hchecks.userVerified
      client := ⟨client, hchecks.read, hchecks.crossOrigin, hchecks.topOrigin⟩
      recovers := ⟨keys, hkeys⟩
      nonceBelow := hnonce }

/-- A key that the stored-key verifier accepts is recovered where the login asks for no more. -/
theorem namesKey_of_accepts (h : Textbook C R sha256 point scalars)
    (huntyped : ∀ bytes value, S.fromSlice bytes = .ok value →
      W.serdeJson.fromSlice bytes = .ok value)
    (hmembers : decodeAssertion W a = .ok members)
    (hsig : P.signatureFromDer members.signature = .ok sig)
    (hasks : AsksAbout scalars members sig params)
    (haccepts : StoredKeyAccepts S P sha256 params key)
    (hlogin : LoginAsks C W sha256 R point scalars policy members sig params key) :
    NamesKey W sha256 R a policy params key ∧ ReadsUntyped S params := by
  obtain ⟨authData, hparse, hhash, hup⟩ := haccepts.authData
  obtain ⟨clientData, challenge, hread, htype, hchallenge, hdecode, horigin⟩ := haccepts.client
  obtain ⟨_, fixed', hfixed', hverify⟩ := haccepts.signature
  rw [hasks.authenticatorData] at hparse hverify
  rw [hasks.clientDataJson] at hread hverify
  obtain ⟨entry, hentry, hrpId, hallows⟩ := hlogin.listed
  obtain ⟨client, hclient, hcross, htop⟩ := hlogin.client
  obtain ⟨keys, hkeys⟩ := hlogin.recovers
  obtain ⟨fixed, hfixed, hform⟩ := hasks.signature
  obtain rfl : fixed' = fixed := Except.ok.inj (hfixed'.symm.trans hfixed)
  -- Both readings of the client data are of one object.
  obtain ⟨object, rfl, _⟩ := get_mem htype
  obtain ⟨value, hvalue, hdeserialize⟩ := bind_eq_ok.mp hclient
  obtain rfl : value = .object object :=
    Except.ok.inj (hvalue.symm.trans (huntyped _ _ hread))
  have hreads := readsObject_of_deserialize (okOr_eq_ok.mp hdeserialize)
  have htype' : text "webauthn.get" = client.type :=
    Serde.Value.string.inj (Option.some.inj (htype.symm.trans (get_of_named hreads.type)))
  have hchallenge' : challenge = client.challenge :=
    Serde.Value.string.inj (Option.some.inj (hchallenge.symm.trans (get_of_named hreads.challenge)))
  have horigin' : params.expectedOrigin = client.origin :=
    Serde.Value.string.inj (Option.some.inj (horigin.symm.trans (get_of_named hreads.origin)))
  rw [hchallenge'] at hdecode
  obtain ⟨hindifferent, hpadding⟩ := (decodeNoPad_eq_some Base64.urlSafe_alphabet).mp hdecode
  let ceremony : Ceremony := ⟨entry, client.origin, authData.flags⟩
  have hchecks : ChecksOut W members.authenticatorData members.clientDataJson
      params.expectedChallenge policy authData client ceremony :=
    { parse := hparse
      read := hclient
      type := htype'.symm
      challenge := hindifferent
      entry := hhash ▸ hentry
      allows := horigin' ▸ hallows
      crossOrigin := hcross
      topOrigin := htop
      userPresent := hup
      userVerified := flags_of_parse hparse ▸ hlogin.userVerified
      origin := rfl
      flags := rfl }
  have hceremony : checkCeremony W sha256 members.authenticatorData members.clientDataJson
      (.exact params.expectedChallenge) policy = .ok ceremony :=
    checkCeremony_exact_eq_ok.mpr ⟨authData, client, hchecks⟩
  constructor
  · exact ⟨_, verifyAndRecover_eq hmembers hceremony hkeys, hrpId, horigin'.symm,
      (mem_candidates_iff h hsig hkeys).mpr ⟨(verify_form h hform).mp hverify, hlogin.nonceBelow⟩⟩
  · refine ⟨object, hasks.clientDataJson ▸ hread, ?_⟩
    intro s hs
    have hmem : Serde.Value.string s ∈ Serde.Value.named (text "challenge") object :=
      Serde.Value.mem_named.mpr hs
    rw [hreads.challenge, List.mem_singleton] at hmem
    rwa [Serde.Value.string.inj hmem]

/-- Recovery names a key exactly when the verifier that was given the key accepts the assertion, up
to what only one of the two looks at. -/
theorem stored_key_agrees (h : Textbook C R sha256 point scalars)
    (huntyped : ∀ bytes value, S.fromSlice bytes = .ok value →
      W.serdeJson.fromSlice bytes = .ok value)
    (hpolicy : AssertionPolicy.ofCalls parseUrl sha256 calls = .ok policy)
    (hmembers : decodeAssertion W a = .ok members)
    (hsig : P.signatureFromDer members.signature = .ok sig)
    (hkey : EncodesKey P params.credentialPublicKey key)
    (hasks : AsksAbout scalars members sig params) :
    NamesKey W sha256 R a policy params key ∧ ReadsUntyped S params ↔
      verifyWebauthnAssertion S P sha256 params = .ok true ∧
        LoginAsks C W sha256 R point scalars policy members sig params key := by
  rw [verifyWebauthnAssertion_eq_true hkey]
  constructor
  · rintro ⟨hrecovers, hreads⟩
    exact accepts_of_namesKey h huntyped hpolicy hmembers hsig hasks hrecovers hreads
  · rintro ⟨haccepts, hlogin⟩
    exact namesKey_of_accepts h huntyped hmembers hsig hasks haccepts hlogin

end

/-! ## Crates with their codecs -/

/-- The signature with two numbers for its scalars. -/
def signatureOf (n : ℕ) [Fact n.Prime] (pair : ℕ × ℕ) : Option (Signature n) :=
  if h : pair.1 < n ∧ pair.2 < n ∧ (pair.1 : ZMod n) ≠ 0 ∧ (pair.2 : ZMod n) ≠ 0 then
    some ⟨(pair.1 : ℕ), (pair.2 : ℕ), h.2.2.1, h.2.2.2⟩
  else none

theorem signatureOf_val {n : ℕ} [Fact n.Prime] (sig : Signature n) :
    signatureOf n (sig.r.val, sig.s.val) = some sig := by
  have hr : ((sig.r.val : ℕ) : ZMod n) = sig.r := ZMod.natCast_zmod_val sig.r
  have hs : ((sig.s.val : ℕ) : ZMod n) = sig.s := ZMod.natCast_zmod_val sig.s
  have hscalars : sig.r.val < n ∧ sig.s.val < n ∧ ((sig.r.val : ℕ) : ZMod n) ≠ 0 ∧
      ((sig.s.val : ℕ) : ZMod n) ≠ 0 :=
    ⟨ZMod.val_lt _, ZMod.val_lt _, hr.symm ▸ sig.r_ne_zero, hs.symm ▸ sig.s_ne_zero⟩
  rw [signatureOf, dif_pos hscalars]
  simp only [hr, hs]

section

variable (sha256 : Bytes → ByteArr 32)

/-- The crates on the sample curve, with both codecs of signatures and the point of the base. -/
noncomputable def codecP256 : P256 :=
  { curveP256 sampleCurve sha256 [] with
    verifyingKeyFromEncodedPoint := fun (bytes : Bytes) =>
      if bytes = (sampleCompress baseKey).1 then .ok baseKey else .error (text "signature error")
    signatureFromDer := fun bytes =>
      okOr (text "signature error") (Der.decode bytes >>= signatureOf Primality.p256Order)
    signatureFromSlice := fun bytes => okOr (text "signature error")
      (if bytes.length = 64 then
        signatureOf Primality.p256Order (Der.value (bytes.take 32), Der.value (bytes.drop 32))
      else none) }

noncomputable def codecRecovery : P256Recovery (codecP256 sha256) :=
  let R := curveRecovery sampleCurve sha256 [] sampleCompress
  { PublicKey := R.PublicKey
    normalizeS := R.normalizeS
    recoverFromPrehash := R.recoverFromPrehash
    toCompressedPoint := R.toCompressedPoint
    publicKeyFromSec1Bytes := R.publicKeyFromSec1Bytes
    publicKeyFromPublicKeyDer := R.publicKeyFromPublicKeyDer
    publicKeyToCompressedPoint := R.publicKeyToCompressedPoint }

theorem textbook_codec :
    Textbook sampleCurve (codecRecovery sha256) sha256 samplePoint sampleScalars :=
  let h := textbook_curve sampleCurve sha256 [] sampleCompress
  { point_ne_zero := h.point_ne_zero
    point_injective := h.point_injective
    exists_key := h.exists_key
    verify_iff := h.verify_iff
    recover_iff := h.recover_iff
    normalizeS_high := h.normalizeS_high
    normalizeS_low := h.normalizeS_low }

theorem val_lt_fixed (x : ZMod Primality.p256Order) : x.val < 256 ^ 32 :=
  (ZMod.val_lt x).trans (by decide +kernel)

theorem signatureFromDer_codec (sig : Signature Primality.p256Order) :
    (codecP256 sha256).signatureFromDer (derBytes (sig.r.val, sig.s.val)) = .ok sig := by
  have hdecode : Der.decode (derBytes (sig.r.val, sig.s.val)) = some (sig.r.val, sig.s.val) :=
    Der.decode_signature (val_lt_fixed sig.r) (val_lt_fixed sig.s)
  show okOr _ (Der.decode _ >>= signatureOf Primality.p256Order) = _
  rw [hdecode]
  exact okOr_eq_ok.mpr (signatureOf_val sig)

theorem signatureFromSlice_codec (sig : Signature Primality.p256Order) :
    (codecP256 sha256).signatureFromSlice (fixedBytes (sig.r.val, sig.s.val)) = .ok sig := by
  have hr : (Der.fixed 32 sig.r.val).length = 32 := Der.length_fixed (val_lt_fixed sig.r)
  have hs : (Der.fixed 32 sig.s.val).length = 32 := Der.length_fixed (val_lt_fixed sig.s)
  have hlength : (fixedBytes (sig.r.val, sig.s.val)).length = 64 := by
    rw [fixedBytes, List.length_append, hr, hs]
  have htake : (fixedBytes (sig.r.val, sig.s.val)).take 32 = Der.fixed 32 sig.r.val :=
    List.take_left' hr
  have hdrop : (fixedBytes (sig.r.val, sig.s.val)).drop 32 = Der.fixed 32 sig.s.val :=
    List.drop_left' hr
  have hread : (if (fixedBytes (sig.r.val, sig.s.val)).length = 64 then
      signatureOf Primality.p256Order (Der.value ((fixedBytes (sig.r.val, sig.s.val)).take 32),
        Der.value ((fixedBytes (sig.r.val, sig.s.val)).drop 32)) else none) = some sig := by
    rw [if_pos hlength, htake, hdrop, Der.value_fixed, Der.value_fixed, signatureOf_val]
  exact okOr_eq_ok.mpr hread

end

/-! ## The base point as a stored key -/

def codecSha256 : Bytes → ByteArr 32 :=
  digestOfTable [(Text.utf8 (text "inblock.io"), sampleRpIdHash),
    (sampleClientData, sampleClientDataHash),
    (sampleAuthenticatorData ++ sampleClientDataHash.1,
      arrOfHex 32 "ebb14bab84f280c3dea96e6ac960161378f0c0170d091e2d298d2ff8429e4e46")]

theorem codec_signedBy : SignedBy sampleCurve codecSha256 (P := codecP256 codecSha256) samplePoint
    sampleScalars baseKey sampleMembers sampleSig 1 2 := by
  have hpayload : payloadScalar Primality.p256Order codecSha256 sampleMembers =
      payloadScalar Primality.p256Order sampleSha256 sampleMembers := by decide +kernel
  have hsigned := sample_signedBy
  refine ⟨hsigned.key, ?_, hsigned.nonceBelow, ?_⟩
  · rw [hpayload]
    exact hsigned.signs
  · rw [hpayload]
    exact hsigned.otherKey

theorem signatureFromDer_sampleMembers :
    (codecP256 codecSha256).signatureFromDer sampleMembers.signature = .ok sampleSig := by
  have hder : sampleMembers.signature = derBytes (sampleSig.r.val, sampleSig.s.val) := by
    decide +kernel
  rw [hder, signatureFromDer_codec codecSha256]

/-- An untyped reading that reads whatever the typed one reads. -/
def readsAs (json : Serde.Json) : StoredKeyCrates where
  fromSlice := json.fromSlice
  base64Error _ := text "Invalid padding"

theorem untyped_readsAs (json : Serde.Json) : ∀ bytes value,
    (readsAs json).fromSlice bytes = .ok value → json.fromSlice bytes = .ok value :=
  fun _ _ h => h

def storedParams : WebAuthnAssertionParams where
  credentialPublicKey := (sampleCompress baseKey).1
  authenticatorData := sampleAuthenticatorData
  clientDataJson := sampleClientData
  signature := fixedBytes (sampleSig.r.val, sampleSig.s.val)
  expectedChallenge := Text.utf8 (text "0123456789abcdef0123456789abcdef")
  expectedOrigin := text "https://siwx.inblock.io"
  expectedRpId := text "inblock.io"

theorem encodesKey_stored :
    EncodesKey (codecP256 codecSha256) storedParams.credentialPublicKey baseKey :=
  ⟨(sampleCompress baseKey).1, rfl, if_pos rfl⟩

theorem ofCalls_stored : AssertionPolicy.ofCalls (urlOfTable configuredUrls) codecSha256
    [.rp (text "inblock.io") [text "https://siwx.inblock.io"]] = .ok samplePolicy := by
  decide +kernel

theorem namesKey_stored : NamesKey (sampleWebauthn []) codecSha256
    (codecRecovery codecSha256) sampleAssertion samplePolicy storedParams baseKey := by
  have hceremony : checkCeremony (sampleWebauthn []) codecSha256 sampleMembers.authenticatorData
      sampleMembers.clientDataJson sampleChallenge samplePolicy = .ok sampleCeremony :=
    checkCeremony_exact_eq_ok.mpr (checkCeremony_exact_eq_ok.mp (checkCeremony_sample []))
  obtain ⟨keys, hkeys, hkey⟩ :=
    recoverCandidates_signer (textbook_codec codecSha256) signatureFromDer_sampleMembers codec_signedBy
  exact ⟨_, verifyAndRecover_eq (decodeAssertion_sample []) hceremony hkeys, rfl, rfl, hkey⟩

/-- The assertion that the base point signed is accepted under the stored base point. -/
theorem stored_key_agrees_base :
    verifyWebauthnAssertion (readsAs (sampleWebauthn []).serdeJson) (codecP256 codecSha256) codecSha256
      storedParams = .ok true := by
  have hlength : storedParams.signature.length = 64 := by decide +kernel
  have hasks : AsksAbout sampleScalars sampleMembers (P := codecP256 codecSha256) sampleSig storedParams :=
    ⟨rfl, rfl, hlength, sampleSig, signatureFromSlice_codec codecSha256 sampleSig, .inl rfl⟩
  have hreads : ReadsUntyped (readsAs (sampleWebauthn []).serdeJson) storedParams := by
    refine ⟨[(text "type", .string (text "webauthn.get")),
      (text "challenge", .string (text "MDEyMzQ1Njc4OWFiY2RlZjAxMjM0NTY3ODlhYmNkZWY")),
      (text "origin", .string (text "https://siwx.inblock.io"))], ?_, ?_⟩
    · simp [readsAs, storedParams, sampleWebauthn, sampleClientValue]
    · intro s hs
      simp only [List.mem_cons, Prod.mk.injEq, List.not_mem_nil, or_false] at hs
      rcases hs with ⟨hname, _⟩ | ⟨_, hs⟩ | ⟨hname, _⟩
      · exact absurd hname (by decide)
      · rw [Serde.Value.string.inj hs]
        decide
      · exact absurd hname (by decide)
  have hagrees := stored_key_agrees (textbook_codec codecSha256) (untyped_readsAs _) ofCalls_stored
    (decodeAssertion_sample []) signatureFromDer_sampleMembers encodesKey_stored hasks
  exact (hagrees.mp ⟨namesKey_stored, hreads⟩).1

end AquaAuth
