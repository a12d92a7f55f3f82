import AquaAuth.Proofs.Webauthn.HintCookie
import AquaAuth.Proofs.Webauthn.SoftPasskey
set_option autoImplicit false
/-!
# A passkey logs in

The store-free login from one end to the other: options and assertions travel as JSON, a hint saves
the second prompt, two prompts name the key that both of them recover, and the cookie that is set
afterwards brings the hint back.
-/

namespace AquaAuth

open Support Support.Result Support.Ecdsa Support.Cookie

/-! ## Messages -/

theorem CredentialDescriptorJson.deserialize_serialize (descriptor : CredentialDescriptorJson) :
    deserialize descriptor.serialize = some descriptor := by
  obtain ⟨type, id⟩ := descriptor
  rfl

theorem PublicKeyRequestOptionsJson.deserialize_serialize (options : PublicKeyRequestOptionsJson) :
    deserialize options.serialize = some options := by
  obtain ⟨challenge, rpId, allowCredentials, userVerification⟩ := options
  cases allowCredentials with
  | nil => rfl
  | cons descriptor rest =>
      let items := (descriptor :: rest).map CredentialDescriptorJson.serialize
      have hread : deserializeCredentials (.array items) = some (descriptor :: rest) := by
        show items.mapM CredentialDescriptorJson.deserialize = some (descriptor :: rest)
        have hsome : (CredentialDescriptorJson.deserialize ∘ CredentialDescriptorJson.serialize) =
            fun descriptor => pure descriptor :=
          funext CredentialDescriptorJson.deserialize_serialize
        rw [List.mapM_map, hsome, List.mapM_pure, List.map_id']
        rfl
      have hmembers : (serialize ⟨challenge, rpId, descriptor :: rest,
          userVerification⟩).structMembers
          fields = some
            [(text "challenge", .string challenge), (text "rpId", .string rpId),
              (text "allowCredentials", .array items),
              (text "userVerification", .string userVerification)] := rfl
      have hcredentials : [(text "challenge", Serde.Value.string challenge),
          (text "rpId", .string rpId), (text "allowCredentials", .array items),
          (text "userVerification", .string userVerification)].lookup (text "allowCredentials") =
            some (.array items) := rfl
      rw [deserialize, hmembers]
      simp only [Option.bind_eq_bind, Option.bind_some, hcredentials, hread]
      rfl

/-- The options of a `get()` are read back, with credentials or without. -/
theorem RequestOptionsJson.deserialize_serialize (options : RequestOptionsJson) :
    deserialize options.serialize = some options := by
  obtain ⟨publicKey⟩ := options
  have hmembers : (serialize ⟨publicKey⟩).structMembers fields =
      some [(text "publicKey", publicKey.serialize)] := rfl
  have hpublicKey : [(text "publicKey", publicKey.serialize)].lookup (text "publicKey") =
      some publicKey.serialize := rfl
  rw [deserialize, hmembers]
  simp only [Option.bind_eq_bind, Option.bind_some, hpublicKey, publicKey.deserialize_serialize]
  rfl

theorem AssertionResponseJson.deserialize_serialize (response : AssertionResponseJson) :
    deserialize response.serialize = some response := by
  obtain ⟨authenticatorData, clientDataJson, signature, userHandle⟩ := response
  cases userHandle <;> rfl

/-- An assertion is read back, whatever its extension outputs are. -/
theorem AssertionJson.deserialize_serialize (a : AssertionJson) (extensions : Serde.Value) :
    deserialize (a.serialize extensions) = some a := by
  obtain ⟨id, rawId, type, response⟩ := a
  have hmembers : (underFieldNames (serialize ⟨id, rawId, type, response⟩ extensions)).structMembers
      fields = some
        [(text "id", .string id), (text "rawId", .string rawId), (text "type", .string type),
          (text "response", response.serialize), (text "clientExtensionResults", extensions)] := rfl
  rw [deserialize, hmembers]
  have hresponse : [(text "id", Serde.Value.string id), (text "rawId", .string rawId),
      (text "type", .string type), (text "response", response.serialize),
      (text "clientExtensionResults", extensions)].lookup (text "response") =
        some response.serialize := rfl
  simp only [Option.bind_eq_bind, Option.bind_some, hresponse, response.deserialize_serialize]
  rfl

theorem CredentialDescriptorJson.plain_serialize (descriptor : CredentialDescriptorJson) :
    descriptor.serialize.Plain 1 := by
  simp [serialize, Serde.Value.Plain]

theorem RequestOptionsJson.plain_serialize (options : RequestOptionsJson) :
    options.serialize.Plain Serde.depthLimit := by
  have hcredentials : ∀ items : List CredentialDescriptorJson,
      (Serde.Value.array (items.map CredentialDescriptorJson.serialize)).Plain 2 := by
    intro items item hitem
    obtain ⟨descriptor, _, rfl⟩ := List.mem_map.mp hitem
    exact descriptor.plain_serialize
  have hplain : options.serialize.Plain 4 := by
    intro member hmember
    obtain rfl := List.mem_singleton.mp hmember
    intro member hmember
    simp only [List.mem_append, List.mem_cons, List.not_mem_nil, or_false] at hmember
    rcases hmember with ((rfl | rfl) | hmember) | rfl
    · simp
    · simp
    · split_ifs at hmember
      · cases hmember
      · obtain rfl := List.mem_singleton.mp hmember
        exact hcredentials _
    · simp
  exact hplain.mono (by decide)

/-- An assertion is as plain as its extension outputs. -/
theorem AssertionJson.plain_serialize (a : AssertionJson) {extensions : Serde.Value}
    (h : extensions.Plain 127) : (a.serialize extensions).Plain Serde.depthLimit := by
  have hresponse : a.response.serialize.Plain 127 := by
    intro member hmember
    simp only [List.mem_cons, List.not_mem_nil, or_false] at hmember
    rcases hmember with rfl | rfl | rfl | rfl
    · simp
    · simp
    · simp
    · cases a.response.userHandle <;> simp [AssertionResponseJson.optionStr]
  intro member hmember
  simp only [List.mem_cons, List.not_mem_nil, or_false] at hmember
  rcases hmember with rfl | rfl | rfl | rfl | rfl
  · simp
  · simp
  · simp
  · exact hresponse
  · exact h

/-! ## One prompt -/

section

variable {n : ℕ} {Pt : Type} [AddCommGroup Pt] [Module (ZMod n) Pt] [Fact n.Prime] {P : P256}
  {C : Curve n Pt} {R : P256Recovery P} {sha256 : Bytes → ByteArr 32}
  {point : P.VerifyingKey → Pt} {scalars : P.Signature → Signature n} {W : WebauthnCrates}
  {K : SoftKeys P} {passkey : SoftPasskey K} {policy : AssertionPolicy} {origin : Str}

/-- The policy lists the origin for the passkey's RP ID. -/
def AssertionPolicy.Lists (policy : AssertionPolicy) (sha256 : Bytes → ByteArr 32)
    (rpId origin : Str) : Prop :=
  ∃ entry, policy.entryForRpIdHash (sha256 (Text.utf8 rpId)) = some entry ∧
    entry.allowsOrigin origin = true

theorem tripped_new (hlists : policy.Lists sha256 passkey.rpId origin) (challenge : Bytes) :
    (AssertOpts.new challenge origin).tripped W sha256 passkey.rpId (.exact challenge) policy =
      none := by
  obtain ⟨entry, hentry, hallows⟩ := hlists
  have hup : ¬ (flagUp ||| flagUv) &&& flagUp = 0 := by decide
  have huv : ¬ (flagUp ||| flagUv) &&& flagUv = 0 := by decide
  simp [AssertOpts.tripped, AssertOpts.new, ExpectedChallenge.want, hentry, hallows, hup, huv]

/-- A prompt recovers the passkey, whatever the browser adds to the answer. -/
theorem exists_login (h : Textbook C R sha256 point scalars) (hkeys : K.Lawful scalars)
    (hjson : W.serdeJson.Faithful) (hlists : policy.Lists sha256 passkey.rpId origin)
    {challenge : Bytes}
    (hsigns : passkey.SignsRecoverably C sha256 point scalars (.new challenge origin)) :
    ∃ recovered, passkey.Recovers (.new challenge origin) recovered ∧
      ∀ extensions allow, extensions.Plain 127 →
        passkey.login R sha256 W policy origin extensions challenge allow =
          some (.ok recovered) := by
  obtain ⟨recovered, hrecovers, hverify⟩ :=
    SoftPasskey.verifyAndRecover_untripped h hkeys hjson hsigns (tripped_new hlists challenge)
  refine ⟨recovered, hrecovers, ?_⟩
  intro extensions allow hextensions
  obtain ⟨sig, hassert, hform⟩ : ∃ sig, passkey.assert R sha256 (.new challenge origin) =
      some (passkey.asserted sha256 (.new challenge origin) sig) ∧
        SoftPasskey.IsForm scalars (passkey.signed sha256 (.new challenge origin)) sig :=
    SoftPasskey.assert_low h hkeys rfl
  have hoptions := hjson.read_toVec (requestOptions passkey.rpId challenge allow).plain_serialize
    (requestOptions passkey.rpId challenge allow).deserialize_serialize
  have hasked : Base64.decodeNoPad Base64.urlSafe
      (requestOptions passkey.rpId challenge allow).publicKey.challenge = some challenge :=
    Base64.decodeNoPad_encodeNoPad Base64.urlSafe_alphabet challenge
  have hanswer := hjson.read_toVec
    ((passkey.asserted sha256 (.new challenge origin) sig).plain_serialize hextensions)
    ((passkey.asserted sha256 (.new challenge origin) sig).deserialize_serialize extensions)
  simp only [SoftPasskey.login, hoptions, toOption_ok, hasked, hassert, hanswer, hverify sig hform,
    Option.bind_eq_bind, Option.bind_some]
  rfl

end

/-! ## Choosing between the candidates -/

variable {B : Build} {R : P256Recovery B.p256} {W : WebauthnCrates}
  {first second : RecoveredAssertion B.p256} {i : Fin 2}

/-- A hint that names one candidate and no hint that names the other select it. -/
theorem select_hinted (hne : (first.candidateDids R).1 ≠ (first.candidateDids R).2)
    {hints : List DidHint} (hnamed : ∃ h ∈ hints, h.did = (first.principal R i).did)
    (hother : ∀ h ∈ hints, first.HasCandidate R h.did → h.did = (first.principal R i).did)
    (known : Bool × Bool) :
    first.select R hints known = .selected (first.principal R i) .hint := by
  have hnot : (hints.any fun h => h.did = (first.principal R (1 - i)).did) = false := by
    rw [List.any_eq_false]
    intro h hmem heq
    have heq := of_decide_eq_true heq
    apply principal_did_ne hne i
    rw [← heq]
    exact hother h hmem (heq ▸ hasCandidate_principal (1 - i))
  have hyes : (hints.any fun h => h.did = (first.principal R i).did) = true := by
    obtain ⟨h, hmem, heq⟩ := hnamed
    exact List.any_eq_true.mpr ⟨h, hmem, decide_eq_true heq⟩
  have hhinted : theOnly (first.hinted R hints) = some i := by
    match i with
    | 0 =>
        have hpair : first.hinted R hints = (true, false) := Prod.ext hyes hnot
        rw [hpair]
        rfl
    | 1 =>
        have hpair : first.hinted R hints = (false, true) := Prod.ext hnot hyes
        rw [hpair]
        rfl
  rw [RecoveredAssertion.select, hhinted]

/-- Nothing to choose by asks for a second assertion. -/
theorem select_unhinted {hints : List DidHint} (hnone : ∀ h ∈ hints, ¬ first.HasCandidate R h.did)
    {known : Bool × Bool} (hknown : known.1 = known.2) :
    first.select R hints known = .needSecondAssertion (first.pending R) := by
  have hhinted : first.hinted R hints = (false, false) := by
    apply Prod.ext
    · rw [RecoveredAssertion.hinted, List.any_eq_false]
      intro h hmem heq
      exact hnone h hmem (.inl (of_decide_eq_true heq))
    · rw [RecoveredAssertion.hinted, List.any_eq_false]
      intro h hmem heq
      exact hnone h hmem (.inr (of_decide_eq_true heq))
  have hknown : theOnly known = none := by
    obtain ⟨a, b⟩ := known
    obtain rfl : a = b := hknown
    cases a <;> rfl
  rw [RecoveredAssertion.select, hhinted, hknown]
  rfl

/-- Two assertions that share a candidate resolve to it unless they share the other one too. -/
theorem resolve_eq_ok_iff (hne : (first.candidateDids R).1 ≠ (first.candidateDids R).2)
    (hid : first.credentialId = second.credentialId)
    (hshared : second.HasCandidate R (first.principal R i).did) {principal : Principal B} :
    (first.pending R).resolve R second = .ok principal ↔
      principal.did = (first.principal R i).did ∧ ∀ did, first.HasCandidate R did →
        second.HasCandidate R did → did = (first.principal R i).did := by
  rw [resolve_eq_ok]
  constructor
  · rintro ⟨_, j, rfl, _, hother⟩
    have hij : j = i ∨ j = 1 - i := by omega
    rcases hij with rfl | rfl
    · refine ⟨rfl, ?_⟩
      intro did hfirst hsecond
      obtain ⟨k, rfl⟩ := hasCandidate_iff.mp hfirst
      have hk : k = j ∨ k = 1 - j := by omega
      rcases hk with rfl | rfl
      · rfl
      · exact absurd hsecond hother
    · rw [sub_sub_cancel] at hother
      exact absurd hshared hother
  · rintro ⟨hdid, hunique⟩
    have hprincipal : principal = first.principal R i := by
      obtain ⟨did, hwellFormed⟩ := principal
      obtain rfl : did = (first.principal R i).did := hdid
      rfl
    refine ⟨hid, i, hprincipal, hshared, ?_⟩
    intro hother
    exact principal_did_ne hne i (hunique _ (hasCandidate_principal _) hother)

/-- The first assertion once more is no second proof. -/
theorem resolve_self : (first.pending R).resolve R first = .error .ambiguous := by
  simp [PendingRecovery.resolve, RecoveredAssertion.pending, RecoveredAssertion.candidateHints,
    RecoveredAssertion.candidateDids, didKeyOf, DidHint.ofPoint]

theorem plain_pending (pending : PendingRecovery) :
    pending.serialize.Plain Serde.depthLimit := by
  have hplain : pending.serialize.Plain 2 := by simp [PendingRecovery.serialize, Serde.Value.Plain]
  exact hplain.mono (by decide)

/-! ## The login -/

variable (B R W) in
/-- What a login with these two assertions comes to, for the key with this DID. -/
structure LogsIn (did : Str) (first second : RecoveredAssertion B.p256) : Prop where
  /-- One prompt, when a hint names the key and none names the other candidate. -/
  hinted : ∀ hints known, (∃ h ∈ hints, h.did = did) →
    (∀ h ∈ hints, first.HasCandidate R h.did → h.did = did) →
      ∃ principal, first.select R hints known = .selected principal .hint ∧ principal.did = did
  /-- Two prompts, when nothing tells the candidates apart, with what is stored between them. -/
  unhinted : ∀ hints known, (∀ h ∈ hints, ¬ first.HasCandidate R h.did) → known.1 = known.2 →
    ∃ pending, first.select R hints known = .needSecondAssertion pending ∧
      PendingRecovery.fromSlice B R W (pending.toVec W) = .ok pending ∧
      (∀ principal, pending.resolve R second = .ok principal ↔ principal.did = did ∧
        ∀ did', first.HasCandidate R did' → second.HasCandidate R did' → did' = did) ∧
      pending.resolve R first = .error .ambiguous
  /-- The cookie that is set for the key brings its hint to the next first prompt. -/
  returning : ∀ principal cfg, principal.did = did → (∀ domain ∈ cfg.domain, Plain domain) →
    readSetCookie (hintSetCookie (B := B) principal cfg) =
        some ⟨hintCookieName, did, cfg.attributes cfg.maxAgeSecs⟩ ∧
      ∀ before after, (∀ cookie ∈ before ++ after, Sendable cookie) →
        (∀ cookie ∈ before ++ after, ∀ h ∈ hintOfCookie B R cookie,
          first.HasCandidate R h.did → h.did = did) →
        ∀ known, ∃ principal, first.select R (hintsFromCookieHeader B R
            (cookieString (before ++ (hintCookieName, did) :: after))) known =
          .selected principal .hint ∧ principal.did = did

variable {n : ℕ} {Pt : Type} [AddCommGroup Pt] [Module (ZMod n) Pt] [Fact n.Prime] {C : Curve n Pt}
  {point : B.p256.VerifyingKey → Pt} {scalars : B.p256.Signature → Signature n}
  {K : SoftKeys B.p256} {passkey : SoftPasskey K} {policy : AssertionPolicy} {origin : Str}

/-- The passkey's DID is a candidate of what it asserts. -/
theorem SoftPasskey.Recovers.exists_principal {o : AssertOpts} (h : passkey.Recovers o first) :
    ∃ i, passkey.did R = (first.principal R i).did := by
  rcases h.signer with heq | heq
  · exact ⟨0, by rw [did, heq]; rfl⟩
  · exact ⟨1, by rw [did, heq]; rfl⟩

/-- A candidate as a hint, which its DID is read back as. -/
theorem exists_hint (hsec1 : Sec1 R) (i : Fin 2) :
    ∃ hint : DidHint, hint.did = (first.principal R i).did ∧
      DidHint.parse B R hint.did = some hint := by
  match i with
  | 0 =>
      obtain ⟨publicKey, haccepts⟩ := hsec1.accepts first.candidates.1
      exact ⟨.ofPoint (R.toCompressedPoint first.candidates.1), rfl, parse_ofPoint haccepts⟩
  | 1 =>
      obtain ⟨publicKey, haccepts⟩ := hsec1.accepts first.candidates.2
      exact ⟨.ofPoint (R.toCompressedPoint first.candidates.2), rfl, parse_ofPoint haccepts⟩

theorem logsIn_of_recovers (hjson : W.serdeJson.Faithful) (hsec1 : Sec1 R) {o o' : AssertOpts}
    (hfirst : passkey.Recovers o first) (hsecond : passkey.Recovers o' second) :
    LogsIn B R W (passkey.did R) first second := by
  have hne : (first.candidateDids R).1 ≠ (first.candidateDids R).2 :=
    candidateDids_ne hsec1 hfirst.distinct
  obtain ⟨i, hdid⟩ := hfirst.exists_principal (R := R)
  obtain ⟨j, hdid'⟩ := hsecond.exists_principal (R := R)
  have hshared : second.HasCandidate R (first.principal R i).did := by
    rw [← hdid, hdid']
    exact hasCandidate_principal j
  have hid : first.credentialId = second.credentialId :=
    hfirst.credentialId.trans hsecond.credentialId.symm
  rw [hdid]
  refine ⟨?_, ?_, ?_⟩
  · intro hints known hnamed hother
    exact ⟨_, select_hinted hne hnamed hother known, rfl⟩
  · intro hints known hnone hknown
    refine ⟨_, select_unhinted hnone hknown, ?_, ?_, resolve_self⟩
    · rw [PendingRecovery.fromSlice, PendingRecovery.toVec, hjson.fromSlice_toVec (plain_pending _),
        ok_bind, deserialize_serialize hsec1, okOr_some]
    · intro principal
      exact resolve_eq_ok_iff hne hid hshared
  · intro principal cfg hprincipal hdomain
    obtain ⟨hint, hhint, hparse⟩ : ∃ hint : DidHint, hint.did = (first.principal R i).did ∧
        DidHint.parse B R hint.did = some hint := exists_hint hsec1 i
    have hplain : Plain principal.did := by
      rw [hprincipal, ← hhint]
      exact hint.plain.1
    have hset : readSetCookie (hintSetCookie principal cfg) =
        some ⟨hintCookieName, principal.did, cfg.attributes cfg.maxAgeSecs⟩ :=
      HintCookieConfig.readSetCookie_header_iff.mpr ⟨hplain, hdomain⟩
    refine ⟨hprincipal ▸ hset, ?_⟩
    intro before after hsendable hother known
    have hheader := hintsFromCookieHeader_hint hparse
      (fun cookie hcookie => hsendable cookie (List.mem_append_left _ hcookie))
      fun cookie hcookie => hsendable cookie (List.mem_append_right _ hcookie)
    rw [← hhint, hheader]
    refine ⟨_, select_hinted hne (i := i) ⟨hint, by simp, hhint⟩ ?_ known, hhint.symm⟩
    intro h hmem hcandidate
    rcases List.mem_append.mp hmem with hmem | hmem
    · obtain ⟨cookie, hcookie, hmem⟩ := List.mem_flatMap.mp hmem
      exact hother cookie (List.mem_append_left _ hcookie) h hmem hcandidate
    · rcases List.mem_cons.mp hmem with rfl | hmem
      · exact hhint
      · obtain ⟨cookie, hcookie, hmem⟩ := List.mem_flatMap.mp hmem
        exact hother cookie (List.mem_append_right _ hcookie) h hmem hcandidate

def loginOrigin : Str := text "https://siwx.inblock.io"

def firstChallenge : Bytes := Text.utf8 (text "first prompt challenge, 32 bytes")

def secondChallenge : Bytes := Text.utf8 (text "second prompt, fresh challenge..")

/-- The client data of a prompt over the challenge. -/
def loginClientData (challenge : Bytes) : Bytes :=
  SoftPasskey.clientDataJson (text "webauthn.get") challenge loginOrigin (some false)

def firstClientHash : ByteArr 32 :=
  arrOfHex 32 "a357a05285dead13a285739627ad424430317d0e24b925a59e9eda3223f6ee65"

def secondClientHash : ByteArr 32 :=
  arrOfHex 32 "2c354b009fbd44facb5c33ce1e50b4e26e5f1bec04ca698742ec7f1804738b41"

def loginSha256 : Bytes → ByteArr 32 :=
  digestOfTable [(Text.utf8 (text "inblock.io"), sampleRpIdHash),
    (loginClientData firstChallenge, firstClientHash),
    (sampleAuthenticatorData ++ firstClientHash.1,
      arrOfHex 32 "4e5777e18e076e4357cb361b1ab3168d3fc263a0ef4d054d199693c2a242a981"),
    (loginClientData secondChallenge, secondClientHash),
    (sampleAuthenticatorData ++ secondClientHash.1,
      arrOfHex 32 "61bfe9b91d15833ff7d50c9f5dd7a954d180e6d6ecc5e55927553807c0407394")]

noncomputable def passkeyBuild : Build := buildWith (codecP256 loginSha256) loginSha256

theorem sec1_codec (sha256 : Bytes → ByteArr 32) : Sec1 (codecRecovery sha256) where
  compressed_injective := sampleCompress_injective
  accepts key := ⟨sampleCompress key, rfl⟩

theorem lists_login : samplePolicy.Lists loginSha256 (text "inblock.io") loginOrigin :=
  ⟨sampleCeremony.entry, by decide +kernel, by decide +kernel⟩

theorem signsRecoverably_first : (basePasskey loginSha256).SignsRecoverably sampleCurve loginSha256
    samplePoint sampleScalars (.new firstChallenge loginOrigin) := by
  apply signsRecoverably_base rfl
  · decide +kernel
  · decide +kernel

theorem signsRecoverably_second : (basePasskey loginSha256).SignsRecoverably sampleCurve loginSha256
    samplePoint sampleScalars (.new secondChallenge loginOrigin) := by
  apply signsRecoverably_base rfl
  · decide +kernel
  · decide +kernel

/-- `p256` reads a verifying key back from the public key of its own that it encodes. -/
def ReadsSpki (R : P256Recovery B.p256) (K : SoftKeys B.p256) : Prop :=
  ∀ key, ∃ publicKey, R.publicKeyFromPublicKeyDer (K.publicKeyDer key) = .ok publicKey ∧
    R.publicKeyToCompressedPoint publicKey = R.toCompressedPoint (K.verifyingKey key)

/-- The public key a passkey is signed up with is the hint that names it. -/
theorem fromSpkiDer_spkiDer {R : P256Recovery B.p256} (hreads : ReadsSpki R K)
    (passkey : SoftPasskey K) :
    ∃ hint, DidHint.fromSpkiDer B R passkey.spkiDer = .ok hint ∧ hint.did = passkey.did R := by
  obtain ⟨publicKey, hpublicKey, hpoint⟩ := hreads passkey.key
  refine ⟨.ofPoint (R.publicKeyToCompressedPoint publicKey), ?_, ?_⟩
  · rw [DidHint.fromSpkiDer, SoftPasskey.spkiDer, hpublicKey]
    rfl
  · rw [SoftPasskey.did, ← hpoint]
    rfl

/-- The public key of the sign-up brings the login to one prompt; that of a passkey the assertion
does not recover leaves it at two. -/
theorem LogsIn.spki (h : LogsIn B R W (passkey.did R) first second) (hreads : ReadsSpki R K) :
    (∃ hint, DidHint.fromSpkiDer B R passkey.spkiDer = .ok hint ∧ ∀ known, ∃ principal,
      first.select R [hint] known = .selected principal .hint ∧
        principal.did = passkey.did R) ∧
    ∀ other : SoftPasskey K, ¬ first.HasCandidate R (other.did R) →
      ∃ hint, DidHint.fromSpkiDer B R other.spkiDer = .ok hint ∧ ∀ known, known.1 = known.2 →
        ∃ pending, first.select R [hint] known = .needSecondAssertion pending := by
  constructor
  · obtain ⟨hint, hspki, hdid⟩ := fromSpkiDer_spkiDer hreads passkey
    refine ⟨hint, hspki, fun known => ?_⟩
    apply h.hinted [hint] known ⟨hint, List.mem_singleton_self hint, hdid⟩
    intro other hother _
    rw [List.mem_singleton.mp hother, hdid]
  · intro other hother
    obtain ⟨hint, hspki, hdid⟩ := fromSpkiDer_spkiDer hreads other
    refine ⟨hint, hspki, fun known hknown => ?_⟩
    have hnone : ∀ h ∈ [hint], ¬ first.HasCandidate R h.did := by
      intro hint' hmem
      rw [List.mem_singleton.mp hmem, hdid]
      exact hother
    obtain ⟨pending, hselect, _⟩ := h.unhinted [hint] known hnone hknown
    exact ⟨pending, hselect⟩

end AquaAuth
