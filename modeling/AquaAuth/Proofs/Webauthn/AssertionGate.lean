import AquaAuth.Proofs.Webauthn.Policy
set_option autoImplicit false
/-!
# The gate of a store-free assertion

What an accepted assertion says, against what the specification admits.
-/

namespace AquaAuth

open Support Support.Result

/-! ## Client data -/

/-- Client data as the specification admits it. -/
structure IsAdmissible (members : List (Str × Serde.Value)) (challenge origin : Str) : Prop where
  type : Serde.Value.named (text "type") members = [.string (text "webauthn.get")]
  challenge : Serde.Value.named (text "challenge") members = [.string challenge]
  origin : Serde.Value.named (text "origin") members = [.string origin]
  crossOrigin : Serde.Value.named (text "crossOrigin") members = [] ∨
    Serde.Value.named (text "crossOrigin") members = [.bool false]
  topOrigin : Serde.Value.named (text "topOrigin") members = []

/-- The value is no array, and an object without a `null` for `crossOrigin`. -/
def IsRegular (value : Serde.Value) : Prop :=
  (∀ items, value ≠ .array items) ∧
    ∀ members, value = .object members → (text "crossOrigin", .null) ∉ members

/-- What the derived reading of an object says. -/
structure ReadsObject (members : List (Str × Serde.Value)) (client : ClientData) : Prop where
  type : Serde.Value.named (text "type") members = [.string client.type]
  challenge : Serde.Value.named (text "challenge") members = [.string client.challenge]
  origin : Serde.Value.named (text "origin") members = [.string client.origin]
  crossOrigin : Serde.Value.named (text "crossOrigin") members = [] ∨
    ∃ value, Serde.Value.named (text "crossOrigin") members = [value] ∧
      value.asOptionBool = some client.crossOrigin
  topOrigin : client.topOrigin = false → Serde.Value.named (text "topOrigin") members = []

theorem asStr_eq_some {value : Serde.Value} {s : Str} (h : value.asStr = some s) :
    value = .string s := by
  cases value with
  | string s' => rw [Option.some.inj h]
  | null => cases h
  | bool b => cases h
  | number literal => cases h
  | array items => cases h
  | object members => cases h

theorem readsObject_of_deserialize {members : List (Str × Serde.Value)} {client : ClientData}
    (h : ClientData.deserialize (.object members) = some client) : ReadsObject members client := by
  obtain ⟨known, hknown, h⟩ := Option.bind_eq_some_iff.mp h
  obtain ⟨type, htype, h⟩ := Option.bind_eq_some_iff.mp h
  obtain ⟨challenge, hchallenge, h⟩ := Option.bind_eq_some_iff.mp h
  obtain ⟨origin, horigin, h⟩ := Option.bind_eq_some_iff.mp h
  have hnamed : ∀ name ∈ ClientData.members,
      Serde.Value.named name members = (known.lookup name).toList := fun name hname =>
    Serde.Value.named_of_structMembers hknown hname
  have hstring : ∀ {name s}, name ∈ ClientData.members →
      (known.lookup name >>= Serde.Value.asStr) = some s →
        Serde.Value.named name members = [.string s] := by
    intro name s hname hs
    obtain ⟨value, hlookup, hvalue⟩ := Option.bind_eq_some_iff.mp hs
    rw [hnamed name hname, hlookup, asStr_eq_some hvalue]
    rfl
  have hcross := hnamed (text "crossOrigin") (by decide)
  have htop := hnamed (text "topOrigin") (by decide)
  have habsent : (known.lookup (text "topOrigin")).isSome = false →
      Serde.Value.named (text "topOrigin") members = [] := by
    intro hnone
    rw [htop, Option.isSome_eq_false_iff.mp hnone |> Option.isNone_iff_eq_none.mp]
    rfl
  cases hlookup : known.lookup (text "crossOrigin") with
  | none =>
      rw [hlookup] at h hcross
      obtain rfl := Option.some.inj h
      exact ⟨hstring (by decide) htype, hstring (by decide) hchallenge, hstring (by decide) horigin,
        .inl hcross, habsent⟩
  | some value =>
      rw [hlookup] at h hcross
      obtain ⟨crossOrigin, hvalue, h⟩ := Option.bind_eq_some_iff.mp h
      obtain rfl := Option.some.inj h
      exact ⟨hstring (by decide) htype, hstring (by decide) hchallenge, hstring (by decide) horigin,
        .inr ⟨value, hcross, hvalue⟩, habsent⟩

/-- An object that was read is admissible unless its `crossOrigin` is `null`. -/
theorem isAdmissible_iff_isRegular {value : Serde.Value} {client : ClientData}
    (h : ClientData.deserialize value = some client) (htype : client.type = text "webauthn.get")
    (hcross : client.crossOrigin ≠ some true) (htop : client.topOrigin = false) :
    (∃ members, value = .object members ∧ IsAdmissible members client.challenge client.origin) ↔
      IsRegular value := by
  constructor
  · rintro ⟨members, rfl, hadmissible⟩
    refine ⟨nofun, ?_⟩
    intro members' heq hnull
    obtain rfl := Serde.Value.object.inj heq
    rw [← Serde.Value.mem_named] at hnull
    rcases hadmissible.crossOrigin with hnone | hfalse
    · rw [hnone] at hnull
      cases hnull
    · rw [hfalse] at hnull
      cases List.mem_singleton.mp hnull
  · rintro ⟨harray, hnull⟩
    cases value with
    | object members =>
        have hreads := readsObject_of_deserialize h
        refine ⟨members, rfl, ?_, hreads.challenge, hreads.origin, ?_, hreads.topOrigin htop⟩
        · rw [hreads.type, htype]
        · rcases hreads.crossOrigin with hnone | ⟨value, hnamed, hvalue⟩
          · exact .inl hnone
          · right
            have hmem : (text "crossOrigin", value) ∈ members := by
              rw [← Serde.Value.mem_named, hnamed]
              exact List.mem_singleton.mpr rfl
            cases value with
            | null => exact absurd hmem (hnull members rfl)
            | bool b =>
                cases b with
                | true => exact absurd (Option.some.inj hvalue).symm hcross
                | false => exact hnamed
            | number literal => cases hvalue
            | string s => cases hvalue
            | array items => cases hvalue
            | object inner => cases hvalue
    | array items => exact absurd rfl (harray items)
    | null => cases h
    | bool b => cases h
    | number literal => cases h
    | string s => cases h

/-! ## The gate -/

/-- The bytes of a member. -/
def IsBase64 (value : Str) (bytes : Bytes) : Prop :=
  Base64.decodeIndifferent Base64.urlSafe value = some bytes

section

variable (W : WebauthnCrates) (sha256 : Bytes → ByteArr 32)

/-- An assertion as the specification admits it, with what is read of it. -/
structure Admits (a : AssertionJson) (expected : ExpectedChallenge) (policy : AssertionPolicy)
    (decoded : DecodedAssertion) (members : List (Str × Serde.Value)) (challenge origin : Str)
    (entry : RpEntry) : Prop where
  id : IsBase64 a.id decoded.credentialId
  rawId : IsBase64 a.rawId decoded.credentialId
  authenticatorData : IsBase64 a.response.authenticatorData decoded.authenticatorData
  clientDataJson : IsBase64 a.response.clientDataJson decoded.clientDataJson
  json : W.serdeJson.fromSlice decoded.clientDataJson = .ok (.object members)
  clientData : IsAdmissible members challenge origin
  challenge : ∃ want, IsBase64 challenge want ∧ expected.want W sha256 = .ok want
  served : entry ∈ policy.entries
  rpIdHash : decoded.authenticatorData.take 32 = (sha256 (Text.utf8 entry.rpId)).1
  origin : origin ∈ entry.origins
  userPresent : decoded.authenticatorData.getD 32 0 &&& flagUp ≠ 0
  userVerified : policy.requireUv = true → decoded.authenticatorData.getD 32 0 &&& flagUv ≠ 0

/-- The specification admits the assertion. -/
def AdmittedBySpec (a : AssertionJson) (expected : ExpectedChallenge) (policy : AssertionPolicy) :
    Prop :=
  ∃ decoded members challenge origin entry,
    Admits W sha256 a expected policy decoded members challenge origin entry

/-- The client data of the assertion is no array and has no `null` for `crossOrigin`. -/
def RegularClientData (a : AssertionJson) : Prop :=
  ∀ bytes value, IsBase64 a.response.clientDataJson bytes →
    W.serdeJson.fromSlice bytes = .ok value → IsRegular value

end

section

variable {W : WebauthnCrates} {sha256 : Bytes → ByteArr 32}

/-- What is decoded of an assertion. -/
structure Decodes (a : AssertionJson) (decoded : DecodedAssertion) : Prop where
  id : IsBase64 a.id decoded.credentialId
  rawId : IsBase64 a.rawId decoded.credentialId
  authenticatorData : IsBase64 a.response.authenticatorData decoded.authenticatorData
  clientDataJson : IsBase64 a.response.clientDataJson decoded.clientDataJson

theorem decodes_of_ok {a : AssertionJson} {decoded : DecodedAssertion}
    (h : decodeAssertion W a = .ok decoded) : Decodes a decoded := by
  obtain ⟨_, _, h⟩ := bind_eq_ok.mp h
  obtain ⟨rawId, hrawId, h⟩ := bind_eq_ok.mp h
  obtain ⟨id, hid, h⟩ := bind_eq_ok.mp h
  obtain ⟨_, heq, h⟩ := bind_eq_ok.mp h
  obtain ⟨authenticatorData, hauth, h⟩ := bind_eq_ok.mp h
  obtain ⟨clientDataJson, hclient, h⟩ := bind_eq_ok.mp h
  obtain ⟨_, _, h⟩ := bind_eq_ok.mp h
  obtain ⟨_, _, h⟩ := bind_eq_ok.mp h
  obtain rfl := Except.ok.inj h
  obtain rfl : id = rawId := ensure_eq_ok.mp heq
  exact ⟨okOr_eq_ok.mp hid, okOr_eq_ok.mp hrawId, okOr_eq_ok.mp hauth, okOr_eq_ok.mp hclient⟩

/-- What the checks of a ceremony establish. -/
structure Passes (W : WebauthnCrates) (sha256 : Bytes → ByteArr 32) (expected : ExpectedChallenge)
    (policy : AssertionPolicy) (decoded : DecodedAssertion) (value : Serde.Value)
    (client : ClientData) (entry : RpEntry) : Prop where
  json : W.serdeJson.fromSlice decoded.clientDataJson = .ok value
  read : ClientData.deserialize value = some client
  type : client.type = text "webauthn.get"
  challenge : ∃ want, IsBase64 client.challenge want ∧ expected.want W sha256 = .ok want
  served : entry ∈ policy.entries
  rpIdHash : decoded.authenticatorData.take 32 = entry.rpIdHash.1
  origin : client.origin ∈ entry.origins
  crossOrigin : client.crossOrigin ≠ some true
  topOrigin : client.topOrigin = false
  userPresent : decoded.authenticatorData.getD 32 0 &&& flagUp ≠ 0
  userVerified : policy.requireUv = true → decoded.authenticatorData.getD 32 0 &&& flagUv ≠ 0

theorem passes_of_ok {expected : ExpectedChallenge} {policy : AssertionPolicy}
    {decoded : DecodedAssertion} {ceremony : Ceremony}
    (h : checkCeremony W sha256 decoded.authenticatorData decoded.clientDataJson expected policy =
      .ok ceremony) :
    ∃ value client entry, Passes W sha256 expected policy decoded value client entry := by
  obtain ⟨authData, hauth, h⟩ := bind_eq_ok.mp h
  obtain ⟨client, hclient, h⟩ := bind_eq_ok.mp h
  obtain ⟨_, htype, h⟩ := bind_eq_ok.mp h
  obtain ⟨challenge, hchallenge, h⟩ := bind_eq_ok.mp h
  obtain ⟨want, hwant, h⟩ := bind_eq_ok.mp h
  obtain ⟨_, heq, h⟩ := bind_eq_ok.mp h
  obtain ⟨entry, hentry, h⟩ := bind_eq_ok.mp h
  obtain ⟨_, horigin, h⟩ := bind_eq_ok.mp h
  obtain ⟨_, hcross, h⟩ := bind_eq_ok.mp h
  obtain ⟨_, htop, h⟩ := bind_eq_ok.mp h
  obtain ⟨_, hup, h⟩ := bind_eq_ok.mp h
  obtain ⟨_, huv, _⟩ := bind_eq_ok.mp h
  obtain ⟨value, hjson, hread⟩ := bind_eq_ok.mp (mapError_eq_ok.mp hclient)
  obtain rfl : challenge = want := ensure_eq_ok.mp heq
  have hparse := mapError_eq_ok.mp hauth
  rw [parseAuthenticatorData] at hparse
  split_ifs at hparse with hlen
  obtain rfl := Except.ok.inj hparse
  have hfound := okOr_eq_ok.mp hentry
  have hhash : entry.rpIdHash.1 = decoded.authenticatorData.take 32 := by
    have heq := List.find?_some hfound
    exact congrArg Subtype.val (of_decide_eq_true heq)
  have hlisted : client.origin ∈ entry.origins := by
    have hany := ensure_eq_ok.mp horigin
    rw [RpEntry.allowsOrigin, List.any_eq_true] at hany
    obtain ⟨o, ho, heq⟩ := hany
    obtain rfl := of_decide_eq_true heq
    exact ho
  exact ⟨value, client, entry, {
    json := hjson
    read := okOr_eq_ok.mp hread
    type := ensure_eq_ok.mp htype
    challenge := ⟨challenge, okOr_eq_ok.mp hchallenge, hwant⟩
    served := List.mem_of_find?_eq_some hfound
    rpIdHash := hhash.symm
    origin := hlisted
    crossOrigin := ensure_eq_ok.mp hcross
    topOrigin := ensure_eq_ok.mp htop
    userPresent := ensure_eq_ok.mp hup
    userVerified := ensure_eq_ok.mp huv }⟩

/-- The specification admits an accepted assertion exactly when its client data is regular. -/
theorem admittedBySpec_iff {P : P256} {R : P256Recovery P} {parseUrl : Str → Except Str OriginUrl}
    {calls : List BuilderCall} {a : AssertionJson} {expected : ExpectedChallenge}
    {policy : AssertionPolicy} {recovered : RecoveredAssertion P}
    (hpolicy : AssertionPolicy.ofCalls parseUrl sha256 calls = .ok policy)
    (h : verifyAndRecover W sha256 R a expected policy = .ok recovered) :
    AdmittedBySpec W sha256 a expected policy ↔ RegularClientData W a := by
  obtain ⟨decoded, hdecoded, h⟩ := bind_eq_ok.mp h
  obtain ⟨ceremony, hceremony, _⟩ := bind_eq_ok.mp h
  have hdecodes := decodes_of_ok hdecoded
  obtain ⟨value, client, entry, hpasses⟩ := passes_of_ok hceremony
  have hregular := isAdmissible_iff_isRegular hpasses.read hpasses.type hpasses.crossOrigin
    hpasses.topOrigin
  have hvalue : ∀ {bytes value'}, IsBase64 a.response.clientDataJson bytes →
      W.serdeJson.fromSlice bytes = .ok value' → value' = value := by
    intro bytes value' hbytes hjson
    obtain rfl : bytes = decoded.clientDataJson :=
      Option.some.inj (hbytes.symm.trans hdecodes.clientDataJson)
    exact Except.ok.inj (hjson.symm.trans hpasses.json)
  constructor
  · rintro ⟨decoded', members, challenge, origin, _, hadmits⟩ bytes value' hbytes hjson
    obtain rfl := hvalue hbytes hjson
    obtain rfl := hvalue hadmits.clientDataJson hadmits.json
    have hreads := readsObject_of_deserialize hpasses.read
    have hchallenge : challenge = client.challenge := by
      have heq := hadmits.clientData.challenge.symm.trans hreads.challenge
      exact Serde.Value.string.inj (List.singleton_inj.mp heq)
    have horigin : origin = client.origin := by
      have heq := hadmits.clientData.origin.symm.trans hreads.origin
      exact Serde.Value.string.inj (List.singleton_inj.mp heq)
    exact hregular.mp ⟨members, rfl, hchallenge ▸ horigin ▸ hadmits.clientData⟩
  · intro hclient
    obtain ⟨members, rfl, hadmissible⟩ :=
      hregular.mpr (hclient _ value hdecodes.clientDataJson hpasses.json)
    obtain ⟨hentries, _⟩ := builderInvariant_of_calls hpolicy
    obtain ⟨_, hconfigures⟩ := exists_of_forall₂ hentries hpasses.served
    exact ⟨decoded, members, client.challenge, client.origin, entry, {
      id := hdecodes.id
      rawId := hdecodes.rawId
      authenticatorData := hdecodes.authenticatorData
      clientDataJson := hdecodes.clientDataJson
      json := hpasses.json
      clientData := hadmissible
      challenge := hpasses.challenge
      served := hpasses.served
      rpIdHash := by rw [hpasses.rpIdHash, hconfigures.rpIdHash]
      origin := hpasses.origin
      userPresent := hpasses.userPresent
      userVerified := hpasses.userVerified }⟩

end

/-! ## Client data in two forms -/

/-- A signature in low form, and the keys that its prehash recovers to for either parity. -/
structure Recovered where
  prehash : ByteArr 32
  der : Bytes
  even : ByteArr 33
  odd : ByteArr 33

/-- P-256 as far as a list of recoveries tells. -/
def P256.ofRecoveries (sha256 : Bytes → ByteArr 32) (table : List Recovered) : P256 where
  EncodedPoint := Bytes
  VerifyingKey := ByteArr 33
  Signature := Bytes
  encodedPointFromBytes := .ok
  verifyingKeyFromEncodedPoint _ := .error (text "signature error")
  signatureFromDer bytes :=
    if table.any fun entry => entry.der = bytes then .ok bytes else .error (text "signature error")
  signatureFromSlice _ := .error (text "signature error")
  verify key message sig := table.any fun entry =>
    entry.prehash = sha256 message && entry.der = sig && (entry.even = key || entry.odd = key)

def P256Recovery.ofRecoveries (sha256 : Bytes → ByteArr 32) (table : List Recovered) :
    P256Recovery (P256.ofRecoveries sha256 table) where
  PublicKey := ByteArr 33
  normalizeS _ := none
  recoverFromPrehash z (sig : Bytes) id :=
    if id.isXReduced then none
    else (table.find? fun entry => entry.prehash = z && entry.der = sig).map fun entry =>
      if id.isYOdd then entry.odd else entry.even
  toCompressedPoint key := key
  publicKeyFromSec1Bytes := some
  publicKeyFromPublicKeyDer _ := .error (text "ASN.1 error")
  publicKeyToCompressedPoint key := key

def arrayData : Bytes := Text.utf8 (text ("[\"webauthn.get\"," ++
  "\"MDEyMzQ1Njc4OWFiY2RlZjAxMjM0NTY3ODlhYmNkZWY\",\"https://siwx.inblock.io\"]"))

def arrayValue : Serde.Value :=
  .array [.string (text "webauthn.get"),
    .string (text "MDEyMzQ1Njc4OWFiY2RlZjAxMjM0NTY3ODlhYmNkZWY"),
    .string (text "https://siwx.inblock.io")]

def objectData : Bytes := Text.utf8 (text ("\x7b\"type\":\"webauthn.get\",\"challenge\":" ++
  "\"MDEyMzQ1Njc4OWFiY2RlZjAxMjM0NTY3ODlhYmNkZWY\",\"origin\":\"https://siwx.inblock.io\"," ++
  "\"crossOrigin\":false\x7d"))

def objectValue : Serde.Value :=
  .object
    [(text "type", .string (text "webauthn.get")),
      (text "challenge", .string (text "MDEyMzQ1Njc4OWFiY2RlZjAxMjM0NTY3ODlhYmNkZWY")),
      (text "origin", .string (text "https://siwx.inblock.io")),
      (text "crossOrigin", .bool false)]

/-- The hash of the RP ID, the flags UP and UV and a counter of zero. -/
def gateAuthenticatorData : Bytes := configuredHash.1 ++ [5, 0, 0, 0, 0]

def arrayHash : ByteArr 32 :=
  arrOfHex 32 "591286b0a2e198a0297bd89dc6b6347a278a379a96c24c4a5eb54f9da2c21eff"

def arrayPrehash : ByteArr 32 :=
  arrOfHex 32 "8d8ce623f9fae2c17f3b85bcff506ec5baaa186e6b67b1db079e42a55d7dfe38"

def arrayDer : Bytes := bytesOfHex (
  "304402207cf27b188d034f7e8a52380304b51ac3c08969e277f21b35a60b48fc4766997802" ++
  "207ac04f60bc80e6e0fb39211ffdfd3b3aff4d3985356ab7fc9ce504f229f0d979")

def objectHash : ByteArr 32 :=
  arrOfHex 32 "b8a8c4f1dc30afbad153d989e3e10d2ec723a40b71adb180b2d5de9225893444"

def objectPrehash : ByteArr 32 :=
  arrOfHex 32 "0ed0980324bc11bb71e252509b889f8a25f4e108a8385e2e2b8f7d1df674e8c8"

def objectDer : Bytes := bytesOfHex (
  "304402207cf27b188d034f7e8a52380304b51ac3c08969e277f21b35a60b48fc4766997802" ++
  "2045e1898dd8dfb09cfe1a4529d01edd26f33f257590153cb1e8cd630d1eedc120")

def gateSha256 : Bytes → ByteArr 32 :=
  digestOfTable [(Text.utf8 (text "inblock.io"), configuredHash),
    (Text.utf8 (text "aqua.inblock.io"), relatedHash),
    (arrayData, arrayHash), (gateAuthenticatorData ++ arrayHash.1, arrayPrehash),
    (objectData, objectHash), (gateAuthenticatorData ++ objectHash.1, objectPrehash)]

/-- The base point signed both. -/
def gateRecoveries : List Recovered :=
  [{ prehash := arrayPrehash
     der := arrayDer
     even := arrOfHex 33 "036b17d1f2e12c4247f8bce6e563a440f277037d812deb33a0f4a13945d898c296"
     odd := arrOfHex 33 "02b83996f5a25322b27311e26048aab0d0dee67bf5c91e50432c73c67ce4e9b49e" },
   { prehash := objectPrehash
     der := objectDer
     even := arrOfHex 33 "026cf3b37e918f95debe9cff974b08a0d54ed8155c64f7c07b69786c9188cba899"
     odd := arrOfHex 33 "036b17d1f2e12c4247f8bce6e563a440f277037d812deb33a0f4a13945d898c296" }]

def gateRecovery : P256Recovery (P256.ofRecoveries gateSha256 gateRecoveries) :=
  .ofRecoveries gateSha256 gateRecoveries

def gateWebauthn : WebauthnCrates where
  serdeJson :=
    { toVec := fun value => Text.utf8 value.compact
      fromSlice := fun bytes =>
        if bytes = arrayData then .ok arrayValue
        else if bytes = objectData then .ok objectValue
        else .error (text "expected value at line 1 column 1")
      dataError := fun _ => text "invalid type" }
  parseUrl _ := .error (text "relative URL without a base")
  base64Error _ := text "Invalid padding"
  debugStr s := '"' :: (s ++ ['"'])

def gateAssertion (clientDataJson der : Bytes) : AssertionJson where
  id := Base64.encodeNoPad Base64.urlSafe (List.replicate 16 7)
  rawId := Base64.encodeNoPad Base64.urlSafe (List.replicate 16 7)
  type := text "public-key"
  response :=
    { authenticatorData := Base64.encodeNoPad Base64.urlSafe gateAuthenticatorData
      clientDataJson := Base64.encodeNoPad Base64.urlSafe clientDataJson
      signature := Base64.encodeNoPad Base64.urlSafe der
      userHandle := none }

def gateChallenge : ExpectedChallenge :=
  .exact (Text.utf8 (text "0123456789abcdef0123456789abcdef"))

theorem ofCalls_gate :
    AssertionPolicy.ofCalls (urlOfTable configuredUrls) gateSha256 configuredCalls =
    .ok configuredPolicy := by decide +kernel

theorem isBase64_gate (clientDataJson der : Bytes) :
    IsBase64 (gateAssertion clientDataJson der).response.clientDataJson clientDataJson :=
  Base64.decodeIndifferent_encodeNoPad Base64.urlSafe_alphabet clientDataJson

/-- Client data in an array is accepted. -/
theorem admittedBySpec_fails :
    ¬ ∀ (calls : List BuilderCall) (policy : AssertionPolicy) (a : AssertionJson)
      (expected : ExpectedChallenge)
      (recovered : RecoveredAssertion (P256.ofRecoveries gateSha256 gateRecoveries)),
      AssertionPolicy.ofCalls (urlOfTable configuredUrls) gateSha256 calls = .ok policy →
        verifyAndRecover gateWebauthn gateSha256 gateRecovery a expected policy = .ok recovered →
          AdmittedBySpec gateWebauthn gateSha256 a expected policy := by
  intro h
  have haccepted : (verifyAndRecover gateWebauthn gateSha256 gateRecovery
      (gateAssertion arrayData arrayDer) gateChallenge configuredPolicy).isOk = true := by
    decide +kernel
  obtain ⟨recovered, hrecovered⟩ := isOk_iff.mp haccepted
  obtain ⟨decoded, members, _, _, _, hadmits⟩ := h _ _ _ _ _ ofCalls_gate hrecovered
  have hbytes : decoded.clientDataJson = arrayData :=
    Option.some.inj (hadmits.clientDataJson.symm.trans (isBase64_gate arrayData arrayDer))
  have hjson := hadmits.json
  rw [hbytes] at hjson
  cases hjson

theorem admittedBySpec_base : AdmittedBySpec gateWebauthn gateSha256
    (gateAssertion objectData objectDer) gateChallenge configuredPolicy := by
  have haccepted : (verifyAndRecover gateWebauthn gateSha256 gateRecovery
      (gateAssertion objectData objectDer) gateChallenge configuredPolicy).isOk = true := by
    decide +kernel
  obtain ⟨recovered, hrecovered⟩ := isOk_iff.mp haccepted
  apply (admittedBySpec_iff ofCalls_gate hrecovered).mpr
  intro bytes value hbytes hjson
  have hdata : bytes = objectData :=
    Option.some.inj (hbytes.symm.trans (isBase64_gate objectData objectDer))
  have hne : objectData ≠ arrayData := by decide +kernel
  have hread : gateWebauthn.serdeJson.fromSlice objectData = .ok objectValue := by
    simp only [gateWebauthn, if_neg hne, if_true]
  rw [hdata, hread] at hjson
  rw [← Except.ok.inj hjson]
  refine ⟨nofun, ?_⟩
  intro members heq hnull
  have hnamed : Serde.Value.named (text "crossOrigin") members = [.bool false] := by
    rw [← Serde.Value.object.inj heq]
    rfl
  rw [← Serde.Value.mem_named, hnamed] at hnull
  cases List.mem_singleton.mp hnull

end AquaAuth
