import AquaAuth.Model.Challenge
import AquaAuth.Proofs.Identifier
set_option autoImplicit false
/-!
# DIDs the challenge endpoint admits

A challenge can be issued for every DID the format gate lets past, but one kind: a
`did:pkh:eip155` without a chain, whose address the gate reads from the right and the
message builder looks for behind a chain id.
-/

namespace AquaAuth

open Support Support.Result

variable {B : Build} {did : Str} {m : DIDMethod}

/-- A `did:pkh:eip155` whose identifier is one segment, so that no chain is named. -/
def NamesNoChain (did : Str) : Prop :=
  ∃ address, Text.stripPrefix (text "did:pkh:eip155:") did = some address ∧ ':' ∉ address

/-- The accessors a message is built from succeed. -/
def AccessorsSucceed (m : DIDMethod) (did : Str) : Prop :=
  (∃ address, m.addressForMessage did = .ok address) ∧ ∃ label, m.methodLabel did = .ok label

/-! ## did:pkh -/

private theorem eip155_address {did remainder : Str} {addr : ByteArr 20}
    (hsplit : splitNamespace did = .ok (text "eip155", remainder))
    (haddr : addressFromDid did = .ok addr) :
    (∃ address, pkhAddressForMessage B did = .ok address) ↔ ':' ∈ remainder := by
  have hsuite : findCipherSuite B (text "eip155") = some (eip155Suite B) := rfl
  have hsum : checksummedAddress B.keccak256 did =
      .ok (text "0x" ++ eip55Checksum B.keccak256 addr) := by
    simp [checksummedAddress, haddr]
  simp only [pkhAddressForMessage, hsplit, ok_bind, hsuite, okOr_some, eip155Suite, hsum]
  cases hcolon : Text.splitOnceChar ':' remainder with
  | none => simpa using Text.splitOnceChar_eq_none.mp hcolon
  | some parts =>
      have hmem : ':' ∈ remainder := by
        rw [(Text.splitOnceChar_eq_some.mp hcolon).1]
        simp
      simp [hmem]

private theorem namesNoChain_iff {did remainder : Str}
    (hsplit : splitNamespace did = .ok (text "eip155", remainder)) :
    NamesNoChain did ↔ ':' ∉ remainder := by
  obtain ⟨rfl, _⟩ := splitNamespace_eq_ok.mp hsplit
  have hstrip : Text.stripPrefix (text "did:pkh:eip155:")
      (text "did:pkh:" ++ (text "eip155" ++ ':' :: remainder)) = some remainder :=
    Text.stripPrefix_eq_some.mpr (by simp [text])
  simp [NamesNoChain, hstrip]

private theorem pkh_hex_accessors {ns remainder : Str}
    (hns : ns = text "ed25519" ∨ ns = text "p256")
    (hsplit : splitNamespace did = .ok (ns, remainder)) :
    AccessorsSucceed (pkhMethod B) did ∧ ¬ NamesNoChain did := by
  have haddress : pkhAddressForMessage B did = .ok remainder := pkhAddressForMessage_hex hsplit hns
  have hlabel : ∃ label, pkhMethodLabel did = .ok label := by
    simp only [pkhMethodLabel, hsplit]
    rcases hns with rfl | rfl
    · exact ⟨text "Ed25519", rfl⟩
    · exact ⟨text "P-256", rfl⟩
  refine ⟨⟨⟨remainder, haddress⟩, hlabel⟩, ?_⟩
  rintro ⟨address, hstrip, _⟩
  obtain ⟨hdid, _⟩ := splitNamespace_eq_ok.mp hsplit
  have hdid' := Text.stripPrefix_eq_some.mp hstrip
  rcases hns with rfl | rfl <;> simp [hdid, text] at hdid'

theorem pkh_accessors_iff (hvalid : validatePkh B did = .ok ()) :
    AccessorsSucceed (pkhMethod B) did ↔ ¬ NamesNoChain did := by
  cases admittedPkh_of_validatePkh hvalid with
  | eip155 hsplit haddr =>
      have hlabel : pkhMethodLabel did = .ok (text "Ethereum") := by
        simp only [pkhMethodLabel, hsplit]
        rfl
      rw [namesNoChain_iff hsplit, not_not]
      exact ⟨fun h => (eip155_address hsplit haddr).mp h.1,
        fun h => ⟨(eip155_address hsplit haddr).mpr h, _, hlabel⟩⟩
  | ed25519 hsplit _ _ =>
      have h := pkh_hex_accessors (B := B) (.inl rfl) hsplit
      exact iff_of_true h.1 h.2
  | p256 hsplit _ _ =>
      have h := pkh_hex_accessors (B := B) (.inr rfl) hsplit
      exact iff_of_true h.1 h.2

/-! ## The other methods -/

private theorem not_namesNoChain_of_append {pre rest : Str} (hdid : did = pre ++ rest)
    (hpre : ∀ rest address, pre ++ rest ≠ text "did:pkh:eip155:" ++ address) :
    ¬ NamesNoChain did := by
  rintro ⟨address, hstrip, _⟩
  exact hpre rest address (hdid.symm.trans (Text.stripPrefix_eq_some.mp hstrip))

private theorem multibase_decodes {zBody : Str}
    (h : validateMultibaseKeyBody B zBody = .ok ()) :
    ∃ key, decodeMultibaseKey B.dalek zBody = .ok key := by
  obtain ⟨key, hkey, _⟩ := bind_eq_ok.mp h
  exact ⟨key, hkey⟩

private theorem aqua_stripPrefix {mh : ByteArr 34} (h : Aqua.multihashFromAquaDid did = .ok mh) :
    ∃ rest, Text.stripPrefix (text "did:aqua:") did = some rest := by
  obtain ⟨_, _, h⟩ := bind_eq_ok.mp h
  obtain ⟨_, _, h⟩ := bind_eq_ok.mp h
  obtain ⟨rest, hrest, _⟩ := bind_eq_ok.mp h
  exact ⟨rest, okOr_eq_ok.mp hrest⟩

private theorem aqua_accessors
    (h : (Aqua.multihashFromAquaDid did).map (fun _ => ()) = .ok ()) :
    AccessorsSucceed (aquaMethod B) did ↔ ¬ NamesNoChain did := by
  obtain ⟨mh, hmh, _⟩ := map_eq_ok.mp h
  obtain ⟨rest, hstrip⟩ := aqua_stripPrefix hmh
  have haddress : (aquaMethod B).addressForMessage did = .ok rest :=
    bind_eq_ok.mpr ⟨mh, hmh, okOr_eq_ok.mpr hstrip⟩
  have hlabel : (aquaMethod B).methodLabel did = .ok (text "ML-DSA-87") :=
    bind_eq_ok.mpr ⟨mh, hmh, rfl⟩
  refine iff_of_true ⟨⟨rest, haddress⟩, _, hlabel⟩ ?_
  exact not_namesNoChain_of_append (Text.stripPrefix_eq_some.mp hstrip) (by simp [text])

/-- The accessors of the method of a well-formed DID. -/
theorem accessors_iff (hm : findDidMethod B did = some m)
    (hvalid : validateDidWellFormed B did = .ok ()) :
    AccessorsSucceed m did ↔ ¬ NamesNoChain did := by
  rcases findDidMethod_cases hm with ⟨rfl, _⟩ | ⟨rfl, _⟩ | ⟨rfl, hsupports⟩ | ⟨rfl, haqua, _⟩
  · exact pkh_accessors_iff (validateDidWellFormed_pkh hm ▸ hvalid)
  · rw [validateDidWellFormed_key hm] at hvalid
    obtain ⟨zBody, hbody, hmultibase⟩ := bind_eq_ok.mp hvalid
    obtain ⟨key, hkey⟩ := multibase_decodes hmultibase
    have hbody := okOr_eq_ok.mp hbody
    have hdid := Text.stripPrefix_eq_some.mp hbody
    have haddress : Text.stripPrefix (text "did:key:") did = some ('z' :: zBody) :=
      Text.stripPrefix_eq_some.mpr (by simp [hdid, text])
    refine iff_of_true ⟨⟨'z' :: zBody, by simp [keyMethod, haddress]⟩, keyTypeLabel key, ?_⟩
      (not_namesNoChain_of_append hdid (by simp [text]))
    simp [keyMethod, hbody, hkey]
  · rw [validateDidWellFormed_peer hm] at hvalid
    obtain ⟨zBody, hbody, hmultibase⟩ := bind_eq_ok.mp hvalid
    obtain ⟨key, hkey⟩ := multibase_decodes hmultibase
    refine iff_of_true ⟨⟨'z' :: zBody, by simp [peerMethod, hbody]⟩, keyTypeLabel key, ?_⟩ ?_
    · simp [peerMethod, hbody, hkey]
    · rcases peer_supportsDid_cases hsupports with ⟨rest, hdid⟩ | ⟨rest, hdid⟩
      · exact not_namesNoChain_of_append hdid (by simp [text])
      · exact not_namesNoChain_of_append hdid (by simp [text])
  · rw [validateDidWellFormed_aqua hm haqua] at hvalid
    exact aqua_accessors hvalid

/-! ## Building a challenge -/

/-- A DID the gate lets past has a method. -/
theorem findDidMethod_of_wellFormed (hvalid : validateDidWellFormed B did = .ok ()) :
    ∃ m, findDidMethod B did = some m := by
  obtain ⟨m, hm, _⟩ := bind_eq_ok.mp hvalid
  exact ⟨m, okOr_eq_ok.mp hm⟩

theorem buildMessage_isOk_iff {params : MessageParams}
    (hm : findDidMethod B params.did = some m) :
    (∃ message, buildMessage B params = .ok message) ↔ AccessorsSucceed m params.did := by
  simp only [buildMessage, hm, okOr_some, ok_bind]
  constructor
  · rintro ⟨message, h⟩
    obtain ⟨address, haddress, h⟩ := bind_eq_ok.mp h
    obtain ⟨label, hlabel, _⟩ := bind_eq_ok.mp h
    exact ⟨⟨address, mapError_eq_ok.mp haddress⟩, label, mapError_eq_ok.mp hlabel⟩
  · rintro ⟨⟨address, haddress⟩, label, hlabel⟩
    simp [haddress, hlabel, Except.mapError]

namespace ChallengeStore

variable {store : ChallengeStore} {draws : ChallengeDraws}

@[simp] theorem ttlSecs_removeVictim (victim : Option Str) :
    (store.removeVictim victim).ttlSecs = store.ttlSecs := by
  cases victim <;> rfl

@[simp] theorem ttlSecs_makeRoom (now : Nat) : (store.makeRoom now).ttlSecs = store.ttlSecs := by
  unfold makeRoom
  extract_lets purged
  split_ifs
  · exact ttlSecs_removeVictim _
  · rfl
  · rfl

theorem expiry_makeRoom (now : Nat) (reading : ClockReading) :
    (store.makeRoom now).expiry reading = store.expiry reading := by
  simp [expiry]

/-- With a representable expiry, a well-formed DID gets the challenge its accessors allow. -/
theorem create_isOk_iff (hm : findDidMethod B did = some m)
    (hvalid : validateDidWellFormed B did = .ok ())
    (hexpiry : (store.expiry draws.now).isSome) :
    (∃ challenge, (store.create B did draws).1 = some (.ok challenge)) ↔
      AccessorsSucceed m did := by
  obtain ⟨expires, hexpires⟩ := Option.isSome_iff_exists.mp hexpiry
  rw [← expiry_makeRoom draws.purgeAt.secs] at hexpires
  simp only [create, hvalid, issue, hexpires]
  rw [← @buildMessage_isOk_iff B m ⟨did, (store.makeRoom draws.purgeAt.secs).domain,
    (store.makeRoom draws.purgeAt.secs).uri, nonceOf draws.nonceBytes, draws.now.1, expires⟩ hm,
    challengeFor]
  cases hbuild : buildMessage B ⟨did, (store.makeRoom draws.purgeAt.secs).domain,
    (store.makeRoom draws.purgeAt.secs).uri, nonceOf draws.nonceBytes, draws.now.1, expires⟩ with
  | error e => simp
  | ok message => simp

end ChallengeStore

/-! ## The endpoint -/

/-- Every DID the format gate lets past gets a challenge, in every state of the store and at
every reading of the clock from which the expiry is representable. -/
def AdmitsWellFormed (B : Build) : Prop :=
  ∀ did, validateDidWellFormed B did = .ok () →
    ∀ (store : ChallengeStore) (draws : ChallengeDraws), (store.expiry draws.now).isSome →
      ∃ challenge, (store.create B did draws).1 = some (.ok challenge)

theorem create_isOk_iff_namesChain (hvalid : validateDidWellFormed B did = .ok ())
    {store : ChallengeStore} {draws : ChallengeDraws} (hexpiry : (store.expiry draws.now).isSome) :
    (∃ challenge, (store.create B did draws).1 = some (.ok challenge)) ↔ ¬ NamesNoChain did := by
  obtain ⟨m, hm⟩ := findDidMethod_of_wellFormed hvalid
  rw [ChallengeStore.create_isOk_iff hm hvalid hexpiry]
  exact accessors_iff hm hvalid

theorem buildMessage_isOk_iff_namesChain {params : MessageParams}
    (hvalid : validateDidWellFormed B params.did = .ok ()) :
    (∃ message, buildMessage B params = .ok message) ↔ ¬ NamesNoChain params.did := by
  obtain ⟨m, hm⟩ := findDidMethod_of_wellFormed hvalid
  rw [buildMessage_isOk_iff hm]
  exact accessors_iff hm hvalid

/-- A well-formed DID gets a challenge, its message is built and its accessors succeed exactly
when it is not an `eip155` DID without a chain. -/
theorem create_wellFormed_iff (hvalid : validateDidWellFormed B did = .ok ()) :
    (∀ (store : ChallengeStore) (draws : ChallengeDraws), (store.expiry draws.now).isSome →
      ((∃ challenge, (store.create B did draws).1 = some (.ok challenge)) ↔
        ¬ NamesNoChain did)) ∧
    (∀ m, findDidMethod B did = some m → (AccessorsSucceed m did ↔ ¬ NamesNoChain did)) ∧
    ∀ params : MessageParams, params.did = did →
      ((∃ message, buildMessage B params = .ok message) ↔ ¬ NamesNoChain did) := by
  refine ⟨fun store draws hexpiry => create_isOk_iff_namesChain hvalid hexpiry,
    fun m hm => accessors_iff hm hvalid, ?_⟩
  rintro params rfl
  exact buildMessage_isOk_iff_namesChain hvalid

/-! ## An address without a chain -/

/-- A build whose crates know no key. -/
def keylessBuild : Build := .ofTable [] []

def addressHex : Str := text "5aAeb6053F3E94C9b9A09f33669435E7Ef1BeAed"

/-- A DID with an address and no chain. -/
def chainlessDid : Str := text "did:pkh:eip155:0x" ++ addressHex

/-- The same address on a chain. -/
def mainnetDid : Str := text "did:pkh:eip155:1:0x" ++ addressHex

/-- 2023-11-14T22:13:20Z -/
def sampleReading : ClockReading :=
  ⟨⟨1700000000, 0, by decide, DateTime.wholeSecond_lt, by decide⟩, by decide⟩

def sampleStore : ChallengeStore :=
  .withCapacity 300 Duration.fiveMinutes_lt (text "aqua-node") (text "http://127.0.0.1:3000") 8192

def sampleDraws : ChallengeDraws :=
  ⟨sampleReading, ⟨List.replicate 32 7, by decide⟩, sampleReading⟩

/-- The gate lets the DID without a chain past, and `create` returns an error. -/
theorem admitsWellFormed_chainless_fails : ¬ AdmitsWellFormed keylessBuild := by
  intro h
  have hvalid : validateDidWellFormed keylessBuild chainlessDid = .ok () := by decide +kernel
  have hrefused : (sampleStore.create keylessBuild chainlessDid sampleDraws).1 =
      some (.error (.crypto (.invalidDid
        (text "missing address in eip155 remainder: 0x" ++ addressHex)))) := by decide +kernel
  obtain ⟨challenge, hchallenge⟩ := h chainlessDid hvalid sampleStore sampleDraws (by decide)
  rw [hrefused] at hchallenge
  cases hchallenge

/-- The exact condition, at an address on a chain. -/
theorem create_wellFormed_iff_mainnet :
    (∀ (store : ChallengeStore) (draws : ChallengeDraws), (store.expiry draws.now).isSome →
      ((∃ challenge, (store.create keylessBuild mainnetDid draws).1 = some (.ok challenge)) ↔
        ¬ NamesNoChain mainnetDid)) ∧
    (∀ m, findDidMethod keylessBuild mainnetDid = some m →
      (AccessorsSucceed m mainnetDid ↔ ¬ NamesNoChain mainnetDid)) ∧
    ∀ params : MessageParams, params.did = mainnetDid →
      ((∃ message, buildMessage keylessBuild params = .ok message) ↔
        ¬ NamesNoChain mainnetDid) :=
  create_wellFormed_iff (by decide +kernel)

end AquaAuth
