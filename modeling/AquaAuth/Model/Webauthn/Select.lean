import AquaAuth.Model.Webauthn.Recover
import AquaAuth.Proofs.Registry
set_option autoImplicit false
/-!
# Candidate selection

`webauthn_select.rs`, with what it uses of `key/mod.rs` and `principal.rs`: which of the two
keys a verified assertion recovers made the signature, and the state kept between two
assertions.
-/

namespace AquaAuth

open Support Support.Result

variable (B : Build) (R : P256Recovery B.p256)

/-- `key::p256_pubkey_from_did_key` -/
def p256PubkeyFromDidKey (did : Str) : Except CryptoError (ByteArr 33) := do
  let zBody ← okOr (.invalidDid (text "expected did:key DID: " ++ did))
    (Text.stripPrefix (text "did:key:z") did)
  match ← decodeMultibaseKey B.dalek zBody with
  | .p256 raw => do
      let compressed ← tryIntoArr 33 (.invalidDid
        (text "P-256 did:key must carry a 33-byte compressed point, got " ++
          Text.decimal raw.length ++ text " bytes")) raw
      let _ ← okOr (.invalidDid (text "P-256 did:key is not a point on the curve"))
        (R.publicKeyFromSec1Bytes compressed)
      pure compressed
  | other => .error (.invalidDid (text "expected a P-256 did:key, got " ++ keyTypeLabel other))

/-- A `did:key` of 33 bytes under the prefix of P-256 is well-formed. -/
theorem validateDidWellFormed_p256DidKey (point : ByteArr 33) :
    validateDidWellFormed B (p256DidKeyFromPubkey point) = .ok () := by
  have hmethod : findDidMethod B (p256DidKeyFromPubkey point) = some (keyMethod B) := rfl
  rw [validateDidWellFormed_key hmethod, p256DidKeyFromPubkey, encodeDidKey,
    Text.stripPrefix_append, okOr_some, ok_bind, validateMultibaseKeyBody,
    decodeMultibaseKey_p256, ok_bind]
  exact ensure_pos point.2

/-! ## Hints -/

/-- `DidHint`: a P-256 `did:key` in its canonical spelling. -/
structure DidHint where
  did : Str
  canonical : ∃ point, p256DidKeyFromPubkey point = did
  deriving DecidableEq

/-- The hint that names a compressed point. -/
def DidHint.ofPoint (point : ByteArr 33) : DidHint := ⟨p256DidKeyFromPubkey point, point, rfl⟩

/-- `DidHint::parse` -/
def DidHint.parse (s : Str) : Option DidHint := do
  let point ← (p256PubkeyFromDidKey B R s).toOption
  if h : p256DidKeyFromPubkey point = s then some ⟨s, point, h⟩ else none

/-- `DidHint::from_spki_der` -/
def DidHint.fromSpkiDer (spki : Bytes) : Except CryptoError DidHint := do
  let key ← (R.publicKeyFromPublicKeyDer spki).mapError fun e =>
    .invalidDid (text "not a P-256 SubjectPublicKeyInfo: " ++ e)
  pure (.ofPoint (R.publicKeyToCompressedPoint key))

/-- `DidHint::try_from` -/
def DidHint.tryFrom (s : Str) : Except CryptoError DidHint :=
  okOr (.invalidDid (text "not a canonical P-256 did:key: " ++ s)) (DidHint.parse B R s)

/-- `Principal::from_proven_did_key` -/
def Principal.fromProvenDidKey (hint : DidHint) : Principal B where
  did := hint.did
  wellFormed := by
    obtain ⟨point, hpoint⟩ := hint.canonical
    rw [← hpoint]
    exact validateDidWellFormed_p256DidKey B point

/-! ## Selection -/

/-- `SelectedBy` -/
inductive SelectedBy where
  | hint
  | knownPrincipal
  | intersection
  deriving DecidableEq, Repr

/-- `SelectionError` -/
inductive SelectionError where
  | credentialMismatch
  | noCommonCandidate
  | ambiguous
  deriving DecidableEq, Repr

/-- `PendingRecovery` -/
structure PendingRecovery where
  candidates : DidHint × DidHint
  credentialId : Bytes
  deriving DecidableEq

/-- `Selection` -/
inductive Selection where
  | selected (principal : Principal B) (rule : SelectedBy)
  | needSecondAssertion (pending : PendingRecovery)

/-- `the_only` -/
def theOnly : Bool × Bool → Option (Fin 2)
  | (true, false) => some 0
  | (false, true) => some 1
  | _ => none

/-- A member of a pair by its index. -/
def nth {α : Type} (pair : α × α) : Fin 2 → α
  | 0 => pair.1
  | 1 => pair.2

variable {B}

/-- The two candidates as hints. -/
def RecoveredAssertion.candidateHints (recovered : RecoveredAssertion B.p256) : DidHint × DidHint :=
  (.ofPoint (R.toCompressedPoint recovered.candidates.1),
    .ofPoint (R.toCompressedPoint recovered.candidates.2))

/-- What the server keeps of a first assertion until the second. -/
def RecoveredAssertion.pending (recovered : RecoveredAssertion B.p256) : PendingRecovery :=
  ⟨recovered.candidateHints R, recovered.credentialId⟩

/-- Which candidates a hint names. -/
def RecoveredAssertion.hinted (recovered : RecoveredAssertion B.p256) (hints : List DidHint) :
    Bool × Bool :=
  (hints.any fun h => h.did = (recovered.candidateDids R).1,
    hints.any fun h => h.did = (recovered.candidateDids R).2)

/-- The candidate at an index as a principal. -/
def RecoveredAssertion.principal (recovered : RecoveredAssertion B.p256) (i : Fin 2) :
    Principal B :=
  .fromProvenDidKey B (nth (recovered.candidateHints R) i)

/-- `RecoveredAssertion::select` -/
def RecoveredAssertion.select (recovered : RecoveredAssertion B.p256) (hints : List DidHint)
    (known : Bool × Bool) : Selection B :=
  match theOnly (recovered.hinted R hints) with
  | some i => .selected (recovered.principal R i) .hint
  | none =>
      match theOnly known with
      | some i => .selected (recovered.principal R i) .knownPrincipal
      | none => .needSecondAssertion (recovered.pending R)

/-- `PendingRecovery::resolve` -/
def PendingRecovery.resolve (pending : PendingRecovery) (second : RecoveredAssertion B.p256) :
    Except SelectionError (Principal B) :=
  if second.credentialId ≠ pending.credentialId then .error .credentialMismatch
  else
    let theirs := second.candidateDids R
    let common := [pending.candidates.1, pending.candidates.2].filter fun c =>
      theirs.1 = c.did ∨ theirs.2 = c.did
    match common with
    | [] => .error .noCommonCandidate
    | [one] => .ok (.fromProvenDidKey B one)
    | _ => .error .ambiguous

/-! ## The stored state -/

/-- `PendingRecovery::serialize` -/
def PendingRecovery.serialize (pending : PendingRecovery) : Serde.Value :=
  .object
    [(text "candidates",
        .array [.string pending.candidates.1.did, .string pending.candidates.2.did]),
      (text "credential_id",
        .string (Base64.encodeNoPad Base64.urlSafe pending.credentialId))]

variable (B)

/-- `DidHint::deserialize` -/
def DidHint.deserialize (value : Serde.Value) : Option DidHint := do
  let s ← value.asStr
  (DidHint.tryFrom B R s).toOption

/-- `<[DidHint; 2]>::deserialize` -/
def deserializeHintPair : Serde.Value → Option (DidHint × DidHint)
  | .array [first, second] => do
      let first ← DidHint.deserialize B R first
      let second ← DidHint.deserialize B R second
      pure (first, second)
  | _ => none

/-- `PendingRecovery::deserialize` -/
def PendingRecovery.deserialize (value : Serde.Value) : Option PendingRecovery := do
  let members ← value.structMembers [text "candidates", text "credential_id"]
  let candidates ← members.lookup (text "candidates") >>= deserializeHintPair B R
  let credentialId ← members.lookup (text "credential_id") >>= Serde.Value.asStr >>=
    Base64.decodeIndifferent Base64.urlSafe
  pure { candidates, credentialId }

/-- `serde_json::to_vec`, on a stored recovery. -/
def PendingRecovery.toVec (W : WebauthnCrates) (pending : PendingRecovery) : Bytes :=
  W.serdeJson.toVec pending.serialize

/-- `serde_json::from_slice::<PendingRecovery>` -/
def PendingRecovery.fromSlice (W : WebauthnCrates) (bytes : Bytes) :
    Except Str PendingRecovery := do
  let value ← W.serdeJson.fromSlice bytes
  okOr (W.serdeJson.dataError bytes) (PendingRecovery.deserialize B R value)

end AquaAuth
