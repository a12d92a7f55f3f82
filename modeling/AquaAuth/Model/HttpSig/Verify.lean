import AquaAuth.Model.HttpSig.Replay
import AquaAuth.Model.HttpSig.Sign
set_option autoImplicit false
/-!
# Verifying a request

`http_sig/verify.rs`.  The shared guard of the options is passed and returned.
-/

namespace AquaAuth.HttpSig

open Support Support.Result Support.StructuredField

/-- `VerifyOptions`, less the replay guard. -/
structure VerifyOptions where
  expectedTag : Str
  clockSkew : Duration
  deriving DecidableEq

/-- `DEFAULT_CLOCK_SKEW` -/
def defaultClockSkew : Duration := .fromSecs 60 (by decide)

/-- `VerifyOptions::new` -/
def VerifyOptions.new (expectedTag : Str) : VerifyOptions := ⟨expectedTag, defaultClockSkew⟩

/-- `VerifyOptions::aqua_internal` -/
def VerifyOptions.aquaInternal : VerifyOptions := .new tagAquaInternal

/-! ## Signature-Input -/

/-- The name of one covered component. -/
def componentName : BareItem → Except HttpSigError Str
  | .string name => pure name.1
  | _ => .error (.malformedSignatureInput (text "covered component names must be strings"))

/-- The names of the covered components, in header order. -/
def coveredNames : List Item → Except HttpSigError (List Str)
  | [] => pure []
  | item :: items => do
      ensure (item.params = .empty) (.malformedSignatureInput
        (text "covered components in this profile carry no parameters"))
      let name ← componentName item.bareItem
      ensure (name ∈ allowedComponents) (.unsupportedComponent name)
      let names ← coveredNames items
      pure (name :: names)

/-- `integer_param` -/
def integerParam (params : Parameters) (key : Key) : Except HttpSigError Int :=
  match params.get key with
  | some (.integer n) => pure n.1
  | _ => .error (.malformedSignatureInput (key.1 ++ text " must be an integer"))

/-- `string_param` -/
def stringParam (params : Parameters) (key : Key) : Except HttpSigError Str :=
  match params.get key with
  | some (.string s) => pure s.1
  | _ => .error (.malformedSignatureInput (key.1 ++ text " must be a string"))

/-- The debug rendering of a list of parameter names. -/
def debugNames (names : List Str) : Str :=
  '[' :: List.intercalate (text ", ") (names.map fun name => '"' :: name ++ ['"']) ++ [']']

/-- The parameters an inner list holds. -/
def readParams (inner : InnerList) : Except HttpSigError SignatureParams := do
  let covered ← coveredNames inner.items
  ensure (componentAuthority ∈ covered) (.missingComponent componentAuthority)
  let present := inner.params.entries.map Prod.fst
  ensure (present = paramOrder) (.malformedSignatureInput
    (text "expected parameters " ++ debugNames (paramOrder.map Subtype.val) ++
      text " in that order, found " ++ debugNames (present.map Subtype.val)))
  let created ← integerParam inner.params keyCreated
  let expires ← integerParam inner.params keyExpires
  let keyid ← stringParam inner.params keyKeyid
  let alg ← stringParam inner.params keyAlg
  let nonce ← stringParam inner.params keyNonce
  let tag ← stringParam inner.params keyTag
  pure ⟨covered, created, expires, keyid, alg, nonce, tag⟩

/-- `parse_signature_input` -/
def parseSignatureInput (S : Sfv) (header : Str) :
    Except HttpSigError (Str × SignatureParams) := do
  let dict ← (S.parseDictionary header).mapError .malformedSignatureInput
  match dict.entries with
  | [(label, .innerList inner)] => do
      let params ← readParams inner
      pure (label.1, params)
  | [(_, .item _)] =>
      .error (.malformedSignatureInput (text "signature parameters must be an inner list"))
  | members => .error (.malformedSignatureInput
      (text "expected exactly one signature, found " ++ Text.decimal members.length))

/-! ## Signature -/

/-- `parse_signature` -/
def parseSignature (S : Sfv) (header label : Str) : Except HttpSigError Bytes := do
  let dict ← (S.parseDictionary header).mapError .malformedSignature
  let entry ← okOr (.malformedSignature (text "no signature under the label " ++ label))
    (lookup dict label)
  match entry with
  | .item ⟨.byteSequence bytes, _⟩ => pure bytes
  | .item _ => .error (.malformedSignature (text "signature must be a byte sequence"))
  | .innerList _ => .error (.malformedSignature (text "signature must be a single item"))

/-! ## Policy -/

/-- `check_tag` -/
def checkTag (params : SignatureParams) (opts : VerifyOptions) : Except HttpSigError Unit :=
  ensure (params.tag = opts.expectedTag) (.tagMismatch opts.expectedTag params.tag)

/-- `check_window` -/
def checkWindow (params : SignatureParams) (opts : VerifyOptions) (now : Int) :
    Except HttpSigError Unit := do
  ensure (params.created < params.expires) (.invalidWindow params.created params.expires)
  let window := params.expires - params.created
  let max := asI64 maxValidity.secs
  ensure (window ≤ max) (.validityTooLong window.toNat max.toNat)
  let skew := asI64 opts.clockSkew.secs
  ensure (params.created ≤ saturatingAdd now skew)
    (.createdInFuture params.created now opts.clockSkew.secs)
  ensure (now < params.expires) (.expired params.expires now)

/-! ## The verifier -/

/-- A request as received: its parts and its two signature headers. -/
structure SignedRequest where
  parts : RequestParts
  signatureInput : Str
  signature : Str
  deriving DecidableEq

/-- `verify_request_at` up to the replay guard: the parsed parameters and the principal. -/
def checkRequest (B : Build) (S : Sfv) (request : SignedRequest) (opts : VerifyOptions)
    (now : Int) : Except HttpSigError (SignatureParams × Principal B) := do
  let (label, params) ← parseSignatureInput S request.signatureInput
  let signatureBytes ← parseSignature S request.signature label
  checkSignatureAgentCoverage request.parts params.covered
  checkTag params opts
  checkWindow params opts now
  let alg ← algForDid B params.keyid
  ensure (alg = params.alg) (.algMismatch params.keyid alg params.alg)
  let canonical ← signatureInputHeader S label params
  ensure (canonical = Text.trim request.signatureInput) (.malformedSignatureInput
    (text "Signature-Input is not in this profile's canonical form"))
  let base ← buildSignatureBase S request.parts params
  let principal ← (authenticate B params.keyid base signatureBytes).mapError .crypto
  pure (params, principal)

/-- `verify_request_at`, with the guard of the options after the call. -/
def verifyRequestAt (B : Build) (S : Sfv) (request : SignedRequest) (opts : VerifyOptions)
    (guard : Option NonceReplayGuard) (now : Int) :
    Except HttpSigError (Principal B) × Option NonceReplayGuard :=
  match checkRequest B S request opts now with
  | .error e => (.error e, guard)
  | .ok (params, principal) =>
      match guard with
      | none => (.ok principal, none)
      | some guard =>
          let outcome := guard.checkAndRecordAt params.nonce params.expires now
          (outcome.1.map fun _ => principal, some outcome.2)

/-! ## Runs on one guard -/

/-- What happens to a shared guard: a request is verified against it, or it is swept. -/
inductive GuardEvent where
  | verify (request : SignedRequest) (opts : VerifyOptions) (now : Int)
  | cleanup (now : Int)
  deriving DecidableEq

/-- The clock value an event reads. -/
def GuardEvent.clock : GuardEvent → Int
  | .verify _ _ now => now
  | .cleanup now => now

/-- The guard after an event. -/
def NonceReplayGuard.after (B : Build) (S : Sfv) (guard : NonceReplayGuard) :
    GuardEvent → NonceReplayGuard
  | .verify request opts now => (verifyRequestAt B S request opts (some guard) now).2.getD guard
  | .cleanup now => guard.cleanupExpiredAt now

/-- The guard after a sequence of events. -/
def NonceReplayGuard.afterAll (B : Build) (S : Sfv) (guard : NonceReplayGuard)
    (events : List GuardEvent) : NonceReplayGuard :=
  events.foldl (NonceReplayGuard.after B S) guard

end AquaAuth.HttpSig
