import AquaAuth.Model.Webauthn.Recover
set_option autoImplicit false
/-!
# Building an assertion policy

The builder of `webauthn_policy.rs`: how relying parties and their origins are normalised and
checked as they are added.
-/

namespace AquaAuth

open Support Support.Result

/-- What the policy reads of a parsed `url::Url`. -/
structure OriginUrl where
  scheme : Str
  username : Str
  password : Option Str
  hostStr : Option Str
  path : Str
  query : Option Str
  fragment : Option Str
  /-- `origin().ascii_serialization()` -/
  asciiOrigin : Str
  deriving DecidableEq, Repr

/-- `PolicyError` -/
inductive PolicyError where
  | invalidRpId (rpId reason : Str)
  | invalidOrigin (origin reason : Str)
  | originOutsideRpId (origin rpId : Str)
  | noOrigins (rpId : Str)
  | duplicateRpId (rpId : Str)
  | noRp
  deriving DecidableEq, Repr

/-! ## Names -/

/-- One octet as `Ipv4Addr::from_str` reads it: no leading zero. -/
def isOctet (s : Str) : Bool :=
  s ≠ [] && s.all Char.isDigit && s.length ≤ 3 && (s.length = 1 || s.head? ≠ some '0') &&
    Nat.ofDigitChars 10 s 0 ≤ 255

/-- `host.parse::<IpAddr>().is_ok()`, on a plain hostname: without a colon there is no IPv6
address. -/
def isIpLiteral (host : Str) : Bool :=
  let octets := host.splitOn '.'
  octets.length = 4 && octets.all isOctet

/-- `is_plain_hostname` -/
def isPlainHostname (host : Str) : Bool :=
  host ≠ [] && host.all fun c => c.isAlphanum || c = '.' || c = '-'

/-- `host_within_rp_id` -/
def hostWithinRpId (host rpId : Str) : Bool :=
  let host := Text.asciiLower (Text.trimEndMatches (· = '.') host)
  host = rpId || (text "." ++ rpId).isSuffixOf host

/-- `validate_rp_id` -/
def validateRpId (raw : Str) : Except PolicyError Str := do
  let r := Text.asciiLower (Text.trimEndMatches (· = '.') (Text.trim raw))
  ensure (isPlainHostname r = true) (.invalidRpId raw
    (text "must be a bare ASCII domain (no scheme, port, path, user info or wildcard)"))
  ensure (r.head? ≠ some '.' ∧ ∀ label ∈ r.splitOn '.', label ≠ [])
    (.invalidRpId raw (text "empty DNS label"))
  ensure (isIpLiteral r = false) (.invalidRpId raw (text "IP literals are not allowed"))
  ensure ('.' ∈ r ∨ r = text "localhost") (.invalidRpId raw
    (text "single-label RP IDs other than localhost are refused"))
  pure r

/-- `localhost` and its subdomains. -/
def isLocal (host : Str) : Bool :=
  host = text "localhost" || (text ".localhost").isSuffixOf host

variable (parseUrl : Str → Except Str OriginUrl) (sha256 : Bytes → ByteArr 32)

/-- `normalise_origin`: the browser's serialisation and the lowercase host. -/
def normaliseOrigin (raw : Str) : Except PolicyError (Str × Str) := do
  let trimmed := Text.trimEndMatches (· = '/') (Text.trim raw)
  let url ← (parseUrl trimmed).mapError (.invalidOrigin raw)
  ensure (url.username = [] ∧ url.password = none)
    (.invalidOrigin raw (text "user info is not part of an origin"))
  ensure ((url.path = [] ∨ url.path = text "/") ∧ url.query = none ∧ url.fragment = none)
    (.invalidOrigin raw (text "must be scheme://host[:port] only"))
  let hostStr ← okOr (.invalidOrigin raw (text "no host")) url.hostStr
  let host := Text.asciiLower hostStr
  ensure (isPlainHostname host = true) (.invalidOrigin raw
    (text "host must be a plain hostname (no wildcards or IP literals in brackets)"))
  ensure (url.scheme = text "https" ∨ url.scheme = text "http" ∧ isLocal host = true)
    (.invalidOrigin raw (text "scheme " ++ url.scheme ++
      text " not allowed (https, or http on localhost)"))
  pure (url.asciiOrigin, host)

/-! ## The builder -/

/-- `AssertionPolicyBuilder` -/
structure AssertionPolicyBuilder where
  entries : List RpEntry
  requireUv : Bool
  deriving DecidableEq, Repr

/-- `AssertionPolicy::builder` -/
def AssertionPolicy.builder : AssertionPolicyBuilder where
  entries := []
  requireUv := true

/-- One loop of `add_rp`, with its check of an origin and its host. -/
def collectOrigins (check : Str → Str → Str → Except PolicyError Unit) :
    List Str → List Str → Except PolicyError (List Str)
  | normalised, [] => .ok normalised
  | normalised, raw :: raws => do
      let (origin, host) ← normaliseOrigin parseUrl raw
      check raw origin host
      collectOrigins check (if origin ∈ normalised then normalised else normalised ++ [origin]) raws

/-- The check of the first loop. -/
def checkWithin (rpId _raw origin host : Str) : Except PolicyError Unit :=
  ensure (hostWithinRpId host rpId = true) (.originOutsideRpId origin rpId)

/-- The check of the second loop. -/
def checkRelated (raw _origin host : Str) : Except PolicyError Unit :=
  ensure (isIpLiteral host = false)
    (.invalidOrigin raw (text "IP literals are not allowed as related origins"))

/-- `AssertionPolicyBuilder::add_rp` -/
def AssertionPolicyBuilder.addRp (b : AssertionPolicyBuilder) (rpId : Str)
    (origins relatedOrigins : List Str) : Except PolicyError AssertionPolicyBuilder := do
  let rpId ← validateRpId rpId
  ensure (∀ e ∈ b.entries, e.rpId ≠ rpId) (.duplicateRpId rpId)
  ensure (origins ≠ [] ∨ relatedOrigins ≠ []) (.noOrigins rpId)
  let normalised ← collectOrigins parseUrl (checkWithin rpId) [] origins
  let normalised ← collectOrigins parseUrl checkRelated normalised relatedOrigins
  let entry : RpEntry :=
    { rpId, rpIdHash := sha256 (Text.utf8 rpId), origins := normalised }
  pure { b with entries := b.entries ++ [entry] }

/-- A call on the builder. -/
inductive BuilderCall where
  | rp (rpId : Str) (origins : List Str)
  | rpWithRelatedOrigins (rpId : Str) (origins relatedOrigins : List Str)
  | requireUv (on : Bool)
  deriving DecidableEq, Repr

/-- `AssertionPolicyBuilder::rp`, `rp_with_related_origins` and `require_uv` -/
def AssertionPolicyBuilder.call (b : AssertionPolicyBuilder) :
    BuilderCall → Except PolicyError AssertionPolicyBuilder
  | .rp rpId origins => b.addRp parseUrl sha256 rpId origins []
  | .rpWithRelatedOrigins rpId origins relatedOrigins =>
      b.addRp parseUrl sha256 rpId origins relatedOrigins
  | .requireUv on => .ok { b with requireUv := on }

/-- `AssertionPolicyBuilder::build` -/
def AssertionPolicyBuilder.build (b : AssertionPolicyBuilder) :
    Except PolicyError AssertionPolicy := do
  ensure (b.entries ≠ []) .noRp
  pure { entries := b.entries, requireUv := b.requireUv }

/-- A builder, a sequence of calls on it, and its policy. -/
def AssertionPolicy.ofCalls (calls : List BuilderCall) : Except PolicyError AssertionPolicy := do
  let b ← calls.foldlM (AssertionPolicyBuilder.call parseUrl sha256) AssertionPolicy.builder
  b.build

end AquaAuth
