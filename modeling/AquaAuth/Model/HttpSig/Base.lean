import AquaAuth.Support.StructuredField
import AquaAuth.Model.Principal
set_option autoImplicit false
/-!
# The signature base

`http_sig/base.rs`, with the request and the algorithm names of `http_sig/mod.rs`.
The `sfv` crate is a parameter.
-/

namespace AquaAuth

open Support Support.Result Support.StructuredField

/-- The `sfv` crate: a list of one inner list, dictionaries of one member, and the
dictionary parser.  Errors are the texts they display. -/
structure Sfv where
  serializeList : InnerList → Option Str
  serializeDictInnerList : Key → InnerList → Option Str
  serializeDictBytes : Key → Bytes → Option Str
  parseDictionary : Str → Except Str Dictionary
  keyError : Str → Str
  stringError : Str → Str
  integerError : Int → Str

/-- The reference serializer and parser in the place of the crate. -/
def Sfv.reference : Sfv where
  serializeList := serializeInnerList
  serializeDictInnerList := StructuredField.serializeDictInnerList
  serializeDictBytes := StructuredField.serializeDictBytes
  parseDictionary s := okOr (text "invalid structured field") (StructuredField.parseDictionary s)
  keyError _ := text "invalid key"
  stringError _ := text "invalid string"
  integerError _ := text "out of range"

namespace HttpSig

/-! ## mod.rs -/

/-- `RequestParts`, less the method, which the profile does not cover. -/
structure RequestParts where
  targetUri : Str
  signatureAgent : Option Str
  deriving DecidableEq, Repr

/-- `SIGNATURE_LABEL` -/
def signatureLabel : Str := text "sig1"

/-- `TAG_AQUA_INTERNAL` -/
def tagAquaInternal : Str := text "aqua-auth"

/-- `TAG_WEB_BOT_AUTH` -/
def tagWebBotAuth : Str := text "web-bot-auth"

/-- `ALG_ED25519` -/
def algEd25519 : Str := text "ed25519"

/-- `ALG_ECDSA_P256_SHA256` -/
def algEcdsaP256Sha256 : Str := text "ecdsa-p256-sha256"

/-- `ALG_EIP191_SECP256K1` -/
def algEip191Secp256k1 : Str := text "eip191-secp256k1"

/-- `alg_for_did` -/
def algForDid (B : Build) (did : Str) : Except HttpSigError Str := do
  let method ← okOr (.crypto (.unsupportedMethod did)) (findDidMethod B did)
  let label ← (method.methodLabel did).mapError .crypto
  if label = text "Ed25519" then pure algEd25519
  else if label = text "P-256" then pure algEcdsaP256Sha256
  else if label = text "Ethereum" then pure algEip191Secp256k1
  else .error (.crypto (.unsupportedMethod label))

/-! ## base.rs -/

/-- `COMPONENT_AUTHORITY` -/
def componentAuthority : Str := text "@authority"

/-- `COMPONENT_SIGNATURE_AGENT` -/
def componentSignatureAgent : Str := text "signature-agent"

/-- `COMPONENT_SIGNATURE_PARAMS` -/
def componentSignatureParams : Str := text "@signature-params"

/-- `ALLOWED_COMPONENTS` -/
def allowedComponents : List Str := [componentAuthority, componentSignatureAgent]

/-- `PARAM_ORDER`, each name as a structured-field key. -/
def keyCreated : Key := ⟨text "created", by decide⟩
def keyExpires : Key := ⟨text "expires", by decide⟩
def keyKeyid : Key := ⟨text "keyid", by decide⟩
def keyAlg : Key := ⟨text "alg", by decide⟩
def keyNonce : Key := ⟨text "nonce", by decide⟩
def keyTag : Key := ⟨text "tag", by decide⟩

def paramOrder : List Key := [keyCreated, keyExpires, keyKeyid, keyAlg, keyNonce, keyTag]

/-- `SignatureParams` -/
structure SignatureParams where
  covered : List Str
  created : Int
  expires : Int
  keyid : Str
  alg : Str
  nonce : Str
  tag : Str
  deriving DecidableEq, Repr

/-- `covered_components` -/
def coveredComponents (parts : RequestParts) : List Str :=
  if parts.signatureAgent.isSome then [componentAuthority, componentSignatureAgent]
  else [componentAuthority]

/-- `str::parse::<u16>`: an optional plus sign, then decimal digits. -/
def parseU16 (s : Str) : Option Nat :=
  let digits := match s with
    | '+' :: c :: rest => c :: rest
    | s => s
  if digits = [] ∨ digits.any (fun c => !c.isDigit) = true then none
  else
    let n := Nat.ofDigitChars 10 digits 0
    if n < 65536 then some n else none

/-- The port an `http` or `https` URI has when it names none. -/
def defaultPort (scheme : Str) : Except HttpSigError Nat :=
  if scheme = text "http" then pure 80
  else if scheme = text "https" then pure 443
  else .error (.unsupportedScheme scheme)

/-- Host and port of an authority without user information. -/
def splitHostPort (targetUri authority : Str) : Except HttpSigError (Str × Option Str) :=
  match Text.rsplitOnceChar ']' authority with
  | some (before, tail) =>
      if authority.head? = some '[' then
        let host := before ++ [']']
        match tail with
        | [] => pure (host, none)
        | ':' :: port => pure (host, some port)
        | _ => .error (.invalidTargetUri targetUri)
      else .error (.invalidTargetUri targetUri)
  | none =>
      match Text.splitOnceChar ':' authority with
      | some (host, port) => pure (host, some port)
      | none => pure (authority, none)

/-- The authority of what follows `://`, less its user information. -/
def hostPortText (rest : Str) : Str :=
  Text.lastSegment '@' (rest.takeWhile fun c => !(c = '/' || c = '?' || c = '#'))

/-- `authority_from_uri` -/
def authorityFromUri (targetUri : Str) : Except HttpSigError Str := do
  let (scheme, rest) ← okOr (.invalidTargetUri targetUri)
    (Text.splitOnce (text "://") targetUri)
  let port₀ ← defaultPort (Text.asciiLower scheme)
  let authority := hostPortText rest
  ensure (authority ≠ []) (.invalidTargetUri targetUri)
  let (host, port) ← splitHostPort targetUri authority
  let host := Text.asciiLower host
  ensure (host ≠ [] ∧ host ≠ text "[]") (.invalidTargetUri targetUri)
  match port with
  | none => pure host
  | some port => do
      let port ← okOr (.invalidTargetUri targetUri) (parseU16 port)
      if port = port₀ then pure host else pure (host ++ ':' :: Text.decimal port)

/-- `component_value` -/
def componentValue (name : Str) (parts : RequestParts) : Except HttpSigError Str :=
  if name = componentAuthority then authorityFromUri parts.targetUri
  else if name = componentSignatureAgent then do
    let raw ← okOr (.missingComponent name) parts.signatureAgent
    let value := Text.trim raw
    ensure (value ≠ []) (.missingComponent name)
    ensure ('\r' ∉ value ∧ '\n' ∉ value)
      (.invalidComponentValue name (text "value contains a line break"))
    pure value
  else .error (.unsupportedComponent name)

/-! ### Structured fields -/

variable (S : Sfv)

/-- `sf_key` -/
def sfKey (name : Str) : Except HttpSigError Key :=
  if h : isKey name = true then .ok ⟨name, h⟩ else .error (.structuredField (S.keyError name))

/-- `sf_string` -/
def sfString (value : Str) : Except HttpSigError SfString :=
  if h : value.all isStringChar = true then .ok ⟨value, h⟩
  else .error (.structuredField (S.stringError value))

/-- `sf_integer` -/
def sfInteger (value : Int) : Except HttpSigError SfInteger :=
  if h : value.natAbs ≤ maxInteger then .ok ⟨value, h⟩
  else .error (.structuredField
    (Text.decimalInt value ++ text " is not a valid integer: " ++ S.integerError value))

/-- The six parameters, under their keys in order. -/
def sixParameters (created expires : SfInteger) (keyid alg nonce tag : SfString) : Parameters where
  entries := [(keyCreated, .integer created), (keyExpires, .integer expires),
    (keyKeyid, .string keyid), (keyAlg, .string alg), (keyNonce, .string nonce),
    (keyTag, .string tag)]
  nodup := by
    simp only [List.map_cons, List.map_nil]
    decide

/-- `write_params_inner_list` -/
def paramsInnerList (params : SignatureParams) : Except HttpSigError InnerList := do
  let names ← params.covered.mapM (sfString S)
  let created ← sfInteger S params.created
  let expires ← sfInteger S params.expires
  let keyid ← sfString S params.keyid
  let alg ← sfString S params.alg
  let nonce ← sfString S params.nonce
  let tag ← sfString S params.tag
  pure
    { items := names.map fun name => ⟨.string name, .empty⟩
      params := sixParameters created expires keyid alg nonce tag }

/-- `serialize_signature_params` -/
def serializeSignatureParams (params : SignatureParams) : Except HttpSigError Str := do
  let inner ← paramsInnerList S params
  okOr (.structuredField (text "empty signature parameters")) (S.serializeList inner)

/-- `signature_input_header` -/
def signatureInputHeader (label : Str) (params : SignatureParams) : Except HttpSigError Str := do
  let key ← sfKey S label
  let inner ← paramsInnerList S params
  okOr (.structuredField (text "empty Signature-Input")) (S.serializeDictInnerList key inner)

/-- `signature_header` -/
def signatureHeader (label : Str) (signature : Bytes) : Except HttpSigError Str := do
  let key ← sfKey S label
  okOr (.structuredField (text "empty Signature")) (S.serializeDictBytes key signature)

/-! ### The base -/

/-- A component line, with its line feed. -/
def componentLine (name value : Str) : Str := '"' :: name ++ text "\": " ++ value ++ ['\n']

/-- The component lines after the components in `seen`. -/
def componentLines (parts : RequestParts) (seen : List Str) :
    List Str → Except HttpSigError Str
  | [] => do
      ensure (componentAuthority ∈ seen) (.missingComponent componentAuthority)
      pure []
  | name :: names => do
      ensure (name ∈ allowedComponents) (.unsupportedComponent name)
      ensure (name ∉ seen) (.duplicateComponent name)
      let value ← componentValue name parts
      let lines ← componentLines parts (seen ++ [name]) names
      pure (componentLine name value ++ lines)

/-- The last line, without a line feed. -/
def paramsLine (serialized : Str) : Str :=
  '"' :: componentSignatureParams ++ text "\": " ++ serialized

/-- `build_signature_base` -/
def buildSignatureBase (parts : RequestParts) (params : SignatureParams) :
    Except HttpSigError Str := do
  let lines ← componentLines parts [] params.covered
  let serialized ← serializeSignatureParams S params
  let out := lines ++ paramsLine serialized
  ensure (Text.isAscii out = true) .nonAsciiBase
  pure out

/-- `check_signature_agent_coverage` -/
def checkSignatureAgentCoverage (parts : RequestParts) (covered : List Str) :
    Except HttpSigError Unit :=
  match parts.signatureAgent.isSome, decide (componentSignatureAgent ∈ covered) with
  | true, false => .error (.malformedSignatureInput
      (text "request carries a Signature-Agent header that the signature does not cover"))
  | false, true => .error (.missingComponent componentSignatureAgent)
  | _, _ => .ok ()

end HttpSig

end AquaAuth
