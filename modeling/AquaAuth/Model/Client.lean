import AquaAuth.Model.Message
set_option autoImplicit false
/-!
# The login client

`client.rs` between receiving a challenge and posting a session, with the
signer it drives and the wire types it reads and writes.  A run reports the
messages it handed to the signer next to what it returned.
-/

namespace AquaAuth

open Support Support.Result

/-- `wire::ChallengeEnvelope` -/
structure ChallengeEnvelope where
  nonce : Str
  message : Str
  expiresAt : Nat
  deriving DecidableEq, Repr

/-- `wire::SessionRequest` -/
structure SessionRequest where
  did : Str
  nonce : Str
  signature : Str
  publicKey : Option Str
  deriving DecidableEq, Repr

/-- `signer::Signer`, with the answer its backend gives to each message. -/
structure Signer where
  signerDid : Str
  sign : Str → Except SignError Bytes
  publicKey : Option Bytes

/-- What the client reads of a parsed `url::Url`.  A scheme starts with a letter. -/
structure Url where
  scheme : Str
  hostStr : Option Str
  portOrKnownDefault : Option Nat
  schemeStart : scheme.head?.any Char.isAlpha = true

/-- The `url` crate. -/
structure UrlCrate where
  parse : Str → Option Url

/-- The `url` crate as far as a list of parsed URLs tells. -/
def UrlCrate.ofTable (table : List (Str × Url)) : UrlCrate where
  parse raw := (table.find? fun entry => entry.1 = raw).map Prod.snd

namespace Client

variable (B : Build) (U : UrlCrate)

/-- `origin_of` -/
def originOf (raw : Str) : Option Str := do
  let url ← U.parse raw
  let scheme := Text.asciiLower url.scheme
  let host ← url.hostStr
  let origin := scheme ++ text "://" ++ Text.asciiLower host
  match url.portOrKnownDefault with
  | some port => some (origin ++ ':' :: Text.decimal port)
  | none => some origin

/-- `uri_line`.  Only the first line with the prefix counts, empty or not. -/
def uriLine (message : Str) : Option Str :=
  ((message.splitOn '\n').findSome? fun line =>
      Text.stripPrefix (text "URI:") (Text.trimEndMatches (· = '\r') line)).map Text.trim
    |>.filter fun uri => uri ≠ []

/-- The origin of the client's own endpoint, or a placeholder no origin equals. -/
def clientOrigin (baseUrl : Str) : Str :=
  (originOf U baseUrl).getD (text "<unparsable base_url: " ++ baseUrl ++ text ">")

/-- The origin of the message's `URI` line, or a placeholder no origin equals. -/
def messageOrigin (message : Str) : Str :=
  match uriLine message with
  | none => text "<message missing URI line>"
  | some uri => (originOf U uri).getD (text "<unparsable URI line: " ++ uri ++ text ">")

/-- `verify_uri_binding` -/
def verifyUriBinding (message baseUrl : Str) : Except AuthClientError Unit :=
  ensure (messageOrigin U message = clientOrigin U baseUrl)
    (.uriOriginMismatch (messageOrigin U message) (clientOrigin U baseUrl))

/-- The checks `signed_session_request` makes before it signs. -/
def checkChallenge (message baseUrl did : Str) : Except AuthClientError Unit := do
  let method ← okOr (.auth (.crypto (.unsupportedMethod did))) (findDidMethod B did)
  let expected ← (method.addressForMessage did).mapError fun e => .auth (.crypto e)
  let actual ← okOr
    (.messageIdentifierMismatch expected (text "<message missing identifier line>"))
    (identifierFromMessage message)
  ensure (actual = expected) (.messageIdentifierMismatch expected actual)
  verifyUriBinding U message baseUrl

/-- The outcome of a run, and the messages the signer was invoked on. -/
structure Signing where
  result : Except AuthClientError SessionRequest
  signed : List Str
  deriving DecidableEq

/-- `signed_session_request` -/
def signedSessionRequest (envelope : ChallengeEnvelope) (baseUrl : Str) (signer : Signer) :
    Signing :=
  match checkChallenge B U envelope.message baseUrl signer.signerDid with
  | .error e => { result := .error e, signed := [] }
  | .ok () =>
      match signer.sign envelope.message with
      | .error e => { result := .error (.sign e.display), signed := [envelope.message] }
      | .ok sigBytes =>
          let request : SessionRequest :=
            { did := signer.signerDid
              nonce := envelope.nonce
              signature := text "0x" ++ Hex.encode sigBytes
              publicKey := signer.publicKey.map fun pk => text "0x" ++ Hex.encode pk }
          { result := .ok request, signed := [envelope.message] }

end Client

end AquaAuth
