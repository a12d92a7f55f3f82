import AquaAuth.Support.Dialogue
import AquaAuth.Model.Wire
set_option autoImplicit false
/-!
# The client's session

`client.rs` from the first request of a login on: `authenticate` and `AuthSession`, as programs that
ask an HTTP server.  Nothing is assumed of what the server answers.  A run reports the messages it
handed to the signer next to what it returned.
-/

namespace AquaAuth

open Support Support.Result

/-! ## HTTP -/

/-- `reqwest::Method`, as far as the client names one. -/
inductive HttpMethod where
  | get
  | post
  | other (name : Str)
  deriving DecidableEq, Repr

/-- `reqwest::Request` -/
structure HttpRequest where
  method : HttpMethod
  url : Str
  headers : List (Str × Str)
  body : Bytes
  deriving DecidableEq, Repr

/-- `reqwest::Response` -/
structure HttpResponse where
  status : Nat
  body : Bytes
  deriving DecidableEq, Repr

/-- `reqwest::Error`: no response, a response of an error status, or a body of another type. -/
inductive HttpError where
  | transport (reason : Str)
  | status (code : Nat)
  | decode (reason : Str)
  deriving DecidableEq, Repr

/-- What `send` gives for a request. -/
abbrev HttpReply := Except HttpError HttpResponse

/-- A program that sends HTTP requests. -/
abbrev HttpProgram := Dialogue HttpRequest HttpReply

/-- `Response::error_for_status` -/
def HttpResponse.errorForStatus (response : HttpResponse) : HttpReply :=
  if 400 ≤ response.status ∧ response.status < 600 then .error (.status response.status)
  else .ok response

/-- `error_for_status` and `json`, behind a `send`. -/
def readReply {α : Type} (J : Serde.Json) (deserialize : Serde.Value → Option α)
    (reply : HttpReply) :
    Except HttpError α := do
  let response ← reply
  let response ← response.errorForStatus
  (J.read deserialize response.body).mapError .decode

/-! ## client.rs -/

/-- `client::AuthClientError`, with the variant of the HTTP transport. -/
inductive LoginError where
  | http (error : HttpError)
  | client (error : AuthClientError)
  deriving DecidableEq, Repr

/-- How a login ends, and the messages the signer was invoked on. -/
structure LoginOutcome where
  result : Except LoginError Session
  signed : List Str
  deriving DecidableEq

namespace Client

/-- `urlencoded` -/
def urlencoded (s : Str) : Str := s.flatMap fun c => if c = ':' then text "%3A" else [c]

/-- The request for a challenge. -/
def challengeRequest (baseUrl did : Str) : HttpRequest where
  method := .get
  url := baseUrl ++ text "/auth/challenge?did=" ++ urlencoded did
  headers := []
  body := []

/-- The request for a session. -/
def sessionRequest (J : Serde.Json) (baseUrl : Str) (request : SessionRequest) : HttpRequest where
  method := .post
  url := baseUrl ++ text "/auth/session"
  headers := [(text "content-type", text "application/json")]
  body := J.toVec request.serialize

/-- The answer to a login as the session it opens. -/
def sessionOf (response : SessionResponse) : Session :=
  ⟨response.did, response.token, response.validUntil, response.createdAt⟩

variable (B : Build) (U : UrlCrate) (J : Serde.Json)

/-- `authenticate` -/
def authenticate (baseUrl : Str) (signer : Signer) : HttpProgram LoginOutcome :=
  .ask (challengeRequest baseUrl signer.signerDid) fun reply =>
    match readReply J ChallengeEnvelope.deserialize reply with
    | .error e => .done ⟨.error (.http e), []⟩
    | .ok envelope =>
        let signing := signedSessionRequest B U envelope baseUrl signer
        match signing.result with
        | .error e => .done ⟨.error (.client e), signing.signed⟩
        | .ok request =>
            .ask (sessionRequest J baseUrl request) fun reply =>
              let session := (readReply J SessionResponse.deserialize reply).map sessionOf
              .done ⟨session.mapError .http, signing.signed⟩

end Client

/-- `AuthSession`, less its HTTP client. -/
structure AuthSession where
  baseUrl : Str
  session : Session
  deriving DecidableEq

/-- What `send` calls with the base URL and the token. -/
abbrev RequestBuilder := Str → Str → HttpRequest

/-- How a `send` ends: the session held afterwards, the result and the messages the signer was
invoked on. -/
structure SendOutcome where
  held : AuthSession
  result : Except LoginError HttpResponse
  signed : List Str
  deriving DecidableEq

namespace AuthSession

variable (B : Build) (U : UrlCrate) (J : Serde.Json)

/-- `AuthSession::login` -/
def login (baseUrl : Str) (signer : Signer) : HttpProgram (Except LoginError AuthSession) :=
  (Client.authenticate B U J baseUrl signer).andThen fun outcome =>
    .done (outcome.result.map fun session => ⟨baseUrl, session⟩)

/-- The request that `build` makes for the session held. -/
def requestOf (held : AuthSession) (build : RequestBuilder) : HttpRequest :=
  build held.baseUrl held.session.token

/-- `AuthSession::send` -/
def send (held : AuthSession) (signer : Signer) (build : RequestBuilder) :
    HttpProgram SendOutcome :=
  .ask (held.requestOf build) fun first =>
    match first with
    | .error e => .done ⟨held, .error (.http e), []⟩
    | .ok response =>
        if response.status ≠ 401 then .done ⟨held, .ok response, []⟩
        else
          (Client.authenticate B U J held.baseUrl signer).andThen fun login =>
            match login.result with
            | .error e => .done ⟨held, .error e, login.signed⟩
            | .ok session =>
                let held : AuthSession := { held with session }
                .ask (held.requestOf build) fun second =>
                  .done ⟨held, second.mapError .http, login.signed⟩

/-- One `send` after another. -/
def sendAll (held : AuthSession) (signer : Signer) :
    List RequestBuilder → HttpProgram (List SendOutcome)
  | [] => .done []
  | build :: builds =>
      (held.send B U J signer build).andThen fun outcome =>
        (outcome.held.sendAll signer builds).andThen fun outcomes => .done (outcome :: outcomes)

/-- A client: a login, and when it succeeds one `send` after another. -/
def client (baseUrl : Str) (signer : Signer) (builds : List RequestBuilder) :
    HttpProgram (LoginOutcome × List SendOutcome) :=
  (Client.authenticate B U J baseUrl signer).andThen fun login =>
    match login.result with
    | .error _ => .done (login, [])
    | .ok session =>
        (sendAll B U J ⟨baseUrl, session⟩ signer builds).andThen fun outcomes =>
          .done (login, outcomes)

end AuthSession

end AquaAuth
