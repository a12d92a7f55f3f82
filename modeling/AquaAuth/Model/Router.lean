import AquaAuth.Model.AuthSession
set_option autoImplicit false
/-!
# The server's routes

The router of the test peer, one request after another: the login and `whoami` handlers behind the
paths they are mounted on, with the JSON bodies and the statuses a client sees.  A header is found
under its name in small letters.  The handlers as threads beside each other are in `Model/Peer`.
-/

namespace AquaAuth

open Support Support.Result Support.Serde

/-! ## The handlers -/

/-- What one request draws from the server's surroundings. -/
structure RouterDraws where
  challenge : ChallengeDraws
  /-- The reading of the `validate` of either store. -/
  readAt : Nat
  session : SessionDraws

/-- `PeerState`, less what the signed routes use, with what the requests to come draw. -/
structure Router where
  challenges : ChallengeStore
  sessions : SessionStore
  draws : Nat → RouterDraws

/-- What a handler answers: nothing when it panics. -/
abbrev Answer (α : Type) := Option (Except StatusCode α)

/-- `StatusCode::as_u16` -/
def StatusCode.code : StatusCode → Nat
  | .badRequest => 400
  | .unauthorized => 401
  | .notFound => 404
  | .serviceUnavailable => 503

namespace Router

variable (B : Build) (overflowChecks : Bool)

/-- What the next request draws. -/
def now (router : Router) : RouterDraws := router.draws 0

/-- The router once the next request has its draws. -/
def advance (router : Router) : Router :=
  { router with draws := fun n => router.draws (n + 1) }

/-- `challenge_handler` -/
def challengeHandler (router : Router) (did : Option Str) : Answer ChallengeEnvelope × Router :=
  match did with
  | none => (some (.error .badRequest), router)
  | some did =>
      match findDidMethod B did with
      | none => (some (.error .badRequest), router)
      | some _ =>
          let created := router.challenges.create B did router.now.challenge
          (created.1.map fun result =>
              (result.mapError fun _ => .badRequest).map fun challenge =>
                ⟨challenge.nonce, challenge.message, challenge.expiresAt⟩,
            { router with challenges := created.2 })

/-- The end of `session_handler`, for a request it has authorised. -/
def openSession (router : Router) (did : Str) : Answer SessionResponse × Router :=
  let created := router.sessions.create overflowChecks did router.now.session
  (created.1.map fun result =>
      (result.mapError fun _ => .serviceUnavailable).map fun session =>
        ⟨session.did, session.token, session.validUntil, session.createdAt⟩,
    { router with sessions := created.2 })

/-- `session_handler` -/
def sessionHandler (router : Router) (request : SessionRequest) : Answer SessionResponse × Router :=
  let validated := router.challenges.validate request.nonce router.now.readAt
  let router := { router with challenges := validated.2 }
  match validated.1 with
  | .error .challengeNotFound => (some (.error .notFound), router)
  | .error _ => (some (.error .unauthorized), router)
  | .ok stored =>
      match authorise B request stored with
      | .error status => (some (.error status), router)
      | .ok principal => router.openSession overflowChecks principal.did

/-- `bearer_token` -/
def bearerToken (request : HttpRequest) : Option Str :=
  request.headers.lookup (text "authorization") >>= Text.stripPrefix (text "Bearer ")

/-- `whoami_handler` -/
def whoamiHandler (router : Router) (request : HttpRequest) : Answer Str × Router :=
  match bearerToken request with
  | none => (some (.error .unauthorized), router)
  | some token =>
      let validated := router.sessions.validate token router.now.readAt
      (some (validated.1.mapError fun _ => .unauthorized), { router with sessions := validated.2 })

end Router

/-! ## The routes -/

/-- `form_urlencoded::parse`: the pairs of a query string. -/
structure FormCrate where
  parse : Str → List (Str × Str)

/-- `Query<ChallengeQuery>`: a repeated field is refused. -/
def FormCrate.challengeQuery (F : FormCrate) (query : Str) : Except StatusCode (Option Str) :=
  match (F.parse query).filter fun pair => pair.1 = text "did" with
  | [] => .ok none
  | [pair] => .ok (some pair.2)
  | _ => .error .badRequest

/-- The reply to a request whose extractors let it through. -/
def replyJson {α : Type} (J : Serde.Json) (serialize : α → Value) : Answer α → HttpReply
  | none => .error (.transport (text "connection closed before message completed"))
  | some (.error status) => .ok ⟨status.code, []⟩
  | some (.ok a) => .ok ⟨200, J.toVec (serialize a)⟩

/-- `Json<SessionRequest>`, with the status of each rejection.  The content type is read as exactly
`application/json`; axum also takes it with parameters, and types that end in `+json`. -/
def readJson (J : Serde.Json) (request : HttpRequest) : Except Nat SessionRequest := do
  ensure (request.headers.lookup (text "content-type") = some (text "application/json")) 415
  let value ← (J.fromSlice request.body).mapError fun _ => 400
  okOr 422 (SessionRequest.deserialize value)

/-- The body of `whoami`. -/
def whoamiBody (did : Str) : Value := .object [(text "did", .string did)]

/-- The path of a request target and its query. -/
def splitTarget (target : Str) : Str × Str := (Text.splitOnceChar '?' target).getD (target, [])

namespace Router

variable (B : Build) (F : FormCrate) (J : Serde.Json) (overflowChecks : Bool)

/-- `AquaPeer::router`, less the signed `whoami` and the directory. -/
def route (router : Router) (request : HttpRequest) (path query : Str) : HttpReply × Router :=
  if path = text "/auth/challenge" then
    if request.method ≠ .get then (.ok ⟨405, []⟩, router)
    else
      match F.challengeQuery query with
      | .error status => (.ok ⟨status.code, []⟩, router)
      | .ok did =>
          let answered := router.challengeHandler B did
          (replyJson J ChallengeEnvelope.serialize answered.1, answered.2)
  else if path = text "/auth/session" then
    if request.method ≠ .post then (.ok ⟨405, []⟩, router)
    else
      match readJson J request with
      | .error status => (.ok ⟨status, []⟩, router)
      | .ok session =>
          let answered := router.sessionHandler B overflowChecks session
          (replyJson J SessionResponse.serialize answered.1, answered.2)
  else if path = text "/whoami" then
    if request.method ≠ .get then (.ok ⟨405, []⟩, router)
    else
      let answered := router.whoamiHandler request
      (replyJson J whoamiBody answered.1, answered.2)
  else (.ok ⟨404, []⟩, router)

/-- The server at its base URL. -/
def serve (baseUrl : Str) : Dialogue.Environment Router HttpRequest HttpReply :=
  fun router request =>
    match Text.stripPrefix baseUrl request.url with
    | none => (.error (.transport (text "connection refused")), router)
    | some target =>
        let (path, query) := splitTarget target
        let answered := router.route B F J overflowChecks request path query
        (answered.1, answered.2.advance)

end Router

/-- What a test client builds for each token: `GET /whoami` with the bearer token. -/
def whoamiRequest : RequestBuilder := fun baseUrl token =>
  { method := .get
    url := baseUrl ++ text "/whoami"
    headers := [(text "authorization", text "Bearer " ++ token)]
    body := [] }

end AquaAuth
