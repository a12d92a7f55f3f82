import AquaAuth.Model.Router
import AquaAuth.Proofs.AuthSession
import AquaAuth.Proofs.Expiry
import AquaAuth.Proofs.HonestLogin
set_option autoImplicit false
/-!
# Clients on the server's routes

The client of `client.rs` against the router of the test peer: it logs in, and every `whoami` it
sends is answered with its own DID, over a new login wherever the token of the last one has lapsed.
-/

namespace AquaAuth

open Support Support.Result Support.Serde

/-! ## The stores -/

/-- The parameters of the message a challenge is issued with. -/
def ChallengeStore.messageParams (store : ChallengeStore) (did : Str) (draws : ChallengeDraws)
    (expires : DateTime) : MessageParams where
  did := did
  domain := store.domain
  uri := store.uri
  nonce := ChallengeStore.nonceOf draws.nonceBytes
  issuedAt := draws.now.1
  expirationTime := expires

/-- A challenge for a DID that names its chain is issued whatever the store holds. -/
theorem ChallengeStore.create_of_inCalendar {B : Build} {store : ChallengeStore} {did : Str}
    {draws : ChallengeDraws} (hvalid : validateDidWellFormed B did = .ok ())
    (hchain : ¬ NamesNoChain did) (hin : InCalendar store.ttlSecs draws.now) :
    ∃ expires message challenges, store.expiry draws.now = some expires ∧
      buildMessage B (store.messageParams did draws expires) = .ok message ∧
      store.create B did draws =
        (some (.ok ⟨did, nonceOf draws.nonceBytes, message, draws.now.secs + store.ttlSecs⟩),
          { store with challenges }) ∧
      challenges.get (nonceOf draws.nonceBytes) =
        some ⟨did, nonceOf draws.nonceBytes, message, draws.now.secs + store.ttlSecs⟩ := by
  obtain ⟨expires, hexpires, htimestamp⟩ := expiry_of_inCalendar hin
  have hvalid' : validateDidWellFormed B (store.messageParams did draws expires).did = .ok () :=
    hvalid
  obtain ⟨message, hmessage⟩ := (buildMessage_isOk_iff_namesChain hvalid').mpr hchain
  have hends : asU64 expires.timestamp = draws.now.secs + store.ttlSecs := by
    have hlast := expires.inRange.2
    rw [htimestamp, ← Nat.cast_add]
    exact asU64_eq (by omega)
  obtain ⟨challenges, hroom⟩ : ∃ challenges, store.makeRoom draws.purgeAt.secs =
      { store with challenges } := ⟨_, makeRoom_eq store draws.purgeAt.secs⟩
  have hbuilt : challengeFor B { store with challenges } did draws.nonceBytes draws.now expires =
      .ok ⟨did, nonceOf draws.nonceBytes, message, draws.now.secs + store.ttlSecs⟩ := by
    rw [← hends]
    exact bind_eq_ok.mpr ⟨message, hmessage, rfl⟩
  have hsame : expiry { store with challenges } draws.now = some expires := hexpires
  let challenge : Challenge :=
    ⟨did, nonceOf draws.nonceBytes, message, draws.now.secs + store.ttlSecs⟩
  refine ⟨expires, message, challenges.insert challenge.nonce challenge, hexpires, hmessage, ?_,
    KeyedMap.get_insert_self _ _ _⟩
  rw [create, hvalid]
  simp only [hroom, issue, hsame, hbuilt]
  rfl

/-- A session is opened while the store has room, and is the one its token stands for. -/
theorem SessionStore.create_of_room (overflowChecks : Bool) {store : SessionStore} (did : Str)
    {draws : SessionDraws} (hroom : store.backend.len < store.maxSessions)
    (hends : draws.now + store.ttlSecs < 2 ^ 64) :
    ∃ backend session, store.create overflowChecks did draws =
        (some (.ok session), { store with backend }) ∧
      session = ⟨did, tokenOf draws.tokenBytes, draws.now + store.ttlSecs, draws.now⟩ ∧
      backend.get session.token = some session ∧ backend.len ≤ store.backend.len + 1 := by
  have hfull : store.isFull = false := by
    rw [isFull, decide_eq_false_iff_not]
    omega
  obtain ⟨backend, hcap, hlen⟩ : ∃ backend, store.enforcePerDidCap did = { store with backend } ∧
      backend.len ≤ store.backend.len := by
    unfold enforcePerDidCap evict
    cases store.overQuota (store.backend.sessionsForDid did) with
    | none => exact ⟨store.backend, rfl, le_rfl⟩
    | some oldest =>
        refine ⟨store.backend.erase oldest.token, rfl, ?_⟩
        rw [InMemoryBackend.erase_eq_retain]
        exact InMemoryBackend.len_retain_le _
  let session : Session :=
    ⟨did, tokenOf draws.tokenBytes, draws.now + store.ttlSecs, draws.now⟩
  refine ⟨backend.insert session, session, ?_, rfl, ?_, InMemoryBackend.len_insert_le.trans ?_⟩
  · rw [create, hfull, admitDid, hcap, issue, addU64_of_lt hends]
    rfl
  · rw [InMemoryBackend.get_insert, if_pos rfl]
  · omega

/-! ## The routes -/

theorem splitTarget_query {path : Str} (query : Str) (h : '?' ∉ path) :
    splitTarget (path ++ '?' :: query) = (path, query) := by
  rw [splitTarget, Text.splitOnceChar_eq_some.mpr ⟨rfl, h⟩, Option.getD_some]

theorem splitTarget_path {path : Str} (h : '?' ∉ path) : splitTarget path = (path, []) := by
  rw [splitTarget, Text.splitOnceChar_eq_none.mpr h, Option.getD_none]

namespace Router

variable {B : Build} {U : UrlCrate} {F : FormCrate} {J : Serde.Json} {overflowChecks : Bool}
  {baseUrl : Str} {signer : Signer} {router router' router'' : Router}

theorem serve_challenge {did : Str}
    (hquery : F.parse (text "did=" ++ Client.urlencoded did) = [(text "did", did)]) :
    serve B F J overflowChecks baseUrl router (Client.challengeRequest baseUrl did) =
      (replyJson J ChallengeEnvelope.serialize (router.challengeHandler B (some did)).1,
        (router.challengeHandler B (some did)).2.advance) := by
  have hpath : text "/auth/challenge?did=" = text "/auth/challenge" ++ '?' :: text "did=" := rfl
  have hstrip : Text.stripPrefix baseUrl (Client.challengeRequest baseUrl did).url =
      some (text "/auth/challenge" ++ '?' :: (text "did=" ++ Client.urlencoded did)) := by
    rw [Client.challengeRequest, hpath, List.append_assoc, List.append_assoc, List.cons_append]
    exact Text.stripPrefix_append _ _
  have hparsed : F.challengeQuery (text "did=" ++ Client.urlencoded did) = .ok (some did) := by
    simp [FormCrate.challengeQuery, hquery]
  have hget : (Client.challengeRequest baseUrl did).method = .get := rfl
  rw [serve, hstrip]
  simp only [splitTarget_query _ (show '?' ∉ text "/auth/challenge" by decide), route, hget,
    if_true, ne_eq, not_true_eq_false, if_false, hparsed]

theorem readJson_sessionRequest (hJ : J.Faithful) (request : SessionRequest) :
    readJson J (Client.sessionRequest J baseUrl request) = .ok request := by
  obtain ⟨value, hvalue, hread⟩ := bind_eq_ok.mp (request.travels hJ).readBack
  rw [okOr_eq_ok] at hread
  have htype : (Client.sessionRequest J baseUrl request).headers.lookup (text "content-type") =
      some (text "application/json") := by
    simp [Client.sessionRequest]
  have hbody : J.fromSlice (Client.sessionRequest J baseUrl request).body = .ok value := hvalue
  rw [readJson, ensure_pos htype, ok_bind, hbody]
  show okOr 422 (SessionRequest.deserialize value) = _
  rw [hread, okOr_some]

theorem serve_session (hJ : J.Faithful) (request : SessionRequest) :
    serve B F J overflowChecks baseUrl router (Client.sessionRequest J baseUrl request) =
      (replyJson J SessionResponse.serialize (router.sessionHandler B overflowChecks request).1,
        (router.sessionHandler B overflowChecks request).2.advance) := by
  have hstrip : Text.stripPrefix baseUrl (Client.sessionRequest J baseUrl request).url =
      some (text "/auth/session") := Text.stripPrefix_append _ _
  have hpost : (Client.sessionRequest J baseUrl request).method = .post := rfl
  have hother : text "/auth/session" ≠ text "/auth/challenge" := by decide
  rw [serve, hstrip]
  simp only [splitTarget_path (show '?' ∉ text "/auth/session" by decide), route, hpost,
    if_neg hother, if_true, ne_eq, not_true_eq_false, if_false, readJson_sessionRequest hJ]

/-- The answer to a `whoami`: what the session store says of the token. -/
theorem serve_whoami (token : Str) :
    serve B F J overflowChecks baseUrl router (whoamiRequest baseUrl token) =
      (replyJson J whoamiBody (some ((router.sessions.validate token router.now.readAt).1.mapError
          fun _ => .unauthorized)),
        advance
          { router with sessions := (router.sessions.validate token router.now.readAt).2 }) := by
  have hstrip : Text.stripPrefix baseUrl (whoamiRequest baseUrl token).url =
      some (text "/whoami") := Text.stripPrefix_append _ _
  have hget : (whoamiRequest baseUrl token).method = .get := rfl
  have hchallenge : text "/whoami" ≠ text "/auth/challenge" := by decide
  have hsession : text "/whoami" ≠ text "/auth/session" := by decide
  have hheader : (whoamiRequest baseUrl token).headers.lookup (text "authorization") =
      some (text "Bearer " ++ token) := by
    simp [whoamiRequest]
  have hbearer : bearerToken (whoamiRequest baseUrl token) = some token := by
    rw [bearerToken, hheader]
    exact Text.stripPrefix_append _ _
  rw [serve, hstrip]
  simp only [splitTarget_path (show '?' ∉ text "/whoami" by decide), route, hget,
    if_neg hchallenge, if_neg hsession, if_true, ne_eq, not_true_eq_false, if_false, whoamiHandler,
    hbearer]

/-! ## Honest clients -/

/-- What an honest client relies on: a DID the endpoint admits and a query carries, a signer the
server authenticates over what it is told to sign, a server that names the client's own origin, and
clocks that leave every challenge and every session until the request after it. -/
structure Dependable (B : Build) (U : UrlCrate) (F : FormCrate) (router : Router) (baseUrl : Str)
    (signer : Signer) : Prop where
  wellFormed : validateDidWellFormed B signer.signerDid = .ok ()
  namesChain : ¬ NamesNoChain signer.signerDid
  query : F.parse (text "did=" ++ Client.urlencoded signer.signerDid) =
    [(text "did", signer.signerDid)]
  signs : ∀ n expires message,
    router.challenges.expiry (router.draws n).challenge.now = some expires →
    buildMessage B (router.challenges.messageParams signer.signerDid (router.draws n).challenge
      expires) = .ok message →
    ∃ signature, signer.sign message = .ok signature ∧ Authenticates B signer message signature
  domainLine : '\n' ∉ router.challenges.domain
  domainStart : ¬ text "URI:" <+: router.challenges.domain
  uriLine : '\n' ∉ router.challenges.uri
  uriTrimmed : Text.Trimmed router.challenges.uri
  uriNonempty : router.challenges.uri ≠ []
  origin : ∃ origin, Client.originOf U router.challenges.uri = some origin ∧
    Client.originOf U baseUrl = some origin
  inCalendar : ∀ n, InCalendar router.challenges.ttlSecs (router.draws n).challenge.now
  answered : ∀ n, (router.draws (n + 1)).readAt <
    (router.draws n).challenge.now.secs + router.challenges.ttlSecs
  ends : ∀ n, (router.draws n).session.now + router.sessions.ttlSecs < 2 ^ 64
  used : ∀ n, (router.draws (n + 1)).readAt <
    (router.draws n).session.now + router.sessions.ttlSecs

/-- The same server after `k` requests. -/
structure Follows (router' router : Router) (k : Nat) : Prop where
  domain : router'.challenges.domain = router.challenges.domain
  uri : router'.challenges.uri = router.challenges.uri
  challengeTtl : router'.challenges.ttlSecs = router.challenges.ttlSecs
  sessionTtl : router'.sessions.ttlSecs = router.sessions.ttlSecs
  maxSessions : router'.sessions.maxSessions = router.sessions.maxSessions
  draws : ∀ n, router'.draws n = router.draws (n + k)

theorem Follows.trans {j k : Nat} (h : router''.Follows router' j) (h' : router'.Follows router k) :
    router''.Follows router (j + k) where
  domain := h.domain.trans h'.domain
  uri := h.uri.trans h'.uri
  challengeTtl := h.challengeTtl.trans h'.challengeTtl
  sessionTtl := h.sessionTtl.trans h'.sessionTtl
  maxSessions := h.maxSessions.trans h'.maxSessions
  draws n := by rw [h.draws, h'.draws, Nat.add_assoc]

/-- A client relies on the same server after some requests. -/
theorem Dependable.follows {k : Nat} (h : Dependable B U F router baseUrl signer)
    (hfollows : router'.Follows router k) : Dependable B U F router' baseUrl signer := by
  have hexpiry : ∀ now, router'.challenges.expiry now = router.challenges.expiry now := by
    intro now
    rw [ChallengeStore.expiry, ChallengeStore.expiry, hfollows.challengeTtl]
  have hparams : ∀ draws expires,
      router'.challenges.messageParams signer.signerDid draws expires =
        router.challenges.messageParams signer.signerDid draws expires := by
    intro draws expires
    rw [ChallengeStore.messageParams, ChallengeStore.messageParams, hfollows.domain, hfollows.uri]
  obtain ⟨wellFormed, namesChain, query, signs, domainLine, domainStart, uriLine, uriTrimmed,
    uriNonempty, origin, inCalendar, answered, ends, used⟩ := h
  rw [← hfollows.domain] at domainLine domainStart
  rw [← hfollows.uri] at uriLine uriTrimmed uriNonempty origin
  rw [← hfollows.challengeTtl] at inCalendar answered
  rw [← hfollows.sessionTtl] at ends used
  refine ⟨wellFormed, namesChain, query, ?_, domainLine, domainStart, uriLine, uriTrimmed,
    uriNonempty, origin, ?_, ?_, ?_, ?_⟩
  · intro n expires message hexpires hmessage
    rw [hfollows.draws, hexpiry] at hexpires
    rw [hfollows.draws, hparams] at hmessage
    exact signs (n + k) expires message hexpires hmessage
  · intro n
    rw [hfollows.draws]
    exact inCalendar (n + k)
  · intro n
    rw [hfollows.draws, hfollows.draws, Nat.add_right_comm]
    exact answered (n + k)
  · intro n
    rw [hfollows.draws]
    exact ends (n + k)
  · intro n
    rw [hfollows.draws, hfollows.draws, Nat.add_right_comm]
    exact used (n + k)

/-- The server's answer to a request for a challenge, and what the client makes of it. -/
theorem challengeHandler_dependable (h : Dependable B U F router baseUrl signer) :
    ∃ envelope challenges stored, router.challengeHandler B (some signer.signerDid) =
        (some (.ok envelope), { router with challenges := { router.challenges with challenges } }) ∧
      envelope.expiresAt < 2 ^ 64 ∧
      Client.checkChallenge B U envelope.message baseUrl signer.signerDid = .ok () ∧
      (∃ signature, signer.sign envelope.message = .ok signature ∧
        Authenticates B signer envelope.message signature) ∧
      challenges.get envelope.nonce = some stored ∧ stored.did = signer.signerDid ∧
      stored.message = envelope.message ∧ (router.draws 1).readAt < stored.expiresAt := by
  obtain ⟨expires, message, challenges, hexpires, hmessage, hcreate, hget⟩ :=
    ChallengeStore.create_of_inCalendar h.wellFormed h.namesChain (h.inCalendar 0)
  obtain ⟨method, hmethod⟩ : ∃ m, findDidMethod B signer.signerDid = some m :=
    findDidMethod_of_wellFormed h.wellFormed
  have hminted : Client.Minted B (router.challenges.messageParams signer.signerDid
      (router.draws 0).challenge expires) message :=
    ⟨hmessage, h.wellFormed, h.domainLine, h.domainStart, h.uriLine, h.uriTrimmed, h.uriNonempty⟩
  let envelope : ChallengeEnvelope :=
    ⟨ChallengeStore.nonceOf (router.draws 0).challenge.nonceBytes, message,
      (router.draws 0).challenge.now.secs + router.challenges.ttlSecs⟩
  refine ⟨envelope, challenges, _, ?_, ?_,
    (Client.checkChallenge_minted_iff hminted).mpr ⟨rfl, h.origin⟩,
    h.signs 0 expires message hexpires hmessage, hget, rfl, rfl, h.answered 0⟩
  · simp only [challengeHandler, hmethod, now, hcreate]
    rfl
  · have hsmall := h.inCalendar 0
    unfold InCalendar DateTime.lastSecond at hsmall
    show (router.draws 0).challenge.now.secs + router.challenges.ttlSecs < 2 ^ 64
    omega

/-- The server's answer to the request a client makes of its challenge. -/
theorem sessionHandler_signed (overflowChecks : Bool) (router : Router) (request : SessionRequest)
    {stored : Challenge} {principal : Principal B}
    (hget : router.challenges.challenges.get request.nonce = some stored)
    (hlive : router.now.readAt < stored.expiresAt)
    (hauth : authorise B request stored = .ok principal)
    (hroom : router.sessions.backend.len < router.sessions.maxSessions)
    (hends : router.now.session.now + router.sessions.ttlSecs < 2 ^ 64) :
    ∃ session backend, router.sessionHandler B overflowChecks request =
        (some (.ok ⟨session.did, session.token, session.validUntil, session.createdAt⟩),
          { router with
            challenges := { router.challenges with
              challenges := router.challenges.challenges.remove request.nonce }
            sessions := { router.sessions with backend } }) ∧
      session.did = principal.did ∧ backend.get session.token = some session ∧
      session.validUntil = router.now.session.now + router.sessions.ttlSecs ∧
      session.createdAt = router.now.session.now ∧
      backend.len ≤ router.sessions.backend.len + 1 := by
  obtain ⟨backend, session, hcreate, hsession, hstored, hlen⟩ :=
    SessionStore.create_of_room overflowChecks principal.did hroom hends
  have hunexpired : ChallengeStore.checkExpiry stored router.now.readAt = .ok stored := by
    rw [ChallengeStore.checkExpiry, if_neg (by omega)]
  have hcreate' : router.sessions.create overflowChecks principal.did router.now.session =
      (some (.ok session), { router.sessions with backend }) := hcreate
  have hvalidate : router.challenges.validate request.nonce router.now.readAt =
      (.ok stored, { router.challenges with
        challenges := router.challenges.challenges.remove request.nonce }) := by
    rw [ChallengeStore.validate, hget]
    simp only [hunexpired]
  refine ⟨session, backend, ?_, by rw [hsession], hstored, by rw [hsession], by rw [hsession], hlen⟩
  have hopens : ∀ challenges, openSession overflowChecks { router with challenges } principal.did =
      (some (.ok ⟨session.did, session.token, session.validUntil, session.createdAt⟩),
        { router with challenges, sessions := { router.sessions with backend } }) := by
    intro challenges
    have hsame : ({ router with challenges } : Router).sessions.create overflowChecks principal.did
        ({ router with challenges } : Router).now.session = (some (.ok session),
          { router.sessions with backend }) := hcreate'
    simp only [openSession, hsame]
    rfl
  simp only [sessionHandler, hvalidate, hauth, hopens]

/-- A login: two requests, one signature, and a session of the signer's. -/
theorem authenticate_served (overflowChecks : Bool) (hJ : J.Faithful)
    (h : Dependable B U F router baseUrl signer)
    (hroom : router.sessions.backend.len < router.sessions.maxSessions) :
    ∃ message session router' transcript,
      Dialogue.run (serve B F J overflowChecks baseUrl) (Client.authenticate B U J baseUrl signer)
        router = ⟨⟨.ok session, [message]⟩, router', transcript⟩ ∧
      session.did = signer.signerDid ∧
      router'.sessions.backend.get session.token = some session ∧
      router'.now.readAt < session.validUntil ∧ router'.Follows router 2 ∧
      router'.sessions.backend.len ≤ router.sessions.backend.len + 1 := by
  obtain ⟨envelope, challenges, stored, hchallenge, hsmall, hcheck, ⟨signature, hsign, hauthentic⟩,
    hget, hdid, hmessage, hlive⟩ := challengeHandler_dependable h
  let router₁ : Router :=
    advance { router with challenges := { router.challenges with challenges } }
  let request : SessionRequest :=
    ⟨signer.signerDid, envelope.nonce, text "0x" ++ Hex.encode signature,
      signer.publicKey.map fun key => text "0x" ++ Hex.encode key⟩
  have hfirst : serve B F J overflowChecks baseUrl router
      (Client.challengeRequest baseUrl signer.signerDid) =
        (.ok ⟨200, J.toVec envelope.serialize⟩, router₁) := by
    rw [serve_challenge h.query, hchallenge]
    rfl
  have hsigning : Client.signedSessionRequest B U envelope baseUrl signer =
      ⟨.ok request, [envelope.message]⟩ := by
    rw [Client.signedSessionRequest, hcheck]
    simp only [hsign]
    rfl
  obtain ⟨principal, hprincipal, hprincipalDid⟩ := authorise_signed
    (show (Client.signedSessionRequest B U envelope baseUrl signer).result = .ok request by
      rw [hsigning])
    (fun signature' hsign' => by
      obtain rfl := Except.ok.inj (hsign.symm.trans hsign')
      exact hauthentic) hdid hmessage
  obtain ⟨session, backend, hopened, hsessionDid, hstored, hvalid, hcreated, hlen⟩ :=
    sessionHandler_signed overflowChecks router₁ request hget hlive hprincipal hroom (h.ends 1)
  let response : SessionResponse :=
    ⟨session.did, session.token, session.validUntil, session.createdAt⟩
  have hends := h.ends 1
  have hvalid' : session.validUntil = (router.draws 1).session.now + router.sessions.ttlSecs :=
    hvalid
  have hcreated' : session.createdAt = (router.draws 1).session.now := hcreated
  let router₂ : Router := advance
    { router₁ with
      challenges := { router₁.challenges with
        challenges := router₁.challenges.challenges.remove request.nonce }
      sessions := { router₁.sessions with backend } }
  have hsecond : serve B F J overflowChecks baseUrl router₁
      (Client.sessionRequest J baseUrl request) =
        (.ok ⟨200, J.toVec response.serialize⟩, router₂) := by
    rw [serve_session hJ, hopened]
    rfl
  have hfollows : router₂.Follows router 2 := ⟨rfl, rfl, rfl, rfl, rfl, fun _ => rfl⟩
  let transcript : List (HttpRequest × HttpReply) :=
    [(Client.challengeRequest baseUrl signer.signerDid, .ok ⟨200, J.toVec envelope.serialize⟩),
      (Client.sessionRequest J baseUrl request, .ok ⟨200, J.toVec response.serialize⟩)]
  refine ⟨envelope.message, session, router₂, transcript, ?_, hsessionDid.trans hprincipalDid,
    hstored, ?_, hfollows, hlen⟩
  · rw [Client.authenticate, Dialogue.run_ask, hfirst]
    simp only [readReply_ok (envelope.travels hJ hsmall).readBack, hsigning]
    rw [Dialogue.run_ask, hsecond]
    simp only [Dialogue.run_done,
      readReply_ok (response.travels hJ (show session.validUntil < 2 ^ 64 by omega)
        (show session.createdAt < 2 ^ 64 by omega)).readBack]
    rfl
  · have hused := h.used 1
    have hnow : router₂.now = router.draws 2 := hfollows.draws 0
    rw [hnow, hvalid']
    exact hused

/-! ## Requests with a token -/

/-- Whatever session the server still has under the token is the signer's. -/
def Own (router : Router) (token did : Str) : Prop :=
  ∀ session, router.sessions.backend.get token = some session → session.did = did

/-- The answer of `whoami` to the holder of a session. -/
def answeredAs (J : Serde.Json) (did : Str) : HttpResponse := ⟨200, J.toVec (whoamiBody did)⟩

/-- A live token is answered with the DID of its session. -/
theorem serve_whoami_live {token : Str} {session : Session}
    (hget : router.sessions.backend.get token = some session)
    (hlive : router.now.readAt < session.validUntil) :
    serve B F J overflowChecks baseUrl router (whoamiRequest baseUrl token) =
      (.ok (answeredAs J session.did), router.advance) := by
  have hvalidate : router.sessions.validate token router.now.readAt =
      (.ok session.did, router.sessions) := by
    rw [SessionStore.validate, hget]
    exact if_neg (by omega)
  rw [serve_whoami, hvalidate]
  rfl

/-- Any other token is refused, and at most its lapsed session is gone afterwards. -/
theorem serve_whoami_lapsed {token : Str}
    (hlapsed : ∀ session, router.sessions.backend.get token = some session →
      session.validUntil ≤ router.now.readAt) :
    ∃ router', serve B F J overflowChecks baseUrl router (whoamiRequest baseUrl token) =
        (.ok ⟨401, []⟩, router') ∧
      router'.Follows router 1 ∧
      router'.sessions.backend.len ≤ router.sessions.backend.len := by
  obtain ⟨e, backend, hvalidate, hlen⟩ : ∃ e backend,
      router.sessions.validate token router.now.readAt =
        (.error e, { router.sessions with backend }) ∧
      backend.len ≤ router.sessions.backend.len := by
    rw [SessionStore.validate]
    cases hget : router.sessions.backend.get token with
    | none => exact ⟨_, router.sessions.backend, rfl, le_rfl⟩
    | some session =>
        refine ⟨_, router.sessions.backend.erase token, if_pos (hlapsed session hget), ?_⟩
        rw [InMemoryBackend.erase_eq_retain]
        exact InMemoryBackend.len_retain_le _
  refine ⟨advance { router with sessions := { router.sessions with backend } }, ?_,
    ⟨rfl, rfl, rfl, rfl, rfl, fun _ => rfl⟩, hlen⟩
  rw [serve_whoami, hvalidate]
  rfl

/-- A `send` of `whoami` is answered with the signer's DID, over a new login when the token has
lapsed. -/
theorem send_served (overflowChecks : Bool) (hJ : J.Faithful)
    (h : Dependable B U F router baseUrl signer)
    (hroom : router.sessions.backend.len < router.sessions.maxSessions) {session : Session}
    (hown : Own router session.token signer.signerDid) :
    ∃ session' signed router' transcript k,
      Dialogue.run (serve B F J overflowChecks baseUrl)
        (AuthSession.send B U J ⟨baseUrl, session⟩ signer whoamiRequest) router =
          ⟨⟨⟨baseUrl, session'⟩, .ok (answeredAs J signer.signerDid), signed⟩, router',
            transcript⟩ ∧
      Own router' session'.token signer.signerDid ∧ router'.Follows router k ∧
      router'.sessions.backend.len ≤ router.sessions.backend.len + 1 := by
  have hrequest : ∀ session : Session, (⟨baseUrl, session⟩ : AuthSession).requestOf whoamiRequest =
      whoamiRequest baseUrl session.token := fun _ => rfl
  by_cases hlive : ∃ stored, router.sessions.backend.get session.token = some stored ∧
      router.now.readAt < stored.validUntil
  · obtain ⟨stored, hget, hlive⟩ := hlive
    have hfirst : serve B F J overflowChecks baseUrl router
        (whoamiRequest baseUrl session.token) =
          (.ok (answeredAs J signer.signerDid), router.advance) := by
      rw [← hown stored hget]
      exact serve_whoami_live hget hlive
    let transcript : List (HttpRequest × HttpReply) :=
      [(whoamiRequest baseUrl session.token, .ok (answeredAs J signer.signerDid))]
    refine ⟨session, [], router.advance, transcript, 1, ?_, hown,
      ⟨rfl, rfl, rfl, rfl, rfl, fun _ => rfl⟩, Nat.le_succ _⟩
    rw [AuthSession.send, Dialogue.run_ask, hrequest, hfirst]
    rfl
  · have hlapsed : ∀ stored, router.sessions.backend.get session.token = some stored →
        stored.validUntil ≤ router.now.readAt := by
      intro stored hget
      by_contra hlate
      exact hlive ⟨stored, hget, not_le.mp hlate⟩
    obtain ⟨router₁, hfirst, hfollows₁, hlen₁⟩ : ∃ router₁,
        serve B F J overflowChecks baseUrl router (whoamiRequest baseUrl session.token) =
          (.ok ⟨401, []⟩, router₁) ∧
        router₁.Follows router 1 ∧
        router₁.sessions.backend.len ≤ router.sessions.backend.len := serve_whoami_lapsed hlapsed
    have hroom₁ : router₁.sessions.backend.len < router₁.sessions.maxSessions := by
      rw [hfollows₁.maxSessions]
      omega
    obtain ⟨message, session', router₂, transcript, hlogin, hdid, hget, hlive', hfollows₂, hlen₂⟩ :=
      authenticate_served overflowChecks hJ (h.follows hfollows₁) hroom₁
    have hsecond : serve B F J overflowChecks baseUrl router₂
        (whoamiRequest baseUrl session'.token) =
          (.ok (answeredAs J signer.signerDid), router₂.advance) := by
      rw [← hdid]
      exact serve_whoami_live hget hlive'
    have hfollows₃ : router₂.advance.Follows router₂ 1 :=
      ⟨rfl, rfl, rfl, rfl, rfl, fun _ => rfl⟩
    let transcript' : List (HttpRequest × HttpReply) :=
      (whoamiRequest baseUrl session.token, .ok ⟨401, []⟩) ::
        (transcript ++
          [(whoamiRequest baseUrl session'.token, .ok (answeredAs J signer.signerDid))])
    refine ⟨session', [message], router₂.advance, transcript', _, ?_, ?_,
      hfollows₃.trans (hfollows₂.trans hfollows₁), hlen₂.trans (Nat.succ_le_succ hlen₁)⟩
    · rw [AuthSession.send, Dialogue.run_ask, hrequest, hfirst]
      simp only [ne_eq, not_true_eq_false, if_false, Dialogue.run_andThen, hlogin,
        Dialogue.run_ask, hrequest, hsecond]
      rfl
    · intro stored hstored
      obtain rfl := Option.some.inj (hget.symm.trans hstored)
      exact hdid

/-- One `whoami` after another. -/
theorem sendAll_served (overflowChecks : Bool) (hJ : J.Faithful) (n : Nat)
    (h : Dependable B U F router baseUrl signer)
    (hroom : router.sessions.backend.len + n ≤ router.sessions.maxSessions) {session : Session}
    (hown : Own router session.token signer.signerDid) :
    ∃ outcomes router' transcript, Dialogue.run (serve B F J overflowChecks baseUrl)
        (AuthSession.sendAll B U J ⟨baseUrl, session⟩ signer (List.replicate n whoamiRequest))
        router = ⟨outcomes, router', transcript⟩ ∧
      outcomes.length = n ∧
      ∀ outcome ∈ outcomes, outcome.result = .ok (answeredAs J signer.signerDid) := by
  induction n generalizing router session with
  | zero => exact ⟨[], router, [], rfl, rfl, by simp⟩
  | succ n ih =>
      obtain ⟨session', signed, router₁, transcript, k, hsend, hown₁, hfollows, hlen⟩ :=
        send_served overflowChecks hJ h (by omega) hown
      have hroom₁ : router₁.sessions.backend.len + n ≤ router₁.sessions.maxSessions := by
        rw [hfollows.maxSessions]
        omega
      obtain ⟨outcomes, router₂, transcript', hrest, hlength, hall⟩ :=
        ih (h.follows hfollows) hroom₁ hown₁
      let outcome : SendOutcome :=
        ⟨⟨baseUrl, session'⟩, .ok (answeredAs J signer.signerDid), signed⟩
      refine ⟨outcome :: outcomes, router₂, transcript ++ (transcript' ++ []), ?_,
        congrArg Nat.succ hlength, List.forall_mem_cons.mpr ⟨rfl, hall⟩⟩
      rw [List.replicate_succ, AuthSession.sendAll]
      simp only [Dialogue.run_andThen, hsend, hrest, Dialogue.run_done]
      rfl

end Router

/-- A client on the server's routes logs in, and every `whoami` it sends is answered with its DID;
so is every one over a session the client held before, whether the server still knows it or not. -/
theorem client_served (B : Build) (U : UrlCrate) (F : FormCrate) (J : Serde.Json)
    (overflowChecks : Bool) (baseUrl : Str) (signer : Signer) (router : Router) (n : Nat)
    (hJ : J.Faithful) (h : router.Dependable B U F baseUrl signer)
    (hroom : router.sessions.backend.len + n < router.sessions.maxSessions) :
    (∃ message session outcomes,
      (Dialogue.run (Router.serve B F J overflowChecks baseUrl)
        (AuthSession.client B U J baseUrl signer (List.replicate n whoamiRequest)) router).result =
          (⟨.ok session, [message]⟩, outcomes) ∧
      BoundTo B U baseUrl signer message ∧ session.did = signer.signerDid ∧ outcomes.length = n ∧
      ∀ outcome ∈ outcomes, outcome.result = .ok (Router.answeredAs J signer.signerDid)) ∧
    ∀ session : Session, router.Own session.token signer.signerDid → ∃ outcomes,
      (Dialogue.run (Router.serve B F J overflowChecks baseUrl)
        (AuthSession.sendAll B U J ⟨baseUrl, session⟩ signer (List.replicate n whoamiRequest))
        router).result = outcomes ∧
      outcomes.length = n ∧
      ∀ outcome ∈ outcomes, outcome.result = .ok (Router.answeredAs J signer.signerDid) := by
  constructor
  · obtain ⟨message, session, router₁, transcript, hlogin, hdid, hget, _, hfollows, hlen⟩ :=
      Router.authenticate_served overflowChecks hJ h (by omega)
    have hown : router₁.Own session.token signer.signerDid := by
      intro stored hstored
      obtain rfl := Option.some.inj (hget.symm.trans hstored)
      exact hdid
    have hroom₁ : router₁.sessions.backend.len + n ≤ router₁.sessions.maxSessions := by
      rw [hfollows.maxSessions]
      omega
    obtain ⟨outcomes, router₂, transcript', hsends, hlength, hall⟩ :=
      Router.sendAll_served overflowChecks hJ n (h.follows hfollows) hroom₁ hown
    have hbound : BoundTo B U baseUrl signer message := by
      have hpath := Dialogue.path_run (Router.serve B F J overflowChecks baseUrl)
        (Client.authenticate B U J baseUrl signer) router
      rw [hlogin] at hpath
      exact (authenticate_sound hpath).bound message (List.mem_singleton_self message)
    refine ⟨message, session, outcomes, ?_, hbound, hdid, hlength, hall⟩
    simp only [AuthSession.client, Dialogue.run_andThen, hlogin, hsends, Dialogue.run_done]
  · intro session hown
    obtain ⟨outcomes, router', transcript, hsends, hlength, hall⟩ :=
      Router.sendAll_served overflowChecks hJ n h (by omega) hown
    exact ⟨outcomes, by rw [hsends], hlength, hall⟩

/-! ### A peer whose clock stands still -/

/-- The one query the client makes. -/
def loginForms : FormCrate where
  parse query :=
    if query = text "did=" ++ Client.urlencoded loginDid then [(text "did", loginDid)] else []

def stillDraws : RouterDraws where
  challenge := sampleDraws
  readAt := 1700000000
  session := ⟨1700000000, sampleDraws.nonceBytes, 1700000000⟩

def stillRouter : Router where
  challenges := .withCapacity 300 Duration.fiveMinutes_lt (text "aqua-node")
    (text "http://127.0.0.1:3000") 8192
  sessions := .withCapacity 3600 8192 64
  draws _ := stillDraws

theorem stillRouter_dependable : stillRouter.Dependable loginBuild loginUrls loginForms
    (text "http://127.0.0.1:3000") loginSigner where
  wellFormed := by decide +kernel
  namesChain := by
    rintro ⟨address, haddress, _⟩
    have hother : Text.stripPrefix (text "did:pkh:eip155:") loginDid = none := by decide +kernel
    rw [show loginSigner.signerDid = loginDid from rfl, hother] at haddress
    cases haddress
  query := by
    show loginForms.parse (text "did=" ++ Client.urlencoded loginDid) = _
    decide +kernel
  signs _ expires message hexpires hmessage := by
    have hknown : (stillRouter.challenges.expiry stillDraws.challenge.now).map (fun expires =>
        (buildMessage loginBuild (stillRouter.challenges.messageParams loginDid stillDraws.challenge
          expires)).toOption) = some (some loginMessage) := by decide +kernel
    have hmessage' : buildMessage loginBuild (stillRouter.challenges.messageParams loginDid
        stillDraws.challenge expires) = .ok message := hmessage
    have hexpires' : stillRouter.challenges.expiry stillDraws.challenge.now = some expires :=
      hexpires
    rw [hexpires', Option.map_some, hmessage'] at hknown
    obtain rfl : message = loginMessage := Option.some.inj (Option.some.inj hknown)
    exact ⟨_, loginSigner_sign, loginSigner_authenticates⟩
  domainLine := by decide
  domainStart := by decide
  uriLine := by decide
  uriTrimmed := by decide
  uriNonempty := by decide
  origin := ⟨text "http://127.0.0.1:3000", by decide +kernel, by decide +kernel⟩
  inCalendar _ := by
    show InCalendar 300 sampleDraws.now
    unfold InCalendar
    decide +kernel
  answered _ := by
    show 1700000000 < sampleDraws.now.secs + 300
    decide +kernel
  ends _ := by
    show 1700000000 + 3600 < 2 ^ 64
    decide
  used _ := by
    show 1700000000 < 1700000000 + 3600
    decide

/-- A session of before the last restart. -/
def forgottenSession : Session := ⟨loginDid, text "forgotten", 1700003600, 1700000000⟩

theorem client_served_still :
    (∃ message session outcomes,
      (Dialogue.run (Router.serve loginBuild loginForms .compactCrate false
        (text "http://127.0.0.1:3000")) (AuthSession.client loginBuild loginUrls .compactCrate
          (text "http://127.0.0.1:3000") loginSigner (List.replicate 3 whoamiRequest))
        stillRouter).result = (⟨.ok session, [message]⟩, outcomes) ∧
      BoundTo loginBuild loginUrls (text "http://127.0.0.1:3000") loginSigner message ∧
      session.did = loginDid ∧ outcomes.length = 3 ∧
      ∀ outcome ∈ outcomes, outcome.result = .ok (Router.answeredAs .compactCrate loginDid)) ∧
    ∃ outcomes, (Dialogue.run (Router.serve loginBuild loginForms .compactCrate false
        (text "http://127.0.0.1:3000")) (AuthSession.sendAll loginBuild loginUrls .compactCrate
          ⟨text "http://127.0.0.1:3000", forgottenSession⟩ loginSigner
          (List.replicate 3 whoamiRequest)) stillRouter).result = outcomes ∧
      outcomes.length = 3 ∧
      ∀ outcome ∈ outcomes, outcome.result = .ok (Router.answeredAs .compactCrate loginDid) := by
  have hserved := client_served loginBuild loginUrls loginForms .compactCrate false
    (text "http://127.0.0.1:3000") loginSigner stillRouter 3 Serde.Json.compactCrate_faithful
    stillRouter_dependable (show (0 : Nat) + 3 < 8192 by decide)
  have hforgotten : stillRouter.sessions.backend.get forgottenSession.token = none := rfl
  refine ⟨hserved.1, hserved.2 forgottenSession ?_⟩
  intro stored hstored
  rw [hforgotten] at hstored
  cases hstored

end AquaAuth
