import AquaAuth.Model.AuthSession
import AquaAuth.Proofs.Relay
import AquaAuth.Proofs.Wire
set_option autoImplicit false
/-!
# Sessions that log in again

Whatever the server answers: `send` logs in once for a `401` and never for another answer, it signs
a challenge only when that names its own identifier and its own endpoint, and the response it hands
back was made with the token it holds from then on.
-/

namespace AquaAuth

open Support Support.Result

/-- A request of a run and what came of it. -/
abbrev Exchange := HttpRequest × HttpReply

/-- An answer that says the server does not know the token. -/
def Exchange.isRefusal (exchange : Exchange) : Bool :=
  match exchange.2 with
  | .ok response => response.status = 401
  | .error _ => false

/-- How many of the answers are refusals. -/
def refusals (transcript : List Exchange) : Nat := transcript.countP Exchange.isRefusal

theorem refusals_append (first second : List Exchange) :
    refusals (first ++ second) = refusals first + refusals second :=
  List.countP_append

section

variable (B : Build) (U : UrlCrate) (J : Serde.Json) (baseUrl : Str) (signer : Signer)

/-- A message that is about the signer and about the endpoint at this base URL. -/
def BoundTo (message : Str) : Prop :=
  ∃ m address origin uri, findDidMethod B signer.signerDid = some m ∧
    m.addressForMessage signer.signerDid = .ok address ∧
    identifierFromMessage message = some address ∧
    Client.uriLine message = some uri ∧ Client.originOf U uri = some origin ∧
    Client.originOf U baseUrl = some origin

/-- The session was opened by a login among the exchanges: a challenge bound to the signer and the
endpoint, the request made of it, and the answer to that. -/
def Opened (transcript : List Exchange) (session : Session) : Prop :=
  ∃ challengeReply sessionReply envelope request response,
    (Client.challengeRequest baseUrl signer.signerDid, challengeReply) ∈ transcript ∧
    readReply J ChallengeEnvelope.deserialize challengeReply = .ok envelope ∧
    BoundTo B U baseUrl signer envelope.message ∧
    (Client.signedSessionRequest B U envelope baseUrl signer).result = .ok request ∧
    (Client.sessionRequest J baseUrl request, sessionReply) ∈ transcript ∧
    readReply J SessionResponse.deserialize sessionReply = .ok response ∧
    session = Client.sessionOf response

end

variable {B : Build} {U : UrlCrate} {J : Serde.Json} {baseUrl : Str} {signer : Signer}
  {transcript transcript' : List Exchange} {session : Session}

theorem Opened.mono (h : Opened B U J baseUrl signer transcript session)
    (hsub : transcript ⊆ transcript') : Opened B U J baseUrl signer transcript' session := by
  obtain ⟨challengeReply, sessionReply, envelope, request, response, hchallenge, hread, hbound,
    hrequest, hsession, hresponse, heq⟩ := h
  exact ⟨challengeReply, sessionReply, envelope, request, response, hsub hchallenge, hread, hbound,
    hrequest, hsub hsession, hresponse, heq⟩

/-- A challenge passes the checks exactly when it is bound to the signer and the endpoint. -/
theorem checkChallenge_iff_boundTo {message : Str} :
    Client.checkChallenge B U message baseUrl signer.signerDid = .ok () ↔
      BoundTo B U baseUrl signer message := by
  rw [Client.checkChallenge_eq_ok]
  constructor
  · rintro ⟨m, address, hm, haddress, hidentifier, hbinding⟩
    obtain ⟨uri, origin, huri, horigin, hbase⟩ := Client.verifyUriBinding_eq_ok.mp hbinding
    exact ⟨m, address, origin, uri, hm, haddress, hidentifier, huri, horigin, hbase⟩
  · rintro ⟨m, address, origin, uri, hm, haddress, hidentifier, huri, horigin, hbase⟩
    exact ⟨m, address, hm, haddress, hidentifier,
      Client.verifyUriBinding_eq_ok.mpr ⟨uri, origin, huri, horigin, hbase⟩⟩

/-! ## A login -/

/-- What the signer was handed is the message of the challenge, bound. -/
theorem signed_boundTo {envelope : ChallengeEnvelope} {message : Str}
    (h : message ∈ (Client.signedSessionRequest B U envelope baseUrl signer).signed) :
    message = envelope.message ∧ BoundTo B U baseUrl signer message := by
  rw [Client.signed_eq] at h
  cases hcheck : Client.checkChallenge B U envelope.message baseUrl signer.signerDid with
  | error e => simp [hcheck] at h
  | ok u =>
      obtain rfl : message = envelope.message := by simpa [hcheck] using h
      exact ⟨rfl, checkChallenge_iff_boundTo.mp hcheck⟩

theorem length_signed_le (envelope : ChallengeEnvelope) :
    (Client.signedSessionRequest B U envelope baseUrl signer).signed.length ≤ 1 := by
  rw [Client.signed_eq]
  cases Client.checkChallenge B U envelope.message baseUrl signer.signerDid <;> simp

/-- A request was made only of a bound challenge. -/
theorem boundTo_of_request {envelope : ChallengeEnvelope} {request : SessionRequest}
    (h : (Client.signedSessionRequest B U envelope baseUrl signer).result = .ok request) :
    BoundTo B U baseUrl signer envelope.message := by
  rw [← checkChallenge_iff_boundTo]
  cases hcheck : Client.checkChallenge B U envelope.message baseUrl signer.signerDid with
  | error e => simp [Client.signedSessionRequest, hcheck] at h
  | ok u => rfl

/-- What a login does, whatever it is answered. -/
structure LoginSound (B : Build) (U : UrlCrate) (J : Serde.Json) (baseUrl : Str) (signer : Signer)
    (transcript : List Exchange) (outcome : LoginOutcome) : Prop where
  exchanges : transcript.length ≤ 2
  signs : outcome.signed.length ≤ 1
  bound : ∀ message ∈ outcome.signed, BoundTo B U baseUrl signer message
  opened : ∀ session, outcome.result = .ok session → Opened B U J baseUrl signer transcript session

theorem authenticate_sound {outcome : LoginOutcome}
    (h : (Client.authenticate B U J baseUrl signer).Path transcript outcome) :
    LoginSound B U J baseUrl signer transcript outcome := by
  obtain ⟨reply, rest, rfl, hpath⟩ := Dialogue.path_ask.mp h
  cases hread : readReply J ChallengeEnvelope.deserialize reply with
  | error e =>
      simp only [hread] at hpath
      obtain ⟨rfl, rfl⟩ := Dialogue.path_done.mp hpath
      exact ⟨by simp, by simp, by simp, by simp⟩
  | ok envelope =>
      simp only [hread] at hpath
      cases hrequest : (Client.signedSessionRequest B U envelope baseUrl signer).result with
      | error e =>
          simp only [hrequest] at hpath
          obtain ⟨rfl, rfl⟩ := Dialogue.path_done.mp hpath
          exact ⟨by simp, length_signed_le envelope, fun message hm => (signed_boundTo hm).2,
            by simp⟩
      | ok request =>
          simp only [hrequest] at hpath
          obtain ⟨reply', last, rfl, hlast⟩ := Dialogue.path_ask.mp hpath
          obtain ⟨rfl, rfl⟩ := Dialogue.path_done.mp hlast
          refine ⟨by simp, length_signed_le envelope, fun message hm => (signed_boundTo hm).2, ?_⟩
          intro session hsession
          obtain ⟨response, hresponse, rfl⟩ := map_eq_ok.mp (mapError_eq_ok.mp hsession)
          exact ⟨reply, reply', envelope, request, response, List.mem_cons_self, hread,
            boundTo_of_request hrequest, hrequest, List.mem_cons_of_mem _ List.mem_cons_self,
            hresponse, rfl⟩

/-- A login whose challenge is answered and signed. -/
theorem authenticate_path {challengeReply : HttpReply} {envelope : ChallengeEnvelope}
    {request : SessionRequest}
    (hchallenge : readReply J ChallengeEnvelope.deserialize challengeReply = .ok envelope)
    (hrequest : (Client.signedSessionRequest B U envelope baseUrl signer).result = .ok request)
    (sessionReply : HttpReply) :
    (Client.authenticate B U J baseUrl signer).Path
      [(Client.challengeRequest baseUrl signer.signerDid, challengeReply),
        (Client.sessionRequest J baseUrl request, sessionReply)]
      ⟨((readReply J SessionResponse.deserialize sessionReply).map Client.sessionOf).mapError .http,
        (Client.signedSessionRequest B U envelope baseUrl signer).signed⟩ := by
  apply Dialogue.Path.ask
  simp only [hchallenge, hrequest]
  exact .ask (.done _)

/-! ## A request with the token held -/

/-- What one `send` does, whatever it is answered. -/
structure SendSound (B : Build) (U : UrlCrate) (J : Serde.Json) (held : AuthSession)
    (signer : Signer) (build : RequestBuilder) (transcript : List Exchange)
    (outcome : SendOutcome) : Prop where
  baseUrl_eq : outcome.held.baseUrl = held.baseUrl
  exchanges : transcript.length ≤ 1 + 3 * refusals transcript
  signs : outcome.signed.length ≤ refusals transcript
  bound : ∀ message ∈ outcome.signed, BoundTo B U held.baseUrl signer message
  kept : outcome.held = held ∨
    0 < refusals transcript ∧ Opened B U J held.baseUrl signer transcript outcome.held.session
  /-- The response was made with the token held from now on, and a `401` only after a login. -/
  current : ∀ response, outcome.result = .ok response →
    (outcome.held.requestOf build, .ok response) ∈ transcript ∧
      (response.status = 401 → Opened B U J held.baseUrl signer transcript outcome.held.session)

theorem AuthSession.send_sound {held : AuthSession} {build : RequestBuilder}
    {outcome : SendOutcome} (h : (held.send B U J signer build).Path transcript outcome) :
    SendSound B U J held signer build transcript outcome := by
  obtain ⟨reply, rest, rfl, hpath⟩ := Dialogue.path_ask.mp h
  cases reply with
  | error e =>
      obtain ⟨rfl, rfl⟩ := Dialogue.path_done.mp hpath
      exact ⟨rfl, by simp, by simp, by simp, .inl rfl, by simp⟩
  | ok response =>
      simp only at hpath
      split_ifs at hpath with hstatus
      · obtain ⟨rfl, rfl⟩ := Dialogue.path_done.mp hpath
        refine ⟨rfl, by simp, by simp, by simp, .inl rfl, ?_⟩
        rintro response' ⟨⟩
        exact ⟨List.mem_cons_self, fun h401 => absurd h401 hstatus⟩
      · have hrefusal : ∀ rest, refusals ((held.requestOf build, .ok response) :: rest) =
            refusals rest + 1 := by
          intro rest
          exact List.countP_cons_of_pos (by simpa [Exchange.isRefusal] using hstatus)
        obtain ⟨login, between, second, rfl, hlogin, hpath⟩ := Dialogue.path_andThen.mp hpath
        have hsound := authenticate_sound hlogin
        have hexchanges := hsound.exchanges
        have hsigns := hsound.signs
        cases hresult : between.result with
        | error e =>
            simp only [hresult] at hpath
            obtain ⟨rfl, rfl⟩ := Dialogue.path_done.mp hpath
            refine ⟨rfl, ?_, ?_, hsound.bound, .inl rfl, by simp⟩
            · rw [hrefusal, List.append_nil, List.length_cons]
              omega
            · rw [hrefusal]
              show between.signed.length ≤ _
              omega
        | ok session =>
            simp only [hresult] at hpath
            obtain ⟨reply', last, rfl, hlast⟩ := Dialogue.path_ask.mp hpath
            obtain ⟨rfl, rfl⟩ := Dialogue.path_done.mp hlast
            have hopened : Opened B U J held.baseUrl signer
                ((held.requestOf build, .ok response) ::
                  (login ++ [(AuthSession.requestOf { held with session } build, reply')]))
                session := by
              apply (hsound.opened session hresult).mono
              intro exchange hexchange
              exact List.mem_cons_of_mem _ (List.mem_append_left _ hexchange)
            refine ⟨rfl, ?_, ?_, hsound.bound, .inr ⟨?_, hopened⟩, ?_⟩
            · rw [hrefusal, List.length_cons, List.length_append, List.length_singleton]
              omega
            · rw [hrefusal]
              show between.signed.length ≤ _
              omega
            · rw [hrefusal]
              exact Nat.succ_pos _
            · intro response' hresponse
              obtain rfl := mapError_eq_ok.mp hresponse
              refine ⟨?_, fun _ => hopened⟩
              exact List.mem_cons_of_mem _ (List.mem_append_right _ List.mem_cons_self)

/-! ## One request after another -/

/-- What a run of `send`s does, whatever it is answered. -/
structure SendsSound (B : Build) (U : UrlCrate) (J : Serde.Json) (held : AuthSession)
    (signer : Signer) (builds : List RequestBuilder) (transcript : List Exchange)
    (outcomes : List SendOutcome) : Prop where
  length_eq : outcomes.length = builds.length
  exchanges : transcript.length ≤ builds.length + 3 * refusals transcript
  signs : (outcomes.flatMap SendOutcome.signed).length ≤ refusals transcript
  bound : ∀ outcome ∈ outcomes, ∀ message ∈ outcome.signed,
    BoundTo B U held.baseUrl signer message
  kept : ∀ outcome ∈ outcomes, outcome.held = held ∨ 0 < refusals transcript ∧
    outcome.held.baseUrl = held.baseUrl ∧
      Opened B U J held.baseUrl signer transcript outcome.held.session
  current : ∀ (k : ℕ) build (outcome : SendOutcome) response,
    builds[k]? = some build → outcomes[k]? = some outcome →
    outcome.result = .ok response →
      (outcome.held.requestOf build, .ok response) ∈ transcript ∧
        (response.status = 401 →
          Opened B U J held.baseUrl signer transcript outcome.held.session)

theorem AuthSession.sendAll_sound {held : AuthSession} {builds : List RequestBuilder}
    {outcomes : List SendOutcome}
    (h : (held.sendAll B U J signer builds).Path transcript outcomes) :
    SendsSound B U J held signer builds transcript outcomes := by
  induction builds generalizing held transcript outcomes with
  | nil =>
      obtain ⟨rfl, rfl⟩ := Dialogue.path_done.mp h
      exact ⟨rfl, by simp, by simp, by simp, by simp, by simp⟩
  | cons build builds ih =>
      obtain ⟨first, outcome, rest, rfl, hfirst, hrest⟩ := Dialogue.path_andThen.mp h
      obtain ⟨second, others, last, rfl, hsecond, hlast⟩ := Dialogue.path_andThen.mp hrest
      obtain ⟨rfl, rfl⟩ := Dialogue.path_done.mp hlast
      have hhead := AuthSession.send_sound hfirst
      have htail := ih hsecond
      rw [List.append_nil]
      have hleft : first ⊆ first ++ second := List.subset_append_left _ _
      have hright : second ⊆ first ++ second := List.subset_append_right _ _
      have hsame := hhead.baseUrl_eq
      refine ⟨by simp [htail.length_eq], ?_, ?_, ?_, ?_, ?_⟩
      · have hexchanges := hhead.exchanges
        have hexchanges' := htail.exchanges
        rw [refusals_append, List.length_append, List.length_cons]
        omega
      · have hsigns := hhead.signs
        have hsigns' := htail.signs
        rw [refusals_append, List.flatMap_cons, List.length_append]
        omega
      · intro other hother message hmessage
        rcases List.mem_cons.mp hother with rfl | hother
        · exact hhead.bound message hmessage
        · exact hsame ▸ htail.bound other hother message hmessage
      · intro other hother
        rw [refusals_append]
        rcases List.mem_cons.mp hother with rfl | hother
        · rcases hhead.kept with hkept | ⟨hrefused, hopened⟩
          · exact .inl hkept
          · exact .inr ⟨by omega, hsame, hopened.mono hleft⟩
        · rcases htail.kept other hother with hkept | ⟨hrefused, hbase, hopened⟩
          · rw [hkept]
            rcases hhead.kept with hkept | ⟨hrefused, hopened⟩
            · exact .inl hkept
            · exact .inr ⟨by omega, hsame, hopened.mono hleft⟩
          · rw [hsame] at hbase hopened
            exact .inr ⟨by omega, hbase, hopened.mono hright⟩
      · intro k build' other response hbuild hother hresponse
        cases k with
        | zero =>
            obtain rfl := Option.some.inj hbuild
            obtain rfl := Option.some.inj hother
            obtain ⟨hmem, hopened⟩ := hhead.current response hresponse
            exact ⟨hleft hmem, fun h401 => (hopened h401).mono hleft⟩
        | succ k =>
            obtain ⟨hmem, hopened⟩ := htail.current k build' other response hbuild hother hresponse
            rw [hsame] at hopened
            exact ⟨hright hmem, fun h401 => (hopened h401).mono hright⟩

/-- What a client does, whatever it is answered. -/
structure ClientSound (B : Build) (U : UrlCrate) (J : Serde.Json) (baseUrl : Str)
    (signer : Signer) (builds : List RequestBuilder) (transcript : List Exchange)
    (login : LoginOutcome) (outcomes : List SendOutcome) : Prop where
  /-- One login to begin with, and one for each refusal at most. -/
  exchanges : transcript.length ≤ 2 + builds.length + 3 * refusals transcript
  signs : (login.signed ++ outcomes.flatMap SendOutcome.signed).length ≤ 1 + refusals transcript
  bound : ∀ message ∈ login.signed ++ outcomes.flatMap SendOutcome.signed,
    BoundTo B U baseUrl signer message
  /-- Whatever session is held was opened by a login of this run. -/
  opened : ∀ outcome ∈ outcomes, Opened B U J baseUrl signer transcript outcome.held.session
  /-- A response was made with the token held from then on. -/
  current : ∀ (k : ℕ) build (outcome : SendOutcome) response,
    builds[k]? = some build → outcomes[k]? = some outcome →
    outcome.result = .ok response → (outcome.held.requestOf build, .ok response) ∈ transcript
  /-- Without a refusal the session of the login is held throughout. -/
  unprovoked : refusals transcript = 0 → ∀ outcome ∈ outcomes,
    login.result = .ok outcome.held.session

/-- Sessions and signatures come from logins bound to the endpoint, and there are no more logins
than the server's refusals ask for. -/
theorem AuthSession.client_sound (B : Build) (U : UrlCrate) (J : Serde.Json) (baseUrl : Str)
    (signer : Signer) (builds : List RequestBuilder) (transcript : List Exchange)
    (login : LoginOutcome) (outcomes : List SendOutcome)
    (h : (AuthSession.client B U J baseUrl signer builds).Path transcript (login, outcomes)) :
    ClientSound B U J baseUrl signer builds transcript login outcomes := by
  obtain ⟨first, between, rest, rfl, hlogin, hrest⟩ := Dialogue.path_andThen.mp h
  have hsound := authenticate_sound hlogin
  have hexchanges := hsound.exchanges
  have hsigns := hsound.signs
  cases hresult : between.result with
  | error e =>
      simp only [hresult] at hrest
      obtain ⟨rfl, heq⟩ := Dialogue.path_done.mp hrest
      obtain ⟨rfl, rfl⟩ := Prod.mk.inj heq
      refine ⟨?_, ?_, ?_, by simp, by simp, by simp⟩
      · rw [List.append_nil]
        omega
      · rw [List.flatMap_nil, List.append_nil]
        omega
      · intro message hmessage
        rw [List.flatMap_nil, List.append_nil] at hmessage
        exact hsound.bound message hmessage
  | ok session =>
      simp only [hresult] at hrest
      obtain ⟨second, others, last, rfl, hsecond, hlast⟩ := Dialogue.path_andThen.mp hrest
      obtain ⟨rfl, heq⟩ := Dialogue.path_done.mp hlast
      obtain ⟨rfl, rfl⟩ := Prod.mk.inj heq
      have hsends := AuthSession.sendAll_sound hsecond
      have hright : second ⊆ first ++ (second ++ []) := by
        rw [List.append_nil]
        exact List.subset_append_right _ _
      refine ⟨?_, ?_, ?_, ?_, ?_, ?_⟩
      · have hexchanges' := hsends.exchanges
        rw [List.append_nil, refusals_append, List.length_append]
        omega
      · have hsigns' := hsends.signs
        rw [List.append_nil, refusals_append, List.length_append]
        omega
      · intro message hmessage
        rcases List.mem_append.mp hmessage with hmessage | hmessage
        · exact hsound.bound message hmessage
        · obtain ⟨outcome, houtcome, hmessage⟩ := List.mem_flatMap.mp hmessage
          exact hsends.bound outcome houtcome message hmessage
      · intro outcome houtcome
        rcases hsends.kept outcome houtcome with hkept | ⟨_, _, hopened⟩
        · rw [hkept]
          exact (hsound.opened session hresult).mono (List.subset_append_left _ _)
        · exact hopened.mono hright
      · intro k build outcome response hbuild houtcome hresponse
        exact hright (hsends.current k build outcome response hbuild houtcome hresponse).1
      · intro hquiet outcome houtcome
        rw [List.append_nil, refusals_append] at hquiet
        rcases hsends.kept outcome houtcome with hkept | ⟨hrefused, _⟩
        · rw [hkept, hresult]
        · omega

/-! ### A server that restarts -/

def restartSigner : Signer := { Client.relaySigner with sign := fun _ => .ok [1, 2, 3] }

/-- The answer that opens a session with this token. -/
def sessionAnswer (token : String) : SessionResponse :=
  ⟨Client.generatorKeyDid, text token, 1788094800, 1788091210⟩

def valueBytes (value : Serde.Value) : Bytes := Text.utf8 value.compact

def restartUrl : Str := text "https://node.example:443/"

def restartRequest : SessionRequest :=
  ⟨Client.generatorKeyDid, text "0xdeadbeef", text "0x010203", none⟩

/-- The exchanges of a login. -/
def restartLogin (token : String) : List Exchange :=
  [(Client.challengeRequest restartUrl Client.generatorKeyDid,
      .ok ⟨200, valueBytes Client.relayEnvelope.serialize⟩),
    (Client.sessionRequest .compactCrate restartUrl restartRequest,
      .ok ⟨200, valueBytes (sessionAnswer token).serialize⟩)]

def foldersRequest : RequestBuilder := fun baseUrl token =>
  ⟨.get, baseUrl ++ text "/api/folders", [(text "nonce", token)], []⟩

def restartHeld (token : String) : AuthSession :=
  ⟨restartUrl, Client.sessionOf (sessionAnswer token)⟩

/-- A refusal of the first token, a second login, and the answer to the repeated request. -/
def restartSend : List Exchange :=
  ((restartHeld "first").requestOf foldersRequest, .ok ⟨401, []⟩) :: (restartLogin "second" ++
    [((restartHeld "second").requestOf foldersRequest, .ok ⟨200, [0x6f, 0x6b]⟩)])

def restartSigned : List Str := [Client.relayMessage]

def restartOutcome : SendOutcome :=
  ⟨restartHeld "second", .ok ⟨200, [0x6f, 0x6b]⟩, restartSigned⟩

theorem readReply_ok {α : Type} {J : Serde.Json} {deserialize : Serde.Value → Option α}
    {body : Bytes} {a : α} (hread : J.read deserialize body = .ok a) :
    readReply J deserialize (.ok ⟨200, body⟩) = .ok a := by
  have hstatus : (HttpResponse.mk 200 body).errorForStatus = .ok ⟨200, body⟩ := rfl
  rw [readReply, ok_bind, hstatus, ok_bind, mapError_eq_ok]
  exact hread

/-- The client logs in again and goes on with the second token. -/
theorem AuthSession.client_sound_restart : ∃ transcript login,
    refusals transcript = 1 ∧ ClientSound Client.relayBuild Client.relayUrls .compactCrate
      restartUrl restartSigner [foldersRequest] transcript login [restartOutcome] := by
  have hfaithful := Serde.Json.compactCrate_faithful
  have hchallenge : readReply .compactCrate ChallengeEnvelope.deserialize
      (.ok ⟨200, valueBytes Client.relayEnvelope.serialize⟩) = .ok Client.relayEnvelope :=
    readReply_ok (Client.relayEnvelope.travels hfaithful (by decide)).readBack
  have hsession : ∀ token : String, readReply .compactCrate SessionResponse.deserialize
      (.ok ⟨200, valueBytes (sessionAnswer token).serialize⟩) = .ok (sessionAnswer token) := by
    intro token
    have hvalid : 1788094800 < 2 ^ 64 := by decide
    have hcreated : 1788091210 < 2 ^ 64 := by decide
    exact readReply_ok ((sessionAnswer token).travels hfaithful hvalid hcreated).readBack
  have hrequest : (Client.signedSessionRequest Client.relayBuild Client.relayUrls
      Client.relayEnvelope restartUrl restartSigner).result = .ok restartRequest := by
    decide +kernel
  have hsigned : (Client.signedSessionRequest Client.relayBuild Client.relayUrls
      Client.relayEnvelope restartUrl restartSigner).signed = restartSigned := by
    decide +kernel
  have hlogin : ∀ token : String, (Client.authenticate Client.relayBuild Client.relayUrls
      .compactCrate restartUrl restartSigner).Path (restartLogin token)
        ⟨.ok (Client.sessionOf (sessionAnswer token)), restartSigned⟩ := by
    intro token
    have hpath := authenticate_path hchallenge hrequest
      (.ok ⟨200, valueBytes (sessionAnswer token).serialize⟩)
    rw [hsession token, hsigned] at hpath
    exact hpath
  have hsend : (AuthSession.send Client.relayBuild Client.relayUrls .compactCrate
      (restartHeld "first") restartSigner foldersRequest).Path restartSend restartOutcome := by
    apply Dialogue.Path.ask
    apply Dialogue.path_andThen.mpr
    exact ⟨restartLogin "second", _, [_], rfl, hlogin "second", .ask (.done _)⟩
  have hsends : (AuthSession.sendAll Client.relayBuild Client.relayUrls .compactCrate
      (restartHeld "first") restartSigner [foldersRequest]).Path (restartSend ++ [])
        [restartOutcome] :=
    Dialogue.path_andThen.mpr ⟨restartSend, restartOutcome, [], rfl, hsend, .done _⟩
  have hclient : (AuthSession.client Client.relayBuild Client.relayUrls .compactCrate restartUrl
      restartSigner [foldersRequest]).Path (restartLogin "first" ++ (restartSend ++ []))
        (⟨.ok (Client.sessionOf (sessionAnswer "first")), restartSigned⟩, [restartOutcome]) := by
    apply Dialogue.path_andThen.mpr
    refine ⟨restartLogin "first", _, restartSend ++ [], rfl, hlogin "first", ?_⟩
    rw [← List.append_nil (restartSend ++ [])]
    exact Dialogue.path_andThen.mpr ⟨_, _, [], rfl, hsends, .done _⟩
  exact ⟨_, _, rfl, AuthSession.client_sound _ _ _ _ _ _ _ _ _ hclient⟩

end AquaAuth
