import AquaAuth.Proofs.HonestLogin
set_option autoImplicit false
/-!
# Bearers

A token the session store vouches for is the token of a session that a login of the run opened,
and it was vouched for before that session expired.
-/

namespace AquaAuth

open Support Support.Result Support.Interleaving

variable {B : Build} {peer peer' : PeerState} {i : Nat} {t : PeerThread} {overflowChecks : Bool}
  {token did : Str} {session : Session}

/-- The thread of a token that has been looked up and not yet compared with the clock. -/
def lookedUp (token : Str) (session : Session) : PeerThread :=
  .session (.validate token (.clock session))

/-- The thread of a token the store vouches for. -/
def vouched (token did : Str) : PeerThread := .session (.validate token (.returned (.ok did)))

/-- A step of a `validate` is one of its thread. -/
theorem validateStep_of_move {draw : PeerDraw} {stage : SessionValidateStage}
    (h : (peerSystem B overflowChecks).move peer i t draw =
      some (peer', .session (.validate token stage))) :
    ∃ before server, t = .session (.validate token before) ∧
      peer.sessions.validateStep token before ⟨peer.clock, draw.tokenBytes⟩ =
        some (server, stage) := by
  obtain ⟨_, hstep⟩ := peerSystem_move h
  cases t with
  | challenge did stage =>
      obtain ⟨_, _, heq⟩ := Option.map_eq_some_iff.mp hstep
      cases heq
  | login request stage =>
      obtain ⟨_, _, heq⟩ := Option.map_eq_some_iff.mp hstep
      cases heq
  | sweep done =>
      cases done with
      | false => cases hstep
      | true => cases hstep
  | session call =>
      cases call with
      | create did stage => cases hstep
      | validate token before =>
          obtain ⟨⟨server, call'⟩, hmoved, heq⟩ := Option.map_eq_some_iff.mp hstep
          obtain ⟨rfl, hcall⟩ := Prod.mk.inj heq
          obtain ⟨⟨server', stage'⟩, hvalidate, heq'⟩ := Option.map_eq_some_iff.mp hmoved
          obtain ⟨rfl, rfl⟩ := Prod.mk.inj heq'
          cases hcall
          exact ⟨before, server', rfl, hvalidate⟩
      | revoke token result =>
          obtain ⟨⟨server, call'⟩, hmoved, heq⟩ := Option.map_eq_some_iff.mp hstep
          cases result with
          | none =>
              obtain ⟨_, rfl⟩ := Prod.mk.inj (Option.some.inj hmoved)
              cases heq
          | some removed => cases hmoved
      | revokeAllForDid did stage =>
          obtain ⟨⟨server, call'⟩, hmoved, heq⟩ := Option.map_eq_some_iff.mp hstep
          obtain ⟨⟨server', stage'⟩, _, heq'⟩ := Option.map_eq_some_iff.mp hmoved
          cases heq'
          cases heq
      | cleanup stage =>
          obtain ⟨⟨server, call'⟩, hmoved, heq⟩ := Option.map_eq_some_iff.mp hstep
          obtain ⟨⟨server', stage'⟩, _, heq'⟩ := Option.map_eq_some_iff.mp hmoved
          cases heq'
          cases heq

/-- The clock check that vouches for a token. -/
theorem vouched_step {server server' : SessionServer} {before : SessionValidateStage}
    {draw : SessionStepDraw}
    (h : server.validateStep token before draw = some (server', .returned (.ok did))) :
    ∃ session, before = .clock session ∧ draw.now < session.validUntil ∧ session.did = did := by
  cases before with
  | get =>
      simp only [SessionServer.validateStep] at h
      split at h <;> cases h
  | clock session =>
      simp only [SessionServer.validateStep] at h
      split_ifs at h with hexpired
      · cases h
      · obtain ⟨_, hdid⟩ := Prod.mk.inj (Option.some.inj h)
        cases hdid
        exact ⟨session, rfl, Nat.not_le.mp hexpired, rfl⟩
  | remove => cases h
  | returned result => cases h

/-- The lookup of a token. -/
theorem lookedUp_step {server server' : SessionServer} {before : SessionValidateStage}
    {draw : SessionStepDraw}
    (h : server.validateStep token before draw = some (server', .clock session)) :
    server.store.backend.get token = some session := by
  cases before with
  | get =>
      simp only [SessionServer.validateStep] at h
      split at h
      · cases h
      · rename_i hget
        obtain ⟨_, hsession⟩ := Prod.mk.inj (Option.some.inj h)
        cases hsession
        exact hget
  | clock session =>
      simp only [SessionServer.validateStep] at h
      split_ifs at h <;> cases h
  | remove => cases h
  | returned result => cases h

/-- What stands behind a token that was vouched for: a session found under it at one point of the
run, opened by a login before that, and not expired at a later point. -/
structure BearerTraced (B : Build) (overflowChecks : Bool) (start : Config PeerState PeerThread)
    (schedule : List (Action PeerThread PeerDraw Nat)) (token did : Str) : Prop where
  trace : ∃ lookup check rest found checked session,
    schedule = lookup ++ (check ++ rest) ∧
      (peerSystem B overflowChecks).run start lookup = some found ∧
      (peerSystem B overflowChecks).run start (lookup ++ check) = some checked ∧
      found.shared.sessions.store.backend.get token = some session ∧
      session.token = token ∧ session.did = did ∧ checked.shared.clock < session.validUntil ∧
      ∃ k challenge request now source,
        Occurs found.shared.log k challenge (.loggedIn request session) now ∧
          Traced B found.shared.log request session challenge source k

/-- Whoever the session store vouches for has logged in: in every run, a token it vouches for is
the token of a session of that DID, opened earlier by a request that consumed and signed a challenge
of its own, and vouched for before the session expired. -/
theorem bearer_traced (B : Build) (overflowChecks : Bool) (clock challengeTtl : Nat)
    (httl : challengeTtl < 2 ^ 64) (domain uri : Str)
    (maxChallenges sessionTtl maxSessions maxSessionsPerDid : Nat)
    (schedule : List (Action PeerThread PeerDraw Nat)) (c : Config PeerState PeerThread)
    (i : Nat) (token did : Str)
    (hrun : (peerSystem B overflowChecks).run (.initial (.start clock challengeTtl httl domain uri
      maxChallenges sessionTtl maxSessions maxSessionsPerDid)) schedule = some c)
    (hbearer : c.threads[i]? = some (vouched token did)) :
    BearerTraced B overflowChecks (.initial (.start clock challengeTtl httl domain uri
      maxChallenges sessionTtl maxSessions maxSessionsPerDid)) schedule token did := by
  obtain ⟨before, rest, checked, t₁, draw, peer', _, rfl, hchecked, ht₁, hmove, _, rfl⟩ :=
    System.run_became (T := (· = vouched token did)) (by rintro t hentry rfl; cases hentry) hrun
      (by simp [Config.initial]) hbearer rfl
  obtain ⟨stage, server, rfl, hvouched⟩ := validateStep_of_move hmove
  obtain ⟨session, rfl, hlive, hdid⟩ := vouched_step hvouched
  obtain ⟨lookup, check, found, t₂, draw', peer'', _, rfl, hfound, ht₂, hmove', _, rfl⟩ :=
    System.run_became (T := (· = lookedUp token session)) (by rintro t hentry rfl; cases hentry)
      hchecked (by simp [Config.initial]) ht₁ rfl
  obtain ⟨stage', server', rfl, hlooked⟩ := validateStep_of_move hmove'
  have hget := lookedUp_step hlooked
  have hI : PeerInvariant B found.shared := .run hfound (.start ..)
  obtain ⟨e, he, request, hevent⟩ := hI.sessions hget
  obtain ⟨k, hk⟩ := List.mem_iff_getElem?.mp he
  have hoccurs : Occurs found.shared.log k e.challenge (.loggedIn request session) e.now :=
    hevent ▸ .of_entry hk
  obtain ⟨source, htraced⟩ := hI.history.traced hoccurs
  exact ⟨lookup, check, rest, found, checked, session, List.append_assoc .., hfound, hchecked, hget,
    InMemoryBackend.token_of_get hget, hdid, hlive, k, e.challenge, request, e.now, source, hoccurs,
      htraced⟩

/-! ### The bearer of a login -/

/-- The token of the login. -/
def loginToken : Str := tokenOf loginDraw.tokenBytes

/-- A login, and its token presented afterwards. -/
def bearerSchedule : List (Action PeerThread PeerDraw Nat) :=
  toldSchedule ++ .spawn (.login loginRequest (.validating .remove)) ::
    List.replicate 8 (.move 1 loginDraw) ++
      .spawn (.session (.validate loginToken .get)) :: List.replicate 2 (.move 2 loginDraw)

theorem bearer_traced_login :
    BearerTraced loginBuild false loginPeer bearerSchedule loginToken loginDid := by
  have hends : ((peerSystem loginBuild false).run loginPeer bearerSchedule).map
      (fun c => c.threads[2]?) = some (some (vouched loginToken loginDid)) := by decide +kernel
  obtain ⟨c, hrun, hbearer⟩ := Option.map_eq_some_iff.mp hends
  exact bearer_traced loginBuild false 1700000000 300 Duration.fiveMinutes_lt (text "aqua-node")
    (text "http://127.0.0.1:3000") 8192 3600 8192 64 bearerSchedule c 2 loginToken loginDid hrun
    hbearer

end AquaAuth
