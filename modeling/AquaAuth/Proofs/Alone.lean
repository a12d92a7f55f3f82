import AquaAuth.Model.Router
import AquaAuth.Proofs.Login
set_option autoImplicit false
/-!
# Requests alone at the server

The handlers of the routes are what the threads of the peer come to when nothing moves beside them:
a request is answered with the same response, and leaves the two stores the same.
-/

namespace AquaAuth

open Support Support.Result Support.Interleaving

/-- The routes of a peer, for a request at one reading of the clock. -/
def PeerState.router (peer : PeerState) (draw : PeerDraw) : Router where
  challenges := peer.challenges
  sessions := peer.sessions.store
  draws _ := ⟨⟨draw.now, draw.nonceBytes, draw.now⟩, peer.clock,
    ⟨peer.clock, draw.tokenBytes, peer.clock⟩⟩

/-- What a thread comes to when it moves alone and draws the same each time. -/
def Reaches (B : Build) (overflowChecks : Bool) (i : Nat) (draw : PeerDraw) (peer : PeerState)
    (t : PeerThread) (peer' : PeerState) (t' : PeerThread) : Prop :=
  ∃ k, (peerSystem B overflowChecks).alone i peer t (List.replicate k draw) = some (peer', t')

/-- Where a `challenge_handler` stands when it has answered, or panicked. -/
inductive ChallengeStage.Answers : ChallengeStage → Answer ChallengeEnvelope → Prop where
  | responded (response : Except StatusCode ChallengeEnvelope) :
      Answers (.responded response) (some response)
  | panicked (did : Str) : Answers (.creating did (.returned none)) none

/-- Where a `session_handler` stands when it has answered, or panicked. -/
inductive LoginStage.Answers : LoginStage → Answer SessionResponse → Prop where
  | responded (response : Except StatusCode SessionResponse) :
      Answers (.responded response) (some response)
  | panicked (stored : Challenge) (did : Str) :
      Answers (.creating stored did (.returned none)) none

variable {B : Build} {overflowChecks : Bool} {i : Nat} {draw : PeerDraw}
  {peer peer₁ peer' : PeerState} {t t₁ t' : PeerThread} {request : SessionRequest}
  {stored : Challenge} {did : Str}

theorem Reaches.refl : Reaches B overflowChecks i draw peer t peer t := ⟨0, rfl⟩

theorem Reaches.step (hnow : draw.now.secs = peer.clock)
    (hstep : peer.step B overflowChecks i t draw = some (peer₁, t₁))
    (h : Reaches B overflowChecks i draw peer₁ t₁ peer' t') :
    Reaches B overflowChecks i draw peer t peer' t' := by
  obtain ⟨k, hk⟩ := h
  have hmove : (peerSystem B overflowChecks).move peer i t draw = some (peer₁, t₁) := by
    simp only [peerSystem, if_pos hnow, hstep]
  refine ⟨k + 1, ?_⟩
  rw [List.replicate_succ, System.alone, hmove]
  exact hk

theorem Reaches.trans (h : Reaches B overflowChecks i draw peer t peer₁ t₁)
    (h' : Reaches B overflowChecks i draw peer₁ t₁ peer' t') :
    Reaches B overflowChecks i draw peer t peer' t' := by
  obtain ⟨k, hk⟩ := h
  induction k generalizing peer t with
  | zero =>
      obtain ⟨rfl, rfl⟩ := Prod.mk.inj (Option.some.inj hk)
      exact h'
  | succ k ih =>
      obtain ⟨⟨peer₂, t₂⟩, hmove, hrest⟩ := Option.bind_eq_some_iff.mp hk
      obtain ⟨k', hk'⟩ := ih hrest
      refine ⟨k' + 1, ?_⟩
      rw [List.replicate_succ, System.alone, hmove]
      exact hk'

/-- A thread that moves alone is a run of the peer. -/
theorem Reaches.run {threads : List PeerThread} (ht : threads[i]? = some t)
    (h : Reaches B overflowChecks i draw peer t peer' t') :
    ∃ k, (peerSystem B overflowChecks).run ⟨peer, threads⟩ (List.replicate k (.move i draw)) =
      some ⟨peer', threads.set i t'⟩ := by
  obtain ⟨k, hk⟩ := h
  refine ⟨k, ?_⟩
  rw [← List.map_replicate]
  exact System.run_alone ht hk

/-- What recording an event leaves alone. -/
theorem PeerState.record_same (peer : PeerState) (i : Nat)
    (event : Option (Challenge × PeerEvent)) :
    (peer.record i event).challenges = peer.challenges ∧
      (peer.record i event).sessions = peer.sessions ∧
      (peer.record i event).clock = peer.clock := by
  cases event <;> exact ⟨rfl, rfl, rfl⟩

/-- A full challenge store is swept, and loses its oldest entry when that makes no room. -/
theorem ChallengeStore.makeRoom_of_full {store : ChallengeStore} {now : Nat}
    (hfull : store.isFull = true) :
    store.makeRoom now =
      if (store.cleanupExpired now).isFull then (store.cleanupExpired now).evictOldest
      else store.cleanupExpired now := by
  rw [makeRoom, if_pos hfull]

/-- A full session store is purged, and refuses when that makes no room. -/
theorem SessionStore.create_of_full {store : SessionStore} {draws : SessionDraws}
    (hfull : store.isFull = true) :
    store.create overflowChecks did draws =
      if (store.cleanupExpired draws.purgeAt).isFull then
        (some (.error (.sessionStoreFull store.maxSessions)), store.cleanupExpired draws.purgeAt)
      else (store.cleanupExpired draws.purgeAt).admitDid overflowChecks did draws := by
  rw [create, if_pos hfull]
  rfl

/-! ## A session request -/

section

variable (B) (overflowChecks) (i) (peer) (request) (stored) (did)

/-- The end of a `create` that has found room. -/
theorem reaches_admitted (hnow : draw.now.secs = peer.clock)
    (hfresh : tokenOf draw.tokenBytes ∉ peer.sessions.drawn) :
    ∃ peer', Reaches B overflowChecks i draw peer
        (.login request (.creating stored did .sessionsForDid)) peer'
        (.login request (.creating stored did (.returned (peer.sessions.store.admitDid
          overflowChecks did (peer.router draw).now.session).1))) ∧
      peer'.challenges = peer.challenges ∧ peer'.clock = peer.clock ∧
      peer'.sessions.store = (peer.sessions.store.admitDid overflowChecks did
        (peer.router draw).now.session).2 := by
  let oldest := peer.sessions.store.overQuota (peer.sessions.store.backend.sessionsForDid did)
  let evicted := peer.sessions.store.evict oldest
  let outcome := evicted.issue overflowChecks did draw.tokenBytes peer.clock
  let peer₂ : PeerState := { peer with sessions := { peer.sessions with store := evicted } }
  let peer₃ : PeerState :=
    { peer with sessions := ⟨outcome.2, tokenOf draw.tokenBytes :: peer.sessions.drawn⟩ }
  let event := SessionCreateStage.event request stored (.returned outcome.1)
  have hscan : peer.step B overflowChecks i
      (.login request (.creating stored did .sessionsForDid)) draw =
        some (peer, .login request (.creating stored did (.remove oldest))) := rfl
  have hevict : peer.step B overflowChecks i
      (.login request (.creating stored did (.remove oldest))) draw =
        some (peer₂, .login request (.creating stored did .insert)) := rfl
  have hinsert : peer₂.step B overflowChecks i (.login request (.creating stored did .insert))
      draw = some (peer₃.record i event,
        .login request (.creating stored did (.returned outcome.1))) := by
    have hdrawn : tokenOf draw.tokenBytes ∉ peer₂.sessions.drawn := hfresh
    simp only [PeerState.step, PeerState.loginStep, SessionServer.createStep, if_neg hdrawn]
    rfl
  obtain ⟨hchallenges, hsessions, hclock⟩ := PeerState.record_same peer₃ i event
  refine ⟨peer₃.record i event,
    .step hnow hscan (.step hnow hevict (.step hnow hinsert .refl)), hchallenges, hclock, ?_⟩
  rw [hsessions]
  rfl

/-- A `create` alone, within a login. -/
theorem reaches_created (hnow : draw.now.secs = peer.clock)
    (hfresh : tokenOf draw.tokenBytes ∉ peer.sessions.drawn) :
    ∃ peer', Reaches B overflowChecks i draw peer (.login request (.creating stored did .len)) peer'
        (.login request (.creating stored did (.returned (peer.sessions.store.create
          overflowChecks did (peer.router draw).now.session).1))) ∧
      peer'.challenges = peer.challenges ∧ peer'.clock = peer.clock ∧
      peer'.sessions.store = (peer.sessions.store.create overflowChecks did
        (peer.router draw).now.session).2 := by
  cases hfull : peer.sessions.store.isFull with
  | false =>
      have hlen : peer.step B overflowChecks i (.login request (.creating stored did .len)) draw =
          some (peer, .login request (.creating stored did .sessionsForDid)) := by
        simp only [PeerState.step, PeerState.loginStep, SessionServer.createStep, hfull]
        rfl
      have hcreate : peer.sessions.store.create overflowChecks did (peer.router draw).now.session =
          peer.sessions.store.admitDid overflowChecks did (peer.router draw).now.session := by
        rw [SessionStore.create, hfull]
        rfl
      obtain ⟨peer', hreaches, hsame⟩ :=
        reaches_admitted B overflowChecks i peer request stored did hnow hfresh
      rw [hcreate]
      exact ⟨peer', .step hnow hlen hreaches, hsame⟩
  | true =>
      let before := peer.sessions.store.backend.len
      let purged : PeerState := { peer with sessions := peer.sessions.purge peer.clock }
      have hlen : peer.step B overflowChecks i (.login request (.creating stored did .len)) draw =
          some (peer, .login request (.creating stored did .purgeLen)) := by
        simp only [PeerState.step, PeerState.loginStep, SessionServer.createStep, hfull]
        rfl
      have hbefore : peer.step B overflowChecks i
          (.login request (.creating stored did .purgeLen)) draw =
            some (peer, .login request (.creating stored did (.purgeRetain before))) := rfl
      have hretain : peer.step B overflowChecks i
          (.login request (.creating stored did (.purgeRetain before))) draw =
            some (purged, .login request (.creating stored did (.purgeLenAfter before))) := rfl
      have hunder : purged.sessions.underflows overflowChecks before = false := by
        have hle : purged.sessions.store.backend.len ≤ before := InMemoryBackend.len_retain_le _
        rw [SessionServer.underflows, decide_eq_false (by omega), Bool.and_false]
      have hafter : purged.step B overflowChecks i
          (.login request (.creating stored did (.purgeLenAfter before))) draw =
            some (purged, .login request (.creating stored did .lenAgain)) := by
        simp only [PeerState.step, PeerState.loginStep, SessionServer.createStep, hunder]
        rfl
      cases hstill : purged.sessions.store.isFull with
      | false =>
          have hagain : purged.step B overflowChecks i
              (.login request (.creating stored did .lenAgain)) draw =
                some (purged, .login request (.creating stored did .sessionsForDid)) := by
            simp only [PeerState.step, PeerState.loginStep, SessionServer.createStep, hstill]
            rfl
          have hcreate : peer.sessions.store.create overflowChecks did
              (peer.router draw).now.session = purged.sessions.store.admitDid overflowChecks did
                (purged.router draw).now.session :=
            (SessionStore.create_of_full hfull).trans (if_neg (Bool.eq_false_iff.mp hstill))
          obtain ⟨peer', hreaches, hsame⟩ :=
            reaches_admitted B overflowChecks i purged request stored did hnow hfresh
          rw [hcreate]
          exact ⟨peer', .step hnow hlen (.step hnow hbefore (.step hnow hretain
            (.step hnow hafter (.step hnow hagain hreaches)))), hsame⟩
      | true =>
          let full : AuthError := .sessionStoreFull purged.sessions.store.maxSessions
          have hagain : purged.step B overflowChecks i
              (.login request (.creating stored did .lenAgain)) draw =
                some (purged, .login request (.creating stored did
                  (.returned (some (.error full))))) := by
            simp only [PeerState.step, PeerState.loginStep, SessionServer.createStep, hstill]
            rfl
          have hcreate : peer.sessions.store.create overflowChecks did
              (peer.router draw).now.session =
                (some (.error full), purged.sessions.store) :=
            (SessionStore.create_of_full hfull).trans (if_pos hstill)
          rw [hcreate]
          exact ⟨purged, .step hnow hlen (.step hnow hbefore (.step hnow hretain
            (.step hnow hafter (.step hnow hagain .refl)))), rfl, rfl, rfl⟩

/-- What a login answers once its `create` has returned. -/
theorem reaches_answered (hnow : draw.now.secs = peer.clock)
    (result : Option (Except AuthError Session)) :
    ∃ stage, Reaches B overflowChecks i draw peer
        (.login request (.creating stored did (.returned result))) peer (.login request stage) ∧
      stage.Answers (result.map fun result => (result.mapError fun _ => .serviceUnavailable).map
        fun session => ⟨session.did, session.token, session.validUntil, session.createdAt⟩) := by
  cases result with
  | none => exact ⟨_, .refl, .panicked stored did⟩
  | some outcome =>
      cases outcome with
      | error e => exact ⟨_, .step hnow rfl .refl, .responded _⟩
      | ok session => exact ⟨_, .step hnow rfl .refl, .responded _⟩

/-- A session request alone is answered as `session_handler` answers it. -/
theorem login_alone (hnow : draw.now.secs = peer.clock)
    (hfresh : tokenOf draw.tokenBytes ∉ peer.sessions.drawn) :
    ∃ peer' stage, Reaches B overflowChecks i draw peer
        (.login request (.validating .remove)) peer' (.login request stage) ∧
      stage.Answers ((peer.router draw).sessionHandler B overflowChecks request).1 ∧
      peer'.challenges = ((peer.router draw).sessionHandler B overflowChecks request).2.challenges ∧
      peer'.sessions.store =
        ((peer.router draw).sessionHandler B overflowChecks request).2.sessions := by
  cases hget : peer.challenges.challenges.get request.nonce with
  | none =>
      have hremove : peer.step B overflowChecks i (.login request (.validating .remove)) draw =
          some (peer, .login request (.validating (.returned (.error .challengeNotFound)))) := by
        simp only [PeerState.step, PeerState.loginStep, ChallengeStore.validateStep, hget]
        rfl
      have hhandler : (peer.router draw).sessionHandler B overflowChecks request =
          (some (.error .notFound), peer.router draw) := by
        have hvalidate : (peer.router draw).challenges.validate request.nonce
            (peer.router draw).now.readAt = (.error .challengeNotFound, peer.challenges) := by
          rw [ChallengeStore.validate]
          simp only [PeerState.router, hget]
        simp only [Router.sessionHandler, hvalidate]
        rfl
      rw [hhandler]
      exact ⟨peer, _, .step hnow hremove (.step hnow rfl .refl), .responded _, rfl, rfl⟩
  | some held =>
      let taken : ChallengeStore :=
        { peer.challenges with challenges := peer.challenges.challenges.remove request.nonce }
      let peer₁ : PeerState :=
        PeerState.record { peer with challenges := taken } i (some (held, .consumed))
      let checked := ChallengeStore.checkExpiry held peer.clock
      let peer₂ : PeerState :=
        peer₁.record i (ValidateStage.event request.nonce (.returned checked))
      have hremove : peer.step B overflowChecks i (.login request (.validating .remove)) draw =
          some (peer₁, .login request (.validating (.clock held))) := by
        simp only [PeerState.step, PeerState.loginStep, ChallengeStore.validateStep, hget]
        rfl
      have hclock : peer₁.step B overflowChecks i
          (.login request (.validating (.clock held))) draw =
            some (peer₂, .login request (.validating (.returned checked))) := by
        simp only [PeerState.step, PeerState.loginStep, ChallengeStore.validateStep, hnow]
        rfl
      have hvalidate : (peer.router draw).challenges.validate request.nonce
          (peer.router draw).now.readAt = (checked, taken) := by
        rw [ChallengeStore.validate]
        simp only [PeerState.router, hget]
        rfl
      obtain ⟨hchallenges, hsessions, hsame⟩ := PeerState.record_same peer₁ i
        (ValidateStage.event request.nonce (.returned checked))
      have hnow₂ : draw.now.secs = peer₂.clock := hnow.trans hsame.symm
      cases hchecked : checked with
      | error e =>
          have he : e = .challengeExpired := by
            have herror : ChallengeStore.checkExpiry held peer.clock = .error e := hchecked
            unfold ChallengeStore.checkExpiry at herror
            split at herror
            · exact (Except.error.inj herror).symm
            · cases herror
          subst he
          have hhandler : (peer.router draw).sessionHandler B overflowChecks request =
              (some (.error .unauthorized), { peer.router draw with challenges := taken }) := by
            simp only [Router.sessionHandler, hvalidate, hchecked]
          rw [hhandler]
          rw [hchecked] at hclock
          exact ⟨peer₂, _, .step hnow hremove (.step hnow hclock (.step hnow₂ rfl .refl)),
            .responded _, hchallenges, congrArg SessionServer.store hsessions⟩
      | ok valid =>
          rw [hchecked] at hclock hvalidate
          cases hauth : authorise B request valid with
          | error status =>
              have hrefused : peer₂.step B overflowChecks i
                  (.login request (.validating (.returned (.ok valid)))) draw =
                    some (peer₂, .login request (.responded (.error status))) := by
                simp only [PeerState.step, PeerState.loginStep, hauth]
                rfl
              have hhandler : (peer.router draw).sessionHandler B overflowChecks request =
                  (some (.error status), { peer.router draw with challenges := taken }) := by
                simp only [Router.sessionHandler, hvalidate, hauth]
              rw [hhandler]
              exact ⟨peer₂, _, .step hnow hremove (.step hnow hclock (.step hnow₂ hrefused .refl)),
                .responded _, hchallenges, congrArg SessionServer.store hsessions⟩
          | ok principal =>
              have hadmitted : peer₂.step B overflowChecks i
                  (.login request (.validating (.returned (.ok valid)))) draw =
                    some (peer₂, .login request (.creating valid principal.did .len)) := by
                simp only [PeerState.step, PeerState.loginStep, hauth]
                rfl
              have hfresh₂ : tokenOf draw.tokenBytes ∉ peer₂.sessions.drawn := by
                rw [hsessions]
                exact hfresh
              have hhandler : (peer.router draw).sessionHandler B overflowChecks request =
                  Router.openSession overflowChecks { peer.router draw with challenges := taken }
                    principal.did := by
                simp only [Router.sessionHandler, hvalidate, hauth]
              have hstart : (peer₂.router draw).now.session = (peer.router draw).now.session := by
                show (⟨peer₂.clock, draw.tokenBytes, peer₂.clock⟩ : SessionDraws) = _
                rw [hsame]
                rfl
              obtain ⟨peer₃, hcreated, hkept, hclock₃, hstore⟩ :=
                reaches_created B overflowChecks i peer₂ request valid principal.did hnow₂ hfresh₂
              rw [hstart, hsessions] at hcreated hstore
              obtain ⟨stage, hanswered, hanswers⟩ :=
                reaches_answered B overflowChecks i peer₃ request valid principal.did
                  (hnow₂.trans hclock₃.symm) (peer.sessions.store.create overflowChecks
                    principal.did (peer.router draw).now.session).1
              rw [hhandler]
              exact ⟨peer₃, stage, .step hnow hremove (.step hnow hclock (.step hnow₂ hadmitted
                (hcreated.trans hanswered))), hanswers, hkept.trans hchallenges, hstore⟩

/-! ## A request for a challenge -/

variable {d : Option Str}

/-- The end of a `create` that has made room. -/
theorem reaches_inserted (hnow : draw.now.secs = peer.clock)
    (hfresh : ChallengeStore.nonceOf draw.nonceBytes ∉ peer.drawn) :
    ∃ peer', Reaches B overflowChecks i draw peer (.challenge d (.creating did .insert)) peer'
        (.challenge d (.creating did (.returned
          (peer.challenges.issue B did draw.nonceBytes draw.now).1))) ∧
      peer'.challenges = (peer.challenges.issue B did draw.nonceBytes draw.now).2 ∧
      peer'.sessions = peer.sessions ∧ peer'.clock = peer.clock := by
  let outcome := peer.challenges.issue B did draw.nonceBytes draw.now
  let peer₁ : PeerState :=
    { peer with
      challenges := outcome.2
      drawn := ChallengeStore.nonceOf draw.nonceBytes :: peer.drawn }
  let event := CreateStage.event (.returned outcome.1)
  have hinsert : peer.step B overflowChecks i (.challenge d (.creating did .insert)) draw =
      some (peer₁.record i event, .challenge d (.creating did (.returned outcome.1))) := by
    simp only [PeerState.step, PeerState.challengeStep, ChallengeStore.createStep, if_neg hfresh]
    rfl
  obtain ⟨hchallenges, hsessions, hclock⟩ := PeerState.record_same peer₁ i event
  exact ⟨peer₁.record i event, .step hnow hinsert .refl, hchallenges, hsessions, hclock⟩

/-- A `create` alone, within a request for a challenge. -/
theorem reaches_issued (hnow : draw.now.secs = peer.clock)
    (hfresh : ChallengeStore.nonceOf draw.nonceBytes ∉ peer.drawn) :
    ∃ peer', Reaches B overflowChecks i draw peer (.challenge d (.creating did .len)) peer'
        (.challenge d (.creating did (.returned (peer.challenges.create B did
          (peer.router draw).now.challenge).1))) ∧
      peer'.challenges = (peer.challenges.create B did (peer.router draw).now.challenge).2 ∧
      peer'.sessions = peer.sessions ∧ peer'.clock = peer.clock := by
  cases hvalid : validateDidWellFormed B did with
  | error e =>
      have hlen : peer.step B overflowChecks i (.challenge d (.creating did .len)) draw =
          some (peer, .challenge d (.creating did (.returned (some (.error (.crypto e)))))) := by
        simp only [PeerState.step, PeerState.challengeStep, ChallengeStore.createStep, hvalid]
        rfl
      have hcreate : peer.challenges.create B did (peer.router draw).now.challenge =
          (some (.error (.crypto e)), peer.challenges) := by
        rw [ChallengeStore.create, hvalid]
      rw [hcreate]
      exact ⟨peer, .step hnow hlen .refl, rfl, rfl, rfl⟩
  | ok _ =>
      have hcreate : peer.challenges.create B did (peer.router draw).now.challenge =
          (peer.challenges.makeRoom draw.now.secs).issue B did draw.nonceBytes draw.now := by
        rw [ChallengeStore.create, hvalid]
        rfl
      rw [hcreate]
      cases hfull : peer.challenges.isFull with
      | false =>
          have hlen : peer.step B overflowChecks i (.challenge d (.creating did .len)) draw =
              some (peer, .challenge d (.creating did .insert)) := by
            simp only [PeerState.step, PeerState.challengeStep, ChallengeStore.createStep, hvalid,
              hfull]
            rfl
          have hroom : peer.challenges.makeRoom draw.now.secs = peer.challenges := by
            rw [ChallengeStore.makeRoom, hfull]
            rfl
          obtain ⟨peer', hreaches, hsame⟩ :=
            reaches_inserted B overflowChecks i peer did (d := d) hnow hfresh
          rw [hroom]
          exact ⟨peer', .step hnow hlen hreaches, hsame⟩
      | true =>
          let cleaned : PeerState :=
            { peer with challenges := peer.challenges.cleanupExpired draw.now.secs }
          have hlen : peer.step B overflowChecks i (.challenge d (.creating did .len)) draw =
              some (peer, .challenge d (.creating did .cleanup)) := by
            simp only [PeerState.step, PeerState.challengeStep, ChallengeStore.createStep, hvalid,
              hfull]
            rfl
          have hcleanup : peer.step B overflowChecks i (.challenge d (.creating did .cleanup))
              draw = some (cleaned, .challenge d (.creating did .lenAgain)) := rfl
          cases hstill : cleaned.challenges.isFull with
          | false =>
              have hagain : cleaned.step B overflowChecks i
                  (.challenge d (.creating did .lenAgain)) draw =
                    some (cleaned, .challenge d (.creating did .insert)) := by
                simp only [PeerState.step, PeerState.challengeStep, ChallengeStore.createStep,
                  hstill]
                rfl
              have hroom : peer.challenges.makeRoom draw.now.secs = cleaned.challenges :=
                (ChallengeStore.makeRoom_of_full hfull).trans
                  (if_neg (Bool.eq_false_iff.mp hstill))
              obtain ⟨peer', hreaches, hsame⟩ :=
                reaches_inserted B overflowChecks i cleaned did (d := d) hnow hfresh
              rw [hroom]
              exact ⟨peer', .step hnow hlen (.step hnow hcleanup (.step hnow hagain hreaches)),
                hsame⟩
          | true =>
              let evicted : PeerState := { peer with challenges := cleaned.challenges.evictOldest }
              have hagain : cleaned.step B overflowChecks i
                  (.challenge d (.creating did .lenAgain)) draw =
                    some (cleaned, .challenge d (.creating did .scan)) := by
                simp only [PeerState.step, PeerState.challengeStep, ChallengeStore.createStep,
                  hstill]
                rfl
              have hscan : cleaned.step B overflowChecks i (.challenge d (.creating did .scan))
                  draw = some (cleaned, .challenge d
                    (.creating did (.remove cleaned.challenges.victim))) := rfl
              have hremove : cleaned.step B overflowChecks i
                  (.challenge d (.creating did (.remove cleaned.challenges.victim))) draw =
                    some (evicted, .challenge d (.creating did .insert)) := rfl
              have hroom : peer.challenges.makeRoom draw.now.secs = evicted.challenges :=
                (ChallengeStore.makeRoom_of_full hfull).trans (if_pos hstill)
              obtain ⟨peer', hreaches, hsame⟩ :=
                reaches_inserted B overflowChecks i evicted did (d := d) hnow hfresh
              rw [hroom]
              exact ⟨peer', .step hnow hlen (.step hnow hcleanup (.step hnow hagain
                (.step hnow hscan (.step hnow hremove hreaches)))), hsame⟩

/-- A request for a challenge alone is answered as `challenge_handler` answers it. -/
theorem challenge_alone (hnow : draw.now.secs = peer.clock)
    (hfresh : ChallengeStore.nonceOf draw.nonceBytes ∉ peer.drawn) (d : Option Str) :
    ∃ peer' stage, Reaches B overflowChecks i draw peer (.challenge d .received) peer'
        (.challenge d stage) ∧
      stage.Answers ((peer.router draw).challengeHandler B d).1 ∧
      peer'.challenges = ((peer.router draw).challengeHandler B d).2.challenges ∧
      peer'.sessions.store = ((peer.router draw).challengeHandler B d).2.sessions := by
  cases d with
  | none => exact ⟨peer, _, .step hnow rfl .refl, .responded _, rfl, rfl⟩
  | some did =>
      cases hmethod : findDidMethod B did with
      | none =>
          have hrefused : peer.step B overflowChecks i (.challenge (some did) .received) draw =
              some (peer, .challenge (some did) (.responded (.error .badRequest))) := by
            simp only [PeerState.step, PeerState.challengeStep, hmethod]
            rfl
          have hhandler : (peer.router draw).challengeHandler B (some did) =
              (some (.error .badRequest), peer.router draw) := by
            simp only [Router.challengeHandler, hmethod]
          rw [hhandler]
          exact ⟨peer, _, .step hnow hrefused .refl, .responded _, rfl, rfl⟩
      | some m =>
          have hstart : peer.step B overflowChecks i (.challenge (some did) .received) draw =
              some (peer, .challenge (some did) (.creating did .len)) := by
            simp only [PeerState.step, PeerState.challengeStep, hmethod]
            rfl
          have hhandler : (peer.router draw).challengeHandler B (some did) =
              (((peer.challenges.create B did (peer.router draw).now.challenge).1.map
                fun result => (result.mapError fun _ => .badRequest).map fun challenge =>
                  ⟨challenge.nonce, challenge.message, challenge.expiresAt⟩),
                { peer.router draw with challenges :=
                  (peer.challenges.create B did (peer.router draw).now.challenge).2 }) := by
            simp only [Router.challengeHandler, hmethod]
            rfl
          obtain ⟨peer₁, hcreated, hchallenges, hsessions, hclock⟩ :=
            reaches_issued B overflowChecks i peer did (d := some did) hnow hfresh
          have hnow₁ : draw.now.secs = peer₁.clock := hnow.trans hclock.symm
          have hstore := congrArg SessionServer.store hsessions
          rw [hhandler]
          cases hresult : (peer.challenges.create B did (peer.router draw).now.challenge).1 with
          | none =>
              rw [hresult] at hcreated
              exact ⟨peer₁, _, .step hnow hstart hcreated, .panicked did, hchallenges, hstore⟩
          | some result =>
              rw [hresult] at hcreated
              cases result with
              | error e =>
                  exact ⟨peer₁, _, .step hnow hstart (hcreated.trans (.step hnow₁ rfl .refl)),
                    .responded _, hchallenges, hstore⟩
              | ok challenge =>
                  exact ⟨peer₁, _, .step hnow hstart (hcreated.trans (.step hnow₁ rfl .refl)),
                    .responded _, hchallenges, hstore⟩

end

/-! ## Both handlers -/

/-- A request of the peer that nothing interrupts is answered as its route answers it, and leaves
the two stores as the route does. -/
theorem handlers_alone (B : Build) (overflowChecks : Bool) (c : Config PeerState PeerThread)
    (i : Nat) (draw : PeerDraw) (hnow : draw.now.secs = c.shared.clock)
    (hnonce : ChallengeStore.nonceOf draw.nonceBytes ∉ c.shared.drawn)
    (htoken : tokenOf draw.tokenBytes ∉ c.shared.sessions.drawn) :
    (∀ did, c.threads[i]? = some (.challenge did .received) → ∃ k peer' stage,
      (peerSystem B overflowChecks).run c (List.replicate k (.move i draw)) =
          some ⟨peer', c.threads.set i (.challenge did stage)⟩ ∧
        stage.Answers ((c.shared.router draw).challengeHandler B did).1 ∧
        peer'.challenges = ((c.shared.router draw).challengeHandler B did).2.challenges ∧
        peer'.sessions.store = ((c.shared.router draw).challengeHandler B did).2.sessions) ∧
    ∀ request, c.threads[i]? = some (.login request (.validating .remove)) → ∃ k peer' stage,
      (peerSystem B overflowChecks).run c (List.replicate k (.move i draw)) =
          some ⟨peer', c.threads.set i (.login request stage)⟩ ∧
        stage.Answers ((c.shared.router draw).sessionHandler B overflowChecks request).1 ∧
        peer'.challenges =
          ((c.shared.router draw).sessionHandler B overflowChecks request).2.challenges ∧
        peer'.sessions.store =
          ((c.shared.router draw).sessionHandler B overflowChecks request).2.sessions := by
  constructor
  · intro did hthread
    obtain ⟨peer', stage, hreaches, hanswers⟩ :=
      challenge_alone B overflowChecks i c.shared hnow hnonce did
    obtain ⟨k, hrun⟩ := hreaches.run hthread
    exact ⟨k, peer', stage, hrun, hanswers⟩
  · intro request hthread
    obtain ⟨peer', stage, hreaches, hanswers⟩ :=
      login_alone B overflowChecks i c.shared request hnow htoken
    obtain ⟨k, hrun⟩ := hreaches.run hthread
    exact ⟨k, peer', stage, hrun, hanswers⟩

/-- A session that has lapsed. -/
def lapsedSession : Session :=
  ⟨loginDid, tokenOf ⟨List.replicate 32 1, length_replicate32 1⟩, 1700000000, 1699996400⟩

/-- A peer with room for one challenge and one session, which holds the challenge of a login and a
session that has lapsed. -/
def fullPeer : PeerState :=
  { loginPeer.shared with
    clock := 1700000010
    challenges :=
      { ChallengeStore.withCapacity 300 Duration.fiveMinutes_lt (text "aqua-node")
          (text "http://127.0.0.1:3000") 1 with
        challenges := .single loginNonce ⟨loginDid, loginNonce, loginMessage, 1700000300⟩ }
    sessions :=
      ⟨{ SessionStore.withCapacity 3600 1 64 with
          backend := InMemoryBackend.new.insert lapsedSession }, [lapsedSession.token]⟩
    drawn := [loginNonce] }

/-- A request for a challenge and the login, at the full peer. -/
def fullRequests : Config PeerState PeerThread :=
  ⟨fullPeer, [.challenge (some loginDid) .received, .login loginRequest (.validating .remove)]⟩

def freshDraw : PeerDraw :=
  ⟨loginReading, ⟨List.replicate 32 11, length_replicate32 11⟩,
    ⟨List.replicate 32 11, length_replicate32 11⟩⟩

/-- Alone, the request for a challenge evicts the one that is stored; alone, the login gets its
session in place of the lapsed one. -/
theorem handlers_alone_full :
    (∃ k peer' envelope,
      (peerSystem loginBuild false).run fullRequests (List.replicate k (.move 0 freshDraw)) =
          some ⟨peer', fullRequests.threads.set 0
            (.challenge (some loginDid) (.responded (.ok envelope)))⟩ ∧
        peer'.challenges.challenges.get loginNonce = none) ∧
    ∃ k peer' response,
      (peerSystem loginBuild false).run fullRequests (List.replicate k (.move 1 freshDraw)) =
          some ⟨peer', fullRequests.threads.set 1
            (.login loginRequest (.responded (.ok response)))⟩ ∧
        response.did = loginDid ∧
        peer'.sessions.store.backend.get lapsedSession.token = none := by
  have hnow : freshDraw.now.secs = fullRequests.shared.clock := by decide +kernel
  have hnonce : ChallengeStore.nonceOf freshDraw.nonceBytes ∉ fullRequests.shared.drawn := by
    decide +kernel
  have htoken : tokenOf freshDraw.tokenBytes ∉ fullRequests.shared.sessions.drawn := by
    decide +kernel
  constructor
  · obtain ⟨k, peer', stage, hrun, hanswers, hchallenges, _⟩ :=
      (handlers_alone loginBuild false fullRequests 0 freshDraw hnow hnonce htoken).1
        (some loginDid) rfl
    have hanswer : ((fullRequests.shared.router freshDraw).challengeHandler loginBuild
        (some loginDid)).1.map Except.isOk = some true := by
      decide +kernel
    have hevicted : ((fullRequests.shared.router freshDraw).challengeHandler loginBuild
        (some loginDid)).2.challenges.challenges.get loginNonce = none := by
      decide +kernel
    obtain ⟨result, hresult, hok⟩ := Option.map_eq_some_iff.mp hanswer
    obtain ⟨envelope, rfl⟩ := isOk_iff.mp hok
    rw [hresult] at hanswers
    cases hanswers
    exact ⟨k, peer', envelope, hrun, hchallenges ▸ hevicted⟩
  · obtain ⟨k, peer', stage, hrun, hanswers, _, hsessions⟩ :=
      (handlers_alone loginBuild false fullRequests 1 freshDraw hnow hnonce htoken).2
        loginRequest rfl
    have hanswer : ((fullRequests.shared.router freshDraw).sessionHandler loginBuild false
        loginRequest).1.map (fun result => result.toOption.map SessionResponse.did) =
          some (some loginDid) := by
      decide +kernel
    have hlapsed : ((fullRequests.shared.router freshDraw).sessionHandler loginBuild false
        loginRequest).2.sessions.backend.get lapsedSession.token = none := by
      decide +kernel
    obtain ⟨result, hresult, hmapped⟩ := Option.map_eq_some_iff.mp hanswer
    obtain ⟨response, hresponse, hdid⟩ := Option.map_eq_some_iff.mp hmapped
    obtain rfl := toOption_eq_some.mp hresponse
    rw [hresult] at hanswers
    cases hanswers
    exact ⟨k, peer', response, hrun, hdid, hsessions ▸ hlapsed⟩

end AquaAuth
