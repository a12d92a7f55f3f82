import AquaAuth.Proofs.SessionCaps
set_option autoImplicit false
/-!
# Concurrent calls of the session store

A `create` that passed its capacity check holds a reservation until it returns, and the check
passes only below the cap, so sessions and reservations together stay below the cap and the
number of creates in flight.  Of other DIDs a `create` takes only what its purge finds expired:
the session it evicts was scanned among those of its own DID, and tokens are never drawn twice.
-/

namespace AquaAuth

open Support Support.Interleaving

namespace SessionThread

/-- A `create` that has not returned. -/
def inFlight : SessionThread → Bool
  | .create _ (.returned _) => false
  | .create _ _ => true
  | _ => false

/-- A `create` that has passed its check and not returned. -/
def reserves : SessionThread → Bool
  | .create _ .sessionsForDid => true
  | .create _ (.remove _) => true
  | .create _ .insert => true
  | _ => false

theorem inFlight_of_reserves {t : SessionThread} (h : t.reserves = true) : t.inFlight = true := by
  unfold reserves at h
  split at h <;> first | rfl | cases h

end SessionThread

namespace SessionServer

variable {server server' : SessionServer} {t t' : SessionThread} {draw : SessionStepDraw}
  {overflowChecks : Bool}

/-! ## One access -/

/-- A server with some of its sessions. -/
def keep (server : SessionServer) (p : Session → Bool) : SessionServer :=
  { server with store := server.store.keep p }

theorem keep_all : server.keep (fun _ => true) = server := by
  simp only [keep, SessionStore.keep_true]

theorem removeToken_eq_keep (token : Str) :
    server.removeToken token = server.keep fun s => s.token ≠ token := by
  simp only [removeToken, keep, SessionStore.keep, InMemoryBackend.erase_eq_retain]

theorem purge_eq_keep (now : Nat) : server.purge now = server.keep fun s => now < s.validUntil :=
  rfl

theorem evict_eq_keep (oldest : Option Session) :
    { server with store := server.store.evict oldest : SessionServer } =
      server.keep fun s => ∀ s' ∈ oldest, s.token ≠ s'.token := by
  rw [SessionStore.evict_eq_keep]
  rfl

/-- What an access does: it keeps some of the sessions, and a reservation is made by a check that
finds room only; or it inserts, with a token that was not drawn before. -/
inductive Accesses (overflowChecks : Bool) (server : SessionServer) (draw : SessionStepDraw) :
    SessionThread → SessionServer → SessionThread → Prop
  | kept {t t' : SessionThread} (p : Session → Bool)
      (h : t'.reserves = true → t.reserves = true) :
      Accesses overflowChecks server draw t (server.keep p) t'
  | checks {t : SessionThread} {did : Str}
      (hroom : server.store.backend.len < server.store.maxSessions) :
      Accesses overflowChecks server draw t server (.create did .sessionsForDid)
  | inserts {did : Str} (hfresh : tokenOf draw.tokenBytes ∉ server.drawn) :
      Accesses overflowChecks server draw (.create did .insert)
        ⟨(server.store.issue overflowChecks did draw.tokenBytes draw.now).2,
          tokenOf draw.tokenBytes :: server.drawn⟩
        (.create did (.returned
          (server.store.issue overflowChecks did draw.tokenBytes draw.now).1))

theorem Accesses.same {t t' : SessionThread} (h : t'.reserves = true → t.reserves = true) :
    Accesses overflowChecks server draw t server t' := by
  have hkept : Accesses overflowChecks server draw t (server.keep fun _ => true) t' := .kept _ h
  rwa [keep_all] at hkept

theorem accesses_createStep {did : Str} {stage stage' : SessionCreateStage}
    (h : server.createStep overflowChecks did stage draw = some (server', stage')) :
    Accesses overflowChecks server draw (.create did stage) server' (.create did stage') := by
  cases stage with
  | len =>
      obtain ⟨rfl, rfl⟩ := Prod.mk.inj (Option.some.inj h)
      cases hfull : server.store.isFull with
      | true => exact .same (by simp [SessionThread.reserves])
      | false =>
          refine .checks ?_
          simpa [SessionStore.isFull] using hfull
  | purgeLen =>
      obtain ⟨rfl, rfl⟩ := Prod.mk.inj (Option.some.inj h)
      exact .same (by simp [SessionThread.reserves])
  | purgeRetain before =>
      obtain ⟨rfl, rfl⟩ := Prod.mk.inj (Option.some.inj h)
      exact .kept _ (by simp [SessionThread.reserves])
  | purgeLenAfter before =>
      obtain ⟨rfl, rfl⟩ := Prod.mk.inj (Option.some.inj h)
      refine .same ?_
      split_ifs <;> simp [SessionThread.reserves]
  | lenAgain =>
      obtain ⟨rfl, rfl⟩ := Prod.mk.inj (Option.some.inj h)
      cases hfull : server.store.isFull with
      | true => exact .same (by simp [SessionThread.reserves])
      | false =>
          refine .checks ?_
          simpa [SessionStore.isFull] using hfull
  | sessionsForDid =>
      obtain ⟨rfl, rfl⟩ := Prod.mk.inj (Option.some.inj h)
      exact .same (by simp [SessionThread.reserves])
  | remove oldest =>
      obtain ⟨rfl, rfl⟩ := Prod.mk.inj (Option.some.inj h)
      rw [evict_eq_keep]
      exact .kept _ (by simp [SessionThread.reserves])
  | insert =>
      simp only [createStep] at h
      split_ifs at h with hdrawn
      obtain ⟨rfl, rfl⟩ := Prod.mk.inj (Option.some.inj h)
      exact .inserts hdrawn
  | returned result => cases h

theorem accesses_validateStep {token : Str} {stage stage' : SessionValidateStage}
    (h : server.validateStep token stage draw = some (server', stage')) :
    Accesses overflowChecks server draw (.validate token stage) server'
      (.validate token stage') := by
  cases stage with
  | get =>
      simp only [validateStep] at h
      cases hget : server.store.backend.get token with
      | none =>
          simp only [hget] at h
          obtain ⟨rfl, rfl⟩ := Prod.mk.inj (Option.some.inj h)
          exact .same (by simp [SessionThread.reserves])
      | some session =>
          simp only [hget] at h
          obtain ⟨rfl, rfl⟩ := Prod.mk.inj (Option.some.inj h)
          exact .same (by simp [SessionThread.reserves])
  | clock session =>
      obtain ⟨rfl, rfl⟩ := Prod.mk.inj (Option.some.inj h)
      exact .same (by simp [SessionThread.reserves])
  | remove =>
      obtain ⟨rfl, rfl⟩ := Prod.mk.inj (Option.some.inj h)
      rw [removeToken_eq_keep]
      exact .kept _ (by simp [SessionThread.reserves])
  | returned result => cases h

theorem accesses_revokeAllStep {did : Str} {stage stage' : RevokeAllStage}
    (h : server.revokeAllStep did stage = some (server', stage')) :
    Accesses overflowChecks server draw (.revokeAllForDid did stage) server'
      (.revokeAllForDid did stage') := by
  cases stage with
  | scan =>
      obtain ⟨rfl, rfl⟩ := Prod.mk.inj (Option.some.inj h)
      exact .same (by simp [SessionThread.reserves])
  | removing tokens count =>
      cases tokens with
      | nil =>
          obtain ⟨rfl, rfl⟩ := Prod.mk.inj (Option.some.inj h)
          exact .same (by simp [SessionThread.reserves])
      | cons token tokens =>
          obtain ⟨rfl, rfl⟩ := Prod.mk.inj (Option.some.inj h)
          rw [removeToken_eq_keep]
          exact .kept _ (by simp [SessionThread.reserves])
  | returned count => cases h

theorem accesses_purgeStep {stage stage' : PurgeStage}
    (h : server.purgeStep overflowChecks stage draw = some (server', stage')) :
    Accesses overflowChecks server draw (.cleanup stage) server' (.cleanup stage') := by
  cases stage with
  | len =>
      obtain ⟨rfl, rfl⟩ := Prod.mk.inj (Option.some.inj h)
      exact .same (by simp [SessionThread.reserves])
  | retain before =>
      obtain ⟨rfl, rfl⟩ := Prod.mk.inj (Option.some.inj h)
      exact .kept _ (by simp [SessionThread.reserves])
  | lenAfter before =>
      obtain ⟨rfl, rfl⟩ := Prod.mk.inj (Option.some.inj h)
      exact .same (by simp [SessionThread.reserves])
  | returned => cases h
  | panicked => cases h

theorem accesses_step (h : server.step overflowChecks t draw = some (server', t')) :
    Accesses overflowChecks server draw t server' t' := by
  cases t with
  | create did stage =>
      obtain ⟨⟨moved, stage'⟩, hmoved, heq⟩ := Option.map_eq_some_iff.mp h
      obtain ⟨rfl, rfl⟩ := Prod.mk.inj heq
      exact accesses_createStep hmoved
  | validate token stage =>
      obtain ⟨⟨moved, stage'⟩, hmoved, heq⟩ := Option.map_eq_some_iff.mp h
      obtain ⟨rfl, rfl⟩ := Prod.mk.inj heq
      exact accesses_validateStep hmoved
  | revoke token result =>
      cases result with
      | none =>
          obtain ⟨rfl, rfl⟩ := Prod.mk.inj (Option.some.inj h)
          rw [removeToken_eq_keep]
          exact .kept _ (by simp [SessionThread.reserves])
      | some removed => cases h
  | revokeAllForDid did stage =>
      obtain ⟨⟨moved, stage'⟩, hmoved, heq⟩ := Option.map_eq_some_iff.mp h
      obtain ⟨rfl, rfl⟩ := Prod.mk.inj heq
      exact accesses_revokeAllStep hmoved
  | cleanup stage =>
      obtain ⟨⟨moved, stage'⟩, hmoved, heq⟩ := Option.map_eq_some_iff.mp h
      obtain ⟨rfl, rfl⟩ := Prod.mk.inj heq
      exact accesses_purgeStep hmoved

theorem len_issue_le (store : SessionStore) (did : Str) (tokenBytes : ByteArr 32) (now : Nat) :
    (store.issue overflowChecks did tokenBytes now).2.backend.len ≤ store.backend.len + 1 := by
  rcases SessionStore.issue_cases overflowChecks store did tokenBytes now with ⟨h, _⟩ | ⟨_, h, _⟩
  · rw [h]
    exact Nat.le_succ _
  · rw [h]
    exact InMemoryBackend.len_insert_le

theorem maxSessions_issue (store : SessionStore) (did : Str) (tokenBytes : ByteArr 32)
    (now : Nat) :
    (store.issue overflowChecks did tokenBytes now).2.maxSessions = store.maxSessions := by
  rcases SessionStore.issue_cases overflowChecks store did tokenBytes now with
      ⟨h, _⟩ | ⟨_, h, _⟩ <;>
    rw [h]

theorem maxSessions_step (h : server.step overflowChecks t draw = some (server', t')) :
    server'.store.maxSessions = server.store.maxSessions := by
  cases accesses_step h with
  | kept p _ => rfl
  | checks _ => rfl
  | inserts _ => exact maxSessions_issue _ _ _ _

/-! ## The cap -/

variable {M k : Nat} {c c' : Config SessionServer SessionThread}
  {schedule : List (Action SessionThread SessionStepDraw Empty)}

/-- At most `k` creates are in flight after a step. -/
def FlightAtMost (overflowChecks : Bool) (k : Nat) (c : Config SessionServer SessionThread)
    (a : Action SessionThread SessionStepDraw Empty) : Prop :=
  ∀ c' ∈ (sessionSystem overflowChecks).next c a, c'.threads.countP SessionThread.inFlight ≤ k

instance (k : Nat) (c : Config SessionServer SessionThread)
    (a : Action SessionThread SessionStepDraw Empty) :
    Decidable (FlightAtMost overflowChecks k c a) :=
  inferInstanceAs (Decidable (∀ c' ∈ (sessionSystem overflowChecks).next c a, _))

theorem starts_not_reserves {t : SessionThread} (h : t.starts = true) : t.reserves = false := by
  cases t with
  | create did stage =>
      have hstage : stage = .len := by simpa [SessionThread.starts] using h
      rw [hstage]
      rfl
  | _ => rfl

/-- A server with an empty store. -/
def fresh (ttlSecs maxSessions maxSessionsPerDid : Nat) : SessionServer :=
  ⟨.withCapacity ttlSecs maxSessions maxSessionsPerDid, []⟩

/-- Sessions and reservations together stay below the cap and the creates in flight. -/
theorem reserved_le {ttlSecs maxSessionsPerDid : Nat}
    (hrun : (sessionSystem overflowChecks).run (Config.initial (fresh ttlSecs M maxSessionsPerDid))
      schedule = some c)
    (hflight : (sessionSystem overflowChecks).Along (FlightAtMost overflowChecks k)
      (Config.initial (fresh ttlSecs M maxSessionsPerDid)) schedule) :
    c.shared.store.maxSessions = M ∧
      c.shared.store.backend.len + c.threads.countP SessionThread.reserves ≤ M + k - 1 := by
  apply System.run_reserved (fun server => server.store.backend.len) SessionThread.reserves
    (I := fun server => server.store.maxSessions = M) ?entry ?move ?ambient hrun hflight rfl
    (Nat.zero_le _)
  case entry => exact fun t ht => starts_not_reserves ht
  case ambient => exact fun _ event => event.elim
  case move =>
    intro c i draw t server' t' hM hflight hi hmove
    refine ⟨(maxSessions_step hmove).trans hM, ?_⟩
    have hnext : (sessionSystem overflowChecks).next c (.move i draw) =
        some ⟨server', c.threads.set i t'⟩ :=
      System.next_move.mpr ⟨t, server', t', hi, hmove, rfl⟩
    have hmany : (c.threads.set i t').countP SessionThread.inFlight ≤ k := hflight _ hnext
    cases accesses_step hmove with
    | kept p h =>
        refine .inl (Nat.add_le_add (InMemoryBackend.len_retain_le p) ?_)
        by_cases ht' : t'.reserves = true
        · rw [if_pos ht', if_pos (h ht')]
        · rw [if_neg ht']
          exact Nat.zero_le _
    | @checks _ did hroom =>
        have hreserved : (c.threads.set i (.create did .sessionsForDid)).countP
              SessionThread.reserves ≤
            (c.threads.set i (.create did .sessionsForDid)).countP SessionThread.inFlight :=
          List.countP_mono_left fun t _ ht => SessionThread.inFlight_of_reserves ht
        exact .inr (by omega)
    | inserts _ => exact .inl (len_issue_le _ _ _ _)

/-! ## The other DIDs -/

/-- Every stored session has a token that was drawn. -/
def StoresDrawn (server : SessionServer) : Prop :=
  ∀ token session, server.store.backend.get token = some session → token ∈ server.drawn

/-- A scanned victim belongs to the DID, and its token names no other session. -/
def ScannedOwn (server : SessionServer) : SessionThread → Prop
  | .create did (.remove (some oldest)) =>
      oldest.did = did ∧ oldest.token ∈ server.drawn ∧
        ∀ session, server.store.backend.get oldest.token = some session → session = oldest
  | _ => True

theorem get_issue {store : SessionStore} {did token : Str} {tokenBytes : ByteArr 32} {now : Nat}
    (hother : token ≠ tokenOf tokenBytes) :
    (store.issue overflowChecks did tokenBytes now).2.backend.get token =
      store.backend.get token := by
  rcases SessionStore.issue_cases overflowChecks store did tokenBytes now with ⟨h, _⟩ | ⟨_, h, _⟩
  · rw [h]
  · rw [h, InMemoryBackend.get_insert, if_neg hother]

theorem get_keep {token : Str} {session : Session} {p : Session → Bool} :
    (server.keep p).store.backend.get token = some session ↔
      server.store.backend.get token = some session ∧ p session = true := by
  show (server.store.backend.retain p).get token = some session ↔ _
  rw [InMemoryBackend.get_retain, Option.filter_eq_some_iff]

/-- An access stores a session only under a token it draws, which was not drawn before. -/
theorem get_of_step (h : server.step overflowChecks t draw = some (server', t')) {token : Str}
    {session : Session} (hget : server'.store.backend.get token = some session) :
    server.store.backend.get token = some session ∨
      token ∉ server.drawn ∧ token ∈ server'.drawn := by
  cases accesses_step h with
  | kept p _ => exact .inl (get_keep.mp hget).1
  | checks _ => exact .inl hget
  | inserts hfresh =>
      by_cases htoken : token = tokenOf draw.tokenBytes
      · subst htoken
        exact .inr ⟨hfresh, List.mem_cons_self⟩
      · exact .inl ((get_issue htoken).symm.trans hget)

theorem drawn_of_step (h : server.step overflowChecks t draw = some (server', t')) {token : Str}
    (htoken : token ∈ server.drawn) : token ∈ server'.drawn := by
  cases accesses_step h with
  | kept p _ => exact htoken
  | checks _ => exact htoken
  | inserts _ => exact List.mem_cons_of_mem _ htoken

theorem StoresDrawn.step (hstores : server.StoresDrawn)
    (h : server.step overflowChecks t draw = some (server', t')) : server'.StoresDrawn := by
  intro token session hget
  rcases get_of_step h hget with hold | ⟨_, hnew⟩
  · exact drawn_of_step h (hstores token session hold)
  · exact hnew

theorem ScannedOwn.step {u : SessionThread} (hu : server.ScannedOwn u)
    (h : server.step overflowChecks t draw = some (server', t')) : server'.ScannedOwn u := by
  unfold ScannedOwn at hu ⊢
  split at hu
  · obtain ⟨hdid, hdrawn, honly⟩ := hu
    refine ⟨hdid, drawn_of_step h hdrawn, fun session hget => ?_⟩
    rcases get_of_step h hget with hold | ⟨hnot, _⟩
    · exact honly session hold
    · exact absurd hdrawn hnot
  · trivial

theorem scannedOwn_of_scan {did : Str} (hstores : server.StoresDrawn) :
    server.ScannedOwn (.create did (.remove
      (server.store.overQuota (server.store.backend.sessionsForDid did)))) := by
  cases hover : server.store.overQuota (server.store.backend.sessionsForDid did) with
  | none => trivial
  | some oldest =>
      obtain ⟨hget, hdid⟩ :=
        InMemoryBackend.mem_sessionsForDid.mp (SessionStore.overQuota_eq_some hover).2.1
      refine ⟨hdid, hstores _ _ hget, fun session hsession => ?_⟩
      rw [hget] at hsession
      exact (Option.some.inj hsession).symm

theorem scannedOwn_step (hstores : server.StoresDrawn)
    (h : server.step overflowChecks t draw = some (server', t')) : server'.ScannedOwn t' := by
  have hother : ∀ u : SessionThread, (∀ did oldest, u ≠ .create did (.remove (some oldest))) →
      server'.ScannedOwn u := by
    intro u hu
    unfold ScannedOwn
    split
    · exact absurd rfl (hu _ _)
    · trivial
  cases t with
  | create did stage =>
      obtain ⟨⟨moved, stage'⟩, hmoved, heq⟩ := Option.map_eq_some_iff.mp h
      obtain ⟨rfl, rfl⟩ := Prod.mk.inj heq
      cases stage with
      | sessionsForDid =>
          obtain ⟨rfl, rfl⟩ := Prod.mk.inj (Option.some.inj hmoved)
          exact scannedOwn_of_scan hstores
      | insert =>
          apply hother
          intro did' oldest heq
          simp only [createStep] at hmoved
          split_ifs at hmoved
          obtain ⟨_, rfl⟩ := Prod.mk.inj (Option.some.inj hmoved)
          cases heq
      | returned result => cases hmoved
      | _ =>
          apply hother
          intro did' oldest heq
          obtain ⟨_, rfl⟩ := Prod.mk.inj (Option.some.inj hmoved)
          revert heq
          first | (split_ifs <;> simp) | simp
  | revoke token result =>
      apply hother
      intro did oldest heq
      subst heq
      cases result <;> cases h
  | _ =>
      apply hother
      intro did oldest heq
      obtain ⟨_, _, hmoved⟩ := Option.map_eq_some_iff.mp h
      rw [heq] at hmoved
      cases hmoved

theorem scanned_run {ttlSecs maxSessionsPerDid : Nat}
    (hrun : (sessionSystem overflowChecks).run (Config.initial (fresh ttlSecs M maxSessionsPerDid))
      schedule = some c) :
    c.shared.StoresDrawn ∧
      ∀ (i : Nat) t, c.threads[i]? = some t → c.shared.ScannedOwn t := by
  apply System.run_localInvariant (I := StoresDrawn) (L := fun server _ t => server.ScannedOwn t)
    ?spawn ?move ?stable ?ambient hrun ?start
  case spawn =>
    intro server i t _ hentry
    cases t with
    | create did stage =>
        have hstage : stage = .len := of_decide_eq_true hentry
        rw [hstage]
        trivial
    | _ => trivial
  case move =>
    intro server i t draw server' t' hstores _ hmove
    exact ⟨hstores.step hmove, scannedOwn_step hstores hmove⟩
  case stable => exact fun _ _ _ _ _ _ _ _ _ _ hmove _ hu => hu.step hmove
  case ambient => exact fun _ event => event.elim
  case start =>
    intro token session hget
    cases hget

/-- What an access of a `create` takes away belongs to its DID or has expired at the reading the
access takes. -/
theorem taken_own_or_expired {did : Str} {stage : SessionCreateStage} {session : Session}
    (hstores : server.StoresDrawn) (hscanned : server.ScannedOwn (.create did stage))
    (h : server.step overflowChecks (.create did stage) draw = some (server', t'))
    (hget : server.store.backend.get session.token = some session)
    (hgone : server'.store.backend.get session.token ≠ some session) :
    session.did = did ∨ session.validUntil ≤ draw.now := by
  obtain ⟨⟨moved, stage'⟩, hmoved, heq⟩ := Option.map_eq_some_iff.mp h
  obtain ⟨rfl, rfl⟩ := Prod.mk.inj heq
  cases stage with
  | purgeRetain before =>
      obtain ⟨rfl, _⟩ := Prod.mk.inj (Option.some.inj hmoved)
      rw [purge_eq_keep] at hgone
      have hexpired : ¬ draw.now < session.validUntil := fun hlive =>
        hgone (get_keep.mpr ⟨hget, by simpa using hlive⟩)
      exact .inr (not_lt.mp hexpired)
  | remove oldest =>
      obtain ⟨rfl, _⟩ := Prod.mk.inj (Option.some.inj hmoved)
      rw [evict_eq_keep] at hgone
      cases oldest with
      | none => exact absurd (get_keep.mpr ⟨hget, by simp⟩) hgone
      | some oldest =>
          obtain ⟨hdid, _, honly⟩ := hscanned
          by_cases htoken : session.token = oldest.token
          · rw [htoken] at hget
            rw [honly session hget]
            exact .inl hdid
          · exact absurd (get_keep.mpr ⟨hget, by simpa using htoken⟩) hgone
  | insert =>
      simp only [createStep] at hmoved
      split_ifs at hmoved with hdrawn
      obtain ⟨rfl, _⟩ := Prod.mk.inj (Option.some.inj hmoved)
      have hother : session.token ≠ tokenOf draw.tokenBytes := fun heq =>
        hdrawn (heq ▸ hstores _ _ hget)
      exact absurd ((get_issue hother).trans hget) hgone
  | returned result => cases hmoved
  | _ =>
      obtain ⟨rfl, _⟩ := Prod.mk.inj (Option.some.inj hmoved)
      exact absurd hget hgone

/-- With at most `k` creates in flight an interleaving of calls keeps the store below the cap and
the creates in flight, and no access of a `create` takes a session of another DID that has not
expired. -/
theorem sessions_bounded (overflowChecks : Bool) (M k ttlSecs maxSessionsPerDid : Nat)
    {schedule : List (Action SessionThread SessionStepDraw Empty)}
    {c : Config SessionServer SessionThread}
    (hrun : (sessionSystem overflowChecks).run (Config.initial (fresh ttlSecs M maxSessionsPerDid))
      schedule = some c)
    (hflight : (sessionSystem overflowChecks).Along (FlightAtMost overflowChecks k)
      (Config.initial (fresh ttlSecs M maxSessionsPerDid)) schedule) :
    c.shared.store.backend.len ≤ M + k - 1 ∧
    ∀ (i : Nat) did stage draw c' session, c.threads[i]? = some (.create did stage) →
      (sessionSystem overflowChecks).next c (.move i draw) = some c' →
      c.shared.store.backend.get session.token = some session →
      c'.shared.store.backend.get session.token ≠ some session →
      session.did = did ∨ session.validUntil ≤ draw.now := by
  refine ⟨(Nat.le_add_right _ _).trans (reserved_le hrun hflight).2, ?_⟩
  intro i did stage draw c' session hi hnext hget hgone
  obtain ⟨hstores, hscanned⟩ := scanned_run hrun
  obtain ⟨t, server', t', hi', hmove, rfl⟩ := System.next_move.mp hnext
  rw [hi] at hi'
  obtain rfl := Option.some.inj hi'
  exact taken_own_or_expired hstores (hscanned i _ hi) hmove hget hgone

/-! ## Two logins at once -/

def loginDraw (b : UInt8) : SessionStepDraw := ⟨1700000000, SessionStore.sampleTokenBytes b⟩

/-- Two creates that check an empty store before either inserts. -/
def twoLogins : List (Action SessionThread SessionStepDraw Empty) :=
  [.spawn (.create (text "did:pkh:eip155:1:0xabc") .len),
    .spawn (.create (text "did:pkh:eip155:1:0xdef") .len)] ++
    (List.replicate 4 [0, 1]).flatten.map fun i => .move i (loginDraw (UInt8.ofNat i))

/-- Two creates in flight leave a store for one session with two, and no more. -/
theorem sessions_bounded_logins : ∃ c, (sessionSystem false).run
    (Config.initial (fresh 3600 1 8)) twoLogins = some c ∧
      c.shared.store.backend.len = 2 ∧ c.shared.store.backend.len ≤ 1 + 2 - 1 := by
  have hsome : ((sessionSystem false).run (Config.initial (fresh 3600 1 8)) twoLogins).isSome =
      true := by decide +kernel
  obtain ⟨c, hrun⟩ := Option.isSome_iff_exists.mp hsome
  have htwo : ∀ c ∈ (sessionSystem false).run (Config.initial (fresh 3600 1 8)) twoLogins,
      c.shared.store.backend.len = 2 := by decide +kernel
  exact ⟨c, hrun, htwo c hrun, (sessions_bounded false 1 2 3600 8 hrun (by decide +kernel)).1⟩

end SessionServer

end AquaAuth
