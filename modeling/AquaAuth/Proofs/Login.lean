import AquaAuth.Support.Chronicle
import AquaAuth.Proofs.Admission
import AquaAuth.Proofs.PeerSteps
import AquaAuth.Proofs.Registry
set_option autoImplicit false
/-!
# Login safety

Whatever the interleaving of requests, sweeps and evictions, every session was opened by a request
that consumed a challenge of its own: issued before to the DID of the session, not expired, and
signed over its message.  What carries the argument is the log: each entry is justified by an
earlier one of the same challenge, and no two entries of one kind have the same nonce.
-/

namespace AquaAuth

open Support Support.Result Support.Interleaving

/-! ## The log -/

/-- An entry of this stage of the challenge, made by the thread. -/
def LogEntry.IsBy (e : LogEntry) (thread : Nat) (m : Milestone) (challenge : Challenge) : Prop :=
  e.thread = thread ∧ e.milestone = m ∧ e.challenge = challenge

/-- Why an entry stands where it does, behind the entries `before` it. -/
inductive Cause (B : Build) (e : LogEntry) (before : List LogEntry) : Prop where
  | issued (h : e.event = .issued)
  | consumed (h : e.event = .consumed)
      (hissued : ∃ e' ∈ before, e'.milestone = .issued ∧ e'.challenge = e.challenge)
  | validated (h : e.event = .validated e.challenge.nonce)
      (hconsumed : ∃ e' ∈ before, e'.IsBy e.thread .consumed e.challenge)
      (hunexpired : e.now < e.challenge.expiresAt)
  | loggedIn {request : SessionRequest} {session : Session}
      (h : e.event = .loggedIn request session)
      (hvalidated : ∃ e' ∈ before, e'.IsBy e.thread .validated e.challenge)
      (hnonce : e.challenge.nonce = request.nonce)
      (hauthorised : Authorised B request e.challenge session.did)

/-- An entry is justified, and the first of its stage for the nonce. -/
structure Justified (B : Build) (e : LogEntry) (before : List LogEntry) : Prop where
  first : ∀ e' ∈ before, e'.milestone = e.milestone → e'.challenge.nonce ≠ e.challenge.nonce
  cause : Cause B e before

/-- Every entry is justified by those before it. -/
def History (B : Build) (log : List LogEntry) : Prop := Chronicle (Justified B) log

/-- The stage an entry stands for, and its nonce. -/
def LogEntry.key (e : LogEntry) : Milestone × Str := (e.milestone, e.challenge.nonce)

variable {B : Build} {log : List LogEntry} {e e' : LogEntry}

theorem Justified.key_ne (e : LogEntry) (before : List LogEntry) (h : Justified B e before) :
    ∀ e' ∈ before, e'.key ≠ e.key := by
  intro e' he' hkey
  obtain ⟨hstage, hnonce⟩ := Prod.mk.inj hkey
  exact h.first e' he' hstage hnonce

/-- No nonce gets to a stage twice. -/
theorem History.eq_of_mem (h : History B log) (he : e ∈ log) (he' : e' ∈ log)
    (hsame : e'.milestone = e.milestone) (hnonce : e'.challenge.nonce = e.challenge.nonce) :
    e' = e :=
  Chronicle.eq_of_mem h LogEntry.key Justified.key_ne he he' (Prod.ext hsame hnonce)

/-! ## The invariant -/

/-- The stage a request is about to bring its challenge to. -/
def Milestone.next : Milestone → Milestone
  | .issued => .consumed
  | .consumed => .validated
  | .validated => .loggedIn
  | .loggedIn => .loggedIn

/-- What a request that holds a challenge relies on. -/
structure Held (B : Build) (log : List LogEntry) (i : Nat) (held : Holding) : Prop where
  stage : held.milestone = .consumed ∨ held.milestone = .validated
  nonce_eq : held.challenge.nonce = held.request.nonce
  authorised : ∀ did ∈ held.did, Authorised B held.request held.challenge did
  reached : ∃ e ∈ log, e.IsBy i held.milestone held.challenge
  pending : ∀ e ∈ log, e.milestone = held.milestone.next →
    e.challenge.nonce ≠ held.challenge.nonce

/-- What holds between two steps: the log justifies itself, every stored challenge was issued and
not consumed, and every stored session was logged in. -/
structure PeerInvariant (B : Build) (peer : PeerState) : Prop where
  history : History B peer.log
  drawn : ∀ e ∈ peer.log, e.challenge.nonce ∈ peer.drawn
  keyed : ∀ {nonce c}, peer.challenges.challenges.get nonce = some c → c.nonce = nonce
  stored : ∀ {nonce c}, peer.challenges.challenges.get nonce = some c →
    (∃ e ∈ peer.log, e.milestone = .issued ∧ e.challenge = c) ∧
      ∀ e ∈ peer.log, e.milestone = .consumed → e.challenge.nonce ≠ nonce
  sessions : ∀ {token session}, peer.sessions.store.backend.get token = some session →
    ∃ e ∈ peer.log, ∃ request, e.event = .loggedIn request session

/-- The entries of the stages a challenge went through before. -/
theorem History.validated_of_loggedIn (h : History B log) (he : e ∈ log)
    (hm : e.milestone = .loggedIn) :
    ∃ e' ∈ log, e'.IsBy e.thread .validated e.challenge := by
  obtain ⟨before, hsub, hjustified⟩ := Chronicle.of_mem h he
  cases hjustified.cause with
  | issued hevent => simp [LogEntry.milestone, hevent, PeerEvent.milestone] at hm
  | consumed hevent _ => simp [LogEntry.milestone, hevent, PeerEvent.milestone] at hm
  | validated hevent _ _ => simp [LogEntry.milestone, hevent, PeerEvent.milestone] at hm
  | loggedIn _ hvalidated _ _ =>
      obtain ⟨e', he', hby⟩ := hvalidated
      exact ⟨e', hsub he', hby⟩

theorem History.consumed_of_validated (h : History B log) (he : e ∈ log)
    (hm : e.milestone = .validated) :
    ∃ e' ∈ log, e'.IsBy e.thread .consumed e.challenge := by
  obtain ⟨before, hsub, hjustified⟩ := Chronicle.of_mem h he
  cases hjustified.cause with
  | issued hevent => simp [LogEntry.milestone, hevent, PeerEvent.milestone] at hm
  | consumed hevent _ => simp [LogEntry.milestone, hevent, PeerEvent.milestone] at hm
  | validated _ hconsumed _ =>
      obtain ⟨e', he', hby⟩ := hconsumed
      exact ⟨e', hsub he', hby⟩
  | loggedIn hevent _ _ _ => simp [LogEntry.milestone, hevent, PeerEvent.milestone] at hm

variable {peer peer' : PeerState} {i j : Nat} {t t' : PeerThread} {held held' : Holding}

theorem Held.concat (h : Held B log i held)
    (hother : e.milestone = held.milestone.next → e.challenge.nonce ≠ held.challenge.nonce) :
    Held B (log ++ [e]) i held where
  stage := h.stage
  nonce_eq := h.nonce_eq
  authorised := h.authorised
  reached := by
    obtain ⟨e', he', hby⟩ := h.reached
    exact ⟨e', List.mem_append_left _ he', hby⟩
  pending := by
    intro e' he' hnext
    rcases List.mem_append.mp he' with he' | he'
    · exact h.pending e' he' hnext
    · rw [List.mem_singleton.mp he'] at hnext ⊢
      exact hother hnext

/-- Two threads do not hold challenges with one nonce at the same stage. -/
theorem Held.nonce_ne (hhistory : History B log) (hi : Held B log i held) (hj : Held B log j held')
    (hne : j ≠ i) (hsame : held'.milestone = held.milestone) :
    held.challenge.nonce ≠ held'.challenge.nonce := by
  obtain ⟨e, he, hthread, hstage, hchallenge⟩ := hi.reached
  obtain ⟨e', he', hthread', hstage', hchallenge'⟩ := hj.reached
  intro hnonce
  have heq : e' = e := by
    apply hhistory.eq_of_mem he he'
    · rw [hstage', hstage, hsame]
    · rw [hchallenge', hchallenge, hnonce]
  rw [heq, hthread] at hthread'
  exact hne hthread'.symm

/-- What an entry adds to the log has to say for the invariant to survive it. -/
theorem PeerInvariant.record (h : PeerInvariant B peer) {store : ChallengeStore}
    {server : SessionServer} {drawn : List Str} (he : Justified B e peer.log)
    (hdrawn : e.challenge.nonce ∈ drawn) (hsub : peer.drawn ⊆ drawn)
    (hstored : ∀ {nonce c}, store.challenges.get nonce = some c →
      peer.challenges.challenges.get nonce = some c ∨
        e.milestone = .issued ∧ e.challenge = c ∧ c.nonce = nonce ∧ nonce ∉ peer.drawn)
    (hconsumed : e.milestone = .consumed → store.challenges.get e.challenge.nonce = none)
    (hsessions : ∀ {token session}, server.store.backend.get token = some session →
      peer.sessions.store.backend.get token = some session ∨
        ∃ request, e.event = .loggedIn request session) :
    PeerInvariant B ⟨peer.clock, store, server, drawn, peer.log ++ [e]⟩ where
  history := Chronicle.concat h.history he
  drawn := by
    intro e' he'
    rcases List.mem_append.mp he' with he' | he'
    · exact hsub (h.drawn e' he')
    · rw [List.mem_singleton.mp he']
      exact hdrawn
  keyed := by
    intro nonce c hget
    rcases hstored hget with hold | ⟨_, _, hnonce, _⟩
    · exact h.keyed hold
    · exact hnonce
  stored := by
    intro nonce c hget
    constructor
    · rcases hstored hget with hold | ⟨hissued, hchallenge, _, _⟩
      · obtain ⟨e', he', hissued⟩ := (h.stored hold).1
        exact ⟨e', List.mem_append_left _ he', hissued⟩
      · exact ⟨e, List.mem_append_right _ (List.mem_singleton.mpr rfl), hissued, hchallenge⟩
    · intro e' he' hm hnonce
      rcases List.mem_append.mp he' with he' | he'
      · rcases hstored hget with hold | ⟨_, _, _, hfresh⟩
        · exact (h.stored hold).2 e' he' hm hnonce
        · exact hfresh (hnonce ▸ h.drawn e' he')
      · obtain rfl := List.mem_singleton.mp he'
        rw [← hnonce, hconsumed hm] at hget
        cases hget
  sessions := by
    intro token session hget
    rcases hsessions hget with hold | ⟨request, hevent⟩
    · obtain ⟨e', he', hlogged⟩ := h.sessions hold
      exact ⟨e', List.mem_append_left _ he', hlogged⟩
    · exact ⟨e, List.mem_append_right _ (List.mem_singleton.mpr rfl), request, hevent⟩

/-- The entry that brings a challenge to a stage is what the thread relies on afterwards. -/
theorem Held.record {request : SessionRequest}
    (hstage : e.milestone = .consumed ∨ e.milestone = .validated)
    (hnonce : e.challenge.nonce = request.nonce)
    (hpending : ∀ e' ∈ log, e'.milestone = e.milestone.next →
      e'.challenge.nonce ≠ e.challenge.nonce) :
    Held B (log ++ [e]) e.thread ⟨e.milestone, request, e.challenge, none⟩ where
  stage := hstage
  nonce_eq := hnonce
  authorised := by
    intro did hdid
    cases hdid
  reached := ⟨e, List.mem_append_right _ (List.mem_singleton.mpr rfl), rfl, rfl, rfl⟩
  pending := by
    intro e' he' hnext
    rcases List.mem_append.mp he' with he' | he'
    · exact hpending e' he' hnext
    · rw [List.mem_singleton.mp he'] at hnext
      rcases hstage with hstage | hstage <;> rw [hstage] at hnext <;> cases hnext

theorem PeerInvariant.held_drawn (h : PeerInvariant B peer) (hheld : Held B peer.log i held) :
    held.challenge.nonce ∈ peer.drawn := by
  obtain ⟨e, he, _, _, hchallenge⟩ := hheld.reached
  rw [← hchallenge]
  exact h.drawn e he

/-- A step keeps the invariant. -/
theorem PeerStep.invariant (h : PeerStep B peer i t peer' t') (hI : PeerInvariant B peer)
    (hheld : ∀ held ∈ t.holding, Held B peer.log i held) : PeerInvariant B peer' := by
  cases h with
  | quiet hclock hlog hdrawn hget hsessions hholding =>
      exact
        { history := hlog ▸ hI.history
          drawn := fun e he => hdrawn (hI.drawn e (hlog ▸ he))
          keyed := fun h => hI.keyed (hget h)
          stored := fun h => hlog ▸ hI.stored (hget h)
          sessions := fun h => hlog ▸ hI.sessions (hsessions h) }
  | @issues challenge store t' hfresh hstore ht' =>
      refine hI.record ⟨?_, .issued rfl⟩ List.mem_cons_self (List.subset_cons_self _ _) ?_ ?_ .inl
      · intro e' he' _ hnonce
        exact hfresh (hnonce ▸ hI.drawn e' he')
      · intro nonce c hget
        rw [hstore, KeyedMap.get_insert] at hget
        split_ifs at hget with hnonce
        · obtain rfl := Option.some.inj hget
          exact .inr ⟨rfl, rfl, hnonce.symm, hnonce ▸ hfresh⟩
        · exact .inl hget
      · intro hconsumed
        cases hconsumed
  | @consumes request challenge store t' hget hstore ht' =>
      have hnonce := hI.keyed hget
      obtain ⟨hissued, hunconsumed⟩ := hI.stored hget
      refine hI.record ⟨?_, .consumed rfl hissued⟩ ?_ (List.Subset.refl _) ?_ ?_ .inl
      · intro e' he' hm
        show e'.challenge.nonce ≠ challenge.nonce
        rw [hnonce]
        exact hunconsumed e' he' hm
      · obtain ⟨e', he', _, heq⟩ := hissued
        exact heq ▸ hI.drawn e' he'
      · intro nonce c hget'
        rw [hstore, KeyedMap.get_remove] at hget'
        split_ifs at hget' with hsame
        exact .inl hget'
      · intro _
        show store.challenges.get challenge.nonce = none
        rw [hstore, KeyedMap.get_remove, if_pos hnonce]
  | @validates request challenge t' ht hunexpired ht' =>
      have hold := hheld _ ht
      have hevent : PeerEvent.validated request.nonce = .validated challenge.nonce :=
        congrArg PeerEvent.validated hold.nonce_eq.symm
      refine hI.record ⟨hold.pending, .validated hevent hold.reached hunexpired⟩
        (hI.held_drawn hold) (List.Subset.refl _) .inl ?_ .inl
      intro hconsumed
      cases hconsumed
  | @logsIn request challenge session server t' hsessions ht ht' =>
      have hold := hheld _ ht
      refine hI.record ⟨hold.pending, .loggedIn rfl hold.reached hold.nonce_eq
        (hold.authorised _ rfl)⟩ (hI.held_drawn hold) (List.Subset.refl _) .inl ?_ ?_
      · intro hconsumed
        cases hconsumed
      · intro token session' hget
        rw [hsessions, InMemoryBackend.get_insert] at hget
        split_ifs at hget
        · obtain rfl := Option.some.inj hget
          exact .inr ⟨request, rfl⟩
        · exact .inl hget

/-- A step gives its thread what the thread relies on. -/
theorem PeerStep.holds (h : PeerStep B peer i t peer' t') (hI : PeerInvariant B peer)
    (hheld : ∀ held ∈ t.holding, Held B peer.log i held) :
    ∀ held ∈ t'.holding, Held B peer'.log i held := by
  intro held' hheld'
  cases h with
  | quiet hclock hlog hdrawn hget hsessions hholding =>
      obtain ⟨held, hmem, hmilestone, hrequest, hchallenge, hdid⟩ := hholding held' hheld'
      have hold := hheld held hmem
      rw [hlog]
      refine ⟨hmilestone ▸ hold.stage, ?_, ?_, ?_, ?_⟩
      · rw [hchallenge, hrequest]
        exact hold.nonce_eq
      · intro did hmem'
        rw [hrequest, hchallenge]
        exact (hdid did hmem').elim (hold.authorised did) id
      · rw [hmilestone, hchallenge]
        exact hold.reached
      · rw [hmilestone, hchallenge]
        exact hold.pending
  | issues hfresh hstore ht' =>
      rw [ht'] at hheld'
      cases hheld'
  | @consumes request challenge store t' hget hstore ht' =>
      have hnonce := hI.keyed hget
      rw [ht'] at hheld'
      cases hheld'
      apply Held.record (.inl rfl) hnonce
      -- Had the challenge been accepted before, it would have been consumed before.
      intro e he hm
      obtain ⟨e₁, he₁, _, hm₁, heq⟩ := hI.history.consumed_of_validated he hm
      rw [← heq]
      show e₁.challenge.nonce ≠ challenge.nonce
      rw [hnonce]
      exact (hI.stored hget).2 e₁ he₁ hm₁
  | @validates request challenge t' ht hunexpired ht' =>
      have hold := hheld _ ht
      rw [ht'] at hheld'
      cases hheld'
      apply Held.record (.inr rfl) hold.nonce_eq
      intro e he hm
      obtain ⟨e₁, he₁, _, hm₁, heq⟩ := hI.history.validated_of_loggedIn he hm
      rw [← heq]
      exact hold.pending e₁ he₁ hm₁
  | logsIn hsessions ht ht' =>
      rw [ht'] at hheld'
      cases hheld'

/-- A step leaves what another thread relies on. -/
theorem PeerStep.stable (h : PeerStep B peer i t peer' t') (hI : PeerInvariant B peer)
    (hheld : ∀ held ∈ t.holding, Held B peer.log i held) (hne : j ≠ i)
    (hj : Held B peer.log j held) : Held B peer'.log j held := by
  cases h with
  | quiet _ hlog _ _ _ _ => rwa [hlog]
  | issues _ _ _ =>
      apply hj.concat
      intro hnext
      rcases hj.stage with hstage | hstage <;> rw [hstage] at hnext <;> cases hnext
  | consumes _ _ _ =>
      apply hj.concat
      intro hnext
      rcases hj.stage with hstage | hstage <;> rw [hstage] at hnext <;> cases hnext
  | validates ht _ _ =>
      apply hj.concat
      intro hnext
      rcases hj.stage with hstage | hstage
      · exact (hheld _ ht).nonce_ne hI.history hj hne hstage
      · rw [hstage] at hnext
        cases hnext
  | logsIn _ ht _ =>
      apply hj.concat
      intro hnext
      rcases hj.stage with hstage | hstage
      · rw [hstage] at hnext
        cases hnext
      · exact (hheld _ ht).nonce_ne hI.history hj hne hstage

/-! ## Runs -/

theorem PeerInvariant.start (clock challengeTtl : Nat) (httl : challengeTtl < 2 ^ 64)
    (domain uri : Str) (maxChallenges sessionTtl maxSessions maxSessionsPerDid : Nat) :
    PeerInvariant B (.start clock challengeTtl httl domain uri maxChallenges sessionTtl maxSessions
      maxSessionsPerDid) where
  history := Chronicle.nil
  drawn := by
    intro e he
    cases he
  keyed := by
    intro nonce c hget
    cases hget
  stored := by
    intro nonce c hget
    cases hget
  sessions := by
    intro token session hget
    cases hget

/-- The invariant holds after every run. -/
theorem PeerInvariant.run {overflowChecks : Bool} {c : Config PeerState PeerThread}
    {schedule : List (Action PeerThread PeerDraw Nat)}
    (h : (peerSystem B overflowChecks).run (.initial peer) schedule = some c)
    (hI : PeerInvariant B peer) : PeerInvariant B c.shared := by
  have hmoves : ∀ s i t k s' t', (peerSystem B overflowChecks).move s i t k = some (s', t') →
      PeerStep B s i t s' t' := by
    intro s i t k s' t' hmove
    simp only [peerSystem] at hmove
    split_ifs at hmove with hnow
    exact .of_step hnow hmove
  refine (System.run_localInvariant (I := PeerInvariant B)
    (L := fun s i t => ∀ held ∈ t.holding, Held B s.log i held) ?spawn ?move ?stable ?ambient
    h hI).1
  case spawn =>
    intro s i t _ hentry held hmem
    rw [PeerThread.holding_of_starts hentry] at hmem
    cases hmem
  case move =>
    intro s i t k s' t' hI hheld hmove
    have hstep := hmoves s i t k s' t' hmove
    exact ⟨hstep.invariant hI hheld, hstep.holds hI hheld⟩
  case stable =>
    intro s i t k s' t' j u hI hheld hmove hne hother held hmem
    exact (hmoves s i t k s' t' hmove).stable hI hheld hne (hother held hmem)
  case ambient =>
    intro s now s' hI hs'
    obtain rfl := Option.some.inj hs'
    exact ⟨⟨hI.history, hI.drawn, hI.keyed, hI.stored, hI.sessions⟩, fun _ _ => id⟩

/-! ### The clock -/

/-- What the clock is set to, in turn. -/
def clockSettings (schedule : List (Action PeerThread PeerDraw Nat)) : List Nat :=
  schedule.filterMap fun
    | .ambient now => some now
    | _ => none

/-- The entries are in the order of their times, and none is from the future. -/
def Chronological (peer : PeerState) : Prop :=
  (peer.log.Pairwise fun e e' => e.now ≤ e'.now) ∧ ∀ e ∈ peer.log, e.now ≤ peer.clock

theorem PeerStep.chronological (h : PeerStep B peer i t peer' t') (hpeer : Chronological peer) :
    Chronological peer' := by
  have hconcat : ∀ e : LogEntry, e.now = peer.clock → ∀ store server drawn,
      Chronological ⟨peer.clock, store, server, drawn, peer.log ++ [e]⟩ := by
    intro e hnow store server drawn
    constructor
    · apply List.pairwise_append.mpr
      refine ⟨hpeer.1, List.pairwise_singleton _ _, fun e' he' e'' he'' => ?_⟩
      rw [List.mem_singleton.mp he'', hnow]
      exact hpeer.2 e' he'
    · intro e' he'
      rcases List.mem_append.mp he' with he' | he'
      · exact hpeer.2 e' he'
      · rw [List.mem_singleton.mp he', hnow]
  cases h with
  | quiet hclock hlog _ _ _ _ =>
      unfold Chronological
      rw [hclock, hlog]
      exact hpeer
  | issues _ _ _ => exact hconcat _ rfl _ _ _
  | consumes _ _ _ => exact hconcat _ rfl _ _ _
  | validates _ _ _ => exact hconcat _ rfl _ _ _
  | logsIn _ _ _ => exact hconcat _ rfl _ _ _

theorem PeerStep.clock_eq (h : PeerStep B peer i t peer' t') : peer'.clock = peer.clock := by
  cases h with
  | quiet hclock _ _ _ _ _ => exact hclock
  | issues _ _ _ => rfl
  | consumes _ _ _ => rfl
  | validates _ _ _ => rfl
  | logsIn _ _ _ => rfl

/-- Unless the clock is set back, the log stays in order. -/
theorem Chronological.run {overflowChecks : Bool} {c c' : Config PeerState PeerThread}
    {schedule : List (Action PeerThread PeerDraw Nat)}
    (h : (peerSystem B overflowChecks).run c schedule = some c')
    (hsettings : (c.shared.clock :: clockSettings schedule).Pairwise (· ≤ ·))
    (hc : Chronological c.shared) : Chronological c'.shared := by
  induction schedule generalizing c with
  | nil =>
      obtain rfl := Option.some.inj h
      exact hc
  | cons a schedule ih =>
      obtain ⟨c₁, hnext, hrun⟩ := System.run_cons.mp h
      cases a with
      | spawn call =>
          obtain ⟨_, rfl⟩ := System.next_spawn.mp hnext
          exact ih hrun hsettings hc
      | move i k =>
          obtain ⟨t, s, t', _, hmove, rfl⟩ := System.next_move.mp hnext
          simp only [peerSystem] at hmove
          split_ifs at hmove with hnow
          have hstep := PeerStep.of_step hnow hmove
          refine ih hrun ?_ (hstep.chronological hc)
          rw [hstep.clock_eq]
          exact hsettings
      | ambient now =>
          obtain ⟨s, hs, rfl⟩ := System.next_ambient.mp hnext
          obtain rfl := Option.some.inj hs
          obtain ⟨hfirst, hrest⟩ := List.pairwise_cons.mp hsettings
          have hle : c.shared.clock ≤ now := hfirst now List.mem_cons_self
          exact ih hrun hrest ⟨hc.1, fun e he => (hc.2 e he).trans hle⟩

/-! ## Safety -/

/-- The log has this event of the challenge at a position. -/
def Occurs (log : List LogEntry) (k : ℕ) (challenge : Challenge) (event : PeerEvent) (now : ℕ) :
    Prop :=
  ∃ thread, log[k]? = some ⟨thread, now, challenge, event⟩

/-- What stands behind a session that is opened at position `k`: a challenge issued at position
`source`, to the DID of the session, and consumed once in between, when it had not expired; and a
signature of its message. -/
structure Traced (B : Build) (log : List LogEntry) (request : SessionRequest) (session : Session)
    (challenge : Challenge) (source k : ℕ) : Prop where
  session_did : session.did = challenge.did
  request_did : request.did = challenge.did
  request_nonce : request.nonce = challenge.nonce
  path : ∃ consumed validated issuedAt consumedAt validatedAt,
    source < consumed ∧ consumed < validated ∧ validated < k ∧
      Occurs log source challenge .issued issuedAt ∧
      Occurs log consumed challenge .consumed consumedAt ∧
      Occurs log validated challenge (.validated request.nonce) validatedAt ∧
      validatedAt < challenge.expiresAt ∧
      ∀ k' challenge' now, Occurs log k' challenge' .consumed now →
        challenge'.nonce = challenge.nonce → k' = consumed
  signed : ∃ signature publicKey,
    Hex.decode (trimStart0x request.signature) = .ok signature ∧
      (request.publicKey.mapM fun hexPk => Hex.decode (trimStart0x hexPk)) = .ok publicKey ∧
      verifyCaip122WithPublicKey B challenge.did challenge.message signature publicKey = .ok true

/-- The safety of the login protocol. -/
structure LoginSafe (B : Build) (peer : PeerState) : Prop where
  /-- `validate` returns `Ok` at most once for a nonce. -/
  once : ∀ nonce k k' challenge challenge' now now',
    Occurs peer.log k challenge (.validated nonce) now →
      Occurs peer.log k' challenge' (.validated nonce) now' → k = k'
  unexpired : ∀ nonce k challenge now, Occurs peer.log k challenge (.validated nonce) now →
    challenge.nonce = nonce ∧ now < challenge.expiresAt
  /-- Every session that was ever created has a challenge of its own. -/
  traced : ∃ source : ℕ → ℕ,
    Set.InjOn source {k | ∃ challenge request session now,
      Occurs peer.log k challenge (.loggedIn request session) now} ∧
    ∀ k challenge request session now,
      Occurs peer.log k challenge (.loggedIn request session) now →
        Traced B peer.log request session challenge (source k) k
  /-- The sessions in the store are among those the log records. -/
  recorded : ∀ token session, peer.sessions.store.backend.get token = some session →
    ∃ k challenge request now, Occurs peer.log k challenge (.loggedIn request session) now

theorem Authorised.signed {request : SessionRequest} {challenge : Challenge} {did : Str}
    (h : Authorised B request challenge did) :
    did = challenge.did ∧ request.did = challenge.did ∧ ∃ signature publicKey,
      Hex.decode (trimStart0x request.signature) = .ok signature ∧
        (request.publicKey.mapM fun hexPk => Hex.decode (trimStart0x hexPk)) = .ok publicKey ∧
        verifyCaip122WithPublicKey B challenge.did challenge.message signature publicKey =
          .ok true := by
  obtain ⟨principal, hauth, rfl⟩ := h
  obtain ⟨_, hsame, hauth⟩ := bind_eq_ok.mp hauth
  obtain ⟨signature, hsignature, hauth⟩ := bind_eq_ok.mp hauth
  obtain ⟨publicKey, hkey, hauth⟩ := bind_eq_ok.mp hauth
  have hdid : challenge.did = request.did := ensure_eq_ok.mp hsame
  obtain ⟨hverified, hprincipal⟩ := authenticateWithPublicKey_eq_ok.mp (mapError_eq_ok.mp hauth)
  rw [← hdid] at hverified
  refine ⟨hprincipal.trans hdid.symm, hdid.symm, signature, publicKey,
    mapError_eq_ok.mp hsignature, ?_, hverified⟩
  cases hrequest : request.publicKey with
  | none =>
      rw [hrequest] at hkey
      cases hkey
      rfl
  | some hexPk =>
      rw [hrequest] at hkey
      obtain ⟨key, hkey, hsome⟩ := map_eq_ok.mp hkey
      rw [← hsome]
      exact map_eq_ok.mpr ⟨key, mapError_eq_ok.mp hkey, rfl⟩

theorem Occurs.of_entry {k : ℕ} (h : log[k]? = some e) : Occurs log k e.challenge e.event e.now :=
  ⟨e.thread, h⟩

variable {k now : ℕ} {challenge : Challenge}

theorem PeerEvent.eq_issued {event : PeerEvent} (h : event.milestone = .issued) :
    event = .issued := by
  cases event with
  | issued => rfl
  | _ => cases h

theorem PeerEvent.eq_consumed {event : PeerEvent} (h : event.milestone = .consumed) :
    event = .consumed := by
  cases event with
  | consumed => rfl
  | _ => cases h

/-- An entry of an earlier stage, as an event of the challenge. -/
theorem exists_occurs {event : PeerEvent}
    (hevent : ∀ {event' : PeerEvent}, event'.milestone = event.milestone → event' = event)
    (h : ∃ e ∈ log.take k, e.milestone = event.milestone ∧ e.challenge = challenge) :
    ∃ p < k, ∃ earlier, Occurs log p challenge event earlier := by
  obtain ⟨e, he, hstage, rfl⟩ := h
  obtain ⟨p, hpk, hp⟩ := Chronicle.exists_position he
  exact ⟨p, hpk, e.now, hevent hstage ▸ .of_entry hp⟩

theorem History.issued_before (h : History B log) (hk : Occurs log k challenge .consumed now) :
    ∃ p < k, ∃ earlier, Occurs log p challenge .issued earlier := by
  obtain ⟨thread, hk⟩ := hk
  cases (h k _ hk).cause with
  | issued hevent => cases hevent
  | consumed _ hissued => exact exists_occurs PeerEvent.eq_issued hissued
  | validated hevent _ _ => cases hevent
  | loggedIn hevent _ _ _ => cases hevent

theorem History.consumed_before {nonce : Str} (h : History B log)
    (hk : Occurs log k challenge (.validated nonce) now) :
    challenge.nonce = nonce ∧ now < challenge.expiresAt ∧
      ∃ p < k, ∃ earlier, Occurs log p challenge .consumed earlier := by
  obtain ⟨thread, hk⟩ := hk
  cases (h k _ hk).cause with
  | issued hevent => cases hevent
  | consumed hevent _ => cases hevent
  | validated hevent hconsumed hunexpired =>
      obtain ⟨e, he, _, hstage, hchallenge⟩ := hconsumed
      exact ⟨(PeerEvent.validated.inj hevent).symm, hunexpired,
        exists_occurs PeerEvent.eq_consumed ⟨e, he, hstage, hchallenge⟩⟩
  | loggedIn hevent _ _ _ => cases hevent

theorem History.event_of_validated (h : History B log) (hk : log[k]? = some e)
    (hstage : e.milestone = .validated) : e.event = .validated e.challenge.nonce := by
  cases (h k e hk).cause with
  | issued hevent => simp [LogEntry.milestone, hevent, PeerEvent.milestone] at hstage
  | consumed hevent _ => simp [LogEntry.milestone, hevent, PeerEvent.milestone] at hstage
  | validated hevent _ _ => exact hevent
  | loggedIn hevent _ _ _ => simp [LogEntry.milestone, hevent, PeerEvent.milestone] at hstage

theorem History.validated_before {request : SessionRequest} {session : Session}
    (h : History B log) (hk : Occurs log k challenge (.loggedIn request session) now) :
    challenge.nonce = request.nonce ∧ Authorised B request challenge session.did ∧
      ∃ p < k, ∃ earlier, Occurs log p challenge (.validated request.nonce) earlier := by
  obtain ⟨thread, hk⟩ := hk
  cases (h k _ hk).cause with
  | issued hevent => cases hevent
  | consumed hevent _ => cases hevent
  | validated hevent _ _ => cases hevent
  | loggedIn hevent hvalidated hnonce hauthorised =>
      cases hevent
      obtain ⟨e, he, _, hstage, hchallenge⟩ := hvalidated
      obtain ⟨p, hpk, hp⟩ := Chronicle.exists_position he
      refine ⟨hnonce, hauthorised, p, hpk, e.now, ?_⟩
      have hevent := h.event_of_validated hp hstage
      have hsame : e.challenge = challenge := hchallenge
      have hoccurs := Occurs.of_entry hp
      rwa [hevent, hsame, hnonce] at hoccurs

/-- Two events of one stage with one nonce are the same. -/
theorem History.position_unique (h : History B log) {k' now' : ℕ} {challenge' : Challenge}
    {event event' : PeerEvent} (hk : Occurs log k challenge event now)
    (hk' : Occurs log k' challenge' event' now') (hstage : event'.milestone = event.milestone)
    (hnonce : challenge'.nonce = challenge.nonce) : k' = k := by
  obtain ⟨thread, hk⟩ := hk
  obtain ⟨thread', hk'⟩ := hk'
  exact Chronicle.position_unique h LogEntry.key Justified.key_ne hk hk' (Prod.ext hstage hnonce)

/-- The way of a challenge to its session, read backwards from the session. -/
theorem History.traced {request : SessionRequest} {session : Session} (h : History B log)
    (hk : Occurs log k challenge (.loggedIn request session) now) :
    ∃ source, Traced B log request session challenge source k := by
  obtain ⟨hnonce, hauthorised, validated, hvk, validatedAt, hvalidated⟩ := h.validated_before hk
  obtain ⟨_, hunexpired, consumed, hcv, consumedAt, hconsumed⟩ := h.consumed_before hvalidated
  obtain ⟨source, hsc, issuedAt, hissued⟩ := h.issued_before hconsumed
  obtain ⟨hsession, hrequest, hsigned⟩ := hauthorised.signed
  refine ⟨source, hsession, hrequest, hnonce.symm, ?_, hsigned⟩
  refine ⟨consumed, validated, issuedAt, consumedAt, validatedAt, hsc, hcv, hvk, hissued,
    hconsumed, hvalidated, hunexpired, ?_⟩
  intro k' challenge' now' hk' hsame
  exact h.position_unique hconsumed hk' rfl hsame

theorem PeerInvariant.loginSafe (h : PeerInvariant B peer) : LoginSafe B peer where
  once := by
    intro nonce k k' challenge challenge' now now' hk hk'
    have hnonce := (h.history.consumed_before hk).1
    have hnonce' := (h.history.consumed_before hk').1
    exact h.history.position_unique hk' hk rfl (hnonce.trans hnonce'.symm)
  unexpired := by
    intro nonce k challenge now hk
    obtain ⟨hnonce, hlive, _⟩ := h.history.consumed_before hk
    exact ⟨hnonce, hlive⟩
  traced := by
    have hsource : ∀ k, ∃ source, ∀ challenge request session now,
        Occurs peer.log k challenge (.loggedIn request session) now →
          Traced B peer.log request session challenge source k := by
      intro k
      by_cases hlogin : ∃ challenge request session now,
        Occurs peer.log k challenge (.loggedIn request session) now
      · obtain ⟨challenge, request, session, now, hk⟩ := hlogin
        obtain ⟨source, htraced⟩ := h.history.traced hk
        refine ⟨source, fun challenge' request' session' now' hk' => ?_⟩
        obtain ⟨_, hentry⟩ := hk
        obtain ⟨_, hentry'⟩ := hk'
        rw [hentry] at hentry'
        cases hentry'
        exact htraced
      · exact ⟨0, fun challenge request session now hk =>
          absurd ⟨challenge, request, session, now, hk⟩ hlogin⟩
    choose source hsource using hsource
    refine ⟨source, ?_, hsource⟩
    rintro k ⟨challenge, request, session, now, hk⟩ k'
      ⟨challenge', request', session', now', hk'⟩ heq
    obtain ⟨_, _, _, _, _, _, _, _, ⟨_, hissued⟩, _⟩ := (hsource k _ _ _ _ hk).path
    obtain ⟨_, _, _, _, _, _, _, _, ⟨_, hissued'⟩, _⟩ := (hsource k' _ _ _ _ hk').path
    rw [heq, hissued'] at hissued
    cases hissued
    exact h.history.position_unique hk' hk rfl rfl
  recorded := by
    intro token session hget
    obtain ⟨e, he, request, hevent⟩ := h.sessions hget
    obtain ⟨k, hk⟩ := List.mem_iff_getElem?.mp he
    exact ⟨k, e.challenge, request, e.now, hevent ▸ .of_entry hk⟩

/-- Login safety: in every run of requests, sweeps and other calls at one server, a nonce is
accepted once and before its challenge expires, and every session goes back to a challenge of its
own.  Where the clock is never set back, an accepted challenge had not expired when it was removed
either. -/
theorem peer_loginSafe (B : Build) (overflowChecks : Bool) (clock challengeTtl : Nat)
    (httl : challengeTtl < 2 ^ 64) (domain uri : Str)
    (maxChallenges sessionTtl maxSessions maxSessionsPerDid : Nat)
    (schedule : List (Action PeerThread PeerDraw Nat)) (c : Config PeerState PeerThread)
    (hrun : (peerSystem B overflowChecks).run (.initial (.start clock challengeTtl httl domain uri
      maxChallenges sessionTtl maxSessions maxSessionsPerDid)) schedule = some c) :
    LoginSafe B c.shared ∧
      ((clock :: clockSettings schedule).Pairwise (· ≤ ·) →
        ∀ p q nonce challenge consumedAt validatedAt,
          Occurs c.shared.log p challenge .consumed consumedAt →
            Occurs c.shared.log q challenge (.validated nonce) validatedAt →
              consumedAt < challenge.expiresAt) := by
  have hinvariant : PeerInvariant B c.shared := .run hrun (.start ..)
  refine ⟨hinvariant.loginSafe, ?_⟩
  intro hsettings p q nonce challenge consumedAt validatedAt hp hq
  have hstart : Chronological (.start clock challengeTtl httl domain uri maxChallenges sessionTtl
      maxSessions maxSessionsPerDid) := ⟨.nil, by simp [PeerState.start]⟩
  have hchronological : Chronological c.shared := .run hrun hsettings hstart
  obtain ⟨_, hunexpired, p', hp'q, earlier, hp'⟩ := hinvariant.history.consumed_before hq
  have hsame : p = p' := hinvariant.history.position_unique hp' hp rfl rfl
  subst hsame
  obtain ⟨_, hp⟩ := hp
  obtain ⟨_, hq⟩ := hq
  obtain ⟨hlt, hpentry⟩ := List.getElem?_eq_some_iff.mp hp
  obtain ⟨hlt', hqentry⟩ := List.getElem?_eq_some_iff.mp hq
  have hle := List.pairwise_iff_getElem.mp hchronological.1 p q hlt hlt' hp'q
  rw [hpentry, hqentry] at hle
  exact hle.trans_lt hunexpired

/-! ### A login and a replay of it -/

def loginKeyHex : String := "fd1724385aa0c75b64fb78cd602fa1d991fdebf76b13c58ed702eac835e9f618"

def loginSignatureHex : String :=
  "dbd1b2c57beb1840222da693b7a40ab1efdb1aa4bd18ffbd9c4b8cc5bccdbf53" ++
    "621899c652c2cf7d077f7623c06e0883065a67192157c629b3acd575d3623304"

def loginDid : Str := text "did:pkh:ed25519:0x" ++ text loginKeyHex

def loginNonce : Str := ChallengeStore.nonceOf sampleDraws.nonceBytes

/-- The message of the challenge, as the client signed it. -/
def loginMessage : Str :=
  text "aqua-node wants you to sign in with your Ed25519 account:\n0x" ++ text loginKeyHex ++
    text "\n\nSign in to Aqua Node\n\nURI: http://127.0.0.1:3000\nVersion: 1\nNonce: " ++
    loginNonce ++ text ("\nIssued At: 2023-11-14T22:13:20.000Z" ++
      "\nExpiration Time: 2023-11-14T22:18:20.000Z")

def loginBuild : Build :=
  .ofTable [⟨bytesOfHex loginKeyHex, Text.utf8 loginMessage, bytesOfHex loginSignatureHex⟩] []

def loginRequest : SessionRequest :=
  ⟨loginDid, loginNonce, text "0x" ++ text loginSignatureHex, none⟩

/-- Ten seconds after the challenge. -/
def loginReading : ClockReading :=
  ⟨⟨1700000010, 0, by decide, DateTime.wholeSecond_lt, by decide⟩, by decide⟩

def challengeDraw : PeerDraw := ⟨sampleReading, sampleDraws.nonceBytes, sampleDraws.nonceBytes⟩

def loginDraw : PeerDraw := { challengeDraw with now := loginReading }

/-- One client gets a challenge; ten seconds later it is presented twice, and the second request
looks its nonce up between the two steps of the first one's `validate`. -/
def loginSchedule : List (Action PeerThread PeerDraw Nat) :=
  .spawn (.challenge (some loginDid) .received) ::
    List.replicate 4 (.move 0 challengeDraw) ++
    [.ambient 1700000010, .spawn (.login loginRequest (.validating .remove)),
      .spawn (.login loginRequest (.validating .remove)), .move 1 loginDraw, .move 2 loginDraw] ++
    List.replicate 7 (.move 1 loginDraw) ++ [.move 2 loginDraw]

def loginPeer : Config PeerState PeerThread :=
  .initial (.start 1700000000 300 Duration.fiveMinutes_lt (text "aqua-node")
    (text "http://127.0.0.1:3000") 8192 3600 8192 64)

/-- The first request opens a session, the second one gets nothing. -/
theorem peer_loginSafe_replay : ∃ c,
    (peerSystem loginBuild false).run loginPeer loginSchedule = some c ∧
      c.shared.log.map LogEntry.milestone = [.issued, .consumed, .validated, .loggedIn] ∧
      c.threads[2]? = some (.login loginRequest (.responded (.error .notFound))) ∧
      LoginSafe loginBuild c.shared ∧
      ∀ p q nonce challenge consumedAt validatedAt,
        Occurs c.shared.log p challenge .consumed consumedAt →
          Occurs c.shared.log q challenge (.validated nonce) validatedAt →
            consumedAt < challenge.expiresAt := by
  have hends : ((peerSystem loginBuild false).run loginPeer loginSchedule).map (fun c =>
      (c.shared.log.map LogEntry.milestone, c.threads[2]?)) =
      some ([.issued, .consumed, .validated, .loggedIn],
        some (.login loginRequest (.responded (.error .notFound)))) := by decide +kernel
  obtain ⟨c, hrun, hends⟩ := Option.map_eq_some_iff.mp hends
  obtain ⟨hlog, hrefused⟩ := Prod.mk.inj hends
  obtain ⟨hsafe, hlive⟩ := peer_loginSafe loginBuild false 1700000000 300
    Duration.fiveMinutes_lt (text "aqua-node") (text "http://127.0.0.1:3000") 8192 3600 8192 64
    loginSchedule c hrun
  exact ⟨c, hrun, hlog, hrefused, hsafe, hlive (by decide)⟩

end AquaAuth
