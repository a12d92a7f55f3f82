import AquaAuth.Proofs.Admission
import AquaAuth.Proofs.Challenges
set_option autoImplicit false
/-!
# Concurrent calls of the challenge store

A `create` is cleared to insert by a capacity check or by its removal of a victim.  Two that
scan before either removes choose one victim between them, so both are cleared where one
challenge went, and a later `create` removes one challenge for the one it inserts: the excess
of such races stays and adds up.
-/

namespace AquaAuth

open Support Support.Interleaving

namespace ChallengeThread

/-- A `create` that has not returned. -/
def inFlight : ChallengeThread → Bool
  | .create _ (.returned _) => false
  | .create _ _ => true
  | _ => false

/-- A `create` whose next access is its insertion. -/
def cleared : ChallengeThread → Bool
  | .create _ .insert => true
  | _ => false

/-- The removal a `create` makes next. -/
def removing : ChallengeThread → Option (Option Str)
  | .create _ (.remove victim) => some victim
  | _ => none

/-- A thread that checks the capacity next. -/
def checking : ChallengeThread → Bool
  | .create _ .len => true
  | .create _ .lenAgain => true
  | _ => false

theorem inFlight_of_cleared {t : ChallengeThread} (h : t.cleared = true) : t.inFlight = true := by
  unfold cleared at h
  split at h
  · rfl
  · cases h

end ChallengeThread

namespace ChallengeStore

variable {B : Build} {store store' : ChallengeStore} {t t' : ChallengeThread} {draw : StepDraw}

/-! ## One access -/

/-- What an access does to the challenges and the clearances together. -/
inductive Accesses (store : ChallengeStore) (t : ChallengeThread) :
    ChallengeStore → ChallengeThread → Prop
  /-- The clearance is used up, or none changes. -/
  | hands {store' : ChallengeStore} {t' : ChallengeThread}
      (h : store'.len + (if t'.cleared then 1 else 0) ≤
        store.len + if t.cleared then 1 else 0) : Accesses store t store' t'
  /-- A check finds room. -/
  | checks {did : Str} {stage : CreateStage} (ht : t = .create did stage)
      (hstage : (ChallengeThread.create did stage).checking = true)
      (hroom : store.len < store.maxChallenges) :
      Accesses store t store (.create did .insert)
  /-- A removal was made. -/
  | evicts {did : Str} {victim : Option Str} (ht : t = .create did (.remove victim)) :
      Accesses store t (store.removeVictim victim) (.create did .insert)

theorem accesses_createStep {did : Str} {stage stage' : CreateStage}
    (h : store.createStep B did stage draw = some (store', stage')) :
    Accesses store (.create did stage) store' (.create did stage') ∧
      store'.maxChallenges = store.maxChallenges := by
  cases stage with
  | len =>
      simp only [createStep] at h
      cases hvalid : validateDidWellFormed B did with
      | error e =>
          simp only [hvalid] at h
          obtain ⟨rfl, rfl⟩ := Prod.mk.inj (Option.some.inj h)
          exact ⟨.hands (le_refl _), rfl⟩
      | ok _ =>
          simp only [hvalid] at h
          obtain ⟨rfl, rfl⟩ := Prod.mk.inj (Option.some.inj h)
          cases hfull : store.isFull with
          | true => exact ⟨.hands (by simp [ChallengeThread.cleared]), rfl⟩
          | false =>
              have hroom : store.len < store.maxChallenges := by simpa [isFull] using hfull
              exact ⟨.checks rfl rfl hroom, rfl⟩
  | cleanup =>
      obtain ⟨rfl, rfl⟩ := Prod.mk.inj (Option.some.inj h)
      exact ⟨.hands (KeyedMap.len_retain_le _ _), rfl⟩
  | lenAgain =>
      obtain ⟨rfl, rfl⟩ := Prod.mk.inj (Option.some.inj h)
      cases hfull : store.isFull with
      | true => exact ⟨.hands (by simp [ChallengeThread.cleared]), rfl⟩
      | false =>
          have hroom : store.len < store.maxChallenges := by simpa [isFull] using hfull
          exact ⟨.checks rfl rfl hroom, rfl⟩
  | scan =>
      obtain ⟨rfl, rfl⟩ := Prod.mk.inj (Option.some.inj h)
      exact ⟨.hands (le_refl _), rfl⟩
  | remove victim =>
      obtain ⟨rfl, rfl⟩ := Prod.mk.inj (Option.some.inj h)
      exact ⟨.evicts rfl, maxChallenges_removeVictim victim⟩
  | insert =>
      obtain ⟨rfl, rfl⟩ := Prod.mk.inj (Option.some.inj h)
      exact ⟨.hands (len_issue_le _ _ _), maxChallenges_issue _ _ _⟩
  | returned result => cases h

theorem accesses_validateStep {nonce : Str} {stage stage' : ValidateStage}
    (h : store.validateStep nonce stage draw = some (store', stage')) :
    Accesses store (.validate nonce stage) store' (.validate nonce stage') ∧
      store'.maxChallenges = store.maxChallenges := by
  cases stage with
  | remove =>
      simp only [validateStep] at h
      cases hget : store.challenges.get nonce with
      | none =>
          simp only [hget] at h
          obtain ⟨rfl, rfl⟩ := Prod.mk.inj (Option.some.inj h)
          exact ⟨.hands (le_refl _), rfl⟩
      | some challenge =>
          simp only [hget] at h
          obtain ⟨rfl, rfl⟩ := Prod.mk.inj (Option.some.inj h)
          exact ⟨.hands (KeyedMap.len_remove_le _ _), rfl⟩
  | clock challenge =>
      obtain ⟨rfl, rfl⟩ := Prod.mk.inj (Option.some.inj h)
      exact ⟨.hands (le_refl _), rfl⟩
  | returned result => cases h

theorem accesses_step (h : store.step B t draw = some (store', t')) :
    Accesses store t store' t' ∧ store'.maxChallenges = store.maxChallenges := by
  cases t with
  | create did stage =>
      obtain ⟨⟨moved, stage'⟩, hmoved, heq⟩ := Option.map_eq_some_iff.mp h
      obtain ⟨rfl, rfl⟩ := Prod.mk.inj heq
      exact accesses_createStep hmoved
  | validate nonce stage =>
      obtain ⟨⟨moved, stage'⟩, hmoved, heq⟩ := Option.map_eq_some_iff.mp h
      obtain ⟨rfl, rfl⟩ := Prod.mk.inj heq
      exact accesses_validateStep hmoved
  | cleanup done =>
      cases done with
      | true => cases h
      | false =>
          obtain ⟨rfl, rfl⟩ := Prod.mk.inj (Option.some.inj h)
          exact ⟨.hands (KeyedMap.len_retain_le _ _), rfl⟩

/-! ## Clearances -/

variable {M n k : Nat} {c : Config ChallengeStore ChallengeThread}
  {schedule : List (Action ChallengeThread StepDraw Empty)}

/-- At most `k` creates are in flight after a step. -/
def FlightAtMost (B : Build) (k : Nat) (c : Config ChallengeStore ChallengeThread)
    (a : Action ChallengeThread StepDraw Empty) : Prop :=
  ∀ c' ∈ (challengeSystem B).next c a, c'.threads.countP ChallengeThread.inFlight ≤ k

instance (k : Nat) (c : Config ChallengeStore ChallengeThread)
    (a : Action ChallengeThread StepDraw Empty) : Decidable (FlightAtMost B k c a) :=
  inferInstanceAs (Decidable (∀ c' ∈ (challengeSystem B).next c a, _))

/-- The challenges stored and those that cleared creates will insert. -/
def committed (c : Config ChallengeStore ChallengeThread) : Nat :=
  c.shared.len + c.threads.countP ChallengeThread.cleared

/-- A removal finds its victim, or clears its create while there is room below `n`. -/
def RemovesWithin (n : Nat) (c : Config ChallengeStore ChallengeThread) :
    Action ChallengeThread StepDraw Empty → Prop
  | .move i _ => ∀ t ∈ c.threads[i]?, ∀ victim ∈ t.removing,
      (∃ nonce ∈ victim, (c.shared.challenges.get nonce).isSome) ∨ committed c < n
  | _ => True

instance (n : Nat) (c : Config ChallengeStore ChallengeThread) :
    ∀ a, Decidable (RemovesWithin n c a)
  | .move i _ => inferInstanceAs (Decidable (∀ t ∈ c.threads[i]?, ∀ victim ∈ t.removing, _ ∨ _))
  | .spawn _ => inferInstanceAs (Decidable True)
  | .ambient _ => inferInstanceAs (Decidable True)

/-- A check that finds room clears its create while there is room below `n`. -/
def ChecksWithin (n : Nat) (c : Config ChallengeStore ChallengeThread) :
    Action ChallengeThread StepDraw Empty → Prop
  | .move i _ => ∀ t ∈ c.threads[i]?, t.checking = true →
      c.shared.len < c.shared.maxChallenges → committed c < n
  | _ => True

theorem countP_set_insert {i : Nat} {did : Str} {stage : CreateStage}
    (hi : c.threads[i]? = some (.create did stage))
    (hnot : (ChallengeThread.create did stage).cleared = false) :
    (c.threads.set i (.create did .insert)).countP ChallengeThread.cleared =
      c.threads.countP ChallengeThread.cleared + 1 := by
  have hcount : (c.threads.set i (.create did .insert)).countP ChallengeThread.cleared +
      (if (ChallengeThread.create did stage).cleared then 1 else 0) =
        c.threads.countP ChallengeThread.cleared + 1 := System.countP_set_add _ _ hi
  simpa [hnot] using hcount

/-- A move keeps what is committed, or commits one challenge more while there is room. -/
theorem committed_move {i : Nat} (hi : c.threads[i]? = some t)
    (hmove : c.shared.step B t draw = some (store', t'))
    (hremoves : RemovesWithin n c (.move i draw))
    (hchecks : ∀ did stage, t = .create did stage → t.checking = true →
      t' = .create did .insert → c.shared.len < c.shared.maxChallenges →
      c.shared.len + (c.threads.set i t').countP ChallengeThread.cleared ≤ n) :
    store'.len + (if t'.cleared then 1 else 0) ≤ c.shared.len + (if t.cleared then 1 else 0) ∨
      store'.len + (c.threads.set i t').countP ChallengeThread.cleared ≤ n := by
  obtain ⟨haccess, _⟩ := accesses_step hmove
  cases haccess with
  | hands h => exact .inl h
  | checks ht hstage hroom => exact .inr (hchecks _ _ ht (ht ▸ hstage) rfl hroom)
  | @evicts did victim ht =>
      subst ht
      have hle : (c.shared.removeVictim victim).len ≤ c.shared.len := len_removeVictim_le victim
      rcases hremoves _ hi victim rfl with ⟨nonce, hvictim, hpresent⟩ | hroom
      · obtain rfl := Option.mem_def.mp hvictim
        have hlen := len_removeVictim_of_present (Option.isSome_iff_ne_none.mp hpresent)
        exact .inl (by simpa [ChallengeThread.cleared] using hlen.le)
      · rw [countP_set_insert hi rfl]
        unfold committed at hroom
        exact .inr (by omega)

theorem starts_not_cleared {t : ChallengeThread} (h : t.starts = true) : t.cleared = false := by
  cases t with
  | create did stage =>
      have hstage : stage = .len := by simpa [ChallengeThread.starts] using h
      rw [hstage]
      rfl
  | validate nonce stage => rfl
  | cleanup done => rfl

/-- With `k` creates in flight and removals within `M + k`, so is all that is committed. -/
theorem committed_le_of_flight (hM : store.maxChallenges = M) (hempty : store.len = 0)
    (hrun : (challengeSystem B).run (Config.initial store) schedule = some c)
    (hflight : (challengeSystem B).Along (FlightAtMost B k) (Config.initial store) schedule)
    (hremoves : (challengeSystem B).Along (RemovesWithin (M + k)) (Config.initial store)
      schedule) :
    c.shared.maxChallenges = M ∧ committed c ≤ M + k := by
  apply System.run_reserved len ChallengeThread.cleared
    (I := fun store => store.maxChallenges = M) ?entry ?move ?ambient hrun
    (hflight.and hremoves) hM (by omega)
  case entry => exact fun t ht => starts_not_cleared ht
  case ambient => exact fun _ event => event.elim
  case move =>
    rintro c i draw t store' t' hM ⟨hflight, hremoves⟩ hi hmove
    refine ⟨(accesses_step hmove).2.trans hM, ?_⟩
    refine committed_move hi hmove hremoves fun did stage _ _ _ hroom => ?_
    have hnext : (challengeSystem B).next c (.move i draw) = some ⟨store', c.threads.set i t'⟩ :=
      System.next_move.mpr ⟨t, store', t', hi, hmove, rfl⟩
    have hcleared : (c.threads.set i t').countP ChallengeThread.cleared ≤
        (c.threads.set i t').countP ChallengeThread.inFlight :=
      List.countP_mono_left fun t _ ht => ChallengeThread.inFlight_of_cleared ht
    have hmany : (c.threads.set i t').countP ChallengeThread.inFlight ≤ k := hflight _ hnext
    omega

/-- With checks and removals within `M`, so is all that is committed. -/
theorem committed_le_of_within (hM : store.maxChallenges = M) (hempty : store.len = 0)
    (hrun : (challengeSystem B).run (Config.initial store) schedule = some c)
    (hchecks : (challengeSystem B).Along (ChecksWithin M) (Config.initial store) schedule)
    (hremoves : (challengeSystem B).Along (RemovesWithin M) (Config.initial store) schedule) :
    c.shared.maxChallenges = M ∧ committed c ≤ M := by
  apply System.run_reserved len ChallengeThread.cleared
    (I := fun store => store.maxChallenges = M) ?entry ?move ?ambient hrun
    (hchecks.and hremoves) hM (by omega)
  case entry => exact fun t ht => starts_not_cleared ht
  case ambient => exact fun _ event => event.elim
  case move =>
    rintro c i draw t store' t' hM ⟨hchecks, hremoves⟩ hi hmove
    refine ⟨(accesses_step hmove).2.trans hM, ?_⟩
    refine committed_move hi hmove hremoves fun did stage ht hstage ht' hroom => ?_
    subst ht ht'
    have hbelow := hchecks _ hi hstage hroom
    have hnot : (ChallengeThread.create did stage).cleared = false := by
      cases stage <;> first | rfl | cases hstage
    rw [countP_set_insert hi hnot]
    unfold committed at hbelow
    omega

/-! ## A create alone -/

theorem alone_returned {i : Nat} {did : Str} {result : Option (Except AuthError Challenge)}
    {draws : List StepDraw}
    (h : (challengeSystem B).alone i store (.create did (.returned result)) draws =
      some (store', t')) : draws = [] ∧ store = store' ∧ .create did (.returned result) = t' := by
  cases draws with
  | nil =>
      obtain ⟨rfl, rfl⟩ := Prod.mk.inj (Option.some.inj h)
      exact ⟨rfl, rfl, rfl⟩
  | cons draw draws => cases h

theorem alone_insert {i : Nat} {did : Str} {result : Option (Except AuthError Challenge)}
    {draws : List StepDraw}
    (h : (challengeSystem B).alone i store (.create did .insert) draws =
      some (store', .create did (.returned result))) :
    ∃ nonceBytes now, store.issue B did nonceBytes now = (result, store') := by
  cases draws with
  | nil => simp [System.alone] at h
  | cons draw draws =>
      obtain ⟨_, hafter, hresult⟩ := alone_returned h
      simp only [ChallengeThread.create.injEq, CreateStage.returned.injEq, true_and] at hresult
      exact ⟨draw.bytes, draw.now, Prod.ext hresult hafter⟩

/-- With no other call in progress, the accesses of a `create` that reads the clock twice come to
`create`. -/
theorem create_of_alone {i : Nat} {did : Str} {result : Option (Except AuthError Challenge)}
    {purge : StepDraw} {draws : List StepDraw}
    (h : (challengeSystem B).alone i store (.create did .len) (draw :: purge :: draws) =
      some (store', .create did (.returned result))) :
    ∃ nonceBytes now, store.create B did ⟨purge.now, nonceBytes, now⟩ = (result, store') := by
  unfold create
  cases hvalid : validateDidWellFormed B did with
  | error e =>
      simp [System.alone, challengeSystem, step, createStep, hvalid] at h
  | ok _ =>
      cases hfull : store.isFull with
      | false =>
          have hinsert : (challengeSystem B).alone i store (.create did .insert)
              (purge :: draws) = some (store', .create did (.returned result)) := by
            simpa [System.alone, challengeSystem, step, createStep, hvalid, hfull] using h
          simpa [makeRoom, hfull] using alone_insert hinsert
      | true =>
          have hpurged : (challengeSystem B).alone i (store.cleanupExpired purge.now.secs)
              (.create did .lenAgain) draws = some (store', .create did (.returned result)) := by
            simpa [System.alone, challengeSystem, step, createStep, hvalid, hfull] using h
          cases hstill : (store.cleanupExpired purge.now.secs).isFull with
          | false =>
              obtain _ | ⟨again, draws⟩ := draws
              · simp [System.alone] at hpurged
              have hinsert : (challengeSystem B).alone i (store.cleanupExpired purge.now.secs)
                  (.create did .insert) draws = some (store', .create did (.returned result)) := by
                simpa [System.alone, challengeSystem, step, createStep, hstill] using hpurged
              simpa [makeRoom, hfull, hstill] using alone_insert hinsert
          | true =>
              obtain _ | ⟨again, _ | ⟨scan, _ | ⟨removal, draws⟩⟩⟩ := draws
              · simp [System.alone] at hpurged
              · simp [System.alone, challengeSystem, step, createStep, hstill] at hpurged
              · simp [System.alone, challengeSystem, step, createStep, hstill] at hpurged
              have hinsert : (challengeSystem B).alone i
                  (store.cleanupExpired purge.now.secs).evictOldest (.create did .insert) draws =
                    some (store', .create did (.returned result)) := by
                simpa [System.alone, challengeSystem, step, createStep, hstill, evictOldest]
                  using hpurged
              simpa [makeRoom, hfull, hstill] using alone_insert hinsert

/-- A lone `create` whose second access reads the clock at `purgeAt` leaves a store in one of two
ways: with room for it, or with every unexpired challenge but one. -/
theorem len_alone {i : Nat} {did : Str} {challenge : Challenge} {purge : StepDraw}
    {draws : List StepDraw} (hpos : 0 < store.maxChallenges)
    (h : (challengeSystem B).alone i store (.create did .len) (draw :: purge :: draws) =
      some (store', .create did (.returned (some (.ok challenge))))) :
    store'.len ≤ max store.maxChallenges (store.cleanupExpired purge.now.secs).len ∧
      (store.challenges.get challenge.nonce = none →
        (store.cleanupExpired purge.now.secs).len ≤ store'.len) := by
  obtain ⟨nonceBytes, now, hcreate⟩ := create_of_alone h
  exact len_create hpos hcreate

/-! ## The bound -/

/-- The store never holds more than `M + k` challenges while at most `k` creates are in flight. -/
def NeverExceeds (B : Build) (M k : Nat) : Prop :=
  ∀ (ttlSecs : Nat) (httl : ttlSecs < 2 ^ 64) (domain uri : Str)
    (schedule : List (Action ChallengeThread StepDraw Empty))
    (c : Config ChallengeStore ChallengeThread),
    (challengeSystem B).run (Config.initial (withCapacity ttlSecs httl domain uri M)) schedule =
      some c →
    (challengeSystem B).Along (FlightAtMost B k)
      (Config.initial (withCapacity ttlSecs httl domain uri M)) schedule →
    c.shared.len ≤ M + k

/-- After every such run a `create` that runs alone leaves at most `M` challenges. -/
def SelfCorrects (B : Build) (M k : Nat) : Prop :=
  ∀ (ttlSecs : Nat) (httl : ttlSecs < 2 ^ 64) (domain uri : Str)
    (schedule : List (Action ChallengeThread StepDraw Empty))
    (c : Config ChallengeStore ChallengeThread),
    (challengeSystem B).run (Config.initial (withCapacity ttlSecs httl domain uri M)) schedule =
      some c →
    (challengeSystem B).Along (FlightAtMost B k)
      (Config.initial (withCapacity ttlSecs httl domain uri M)) schedule →
    ∀ (i : Nat) (did : Str) (draws : List StepDraw) (challenge : Challenge)
      (store' : ChallengeStore),
      (challengeSystem B).alone i c.shared (.create did .len) draws =
        some (store', .create did (.returned (some (.ok challenge)))) →
      store'.len ≤ M

theorem maxChallenges_run
    (hrun : (challengeSystem B).run (Config.initial store) schedule = some c) :
    c.shared.maxChallenges = store.maxChallenges := by
  apply System.run_invariant (P := fun c => c.shared.maxChallenges = store.maxChallenges) ?_ hrun
    rfl
  intro c a c' hmax hnext
  cases a with
  | spawn call =>
      obtain ⟨_, rfl⟩ := System.next_spawn.mp hnext
      exact hmax
  | move i draw =>
      obtain ⟨t, store', t', _, hmove, rfl⟩ := System.next_move.mp hnext
      exact (accesses_step hmove).2.trans hmax
  | ambient event => exact event.elim

/-- In a run with at most `k` creates in flight, the store holds at most `M + k` challenges when
every removal finds its victim or leaves room below `M + k`.  A `create` that runs alone
afterwards leaves at most `M` exactly when at most `M` challenges have not expired, which is so
after a run whose checks and removals leave room below `M`. -/
theorem challenges_bounded (B : Build) (M k ttlSecs : Nat) (httl : ttlSecs < 2 ^ 64)
    (domain uri : Str) {schedule : List (Action ChallengeThread StepDraw Empty)}
    {c : Config ChallengeStore ChallengeThread} (hM : 1 ≤ M)
    (hrun : (challengeSystem B).run
      (Config.initial (withCapacity ttlSecs httl domain uri M)) schedule = some c)
    (hflight : (challengeSystem B).Along (FlightAtMost B k)
      (Config.initial (withCapacity ttlSecs httl domain uri M)) schedule) :
    ((challengeSystem B).Along (RemovesWithin (M + k))
        (Config.initial (withCapacity ttlSecs httl domain uri M)) schedule →
      c.shared.len ≤ M + k) ∧
    (∀ i did draw purge draws challenge store',
      (challengeSystem B).alone i c.shared (.create did .len) (draw :: purge :: draws) =
        some (store', .create did (.returned (some (.ok challenge)))) →
      ((c.shared.cleanupExpired purge.now.secs).len ≤ M → store'.len ≤ M) ∧
      (c.shared.challenges.get challenge.nonce = none → store'.len ≤ M →
        (c.shared.cleanupExpired purge.now.secs).len ≤ M)) ∧
    ((challengeSystem B).Along (ChecksWithin M)
        (Config.initial (withCapacity ttlSecs httl domain uri M)) schedule →
      (challengeSystem B).Along (RemovesWithin M)
        (Config.initial (withCapacity ttlSecs httl domain uri M)) schedule →
      ∀ now, (c.shared.cleanupExpired now).len ≤ M) := by
  have hmax : c.shared.maxChallenges = M := maxChallenges_run hrun
  refine ⟨?_, ?_, ?_⟩
  · intro hremoves
    obtain ⟨_, hcommitted⟩ := committed_le_of_flight (M := M) rfl rfl hrun hflight hremoves
    exact (Nat.le_add_right _ _).trans hcommitted
  · intro i did draw purge draws challenge store' halone
    obtain ⟨hupper, hlower⟩ := len_alone (by omega) halone
    rw [hmax] at hupper
    exact ⟨fun hfew => hupper.trans (max_le (le_refl M) hfew),
      fun hfresh hleft => (hlower hfresh).trans hleft⟩
  · intro hchecks hwithin now
    obtain ⟨_, hcommitted⟩ := committed_le_of_within (M := M) rfl rfl hrun hchecks hwithin
    exact len_cleanupExpired_le.trans ((Nat.le_add_right _ _).trans hcommitted)

/-! ## A race for one victim -/

def sampleDraw (b : UInt8) : StepDraw :=
  ⟨sampleReading, ⟨List.replicate 32 b, length_replicate32 b⟩⟩

def request : Action ChallengeThread StepDraw Empty := .spawn (.create mainnetDid .len)

def moves (threads : List Nat) : List (Action ChallengeThread StepDraw Empty) :=
  threads.map fun i => .move i (sampleDraw (UInt8.ofNat i))

/-- A request alone, and two that take turns and so choose one victim. -/
def race (i : Nat) : List (Action ChallengeThread StepDraw Empty) :=
  [request, request] ++ moves (List.replicate 6 [i, i + 1]).flatten

/-- Three races. -/
def races : List (Action ChallengeThread StepDraw Empty) :=
  request :: moves [0, 0] ++ (race 1 ++ race 3 ++ race 5)

def smallStore : ChallengeStore :=
  .withCapacity 300 Duration.fiveMinutes_lt (text "aqua-node") (text "http://127.0.0.1:3000") 1

/-- A `create` of the sample DID that returned a challenge. -/
def succeeded : ChallengeThread → Bool
  | .create did (.returned (some (.ok _))) => did = mainnetDid
  | _ => false

theorem eq_of_succeeded {t : ChallengeThread} (h : succeeded t = true) :
    ∃ challenge, t = .create mainnetDid (.returned (some (.ok challenge))) := by
  unfold succeeded at h
  split at h
  · obtain rfl := of_decide_eq_true h
    exact ⟨_, rfl⟩
  · cases h

/-- With room for one challenge and two creates in flight, three races leave four challenges, and
so does the create after them. -/
theorem challenges_race_fails :
    ¬ NeverExceeds keylessBuild 1 2 ∧ ¬ SelfCorrects keylessBuild 1 2 := by
  have hsome : ((challengeSystem keylessBuild).run (Config.initial smallStore) races).isSome =
      true := by decide +kernel
  obtain ⟨c, hrun⟩ := Option.isSome_iff_exists.mp hsome
  have hflight : (challengeSystem keylessBuild).Along (FlightAtMost keylessBuild 2)
      (Config.initial smallStore) races := by decide +kernel
  have hlen : ∀ c ∈ (challengeSystem keylessBuild).run (Config.initial smallStore) races,
      c.shared.len = 4 := by decide +kernel
  have hlone : ∀ c ∈ (challengeSystem keylessBuild).run (Config.initial smallStore) races,
      ∃ left ∈ (challengeSystem keylessBuild).alone 7 c.shared (.create mainnetDid .len)
        (List.replicate 6 (sampleDraw 7)), left.1.len = 4 ∧ succeeded left.2 = true := by
    decide +kernel
  refine ⟨fun h => ?_, fun h => ?_⟩
  · have hle := h 300 (by decide) _ _ races c hrun hflight
    rw [hlen c hrun] at hle
    omega
  · obtain ⟨⟨left, t⟩, hleft, hfour, hok⟩ := hlone c hrun
    obtain ⟨challenge, rfl⟩ := eq_of_succeeded hok
    have hle := h 300 (by decide) _ _ races c hrun hflight 7 mainnetDid _ challenge left hleft
    rw [show left.len = 4 from hfour] at hle
    omega

/-- After one race the bound holds: the second removal finds no victim and there is room. -/
theorem challenges_bounded_race : ∃ c, (challengeSystem keylessBuild).run
    (Config.initial smallStore) (request :: moves [0, 0] ++ race 1) = some c ∧
      c.shared.len ≤ 1 + 2 := by
  have hsome : ((challengeSystem keylessBuild).run (Config.initial smallStore)
      (request :: moves [0, 0] ++ race 1)).isSome = true := by decide +kernel
  obtain ⟨c, hrun⟩ := Option.isSome_iff_exists.mp hsome
  refine ⟨c, hrun, ?_⟩
  exact (challenges_bounded keylessBuild 1 2 300 (by decide) _ _ (le_refl 1) hrun
    (by decide +kernel)).1 (by decide +kernel)

end ChallengeStore

end AquaAuth
