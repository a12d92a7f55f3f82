import AquaAuth.Model.BackendCalls
import AquaAuth.Proofs.Sessions
set_option autoImplicit false
/-!
# The numbers of removed sessions

Entries are neither lost nor made up: what was added is removed or still stored.  A purge takes
its number from two readings of the length, so it owes every change that other calls make in
between, and `remove_all_for_did` counts the tokens of its scan, whoever removes them.
-/

namespace AquaAuth

open Support Support.Interleaving

namespace BackendEvent

def isAdded : BackendEvent → Bool
  | .added _ => true
  | _ => false

def isRemoved : BackendEvent → Bool
  | .removed _ => true
  | _ => false

end BackendEvent

namespace BackendCall

/-- The number a call returns, if it returns one. -/
def reported : BackendCall → Option Nat
  | .insert _ _ => none
  | .remove _ result => result.map Bool.toNat
  | .removeAllForDid _ (.returned count) => some count
  | .purgeExpired _ (.returned count) => some count
  | _ => none

def panicked : BackendCall → Bool
  | .purgeExpired _ .panicked => true
  | _ => false

def finished : BackendCall → Bool
  | .insert _ done => done
  | .remove _ result => result.isSome
  | .removeAllForDid _ (.returned _) => true
  | .purgeExpired _ (.returned _) => true
  | .purgeExpired _ .panicked => true
  | _ => false

end BackendCall

namespace BackendServer

variable {server server' : BackendServer} {call call' : BackendCall} {i j : Nat}
  {overflowChecks : Bool} {backend : InMemoryBackend} {history events : List (Nat × BackendEvent)}

/-! ## Counting in a history -/

/-- The entries some calls added. -/
def addedBy (who : Nat → Bool) (history : List (Nat × BackendEvent)) : Nat :=
  history.countP fun e => who e.1 && e.2.isAdded

/-- The entries some calls removed. -/
def removedBy (who : Nat → Bool) (history : List (Nat × BackendEvent)) : Nat :=
  history.countP fun e => who e.1 && e.2.isRemoved

/-- What happened since a purge read its first length. -/
def since (i : Nat) (history : List (Nat × BackendEvent)) : List (Nat × BackendEvent) :=
  history.takeWhile fun e => e ≠ (i, .counted)

/-- The tag every event of a change carries. -/
def changesBy (i : Nat) (server : BackendServer) (backend : InMemoryBackend) :
    List (Nat × BackendEvent) :=
  (changes server.backend backend).map (Prod.mk i)

theorem history_become :
    (server.become i backend).history = server.changesBy i backend ++ server.history := rfl

@[simp] theorem addedBy_append (who : Nat → Bool) :
    addedBy who (events ++ history) = addedBy who events + addedBy who history :=
  List.countP_append

@[simp] theorem removedBy_append (who : Nat → Bool) :
    removedBy who (events ++ history) = removedBy who events + removedBy who history :=
  List.countP_append

theorem addedBy_changesBy (who : Nat → Bool) :
    addedBy who (server.changesBy i backend) =
      if who i then (backend.sessions.missingFrom server.backend.sessions).length else 0 := by
  cases hwho : who i <;>
    simp [addedBy, changesBy, changes, List.countP_map, Function.comp_def, hwho,
      BackendEvent.isAdded]

theorem removedBy_changesBy (who : Nat → Bool) :
    removedBy who (server.changesBy i backend) =
      if who i then (server.backend.sessions.missingFrom backend.sessions).length else 0 := by
  cases hwho : who i <;>
    simp [removedBy, changesBy, changes, List.countP_map, Function.comp_def, hwho,
      BackendEvent.isRemoved]

theorem since_changesBy (j : Nat) :
    since j (server.changesBy i backend ++ history) =
      server.changesBy i backend ++ since j history := by
  apply List.takeWhile_append_of_pos
  intro e he
  simp only [changesBy, changes, List.map_append, List.map_map, List.mem_append,
    List.mem_map] at he
  rcases he with ⟨_, _, rfl⟩ | ⟨_, _, rfl⟩ <;> simp

/-! ## What a change adds and removes -/

theorem missingFrom_erase (token : Str) :
    ((backend.erase token).sessions.missingFrom backend.sessions).length = 0 := by
  rw [List.length_eq_zero_iff]
  apply KeyedMap.missingFrom_eq_nil
  intro k hk
  obtain ⟨session, hget⟩ := KeyedMap.containsKey_iff.mp hk
  have hget : (backend.sessions.remove token).get k = some session := hget
  rw [KeyedMap.get_remove] at hget
  split_ifs at hget
  exact KeyedMap.containsKey_iff.mpr ⟨session, hget⟩

theorem missingFrom_retainLive (nowSecs : Nat) :
    ((backend.retainLive nowSecs).sessions.missingFrom backend.sessions).length = 0 := by
  rw [List.length_eq_zero_iff]
  apply KeyedMap.missingFrom_eq_nil
  intro k hk
  obtain ⟨session, hget⟩ := KeyedMap.containsKey_iff.mp hk
  have hget : (backend.retainLive nowSecs).get k = some session := hget
  rw [InMemoryBackend.retainLive, InMemoryBackend.get_retain, Option.filter_eq_some_iff] at hget
  exact KeyedMap.containsKey_iff.mpr ⟨session, hget.1⟩

theorem missingFrom_insert (session : Session) :
    (backend.sessions.missingFrom (backend.insert session).sessions).length = 0 := by
  rw [List.length_eq_zero_iff]
  apply KeyedMap.missingFrom_eq_nil
  intro k hk
  obtain ⟨stored, hget⟩ := KeyedMap.containsKey_iff.mp hk
  apply KeyedMap.containsKey_iff.mpr
  show ∃ v, (backend.insert session).get k = some v
  rw [InMemoryBackend.get_insert]
  split_ifs
  · exact ⟨session, rfl⟩
  · exact ⟨stored, hget⟩

/-- The removal of a token removes the entry of that token, if there is one. -/
theorem length_missingFrom_erase (token : Str) :
    (backend.sessions.missingFrom (backend.erase token).sessions).length =
      (backend.sessions.containsKey token).toNat := by
  have hsplit := KeyedMap.len_add_missingFrom backend.sessions (backend.erase token).sessions
  rw [missingFrom_erase] at hsplit
  have herase : (backend.erase token).sessions = backend.sessions.remove token := rfl
  rw [herase] at hsplit ⊢
  cases hstored : backend.sessions.containsKey token with
  | false =>
      rw [KeyedMap.remove_eq_self_of_absent (KeyedMap.containsKey_eq_false.mp hstored)] at hsplit ⊢
      simp only [Bool.toNat_false]
      omega
  | true =>
      obtain ⟨session, hget⟩ := KeyedMap.containsKey_iff.mp hstored
      have hlen := KeyedMap.len_remove_of_present hget
      simp only [Bool.toNat_true]
      omega

/-! ## What one access does -/

/-- What an access does to the backend: it changes the map, or notes that a purge has read its
first length, or leaves everything. -/
inductive Accesses (server : BackendServer) (i : Nat) : BackendServer → Prop
  | changed (backend : InMemoryBackend) : Accesses server i (server.become i backend)
  | counted : Accesses server i { server with history := (i, .counted) :: server.history }
  | same : Accesses server i server

theorem accesses_step (h : server.step overflowChecks i call = some (server', call')) :
    Accesses server i server' := by
  cases call with
  | insert session done =>
      cases done with
      | false =>
          obtain ⟨rfl, _⟩ := Prod.mk.inj (Option.some.inj h)
          exact .changed _
      | true => cases h
  | remove token result =>
      cases result with
      | none =>
          obtain ⟨rfl, _⟩ := Prod.mk.inj (Option.some.inj h)
          exact .changed _
      | some result => cases h
  | removeAllForDid did stage =>
      obtain ⟨moved, hmoved, heq⟩ := Option.map_eq_some_iff.mp h
      obtain ⟨rfl, _⟩ := Prod.mk.inj heq
      cases stage with
      | scan =>
          obtain rfl := Option.some.inj hmoved
          exact .same
      | removing tokens count =>
          cases tokens <;> obtain rfl := Option.some.inj hmoved
          · exact .same
          · exact .changed _
      | returned count => cases hmoved
  | purgeExpired nowSecs stage =>
      obtain ⟨moved, hmoved, heq⟩ := Option.map_eq_some_iff.mp h
      obtain ⟨rfl, _⟩ := Prod.mk.inj heq
      cases stage with
      | len =>
          obtain rfl := Option.some.inj hmoved
          exact .counted
      | retain before =>
          obtain rfl := Option.some.inj hmoved
          exact .changed _
      | lenAfter before =>
          simp only [purgeStep] at hmoved
          split at hmoved <;> obtain rfl := Option.some.inj hmoved <;> exact .same
      | returned count => cases hmoved
      | panicked => cases hmoved

/-- Entries are neither lost nor made up. -/
def Conserves (stored : Nat) (server : BackendServer) : Prop :=
  server.backend.len + removedBy (fun _ => true) server.history =
    stored + addedBy (fun _ => true) server.history

theorem len_become (server : BackendServer) (backend : InMemoryBackend) :
    backend.len + (server.backend.sessions.missingFrom backend.sessions).length =
      server.backend.len + (backend.sessions.missingFrom server.backend.sessions).length :=
  KeyedMap.len_add_missingFrom server.backend.sessions backend.sessions

theorem Conserves.accesses {stored : Nat} (h : server.Conserves stored)
    (haccess : Accesses server i server') : server'.Conserves stored := by
  unfold Conserves at h ⊢
  cases haccess with
  | changed backend =>
      have hlen := len_become server backend
      simp only [history_become, addedBy_append, removedBy_append, addedBy_changesBy,
        removedBy_changesBy, if_true]
      show backend.len + _ = _
      omega
  | counted => exact h
  | same => exact h

/-! ## What a call is owed -/

/-- The calls other than `i`. -/
def others (i : Nat) : Nat → Bool := fun j => j ≠ i

def itself (i : Nat) : Nat → Bool := fun j => j = i

/-- The number of entries call `i` removed. -/
def removals (server : BackendServer) (i : Nat) : Nat := removedBy (itself i) server.history

/-- Between the two readings of a purge the others removed as many entries as they added. -/
def Balanced (server : BackendServer) (i : Nat) : Prop :=
  addedBy (others i) (since i server.history) = removedBy (others i) (since i server.history)

instance (server : BackendServer) (i : Nat) : Decidable (server.Balanced i) :=
  inferInstanceAs (Decidable (_ = _))

/-- Where a call stands with its number. -/
def Owes (server : BackendServer) (i : Nat) : BackendCall → Prop
  | .insert _ _ => server.removals i = 0
  | .remove _ none => server.removals i = 0
  | .remove _ (some removed) => server.removals i = removed.toNat
  | .removeAllForDid _ .scan => server.removals i = 0
  | .removeAllForDid _ (.removing tokens count) => count = server.removals i + tokens.length
  | .removeAllForDid _ (.returned count) => count = server.removals i
  | .purgeExpired _ .len => server.removals i = 0
  | .purgeExpired _ (.retain before) =>
      server.removals i = 0 ∧
        server.backend.len + removedBy (others i) (since i server.history) =
          before + addedBy (others i) (since i server.history)
  | .purgeExpired _ (.lenAfter before) =>
      server.backend.len + server.removals i + removedBy (others i) (since i server.history) =
        before + addedBy (others i) (since i server.history)
  | .purgeExpired _ (.returned count) => count = server.removals i
  | .purgeExpired _ .panicked => False

/-- The call is not about to count what another one has changed: the others' changes between the
two readings of a purge balance, and a token of `remove_all_for_did` is still stored. -/
def Undisturbed (server : BackendServer) (i : Nat) : BackendCall → Prop
  | .purgeExpired _ (.lenAfter _) => server.Balanced i
  | .removeAllForDid _ (.removing (token :: _) _) =>
      server.backend.sessions.containsKey token = true
  | _ => True

theorem removals_accesses_other (haccess : Accesses server i server') (hne : j ≠ i) :
    server'.removals j = server.removals j := by
  have hnot : itself j i = false := by simpa [itself] using hne.symm
  cases haccess with
  | changed backend => simp [removals, history_become, removedBy_changesBy, hnot]
  | counted => simp [removals, removedBy, BackendEvent.isRemoved]
  | same => rfl

/-- The others' changes since the first reading account for the change of the length. -/
theorem balance_accesses_other (haccess : Accesses server i server') (hne : j ≠ i) :
    server'.backend.len + removedBy (others j) (since j server'.history) +
        addedBy (others j) (since j server.history) =
      server.backend.len + removedBy (others j) (since j server.history) +
        addedBy (others j) (since j server'.history) := by
  have hother : others j i = true := by simpa [others] using hne.symm
  cases haccess with
  | changed backend =>
      have hlen := len_become server backend
      simp only [history_become, since_changesBy, addedBy_append, removedBy_append,
        addedBy_changesBy, removedBy_changesBy, hother, if_true]
      show backend.len + _ + _ = _
      omega
  | counted =>
      have hsince : since j ((i, .counted) :: server.history) =
          (i, .counted) :: since j server.history := by
        simp [since, hne.symm]
      simp [hsince, addedBy, removedBy, BackendEvent.isAdded, BackendEvent.isRemoved]
  | same => rfl

/-- The accesses of other calls leave a call with what it is owed. -/
theorem Owes.accesses_other (h : server.Owes j call) (haccess : Accesses server i server')
    (hne : j ≠ i) : server'.Owes j call := by
  have hsame := removals_accesses_other haccess hne
  unfold Owes at h ⊢
  split at h
  case h_8 =>
    have hbalance := balance_accesses_other haccess hne
    refine ⟨hsame.trans h.1, ?_⟩
    omega
  case h_9 =>
    have hbalance := balance_accesses_other haccess hne
    rw [hsame]
    omega
  case h_11 => exact h
  all_goals
    rw [hsame]
    exact h

/-! ## A call's own access -/

theorem removals_become (backend : InMemoryBackend) :
    (server.become i backend).removals i =
      (server.backend.sessions.missingFrom backend.sessions).length + server.removals i := by
  simp [removals, history_become, removedBy_changesBy, itself]

theorem since_counted (history : List (Nat × BackendEvent)) :
    since i ((i, .counted) :: history) = [] := by
  simp [since]

/-- A purge that takes its second reading owes its number to itself when the others' changes
balance. -/
theorem subUsize_of_balanced {before : Nat}
    (howes : server.Owes i (.purgeExpired j (.lenAfter before)))
    (hbalanced : server.Balanced i) :
    subUsize overflowChecks before server.backend.len = some (server.removals i) := by
  have howes : server.backend.len + server.removals i +
      removedBy (others i) (since i server.history) =
        before + addedBy (others i) (since i server.history) := howes
  unfold Balanced at hbalanced
  have hle : server.backend.len ≤ before := by omega
  rw [subUsize, if_pos hle]
  congr 1
  omega

theorem owes_removeAllStep {did : Str} {stage stage' : RevokeAllStage}
    (howes : server.Owes i (.removeAllForDid did stage))
    (hcalm : server.Undisturbed i (.removeAllForDid did stage))
    (h : server.removeAllStep i did stage = some (server', stage')) :
    server'.Owes i (.removeAllForDid did stage') := by
  cases stage with
  | scan =>
      obtain ⟨rfl, rfl⟩ := Prod.mk.inj (Option.some.inj h)
      have howes : server.removals i = 0 := howes
      show _ = server.removals i + _
      omega
  | removing tokens count =>
      have howes : count = server.removals i + tokens.length := howes
      cases tokens with
      | nil =>
          obtain ⟨rfl, rfl⟩ := Prod.mk.inj (Option.some.inj h)
          exact howes
      | cons token tokens =>
          obtain ⟨rfl, rfl⟩ := Prod.mk.inj (Option.some.inj h)
          have hstored : server.backend.sessions.containsKey token = true := hcalm
          show count = (server.become i _).removals i + tokens.length
          rw [removals_become, length_missingFrom_erase, hstored]
          rw [List.length_cons] at howes
          simp only [Bool.toNat_true]
          omega
  | returned count => cases h

theorem owes_purgeStep {nowSecs : Nat} {stage stage' : SweepStage}
    (howes : server.Owes i (.purgeExpired nowSecs stage))
    (hcalm : server.Undisturbed i (.purgeExpired nowSecs stage))
    (h : server.purgeStep overflowChecks i nowSecs stage = some (server', stage')) :
    server'.Owes i (.purgeExpired nowSecs stage') := by
  cases stage with
  | len =>
      obtain ⟨rfl, rfl⟩ := Prod.mk.inj (Option.some.inj h)
      have howes : server.removals i = 0 := howes
      refine ⟨?_, ?_⟩
      · simpa [removals, removedBy, BackendEvent.isRemoved] using howes
      · rw [since_counted]
        rfl
  | retain before =>
      obtain ⟨rfl, rfl⟩ := Prod.mk.inj (Option.some.inj h)
      obtain ⟨hzero, hbalance⟩ := howes
      have hlen := len_become server (server.backend.retainLive nowSecs)
      rw [missingFrom_retainLive] at hlen
      have hnot : others i i = false := by simp [others]
      show (server.backend.retainLive nowSecs).len + (server.become i _).removals i +
        removedBy (others i) (since i (server.become i _).history) = before +
          addedBy (others i) (since i (server.become i _).history)
      rw [removals_become, history_become, since_changesBy, removedBy_append, addedBy_append,
        removedBy_changesBy, addedBy_changesBy, hnot]
      simp only [Bool.false_eq_true, if_false]
      omega
  | lenAfter before =>
      have hcount : subUsize overflowChecks before server.backend.len =
          some (server.removals i) := subUsize_of_balanced howes hcalm
      simp only [purgeStep, hcount] at h
      obtain ⟨rfl, rfl⟩ := Prod.mk.inj (Option.some.inj h)
      rfl
  | returned count => cases h
  | panicked => cases h

theorem owes_step (howes : server.Owes i call) (hcalm : server.Undisturbed i call)
    (h : server.step overflowChecks i call = some (server', call')) : server'.Owes i call' := by
  cases call with
  | insert session done =>
      cases done with
      | false =>
          obtain ⟨rfl, rfl⟩ := Prod.mk.inj (Option.some.inj h)
          have howes : server.removals i = 0 := howes
          show (server.become i _).removals i = 0
          rw [removals_become, missingFrom_insert, howes]
      | true => cases h
  | remove token result =>
      cases result with
      | none =>
          obtain ⟨rfl, rfl⟩ := Prod.mk.inj (Option.some.inj h)
          have howes : server.removals i = 0 := howes
          show (server.become i _).removals i = (server.backend.sessions.containsKey token).toNat
          rw [removals_become, length_missingFrom_erase, howes, Nat.add_zero]
      | some result => cases h
  | removeAllForDid did stage =>
      obtain ⟨⟨moved, stage'⟩, hmoved, heq⟩ := Option.map_eq_some_iff.mp h
      obtain ⟨rfl, rfl⟩ := Prod.mk.inj heq
      exact owes_removeAllStep howes hcalm hmoved
  | purgeExpired nowSecs stage =>
      obtain ⟨⟨moved, stage'⟩, hmoved, heq⟩ := Option.map_eq_some_iff.mp h
      obtain ⟨rfl, rfl⟩ := Prod.mk.inj heq
      exact owes_purgeStep howes hcalm hmoved

/-! ## Runs -/

variable {c : Config BackendServer BackendCall} {schedule : List (Action BackendCall Unit Empty)}

/-- No step of a run is about to count what another call has changed. -/
def Calm (c : Config BackendServer BackendCall) : Action BackendCall Unit Empty → Prop
  | .move i _ => ∀ call ∈ c.threads[i]?, c.shared.Undisturbed i call
  | _ => True

instance (server : BackendServer) (i : Nat) (call : BackendCall) :
    Decidable (server.Undisturbed i call) := by
  unfold Undisturbed
  split <;> infer_instance

instance (c : Config BackendServer BackendCall) (a : Action BackendCall Unit Empty) :
    Decidable (Calm c a) := by
  unfold Calm
  split <;> infer_instance

/-- Every event belongs to a call that has started. -/
def OfCalls (c : Config BackendServer BackendCall) : Prop :=
  ∀ e ∈ c.shared.history, e.1 < c.threads.length

theorem mem_history_accesses (haccess : Accesses server i server') {e : Nat × BackendEvent}
    (he : e ∈ server'.history) : e ∈ server.history ∨ e.1 = i := by
  cases haccess with
  | changed backend =>
      rcases List.mem_append.mp he with he | he
      · obtain ⟨_, _, rfl⟩ := List.mem_map.mp he
        exact .inr rfl
      · exact .inl he
  | counted =>
      rcases List.mem_cons.mp he with rfl | he
      · exact .inr rfl
      · exact .inl he
  | same => exact .inl he

theorem removals_eq_zero (h : OfCalls c) (hi : c.threads.length ≤ i) :
    c.shared.removals i = 0 := by
  apply List.countP_eq_zero.mpr
  intro e he
  have hlt := h e he
  have hnot : itself i e.1 = false := by
    simp only [itself, decide_eq_false_iff_not]
    omega
  simp [hnot]

theorem owes_of_starts (h : call.starts = true) (hzero : server.removals i = 0) :
    server.Owes i call := by
  cases call with
  | insert session done => exact hzero
  | remove token result =>
      have hresult : result = none := of_decide_eq_true h
      subst hresult
      exact hzero
  | removeAllForDid did stage =>
      have hstage : stage = .scan := of_decide_eq_true h
      subst hstage
      exact hzero
  | purgeExpired nowSecs stage =>
      have hstage : stage = .len := of_decide_eq_true h
      subst hstage
      exact hzero

/-- The state of the calls in a run that meets no disturbance. -/
structure Accounted (stored : Nat) (c : Config BackendServer BackendCall) : Prop where
  conserves : c.shared.Conserves stored
  ofCalls : OfCalls c
  owes : ∀ (i : Nat) call, c.threads[i]? = some call → c.shared.Owes i call

theorem Accounted.next {stored : Nat} {c' : Config BackendServer BackendCall}
    {a : Action BackendCall Unit Empty} (h : Accounted stored c) (hcalm : Calm c a)
    (hnext : (backendSystem overflowChecks).next c a = some c') : Accounted stored c' := by
  cases a with
  | spawn call =>
      obtain ⟨hentry, rfl⟩ := System.next_spawn.mp hnext
      refine ⟨h.conserves, fun e he => ?_, fun i call' hi => ?_⟩
      · have hlt := h.ofCalls e he
        rw [List.length_append]
        omega
      · rw [List.getElem?_append] at hi
        split_ifs at hi with hlt
        · exact h.owes i call' hi
        · rw [List.getElem?_singleton] at hi
          split_ifs at hi with hlast
          obtain rfl := Option.some.inj hi
          exact owes_of_starts hentry
            (removals_eq_zero (c := c) h.ofCalls (Nat.not_lt.mp hlt))
  | move i draw =>
      obtain ⟨call, server', call', hi, hmove, rfl⟩ := System.next_move.mp hnext
      have haccess := accesses_step hmove
      refine ⟨h.conserves.accesses haccess, fun e he => ?_, fun j u hj => ?_⟩
      · rw [List.length_set]
        rcases mem_history_accesses haccess he with he | rfl
        · exact h.ofCalls e he
        · exact (List.getElem?_eq_some_iff.mp hi).1
      · rcases System.getElem?_set_cases hj with ⟨rfl, rfl⟩ | ⟨hne, hj⟩
        · exact owes_step (h.owes _ _ hi) (hcalm _ hi) hmove
        · exact (h.owes _ _ hj).accesses_other haccess hne
  | ambient event => exact event.elim

/-! ## The numbers -/

theorem sum_removals {n : Nat} {history : List (Nat × BackendEvent)}
    (h : ∀ e ∈ history, e.1 < n) :
    ∑ i ∈ Finset.range n, removedBy (itself i) history = removedBy (fun _ => true) history := by
  induction history with
  | nil => simp [removedBy]
  | cons e history ih =>
      have hlt : e.1 < n := h e List.mem_cons_self
      have hrest := ih fun e' he' => h e' (List.mem_cons_of_mem _ he')
      simp only [removedBy, itself] at hrest ⊢
      simp only [List.countP_cons, Finset.sum_add_distrib, hrest, Bool.true_and]
      cases hremoved : e.2.isRemoved with
      | false => simp
      | true => simp [hlt]

theorem reported_of_owes (h : server.Owes i call) {n : Nat} (hn : call.reported = some n) :
    n = server.removals i := by
  unfold BackendCall.reported at hn
  split at hn
  · cases hn
  · obtain ⟨removed, rfl, rfl⟩ := Option.map_eq_some_iff.mp hn
    exact h.symm
  · obtain rfl := Option.some.inj hn
    exact h
  · obtain rfl := Option.some.inj hn
    exact h
  · cases hn

theorem reported_of_finished (h : server.Owes i call) (hfinished : call.finished = true) :
    call.reported.getD 0 = server.removals i := by
  cases hreported : call.reported with
  | some n => exact reported_of_owes h hreported
  | none =>
      unfold BackendCall.finished at hfinished
      split at hfinished
      case h_1 => exact Eq.symm h
      case h_2 =>
        have hnone := Option.map_eq_none_iff.mp hreported
        rw [hnone] at hfinished
        cases hfinished
      case h_5 => exact h.elim
      all_goals first | cases hreported | cases hfinished

/-- In a run in which no call is about to count what another one has changed, every reported
number is the number of entries the call removed, no subtraction underflows, and once all calls
have returned the numbers add up to what is missing. -/
theorem counts_exact (overflowChecks : Bool) (backend : InMemoryBackend)
    {schedule : List (Action BackendCall Unit Empty)} {c : Config BackendServer BackendCall}
    (hrun : (backendSystem overflowChecks).run (Config.initial ⟨backend, []⟩) schedule = some c)
    (hcalm : (backendSystem overflowChecks).Along Calm (Config.initial ⟨backend, []⟩) schedule) :
    (∀ (i : Nat) call, c.threads[i]? = some call →
      call.panicked = false ∧ ∀ n ∈ call.reported, n = c.shared.removals i) ∧
    ((∀ call ∈ c.threads, call.finished = true) →
      (c.threads.map fun call => call.reported.getD 0).sum + c.shared.backend.len =
        backend.len + addedBy (fun _ => true) c.shared.history) := by
  have hstart : Accounted backend.len
      (Config.initial ⟨backend, []⟩ : Config BackendServer BackendCall) := by
    refine ⟨?_, ?_, ?_⟩
    · simp [Conserves, Config.initial, removedBy, addedBy]
    · simp [OfCalls, Config.initial]
    · simp [Config.initial]
  have haccounted : Accounted backend.len c :=
    System.run_invariant_along (fun _ _ _ h hcalm hnext => h.next hcalm hnext) hrun hcalm hstart
  constructor
  · intro i call hi
    have howes := haccounted.owes i call hi
    refine ⟨?_, fun n hn => reported_of_owes howes hn⟩
    cases hpanicked : call.panicked with
    | false => rfl
    | true =>
        unfold BackendCall.panicked at hpanicked
        split at hpanicked
        · exact howes.elim
        · cases hpanicked
  · intro hfinished
    have hreports : c.threads.map (fun call => call.reported.getD 0) =
        (List.range c.threads.length).map c.shared.removals := by
      apply List.ext_getElem (by simp)
      intro i hi _
      rw [List.length_map] at hi
      rw [List.getElem_map, List.getElem_map, List.getElem_range]
      exact reported_of_finished (haccounted.owes i _ (List.getElem?_eq_getElem hi))
        (hfinished _ (List.getElem_mem hi))
    have hsum : ((List.range c.threads.length).map c.shared.removals).sum =
        removedBy (fun _ => true) c.shared.history :=
      sum_removals haccounted.ofCalls
    have hconserved := haccounted.conserves
    unfold Conserves at hconserved
    rw [hreports, hsum]
    omega

/-! ## A call on its own -/

/-- A purge that runs on its own is `purge_expired`. -/
theorem alone_purgeExpired (overflowChecks : Bool) (server : BackendServer) (i nowSecs : Nat) :
    ∃ history, (backendSystem overflowChecks).alone i server (.purgeExpired nowSecs .len)
        (List.replicate 3 ()) =
      some (⟨(server.backend.purgeExpired nowSecs).2, history⟩,
        .purgeExpired nowSecs (.returned (server.backend.purgeExpired nowSecs).1)) := by
  have hle : (server.backend.retainLive nowSecs).len ≤ server.backend.len :=
    InMemoryBackend.len_retain_le _
  have hsub : subUsize overflowChecks server.backend.len (server.backend.retainLive nowSecs).len =
      some (server.backend.purgeExpired nowSecs).1 := if_pos hle
  refine ⟨({ server with history := (i, .counted) :: server.history }.become i
    (server.backend.retainLive nowSecs)).history, ?_⟩
  simp only [List.replicate, System.alone, backendSystem, step, purgeStep, become,
    Option.map_some, Option.bind_some, hsub]
  rfl

theorem alone_removing (overflowChecks : Bool) (server : BackendServer) (i : Nat) (did : Str)
    (tokens : List Str) (count : Nat) :
    ∃ history, (backendSystem overflowChecks).alone i server
        (.removeAllForDid did (.removing tokens count)) (List.replicate (tokens.length + 1) ()) =
      some (⟨tokens.foldl InMemoryBackend.erase server.backend, history⟩,
        .removeAllForDid did (.returned count)) := by
  induction tokens generalizing server with
  | nil => exact ⟨server.history, rfl⟩
  | cons token tokens ih => exact ih (server.become i (server.backend.erase token))

/-- A `remove_all_for_did` that runs on its own is the function of that name. -/
theorem alone_removeAllForDid (overflowChecks : Bool) (server : BackendServer) (i : Nat)
    (did : Str) :
    ∃ steps history, (backendSystem overflowChecks).alone i server (.removeAllForDid did .scan)
        (List.replicate steps ()) =
      some (⟨(server.backend.removeAllForDid did).2, history⟩,
        .removeAllForDid did (.returned (server.backend.removeAllForDid did).1)) := by
  obtain ⟨history, halone⟩ := alone_removing overflowChecks server i did
    ((server.backend.sessionsForDid did).map Session.token)
    ((server.backend.sessionsForDid did).map Session.token).length
  exact ⟨((server.backend.sessionsForDid did).map Session.token).length + 1 + 1, history, halone⟩

/-! ### A login during a sweep -/

def aliceSession : Session := ⟨text "did:pkh:eip155:1:0xabc", text "t1", 2000, 1⟩

def bobSession : Session := ⟨text "did:pkh:eip155:1:0xdef", text "t2", 500, 1⟩

/-- A purge reads the length of an empty backend, and a session is inserted before it reads the
length again. -/
def loginDuringSweep : List (Action BackendCall Unit Empty) :=
  [.spawn (.purgeExpired 1000 .len), .spawn (.insert aliceSession false),
    .move 0 (), .move 1 (), .move 0 (), .move 0 ()]

/-- The subtraction underflows, and the sweep panics. -/
theorem counts_sweep_fails :
    ¬ ∀ overflowChecks (backend : InMemoryBackend) schedule c,
      (backendSystem overflowChecks).run (Config.initial ⟨backend, []⟩) schedule = some c →
      ∀ (i : Nat) call, c.threads[i]? = some call →
        call.panicked = false ∧ ∀ n ∈ call.reported, n = c.shared.removals i := by
  intro hclaim
  have hsome : ((backendSystem true).run (Config.initial ⟨.new, []⟩) loginDuringSweep).isSome =
      true := by decide +kernel
  obtain ⟨c, hrun⟩ := Option.isSome_iff_exists.mp hsome
  have hpanicked : ∀ c ∈ (backendSystem true).run (Config.initial ⟨.new, []⟩) loginDuringSweep,
      c.threads[0]? = some (.purgeExpired 1000 .panicked) := by decide +kernel
  have hcalm := (hclaim true .new loginDuringSweep c hrun 0 _ (hpanicked c hrun)).1
  cases hcalm

/-- A sweep removes one session between the scan of a revocation and the removal of the other
session, which a last call no longer finds. -/
def revocationAroundSweep : List (Action BackendCall Unit Empty) :=
  [.spawn (.insert aliceSession false), .spawn (.insert bobSession false), .move 0 (), .move 1 (),
    .spawn (.removeAllForDid aliceSession.did .scan), .spawn (.purgeExpired 1000 .len),
    .spawn (.remove aliceSession.token none),
    .move 2 (), .move 3 (), .move 3 (), .move 3 (), .move 2 (), .move 2 (), .move 4 ()]

/-- The numbers of the sweep, the revocation and the removal add up to the two sessions. -/
theorem counts_exact_revocation :
    ∃ c, (backendSystem true).run (Config.initial ⟨.new, []⟩) revocationAroundSweep = some c ∧
      (c.threads.map fun call => call.reported.getD 0).sum + c.shared.backend.len =
        InMemoryBackend.new.len + addedBy (fun _ => true) c.shared.history := by
  have hsome : ((backendSystem true).run (Config.initial ⟨.new, []⟩) revocationAroundSweep).isSome =
      true := by decide +kernel
  obtain ⟨c, hrun⟩ := Option.isSome_iff_exists.mp hsome
  have hfinished : ∀ c ∈ (backendSystem true).run (Config.initial ⟨.new, []⟩) revocationAroundSweep,
      ∀ call ∈ c.threads, call.finished = true := by decide +kernel
  exact ⟨c, hrun, (counts_exact true .new hrun (by decide +kernel)).2 (hfinished c hrun)⟩

end BackendServer

end AquaAuth
