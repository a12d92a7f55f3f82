import Mathlib
set_option autoImplicit false
/-!
# Interleaved threads over a shared state

A call is a thread with a local state.  Each of its atomic steps reads and
writes the shared state; a scheduler picks which thread moves next, when a new
call starts and when the environment (a clock, say) acts.  A schedule is the
list of these decisions, so a run is a computation and a claim about every
interleaving is a claim about every schedule.

`run_invariant` is the induction rule for one invariant of configurations.
`run_localInvariant` is the rule for a shared invariant together with one
assertion for each thread, which the steps of the other threads must leave true.
`run_reserved` is the rule for a bound on a size that threads make room for before
they use it.  `run_thread` is the rule for the progress of one thread among others, and
`run_became` leads from what a thread says back to the step that made it say so.
-/

namespace AquaAuth.Support.Interleaving

/-- A decision of the scheduler. -/
inductive Action (τ κ ω : Type) where
  /-- A new call starts. -/
  | spawn (call : τ)
  /-- A thread performs its next atomic step; `choice` resolves what it draws. -/
  | move (thread : Nat) (choice : κ)
  /-- The environment acts. -/
  | ambient (event : ω)

/-- The atomic steps of a thread and of the environment, and the local states
in which calls start. -/
structure System (σ τ κ ω : Type) where
  entry : τ → Bool
  move : σ → Nat → τ → κ → Option (σ × τ)
  ambient : σ → ω → Option σ

/-- The shared state and the threads started so far, finished ones included. -/
structure Config (σ τ : Type) where
  shared : σ
  threads : List τ
  deriving DecidableEq

variable {σ τ κ ω : Type}

/-- A configuration in which no call has started. -/
def Config.initial (s : σ) : Config σ τ := ⟨s, []⟩

namespace System

variable (S : System σ τ κ ω)

/-- One scheduled step; `none` when the decision is not possible. -/
def next (c : Config σ τ) : Action τ κ ω → Option (Config σ τ)
  | .spawn t => if S.entry t then some { c with threads := c.threads ++ [t] } else none
  | .move i k => do
      let t ← c.threads[i]?
      let moved ← S.move c.shared i t k
      pure ⟨moved.1, c.threads.set i moved.2⟩
  | .ambient e => (S.ambient c.shared e).map fun s => { c with shared := s }

/-- The configuration a schedule leads to. -/
def run (c : Config σ τ) : List (Action τ κ ω) → Option (Config σ τ)
  | [] => some c
  | a :: schedule => (S.next c a).bind fun c' => run c' schedule

/-- A thread moving alone, with the choices it draws in turn. -/
def alone (i : Nat) (s : σ) (t : τ) : List κ → Option (σ × τ)
  | [] => some (s, t)
  | k :: choices => (S.move s i t k).bind fun moved => alone i moved.1 moved.2 choices

/-- Every step of the schedule satisfies `Q` in the configuration it is taken in. -/
def Along (Q : Config σ τ → Action τ κ ω → Prop) :
    Config σ τ → List (Action τ κ ω) → Prop
  | _, [] => True
  | c, a :: schedule => Q c a ∧ ∀ c', S.next c a = some c' → Along Q c' schedule

instance decidableAlong (Q : Config σ τ → Action τ κ ω → Prop) [∀ c a, Decidable (Q c a)] :
    ∀ c schedule, Decidable (S.Along Q c schedule)
  | _, [] => inferInstanceAs (Decidable True)
  | c, a :: schedule =>
      match h : S.next c a with
      | none => decidable_of_iff (Q c a) (by simp [Along, h])
      | some c' =>
          haveI := decidableAlong Q c' schedule
          decidable_of_iff (Q c a ∧ S.Along Q c' schedule) (by simp [Along, h])

/-! ## One step -/

variable {S}

theorem next_spawn {c c' : Config σ τ} {t : τ} :
    S.next c (.spawn t) = some c' ↔
      S.entry t = true ∧ c' = { c with threads := c.threads ++ [t] } := by
  simp only [next]
  split_ifs with h <;> simp [h, eq_comm]

theorem next_move {c c' : Config σ τ} {i : Nat} {k : κ} :
    S.next c (.move i k) = some c' ↔
      ∃ t s t', c.threads[i]? = some t ∧ S.move c.shared i t k = some (s, t') ∧
        c' = ⟨s, c.threads.set i t'⟩ := by
  simp only [next, Option.bind_eq_bind, Option.bind_eq_some_iff, Option.pure_def,
    Option.some.injEq, Prod.exists]
  constructor
  · rintro ⟨t, ht, s, t', hmove, rfl⟩
    exact ⟨t, s, t', ht, hmove, rfl⟩
  · rintro ⟨t, s, t', ht, hmove, rfl⟩
    exact ⟨t, ht, s, t', hmove, rfl⟩

theorem next_ambient {c c' : Config σ τ} {e : ω} :
    S.next c (.ambient e) = some c' ↔
      ∃ s, S.ambient c.shared e = some s ∧ c' = { c with shared := s } := by
  simp [next, eq_comm]

/-- The threads after a move: the one that moved, and the others unchanged. -/
theorem getElem?_set_cases {threads : List τ} {i j : Nat} {t u : τ}
    (h : (threads.set i t)[j]? = some u) :
    (j = i ∧ u = t) ∨ (j ≠ i ∧ threads[j]? = some u) := by
  by_cases hji : j = i
  · subst hji
    rw [List.getElem?_set_self'] at h
    cases hj : threads[j]? with
    | none => simp [hj] at h
    | some v => simp [hj] at h; exact .inl ⟨rfl, h.symm⟩
  · exact .inr ⟨hji, by rwa [List.getElem?_set_ne (Ne.symm hji)] at h⟩

/-! ## Runs -/

@[simp] theorem run_nil (c : Config σ τ) : S.run c [] = some c := rfl

theorem run_cons {c c' : Config σ τ} {a : Action τ κ ω} {schedule : List (Action τ κ ω)} :
    S.run c (a :: schedule) = some c' ↔
      ∃ c₁, S.next c a = some c₁ ∧ S.run c₁ schedule = some c' := by
  simp [run, Option.bind_eq_some_iff]

/-- A thread moving alone is a run in which only that thread moves. -/
theorem run_alone {s s' : σ} {t t' : τ} {i : Nat} {choices : List κ} {threads : List τ}
    (ht : threads[i]? = some t) (h : S.alone i s t choices = some (s', t')) :
    S.run ⟨s, threads⟩ (choices.map (.move i)) = some ⟨s', threads.set i t'⟩ := by
  induction choices generalizing s t threads with
  | nil =>
      obtain ⟨rfl, rfl⟩ := Prod.mk.inj (Option.some.inj h)
      obtain ⟨hlt, rfl⟩ := List.getElem?_eq_some_iff.mp ht
      simp
  | cons k choices ih =>
      obtain ⟨⟨s₁, t₁⟩, hmove, hrest⟩ := Option.bind_eq_some_iff.mp h
      obtain ⟨hlt, _⟩ := List.getElem?_eq_some_iff.mp ht
      have hset : (threads.set i t₁)[i]? = some t₁ := List.getElem?_set_self hlt
      have hrun := ih hset hrest
      rw [List.set_set] at hrun
      exact run_cons.mpr ⟨_, next_move.mpr ⟨t, s₁, t₁, ht, hmove, rfl⟩, hrun⟩

/-- A property of configurations that every step preserves holds after a run. -/
theorem run_invariant {P : Config σ τ → Prop}
    (step : ∀ c a c', P c → S.next c a = some c' → P c')
    {c c' : Config σ τ} {schedule : List (Action τ κ ω)} (h : S.run c schedule = some c')
    (hc : P c) : P c' := by
  induction schedule generalizing c with
  | nil =>
      simp only [run_nil, Option.some.injEq] at h
      exact h ▸ hc
  | cons a schedule ih =>
      obtain ⟨c₁, hnext, hrun⟩ := run_cons.mp h
      exact ih hrun (step c a c₁ hc hnext)

/-- The same rule for a run whose steps all satisfy a condition. -/
theorem run_invariant_along {P : Config σ τ → Prop} {Q : Config σ τ → Action τ κ ω → Prop}
    (step : ∀ c a c', P c → Q c a → S.next c a = some c' → P c')
    {c c' : Config σ τ} {schedule : List (Action τ κ ω)} (h : S.run c schedule = some c')
    (hQ : S.Along Q c schedule) (hc : P c) : P c' := by
  induction schedule generalizing c with
  | nil =>
      simp only [run_nil, Option.some.injEq] at h
      exact h ▸ hc
  | cons a schedule ih =>
      obtain ⟨c₁, hnext, hrun⟩ := run_cons.mp h
      exact ih hrun (hQ.2 c₁ hnext) (step c a c₁ hc hQ.1 hnext)

theorem Along.and {Q Q' : Config σ τ → Action τ κ ω → Prop} {c : Config σ τ}
    {schedule : List (Action τ κ ω)} (h : S.Along Q c schedule) (h' : S.Along Q' c schedule) :
    S.Along (fun c a => Q c a ∧ Q' c a) c schedule := by
  induction schedule generalizing c with
  | nil => exact trivial
  | cons a schedule ih => exact ⟨⟨h.1, h'.1⟩, fun c' hc' => ih (h.2 c' hc') (h'.2 c' hc')⟩

/-- A shared invariant and one assertion for each thread.  A thread re-establishes
the invariant and its own assertion when it moves, and leaves the assertions of
the other threads true. -/
theorem run_localInvariant {I : σ → Prop} {L : σ → Nat → τ → Prop}
    (spawn : ∀ s i t, I s → S.entry t = true → L s i t)
    (move : ∀ s i t k s' t', I s → L s i t → S.move s i t k = some (s', t') →
      I s' ∧ L s' i t')
    (stable : ∀ s i t k s' t' j u, I s → L s i t → S.move s i t k = some (s', t') →
      j ≠ i → L s j u → L s' j u)
    (ambient : ∀ s e s', I s → S.ambient s e = some s' →
      I s' ∧ ∀ j u, L s j u → L s' j u)
    {s : σ} {c : Config σ τ} {schedule : List (Action τ κ ω)}
    (h : S.run (Config.initial s) schedule = some c) (hs : I s) :
    I c.shared ∧ ∀ i t, c.threads[i]? = some t → L c.shared i t := by
  refine run_invariant (P := fun c => I c.shared ∧
    ∀ i t, c.threads[i]? = some t → L c.shared i t) ?_ h ⟨hs, by simp [Config.initial]⟩
  rintro c a c' ⟨hI, hL⟩ hnext
  cases a with
  | spawn call =>
      obtain ⟨hentry, rfl⟩ := next_spawn.mp hnext
      refine ⟨hI, fun i t hi => ?_⟩
      rw [List.getElem?_append] at hi
      split_ifs at hi with hlt
      · exact hL i t hi
      · obtain ⟨_, rfl⟩ : i - c.threads.length = 0 ∧ call = t := by
          rw [List.getElem?_singleton] at hi
          split_ifs at hi with hz
          exact ⟨hz, by simpa using hi⟩
        exact spawn _ _ _ hI hentry
  | move i k =>
      obtain ⟨t, s', t', hi, hmove, rfl⟩ := next_move.mp hnext
      obtain ⟨hI', hown⟩ := move _ _ _ _ _ _ hI (hL i t hi) hmove
      refine ⟨hI', fun j u hj => ?_⟩
      rcases getElem?_set_cases hj with ⟨rfl, rfl⟩ | ⟨hne, hj⟩
      · exact hown
      · exact stable _ _ _ _ _ _ _ _ hI (hL i t hi) hmove hne (hL j u hj)
  | ambient e =>
      obtain ⟨s', hs', rfl⟩ := next_ambient.mp hnext
      obtain ⟨hI', hothers⟩ := ambient _ _ _ hI hs'
      exact ⟨hI', fun j u hj => hothers j u (hL j u hj)⟩

/-! ## Reservations -/

theorem countP_set_add {threads : List τ} {i : Nat} {t : τ} (p : τ → Bool) (t' : τ)
    (h : threads[i]? = some t) :
    (threads.set i t').countP p + (if p t then 1 else 0) =
      threads.countP p + if p t' then 1 else 0 := by
  induction threads generalizing i with
  | nil => cases h
  | cons u threads ih =>
      cases i with
      | zero =>
          obtain rfl : u = t := Option.some.inj h
          simp only [List.set_cons_zero, List.countP_cons]
          omega
      | succ i =>
          have hrest := ih h
          simp only [List.set_cons_succ, List.countP_cons]
          omega

/-- The rule for a size that grows by threads holding a reservation: a move hands the
reservation on to the size, or takes one while there is room for all of them. -/
theorem run_reserved {I : σ → Prop} (size : σ → Nat) (holds : τ → Bool) {n : Nat}
    {Q : Config σ τ → Action τ κ ω → Prop}
    (entry : ∀ t, S.entry t = true → holds t = false)
    (move : ∀ c i k t s' t', I c.shared → Q c (.move i k) → c.threads[i]? = some t →
      S.move c.shared i t k = some (s', t') →
      I s' ∧ (size s' + (if holds t' then 1 else 0) ≤ size c.shared + (if holds t then 1 else 0) ∨
        size s' + (c.threads.set i t').countP holds ≤ n))
    (ambient : ∀ s e s', I s → S.ambient s e = some s' → I s' ∧ size s' ≤ size s)
    {s : σ} {c : Config σ τ} {schedule : List (Action τ κ ω)}
    (h : S.run (Config.initial s) schedule = some c)
    (hQ : S.Along Q (Config.initial s) schedule) (hs : I s) (hsize : size s ≤ n) :
    I c.shared ∧ size c.shared + c.threads.countP holds ≤ n := by
  refine run_invariant_along (P := fun c => I c.shared ∧
    size c.shared + c.threads.countP holds ≤ n) ?_ h hQ ⟨hs, by simpa [Config.initial] using hsize⟩
  rintro c a c' ⟨hI, hc⟩ hstep hnext
  cases a with
  | spawn call =>
      obtain ⟨hentry, rfl⟩ := next_spawn.mp hnext
      refine ⟨hI, ?_⟩
      simpa [List.countP_append, entry call hentry] using hc
  | move i k =>
      obtain ⟨t, s', t', hi, hmove, rfl⟩ := next_move.mp hnext
      obtain ⟨hI', hsteps⟩ := move c i k t s' t' hI hstep hi hmove
      refine ⟨hI', ?_⟩
      rcases hsteps with hhands | htakes
      · have hcount := countP_set_add holds t' hi
        show size s' + (c.threads.set i t').countP holds ≤ n
        omega
      · exact htakes
  | ambient e =>
      obtain ⟨s', hs', rfl⟩ := next_ambient.mp hnext
      obtain ⟨hI', hle⟩ := ambient _ _ _ hI hs'
      exact ⟨hI', (Nat.add_le_add_right hle _).trans hc⟩

/-! ## One thread among others -/

/-- The steps a schedule gives to a thread. -/
def stepsOf (i : Nat) : List (Action τ κ ω) → Nat
  | [] => 0
  | .move j _ :: schedule => stepsOf i schedule + if j = i then 1 else 0
  | .spawn _ :: schedule => stepsOf i schedule
  | .ambient _ :: schedule => stepsOf i schedule

/-- The rule for one thread that each step of its own brings nearer to its end, and that the
other steps of the run do not disturb. -/
theorem run_thread {P : σ → τ → Prop} (rank : τ → Nat) {Q : Config σ τ → Action τ κ ω → Prop}
    {i : Nat}
    (own : ∀ c k t s' t', P c.shared t → Q c (.move i k) → c.threads[i]? = some t →
      S.move c.shared i t k = some (s', t') → P s' t' ∧ rank t' < rank t)
    (others : ∀ c a c' t, P c.shared t → Q c a → (∀ k, a ≠ .move i k) → S.next c a = some c' →
      P c'.shared t)
    {c c' : Config σ τ} {schedule : List (Action τ κ ω)} {t : τ}
    (h : S.run c schedule = some c') (hQ : S.Along Q c schedule) (ht : c.threads[i]? = some t)
    (hP : P c.shared t) :
    ∃ t', c'.threads[i]? = some t' ∧ P c'.shared t' ∧ rank t' + stepsOf i schedule ≤ rank t := by
  induction schedule generalizing c t with
  | nil =>
      simp only [run_nil, Option.some.injEq] at h
      subst h
      exact ⟨t, ht, hP, le_refl _⟩
  | cons a schedule ih =>
      obtain ⟨c₁, hnext, hrun⟩ := run_cons.mp h
      have hQ' := hQ.2 c₁ hnext
      cases a with
      | spawn call =>
          have hP' := others c _ c₁ t hP hQ.1 (by simp) hnext
          obtain ⟨_, rfl⟩ := next_spawn.mp hnext
          have ht' : (c.threads ++ [call])[i]? = some t := by
            rw [List.getElem?_append_left (List.getElem?_eq_some_iff.mp ht).1, ht]
          exact ih hrun hQ' ht' hP'
      | move j k =>
          by_cases hji : j = i
          · subst hji
            obtain ⟨t₁, s', t', ht₁, hmove, rfl⟩ := next_move.mp hnext
            obtain rfl : t₁ = t := Option.some.inj (ht₁.symm.trans ht)
            obtain ⟨hP', hrank⟩ := own c k t₁ s' t' hP hQ.1 ht hmove
            have ht' : (c.threads.set j t')[j]? = some t' := by
              rw [List.getElem?_set_self (List.getElem?_eq_some_iff.mp ht).1]
            obtain ⟨t'', ht'', hP'', hle⟩ := ih hrun hQ' ht' hP'
            refine ⟨t'', ht'', hP'', ?_⟩
            simp only [stepsOf, if_pos]
            omega
          · have hP' := others c _ c₁ t hP hQ.1 (by simp [hji]) hnext
            obtain ⟨t₁, s', t', _, _, rfl⟩ := next_move.mp hnext
            have ht' : (c.threads.set j t')[i]? = some t := by
              rw [List.getElem?_set_ne hji, ht]
            obtain ⟨t'', ht'', hP'', hle⟩ := ih hrun hQ' ht' hP'
            refine ⟨t'', ht'', hP'', ?_⟩
            simpa only [stepsOf, if_neg hji, Nat.add_zero] using hle
      | ambient e =>
          have hP' := others c _ c₁ t hP hQ.1 (by simp) hnext
          obtain ⟨s', _, rfl⟩ := next_ambient.mp hnext
          exact ih hrun hQ' ht hP'

/-! ## What a thread has come through -/

/-- A thread of which something holds that holds of no thread as it starts has made the step
that brought this about. -/
theorem run_became {T : τ → Prop} (entry : ∀ t, S.entry t = true → ¬ T t) {i : Nat}
    {c c' : Config σ τ} {schedule : List (Action τ κ ω)} (h : S.run c schedule = some c')
    (hc : ∀ t, c.threads[i]? = some t → ¬ T t) {t : τ} (ht : c'.threads[i]? = some t) (hT : T t) :
    ∃ before after c₁ t₁ k s' t', schedule = before ++ after ∧ S.run c before = some c₁ ∧
      c₁.threads[i]? = some t₁ ∧ S.move c₁.shared i t₁ k = some (s', t') ∧ ¬ T t₁ ∧ T t' := by
  induction schedule generalizing c with
  | nil =>
      simp only [run_nil, Option.some.injEq] at h
      subst h
      exact absurd hT (hc t ht)
  | cons a schedule ih =>
      obtain ⟨c₂, hnext, hrun⟩ := run_cons.mp h
      by_cases hc₂ : ∀ t, c₂.threads[i]? = some t → ¬ T t
      · obtain ⟨before, after, c₁, t₁, k, s', t', rfl, hbefore, hrest⟩ := ih hrun hc₂
        exact ⟨a :: before, after, c₁, t₁, k, s', t', rfl, run_cons.mpr ⟨c₂, hnext, hbefore⟩, hrest⟩
      · obtain ⟨t', ht', hT'⟩ : ∃ t', c₂.threads[i]? = some t' ∧ T t' := by simpa using hc₂
        cases a with
        | spawn call =>
            obtain ⟨hentry, rfl⟩ := next_spawn.mp hnext
            rw [List.getElem?_append] at ht'
            split_ifs at ht' with hlt
            · exact absurd hT' (hc t' ht')
            · obtain rfl : call = t' := by
                rw [List.getElem?_singleton] at ht'
                split_ifs at ht'
                simpa using ht'
              exact absurd hT' (entry _ hentry)
        | move j k =>
            obtain ⟨t₁, s', t₂, ht₁, hmove, rfl⟩ := next_move.mp hnext
            rcases getElem?_set_cases ht' with ⟨rfl, rfl⟩ | ⟨_, hold⟩
            · exact ⟨[], _, c, t₁, k, s', t', rfl, rfl, ht₁, hmove, hc t₁ ht₁, hT'⟩
            · exact absurd hT' (hc t' hold)
        | ambient e =>
            obtain ⟨s', _, rfl⟩ := next_ambient.mp hnext
            exact absurd hT' (hc t' ht')

end System

end AquaAuth.Support.Interleaving
