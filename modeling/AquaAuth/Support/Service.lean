import Mathlib
set_option autoImplicit false
/-!
# Stateful services and their clock

A service answers one call after another and reads the clock while it does.  A call
carries what it draws from its surroundings, its clock readings among it, so a run is
the list of its calls, and it is chronological when its readings do not decrease.

Some calls are silent: they are made by a sweeper and nobody looks at their answers.
`audible_related` is the rule for two runs that differ in their silent calls only.
-/

namespace AquaAuth.Support

/-- How a service answers and changes, and the readings a call takes in turn. -/
structure Service (τ σ ι ο : Type) where
  call : σ → ι → ο × σ
  readings : ι → List τ

namespace Service

variable {τ σ ι ο : Type} (S : Service τ σ ι ο)

/-- The state after a run. -/
def after (s : σ) : List ι → σ
  | [] => s
  | op :: ops => after (S.call s op).2 ops

/-- The calls of a run with their answers. -/
def answers (s : σ) : List ι → List (ι × ο)
  | [] => []
  | op :: ops => (op, (S.call s op).1) :: answers (S.call s op).2 ops

/-- The last reading, when a call was made at `c`. -/
def clock (c : τ) (op : ι) : τ := (S.readings op).getLastD c

/-- The last reading of a run from `c` on. -/
def clockAfter (c : τ) : List ι → τ
  | [] => c
  | op :: ops => clockAfter (S.clock c op) ops

/-- Every call of a run meets a state that satisfies `Q`. -/
def Meets (Q : σ → ι → Prop) (s : σ) : List ι → Prop
  | [] => True
  | op :: ops => Q s op ∧ Meets Q (S.call s op).2 ops

variable {S}

/-! ## Runs -/

theorem after_append (s : σ) (xs ys : List ι) :
    S.after s (xs ++ ys) = S.after (S.after s xs) ys := by
  induction xs generalizing s with
  | nil => rfl
  | cons op xs ih => exact ih _

/-- A property that every call of a kind preserves holds after a run of such calls. -/
theorem after_of_forall {P : σ → Prop} {Q : ι → Prop}
    (step : ∀ s op, P s → Q op → P (S.call s op).2) {s : σ} {ops : List ι}
    (hQ : ∀ op ∈ ops, Q op) (hs : P s) : P (S.after s ops) := by
  induction ops generalizing s with
  | nil => exact hs
  | cons op ops ih =>
      exact ih (fun op' hop' => hQ op' (List.mem_cons_of_mem op hop'))
        (step s op hs (hQ op List.mem_cons_self))

theorem meets_of_forall {P : σ → Prop} {Q : σ → ι → Prop} {G : ι → Prop}
    (step : ∀ s op, P s → G op → Q s op ∧ P (S.call s op).2) {s : σ} {ops : List ι}
    (hG : ∀ op ∈ ops, G op) (hs : P s) : S.Meets Q s ops := by
  induction ops generalizing s with
  | nil => exact trivial
  | cons op ops ih =>
      obtain ⟨hQ, hP⟩ := step s op hs (hG op List.mem_cons_self)
      exact ⟨hQ, ih (fun op' hop' => hG op' (List.mem_cons_of_mem op hop')) hP⟩

theorem meets_append {Q : σ → ι → Prop} {s : σ} {xs ys : List ι} :
    S.Meets Q s (xs ++ ys) ↔ S.Meets Q s xs ∧ S.Meets Q (S.after s xs) ys := by
  induction xs generalizing s with
  | nil => simp [Meets, after]
  | cons op xs ih => simp [Meets, after, ih, and_assoc]

/-- A run is seen from each of its splits. -/
theorem meets_iff {Q : σ → ι → Prop} {s : σ} {ops : List ι} :
    S.Meets Q s ops ↔
      ∀ before op rest, ops = before ++ op :: rest → Q (S.after s before) op := by
  induction ops generalizing s with
  | nil => simp [Meets]
  | cons first ops ih =>
      rw [Meets, ih]
      constructor
      · rintro ⟨hfirst, hrest⟩ before op rest hops
        cases before with
        | nil =>
            obtain ⟨rfl, rfl⟩ := List.cons.inj hops
            exact hfirst
        | cons b before =>
            obtain ⟨rfl, rfl⟩ := List.cons.inj hops
            exact hrest before op rest rfl
      · intro hsplit
        refine ⟨hsplit [] first ops rfl, fun before op rest hops => ?_⟩
        exact hsplit (first :: before) op rest (by rw [hops, List.cons_append])

/-- The answers somebody looks at. -/
def audible (S : Service τ σ ι ο) (silent : ι → Bool) (s : σ) (ops : List ι) : List (ι × ο) :=
  (S.answers s ops).filter fun a => !silent a.1

/-- A run of silent calls has nothing to look at. -/
theorem audible_eq_nil {silent : ι → Bool} {s : σ} {ops : List ι}
    (h : (ops.filter fun op => !silent op) = []) : S.audible silent s ops = [] := by
  induction ops generalizing s with
  | nil => rfl
  | cons op ops ih =>
      cases hop : silent op with
      | false => simp [hop] at h
      | true =>
          have htail := ih (s := (S.call s op).2) (by simpa [hop] using h)
          simpa [audible, answers, hop] using htail

theorem audible_append (silent : ι → Bool) (s : σ) (xs ys : List ι) :
    S.audible silent s (xs ++ ys) =
      S.audible silent s xs ++ S.audible silent (S.after s xs) ys := by
  have hanswers : ∀ s, S.answers s (xs ++ ys) = S.answers s xs ++ S.answers (S.after s xs) ys := by
    induction xs with
    | nil => exact fun _ => rfl
    | cons x xs ih => exact fun s => congrArg _ (ih _)
  rw [audible, hanswers, List.filter_append]
  rfl

/-! ## The clock -/

variable [LinearOrder τ]

variable (S) in
/-- The readings of a call made at `c` do not go back. -/
def Timely (c : τ) (op : ι) : Prop := (c :: S.readings op).Pairwise (· ≤ ·)

variable (S) in
/-- The readings of a run from `c` on do not go back. -/
def Chronological (c : τ) : List ι → Prop
  | [] => True
  | op :: ops => S.Timely c op ∧ Chronological (S.clock c op) ops

instance (c : τ) (op : ι) : Decidable (S.Timely c op) :=
  inferInstanceAs (Decidable (List.Pairwise _ _))

instance decidableChronological : ∀ c ops, Decidable (S.Chronological c ops)
  | _, [] => inferInstanceAs (Decidable True)
  | c, op :: ops =>
      haveI := decidableChronological (S.clock c op) ops
      inferInstanceAs (Decidable (_ ∧ _))

theorem le_clock {c : τ} {op : ι} (h : S.Timely c op) : c ≤ S.clock c op := by
  unfold clock
  cases hlast : (S.readings op).getLast? with
  | none => simp [List.getLastD_eq_getLast?, hlast]
  | some r =>
      simp only [List.getLastD_eq_getLast?, hlast, Option.getD_some]
      exact (List.pairwise_cons.mp h).1 r (List.mem_of_getLast? hlast)

theorem le_clockAfter {c : τ} {ops : List ι} (h : S.Chronological c ops) :
    c ≤ S.clockAfter c ops := by
  induction ops generalizing c with
  | nil => exact le_refl c
  | cons op ops ih => exact (le_clock h.1).trans (ih h.2)

theorem Timely.mono {c c' : τ} {op : ι} (hle : c ≤ c') (h : S.Timely c' op) :
    S.Timely c op := by
  obtain ⟨hfirst, hrest⟩ := List.pairwise_cons.mp h
  exact List.pairwise_cons.mpr ⟨fun r hr => hle.trans (hfirst r hr), hrest⟩

theorem Timely.max {c c' : τ} {op : ι} (h : S.Timely c op) (h' : S.Timely c' op) :
    S.Timely (max c c') op := by
  obtain ⟨hfirst, hrest⟩ := List.pairwise_cons.mp h
  exact List.pairwise_cons.mpr
    ⟨fun r hr => max_le (hfirst r hr) ((List.pairwise_cons.mp h').1 r hr), hrest⟩

theorem clock_max {c c' : τ} {op : ι} :
    S.clock (max c c') op = max (S.clock c op) (S.clock c' op) := by
  unfold clock
  cases hlast : (S.readings op).getLast? with
  | none => simp [List.getLastD_eq_getLast?, hlast]
  | some r => simp [List.getLastD_eq_getLast?, hlast]

/-- A reading of one of two runs moves their common clock no further than its own. -/
theorem max_clock_le {c c' : τ} {op : ι} (h : S.Timely c op) :
    max (max c c') (S.clock (max c c') op) ≤ max (S.clock c op) c' := by
  have hc := le_clock h
  have hc' : S.clock c' op ≤ max (S.clock c op) c' := by
    unfold clock
    cases hlast : (S.readings op).getLast? with
    | none => simp [List.getLastD_eq_getLast?, hlast]
    | some r => simp [List.getLastD_eq_getLast?, hlast]
  rw [clock_max]
  exact max_le (max_le (le_max_of_le_left hc) (le_max_right _ _)) (max_le (le_max_left _ _) hc')

/-! ## Two runs -/

/-- Two runs that make the same calls, silent ones apart, get related answers, when a relation
of their states survives a silent call on either side and a call made on both. -/
theorem audible_related {R : τ → σ → σ → Prop} {silent : ι → Bool} {Q : σ → ι → Prop}
    {E : ι → ο → ο → Prop}
    (symm : ∀ c s s', R c s s' → R c s' s)
    (sweep : ∀ c s s' op, R c s s' → silent op = true →
      R (max c (S.clock c op)) (S.call s op).2 s')
    (both : ∀ c s s' op, R c s s' → silent op = false → S.Timely c op → Q s op → Q s' op →
      E op (S.call s op).1 (S.call s' op).1 ∧ R (S.clock c op) (S.call s op).2 (S.call s' op).2)
    (mono : ∀ c c' s s', c ≤ c' → R c s s' → R c' s s')
    {xs ys : List ι} {c c' : τ} {s s' : σ}
    (hsame : xs.filter (fun op => !silent op) = ys.filter fun op => !silent op)
    (hx : S.Chronological c xs) (hy : S.Chronological c' ys)
    (hxQ : S.Meets Q s xs) (hyQ : S.Meets Q s' ys) (hR : R (max c c') s s') :
    List.Forall₂ (fun a b => a.1 = b.1 ∧ E a.1 a.2 b.2)
      (S.audible silent s xs) (S.audible silent s' ys) := by
  induction xs generalizing ys c c' s s' with
  | nil =>
      rw [audible_eq_nil hsame.symm]
      exact .nil
  | cons x xs ihx =>
      cases hsx : silent x with
      | true =>
          have hstep := sweep _ s s' x hR hsx
          have hfewer : xs.filter (fun op => !silent op) = ys.filter fun op => !silent op := by
            simpa [hsx] using hsame
          have hrest := ihx hfewer hx.2 hy hxQ.2 hyQ (mono _ _ _ _ (max_clock_le hx.1) hstep)
          simpa [audible, answers, hsx] using hrest
      | false =>
          induction ys generalizing c' s' with
          | nil => simp [hsx] at hsame
          | cons y ys ihy =>
              cases hsy : silent y with
              | true =>
                  have hstep := symm _ _ _ (sweep _ s' s y (symm _ _ _ hR) hsy)
                  have hle : max (max c c') (S.clock (max c c') y) ≤ max c (S.clock c' y) := by
                    rw [max_comm c c', max_comm c (S.clock c' y)]
                    exact max_clock_le hy.1
                  have hskip : (y :: ys).filter (fun op => !silent op) =
                      ys.filter fun op => !silent op := List.filter_cons_of_neg (by simp [hsy])
                  have hrest := ihy (hsame.trans hskip) hy.2 hyQ.2 (mono _ _ _ _ hle hstep)
                  simpa [audible, answers, hsy] using hrest
              | false =>
                  simp only [List.filter_cons, hsx, hsy, Bool.not_false, if_true,
                    List.cons.injEq] at hsame
                  obtain ⟨rfl, hsame⟩ := hsame
                  obtain ⟨hanswer, hstep⟩ := both _ s s' x hR hsx (hx.1.max hy.1) hxQ.1 hyQ.1
                  have hrest := ihx hsame hx.2 hy.2 hxQ.2 hyQ.2 (clock_max (S := S) ▸ hstep)
                  have hcons := List.Forall₂.cons
                    (R := fun a b : ι × ο => a.1 = b.1 ∧ E a.1 a.2 b.2)
                    (a := (x, (S.call s x).1)) (b := (x, (S.call s' x).1)) ⟨rfl, hanswer⟩ hrest
                  simpa [audible, answers, hsx] using hcons

end Service

end AquaAuth.Support
