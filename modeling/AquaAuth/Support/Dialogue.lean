import Mathlib
set_option autoImplicit false
/-!
# Programs that ask their environment

A program is a tree: it asks a question, goes on with the answer, and ends with a result.  What
one path through it asked and was answered is its transcript.  An environment with a state answers
from that state; whatever holds of every transcript holds in every environment.
-/

namespace AquaAuth.Support

inductive Dialogue (Q A R : Type) where
  | done (result : R)
  | ask (question : Q) (next : A → Dialogue Q A R)

namespace Dialogue

variable {Q A R S σ : Type}

/-- One program after another. -/
def andThen : Dialogue Q A R → (R → Dialogue Q A S) → Dialogue Q A S
  | done result, f => f result
  | ask question next, f => ask question fun answer => (next answer).andThen f

/-- A path through the program, its questions answered in turn. -/
inductive Path : Dialogue Q A R → List (Q × A) → R → Prop where
  | done (result : R) : Path (done result) [] result
  | ask {question : Q} {next : A → Dialogue Q A R} {answer : A} {rest : List (Q × A)} {result : R}
      (h : Path (next answer) rest result) :
      Path (ask question next) ((question, answer) :: rest) result

/-- An environment: its answer to a question, and the state it is in afterwards. -/
abbrev Environment (σ Q A : Type) := σ → Q → A × σ

/-- How a program ends in an environment. -/
structure Ending (σ Q A R : Type) where
  result : R
  world : σ
  transcript : List (Q × A)

def run (serve : Environment σ Q A) : Dialogue Q A R → σ → Ending σ Q A R
  | done result, world => ⟨result, world, []⟩
  | ask question next, world =>
      let answer := serve world question
      let ending := run serve (next answer.1) answer.2
      { ending with transcript := (question, answer.1) :: ending.transcript }

/-! ## Paths -/

theorem path_done {result result' : R} {transcript : List (Q × A)} :
    Path (done result) transcript result' ↔ transcript = [] ∧ result' = result := by
  constructor
  · rintro ⟨⟩
    exact ⟨rfl, rfl⟩
  · rintro ⟨rfl, rfl⟩
    exact .done _

theorem path_ask {question : Q} {next : A → Dialogue Q A R} {transcript : List (Q × A)}
    {result : R} :
    Path (ask question next) transcript result ↔
      ∃ answer rest, transcript = (question, answer) :: rest ∧ Path (next answer) rest result := by
  constructor
  · rintro ⟨⟩
    exact ⟨_, _, rfl, ‹_›⟩
  · rintro ⟨answer, rest, rfl, h⟩
    exact .ask h

/-- A path through two programs is a path through each. -/
theorem path_andThen {d : Dialogue Q A R} {f : R → Dialogue Q A S} {transcript : List (Q × A)}
    {result : S} :
    Path (d.andThen f) transcript result ↔
      ∃ first between second, transcript = first ++ second ∧ Path d first between ∧
        Path (f between) second result := by
  induction d generalizing transcript with
  | done between =>
      constructor
      · intro h
        exact ⟨[], between, transcript, rfl, .done _, h⟩
      · rintro ⟨first, between', second, rfl, hfirst, hsecond⟩
        obtain ⟨rfl, rfl⟩ := path_done.mp hfirst
        exact hsecond
  | ask question next ih =>
      rw [andThen, path_ask]
      constructor
      · rintro ⟨answer, rest, rfl, h⟩
        obtain ⟨first, between, second, rfl, hfirst, hsecond⟩ := (ih answer).mp h
        exact ⟨_ :: first, between, second, rfl, .ask hfirst, hsecond⟩
      · rintro ⟨first, between, second, rfl, hfirst, hsecond⟩
        obtain ⟨answer, rest, rfl, hrest⟩ := path_ask.mp hfirst
        exact ⟨answer, rest ++ second, rfl, (ih answer).mpr ⟨_, _, _, rfl, hrest, hsecond⟩⟩

/-! ## Environments -/

variable (serve : Environment σ Q A)

@[simp] theorem run_done (result : R) (world : σ) :
    run serve (.done result : Dialogue Q A R) world = ⟨result, world, []⟩ := rfl

@[simp] theorem run_ask (question : Q) (next : A → Dialogue Q A R) (world : σ) :
    run serve (.ask question next) world =
      { run serve (next (serve world question).1) (serve world question).2 with
        transcript := (question, (serve world question).1) ::
          (run serve (next (serve world question).1) (serve world question).2).transcript } := rfl

/-- What a program does in an environment is one of its paths. -/
theorem path_run (d : Dialogue Q A R) (world : σ) :
    Path d (run serve d world).transcript (run serve d world).result := by
  induction d generalizing world with
  | done result => exact .done result
  | ask question next ih => exact .ask (ih _ _)

/-- The second of two programs starts where the first one ends. -/
theorem run_andThen (d : Dialogue Q A R) (f : R → Dialogue Q A S) (world : σ) :
    run serve (d.andThen f) world =
      { run serve (f (run serve d world).result) (run serve d world).world with
        transcript := (run serve d world).transcript ++
          (run serve (f (run serve d world).result) (run serve d world).world).transcript } := by
  induction d generalizing world with
  | done result => rfl
  | ask question next ih =>
      simp only [andThen, run_ask, ih, List.cons_append]

end Dialogue

end AquaAuth.Support
