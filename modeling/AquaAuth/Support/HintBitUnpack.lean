import AquaAuth.Support.Text
import Mathlib.Data.List.Range
set_option autoImplicit false
/-!
# HintBitUnpack

FIPS 204, Algorithm 21, for any number `k` of polynomials and any bound `ω` on the hints, and the
byte strings on which it does not fail.
-/

namespace AquaAuth.Support.Fips204

/-- The coefficients that are set, by polynomial. -/
abbrev Hint := ℕ → UInt8 → Bool

def Hint.set (h : Hint) (i : ℕ) (c : UInt8) : Hint := fun i' c' => (i' = i ∧ c' = c) ∨ h i' c'

/-- The byte at an index. -/
def byteAt (y : Bytes) (i : ℕ) : UInt8 := y.getD i 0

/-- Lines 7 to 14: the indices of polynomial `i`, up to its count. -/
def unpackRow (y : Bytes) (i first last index : ℕ) (h : Hint) : Option (ℕ × Hint) :=
  if index < last then
    if first < index ∧ byteAt y index ≤ byteAt y (index - 1) then none
    else unpackRow y i first last (index + 1) (h.set i (byteAt y index))
  else some (index, h)
termination_by last - index

/-- Lines 3 to 15: `n` polynomials from polynomial `i` on. -/
def unpackRows (y : Bytes) (ω : ℕ) : ℕ → ℕ → ℕ → Hint → Option (ℕ × Hint)
  | 0, _, index, h => some (index, h)
  | n + 1, i, index, h =>
      let last := (byteAt y (ω + i)).toNat
      if last < index ∨ ω < last then none
      else
        match unpackRow y i index last index h with
        | none => none
        | some (index, h) => unpackRows y ω n (i + 1) index h

/-- Algorithm 21. -/
def hintBitUnpack (k ω : ℕ) (y : Bytes) : Option Hint :=
  match unpackRows y ω k 0 0 fun _ _ => false with
  | none => none
  | some (index, h) =>
      -- Lines 16 to 18: what is left of the index bytes is zero.
      if ∀ i ∈ List.range' index (ω - index), byteAt y i = 0 then some h else none

/-! ## What is unpacked -/

/-- The number of hints before polynomial `i`. -/
def countBefore (y : Bytes) (ω : ℕ) : ℕ → ℕ
  | 0 => 0
  | i + 1 => (byteAt y (ω + i)).toNat

/-- The hints of polynomial `i`: counts that do not decrease or exceed the bound, and increasing
indices. -/
structure RowCanonical (y : Bytes) (ω i : ℕ) : Prop where
  monotone : countBefore y ω i ≤ countBefore y ω (i + 1)
  bounded : countBefore y ω (i + 1) ≤ ω
  increasing : ∀ j, countBefore y ω i < j → j < countBefore y ω (i + 1) →
    byteAt y (j - 1) < byteAt y j

/-- The byte strings that unpack. -/
structure Canonical (k ω : ℕ) (y : Bytes) : Prop where
  rows : ∀ i < k, RowCanonical y ω i
  unused : ∀ j, countBefore y ω k ≤ j → j < ω → byteAt y j = 0

variable {y : Bytes} {ω : ℕ}

/-- A row unpacks when its indices increase, and the index counter is then at its count. -/
theorem unpackRow_eq_some {i last m : ℕ} (first n : ℕ) :
    ∀ {index : ℕ} (h : Hint), index + n = last →
      ((∃ h', unpackRow y i first last index h = some (m, h')) ↔
        m = last ∧ ∀ j, index ≤ j → j < last → first < j → byteAt y (j - 1) < byteAt y j) := by
  induction n with
  | zero =>
      intro index h hlast
      rw [unpackRow, if_neg (by omega)]
      constructor
      · rintro ⟨h', heq⟩
        have hm : index = m := (Prod.mk.inj (Option.some.inj heq)).1
        exact ⟨by omega, by omega⟩
      · rintro ⟨hm, _⟩
        have hindex : index = m := by omega
        exact ⟨h, by rw [hindex]⟩
  | succ n ih =>
      intro index h hlast
      rw [unpackRow, if_pos (by omega)]
      by_cases hbad : first < index ∧ byteAt y index ≤ byteAt y (index - 1)
      · rw [if_pos hbad]
        constructor
        · rintro ⟨h', heq⟩
          cases heq
        · rintro ⟨_, hinc⟩
          have hlt := hinc index (le_refl index) (by omega) hbad.1
          exact absurd hbad.2 (UInt8.not_le.mpr hlt)
      · rw [if_neg hbad, ih _ (by omega)]
        apply and_congr_right
        intro _
        constructor
        · intro hinc j hj hlt hfirst
          rcases Nat.eq_or_lt_of_le hj with rfl | hj
          · exact UInt8.not_le.mp fun hle => hbad ⟨hfirst, hle⟩
          · exact hinc j hj hlt hfirst
        · intro hinc j hj
          exact hinc j (by omega)

/-- The rows unpack when each of them is canonical. -/
theorem unpackRows_eq_some {m : ℕ} (n : ℕ) : ∀ (i : ℕ) (h : Hint),
    (∃ h', unpackRows y ω n i (countBefore y ω i) h = some (m, h')) ↔
      m = countBefore y ω (i + n) ∧ ∀ j, i ≤ j → j < i + n → RowCanonical y ω j := by
  induction n with
  | zero =>
      intro i h
      rw [unpackRows, Nat.add_zero]
      constructor
      · rintro ⟨h', heq⟩
        exact ⟨(Prod.mk.inj (Option.some.inj heq)).1.symm, by omega⟩
      · rintro ⟨rfl, _⟩
        exact ⟨h, rfl⟩
  | succ n ih =>
      intro i h
      have hcount : (byteAt y (ω + i)).toNat = countBefore y ω (i + 1) := rfl
      have hrest : i + (n + 1) = i + 1 + n := by omega
      rw [unpackRows, hrest]
      simp only [hcount]
      by_cases hbad : countBefore y ω (i + 1) < countBefore y ω i ∨ ω < countBefore y ω (i + 1)
      · rw [if_pos hbad]
        constructor
        · rintro ⟨h', heq⟩
          cases heq
        · rintro ⟨_, hrows⟩
          have hrow := hrows i (le_refl i) (by omega)
          have hmono := hrow.monotone
          have hbound := hrow.bounded
          omega
      · rw [if_neg hbad]
        have hle : countBefore y ω i + (countBefore y ω (i + 1) - countBefore y ω i) =
            countBefore y ω (i + 1) := by omega
        have hrow := unpackRow_eq_some (y := y) (i := i) (m := countBefore y ω (i + 1))
          (countBefore y ω i) _ h hle
        cases hunpack : unpackRow y i (countBefore y ω i) (countBefore y ω (i + 1))
            (countBefore y ω i) h with
        | none =>
            rw [hunpack] at hrow
            constructor
            · rintro ⟨h', heq⟩
              cases heq
            · rintro ⟨_, hrows⟩
              have hcanon := hrows i (le_refl i) (by omega)
              obtain ⟨h', heq⟩ :=
                hrow.mpr ⟨rfl, fun j _ hlt hfirst => hcanon.increasing j hfirst hlt⟩
              cases heq
        | some state =>
            obtain ⟨index, h'⟩ := state
            have hindex : index = countBefore y ω (i + 1) :=
              ((unpackRow_eq_some _ _ h hle).mp ⟨h', hunpack⟩).1
            subst hindex
            have hinc := (hrow.mp ⟨h', hunpack⟩).2
            show (∃ h'', unpackRows y ω n (i + 1) (countBefore y ω (i + 1)) h' = some (m, h'')) ↔ _
            rw [ih (i + 1) h']
            apply and_congr_right
            intro _
            constructor
            · intro hrows j hj hlt
              rcases Nat.eq_or_lt_of_le hj with rfl | hj
              · exact ⟨by omega, by omega, fun t hfirst hlast => hinc t (by omega) hlast hfirst⟩
              · exact hrows j hj hlt
            · intro hrows j hj
              exact hrows j (by omega)

/-- Algorithm 21 fails exactly on what is not canonical. -/
theorem hintBitUnpack_isSome_iff {k : ℕ} :
    (hintBitUnpack k ω y).isSome = true ↔ Canonical k ω y := by
  have hrows := fun m => unpackRows_eq_some (y := y) (ω := ω) (m := m) k 0 fun _ _ => false
  simp only [Nat.zero_add, Nat.zero_le, true_imp_iff] at hrows
  unfold hintBitUnpack
  cases hunpack : unpackRows y ω k 0 0 fun _ _ => false with
  | none =>
      constructor
      · intro h
        cases h
      · intro hcanon
        obtain ⟨h', heq⟩ := (hrows _).mpr ⟨rfl, hcanon.rows⟩
        have hnone := hunpack.symm.trans heq
        cases hnone
  | some state =>
      obtain ⟨index, h⟩ := state
      obtain ⟨hindex, hcanon⟩ := (hrows index).mp ⟨h, hunpack⟩
      have hunused : (∀ i ∈ List.range' index (ω - index), byteAt y i = 0) ↔
          ∀ j, countBefore y ω k ≤ j → j < ω → byteAt y j = 0 := by
        constructor
        · intro hzero j hj hlt
          exact hzero j (List.mem_range'_1.mpr (by omega))
        · intro hzero j hj
          have hmem := List.mem_range'_1.mp hj
          exact hzero j (by omega) (by omega)
      constructor
      · intro hsome
        refine ⟨hcanon, hunused.mp ?_⟩
        by_contra hbad
        simp only [if_neg hbad] at hsome
        cases hsome
      · intro hcanon
        have hzero := hunused.mpr hcanon.unused
        simp only [if_pos hzero, Option.isSome_some]

end AquaAuth.Support.Fips204
