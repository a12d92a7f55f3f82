import Mathlib
set_option autoImplicit false
/-!
# Logs that justify themselves

A log in which what is known of an entry is known from the entries before it.  It grows at its end
only, and when no entry repeats the key of an earlier one, a key has one position.
-/

namespace AquaAuth.Support

variable {α κ : Type}

/-- Every entry is justified by the entries before it. -/
def Chronicle (J : α → List α → Prop) (log : List α) : Prop :=
  ∀ k e, log[k]? = some e → J e (log.take k)

namespace Chronicle

variable {J : α → List α → Prop} {log : List α} {e e' : α} {k k' : ℕ}

theorem nil : Chronicle J [] := by
  intro k e hk
  simp at hk

theorem concat (h : Chronicle J log) (he : J e log) : Chronicle J (log ++ [e]) := by
  intro k e' hk
  rw [List.getElem?_append] at hk
  split_ifs at hk with hlt
  · rw [List.take_append_of_le_length hlt.le]
    exact h k e' hk
  · rw [List.getElem?_singleton] at hk
    split_ifs at hk with hzero
    obtain rfl := Option.some.inj hk
    have hlength : k = log.length := by omega
    rw [hlength, List.take_left]
    exact he

theorem of_mem (h : Chronicle J log) (he : e ∈ log) : ∃ before, before ⊆ log ∧ J e before := by
  obtain ⟨k, hk⟩ := List.mem_iff_getElem?.mp he
  exact ⟨log.take k, List.take_subset k log, h k e hk⟩

theorem mem_take (hk : log[k]? = some e) (hlt : k < k') : e ∈ log.take k' := by
  apply List.mem_iff_getElem?.mpr
  exact ⟨k, by rw [List.getElem?_take_of_lt hlt, hk]⟩

theorem exists_position (he : e ∈ log.take k) : ∃ p < k, log[p]? = some e := by
  obtain ⟨p, hp⟩ := List.mem_iff_getElem?.mp he
  rw [List.getElem?_take] at hp
  split_ifs at hp with hlt
  exact ⟨p, hlt, hp⟩

/-- When no entry repeats the key of an earlier one, a key has one position. -/
theorem position_unique (h : Chronicle J log) (key : α → κ)
    (hfirst : ∀ e before, J e before → ∀ e' ∈ before, key e' ≠ key e)
    (hk : log[k]? = some e) (hk' : log[k']? = some e') (hkey : key e' = key e) : k' = k := by
  rcases Nat.lt_trichotomy k' k with hlt | heq | hlt
  · exact absurd hkey (hfirst e _ (h k e hk) e' (mem_take hk' hlt))
  · exact heq
  · exact absurd hkey.symm (hfirst e' _ (h k' e' hk') e (mem_take hk hlt))

theorem eq_of_mem (h : Chronicle J log) (key : α → κ)
    (hfirst : ∀ e before, J e before → ∀ e' ∈ before, key e' ≠ key e) (he : e ∈ log)
    (he' : e' ∈ log) (hkey : key e' = key e) : e' = e := by
  obtain ⟨k, hk⟩ := List.mem_iff_getElem?.mp he
  obtain ⟨k', hk'⟩ := List.mem_iff_getElem?.mp he'
  rw [h.position_unique key hfirst hk hk' hkey, hk] at hk'
  exact (Option.some.inj hk').symm

end Chronicle

end AquaAuth.Support
