import AquaAuth.Support.Text
set_option autoImplicit false
/-!
# Dotted names

A host name as its labels, and what it means to lie within another name.
-/

namespace AquaAuth.Support.Text

/-- The labels of a dotted name. -/
def labels (name : Str) : List Str := name.splitOn '.'

theorem labels_append (front back : Str) :
    labels (front ++ '.' :: back) = labels front ++ labels back :=
  List.splitOn_append_cons_self front back

theorem labels_injective {name name' : Str} (h : labels name = labels name') : name = name' := by
  have hjoin : ∀ s : Str, ['.'].intercalate (labels s) = s := fun s => List.intercalate_splitOn '.'
  rw [← hjoin name, ← hjoin name', h]

theorem exists_labels_eq {pieces : List Str} (hne : pieces ≠ [])
    (h : ∀ piece ∈ pieces, '.' ∉ piece) :
    ∃ name, labels name = pieces :=
  ⟨['.'].intercalate pieces, List.splitOn_intercalate '.' h hne⟩

/-- The last labels of a host are those of a name when the host is the name or ends with it behind a
dot. -/
theorem labels_suffix_iff {host name : Str} :
    labels name <:+ labels host ↔ host = name ∨ '.' :: name <:+ host := by
  constructor
  · rintro ⟨pieces, hpieces⟩
    by_cases hne : pieces = []
    · rw [hne, List.nil_append] at hpieces
      exact .inl (labels_injective hpieces.symm)
    · right
      have hdots : ∀ piece ∈ pieces, '.' ∉ piece := by
        intro piece hmem
        apply not_mem_of_mem_splitOn (s := host)
        show piece ∈ labels host
        rw [← hpieces]
        exact List.mem_append_left _ hmem
      obtain ⟨front, rfl⟩ := exists_labels_eq hne hdots
      rw [← labels_append] at hpieces
      exact ⟨front, labels_injective hpieces⟩
  · rintro (rfl | ⟨front, rfl⟩)
    · exact List.suffix_refl _
    · rw [labels_append]
      exact List.suffix_append _ _

theorem length_labels_pos_iff {name : Str} : 1 < (labels name).length ↔ '.' ∈ name := by
  rw [labels, length_splitOn, ← List.count_pos_iff]
  omega

/-- A name without an empty label does not end with a dot. -/
theorem getLast?_ne_dot {name : Str} (h : ∀ label ∈ labels name, label ≠ []) :
    name.getLast? ≠ some '.' := by
  intro hlast
  obtain ⟨front, rfl⟩ := List.getLast?_eq_some_iff.mp hlast
  have hempty : [] ∈ labels (front ++ ['.']) := by
    rw [labels_append]
    exact List.mem_append_right _ (List.mem_singleton.mpr rfl)
  exact h [] hempty rfl

end AquaAuth.Support.Text
