import AquaAuth.Support.Text
set_option autoImplicit false
/-!
# Slices

Indexing that panics out of range, and on a string inside a character.  `none` is the panic.
-/

namespace AquaAuth.Support

namespace Slice

variable {α : Type}

/-- `xs[a..b]` -/
def range? (xs : List α) (a b : ℕ) : Option (List α) :=
  if a ≤ b ∧ b ≤ xs.length then some ((xs.take b).drop a) else none

/-- `xs[a..]` -/
def from? (xs : List α) (a : ℕ) : Option (List α) := range? xs a xs.length

/-- `xs[..b]` -/
def to? (xs : List α) (b : ℕ) : Option (List α) := range? xs 0 b

theorem range?_eq_some {xs : List α} {a b : ℕ} (hab : a ≤ b) (hb : b ≤ xs.length) :
    range? xs a b = some ((xs.take b).drop a) := if_pos ⟨hab, hb⟩

theorem from?_eq_some {xs : List α} {a : ℕ} (h : a ≤ xs.length) :
    from? xs a = some (xs.drop a) := by
  rw [from?, range?_eq_some h (le_refl _), List.take_length]

theorem to?_eq_some {xs : List α} {b : ℕ} (h : b ≤ xs.length) : to? xs b = some (xs.take b) := by
  rw [to?, range?_eq_some (Nat.zero_le b) h, List.drop_zero]

end Slice

namespace Text

theorem utf8Len_append (s t : Str) : utf8Len (s ++ t) = utf8Len s + utf8Len t := by
  simp [utf8Len, utf8]

theorem utf8Len_cons (c : Char) (s : Str) : utf8Len (c :: s) = c.utf8Size + utf8Len s := by
  simp [utf8Len, utf8]

/-- Split a string at a byte offset that is a character boundary. -/
def splitAt? : Str → ℕ → Option (Str × Str)
  | s, 0 => some ([], s)
  | [], _ + 1 => none
  | c :: s, n + 1 =>
      if c.utf8Size ≤ n + 1 then
        (splitAt? s (n + 1 - c.utf8Size)).map fun halves => (c :: halves.1, halves.2)
      else none

theorem splitAt?_eq_some {s left right : Str} {n : ℕ} :
    splitAt? s n = some (left, right) ↔ s = left ++ right ∧ utf8Len left = n := by
  fun_induction splitAt? s n generalizing left right with
  | case1 s =>
      rw [Option.some_inj, Prod.mk.injEq]
      cases left with
      | nil => simp [utf8Len, utf8]
      | cons c left =>
          have hpos := c.utf8Size_pos
          rw [utf8Len_cons]
          constructor
          · rintro ⟨h, _⟩
            cases h
          · rintro ⟨_, h⟩
            omega
  | case2 n =>
      constructor
      · intro h
        cases h
      · rintro ⟨h, hlen⟩
        obtain ⟨rfl, _⟩ := List.append_eq_nil_iff.mp h.symm
        cases hlen
  | case3 c s n hle ih =>
      rw [Option.map_eq_some_iff]
      constructor
      · rintro ⟨halves, hhalves, heq⟩
        obtain ⟨hs, hlen⟩ := ih.mp hhalves
        obtain ⟨rfl, rfl⟩ := Prod.mk.inj heq
        rw [hs, List.cons_append, utf8Len_cons, hlen]
        exact ⟨rfl, by omega⟩
      · rintro ⟨hs, hlen⟩
        cases left with
        | nil => cases hlen
        | cons d left =>
            obtain ⟨rfl, htail⟩ := List.cons.inj hs
            rw [utf8Len_cons] at hlen
            exact ⟨(left, right), ih.mpr ⟨htail, by omega⟩, rfl⟩
  | case4 c s n hle =>
      constructor
      · intro h
        cases h
      · rintro ⟨hs, hlen⟩
        cases left with
        | nil => cases hlen
        | cons d left =>
            obtain ⟨rfl, _⟩ := List.cons.inj hs
            rw [utf8Len_cons] at hlen
            omega

/-- `&s[..n]` -/
def sliceTo? (s : Str) (n : ℕ) : Option Str := (splitAt? s n).map Prod.fst

/-- `&s[n..]` -/
def sliceFrom? (s : Str) (n : ℕ) : Option Str := (splitAt? s n).map Prod.snd

theorem sliceTo?_append (left right : Str) :
    sliceTo? (left ++ right) (utf8Len left) = some left := by
  rw [sliceTo?, splitAt?_eq_some.mpr ⟨rfl, rfl⟩, Option.map_some]

theorem sliceFrom?_append (left right : Str) :
    sliceFrom? (left ++ right) (utf8Len left) = some right := by
  rw [sliceFrom?, splitAt?_eq_some.mpr ⟨rfl, rfl⟩, Option.map_some]

/-- Behind an ASCII character. -/
theorem sliceFrom?_behind (left right : Str) {c : Char} (hc : c.utf8Size = 1) :
    sliceFrom? (left ++ c :: right) (utf8Len left + 1) = some right := by
  have hlen : utf8Len (left ++ [c]) = utf8Len left + 1 := by
    rw [utf8Len_append, utf8Len_cons, hc]
    rfl
  rw [← hlen, List.append_cons, sliceFrom?_append]

/-- The byte offset is a character boundary. -/
def IsBoundary (s : Str) (n : ℕ) : Prop := ∃ left right, s = left ++ right ∧ utf8Len left = n

theorem isBoundary_iff {s : Str} {n : ℕ} : IsBoundary s n ↔ (splitAt? s n).isSome = true := by
  rw [Option.isSome_iff_exists, Prod.exists]
  simp only [splitAt?_eq_some, IsBoundary]

instance (s : Str) (n : ℕ) : Decidable (IsBoundary s n) := decidable_of_iff' _ isBoundary_iff

theorem sliceTo?_isSome {s : Str} {n : ℕ} : (sliceTo? s n).isSome = true ↔ IsBoundary s n := by
  rw [sliceTo?, Option.isSome_map, isBoundary_iff]

theorem sliceFrom?_isSome {s : Str} {n : ℕ} : (sliceFrom? s n).isSome = true ↔ IsBoundary s n := by
  rw [sliceFrom?, Option.isSome_map, isBoundary_iff]

theorem utf8Len_of_isAscii {s : Str} (h : isAscii s = true) : utf8Len s = s.length := by
  induction s with
  | nil => rfl
  | cons c s ih =>
      obtain ⟨hc, hs⟩ := Bool.and_eq_true_iff.mp h
      have hsize : c.utf8Size = 1 := by
        have hval : c.val ≤ 0x7F := Nat.le_of_lt_succ (of_decide_eq_true hc)
        exact if_pos hval
      rw [utf8Len_cons, ih hs, hsize, List.length_cons, Nat.add_comm]

theorem isAscii_append {s t : Str} :
    isAscii (s ++ t) = true ↔ isAscii s = true ∧ isAscii t = true := by
  rw [isAscii, List.all_append, Bool.and_eq_true]
  exact Iff.rfl

/-- Every offset in an ASCII string is a boundary. -/
theorem isBoundary_of_isAscii {s : Str} (h : isAscii s = true) {n : ℕ} (hn : n ≤ utf8Len s) :
    IsBoundary s n := by
  have hparts := h
  rw [← List.take_append_drop n s, isAscii_append] at hparts
  refine ⟨s.take n, s.drop n, (List.take_append_drop n s).symm, ?_⟩
  rw [utf8Len_of_isAscii h] at hn
  rw [utf8Len_of_isAscii hparts.1, List.length_take, Nat.min_eq_left hn]

/-- The byte offset of the first occurrence of a character. -/
def find (sep : Char) : Str → Option ℕ
  | [] => none
  | c :: s => if c = sep then some 0 else (find sep s).map (c.utf8Size + ·)

theorem find_eq (sep : Char) (s : Str) :
    find sep s = (splitOnceChar sep s).map fun halves => utf8Len halves.1 := by
  induction s with
  | nil => rfl
  | cons c s ih =>
      rw [find, splitOnceChar]
      split_ifs
      · rfl
      · rw [ih, Option.map_map, Option.map_map]
        congr 1
        funext halves
        exact (utf8Len_cons c halves.1).symm

end Text

end AquaAuth.Support
