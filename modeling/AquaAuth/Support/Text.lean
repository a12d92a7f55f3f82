import Mathlib
set_option autoImplicit false
/-!
# Text as lists of characters

Strings are lists of Unicode scalar values, so that splitting, trimming and
prefix tests are structural.  Byte lengths are recovered through the UTF-8
encoding of each character.  Nothing here depends on a particular program.
-/

namespace AquaAuth.Support

/-- A UTF-8 string, seen as its sequence of scalar values. -/
abbrev Str := List Char

instance lawfulBEqStr : LawfulBEq Str := inferInstance

/-- A byte string. -/
abbrev Bytes := List UInt8

/-- The characters of a string literal. -/
def text (s : String) : Str := s.toList

@[simp] theorem text_inj {s t : String} : text s = text t ↔ s = t := String.toList_inj

namespace Text

/-! ## Encoding -/

/-- The UTF-8 bytes of a string. -/
def utf8 (s : Str) : Bytes := s.flatMap String.utf8EncodeChar

/-- Length in bytes, which is what a byte-oriented `len` reports. -/
def utf8Len (s : Str) : Nat := (utf8 s).length

/-- Whether every character is in the ASCII range. -/
def isAscii (s : Str) : Bool := s.all fun c => c.toNat < 128

/-- Lowercase the ASCII letters and leave everything else alone. -/
def asciiLower (s : Str) : Str := s.map Char.toLower

/-- Decimal digits of a natural number, without leading zeros. -/
def decimal (n : Nat) : Str := Nat.toDigits 10 n

/-- Decimal rendering of an integer, with a leading minus sign when negative. -/
def decimalInt (n : Int) : Str :=
  if n < 0 then '-' :: decimal n.natAbs else decimal n.natAbs

/-! ## Prefixes and delimiters -/

/-- The rest of `s` after `pre`, when `s` starts with it. -/
def stripPrefix (pre s : Str) : Option Str := s.dropPrefix? pre

theorem stripPrefix_eq_some {pre s rest : Str} :
    stripPrefix pre s = some rest ↔ s = pre ++ rest := by
  simp [stripPrefix, List.dropPrefix?_eq_some_iff]

@[simp] theorem stripPrefix_append (pre rest : Str) :
    stripPrefix pre (pre ++ rest) = some rest :=
  stripPrefix_eq_some.mpr rfl

theorem stripPrefix_eq_none {pre s : Str} :
    stripPrefix pre s = none ↔ ∀ rest, s ≠ pre ++ rest := by
  rw [Option.eq_none_iff_forall_ne_some]
  simp only [ne_eq, stripPrefix_eq_some]

/-- Split around the first occurrence of a separator string. -/
def splitOnce (sep : Str) : Str → Option (Str × Str)
  | [] => (stripPrefix sep []).map fun rest => ([], rest)
  | c :: s =>
      match stripPrefix sep (c :: s) with
      | some rest => some ([], rest)
      | none => (splitOnce sep s).map fun halves => (c :: halves.1, halves.2)

theorem splitOnce_eq_append {sep s left right : Str}
    (h : splitOnce sep s = some (left, right)) : s = left ++ sep ++ right := by
  induction s generalizing left right with
  | nil =>
      simp only [splitOnce, Option.map_eq_some_iff, Prod.mk.injEq] at h
      obtain ⟨rest, hrest, rfl, rfl⟩ := h
      simpa using stripPrefix_eq_some.mp hrest
  | cons c s ih =>
      simp only [splitOnce] at h
      split at h
      · rename_i rest hrest
        simp only [Option.some.injEq, Prod.mk.injEq] at h
        obtain ⟨rfl, rfl⟩ := h
        simpa using stripPrefix_eq_some.mp hrest
      · simp only [Option.map_eq_some_iff, Prod.mk.injEq] at h
        obtain ⟨⟨l, r⟩, hlr, rfl, rfl⟩ := h
        simp [ih hlr]

theorem splitOnce_append_of_not_mem {c : Char} {sep left right : Str} (h : c ∉ left) :
    splitOnce (c :: sep) (left ++ c :: sep ++ right) = some (left, right) := by
  induction left with
  | nil =>
      have hstrip := stripPrefix_append (c :: sep) right
      rw [List.cons_append] at hstrip
      rw [List.nil_append, List.cons_append, splitOnce, hstrip]
  | cons d left ih =>
      rw [List.mem_cons, not_or] at h
      have hstrip : stripPrefix (c :: sep) (d :: (left ++ c :: sep ++ right)) = none := by
        rw [stripPrefix_eq_none]
        intro rest heq
        exact h.1 (List.cons.inj heq).1.symm
      rw [List.cons_append, List.cons_append, splitOnce, hstrip, ih h.2]
      rfl

/-- Split around the first occurrence of one character. -/
def splitOnceChar (sep : Char) : Str → Option (Str × Str)
  | [] => none
  | c :: s =>
      if c = sep then some ([], s)
      else (splitOnceChar sep s).map fun halves => (c :: halves.1, halves.2)

theorem splitOnceChar_eq_some {sep : Char} {s left right : Str} :
    splitOnceChar sep s = some (left, right) ↔
      s = left ++ sep :: right ∧ sep ∉ left := by
  induction s generalizing left right with
  | nil => simp [splitOnceChar]
  | cons c s ih =>
      by_cases hc : c = sep
      · subst hc
        cases left with
        | nil => simp [splitOnceChar]
        | cons d left => simp [splitOnceChar]; tauto
      · cases left with
        | nil => simp [splitOnceChar, hc]
        | cons d left =>
            simp only [splitOnceChar, hc, if_false, Option.map_eq_some_iff,
              Prod.mk.injEq, List.cons.injEq, List.cons_append, List.mem_cons, not_or]
            constructor
            · rintro ⟨⟨l, r⟩, hlr, ⟨rfl, rfl⟩, rfl⟩
              obtain ⟨rfl, hmem⟩ := ih.mp hlr
              exact ⟨⟨rfl, rfl⟩, fun h => hc h.symm, hmem⟩
            · rintro ⟨⟨rfl, rfl⟩, _, hmem⟩
              exact ⟨(left, right), ih.mpr ⟨rfl, hmem⟩, ⟨rfl, rfl⟩, rfl⟩

theorem splitOnceChar_eq_none {sep : Char} {s : Str} :
    splitOnceChar sep s = none ↔ sep ∉ s := by
  induction s with
  | nil => simp [splitOnceChar]
  | cons c s ih =>
      by_cases hc : c = sep
      · simp [splitOnceChar, hc]
      · simp [splitOnceChar, hc, ih, Ne.symm hc]

/-- Split around the last occurrence of one character. -/
def rsplitOnceChar (sep : Char) (s : Str) : Option (Str × Str) :=
  (splitOnceChar sep s.reverse).map fun halves => (halves.2.reverse, halves.1.reverse)

theorem rsplitOnceChar_eq_some {sep : Char} {s left right : Str} :
    rsplitOnceChar sep s = some (left, right) ↔
      s = left ++ sep :: right ∧ sep ∉ right := by
  simp only [rsplitOnceChar, Option.map_eq_some_iff, Prod.mk.injEq]
  constructor
  · rintro ⟨⟨l, r⟩, hlr, rfl, rfl⟩
    obtain ⟨heq, hmem⟩ := splitOnceChar_eq_some.mp hlr
    have hs : s = (l ++ sep :: r).reverse := by rw [← heq, List.reverse_reverse]
    exact ⟨by simp [hs], by simpa using hmem⟩
  · rintro ⟨rfl, hmem⟩
    refine ⟨(right.reverse, left.reverse), splitOnceChar_eq_some.mpr ?_, by simp, by simp⟩
    exact ⟨by simp, by simpa using hmem⟩

theorem rsplitOnceChar_eq_none {sep : Char} {s : Str} :
    rsplitOnceChar sep s = none ↔ sep ∉ s := by
  simp [rsplitOnceChar, splitOnceChar_eq_none]

/-- The text after the last separator, or all of it when there is none. -/
def lastSegment (sep : Char) (s : Str) : Str :=
  match rsplitOnceChar sep s with
  | some (_, right) => right
  | none => s

theorem lastSegment_append_cons {sep : Char} {left right : Str} (h : sep ∉ right) :
    lastSegment sep (left ++ sep :: right) = right := by
  rw [lastSegment, rsplitOnceChar_eq_some.mpr ⟨rfl, h⟩]

theorem lastSegment_of_not_mem {sep : Char} {s : Str} (h : sep ∉ s) : lastSegment sep s = s := by
  rw [lastSegment, rsplitOnceChar_eq_none.mpr h]

theorem lastSegment_append_append {sep : Char} (left right : Str) :
    lastSegment sep (left ++ sep :: right) = lastSegment sep right := by
  cases hsplit : rsplitOnceChar sep right with
  | none =>
      have hright := rsplitOnceChar_eq_none.mp hsplit
      rw [lastSegment_append_cons hright, lastSegment_of_not_mem hright]
  | some halves =>
      obtain ⟨hsep, hlast⟩ := rsplitOnceChar_eq_some.mp hsplit
      have hwhole : left ++ sep :: right = (left ++ sep :: halves.1) ++ sep :: halves.2 := by
        rw [hsep]
        simp
      rw [hwhole, lastSegment_append_cons hlast]
      rw [hsep, lastSegment_append_cons hlast]

/-- The text before the first separator, or all of it when there is none. -/
def firstSegment (sep : Char) (s : Str) : Str :=
  match splitOnceChar sep s with
  | some (left, _) => left
  | none => s

/-! ## Whitespace -/

/-- The characters with the Unicode `White_Space` property. -/
def isWhitespace (c : Char) : Bool :=
  let n := c.toNat
  (9 ≤ n && n ≤ 13) || n == 0x20 || n == 0x85 || n == 0xA0 || n == 0x1680 ||
    (0x2000 ≤ n && n ≤ 0x200A) || n == 0x2028 || n == 0x2029 || n == 0x202F ||
    n == 0x205F || n == 0x3000

/-- Letters and digits are not whitespace. -/
theorem not_isWhitespace_of_isAlphanum {c : Char} (h : c.isAlphanum = true) :
    isWhitespace c = false := by
  have hrange : 48 ≤ c.toNat ∧ c.toNat ≤ 122 := by
    simp only [Char.isAlphanum, Char.isAlpha, Char.isUpper, Char.isLower, Char.isDigit,
      Bool.or_eq_true, Bool.and_eq_true, decide_eq_true_eq] at h
    rcases h with (⟨h, h'⟩ | ⟨h, h'⟩) | ⟨h, h'⟩ <;>
      · have hlow := UInt32.le_iff_toNat_le.mp h
        have hhigh := UInt32.le_iff_toNat_le.mp h'
        simp at hlow hhigh
        omega
  simp only [isWhitespace, Bool.or_eq_false_iff, Bool.and_eq_false_iff, decide_eq_false_iff_not,
    beq_eq_false_iff_ne]
  omega

/-- Drop matching characters from the end. -/
def trimEndMatches (p : Char → Bool) (s : Str) : Str := s.rdropWhile p

/-- Drop Unicode whitespace from both ends. -/
def trim (s : Str) : Str := (s.dropWhile isWhitespace).rdropWhile isWhitespace

/-- A string with no whitespace at either end. -/
def Trimmed (s : Str) : Prop := trim s = s

instance (s : Str) : Decidable (Trimmed s) := inferInstanceAs (Decidable (_ = _))

theorem trimmed_of_forall {s : Str} (h : ∀ c ∈ s, isWhitespace c = false) : Trimmed s := by
  have hdrop : s.dropWhile isWhitespace = s := by
    cases s with
    | nil => rfl
    | cons c s => simp [h c (by simp)]
  rw [Trimmed, trim, hdrop, List.rdropWhile_eq_self_iff]
  intro hne
  simp [h _ (List.getLast_mem hne)]

theorem trimEndMatches_eq_self {p : Char → Bool} {s : Str}
    (h : ∀ c ∈ s.getLast?, p c = false) : trimEndMatches p s = s := by
  rw [trimEndMatches, List.rdropWhile_eq_self_iff]
  intro hne
  simp [h _ (List.getLast?_eq_getLast_of_ne_nil hne)]

theorem trimEndMatches_prefix (p : Char → Bool) (s : Str) : trimEndMatches p s <+: s :=
  List.rdropWhile_prefix p s

theorem Trimmed.getLast?_not_whitespace {s : Str} (h : Trimmed s) :
    ∀ c ∈ s.getLast?, isWhitespace c = false := by
  intro c hc
  rw [← h, trim] at hc
  have hne : (s.dropWhile isWhitespace).rdropWhile isWhitespace ≠ [] := by
    rintro hnil
    simp [hnil] at hc
  rw [List.getLast?_eq_getLast_of_ne_nil hne, Option.mem_some_iff] at hc
  have hlast := List.rdropWhile_last_not isWhitespace (s.dropWhile isWhitespace) hne
  rw [hc] at hlast
  simpa using hlast

/-- A trimmed string does not end with the carriage return of a line end. -/
theorem Trimmed.trimEndMatches_return {s : Str} (h : Trimmed s) :
    trimEndMatches (· = '\r') s = s := by
  refine trimEndMatches_eq_self fun c hc => ?_
  rw [decide_eq_false_iff_not]
  rintro rfl
  have := h.getLast?_not_whitespace _ hc
  exact absurd this (by decide)

/-- Whitespace in front of a trimmed string is what trimming removes. -/
theorem trim_cons_of_trimmed {c : Char} {s : Str} (hc : isWhitespace c = true)
    (hs : Trimmed s) : trim (c :: s) = s := by
  rw [trim, List.dropWhile_cons_of_pos hc]
  exact hs

/-- Dropping from the end keeps a leading character that does not match. -/
theorem trimEndMatches_head {p : Char → Bool} {c : Char} (s : Str) (hc : p c = false) :
    ∃ rest, trimEndMatches p (c :: s) = c :: rest := by
  cases hrest : trimEndMatches p (c :: s) with
  | nil =>
      rw [trimEndMatches, List.rdropWhile_eq_nil_iff] at hrest
      have := hrest c (by simp)
      simp [hc] at this
  | cons d rest =>
      have hpre := trimEndMatches_prefix p (c :: s)
      rw [hrest, List.cons_prefix_cons] at hpre
      exact ⟨rest, by rw [hpre.1]⟩

/-- Trimming keeps a leading character that is not whitespace. -/
theorem trim_head {c : Char} (s : Str) (hc : isWhitespace c = false) :
    ∃ rest, trim (c :: s) = c :: rest := by
  rw [trim, List.dropWhile_cons_of_neg (by simp [hc])]
  exact trimEndMatches_head s hc

/-- The first piece of a text that starts with another character than the separator. -/
theorem splitOn_head {c sep : Char} (s : Str) (h : c ≠ sep) :
    ∃ line lines, (c :: s).splitOn sep = (c :: line) :: lines := by
  rw [List.splitOn_cons_eq_if_modifyHead, if_neg (by simpa using h)]
  cases hsplit : s.splitOn sep with
  | nil => exact absurd hsplit (List.splitOn_ne_nil sep s)
  | cons line lines => exact ⟨line, lines, rfl⟩

/-- No piece of a split holds the separator. -/
theorem not_mem_of_mem_splitOn {sep : Char} {s piece : Str} (h : piece ∈ s.splitOn sep) :
    sep ∉ piece := by
  induction s generalizing piece with
  | nil =>
      obtain rfl : piece = [] := by simpa using h
      exact List.not_mem_nil
  | cons c s ih =>
      rw [List.splitOn_cons_eq_if_modifyHead] at h
      split_ifs at h with hc
      · rcases List.mem_cons.mp h with rfl | h
        · exact List.not_mem_nil
        · exact ih h
      · have hne : sep ≠ c := fun heq => hc (by simp [heq])
        obtain ⟨line, lines, hsplit⟩ := List.exists_cons_of_ne_nil (List.splitOn_ne_nil sep s)
        rw [hsplit] at h ih
        rcases List.mem_cons.mp h with rfl | h
        · simpa [hne] using ih List.mem_cons_self
        · exact ih (List.mem_cons_of_mem _ h)

/-- A split has one piece more than the text has separators. -/
theorem length_splitOn (sep : Char) (s : Str) : (s.splitOn sep).length = s.count sep + 1 := by
  induction s with
  | nil => rfl
  | cons c s ih =>
      rw [List.splitOn_cons_eq_if_modifyHead, List.count_cons]
      split_ifs
      · rw [List.length_cons, ih]
      · rw [List.length_modifyHead, ih, Nat.add_zero]

theorem splitOn_append_of_not_mem {sep : Char} {pre : Str} (h : sep ∉ pre) (s : Str) :
    (pre ++ s).splitOn sep = (s.splitOn sep).modifyHead (pre ++ ·) := by
  induction pre with
  | nil => exact (congrFun List.modifyHead_id _).symm
  | cons c pre ih =>
      rw [List.mem_cons, not_or] at h
      have hne : ¬ (c == sep) = true := fun heq => h.1 (eq_of_beq heq).symm
      rw [List.cons_append, List.splitOn_cons_eq_if_modifyHead, if_neg hne, ih h.2,
        List.modifyHead_modifyHead]
      rfl

theorem subset_of_mem_splitOn {sep : Char} {s piece : Str} (h : piece ∈ s.splitOn sep) :
    piece ⊆ s := by
  induction s generalizing piece with
  | nil =>
      obtain rfl : piece = [] := by simpa using h
      exact List.nil_subset _
  | cons c s ih =>
      rw [List.splitOn_cons_eq_if_modifyHead] at h
      split_ifs at h
      · rcases List.mem_cons.mp h with rfl | h
        · exact List.nil_subset _
        · exact List.Subset.trans (ih h) (List.subset_cons_self c s)
      · obtain ⟨line, lines, hsplit⟩ := List.exists_cons_of_ne_nil (List.splitOn_ne_nil sep s)
        rw [hsplit] at h ih
        rcases List.mem_cons.mp h with rfl | h
        · exact List.cons_subset_cons c (ih List.mem_cons_self)
        · exact List.Subset.trans (ih (List.mem_cons_of_mem _ h)) (List.subset_cons_self c s)

/-! ## Lower case -/

theorem toLower_eq_iff {c d : Char} (h : d.isAlpha = false) : c.toLower = d ↔ c = d := by
  constructor
  · intro hlower
    have hletter : c.isAlpha = false := by
      rw [← Char.isAlpha_toLower_eq_isAlpha, hlower]
      exact h
    rw [Char.isAlpha, Bool.or_eq_false_iff] at hletter
    rwa [Char.toLower_eq_of_not_isUpper (by simp [hletter.1])] at hlower
  · rintro rfl
    rw [Char.isAlpha, Bool.or_eq_false_iff] at h
    exact Char.toLower_eq_of_not_isUpper (by simp [h.1])

theorem mem_asciiLower_iff {s : Str} {c : Char} (h : c.isAlpha = false) :
    c ∈ asciiLower s ↔ c ∈ s := by
  rw [asciiLower, List.mem_map]
  constructor
  · rintro ⟨d, hd, hlower⟩
    exact (toLower_eq_iff h).mp hlower ▸ hd
  · intro hmem
    exact ⟨c, hmem, (toLower_eq_iff h).mpr rfl⟩

theorem asciiLower_asciiLower (s : Str) : asciiLower (asciiLower s) = asciiLower s := by
  rw [asciiLower, asciiLower, List.map_map]
  exact List.map_congr_left fun c _ => c.toLower_toLower_eq_toLower

theorem asciiLower_eq_self_iff {s : Str} : asciiLower s = s ↔ ∀ c ∈ s, c.isUpper = false := by
  constructor
  · intro h c hc
    rw [← h] at hc
    obtain ⟨d, _, rfl⟩ := List.mem_map.mp hc
    exact Char.isUpper_toLower_eq_false d
  · intro h
    have hmap : s.map Char.toLower = s.map id :=
      List.map_congr_left fun c hc => Char.toLower_eq_of_not_isUpper (by simp [h c hc])
    rwa [List.map_id] at hmap

theorem asciiLower_of_not_isAlpha {s : Str} (h : ∀ c ∈ s, c.isAlpha = false) :
    asciiLower s = s := by
  apply asciiLower_eq_self_iff.mpr
  intro c hc
  have hletter := h c hc
  rw [Char.isAlpha, Bool.or_eq_false_iff] at hletter
  exact hletter.1

/-- Part of a lowercase text is lowercase. -/
theorem asciiLower_of_subset {s t : Str} (h : s ⊆ t) (ht : asciiLower t = t) : asciiLower s = s :=
  asciiLower_eq_self_iff.mpr fun c hc => asciiLower_eq_self_iff.mp ht c (h hc)

/-! ## Joining with a line break -/

/-- Two texts joined to line-free tails agree piecewise. -/
theorem append_cons_inj_right {sep : Char} {a b s t : Str}
    (hs : sep ∉ s) (ht : sep ∉ t) (h : a ++ sep :: s = b ++ sep :: t) :
    a = b ∧ s = t := by
  have ha : rsplitOnceChar sep (a ++ sep :: s) = some (a, s) :=
    rsplitOnceChar_eq_some.mpr ⟨rfl, hs⟩
  have hb : rsplitOnceChar sep (b ++ sep :: t) = some (b, t) :=
    rsplitOnceChar_eq_some.mpr ⟨rfl, ht⟩
  rw [h, hb] at ha
  simp only [Option.some.injEq, Prod.mk.injEq] at ha
  exact ⟨ha.1.symm, ha.2.symm⟩

/-- Line-free heads joined to the same separator agree piecewise. -/
theorem append_cons_inj_left {sep : Char} {a b s t : Str}
    (ha : sep ∉ a) (hb : sep ∉ b) (h : a ++ sep :: s = b ++ sep :: t) :
    a = b ∧ s = t := by
  have hl : splitOnceChar sep (a ++ sep :: s) = some (a, s) :=
    splitOnceChar_eq_some.mpr ⟨rfl, ha⟩
  have hr : splitOnceChar sep (b ++ sep :: t) = some (b, t) :=
    splitOnceChar_eq_some.mpr ⟨rfl, hb⟩
  rw [h, hr] at hl
  simp only [Option.some.injEq, Prod.mk.injEq] at hl
  exact ⟨hl.1.symm, hl.2.symm⟩

end Text

end AquaAuth.Support
