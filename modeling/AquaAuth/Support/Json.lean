import AquaAuth.Support.Text
set_option autoImplicit false
/-!
# JSON texts

The JSON values a program writes and their compact rendering: no whitespace, members in
the order they are given, strings escaped only where the grammar demands it.  A rendering
is read in one way only, so two values with one rendering are one value.
-/

namespace AquaAuth.Support

inductive Json where
  | nat (n : Nat)
  | str (s : Str)
  | arr (items : List Json)
  | obj (members : List (Str × Json))

namespace Json

def hexDigit (n : Nat) : Char := (text "0123456789abcdef").getD n '0'

/-- A character inside quotes. -/
def escape (c : Char) : Str :=
  if c = '"' then ['\\', '"']
  else if c = '\\' then ['\\', '\\']
  else if 32 ≤ c.toNat then [c]
  else if c.toNat = 8 then ['\\', 'b']
  else if c.toNat = 9 then ['\\', 't']
  else if c.toNat = 10 then ['\\', 'n']
  else if c.toNat = 12 then ['\\', 'f']
  else if c.toNat = 13 then ['\\', 'r']
  else ['\\', 'u', '0', '0', hexDigit (c.toNat / 16), hexDigit (c.toNat % 16)]

def quote (s : Str) : Str := '"' :: (s.flatMap escape ++ ['"'])

mutual

/-- The compact rendering of a value. -/
def compact : Json → Str
  | .nat n => Text.decimal n
  | .str s => quote s
  | .arr [] => ['[', ']']
  | .arr (item :: items) => '[' :: (compact item ++ compactItems items)
  | .obj [] => ['\x7b', '\x7d']
  | .obj ((name, value) :: members) =>
      '\x7b' :: (quote name ++ ':' :: (compact value ++ compactMembers members))

/-- What follows an item of an array. -/
def compactItems : List Json → Str
  | [] => [']']
  | item :: items => ',' :: (compact item ++ compactItems items)

/-- What follows a member of an object. -/
def compactMembers : List (Str × Json) → Str
  | [] => ['\x7d']
  | (name, value) :: members =>
      ',' :: (quote name ++ ':' :: (compact value ++ compactMembers members))

end

example : compact (.obj [(text "version", .nat 1), (text "dids", .arr [.str (text "a\"b")])]) =
    text "\x7b\"version\":1,\"dids\":[\"a\\\"b\"]\x7d" := by decide

/-! ## Strings -/

def hexValue (c : Char) : Nat := (text "0123456789abcdef").idxOf c

/-- Read what follows a backslash. -/
def readEscape : Str → Option (Char × Str)
  | 'b' :: s => some (Char.ofNat 8, s)
  | 't' :: s => some (Char.ofNat 9, s)
  | 'n' :: s => some (Char.ofNat 10, s)
  | 'f' :: s => some (Char.ofNat 12, s)
  | 'r' :: s => some (Char.ofNat 13, s)
  | 'u' :: _ :: _ :: hi :: lo :: s => some (Char.ofNat (16 * hexValue hi + hexValue lo), s)
  | c :: s => some (c, s)
  | [] => none

/-- Read a character inside quotes. -/
def readChar : Str → Option (Char × Str)
  | [] => none
  | c :: s => if c = '\\' then readEscape s else some (c, s)

theorem hexValue_hexDigit : ∀ n < 16, hexValue (hexDigit n) = n := by decide

theorem readChar_escape (c : Char) (s : Str) : readChar (escape c ++ s) = some (c, s) := by
  have hchar : ∀ {n : Nat}, c.toNat = n → Char.ofNat n = c := by
    rintro n rfl
    exact Char.ofNat_toNat c
  unfold escape
  split_ifs with hquote hbackslash hplain h8 h9 h10 h12 h13
  · rw [hquote]
    rfl
  · rw [hbackslash]
    rfl
  · simp [readChar, hbackslash]
  · simp [readChar, readEscape, ← hchar h8]
  · simp [readChar, readEscape, ← hchar h9]
  · simp [readChar, readEscape, ← hchar h10]
  · simp [readChar, readEscape, ← hchar h12]
  · simp [readChar, readEscape, ← hchar h13]
  · have hhi := hexValue_hexDigit (c.toNat / 16) (by omega)
    have hlo := hexValue_hexDigit (c.toNat % 16) (by omega)
    have hvalue : 16 * (c.toNat / 16) + c.toNat % 16 = c.toNat := Nat.div_add_mod _ _
    show some (Char.ofNat (16 * hexValue (hexDigit (c.toNat / 16)) +
      hexValue (hexDigit (c.toNat % 16))), s) = some (c, s)
    rw [hhi, hlo, hvalue, Char.ofNat_toNat]

theorem escape_append_inj {c d : Char} {s t : Str} (h : escape c ++ s = escape d ++ t) :
    c = d ∧ s = t := by
  have hread := congrArg readChar h
  rw [readChar_escape, readChar_escape] at hread
  exact Prod.mk.inj (Option.some.inj hread)

theorem escape_head (c : Char) : ∃ e rest, escape c = e :: rest ∧ e ≠ '"' := by
  unfold escape
  split_ifs with hquote
  · exact ⟨_, _, rfl, by decide⟩
  · exact ⟨_, _, rfl, by decide⟩
  · exact ⟨_, _, rfl, hquote⟩
  · exact ⟨_, _, rfl, by decide⟩
  · exact ⟨_, _, rfl, by decide⟩
  · exact ⟨_, _, rfl, by decide⟩
  · exact ⟨_, _, rfl, by decide⟩
  · exact ⟨_, _, rfl, by decide⟩
  · exact ⟨_, _, rfl, by decide⟩

theorem quote_append_inj {s t u v : Str} (h : quote s ++ u = quote t ++ v) : s = t ∧ u = v := by
  have hbody : ∀ {s t : Str}, s.flatMap escape ++ '"' :: u = t.flatMap escape ++ '"' :: v →
      s = t ∧ u = v := by
    intro s
    induction s with
    | nil =>
        intro t h
        cases t with
        | nil => exact ⟨rfl, by simpa using h⟩
        | cons d t =>
            obtain ⟨e, rest, hd, hne⟩ := escape_head d
            simp only [List.flatMap_nil, List.nil_append, List.flatMap_cons, hd, List.cons_append,
              List.cons.injEq] at h
            exact absurd h.1.symm hne
    | cons c s ih =>
        intro t h
        cases t with
        | nil =>
            obtain ⟨e, rest, hc, hne⟩ := escape_head c
            simp only [List.flatMap_nil, List.nil_append, List.flatMap_cons, hc, List.cons_append,
              List.cons.injEq] at h
            exact absurd h.1 hne
        | cons d t =>
            simp only [List.flatMap_cons, List.append_assoc] at h
            obtain ⟨rfl, hrest⟩ := escape_append_inj h
            obtain ⟨rfl, huv⟩ := ih hrest
            exact ⟨rfl, huv⟩
  apply hbody
  simpa [quote] using h

/-! ## Values -/

/-- A text that does not go on with a digit. -/
def Delimited (s : Str) : Prop := ∀ c ∈ s.head?, c.isDigit = false

theorem decimal_append_inj {m n : Nat} {s t : Str} (hs : Delimited s) (ht : Delimited t)
    (h : Text.decimal m ++ s = Text.decimal n ++ t) : m = n ∧ s = t := by
  have hspan : ∀ {n : Nat} {s : Str}, Delimited s →
      (Text.decimal n ++ s).takeWhile Char.isDigit = Text.decimal n := by
    intro n s hs
    have hdigits : ∀ c ∈ Text.decimal n, c.isDigit = true := fun c hc =>
      Nat.isDigit_of_mem_toDigits (by decide) (by decide) hc
    rw [List.takeWhile_append_of_pos hdigits]
    cases s with
    | nil => simp
    | cons c s => simp [hs c rfl]
  have hdigits : Text.decimal m = Text.decimal n := by
    rw [← hspan hs, h, hspan ht]
  have hvalue := congrArg (Nat.ofDigitChars 10 · 0) hdigits
  simp only [Text.decimal, Nat.ofDigitChars_ten_toDigits] at hvalue
  exact ⟨hvalue, List.append_cancel_left (hdigits ▸ h)⟩

theorem Delimited.cons {c : Char} (s : Str) (h : c.isDigit = false) : Delimited (c :: s) := by
  intro d hd
  obtain rfl : c = d := by simpa using hd
  exact h

/-- What the first character of a rendering tells. -/
def kind : Json → Nat
  | .nat _ => 0
  | .str _ => 1
  | .arr _ => 2
  | .obj _ => 3

def kindOf (c : Char) : Nat :=
  if c.isDigit then 0 else if c = '"' then 1 else if c = '[' then 2 else 3

theorem compact_head (a : Json) :
    ∃ c rest, compact a = c :: rest ∧ kindOf c = kind a ∧ c ≠ ']' := by
  cases a with
  | nat n =>
      obtain ⟨c, rest, hn⟩ := List.exists_cons_of_ne_nil (Nat.toDigits_ne_nil (n := n) (b := 10))
      have hdigit : c.isDigit = true :=
        Nat.isDigit_of_mem_toDigits (b := 10) (n := n) (by decide) (by decide)
          (hn ▸ List.mem_cons_self)
      refine ⟨c, rest, by simpa [compact, Text.decimal] using hn, by simp [kindOf, hdigit, kind],
        ?_⟩
      rintro rfl
      simp at hdigit
  | str s => exact ⟨'"', _, rfl, rfl, by decide⟩
  | arr items =>
      cases items with
      | nil => exact ⟨'[', _, rfl, rfl, by decide⟩
      | cons item items => exact ⟨'[', _, rfl, rfl, by decide⟩
  | obj members =>
      rcases members with _ | ⟨⟨name, value⟩, members⟩
      · exact ⟨'\x7b', _, rfl, rfl, by decide⟩
      · exact ⟨'\x7b', _, rfl, rfl, by decide⟩

theorem kind_eq {a b : Json} {s t : Str} (h : compact a ++ s = compact b ++ t) :
    kind a = kind b := by
  obtain ⟨c, rest, ha, hkind, _⟩ := compact_head a
  obtain ⟨d, rest', hb, hkind', _⟩ := compact_head b
  rw [ha, hb] at h
  obtain ⟨rfl, _⟩ := List.cons.inj h
  exact hkind.symm.trans hkind'

theorem compact_append_ne {a : Json} {s t : Str} : compact a ++ s ≠ ']' :: t := by
  obtain ⟨c, rest, ha, _, hne⟩ := compact_head a
  rw [ha]
  intro h
  exact hne (List.cons.inj h).1

theorem delimited_items (items : List Json) (s : Str) : Delimited (compactItems items ++ s) := by
  cases items <;> exact Delimited.cons _ (by decide)

theorem delimited_members (members : List (Str × Json)) (s : Str) :
    Delimited (compactMembers members ++ s) := by
  rcases members with _ | ⟨⟨name, value⟩, members⟩ <;> exact Delimited.cons _ (by decide)

mutual

theorem compact_append_inj (a b : Json) {s t : Str} (hs : Delimited s) (ht : Delimited t)
    (h : compact a ++ s = compact b ++ t) : a = b ∧ s = t := by
  match a, b, kind_eq h with
  | .nat m, .nat n, _ =>
      simp only [compact] at h
      obtain ⟨rfl, hst⟩ := decimal_append_inj hs ht h
      exact ⟨rfl, hst⟩
  | .str u, .str v, _ =>
      simp only [compact] at h
      obtain ⟨rfl, hst⟩ := quote_append_inj h
      exact ⟨rfl, hst⟩
  | .arr [], .arr [], _ =>
      simp only [compact] at h
      exact ⟨rfl, List.append_cancel_left h⟩
  | .arr [], .arr (item :: items), _ =>
      simp only [compact, List.cons_append, List.append_assoc, List.cons.injEq, true_and] at h
      exact absurd h.symm compact_append_ne
  | .arr (item :: items), .arr [], _ =>
      simp only [compact, List.cons_append, List.append_assoc, List.cons.injEq, true_and] at h
      exact absurd h compact_append_ne
  | .arr (item :: items), .arr (item' :: items'), _ =>
      simp only [compact, List.cons_append, List.append_assoc, List.cons.injEq, true_and] at h
      obtain ⟨rfl, hitems⟩ := compact_append_inj item item' (delimited_items items s)
        (delimited_items items' t) h
      obtain ⟨rfl, hst⟩ := compactItems_append_inj items items' hitems
      exact ⟨rfl, hst⟩
  | .obj [], .obj [], _ =>
      simp only [compact] at h
      exact ⟨rfl, List.append_cancel_left h⟩
  | .obj [], .obj ((name, value) :: members), _ =>
      simp [compact, quote] at h
  | .obj ((name, value) :: members), .obj [], _ =>
      simp [compact, quote] at h
  | .obj ((name, value) :: members), .obj ((name', value') :: members'), _ =>
      simp only [compact, List.cons_append, List.append_assoc, List.cons.injEq, true_and] at h
      obtain ⟨rfl, hrest⟩ := quote_append_inj h
      obtain ⟨rfl, hmembers⟩ := compact_append_inj value value' (delimited_members members s)
        (delimited_members members' t) (List.cons.inj hrest).2
      obtain ⟨rfl, hst⟩ := compactMembers_append_inj members members' hmembers
      exact ⟨rfl, hst⟩

theorem compactItems_append_inj (items items' : List Json) {s t : Str}
    (h : compactItems items ++ s = compactItems items' ++ t) : items = items' ∧ s = t := by
  match items, items' with
  | [], [] =>
      simp only [compactItems] at h
      exact ⟨rfl, List.append_cancel_left h⟩
  | [], item :: items => simp [compactItems] at h
  | item :: items, [] => simp [compactItems] at h
  | item :: items, item' :: items' =>
      simp only [compactItems, List.cons_append, List.append_assoc, List.cons.injEq,
        true_and] at h
      obtain ⟨rfl, hitems⟩ := compact_append_inj item item' (delimited_items items s)
        (delimited_items items' t) h
      obtain ⟨rfl, hst⟩ := compactItems_append_inj items items' hitems
      exact ⟨rfl, hst⟩

theorem compactMembers_append_inj (members members' : List (Str × Json)) {s t : Str}
    (h : compactMembers members ++ s = compactMembers members' ++ t) :
    members = members' ∧ s = t := by
  match members, members' with
  | [], [] =>
      simp only [compactMembers] at h
      exact ⟨rfl, List.append_cancel_left h⟩
  | [], (name, value) :: members => simp [compactMembers] at h
  | (name, value) :: members, [] => simp [compactMembers] at h
  | (name, value) :: members, (name', value') :: members' =>
      simp only [compactMembers, List.cons_append, List.append_assoc, List.cons.injEq,
        true_and] at h
      obtain ⟨rfl, hrest⟩ := quote_append_inj h
      obtain ⟨rfl, hmembers⟩ := compact_append_inj value value' (delimited_members members s)
        (delimited_members members' t) (List.cons.inj hrest).2
      obtain ⟨rfl, hst⟩ := compactMembers_append_inj members members' hmembers
      exact ⟨rfl, hst⟩

end

theorem compact_injective {a b : Json} (h : compact a = compact b) : a = b := by
  have hnil : Delimited [] := by simp [Delimited]
  refine (compact_append_inj a b hnil hnil ?_).1
  rw [h]

end Json

end AquaAuth.Support
