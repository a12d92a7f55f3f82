import AquaAuth.Support.Result
import AquaAuth.Support.Serde
set_option autoImplicit false
/-!
# Reading compact JSON

A reader for compact JSON texts, and what a reader has to do with what a writer writes.  The
numbers are the decimal ones of 64 bits, and a text nests less deep than `depthLimit`.
-/

namespace AquaAuth.Support.Serde

/-- How deep a reader follows nested values. -/
def depthLimit : Nat := 128

namespace Value

/-- An unsigned 64-bit number. -/
def asU64 : Value → Option Nat
  | number literal =>
      if literal ≠ [] ∧ (∀ c ∈ literal, c.isDigit = true) ∧ Nat.ofDigitChars 10 literal 0 < 2 ^ 64
      then some (Nat.ofDigitChars 10 literal 0)
      else none
  | _ => none

/-- An `Option<String>`. -/
def asOptionStr : Value → Option (Option Str)
  | null => some none
  | string s => some (some s)
  | _ => none

/-- An unsigned number as it is written. -/
def u64 (n : Nat) : Value := number (Text.decimal n)

theorem asU64_u64 {n : Nat} (h : n < 2 ^ 64) : asU64 (u64 n) = some n := by
  have hdigits : ∀ c ∈ Text.decimal n, c.isDigit = true := fun c hc =>
    Nat.isDigit_of_mem_toDigits (by decide) (by decide) hc
  have hvalue : Nat.ofDigitChars 10 (Text.decimal n) 0 = n := Nat.ofDigitChars_ten_toDigits
  have hne : Text.decimal n ≠ [] := Nat.toDigits_ne_nil
  simp only [asU64, u64, hvalue]
  rw [if_pos ⟨hne, hdigits, h⟩]

/-- Values a writer writes and a reader reads back: decimal numbers of 64 bits, and at most
`depth` values around each other. -/
def Plain : Nat → Value → Prop
  | _, null => True
  | _, bool _ => True
  | _, string _ => True
  | _, number literal => ∃ n < 2 ^ 64, literal = Text.decimal n
  | 0, array _ => False
  | 0, object _ => False
  | depth + 1, array items => ∀ item ∈ items, Plain depth item
  | depth + 1, object members => ∀ member ∈ members, Plain depth member.2

@[simp] theorem plain_null (depth : Nat) : Plain depth null := by cases depth <;> trivial

@[simp] theorem plain_bool (depth : Nat) (b : Bool) : Plain depth (bool b) := by
  cases depth <;> trivial

@[simp] theorem plain_string (depth : Nat) (s : Str) : Plain depth (string s) := by
  cases depth <;> trivial

/-- Deeper is no harder. -/
theorem Plain.mono {depth depth' : Nat} {value : Value} (h : Plain depth value)
    (hle : depth ≤ depth') : Plain depth' value := by
  induction depth generalizing depth' value with
  | zero =>
      cases value with
      | array items => exact h.elim
      | object members => exact h.elim
      | number literal => cases depth' <;> exact h
      | _ => simp
  | succ depth ih =>
      obtain ⟨depth', rfl⟩ : ∃ k, depth' = k + 1 := ⟨depth' - 1, by omega⟩
      cases value with
      | array items => exact fun item hitem => ih (h item hitem) (by omega)
      | object members => exact fun member hmember => ih (h member hmember) (by omega)
      | number literal => exact h
      | _ => simp

end Value

/-- The crate writes values compactly and reads back what it writes. -/
structure Json.Faithful (J : Json) : Prop where
  toVec_eq : ∀ value, J.toVec value = Text.utf8 value.compact
  fromSlice_compact : ∀ value, Value.Plain depthLimit value →
    J.fromSlice (Text.utf8 value.compact) = .ok value

theorem Json.Faithful.fromSlice_toVec {J : Json} (h : J.Faithful) {value : Value}
    (hplain : Value.Plain depthLimit value) : J.fromSlice (J.toVec value) = .ok value := by
  rw [h.toVec_eq, h.fromSlice_compact value hplain]

/-- `serde_json::from_slice`, at a type that is read from a value. -/
def Json.read {α : Type} (J : Json) (deserialize : Value → Option α) (bytes : Bytes) :
    Except Str α := do
  let value ← J.fromSlice bytes
  Result.okOr (J.dataError bytes) (deserialize value)

theorem Json.Faithful.read_toVec {J : Json} (h : J.Faithful) {α : Type}
    {deserialize : Value → Option α} {value : Value} {a : α}
    (hplain : Value.Plain depthLimit value) (ha : deserialize value = some a) :
    J.read deserialize (J.toVec value) = .ok a := by
  rw [Json.read, h.fromSlice_toVec hplain, Result.ok_bind, ha, Result.okOr_some]

/-! ## A reader -/

namespace Value

/-- Read up to the closing quote. -/
def readQuoted : Nat → Str → Option (Str × Str)
  | 0, _ => none
  | _ + 1, '"' :: s => some ([], s)
  | n + 1, s => do
      let (c, s) ← Support.Json.readChar s
      let (cs, s) ← readQuoted n s
      pure (c :: cs, s)

/-- Read a word or a number. -/
def readScalar (s : Str) : Option (Value × Str) :=
  match Text.stripPrefix (text "null") s with
  | some rest => some (null, rest)
  | none =>
      match Text.stripPrefix (text "true") s with
      | some rest => some (bool true, rest)
      | none =>
          match Text.stripPrefix (text "false") s with
          | some rest => some (bool false, rest)
          | none =>
              if s.takeWhile Char.isDigit = [] then none
              else some (number (s.takeWhile Char.isDigit), s.dropWhile Char.isDigit)

mutual

/-- Read a value. -/
def readValue : Nat → Str → Option (Value × Str)
  | 0, _ => none
  | n + 1, s =>
      match s with
      | '"' :: s => (readQuoted n s).map fun read => (string read.1, read.2)
      | '[' :: ']' :: s => some (array [], s)
      | '[' :: s => (readItems n s).map fun read => (array read.1, read.2)
      | '\x7b' :: '\x7d' :: s => some (object [], s)
      | '\x7b' :: s => (readMembers n s).map fun read => (object read.1, read.2)
      | s => readScalar s

/-- Read the items of an array, at least one. -/
def readItems : Nat → Str → Option (List Value × Str)
  | 0, _ => none
  | n + 1, s => do
      let (item, s) ← readValue n s
      match s with
      | ',' :: s => do
          let (items, s) ← readItems n s
          pure (item :: items, s)
      | ']' :: s => some ([item], s)
      | _ => none

/-- Read the members of an object, at least one. -/
def readMembers : Nat → Str → Option (List (Str × Value) × Str)
  | 0, _ => none
  | n + 1, s =>
      match s with
      | '"' :: s => do
          let (name, s) ← readQuoted n s
          match s with
          | ':' :: s => do
              let (value, s) ← readValue n s
              match s with
              | ',' :: s => do
                  let (members, s) ← readMembers n s
                  pure ((name, value) :: members, s)
              | '\x7d' :: s => some ([(name, value)], s)
              | _ => none
          | _ => none
      | _ => none

end

/-- Read a whole text. -/
def readCompact (s : Str) : Option Value :=
  match readValue (s.length + 1) s with
  | some (value, []) => some value
  | _ => none

end Value

/-- The characters of UTF-8 bytes. -/
def decodeUtf8 (bytes : Bytes) : Option Str := bytes.toByteArray.utf8Decode?.map Array.toList

theorem decodeUtf8_utf8 (s : Str) : decodeUtf8 (Text.utf8 s) = some s := by
  have h : (Text.utf8 s).toByteArray.utf8Decode? = some s.toArray := List.utf8Decode?_utf8Encode
  simp [decodeUtf8, h]

/-! ## Reading what was written -/

namespace Value

theorem readQuoted_escape {n : Nat} (s rest : Str) (h : s.length < n) :
    readQuoted n (s.flatMap Support.Json.escape ++ '"' :: rest) = some (s, rest) := by
  induction s generalizing n with
  | nil =>
      obtain ⟨n, rfl⟩ : ∃ k, n = k + 1 := ⟨n - 1, by simp at h; omega⟩
      rfl
  | cons c s ih =>
      obtain ⟨n, rfl⟩ : ∃ k, n = k + 1 := ⟨n - 1, by simp at h; omega⟩
      obtain ⟨e, more, hescape, hne⟩ := Support.Json.escape_head c
      have hread := Support.Json.readChar_escape c (s.flatMap Support.Json.escape ++ '"' :: rest)
      have hrest := ih (n := n) (by simpa using h)
      rw [List.flatMap_cons, List.append_assoc]
      rw [hescape, List.cons_append] at hread ⊢
      rw [readQuoted.eq_3 _ _ (by rintro _ ⟨⟩; exact hne rfl), hread]
      simp [hrest]

theorem readQuoted_quote {n : Nat} (s rest : Str) (h : s.length < n) :
    ∃ body, Support.Json.quote s ++ rest = '"' :: body ∧ readQuoted n body = some (s, rest) := by
  refine ⟨_, ?_, readQuoted_escape s rest h⟩
  simp [Support.Json.quote]

mutual

/-- How many steps it takes to read a value. -/
def size : Value → Nat
  | null => 1
  | bool _ => 1
  | number _ => 1
  | string s => s.length + 2
  | array items => 1 + sizeItems items
  | object members => 1 + sizeMembers members

def sizeItems : List Value → Nat
  | [] => 0
  | item :: items => size item + 1 + sizeItems items

def sizeMembers : List (Str × Value) → Nat
  | [] => 0
  | (name, value) :: members => name.length + 1 + size value + 1 + sizeMembers members

end

theorem intercalate_cons {x : Str} {xs : List Str} :
    [','].intercalate (x :: xs) = x ++ xs.flatMap fun y => ',' :: y := by
  induction xs generalizing x with
  | nil => simp
  | cons y ys ih => simp [List.intercalate_cons_cons, ih]

/-- A value does not start with a closing bracket or brace. -/
theorem compact_head {depth : Nat} {value : Value} (h : Plain depth value) :
    ∃ c rest, value.compact = c :: rest ∧ c ≠ ']' ∧ c ≠ '\x7d' := by
  cases value with
  | null => exact ⟨_, _, rfl, by decide, by decide⟩
  | bool b => cases b <;> exact ⟨_, _, rfl, by decide, by decide⟩
  | number literal =>
      obtain ⟨n, _, rfl⟩ : ∃ n < 2 ^ 64, literal = Text.decimal n := by
        cases depth <;> exact h
      have hne : Text.decimal n ≠ [] := Nat.toDigits_ne_nil
      obtain ⟨c, rest, hdecimal⟩ := List.exists_cons_of_ne_nil hne
      have hdigit : c.isDigit = true := by
        apply Nat.isDigit_of_mem_toDigits (b := 10) (n := n) (by decide) (by decide)
        show c ∈ Text.decimal n
        rw [hdecimal]
        exact List.mem_cons_self
      refine ⟨c, rest, hdecimal, ?_, ?_⟩ <;> rintro rfl <;> exact absurd hdigit (by decide)
  | string s => exact ⟨_, _, rfl, by decide, by decide⟩
  | array items => exact ⟨_, _, by rw [compact], by decide, by decide⟩
  | object members => exact ⟨_, _, by rw [compact], by decide, by decide⟩

theorem readScalar_number {n : Nat} {rest : Str} (h : Support.Json.Delimited rest) :
    readScalar (Text.decimal n ++ rest) = some (u64 n, rest) := by
  have hdigits : ∀ c ∈ Text.decimal n, c.isDigit = true := fun c hc =>
    Nat.isDigit_of_mem_toDigits (by decide) (by decide) hc
  have hne : Text.decimal n ≠ [] := Nat.toDigits_ne_nil
  have hword : ∀ {c : Char} {word : Str}, c.isDigit = false →
      Text.stripPrefix (c :: word) (Text.decimal n ++ rest) = none := by
    intro c word hc
    rw [Text.stripPrefix_eq_none]
    obtain ⟨d, more, hdecimal⟩ := List.exists_cons_of_ne_nil hne
    intro tail htail
    rw [hdecimal] at htail
    have hsame : d = c := (List.cons.inj htail).1
    have hdigit := hdigits d (hdecimal ▸ List.mem_cons_self)
    rw [hsame, hc] at hdigit
    cases hdigit
  have htake : (Text.decimal n ++ rest).takeWhile Char.isDigit = Text.decimal n := by
    rw [List.takeWhile_append_of_pos hdigits]
    cases rest with
    | nil => simp
    | cons c rest => simp [h c rfl]
  have hdrop : (Text.decimal n ++ rest).dropWhile Char.isDigit = rest := by
    rw [List.dropWhile_append_of_pos hdigits]
    cases rest with
    | nil => simp
    | cons c rest => simp [h c rfl]
  have hnull : Text.stripPrefix (text "null") (Text.decimal n ++ rest) = none := hword rfl
  have htrue : Text.stripPrefix (text "true") (Text.decimal n ++ rest) = none := hword rfl
  have hfalse : Text.stripPrefix (text "false") (Text.decimal n ++ rest) = none := hword rfl
  rw [readScalar, hnull, htrue, hfalse]
  simp only [htake, hdrop]
  rw [if_neg hne]
  rfl

/-- A value other than a string, an array or an object. -/
theorem readValue_scalar {n : Nat} {c : Char} {s : Str} (hquote : c ≠ '"') (hbracket : c ≠ '[')
    (hbrace : c ≠ '\x7b') : readValue (n + 1) (c :: s) = readScalar (c :: s) := by
  rw [readValue.eq_7]
  · rintro _ ⟨⟩
    exact hquote rfl
  · rintro _ ⟨⟩
    exact hbracket rfl
  · rintro _ ⟨⟩
    exact hbracket rfl
  · rintro _ ⟨⟩
    exact hbrace rfl
  · rintro _ ⟨⟩
    exact hbrace rfl

/-- The reader gets a value back, whatever follows it. -/
def ReadsBack (value : Value) : Prop :=
  ∀ n rest, size value ≤ n → Support.Json.Delimited rest →
    readValue n (compact value ++ rest) = some (value, rest)

theorem readItems_compact {item : Value} {items : List Value} {n : Nat} {rest : Str}
    (hread : ∀ other ∈ item :: items, ReadsBack other)
    (hn : sizeItems (item :: items) ≤ n) :
    readItems n ([','].intercalate (compactItems (item :: items)) ++ ']' :: rest) =
      some (item :: items, rest) := by
  induction items generalizing item n with
  | nil =>
      rw [sizeItems, sizeItems] at hn
      obtain ⟨n, rfl⟩ : ∃ k, n = k + 1 := ⟨n - 1, by omega⟩
      have hitem := hread item List.mem_cons_self n (']' :: rest) (by omega) (.cons _ rfl)
      simp [compactItems, readItems, hitem]
  | cons next items ih =>
      rw [sizeItems] at hn
      obtain ⟨n, rfl⟩ : ∃ k, n = k + 1 := ⟨n - 1, by omega⟩
      have hitems : readItems n ([','].intercalate (compactItems (next :: items)) ++
          ']' :: rest) = some (next :: items, rest) := ih
        (fun other hother => hread other (List.mem_cons_of_mem _ hother)) (by omega)
      have hitem := hread item List.mem_cons_self n
        (',' :: ([','].intercalate (compactItems (next :: items)) ++ ']' :: rest)) (by omega)
        (.cons _ rfl)
      rw [compactItems, compactItems, List.intercalate_cons_cons, ← compactItems]
      simp only [List.append_assoc, List.cons_append, List.nil_append]
      rw [readItems, hitem]
      simp [hitems]

theorem readMembers_compact {name : Str} {value : Value} {members : List (Str × Value)} {n : Nat}
    {rest : Str} (hread : ∀ member ∈ (name, value) :: members, ReadsBack member.2)
    (hn : sizeMembers ((name, value) :: members) ≤ n) :
    readMembers n ([','].intercalate (compactMembers ((name, value) :: members)) ++
        '\x7d' :: rest) = some ((name, value) :: members, rest) := by
  induction members generalizing name value n with
  | nil =>
      rw [sizeMembers, sizeMembers] at hn
      obtain ⟨n, rfl⟩ : ∃ k, n = k + 1 := ⟨n - 1, by omega⟩
      obtain ⟨body, hquote, hbody⟩ := readQuoted_quote (n := n) name
        (':' :: (compact value ++ '\x7d' :: rest)) (by omega)
      have hvalue := hread (name, value) List.mem_cons_self n ('\x7d' :: rest)
        (by simp only; omega) (.cons _ rfl)
      simp only [compactMembers, List.intercalate_singleton, List.append_assoc, List.cons_append]
      rw [hquote, readMembers, hbody]
      simp [hvalue]
  | cons next members ih =>
      obtain ⟨name', value'⟩ := next
      rw [sizeMembers] at hn
      obtain ⟨n, rfl⟩ : ∃ k, n = k + 1 := ⟨n - 1, by omega⟩
      have hmembers : readMembers n ([','].intercalate
          (compactMembers ((name', value') :: members)) ++ '\x7d' :: rest) =
            some ((name', value') :: members, rest) := ih
        (fun other hother => hread other (List.mem_cons_of_mem _ hother)) (by omega)
      obtain ⟨body, hquote, hbody⟩ := readQuoted_quote (n := n) name
        (':' :: (compact value ++ ',' ::
          ([','].intercalate (compactMembers ((name', value') :: members)) ++ '\x7d' :: rest)))
        (by omega)
      have hvalue := hread (name, value) List.mem_cons_self n
        (',' :: ([','].intercalate (compactMembers ((name', value') :: members)) ++
          '\x7d' :: rest)) (by simp only; omega) (.cons _ rfl)
      rw [compactMembers, compactMembers, List.intercalate_cons_cons, ← compactMembers]
      simp only [List.append_assoc, List.cons_append, List.nil_append]
      rw [hquote, readMembers, hbody]
      simp [hvalue, hmembers]

theorem readsBack_of_scalar {value : Value} {c : Char} {s : Str} (hcompact : compact value = c :: s)
    (hsize : 1 ≤ size value) (hquote : c ≠ '"') (hbracket : c ≠ '[') (hbrace : c ≠ '\x7b')
    (hread : ∀ rest, Support.Json.Delimited rest →
      readScalar (compact value ++ rest) = some (value, rest)) : ReadsBack value := by
  intro n rest hn hrest
  obtain ⟨n, rfl⟩ : ∃ k, n = k + 1 := ⟨n - 1, by omega⟩
  have hscalar := hread rest hrest
  rw [hcompact, List.cons_append] at hscalar ⊢
  rw [readValue_scalar hquote hbracket hbrace, hscalar]

theorem readsBack_number {n : Nat} : ReadsBack (u64 n) := by
  have hne : Text.decimal n ≠ [] := Nat.toDigits_ne_nil
  obtain ⟨c, rest, hdecimal⟩ := List.exists_cons_of_ne_nil hne
  have hdigit : c.isDigit = true := by
    apply Nat.isDigit_of_mem_toDigits (b := 10) (n := n) (by decide) (by decide)
    show c ∈ Text.decimal n
    rw [hdecimal]
    exact List.mem_cons_self
  apply readsBack_of_scalar (c := c) (s := rest)
  · rw [u64, compact, hdecimal]
  · rw [u64, size]
  · rintro rfl
    exact absurd hdigit (by decide)
  · rintro rfl
    exact absurd hdigit (by decide)
  · rintro rfl
    exact absurd hdigit (by decide)
  · intro rest hrest
    rw [u64, compact]
    exact readScalar_number hrest

theorem readsBack_string (s : Str) : ReadsBack (string s) := by
  intro n rest hn _
  rw [size] at hn
  obtain ⟨n, rfl⟩ : ∃ k, n = k + 1 := ⟨n - 1, by omega⟩
  obtain ⟨body, hquote, hbody⟩ := readQuoted_quote (n := n) s rest (by omega)
  rw [compact, hquote, readValue, hbody]
  rfl

theorem readsBack_array {items : List Value} (h : ∀ item ∈ items, ReadsBack item)
    (hhead : ∀ item ∈ items, ∃ c rest, compact item = c :: rest ∧ c ≠ ']') :
    ReadsBack (array items) := by
  intro n rest hn _
  rw [size] at hn
  obtain ⟨n, rfl⟩ : ∃ k, n = k + 1 := ⟨n - 1, by omega⟩
  cases items with
  | nil => rfl
  | cons item items =>
      have hitems : readItems n ([','].intercalate (compactItems (item :: items)) ++
          ']' :: rest) = some (item :: items, rest) := readItems_compact h (by omega)
      obtain ⟨c, more, hitem, hne⟩ := hhead item List.mem_cons_self
      have hstart : ∃ more, [','].intercalate (compactItems (item :: items)) ++ ']' :: rest =
          c :: more := by
        rw [compactItems, intercalate_cons, hitem]
        exact ⟨_, rfl⟩
      obtain ⟨more', hstart⟩ := hstart
      rw [compact, List.cons_append, List.append_assoc]
      show readValue (n + 1) ('[' :: ([','].intercalate (compactItems (item :: items)) ++
        ']' :: rest)) = _
      rw [readValue.eq_4, hitems]
      · rfl
      · intro s hs
        rw [hstart] at hs
        exact hne (List.cons.inj hs).1

theorem readsBack_object {members : List (Str × Value)}
    (h : ∀ member ∈ members, ReadsBack member.2) : ReadsBack (object members) := by
  intro n rest hn _
  rw [size] at hn
  obtain ⟨n, rfl⟩ : ∃ k, n = k + 1 := ⟨n - 1, by omega⟩
  cases members with
  | nil => rfl
  | cons member members =>
      obtain ⟨name, value⟩ := member
      have hmembers : readMembers n ([','].intercalate (compactMembers ((name, value) ::
          members)) ++
          '\x7d' :: rest) = some ((name, value) :: members, rest) :=
        readMembers_compact h (by omega)
      have hstart : ∃ more, [','].intercalate (compactMembers ((name, value) :: members)) ++
          '\x7d' :: rest = '"' :: more := by
        rw [compactMembers, intercalate_cons, Support.Json.quote]
        exact ⟨_, rfl⟩
      obtain ⟨more, hstart⟩ := hstart
      rw [compact, List.cons_append, List.append_assoc]
      show readValue (n + 1) ('\x7b' ::
          ([','].intercalate (compactMembers ((name, value) :: members))
        ++ '\x7d' :: rest)) = _
      rw [readValue.eq_6, hmembers]
      · rfl
      · intro s hs
        rw [hstart] at hs
        exact absurd (List.cons.inj hs).1 (by decide)

theorem readsBack_null : ReadsBack null := by
  apply readsBack_of_scalar (c := 'n') rfl (by rw [size]) (by decide) (by decide) (by decide)
  intro rest _
  rw [readScalar, compact, Text.stripPrefix_append]

theorem readsBack_bool (b : Bool) : ReadsBack (bool b) := by
  cases b with
  | false =>
      apply readsBack_of_scalar (c := 'f') rfl (by rw [size]) (by decide) (by decide) (by decide)
      intro rest _
      have hnull : Text.stripPrefix (text "null") (text "false" ++ rest) = none := rfl
      have htrue : Text.stripPrefix (text "true") (text "false" ++ rest) = none := rfl
      rw [readScalar, compact, hnull, htrue, Text.stripPrefix_append]
  | true =>
      apply readsBack_of_scalar (c := 't') rfl (by rw [size]) (by decide) (by decide) (by decide)
      intro rest _
      have hnull : Text.stripPrefix (text "null") (text "true" ++ rest) = none := rfl
      rw [readScalar, compact, hnull, Text.stripPrefix_append]

theorem readsBack_of_plain {depth : Nat} {value : Value} (h : Plain depth value) :
    ReadsBack value := by
  induction depth generalizing value with
  | zero =>
      cases value with
      | null => exact readsBack_null
      | bool b => exact readsBack_bool b
      | number literal =>
          obtain ⟨n, _, rfl⟩ := h
          exact readsBack_number
      | string s => exact readsBack_string s
      | array items => exact h.elim
      | object members => exact h.elim
  | succ depth ih =>
      cases value with
      | null => exact readsBack_null
      | bool b => exact readsBack_bool b
      | number literal =>
          obtain ⟨n, _, rfl⟩ := h
          exact readsBack_number
      | string s => exact readsBack_string s
      | array items =>
          apply readsBack_array fun item hitem => ih (h item hitem)
          intro item hitem
          obtain ⟨c, rest, hcompact, hne, _⟩ := compact_head (h item hitem)
          exact ⟨c, rest, hcompact, hne⟩
      | object members => exact readsBack_object fun member hmember => ih (h member hmember)

/-! The text of a value is as long as it takes steps to read it. -/

theorem length_quote (s : Str) : s.length + 2 ≤ (Support.Json.quote s).length := by
  have hbody : s.length ≤ (s.flatMap Support.Json.escape).length := by
    induction s with
    | nil => simp
    | cons c s ih =>
        obtain ⟨e, rest, hescape, _⟩ := Support.Json.escape_head c
        rw [List.flatMap_cons, List.length_append, hescape, List.length_cons, List.length_cons]
        omega
  rw [Support.Json.quote, List.length_cons, List.length_append, List.length_singleton]
  omega

theorem length_intercalate (x : Str) (xs : List Str) :
    ([','].intercalate (x :: xs)).length + 1 = ((x :: xs).map fun y => y.length + 1).sum := by
  induction xs generalizing x with
  | nil => simp
  | cons y ys ih =>
      have htail := ih y
      rw [List.intercalate_cons_cons, List.length_append, List.length_append, List.map_cons,
        List.sum_cons, ← htail, List.length_singleton]
      omega

theorem sizeItems_le {items : List Value} (h : ∀ item ∈ items, size item ≤ (compact item).length) :
    sizeItems items ≤ ((compactItems items).map fun y => y.length + 1).sum := by
  induction items with
  | nil => simp [sizeItems]
  | cons item items ih =>
      have hitem := h item List.mem_cons_self
      have hitems := ih fun other hother => h other (List.mem_cons_of_mem _ hother)
      rw [sizeItems, compactItems, List.map_cons, List.sum_cons]
      omega

theorem sizeMembers_le {members : List (Str × Value)}
    (h : ∀ member ∈ members, size member.2 ≤ (compact member.2).length) :
    sizeMembers members ≤ ((compactMembers members).map fun y => y.length + 1).sum := by
  induction members with
  | nil => simp [sizeMembers]
  | cons member members ih =>
      obtain ⟨name, value⟩ := member
      have hvalue := h (name, value) List.mem_cons_self
      have hmembers := ih fun other hother => h other (List.mem_cons_of_mem _ hother)
      have hname := length_quote name
      rw [sizeMembers, compactMembers, List.map_cons, List.sum_cons, List.length_append,
        List.length_cons]
      simp only at hvalue
      omega

theorem size_le_length {depth : Nat} {value : Value} (h : Plain depth value) :
    size value ≤ (compact value).length := by
  have hleaf : ∀ {n : Nat}, size (u64 n) ≤ (compact (u64 n)).length := by
    intro n
    have hne : Text.decimal n ≠ [] := Nat.toDigits_ne_nil
    rw [u64, size, compact]
    exact List.length_pos_of_ne_nil hne
  have hbool : ∀ b, size (bool b) ≤ (compact (bool b)).length := by
    intro b
    cases b <;> rw [size] <;> decide
  induction depth generalizing value with
  | zero =>
      cases value with
      | null => rw [size]; decide
      | bool b => exact hbool b
      | number literal =>
          obtain ⟨n, _, rfl⟩ := h
          exact hleaf
      | string s => rw [size, compact]; exact length_quote s
      | array items => exact h.elim
      | object members => exact h.elim
  | succ depth ih =>
      cases value with
      | null => rw [size]; decide
      | bool b => exact hbool b
      | number literal =>
          obtain ⟨n, _, rfl⟩ := h
          exact hleaf
      | string s => rw [size, compact]; exact length_quote s
      | array items =>
          have hitems := sizeItems_le fun item hitem => ih (h item hitem)
          rw [size, compact, List.length_cons, List.length_append, List.length_singleton]
          cases items with
          | nil => simp [sizeItems]
          | cons item items =>
              rw [compactItems, ← length_intercalate] at hitems
              rw [compactItems]
              omega
      | object members =>
          have hmembers := sizeMembers_le fun member hmember => ih (h member hmember)
          rw [size, compact, List.length_cons, List.length_append, List.length_singleton]
          cases members with
          | nil => simp [sizeMembers]
          | cons member members =>
              rw [compactMembers, ← length_intercalate] at hmembers
              rw [compactMembers]
              omega

theorem readCompact_compact {depth : Nat} {value : Value} (h : Plain depth value) :
    readCompact (compact value) = some value := by
  have hsize := size_le_length h
  have hread := readsBack_of_plain h ((compact value).length + 1) [] (by omega)
    (by simp [Support.Json.Delimited])
  rw [List.append_nil] at hread
  rw [readCompact, hread]

end Value

/-- A crate that writes and reads compact JSON. -/
def Json.compactCrate : Json where
  toVec value := Text.utf8 value.compact
  fromSlice bytes := Result.okOr [] (decodeUtf8 bytes >>= Value.readCompact)
  dataError _ := []

theorem Json.compactCrate_faithful : compactCrate.Faithful where
  toVec_eq _ := rfl
  fromSlice_compact value hplain := by
    simp [compactCrate, decodeUtf8_utf8, Value.readCompact_compact hplain]

/-- A crate as far as a list of texts tells. -/
def Json.ofTable (table : List (Bytes × Value)) : Json where
  toVec value := Text.utf8 value.compact
  fromSlice bytes := Result.okOr (text "expected value at line 1 column 1")
    ((table.find? fun entry => entry.1 = bytes).map Prod.snd)
  dataError _ := text "invalid type"

end AquaAuth.Support.Serde
