import AquaAuth.Support.Text
set_option autoImplicit false
/-!
# Cookies in a user agent

What a user agent makes of a `Set-Cookie` header and writes into a `Cookie` header: the algorithms
of RFC 6265, sections 5.2 and 5.4, as far as the two headers go.
-/

namespace AquaAuth.Support

/-- A cookie as it was set. -/
structure Cookie where
  name : Str
  value : Str
  attributes : List (Str × Str)
  deriving DecidableEq, Repr

namespace Cookie

def isBlank (c : Char) : Bool := c = ' ' || c = '\t'

def trimBlanks (s : Str) : Str := (s.dropWhile isBlank).rdropWhile isBlank

/-- A name and a value around the first `=`, without the blanks around either. -/
def readPair (s : Str) : Option (Str × Str) :=
  (Text.splitOnceChar '=' s).map fun pair => (trimBlanks pair.1, trimBlanks pair.2)

def readAttribute (s : Str) : Str × Str := (readPair s).getD (trimBlanks s, [])

/-- The cookie a `Set-Cookie` header sets; nothing when it has no name. -/
def readSetCookie (header : Str) : Option Cookie :=
  match header.splitOn ';' with
  | [] => none
  | first :: attributes =>
      (readPair first).bind fun pair =>
        if pair.1 = [] then none
        else some ⟨pair.1, pair.2, attributes.map readAttribute⟩

/-- The `Cookie` header that sends these cookies. -/
def cookieString (cookies : List (Str × Str)) : Str :=
  (text "; ").intercalate (cookies.map fun c => c.1 ++ '=' :: c.2)

/-- A text that stays what it is as a value or an attribute of a cookie. -/
def Plain (s : Str) : Prop := ';' ∉ s ∧ trimBlanks s = s

/-- A name and a value that do not run into the rest of a header. -/
structure Sendable (cookie : Str × Str) : Prop where
  name : ';' ∉ cookie.1 ∧ '=' ∉ cookie.1
  value : ';' ∉ cookie.2

/-! ## What is read back -/

theorem trimBlanks_of_forall {s : Str} (h : ∀ c ∈ s, isBlank c = false) : trimBlanks s = s := by
  have hdrop : s.dropWhile isBlank = s := by
    cases s with
    | nil => rfl
    | cons c s => simp [h c (by simp)]
  rw [trimBlanks, hdrop, List.rdropWhile_eq_self_iff]
  intro hne
  simp [h _ (List.getLast_mem hne)]

theorem readPair_append {name value : Str} (h : '=' ∉ name) :
    readPair (name ++ '=' :: value) = some (trimBlanks name, trimBlanks value) := by
  have hsplit : Text.splitOnceChar '=' (name ++ '=' :: value) = some (name, value) :=
    Text.splitOnceChar_eq_some.mpr ⟨rfl, h⟩
  rw [readPair, hsplit, Option.map_some]

theorem readAttribute_blank (s : Str) : readAttribute (' ' :: s) = readAttribute s := by
  have hpair : readPair (' ' :: s) = readPair s := by
    rw [readPair, readPair]
    cases hsplit : Text.splitOnceChar '=' s with
    | none =>
        have hnot := Text.splitOnceChar_eq_none.mp hsplit
        have hnone : Text.splitOnceChar '=' (' ' :: s) = none :=
          Text.splitOnceChar_eq_none.mpr (by simp [hnot])
        rw [hnone]
    | some pair =>
        obtain ⟨heq, hnot⟩ := Text.splitOnceChar_eq_some.mp hsplit
        have hsome : Text.splitOnceChar '=' (' ' :: s) = some (' ' :: pair.1, pair.2) :=
          Text.splitOnceChar_eq_some.mpr ⟨by rw [heq]; rfl, by simp [hnot]⟩
        rw [hsome]
        rfl
  rw [readAttribute, readAttribute, hpair]
  rfl

/-- Pieces behind one another, split where they were put together. -/
theorem splitOn_pieces {first : Str} {rest : List Str} (hfirst : ';' ∉ first)
    (hrest : ∀ piece ∈ rest, ';' ∉ piece) :
    (first ++ rest.flatMap (text "; " ++ ·)).splitOn ';' = first :: rest.map (' ' :: ·) := by
  induction rest generalizing first with
  | nil =>
      rw [List.flatMap_nil, Text.splitOn_append_of_not_mem hfirst]
      simp
  | cons piece rest ih =>
      have hpiece : ';' ∉ ' ' :: piece := by
        rw [List.mem_cons, not_or]
        exact ⟨by decide, hrest piece List.mem_cons_self⟩
      have hpieces := ih hpiece fun p hp => hrest p (List.mem_cons_of_mem _ hp)
      rw [List.flatMap_cons, Text.splitOn_append_of_not_mem hfirst]
      show List.modifyHead (first ++ ·)
        (List.splitOn ';' (';' :: (' ' :: piece ++ rest.flatMap (text "; " ++ ·)))) = _
      rw [List.splitOn_cons_eq_if_modifyHead, if_pos (beq_self_eq_true _), hpieces]
      simp

/-- The attributes are as many as the header has semicolons. -/
theorem length_attributes {header : Str} {cookie : Cookie}
    (h : readSetCookie header = some cookie) :
    cookie.attributes.length = header.count ';' := by
  have hlength := Text.length_splitOn ';' header
  unfold readSetCookie at h
  split at h
  · cases h
  · rename_i first attributes hsplit
    obtain ⟨pair, _, hpair⟩ := Option.bind_eq_some_iff.mp h
    split_ifs at hpair
    obtain rfl := Option.some.inj hpair
    rw [hsplit, List.length_cons] at hlength
    rw [List.length_map]
    omega

end Cookie

end AquaAuth.Support
