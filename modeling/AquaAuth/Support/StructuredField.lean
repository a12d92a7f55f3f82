import AquaAuth.Support.Encoding
import AquaAuth.Support.KeyedMap
set_option autoImplicit false
/-!
# Structured fields

The values of RFC 8941 dictionaries, and a reference serializer and parser.
Keys, strings and integers carry their range checks, so an unserializable one
cannot be built.  The reference covers integers, strings, tokens, booleans and
byte sequences; it refuses the other kinds of bare items.

A parser returns what it read and what it left.  Each round trip is stated for an
arbitrary continuation, so that the lemma of a part is used as it stands in the
proof of the whole.
-/

namespace AquaAuth.Support.StructuredField

/-! ## Values -/

def isKeyStart (c : Char) : Bool := c.isLower || c = '*'

def isKeyChar (c : Char) : Bool :=
  isKeyStart c || c.isDigit || c = '_' || c = '-' || c = '.'

def isKey : Str → Bool
  | [] => false
  | c :: s => isKeyStart c && s.all isKeyChar

/-- Printable ASCII. -/
def isStringChar (c : Char) : Bool := 0x20 ≤ c.toNat && c.toNat ≤ 0x7E

def maxInteger : Nat := 999999999999999

abbrev Key := { s : Str // isKey s = true }

abbrev SfString := { s : Str // s.all isStringChar = true }

abbrev SfInteger := { n : Int // n.natAbs ≤ maxInteger }

inductive BareItem where
  | integer (n : SfInteger)
  | decimal (thousandths : Int)
  | string (s : SfString)
  | token (s : Str)
  | byteSequence (bytes : Bytes)
  | boolean (b : Bool)
  | date (seconds : Int)
  | displayString (s : Str)
  deriving DecidableEq

abbrev Parameters := KeyedMap Key BareItem

structure Item where
  bareItem : BareItem
  params : Parameters
  deriving DecidableEq

structure InnerList where
  items : List Item
  params : Parameters
  deriving DecidableEq

inductive ListEntry where
  | item (item : Item)
  | innerList (list : InnerList)
  deriving DecidableEq

abbrev Dictionary := KeyedMap Key ListEntry

/-- Lookup by the text of a key. -/
def lookup {ν : Type} (m : KeyedMap Key ν) (name : Str) : Option ν :=
  if h : isKey name = true then m.get ⟨name, h⟩ else none

/-! ## Serializing -/

def serializeString (s : Str) : Str :=
  '"' :: s.flatMap (fun c => if c = '"' ∨ c = '\\' then ['\\', c] else [c]) ++ ['"']

/-- `none` for the kinds of bare items the reference does not cover. -/
def serializeBareItem : BareItem → Option Str
  | .integer n => some (Text.decimalInt n.1)
  | .string s => some (serializeString s.1)
  | .token s => some s
  | .byteSequence bytes => some (':' :: Base64.encode Base64.standard bytes ++ [':'])
  | .boolean b => some (if b then text "?1" else text "?0")
  | .decimal _ | .date _ | .displayString _ => none

def serializeParameter (p : Key × BareItem) : Option Str :=
  if p.2 = .boolean true then some (';' :: p.1.1)
  else do
    let value ← serializeBareItem p.2
    some (';' :: p.1.1 ++ '=' :: value)

def serializeParameters (params : Parameters) : Option Str := do
  let parts ← params.entries.mapM serializeParameter
  some parts.flatten

def serializeItem (item : Item) : Option Str := do
  let bare ← serializeBareItem item.bareItem
  let params ← serializeParameters item.params
  some (bare ++ params)

def joinItems : List Str → Str
  | [] => []
  | [s] => s
  | s :: t :: rest => s ++ ' ' :: joinItems (t :: rest)

def serializeInnerList (list : InnerList) : Option Str := do
  let items ← list.items.mapM serializeItem
  let params ← serializeParameters list.params
  some ('(' :: joinItems items ++ ')' :: params)

/-- A dictionary whose only member is an inner list. -/
def serializeDictInnerList (key : Key) (list : InnerList) : Option Str := do
  let value ← serializeInnerList list
  some (key.1 ++ '=' :: value)

/-- A dictionary whose only member is a byte sequence. -/
def serializeDictBytes (key : Key) (bytes : Bytes) : Option Str := do
  let value ← serializeBareItem (.byteSequence bytes)
  some (key.1 ++ '=' :: value)

/-! ## Parsing -/

/-- The longest prefix whose characters satisfy a test, and the rest. -/
def spanChars (p : Char → Bool) : Str → Str × Str
  | [] => ([], [])
  | c :: s =>
      if p c then
        let parts := spanChars p s
        (c :: parts.1, parts.2)
      else ([], c :: s)

def dropSpaces : Str → Str
  | [] => []
  | c :: s => if c = ' ' then dropSpaces s else c :: s

/-- Spaces and tabs. -/
def dropOws : Str → Str
  | [] => []
  | c :: s => if c = ' ' ∨ c = '\t' then dropOws s else c :: s

def parseKey (s : Str) : Option (Key × Str) :=
  let parts := spanChars isKeyChar s
  if h : isKey parts.1 = true then some (⟨parts.1, h⟩, parts.2) else none

def parseStringBody : Str → Option (Str × Str)
  | [] => none
  | '"' :: s => some ([], s)
  | '\\' :: s =>
      match s with
      | '"' :: s => (parseStringBody s).map fun parts => ('"' :: parts.1, parts.2)
      | '\\' :: s => (parseStringBody s).map fun parts => ('\\' :: parts.1, parts.2)
      | _ => none
  | c :: s =>
      if isStringChar c then (parseStringBody s).map fun parts => (c :: parts.1, parts.2)
      else none

def parseString (s : Str) : Option (BareItem × Str) := do
  let parts ← parseStringBody s
  if h : parts.1.all isStringChar = true then some (.string ⟨parts.1, h⟩, parts.2) else none

/-- An unsigned integer of at most fifteen digits, not followed by a fraction. -/
def parseNatural (s : Str) : Option (Nat × Str) :=
  let parts := spanChars Char.isDigit s
  if parts.1 = [] ∨ 15 < parts.1.length ∨ parts.2.head? = some '.' then none
  else some (Nat.ofDigitChars 10 parts.1 0, parts.2)

def parseInteger (s : Str) : Option (BareItem × Str) := do
  let (n, rest) ← match s with
    | '-' :: s => (parseNatural s).map fun parts => (-(parts.1 : Int), parts.2)
    | s => (parseNatural s).map fun parts => ((parts.1 : Int), parts.2)
  if h : n.natAbs ≤ maxInteger then some (.integer ⟨n, h⟩, rest) else none

def parseByteSequence (s : Str) : Option (BareItem × Str) :=
  let parts := spanChars (· ≠ ':') s
  match parts.2 with
  | _ :: rest => (Base64.decode Base64.standard parts.1).map fun bytes =>
      (.byteSequence bytes, rest)
  | [] => none

def isTokenChar (c : Char) : Bool :=
  c.isAlphanum || (text "!#$%&'*+-.^_`|~:/").contains c

def parseBareItem : Str → Option (BareItem × Str)
  | [] => none
  | '"' :: s => parseString s
  | ':' :: s => parseByteSequence s
  | '?' :: s =>
      match s with
      | '1' :: s => some (.boolean true, s)
      | '0' :: s => some (.boolean false, s)
      | _ => none
  | c :: s =>
      if c = '-' ∨ c.isDigit = true then parseInteger (c :: s)
      else if c.isAlpha = true ∨ c = '*' then
        let parts := spanChars isTokenChar (c :: s)
        some (.token parts.1, parts.2)
      else none

def parseParameters : Nat → Str → Parameters → Option (Parameters × Str)
  | 0, _, _ => none
  | fuel + 1, s, acc =>
      match s with
      | ';' :: s => do
          let (key, s) ← parseKey (dropSpaces s)
          match s with
          | '=' :: s =>
              let (value, s) ← parseBareItem s
              parseParameters fuel s (acc.upsert key value)
          | s => parseParameters fuel s (acc.upsert key (.boolean true))
      | s => some (acc, s)

def parseItem (fuel : Nat) (s : Str) : Option (Item × Str) := do
  let (bareItem, s) ← parseBareItem s
  let (params, s) ← parseParameters fuel s .empty
  some (⟨bareItem, params⟩, s)

def parseItems : Nat → Str → Option (List Item × Str)
  | 0, _ => none
  | fuel + 1, s =>
      match dropSpaces s with
      | ')' :: s => some ([], s)
      | s => do
          let (item, s) ← parseItem fuel s
          match s with
          | ' ' :: s => do
              let (items, s) ← parseItems fuel s
              some (item :: items, s)
          | ')' :: s => some ([item], s)
          | _ => none

def parseItemOrInnerList (fuel : Nat) (s : Str) : Option (ListEntry × Str) :=
  match s with
  | '(' :: s => do
      let (items, s) ← parseItems fuel s
      let (params, s) ← parseParameters fuel s .empty
      some (.innerList ⟨items, params⟩, s)
  | s => (parseItem fuel s).map fun parts => (.item parts.1, parts.2)

def parseMember (fuel : Nat) (s : Str) : Option (Key × ListEntry × Str) := do
  let (key, s) ← parseKey s
  match s with
  | '=' :: s =>
      let (entry, s) ← parseItemOrInnerList fuel s
      some (key, entry, s)
  | s =>
      let (params, s) ← parseParameters fuel s .empty
      some (key, .item ⟨.boolean true, params⟩, s)

def parseMembers : Nat → Str → Dictionary → Option Dictionary
  | 0, _, _ => none
  | fuel + 1, s, acc => do
      let (key, entry, s) ← parseMember fuel s
      match dropOws s with
      | [] => some (acc.upsert key entry)
      | ',' :: s =>
          match dropOws s with
          | [] => none
          | s => parseMembers fuel s (acc.upsert key entry)
      | _ => none

def parseDictionary (s : Str) : Option Dictionary :=
  match dropSpaces s with
  | [] => some .empty
  | s => parseMembers (s.length + 1) s .empty

/-! ## Round trips of the parts -/

/-- The continuations that do not extend a text whose characters satisfy `p`. -/
def Stops (p : Char → Bool) (rest : Str) : Prop := ∀ c ∈ rest.head?, p c = false

theorem spanChars_append {p : Char → Bool} {s rest : Str} (hs : ∀ c ∈ s, p c = true)
    (hrest : Stops p rest) : spanChars p (s ++ rest) = (s, rest) := by
  induction s with
  | nil =>
      cases rest with
      | nil => rfl
      | cons c rest => simp [spanChars, hrest c rfl]
  | cons c s ih =>
      have hc := hs c (by simp)
      simp [spanChars, hc, ih fun d hd => hs d (List.mem_cons_of_mem c hd)]

theorem isKeyChar_of_isKey {s : Str} (h : isKey s = true) : ∀ c ∈ s, isKeyChar c = true := by
  cases s with
  | nil => simp
  | cons c s =>
      simp only [isKey, Bool.and_eq_true, List.all_eq_true] at h
      intro d hd
      rcases List.mem_cons.mp hd with rfl | hd
      · simp [isKeyChar, h.1]
      · exact h.2 d hd

theorem parseKey_append (key : Key) {rest : Str} (hrest : Stops isKeyChar rest) :
    parseKey (key.1 ++ rest) = some (key, rest) := by
  rw [parseKey, spanChars_append (isKeyChar_of_isKey key.2) hrest]
  simp [key.2]

theorem parseStringBody_append (s rest : Str) (hs : s.all isStringChar = true) :
    parseStringBody (s.flatMap (fun c => if c = '"' ∨ c = '\\' then ['\\', c] else [c]) ++
      '"' :: rest) = some (s, rest) := by
  induction s with
  | nil => rfl
  | cons c s ih =>
      simp only [List.all_cons, Bool.and_eq_true] at hs
      have htail := ih hs.2
      simp only [List.flatMap_cons, List.append_assoc]
      by_cases hquote : c = '"'
      · subst hquote
        simp [parseStringBody, htail]
      by_cases hslash : c = '\\'
      · subst hslash
        simp [parseStringBody, htail]
      rw [if_neg (by simp [hquote, hslash]), List.singleton_append, parseStringBody]
      · simp [hs.1, htail]
      · exact hquote
      · exact hslash

theorem parseNatural_append {n : Nat} (hn : n ≤ maxInteger) {rest : Str}
    (hrest : Stops (fun c => c.isDigit || c = '.') rest) :
    parseNatural (Text.decimal n ++ rest) = some (n, rest) := by
  have hdigits : ∀ c ∈ Text.decimal n, c.isDigit = true := fun c hc =>
    Nat.isDigit_of_mem_toDigits (by decide) (by decide) hc
  have hstop : Stops Char.isDigit rest := fun c hc => by
    have := hrest c hc
    simp only [Bool.or_eq_false_iff] at this
    exact this.1
  have hdot : rest.head? ≠ some '.' := fun hdot => by
    have := hrest '.' hdot
    simp at this
  have hlen : (Text.decimal n).length ≤ 15 :=
    (Nat.length_toDigits_le_iff (by decide) (by decide)).mpr (by simp [maxInteger] at hn; omega)
  rw [parseNatural, spanChars_append hdigits hstop]
  simp only [Text.decimal, Nat.toDigits_ne_nil, hdot, or_false, false_or]
  rw [if_neg (by simpa [Text.decimal] using hlen), Nat.ofDigitChars_ten_toDigits]

theorem parseInteger_append (n : SfInteger) {rest : Str}
    (hrest : Stops (fun c => c.isDigit || c = '.') rest) :
    parseInteger (Text.decimalInt n.1 ++ rest) = some (.integer n, rest) := by
  have hnat := parseNatural_append n.2 hrest
  have hcheck : ∀ m : Int, m = n.1 →
      (if h : m.natAbs ≤ maxInteger then some (BareItem.integer ⟨m, h⟩, rest) else none) =
        some (.integer n, rest) := by
    rintro m rfl
    rw [dif_pos n.2]
  by_cases hneg : n.1 < 0
  · have hvalue : -(n.1.natAbs : Int) = n.1 := by omega
    simp only [Text.decimalInt, hneg, if_true, List.cons_append, parseInteger, hnat]
    exact hcheck _ hvalue
  · obtain ⟨c, digits, hdigits⟩ : ∃ c digits, Text.decimal n.1.natAbs = c :: digits :=
      List.exists_cons_of_ne_nil Nat.toDigits_ne_nil
    have hc : c ≠ '-' := by
      rintro rfl
      have hmem : '-' ∈ Text.decimal n.1.natAbs := by simp [hdigits]
      have hdigit := Nat.isDigit_of_mem_toDigits (by decide) (by decide) hmem
      simp at hdigit
    rw [hdigits, List.cons_append] at hnat
    simp only [Text.decimalInt, hneg, if_false, hdigits, List.cons_append]
    rw [parseInteger]
    · have hvalue : (n.1.natAbs : Int) = n.1 := by omega
      rw [hnat]
      exact hcheck _ hvalue
    · exact fun s heq => hc (List.cons.inj heq).1

theorem parseByteSequence_append (bytes : Bytes) (rest : Str) :
    parseByteSequence (Base64.encode Base64.standard bytes ++ ':' :: rest) =
      some (.byteSequence bytes, rest) := by
  have hchars : ∀ c ∈ Base64.encode Base64.standard bytes, decide (c ≠ ':') = true := by
    have hall : ∀ d < 64, Base64.standard.getD d 'A' ≠ ':' := by decide +kernel
    intro c hc
    rw [decide_eq_true_eq]
    rcases List.mem_append.mp hc with hc | hc
    · obtain ⟨d, hd, rfl⟩ := Base64.mem_encodeNoPad hc
      exact hall d hd
    · rw [(List.mem_replicate.mp hc).2]
      decide
  rw [parseByteSequence, spanChars_append hchars (by simp [Stops])]
  simp [Base64.decode_encode Base64.standard_alphabet]

/-! ## Integers and strings as bare items -/

/-- An integer or a string. -/
def BareItem.Simple : BareItem → Prop
  | .integer _ | .string _ => True
  | _ => False

/-- The continuations that extend neither an integer nor a key. -/
def Delimits (rest : Str) : Prop :=
  ∀ c ∈ rest.head?, c = ';' ∨ c = ')' ∨ c = ' '

theorem Delimits.stops {p : Char → Bool} {rest : Str} (h : Delimits rest)
    (hp : p ';' = false ∧ p ')' = false ∧ p ' ' = false) : Stops p rest := by
  intro c hc
  rcases h c hc with rfl | rfl | rfl
  exacts [hp.1, hp.2.1, hp.2.2]

theorem delimits_nil : Delimits [] := by simp [Delimits]

theorem parseBareItem_string (s : SfString) (rest : Str) :
    parseBareItem (serializeString s.1 ++ rest) = some (.string s, rest) := by
  rw [serializeString, List.append_assoc, List.cons_append, List.singleton_append, parseBareItem,
    parseString, parseStringBody_append s.1 rest s.2, Option.bind_eq_bind, Option.bind_some,
    dif_pos s.2]

theorem parseBareItem_integer (n : SfInteger) {rest : Str} (hrest : Delimits rest) :
    parseBareItem (Text.decimalInt n.1 ++ rest) = some (.integer n, rest) := by
  have hparse := parseInteger_append n (hrest.stops (by decide))
  obtain ⟨c, s, heq, hc⟩ : ∃ c s, Text.decimalInt n.1 = c :: s ∧
      (c = '-' ∨ c.isDigit = true) := by
    unfold Text.decimalInt
    split_ifs with hneg
    · exact ⟨'-', _, rfl, .inl rfl⟩
    · obtain ⟨c, digits, hdigits⟩ : ∃ c digits, Text.decimal n.1.natAbs = c :: digits :=
        List.exists_cons_of_ne_nil Nat.toDigits_ne_nil
      have hmem : c ∈ Text.decimal n.1.natAbs := by simp [hdigits]
      exact ⟨c, digits, hdigits,
        .inr (Nat.isDigit_of_mem_toDigits (by decide) (by decide) hmem)⟩
  have hne : c ≠ '"' ∧ c ≠ ':' ∧ c ≠ '?' := by
    refine ⟨?_, ?_, ?_⟩ <;> rintro rfl <;> simp at hc
  rw [heq, List.cons_append] at hparse ⊢
  rw [parseBareItem, if_pos hc]
  · exact hparse
  · exact hne.1
  · exact hne.2.1
  · exact hne.2.2

/-- A simple bare item serializes, and parses back in front of a delimiter. -/
theorem parseBareItem_append {item : BareItem} (h : item.Simple) :
    ∃ out, serializeBareItem item = some out ∧
      ∀ rest, Delimits rest → parseBareItem (out ++ rest) = some (item, rest) := by
  cases item with
  | integer n => exact ⟨_, rfl, fun rest hrest => parseBareItem_integer n hrest⟩
  | string s => exact ⟨_, rfl, fun rest _ => parseBareItem_string s rest⟩
  | _ => exact h.elim

/-! ## Parameters -/

theorem dropSpaces_key (key : Key) (rest : Str) : dropSpaces (key.1 ++ rest) = key.1 ++ rest := by
  obtain ⟨s, hs⟩ := key
  cases s with
  | nil => simp [isKey] at hs
  | cons c s =>
      have hc : c ≠ ' ' := by
        rintro rfl
        simp [isKey, isKeyStart] at hs
      simp [dropSpaces, hc]

/-- Simple parameters with new keys are appended in order. -/
theorem parseParameters_append {entries : List (Key × BareItem)}
    (hsimple : ∀ p ∈ entries, p.2.Simple) :
    ∃ parts, entries.mapM serializeParameter = some parts ∧
      Delimits parts.flatten ∧ entries.length ≤ parts.flatten.length ∧
      ∀ (fuel : Nat) (rest : Str) (acc result : Parameters), entries.length < fuel →
        Stops (· = ';') rest → Delimits rest → result.entries = acc.entries ++ entries →
        parseParameters fuel (parts.flatten ++ rest) acc = some (result, rest) := by
  induction entries with
  | nil =>
      refine ⟨[], rfl, delimits_nil, le_refl 0,
        fun fuel rest acc result hfuel hstop _ hresult => ?_⟩
      obtain ⟨fuel, rfl⟩ : ∃ k, fuel = k + 1 := ⟨fuel - 1, by omega⟩
      have hacc : acc = result := KeyedMap.ext (by simpa using hresult.symm)
      rw [List.flatten_nil, List.nil_append, parseParameters, hacc]
      rintro s rfl
      simpa using hstop ';' rfl
  | cons p entries ih =>
      obtain ⟨parts, hparts, hdelimits, hlength, hparse⟩ := ih fun q hq =>
        hsimple q (List.mem_cons_of_mem p hq)
      obtain ⟨key, value⟩ := p
      have hvalue : value.Simple := hsimple (key, value) List.mem_cons_self
      obtain ⟨out, hout, hread⟩ := parseBareItem_append hvalue
      have htrue : value ≠ .boolean true := by
        rintro rfl
        exact hvalue
      refine ⟨(';' :: key.1 ++ '=' :: out) :: parts, ?_, by simp [Delimits], ?_, ?_⟩
      · simp [List.mapM_cons, serializeParameter, htrue, hout, hparts]
      · simp only [List.flatten_cons, List.length_append, List.length_cons]
        omega
      · intro fuel rest acc result hfuel hstop hrest hresult
        obtain ⟨fuel, rfl⟩ : ∃ k, fuel = k + 1 := ⟨fuel - 1, by simp at hfuel; omega⟩
        have hnew : key ∉ acc.entries.map Prod.fst := by
          have hnodup := result.nodup
          rw [hresult, List.map_append, List.nodup_append] at hnodup
          intro hmem
          exact hnodup.2.2 key hmem key (by simp) rfl
        have hkey : Stops isKeyChar ('=' :: (out ++ (parts.flatten ++ rest))) := by
          simp [Stops]
          decide
        have hnext : Delimits (parts.flatten ++ rest) := by
          intro c hc
          cases hflat : parts.flatten with
          | nil => exact hrest c (by simpa [hflat] using hc)
          | cons d s => exact hdelimits c (by simpa [hflat] using hc)
        simp only [List.flatten_cons, List.append_assoc, List.cons_append]
        rw [parseParameters, dropSpaces_key, parseKey_append key hkey]
        simp only [Option.bind_eq_bind, Option.bind_some]
        rw [hread _ hnext]
        simp only [Option.bind_some]
        refine hparse fuel rest _ result (by simp at hfuel; omega) hstop hrest ?_
        rw [hresult, KeyedMap.upsert_entries_of_absent value hnew, List.append_assoc]
        rfl

/-! ## Inner lists -/

/-- A list of strings without parameters, with integers and strings for its own. -/
structure InnerList.Simple (list : InnerList) : Prop where
  items : ∀ item ∈ list.items, item.params = .empty ∧ ∃ s, item.bareItem = .string s
  params : ∀ p ∈ list.params.entries, p.2.Simple

theorem parseParameters_stop {fuel : Nat} {rest : Str} (hfuel : 0 < fuel)
    (hstop : Stops (· = ';') rest) (acc : Parameters) :
    parseParameters fuel rest acc = some (acc, rest) := by
  obtain ⟨fuel, rfl⟩ : ∃ k, fuel = k + 1 := ⟨fuel - 1, by omega⟩
  rw [parseParameters]
  rintro s rfl
  simpa using hstop ';' rfl

/-- A string without parameters. -/
theorem parseItem_append {item : Item} (hparams : item.params = .empty)
    (hbare : ∃ s, item.bareItem = .string s) :
    ∃ out, serializeItem item = some ('"' :: out) ∧
      ∀ fuel rest, 0 < fuel → Stops (· = ';') rest →
        parseItem fuel ('"' :: out ++ rest) = some (item, rest) := by
  obtain ⟨bareItem, params⟩ := item
  obtain ⟨s, rfl⟩ := hbare
  obtain rfl : params = .empty := hparams
  refine ⟨s.1.flatMap (fun c => if c = '"' ∨ c = '\\' then ['\\', c] else [c]) ++ ['"'], ?_, ?_⟩
  · have hempty : serializeParameters .empty = some [] := rfl
    rw [serializeItem, hempty]
    simp [serializeBareItem, serializeString]
  · intro fuel rest hfuel hstop
    have hstring := parseBareItem_string s rest
    rw [serializeString] at hstring
    rw [parseItem]
    simp only [List.cons_append] at hstring ⊢
    rw [hstring]
    simp [parseParameters_stop hfuel hstop]

theorem parseItems_append {items : List Item}
    (hitems : ∀ item ∈ items, item.params = .empty ∧ ∃ s, item.bareItem = .string s) :
    ∃ outs, items.mapM serializeItem = some outs ∧ items.length ≤ (joinItems outs).length ∧
      ∀ fuel rest, items.length < fuel →
        parseItems fuel (joinItems outs ++ ')' :: rest) = some (items, rest) := by
  induction items with
  | nil =>
      refine ⟨[], rfl, le_refl 0, fun fuel rest hfuel => ?_⟩
      obtain ⟨fuel, rfl⟩ : ∃ k, fuel = k + 1 := ⟨fuel - 1, by omega⟩
      simp [joinItems, parseItems, dropSpaces]
  | cons item items ih =>
      obtain ⟨outs, houts, hlength, hparse⟩ := ih fun i hi =>
        hitems i (List.mem_cons_of_mem item hi)
      obtain ⟨hparams, hbare⟩ := hitems item List.mem_cons_self
      obtain ⟨out, hout, hread⟩ := parseItem_append hparams hbare
      have hspaces : ∀ t, dropSpaces ('"' :: t) = '"' :: t := fun t => by simp [dropSpaces]
      refine ⟨('"' :: out) :: outs, by simp [List.mapM_cons, hout, houts], ?_, ?_⟩
      · cases outs with
        | nil =>
            simp only [joinItems, List.length_nil, List.length_cons] at hlength ⊢
            omega
        | cons first outs =>
            simp only [joinItems, List.length_append, List.length_cons] at hlength ⊢
            omega
      · intro fuel rest hfuel
        obtain ⟨fuel, rfl⟩ : ∃ k, fuel = k + 1 := ⟨fuel - 1, by omega⟩
        cases items with
        | nil =>
            obtain rfl : outs = [] := by simpa using houts.symm
            have hitem := hread fuel (')' :: rest) (by simpa using hfuel) (by simp [Stops])
            simp only [joinItems, List.cons_append] at hitem ⊢
            rw [parseItems, hspaces]
            simp [hitem]
        | cons next items =>
            obtain ⟨first, outs, rfl⟩ : ∃ first outs', outs = first :: outs' := by
              simp only [List.mapM_cons, Option.bind_eq_bind, Option.bind_eq_some_iff,
                Option.pure_def, Option.some.injEq] at houts
              obtain ⟨first, _, outs', _, rfl⟩ := houts
              exact ⟨first, outs', rfl⟩
            simp only [List.length_cons] at hfuel
            have hitem := hread fuel (' ' :: (joinItems (first :: outs) ++ ')' :: rest))
              (by omega) (by simp [Stops])
            have htail := hparse fuel rest (by simp only [List.length_cons]; omega)
            simp only [joinItems, List.cons_append, List.append_assoc] at hitem ⊢
            rw [parseItems, hspaces]
            simp [hitem, htail]

/-- A simple inner list in the place of a dictionary member. -/
theorem parseItemOrInnerList_append {list : InnerList} (h : list.Simple) :
    ∃ out, serializeInnerList list = some ('(' :: out) ∧
      ∀ fuel, out.length < fuel →
        parseItemOrInnerList fuel ('(' :: out) = some (.innerList list, []) := by
  obtain ⟨outs, houts, hitemsLength, hitems⟩ := parseItems_append h.items
  obtain ⟨parts, hparts, _, hpartsLength, hparams⟩ := parseParameters_append h.params
  refine ⟨joinItems outs ++ ')' :: parts.flatten, ?_, fun fuel hfuel => ?_⟩
  · simp [serializeInnerList, serializeParameters, houts, hparts]
  · simp only [List.length_append, List.length_cons] at hfuel
    have hread := hparams fuel [] .empty list.params (by omega) (by simp [Stops]) delimits_nil
      (by simp [KeyedMap.empty])
    rw [List.append_nil] at hread
    rw [parseItemOrInnerList, hitems fuel _ (by omega)]
    simp [hread]

/-! ## Dictionaries with one member -/

/-- A member that reads to the end is the whole dictionary. -/
theorem parseDictionary_single (key : Key) {value : Str} {entry : ListEntry}
    (h : ∀ fuel, value.length < fuel → parseItemOrInnerList fuel value = some (entry, [])) :
    parseDictionary (key.1 ++ '=' :: value) = some (.single key entry) := by
  have hne : key.1 ++ '=' :: value ≠ [] := by simp
  have hkey : Stops isKeyChar ('=' :: value) := by
    simp [Stops]
    decide
  have hmember : parseMember (key.1 ++ '=' :: value).length (key.1 ++ '=' :: value) =
      some (key, entry, []) := by
    have hentry := h (key.1 ++ '=' :: value).length (by simp; omega)
    rw [parseMember, parseKey_append key hkey]
    simp only [Option.bind_eq_bind, Option.bind_some]
    rw [hentry, Option.bind_some]
  have hsingle : (KeyedMap.empty : Dictionary).upsert key entry = .single key entry :=
    KeyedMap.ext (KeyedMap.upsert_entries_of_absent entry (by simp [KeyedMap.empty]))
  rw [parseDictionary, dropSpaces_key]
  split
  · exact absurd ‹_› hne
  · rw [parseMembers, hmember]
    simp [dropOws, hsingle]

/-- Parsing inverts serializing, for one simple inner list. -/
theorem parseDictionary_serializeDictInnerList (key : Key) {list : InnerList} (h : list.Simple) :
    ∃ out, serializeDictInnerList key list = some out ∧
      parseDictionary out = some (.single key (.innerList list)) := by
  obtain ⟨out, hout, hparse⟩ := parseItemOrInnerList_append h
  refine ⟨key.1 ++ '=' :: '(' :: out, by simp [serializeDictInnerList, hout], ?_⟩
  refine parseDictionary_single key fun fuel hfuel => hparse fuel ?_
  simp only [List.length_cons] at hfuel
  omega

/-- Parsing inverts serializing, for one byte sequence. -/
theorem parseDictionary_serializeDictBytes (key : Key) (bytes : Bytes) :
    ∃ out, serializeDictBytes key bytes = some out ∧
      parseDictionary out =
        some (.single key (.item ⟨.byteSequence bytes, .empty⟩)) := by
  refine ⟨key.1 ++ '=' :: ':' :: Base64.encode Base64.standard bytes ++ [':'], ?_, ?_⟩
  · simp [serializeDictBytes, serializeBareItem]
  · rw [List.append_assoc, List.cons_append, List.cons_append]
    refine parseDictionary_single key fun fuel hfuel => ?_
    rw [parseItemOrInnerList, parseItem, parseBareItem, parseByteSequence_append]
    · have hread : parseParameters fuel [] .empty = some (.empty, []) :=
        parseParameters_stop (by omega) (by simp [Stops]) .empty
      simp [hread]
    · simp

/-- Two simple inner lists with one text are equal. -/
theorem serializeInnerList_injective {l l' : InnerList} (h : l.Simple) (h' : l'.Simple)
    {out : Str} (hl : serializeInnerList l = some out) (hl' : serializeInnerList l' = some out) :
    l = l' := by
  obtain ⟨t, ht, hparse⟩ := parseItemOrInnerList_append h
  obtain ⟨t', ht', hparse'⟩ := parseItemOrInnerList_append h'
  obtain rfl := Option.some.inj (hl.symm.trans ht)
  obtain rfl : t' = t := by simpa using ht'.symm.trans hl'
  have heq := (hparse _ (Nat.lt_succ_self _)).symm.trans (hparse' _ (Nat.lt_succ_self _))
  simpa using heq

/-! ## Printable output -/

/-- Printable ASCII that does not end in a space. -/
structure Printable (s : Str) : Prop where
  chars : ∀ c ∈ s, isStringChar c = true
  last : ∀ c ∈ s.getLast?, c ≠ ' '

theorem Printable.append {s t : Str} (hs : ∀ c ∈ s, isStringChar c = true) (ht : Printable t)
    (hne : t ≠ []) : Printable (s ++ t) where
  chars := fun c hc => (List.mem_append.mp hc).elim (hs c) (ht.chars c)
  last := by
    rw [List.getLast?_append_of_ne_nil _ hne]
    exact ht.last

theorem isStringChar_of_isDigit {c : Char} (h : c.isDigit = true) : isStringChar c = true := by
  have h' : '0'.toNat ≤ c.toNat ∧ c.toNat ≤ '9'.toNat := by
    simpa [Char.isDigit, UInt32.le_iff_toNat_le] using h
  have h0 : '0'.toNat = 48 := rfl
  have h9 : '9'.toNat = 57 := rfl
  simp only [isStringChar, Bool.and_eq_true, decide_eq_true_eq]
  omega

theorem isStringChar_of_isLower {c : Char} (h : c.isLower = true) : isStringChar c = true := by
  have h' : 'a'.toNat ≤ c.toNat ∧ c.toNat ≤ 'z'.toNat := by
    simpa [Char.isLower, UInt32.le_iff_toNat_le] using h
  have ha : 'a'.toNat = 97 := rfl
  have hz : 'z'.toNat = 122 := rfl
  simp only [isStringChar, Bool.and_eq_true, decide_eq_true_eq]
  omega

theorem isStringChar_of_isKeyChar {c : Char} (h : isKeyChar c = true) :
    isStringChar c = true := by
  simp only [isKeyChar, isKeyStart, Bool.or_eq_true, decide_eq_true_eq] at h
  rcases h with ((((h | rfl) | h) | rfl) | rfl) | rfl
  · exact isStringChar_of_isLower h
  · decide
  · exact isStringChar_of_isDigit h
  · decide
  · decide
  · decide

theorem printable_decimalInt (n : Int) :
    Printable (Text.decimalInt n) ∧ Text.decimalInt n ≠ [] := by
  have hdigits : ∀ k, ∀ c ∈ Text.decimal k, c.isDigit = true := fun k c hc =>
    Nat.isDigit_of_mem_toDigits (by decide) (by decide) hc
  have hne : ∀ k, Text.decimal k ≠ [] := fun k => Nat.toDigits_ne_nil
  have hnat : ∀ k, Printable (Text.decimal k) := fun k =>
    { chars := fun c hc => isStringChar_of_isDigit (hdigits k c hc)
      last := by
        rintro c hc rfl
        have := hdigits k ' ' (List.mem_of_getLast? hc)
        simp at this }
  unfold Text.decimalInt
  split_ifs
  · refine ⟨?_, by simp⟩
    exact Printable.append (s := ['-']) (by simp; decide) (hnat _) (hne _)
  · exact ⟨hnat _, hne _⟩

theorem printable_string (s : SfString) :
    Printable (serializeString s.1) ∧ serializeString s.1 ≠ [] := by
  have hchars := List.all_eq_true.mp s.2
  refine ⟨?_, by simp [serializeString]⟩
  rw [serializeString]
  refine Printable.append (fun c hc => ?_) ⟨by simp; decide, by simp⟩ (by simp)
  simp only [List.mem_cons, List.mem_flatMap] at hc
  rcases hc with rfl | ⟨d, hd, hc⟩
  · decide
  · split_ifs at hc
    · simp only [List.mem_cons, List.not_mem_nil, or_false] at hc
      rcases hc with rfl | rfl
      · decide
      · exact hchars c hd
    · obtain rfl := List.mem_singleton.mp hc
      exact hchars c hd

theorem printable_bareItem {item : BareItem} (h : item.Simple) {out : Str}
    (hout : serializeBareItem item = some out) : Printable out ∧ out ≠ [] := by
  cases item with
  | integer n => exact Option.some.inj hout ▸ printable_decimalInt n.1
  | string s => exact Option.some.inj hout ▸ printable_string s
  | _ => exact h.elim

theorem printable_parameter {p : Key × BareItem} (h : p.2.Simple) {out : Str}
    (hout : serializeParameter p = some out) : Printable out ∧ out ≠ [] := by
  have htrue : p.2 ≠ .boolean true := by
    intro heq
    rw [heq] at h
    exact h
  rw [serializeParameter, if_neg htrue] at hout
  simp only [Option.bind_eq_bind, Option.bind_eq_some_iff, Option.some.injEq] at hout
  obtain ⟨value, hvalue, rfl⟩ := hout
  obtain ⟨hprintable, hne⟩ := printable_bareItem h hvalue
  refine ⟨?_, by simp⟩
  have hsplit : ';' :: p.1.1 ++ '=' :: value = (';' :: p.1.1 ++ ['=']) ++ value := by simp
  rw [hsplit]
  refine Printable.append (fun c hc => ?_) hprintable hne
  simp only [List.cons_append, List.mem_cons, List.mem_append, List.not_mem_nil, or_false] at hc
  rcases hc with rfl | hc | rfl
  · decide
  · exact isStringChar_of_isKeyChar (isKeyChar_of_isKey p.1.2 c hc)
  · decide

theorem printable_parameters {entries : List (Key × BareItem)}
    (h : ∀ p ∈ entries, p.2.Simple) {parts : List Str}
    (hparts : entries.mapM serializeParameter = some parts) : Printable parts.flatten := by
  induction entries generalizing parts with
  | nil =>
      obtain rfl : parts = [] := by simpa using hparts.symm
      exact ⟨by simp, by simp⟩
  | cons p entries ih =>
      simp only [List.mapM_cons, Option.bind_eq_bind, Option.bind_eq_some_iff, Option.pure_def,
        Option.some.injEq] at hparts
      obtain ⟨first, hfirst, rest, hrest, rfl⟩ := hparts
      obtain ⟨hprintable, hne⟩ := printable_parameter (h p List.mem_cons_self) hfirst
      have htail := ih (fun q hq => h q (List.mem_cons_of_mem p hq)) hrest
      rw [List.flatten_cons]
      by_cases hnil : rest.flatten = []
      · rwa [hnil, List.append_nil]
      · exact Printable.append hprintable.chars htail hnil

theorem printable_joinItems {outs : List Str} (h : ∀ out ∈ outs, ∀ c ∈ out, isStringChar c = true) :
    ∀ c ∈ joinItems outs, isStringChar c = true := by
  fun_induction joinItems outs with
  | case1 => simp
  | case2 s => exact h s (by simp)
  | case3 s t rest ih =>
      intro c hc
      rcases List.mem_append.mp hc with hc | hc
      · exact h s (by simp) c hc
      · rcases List.mem_cons.mp hc with rfl | hc
        · decide
        · exact ih (fun out hout => h out (List.mem_cons_of_mem s hout)) c hc

theorem printable_items {items : List Item}
    (h : ∀ item ∈ items, item.params = .empty ∧ ∃ s, item.bareItem = .string s)
    {outs : List Str} (houts : items.mapM serializeItem = some outs) :
    ∀ out ∈ outs, ∀ c ∈ out, isStringChar c = true := by
  induction items generalizing outs with
  | nil =>
      obtain rfl : outs = [] := by simpa using houts.symm
      simp
  | cons item items ih =>
      simp only [List.mapM_cons, Option.bind_eq_bind, Option.bind_eq_some_iff, Option.pure_def,
        Option.some.injEq] at houts
      obtain ⟨first, hfirst, rest, hrest, rfl⟩ := houts
      have htail := ih (fun i hi => h i (List.mem_cons_of_mem item hi)) hrest
      obtain ⟨hparams, s, hs⟩ := h item List.mem_cons_self
      have hempty : serializeParameters .empty = some [] := rfl
      have hfirst' : first = serializeString s.1 := by
        rw [serializeItem, hs, hparams, hempty] at hfirst
        simpa [serializeBareItem] using hfirst.symm
      intro out hout
      rcases List.mem_cons.mp hout with rfl | hout
      · rw [hfirst']
        exact (printable_string s).1.chars
      · exact htail out hout

/-- A simple inner list is printed on one line, without a trailing space. -/
theorem printable_innerList {list : InnerList} (h : list.Simple) {out : Str}
    (hout : serializeInnerList list = some out) : Printable out := by
  simp only [serializeInnerList, serializeParameters, Option.bind_eq_bind, Option.bind_eq_some_iff,
    Option.some.injEq] at hout
  obtain ⟨outs, houts, flat, ⟨parts, hparts, rfl⟩, rfl⟩ := hout
  have hitems := printable_joinItems (printable_items h.items houts)
  have hparams := printable_parameters h.params hparts
  have hclose : Printable (')' :: parts.flatten) := by
    by_cases hnil : parts.flatten = []
    · rw [hnil]
      exact ⟨by simp; decide, by simp⟩
    · exact Printable.append (s := [')']) (by simp; decide) hparams hnil
  refine Printable.append (s := '(' :: joinItems outs) (fun c hc => ?_) hclose (by simp)
  rcases List.mem_cons.mp hc with rfl | hc
  · decide
  · exact hitems c hc

/-- A printed text starting with a key has nothing to trim. -/
theorem trimmed_of_printable {key : Key} {rest : Str} (h : Printable rest) (hne : rest ≠ []) :
    Text.Trimmed (key.1 ++ rest) := by
  have hwhitespace : ∀ c, isStringChar c = true → c ≠ ' ' → Text.isWhitespace c = false := by
    intro c hc hspace
    have hne : c.toNat ≠ 32 := fun heq => hspace (Char.toNat_inj.mp heq)
    simp only [isStringChar, Bool.and_eq_true, decide_eq_true_eq] at hc
    simp only [Text.isWhitespace, Bool.or_eq_false_iff, Bool.and_eq_false_iff,
      beq_eq_false_iff_ne, decide_eq_false_iff_not]
    omega
  obtain ⟨s, hs⟩ := key
  cases s with
  | nil => simp [isKey] at hs
  | cons c s =>
      have hc : Text.isWhitespace c = false := by
        refine hwhitespace c (isStringChar_of_isKeyChar (isKeyChar_of_isKey hs c (by simp))) ?_
        rintro rfl
        simp [isKey, isKeyStart] at hs
      have hlast : ∀ d ∈ (c :: s ++ rest).getLast?, Text.isWhitespace d = false := by
        intro d hd
        rw [List.getLast?_append_of_ne_nil _ hne] at hd
        exact hwhitespace d (h.chars d (List.mem_of_getLast? hd)) (h.last d hd)
      rw [Text.Trimmed, Text.trim, List.cons_append, List.dropWhile_cons_of_neg (by simp [hc]),
        List.rdropWhile_eq_self_iff]
      intro hne'
      have := hlast _ (List.getLast?_eq_getLast_of_ne_nil hne')
      simp [this]

theorem trimmed_serializeDictInnerList {key : Key} {list : InnerList} (h : list.Simple)
    {out : Str} (hout : serializeDictInnerList key list = some out) : Text.Trimmed out := by
  simp only [serializeDictInnerList, Option.bind_eq_bind, Option.bind_eq_some_iff,
    Option.some.injEq] at hout
  obtain ⟨value, hvalue, rfl⟩ := hout
  have hprintable := printable_innerList h hvalue
  obtain ⟨t, ht, _⟩ := parseItemOrInnerList_append h
  obtain rfl := Option.some.inj (hvalue.symm.trans ht)
  exact trimmed_of_printable
    (Printable.append (s := ['=']) (by simp; decide) hprintable (by simp)) (by simp)

end AquaAuth.Support.StructuredField
