import AquaAuth.Support.Json
set_option autoImplicit false
/-!
# Deserialising JSON into structs

A JSON text as `serde_json` reads it, members in order and duplicates kept, and the reading
that serde derives for a struct: the members of an object by name, each at most once and
unknown ones skipped, or the items of an array by position.
-/

namespace AquaAuth.Support.Serde

inductive Value where
  | null
  | bool (b : Bool)
  | number (literal : Str)
  | string (s : Str)
  | array (items : List Value)
  | object (members : List (Str × Value))

/-- The `serde_json` crate: what it writes for a value and what it reads from a text. -/
structure Json where
  toVec : Value → Bytes
  fromSlice : Bytes → Except Str Value
  /-- The text of the error when the value read does not fit the type. -/
  dataError : Bytes → Str

namespace Value

def asStr : Value → Option Str
  | string s => some s
  | _ => none

/-- An `Option<bool>`. -/
def asOptionBool : Value → Option (Option Bool)
  | null => some none
  | bool b => some (some b)
  | _ => none

mutual

/-- The compact rendering of a value. -/
def compact : Value → Str
  | null => text "null"
  | bool true => text "true"
  | bool false => text "false"
  | number literal => literal
  | string s => Support.Json.quote s
  | array items => '[' :: ([','].intercalate (compactItems items) ++ [']'])
  | object members => '\x7b' :: ([','].intercalate (compactMembers members) ++ ['\x7d'])

def compactItems : List Value → List Str
  | [] => []
  | item :: items => compact item :: compactItems items

def compactMembers : List (Str × Value) → List Str
  | [] => []
  | (name, value) :: members =>
      (Support.Json.quote name ++ ':' :: compact value) :: compactMembers members

end

/-- The members a derived visitor keeps of the fields with these names. -/
def structMembers (names : List Str) : Value → Option (List (Str × Value))
  | object members =>
      let known := members.filter fun member => member.1 ∈ names
      if (known.map Prod.fst).Nodup then some known else none
  | array items => if items.length ≤ names.length then some (names.zip items) else none
  | _ => none

/-- A struct written field by field reads back field by field. -/
theorem structMembers_object {names : List Str} {members : List (Str × Value)}
    (h : members.map Prod.fst = names) (hnodup : names.Nodup) :
    structMembers names (.object members) = some members := by
  have hknown : members.filter (fun member => member.1 ∈ names) = members := by
    rw [List.filter_eq_self]
    intro member hmember
    rw [decide_eq_true_iff, ← h]
    exact List.mem_map_of_mem hmember
  simp only [structMembers, hknown, h, if_pos hnodup]

/-- The values of the members with a name. -/
def named (name : Str) (members : List (Str × Value)) : List Value :=
  (members.filter fun member => member.1 = name).map Prod.snd

/-- The member of an untyped object under a name: of several, the last. -/
def get (name : Str) : Value → Option Value
  | object members => (named name members).getLast?
  | _ => none

theorem mem_named {name : Str} {members : List (Str × Value)} {value : Value} :
    value ∈ named name members ↔ (name, value) ∈ members := by
  rw [named, List.mem_map]
  constructor
  · rintro ⟨⟨name', value'⟩, hkept, rfl⟩
    obtain ⟨hmem, hname⟩ := List.mem_filter.mp hkept
    obtain rfl : name' = name := of_decide_eq_true hname
    exact hmem
  · intro h
    exact ⟨(name, value), List.mem_filter.mpr ⟨h, decide_eq_true rfl⟩, rfl⟩

/-- Among members with different names, a name has the value that a lookup finds. -/
theorem named_of_nodup {name : Str} {members : List (Str × Value)}
    (h : (members.map Prod.fst).Nodup) :
    named name members = (members.lookup name).toList := by
  induction members with
  | nil => rfl
  | cons member members ih =>
      obtain ⟨key, value⟩ := member
      obtain ⟨hkey, hrest⟩ := List.nodup_cons.mp h
      by_cases hname : key = name
      · subst hname
        have hempty : members.filter (fun member => member.1 = key) = [] := by
          rw [List.filter_eq_nil_iff]
          intro other hother heq
          exact hkey (List.mem_map.mpr ⟨other, hother, of_decide_eq_true heq⟩)
        have hkeep : ((key, value) :: members).filter (fun member => member.1 = key) =
            (key, value) :: members.filter fun member => member.1 = key :=
          List.filter_cons_of_pos (by simp)
        rw [named, hkeep, hempty, List.lookup_cons_self]
        rfl
      · have hne : (name == key) = false := beq_false_of_ne (Ne.symm hname)
        rw [named, List.filter_cons_of_neg (by simpa using hname), List.lookup_cons, hne]
        exact ih hrest

/-- What the visitor keeps for a field is what the object has under its name. -/
theorem named_of_structMembers {names : List Str} {members known : List (Str × Value)}
    (h : structMembers names (.object members) = some known) {name : Str} (hname : name ∈ names) :
    named name members = (known.lookup name).toList := by
  rw [structMembers] at h
  split_ifs at h with hnodup
  obtain rfl := Option.some.inj h
  rw [← named_of_nodup hnodup, named, named, List.filter_filter]
  congr 2
  funext member
  by_cases heq : member.1 = name
  · rw [heq, decide_eq_true rfl, decide_eq_true hname]
    rfl
  · rw [decide_eq_false heq]
    rfl

end Value

end AquaAuth.Support.Serde
