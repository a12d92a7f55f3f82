import AquaAuth.Model.DidMethod
set_option autoImplicit false
/-!
# Elements of did:peer:2

Which element of a variant 2 identifier `extract_z_body` takes the key from.
-/

namespace AquaAuth

open Support Support.Result

/-- The element is for verification. -/
def isVerification (element : Str) : Bool := (text "V").isPrefixOf element

/-- The body of an element, behind its first `z`. -/
def bodyOfElement (element : Str) : Option Str := (Text.splitOnceChar 'z' element).map Prod.snd

/-- The elements of `did:peer:2.{rest}`. -/
def peerElements (rest : Str) : List Str := rest.splitOn '.'

theorem bodyOfElement_verification (b : Str) : bodyOfElement (text "Vz" ++ b) = some b := by
  have hsplit : Text.splitOnceChar 'z' (text "Vz" ++ b) = some (text "V", b) :=
    Text.splitOnceChar_eq_some.mpr ⟨rfl, by decide⟩
  rw [bodyOfElement, hsplit, Option.map_some]

theorem bodyOfElement_eq_none {element : Str} : bodyOfElement element = none ↔ 'z' ∉ element := by
  rw [bodyOfElement, Option.map_eq_none_iff, Text.splitOnceChar_eq_none]

/-- The scan takes the first body among the verification elements. -/
theorem firstVerificationBody_eq (elements : List Str) :
    firstVerificationBody elements =
      (elements.filter isVerification).findSome? bodyOfElement := by
  induction elements with
  | nil => rfl
  | cons element elements ih =>
      unfold firstVerificationBody
      by_cases hv : (text "V").isPrefixOf element = true
      · have hkeep : isVerification element = true := hv
        rw [if_pos hv, List.filter_cons_of_pos hkeep, List.findSome?_cons, ← ih, bodyOfElement]
        cases Text.splitOnceChar 'z' element <;> rfl
      · have hdrop : ¬ isVerification element = true := hv
        rw [if_neg hv, List.filter_cons_of_neg hdrop, ih]

theorem extractZBody_peer2 (rest : Str) :
    extractZBody (text "did:peer:2." ++ rest) =
      okOr (.invalidDid (text "no V (verification) key found in did:peer variant 2: " ++
        (text "did:peer:2." ++ rest)))
        (((peerElements rest).filter isVerification).findSome? bodyOfElement) := by
  have hbody : Text.stripPrefix (text "did:peer:") (text "did:peer:2." ++ rest) =
      some (text "2." ++ rest) := Text.stripPrefix_append (text "did:peer:") (text "2." ++ rest)
  have hzero : Text.stripPrefix (text "0") (text "2." ++ rest) = none := by
    rw [Text.stripPrefix_eq_none]
    intro rest' h
    exact absurd (List.cons.inj h).1 (by decide)
  have htwo : Text.stripPrefix (text "2") (text "2." ++ rest) = some ('.' :: rest) :=
    Text.stripPrefix_append (text "2") ('.' :: rest)
  have hsplit : ('.' :: rest).splitOn '.' = [] :: rest.splitOn '.' := by
    rw [List.splitOn_cons_eq_if_modifyHead, if_pos (beq_self_eq_true '.')]
  rw [extractZBody, hbody, okOr_some, ok_bind, hzero]
  simp only [htwo]
  rw [hsplit, firstVerificationBody_eq, List.filter_cons_of_neg (by decide), peerElements]

theorem extractZBody_eq_ok {rest b : Str} :
    extractZBody (text "did:peer:2." ++ rest) = .ok b ↔
      ((peerElements rest).filter isVerification).findSome? bodyOfElement = some b := by
  rw [extractZBody_peer2, okOr_eq_ok]

/-- What is read of a variant 2 identifier: the first verification element, when it is `Vz` and a
body. -/
def FirstElementAuthenticates (rest : Str) : Prop :=
  ∀ b, extractZBody (text "did:peer:2." ++ rest) = .ok b ↔
    (peerElements rest).find? isVerification = some (text "Vz" ++ b)

/-- The first verification element decides: it is of the form `Vz`, or no verification element
has a `z`. -/
def FirstElementDecides (elements : List Str) : Prop :=
  (∃ b, elements.head? = some (text "Vz" ++ b)) ∨ ∀ element ∈ elements, 'z' ∉ element

theorem findSome?_eq_none_of_not_mem {elements : List Str}
    (h : ∀ element ∈ elements, 'z' ∉ element) :
    elements.findSome? bodyOfElement = none := by
  rw [List.findSome?_eq_none_iff]
  intro element helement
  exact bodyOfElement_eq_none.mpr (h element helement)

/-- The scan agrees with the first element exactly when that decides. -/
theorem findSome?_iff_head? {elements : List Str} :
    (∀ b, elements.findSome? bodyOfElement = some b ↔ elements.head? = some (text "Vz" ++ b)) ↔
      FirstElementDecides elements := by
  constructor
  · intro h
    cases hscan : elements.findSome? bodyOfElement with
    | some b => exact .inl ⟨b, (h b).mp hscan⟩
    | none =>
        right
        intro element helement
        exact bodyOfElement_eq_none.mp (List.findSome?_eq_none_iff.mp hscan element helement)
  · rintro (⟨b, hhead⟩ | hnone) b'
    · obtain ⟨elements, rfl⟩ := List.head?_eq_some_iff.mp hhead
      rw [List.findSome?_cons, bodyOfElement_verification, List.head?_cons, Option.some_inj,
        Option.some_inj, List.append_cancel_left_eq]
    · rw [findSome?_eq_none_of_not_mem hnone]
      constructor
      · intro h
        cases h
      · intro hhead
        have hmem := hnone _ (List.mem_of_head? hhead)
        exact absurd (List.mem_append_left b' (by decide : 'z' ∈ text "Vz")) hmem

/-- The elements of other purposes do not matter. -/
theorem extractZBody_congr {rest rest' : Str}
    (h : (peerElements rest).filter isVerification = (peerElements rest').filter isVerification) :
    (extractZBody (text "did:peer:2." ++ rest)).toOption =
      (extractZBody (text "did:peer:2." ++ rest')).toOption := by
  ext b
  rw [toOption_eq_some, toOption_eq_some, extractZBody_eq_ok, extractZBody_eq_ok, h]

/-- The first verification element authenticates exactly when it decides, and the elements of
other purposes never matter. -/
theorem firstElementAuthenticates_iff (rest : Str) :
    (FirstElementAuthenticates rest ↔
      FirstElementDecides ((peerElements rest).filter isVerification)) ∧
    ∀ rest',
      (peerElements rest).filter isVerification = (peerElements rest').filter isVerification →
        (extractZBody (text "did:peer:2." ++ rest)).toOption =
          (extractZBody (text "did:peer:2." ++ rest')).toOption := by
  refine ⟨?_, fun _ => extractZBody_congr⟩
  rw [← findSome?_iff_head?, List.head?_filter]
  unfold FirstElementAuthenticates
  simp only [extractZBody_eq_ok]

/-- A first verification element without a `z` is passed over. -/
theorem firstElementAuthenticates_fails : ¬ ∀ rest, FirstElementAuthenticates rest := by
  intro h
  have hread := (h (text "V6Mkf.Vz6MkpTHR8VNsBxYAAWHut2Geadd9jSwuBV8xRoAnwWsdvktH")
    (text "6MkpTHR8VNsBxYAAWHut2Geadd9jSwuBV8xRoAnwWsdvktH")).mp (by decide +kernel)
  exact absurd hread (by decide +kernel)

end AquaAuth
