import AquaAuth.Support.LeadingDigits
set_option autoImplicit false
/-!
# DER signatures

The strict encoding of two natural numbers as a SEQUENCE of two INTEGERs, in the short form of
lengths, and numbers in a fixed number of bytes.
-/

namespace AquaAuth.Support.Der

/-- The number that bytes write, most significant first. -/
def value (bytes : Bytes) : ℕ := Radix.value 256 (bytes.map UInt8.toNat)

/-- The bytes of a number, most significant first, without leading zeros. -/
def magnitude (v : ℕ) : Bytes := (Nat.digits 256 v).reverse.map UInt8.ofNat

/-- Bytes that need no leading zero to be a positive number. -/
def isPositive : Bytes → Bool
  | [] => false
  | b :: _ => b < 0x80

/-- The content of an INTEGER. -/
def content (v : ℕ) : Bytes := if isPositive (magnitude v) then magnitude v else 0 :: magnitude v

/-- An INTEGER. -/
def integer (v : ℕ) : Bytes := 0x02 :: UInt8.ofNat (content v).length :: content v

/-- A SEQUENCE of two INTEGERs. -/
def signature (r s : ℕ) : Bytes :=
  0x30 :: UInt8.ofNat (integer r ++ integer s).length :: (integer r ++ integer s)

/-- Contents that are the shortest for their number, which is not negative. -/
def isMinimal : Bytes → Bool
  | [] => false
  | [b] => b < 0x80
  | b :: c :: _ => b < 0x80 && (b ≠ 0 || 0x80 ≤ c)

/-- Read an INTEGER, and what follows it. -/
def decodeInteger : Bytes → Option (ℕ × Bytes)
  | tag :: len :: rest =>
      if tag = 0x02 ∧ len < 0x80 ∧ len.toNat ≤ rest.length ∧
        isMinimal (rest.take len.toNat) = true then
        some (value (rest.take len.toNat), rest.drop len.toNat)
      else none
  | _ => none

/-- Read a SEQUENCE of two INTEGERs and nothing else. -/
def decode : Bytes → Option (ℕ × ℕ)
  | tag :: len :: body =>
      if tag = 0x30 ∧ len < 0x80 ∧ len.toNat = body.length then
        match decodeInteger body with
        | some (r, rest) =>
            match decodeInteger rest with
            | some (s, []) => some (r, s)
            | _ => none
        | none => none
      else none
  | _ => none

/-- A number in `len` bytes. -/
def fixed (len v : ℕ) : Bytes := List.replicate (len - (magnitude v).length) 0 ++ magnitude v

/-! ## Numbers -/

theorem map_toNat_magnitude (v : ℕ) :
    (magnitude v).map UInt8.toNat = (Nat.digits 256 v).reverse := by
  rw [magnitude, List.map_map]
  conv_rhs => rw [← List.map_id (Nat.digits 256 v).reverse]
  apply List.map_congr_left
  intro d hd
  have hlt : d < 256 := Nat.digits_lt_base (by decide) (List.mem_reverse.mp hd)
  rw [Function.comp_apply, UInt8.toNat_ofNat', id_eq, Nat.mod_eq_of_lt hlt]

theorem value_magnitude (v : ℕ) : value (magnitude v) = v := by
  rw [value, map_toNat_magnitude, Radix.value, List.reverse_reverse, Nat.ofDigits_digits]

theorem length_magnitude_le {v n : ℕ} (h : v < 256 ^ n) : (magnitude v).length ≤ n := by
  rw [magnitude, List.length_map, List.length_reverse, Nat.digits_length_le_iff (by decide)]
  exact h

theorem value_replicate_append (k : ℕ) (bytes : Bytes) :
    value (List.replicate k 0 ++ bytes) = value bytes := by
  have hzero : Radix.value 256 (List.replicate k 0) = 0 := by
    rw [Radix.value, List.reverse_replicate, Nat.ofDigits_replicate_zero]
  rw [value, List.map_append, List.map_replicate, Radix.value_append]
  show Radix.value 256 (List.replicate k 0) * _ + _ = _
  rw [hzero, Nat.zero_mul, Nat.zero_add, value]

theorem value_fixed (len v : ℕ) : value (fixed len v) = v := by
  rw [fixed, value_replicate_append, value_magnitude]

theorem length_fixed {len v : ℕ} (h : v < 256 ^ len) : (fixed len v).length = len := by
  have hle := length_magnitude_le h
  rw [fixed, List.length_append, List.length_replicate]
  omega

theorem value_content (v : ℕ) : value (content v) = v := by
  unfold content
  split_ifs
  · exact value_magnitude v
  · exact (value_replicate_append 1 (magnitude v)).trans (value_magnitude v)

theorem length_content_le {v n : ℕ} (h : v < 256 ^ n) : (content v).length ≤ n + 1 := by
  have hle := length_magnitude_le h
  unfold content
  split_ifs
  · omega
  · rw [List.length_cons]
    omega

/-- The leading byte of a number is not zero. -/
theorem head_magnitude_ne_zero {v : ℕ} {b : UInt8} {bytes : Bytes} (h : magnitude v = b :: bytes) :
    b ≠ 0 := by
  rintro rfl
  have hdigits := map_toNat_magnitude v
  rw [h, List.map_cons] at hdigits
  have hrev : Nat.digits 256 v = (bytes.map UInt8.toNat).reverse ++ [0] := by
    rw [← List.reverse_cons, ← List.reverse_eq_iff, ← hdigits]
    rfl
  have hne : Nat.digits 256 v ≠ [] := by simp [hrev]
  have hlast := Nat.getLast_digit_ne_zero 256 (Nat.digits_ne_nil_iff_ne_zero.mp hne)
  simp only [hrev, List.getLast_append_singleton] at hlast
  exact hlast rfl

theorem isMinimal_content (v : ℕ) : isMinimal (content v) = true := by
  unfold content
  split_ifs with hpos
  · cases hm : magnitude v with
    | nil =>
        rw [hm] at hpos
        cases hpos
    | cons b bytes =>
        rw [hm] at hpos
        have hne := head_magnitude_ne_zero hm
        have hlt : b < 0x80 := of_decide_eq_true hpos
        cases bytes with
        | nil => exact hpos
        | cons c bytes => simp [isMinimal, hlt, hne]
  · cases hm : magnitude v with
    | nil => rfl
    | cons b bytes =>
        rw [hm] at hpos
        have hge : 0x80 ≤ b := UInt8.not_lt.mp fun hlt => hpos (decide_eq_true hlt)
        simp [isMinimal, hge]

/-! ## Signatures -/

theorem toNat_ofNat_of_lt {n : ℕ} (h : n < 0x80) :
    (UInt8.ofNat n).toNat = n ∧ UInt8.ofNat n < 0x80 := by
  have hn : (UInt8.ofNat n).toNat = n := by
    rw [UInt8.toNat_ofNat']
    omega
  refine ⟨hn, ?_⟩
  rw [UInt8.lt_iff_toNat_lt, hn]
  exact h

theorem decodeInteger_cons (tag len : UInt8) (rest : Bytes) : decodeInteger (tag :: len :: rest) =
    if tag = 0x02 ∧ len < 0x80 ∧ len.toNat ≤ rest.length ∧
      isMinimal (rest.take len.toNat) = true then
      some (value (rest.take len.toNat), rest.drop len.toNat)
    else none := rfl

theorem decodeInteger_integer {v : ℕ} (h : (content v).length < 0x80) (rest : Bytes) :
    decodeInteger (integer v ++ rest) = some (v, rest) := by
  obtain ⟨hlen, hshort⟩ := toNat_ofNat_of_lt h
  have htake : (content v ++ rest).take (content v).length = content v := List.take_left
  have hdrop : (content v ++ rest).drop (content v).length = rest := List.drop_left
  rw [integer, List.cons_append, List.cons_append, decodeInteger_cons, hlen, htake, hdrop,
    value_content, if_pos]
  refine ⟨rfl, hshort, ?_, isMinimal_content v⟩
  rw [List.length_append]
  exact Nat.le_add_right _ _

/-- The lengths of the numbers of a signature leave the length of the body short. -/
theorem length_integers_lt {r s : ℕ} (hr : r < 256 ^ 32) (hs : s < 256 ^ 32) :
    (integer r ++ integer s).length < 0x80 := by
  have hr' := length_content_le hr
  have hs' := length_content_le hs
  rw [List.length_append, integer, integer, List.length_cons, List.length_cons, List.length_cons,
    List.length_cons]
  omega

theorem decode_signature {r s : ℕ} (hr : r < 256 ^ 32) (hs : s < 256 ^ 32) :
    decode (signature r s) = some (r, s) := by
  obtain ⟨hlen, hshort⟩ := toNat_ofNat_of_lt (length_integers_lt hr hs)
  have hr' := length_content_le hr
  have hs' := length_content_le hs
  have hsecond := decodeInteger_integer (v := s) (by omega) []
  rw [List.append_nil] at hsecond
  have hcond : (0x30 : UInt8) = 0x30 ∧ UInt8.ofNat (integer r ++ integer s).length < 0x80 ∧
      (UInt8.ofNat (integer r ++ integer s).length).toNat = (integer r ++ integer s).length :=
    ⟨rfl, hshort, hlen⟩
  rw [signature, decode, if_pos hcond, decodeInteger_integer (by omega)]
  simp only [hsecond]

end AquaAuth.Support.Der
