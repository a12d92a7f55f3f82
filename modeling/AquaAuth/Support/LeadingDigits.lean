import AquaAuth.Support.Encoding
set_option autoImplicit false
/-!
# Leading digits

How many digits a number has in another radix, and which ones stand first, when its own leading
digits are given.
-/

namespace AquaAuth.Support.Radix

variable {b d : ℕ}

/-- The number that big-endian digits write. -/
def value (b : ℕ) (digits : List ℕ) : ℕ := Nat.ofDigits b digits.reverse

theorem value_append (b : ℕ) (xs ys : List ℕ) :
    value b (xs ++ ys) = value b xs * b ^ ys.length + value b ys := by
  rw [value, List.reverse_append, Nat.ofDigits_append, List.length_reverse, Nat.add_comm,
    Nat.mul_comm]
  rfl

theorem value_lt (hb : 1 < b) {digits : List ℕ} (h : ∀ x ∈ digits, x < b) :
    value b digits < b ^ digits.length := by
  have hlt := Nat.ofDigits_lt_base_pow_length (l := digits.reverse) hb fun x hx =>
    h x (List.mem_reverse.mp hx)
  rwa [List.length_reverse] at hlt

/-- What the digits after the leading ones leave open. -/
theorem value_bounds (pre : List ℕ) (hb : 1 < b) {rest : List ℕ} (h : ∀ x ∈ rest, x < b) :
    value b pre * b ^ rest.length ≤ value b (pre ++ rest) ∧
      value b (pre ++ rest) < (value b pre + 1) * b ^ rest.length := by
  have hrest := value_lt hb h
  rw [value_append, Nat.add_mul, Nat.one_mul]
  constructor
  · exact Nat.le_add_right _ _
  · omega

/-- A digit string without a leading zero is rewritten as the digits of its value. -/
theorem convert_eq_digits {x : ℕ} {digits : List ℕ} (hx : x ≠ 0) :
    convert b d (x :: digits) = (Nat.digits d (value b (x :: digits))).reverse := by
  have hnone : (x :: digits).takeWhile (· = 0) = [] := by
    rw [List.takeWhile_cons_of_neg]
    simpa using hx
  rw [convert, hnone]
  rfl

theorem drop_digits (hb : 1 < b) (k : ℕ) :
    ∀ n, (Nat.digits b n).drop k = Nat.digits b (n / b ^ k) := by
  induction k with
  | zero =>
      intro n
      rw [List.drop_zero, pow_zero, Nat.div_one]
  | succ k ih =>
      intro n
      rcases Nat.eq_zero_or_pos n with rfl | hpos
      · rw [Nat.digits_zero, Nat.zero_div, Nat.digits_zero, List.drop_nil]
      · rw [Nat.digits_def' hb hpos, List.drop_succ_cons, ih, Nat.div_div_eq_div_mul, ← pow_succ']

/-- The leading digits are those of the quotient by a power of the radix. -/
theorem digits_leading (hb : 1 < b) {n k q : ℕ} (hq : n / b ^ k = q) (hpos : 0 < q) :
    ∃ rest, rest.length = k ∧ (Nat.digits b n).reverse = (Nat.digits b q).reverse ++ rest := by
  have hdrop : (Nat.digits b n).drop k = Nat.digits b q := by rw [drop_digits hb, hq]
  have hlen : k < (Nat.digits b n).length := by
    by_contra hle
    rw [List.drop_of_length_le (Nat.le_of_not_lt hle)] at hdrop
    exact Nat.digits_ne_nil_iff_ne_zero.mpr hpos.ne' hdrop.symm
  refine ⟨((Nat.digits b n).take k).reverse, ?_, ?_⟩
  · rw [List.length_reverse, List.length_take, Nat.min_eq_left hlen.le]
  · rw [← hdrop, ← List.reverse_append, List.take_append_drop]

/-- The digits in front of a number in a range that shares its quotient. -/
theorem convert_leading (hb : 1 < b) (hd : 1 < d) {x : ℕ} {pre rest : List ℕ} (hx : x ≠ 0)
    (hrest : ∀ y ∈ rest, y < b) {k q : ℕ} (hpos : 0 < q)
    (hlow : q * d ^ k ≤ value b (x :: pre) * b ^ rest.length)
    (hhigh : (value b (x :: pre) + 1) * b ^ rest.length ≤ (q + 1) * d ^ k) :
    ∃ tail, tail.length = k ∧
      convert b d (x :: pre ++ rest) = (Nat.digits d q).reverse ++ tail := by
  obtain ⟨hge, hlt⟩ := value_bounds (x :: pre) hb hrest
  have hquot : value b (x :: pre ++ rest) / d ^ k = q := by
    apply Nat.div_eq_of_lt_le
    · exact hlow.trans hge
    · exact hlt.trans_le hhigh
  rw [List.cons_append, convert_eq_digits hx]
  exact digits_leading hd hquot hpos

/-- The number of digits, when there is no leading zero. -/
theorem lt_length_convert (hd : 1 < d) {x : ℕ} {digits : List ℕ} (hx : x ≠ 0) {k : ℕ} :
    k < (convert b d (x :: digits)).length ↔ d ^ k ≤ value b (x :: digits) := by
  rw [convert_eq_digits hx, List.length_reverse, Nat.lt_digits_length_iff hd]

end AquaAuth.Support.Radix

namespace AquaAuth.Support.Base58

/-- The characters for some digits. -/
def chars (digits : List ℕ) : Str := digits.map fun d => alphabet.getD d '1'

/-- The characters in front of the encoding of bytes that begin with `x :: pre`. -/
theorem encode_leading {x : UInt8} (pre rest : Bytes) (hx : x ≠ 0) (k q : ℕ) (hpos : 0 < q)
    (hlow : q * 58 ^ k ≤ Radix.value 256 ((x :: pre).map UInt8.toNat) * 256 ^ rest.length)
    (hhigh : (Radix.value 256 ((x :: pre).map UInt8.toNat) + 1) * 256 ^ rest.length ≤
      (q + 1) * 58 ^ k) :
    ∃ tail : Str, tail.length = k ∧
      encode (x :: pre ++ rest) = chars (Nat.digits 58 q).reverse ++ tail := by
  have hx' : x.toNat ≠ 0 := fun h => hx (UInt8.toNat_inj.mp h)
  have hrest : ∀ y ∈ rest.map UInt8.toNat, y < 256 := by
    intro y hy
    obtain ⟨c, _, rfl⟩ := List.mem_map.mp hy
    exact c.toNat_lt
  have hlen : (rest.map UInt8.toNat).length = rest.length := List.length_map _
  rw [← hlen] at hlow hhigh
  obtain ⟨tail, hlen, htail⟩ :=
    Radix.convert_leading (d := 58) (by decide) (by decide) hx' hrest hpos
    hlow hhigh
  refine ⟨chars tail, by rw [chars, List.length_map, hlen], ?_⟩
  have hmap : (x :: pre ++ rest).map UInt8.toNat =
      x.toNat :: pre.map UInt8.toNat ++ rest.map UInt8.toNat := by
    rw [List.map_append, List.map_cons]
  rw [encode, hmap, htail, List.map_append]
  rfl

/-- The length of the encoding of bytes without a leading zero. -/
theorem lt_length_encode {x : UInt8} {bytes : Bytes} (hx : x ≠ 0) {k : ℕ} :
    k < (encode (x :: bytes)).length ↔
      58 ^ k ≤ Radix.value 256 ((x :: bytes).map UInt8.toNat) := by
  have hx' : x.toNat ≠ 0 := fun h => hx (UInt8.toNat_inj.mp h)
  rw [encode, List.length_map, List.map_cons]
  exact Radix.lt_length_convert (by decide) hx'

theorem encode_injective {bytes bytes' : Bytes} (h : encode bytes = encode bytes') :
    bytes = bytes' := by
  have hdecode := congrArg decode h
  rw [decode_encode, decode_encode] at hdecode
  exact Except.ok.inj hdecode

theorem mem_alphabet_of_mem_encode {bytes : Bytes} : ∀ c ∈ encode bytes, c ∈ alphabet :=
  mem_alphabet_of_decode (decode_encode bytes)

end AquaAuth.Support.Base58
