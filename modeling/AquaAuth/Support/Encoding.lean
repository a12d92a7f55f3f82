import AquaAuth.Support.Text
set_option autoImplicit false
/-!
# Hexadecimal, base58btc and base64

The three text encodings of byte strings, as total functions with the decoding
errors a caller can observe.  Base58 is an instance of a change of radix that
keeps leading zeros; base64 works on groups of three bytes.
-/

namespace AquaAuth.Support

/-! ## Hexadecimal -/

namespace Hex

/-- Lowercase digit of a value below sixteen. -/
def digit (n : Nat) : Char :=
  if n < 10 then Char.ofNat (48 + n) else Char.ofNat (87 + n)

/-- Two lowercase digits for each byte. -/
def encode (bytes : Bytes) : Str :=
  bytes.flatMap fun b => [digit (b.toNat / 16), digit (b.toNat % 16)]

/-- Value of an ASCII hexadecimal digit of either case. -/
def value (b : UInt8) : Option Nat :=
  let n := b.toNat
  if 48 ≤ n ∧ n ≤ 57 then some (n - 48)
  else if 97 ≤ n ∧ n ≤ 102 then some (n - 87)
  else if 65 ≤ n ∧ n ≤ 70 then some (n - 55)
  else none

/-- Why a text is not hexadecimal. -/
inductive DecodeError where
  | invalidHexCharacter (c : Char) (index : Nat)
  | oddLength
  | invalidStringLength
  deriving DecidableEq, Repr

/-- Decode pairs of digits, `index` bytes into the text. -/
def decodePairs (index : Nat) : Bytes → Except DecodeError Bytes
  | hi :: lo :: rest =>
      match value hi with
      | none => .error (.invalidHexCharacter (Char.ofNat hi.toNat) index)
      | some h =>
          match value lo with
          | none => .error (.invalidHexCharacter (Char.ofNat lo.toNat) (index + 1))
          | some l => do
              let tail ← decodePairs (index + 2) rest
              pure (UInt8.ofNat (16 * h + l) :: tail)
  | _ => .ok []

/-- Decode a text of hexadecimal digits of either case. -/
def decode (s : Str) : Except DecodeError Bytes :=
  if Text.utf8Len s % 2 ≠ 0 then .error .oddLength
  else decodePairs 0 (Text.utf8 s)

/-- The characters hexadecimal texts are made of. -/
def isDigit (c : Char) : Bool :=
  ('0' ≤ c && c ≤ '9') || ('a' ≤ c && c ≤ 'f') || ('A' ≤ c && c ≤ 'F')

theorem isDigit_digit {n : Nat} (h : n < 16) : isDigit (digit n) = true := by
  interval_cases n <;> decide

theorem exists_digit_of_mem_encode {bytes : Bytes} {c : Char} (h : c ∈ encode bytes) :
    ∃ n < 16, c = digit n := by
  simp only [encode, List.mem_flatMap, List.mem_cons, List.not_mem_nil, or_false] at h
  obtain ⟨b, _, rfl | rfl⟩ := h
  · exact ⟨_, by have := b.toNat_lt; omega, rfl⟩
  · exact ⟨_, by omega, rfl⟩

theorem isDigit_of_mem_encode {bytes : Bytes} {c : Char} (h : c ∈ encode bytes) :
    isDigit c = true := by
  obtain ⟨n, hn, rfl⟩ := exists_digit_of_mem_encode h
  exact isDigit_digit hn

@[simp] theorem length_encode (bytes : Bytes) :
    (encode bytes).length = 2 * bytes.length := by
  simp [encode, List.length_flatMap]
  ring

/-- A byte below 128 is only ever the encoding of the ASCII character it names. -/
theorem eq_of_mem_utf8EncodeChar {c : Char} {b : UInt8}
    (hmem : b ∈ String.utf8EncodeChar c) (hb : b.toNat < 128) : c.toNat = b.toNat := by
  have hc : c.val.toNat = c.toNat := rfl
  simp only [String.utf8EncodeChar] at hmem
  split_ifs at hmem
  · simp only [List.mem_singleton] at hmem
    subst hmem
    simp only [hc, UInt8.toNat_ofNat'] at *
    omega
  all_goals
    simp only [List.mem_cons, List.not_mem_nil, or_false] at hmem
    rcases hmem with rfl | rfl | rfl | rfl <;>
      simp only [UInt8.toNat_ofNat'] at hb <;> omega

theorem decodePairs_value {index : Nat} {s out : Bytes} (h : decodePairs index s = .ok out)
    (heven : s.length % 2 = 0) : ∀ b ∈ s, (value b).isSome := by
  fun_induction decodePairs index s generalizing out with
  | case1 => simp at h
  | case2 => simp at h
  | case3 index hi lo rest h' hhi l hlo ih =>
      cases htail : decodePairs (index + 2) rest with
      | error e => simp [htail, bind, Except.bind] at h
      | ok tail =>
          have hrest := ih htail (by simp only [List.length_cons] at heven; omega)
          intro b hb
          simp only [List.mem_cons] at hb
          rcases hb with rfl | rfl | hb
          · simp [hhi]
          · simp [hlo]
          · exact hrest b hb
  | case4 s _ hshape =>
      match s, hshape, heven with
      | [], _, _ => simp
      | [_], _, heven => simp at heven
      | a :: b :: rest, hshape, _ => exact absurd rfl (hshape a b rest)

theorem isDigit_of_value {c : Char} {b : UInt8} (hc : c.toNat = b.toNat)
    (hv : (value b).isSome) : isDigit c = true := by
  have hle : ∀ d : Char, (d ≤ c ↔ d.toNat ≤ c.toNat) ∧ (c ≤ d ↔ c.toNat ≤ d.toNat) :=
    fun d => ⟨Iff.rfl, Iff.rfl⟩
  simp only [value] at hv
  simp only [isDigit, Bool.or_eq_true, Bool.and_eq_true, decide_eq_true_eq, (hle _).1,
    (hle _).2, hc]
  have h0 : '0'.toNat = 48 := rfl
  have h9 : '9'.toNat = 57 := rfl
  have ha : 'a'.toNat = 97 := rfl
  have hf : 'f'.toNat = 102 := rfl
  have hA : 'A'.toNat = 65 := rfl
  have hF : 'F'.toNat = 70 := rfl
  rw [h0, h9, ha, hf, hA, hF]
  split_ifs at hv <;> simp_all

/-- A text that decodes is made of hexadecimal digits. -/
theorem isDigit_of_decode {s : Str} {out : Bytes} (h : decode s = .ok out) :
    ∀ c ∈ s, isDigit c = true := by
  unfold decode at h
  split_ifs at h with hodd
  intro c hc
  have hvalues := decodePairs_value h (by simpa [Text.utf8Len] using hodd)
  obtain ⟨b, hb⟩ : ∃ b, b ∈ String.utf8EncodeChar c := by
    have hne : String.utf8EncodeChar c ≠ [] := by
      simp only [String.utf8EncodeChar]
      split_ifs <;> simp
    exact ⟨_, List.head_mem hne⟩
  have hv := hvalues b (List.mem_flatMap.mpr ⟨c, hc, hb⟩)
  refine isDigit_of_value (eq_of_mem_utf8EncodeChar hb ?_) hv
  simp only [value] at hv
  split_ifs at hv <;> simp_all <;> omega

/-! ### Reading back what was written -/

/-- A digit is one byte in UTF-8, and the byte has the value of the digit. -/
theorem utf8EncodeChar_of_isDigit {c : Char} (h : isDigit c = true) :
    ∃ b v, String.utf8EncodeChar c = [b] ∧ v < 16 ∧ value b = some v ∧ c.toLower = digit v := by
  have hle : ∀ d : Char, (d ≤ c ↔ d.toNat ≤ c.toNat) ∧ (c ≤ d ↔ c.toNat ≤ d.toNat) :=
    fun d => ⟨Iff.rfl, Iff.rfl⟩
  simp only [isDigit, Bool.or_eq_true, Bool.and_eq_true, decide_eq_true_eq, (hle _).1,
    (hle _).2] at h
  have hrange : (48 ≤ c.toNat ∧ c.toNat ≤ 57) ∨ (97 ≤ c.toNat ∧ c.toNat ≤ 102) ∨
      (65 ≤ c.toNat ∧ c.toNat ≤ 70) := by
    rcases h with (h | h) | h
    · exact .inl h
    · exact .inr (.inl h)
    · exact .inr (.inr h)
  rw [← Char.ofNat_toNat c]
  generalize c.toNat = n at hrange
  rcases hrange with ⟨h1, h2⟩ | ⟨h1, h2⟩ | ⟨h1, h2⟩
  · refine ⟨UInt8.ofNat n, n - 48, ?_⟩
    interval_cases n <;> decide
  · refine ⟨UInt8.ofNat n, n - 87, ?_⟩
    interval_cases n <;> decide
  · refine ⟨UInt8.ofNat n, n - 55, ?_⟩
    interval_cases n <;> decide

theorem utf8Len_of_digits {s : Str} (h : ∀ c ∈ s, isDigit c = true) :
    Text.utf8Len s = s.length := by
  induction s with
  | nil => rfl
  | cons c s ih =>
      obtain ⟨b, _, hb, _⟩ := utf8EncodeChar_of_isDigit (h c List.mem_cons_self)
      have htail := ih fun d hd => h d (List.mem_cons_of_mem c hd)
      simp only [Text.utf8Len, Text.utf8] at htail
      simp [Text.utf8Len, Text.utf8, hb, htail]

theorem decodePairs_of_digits : ∀ (s : Str) (index : Nat), (∀ c ∈ s, isDigit c = true) →
    s.length % 2 = 0 →
    ∃ bytes, decodePairs index (Text.utf8 s) = .ok bytes ∧ encode bytes = Text.asciiLower s
  | [], _, _, _ => ⟨[], rfl, rfl⟩
  | [_], _, _, heven => by simp at heven
  | hi :: lo :: s, index, hdigits, heven => by
      obtain ⟨a, h, ha, hh, hva, hlowera⟩ := utf8EncodeChar_of_isDigit (hdigits hi (by simp))
      obtain ⟨b, l, hb, hl, hvb, hlowerb⟩ := utf8EncodeChar_of_isDigit (hdigits lo (by simp))
      obtain ⟨bytes, hdecode, hencode⟩ := decodePairs_of_digits s (index + 2)
        (fun c hc => hdigits c (by simp [hc])) (by simp only [List.length_cons] at heven; omega)
      refine ⟨UInt8.ofNat (16 * h + l) :: bytes, ?_, ?_⟩
      · rw [Text.utf8] at hdecode
        simp [Text.utf8, ha, hb, decodePairs, hva, hvb, hdecode, bind, Except.bind, pure,
          Except.pure]
      · have hbyte : (UInt8.ofNat (16 * h + l)).toNat = 16 * h + l := by
          rw [UInt8.toNat_ofNat']
          omega
        have hhigh : (16 * h + l) / 16 = h := by omega
        have hlow : (16 * h + l) % 16 = l := by omega
        simp only [encode] at hencode
        rw [encode, List.flatMap_cons, hbyte, hhigh, hlow, hencode, Text.asciiLower,
          Text.asciiLower, List.map_cons, List.map_cons, hlowera, hlowerb]
        rfl

theorem encode_injective {a b : Bytes} (h : encode a = encode b) : a = b := by
  have hinj : ∀ m < 16, ∀ n < 16, digit m = digit n → m = n := by decide
  induction a generalizing b with
  | nil =>
      cases b with
      | nil => rfl
      | cons y b => simp [encode] at h
  | cons x a ih =>
      cases b with
      | nil => simp [encode] at h
      | cons y b =>
          simp only [encode, List.flatMap_cons, List.cons_append, List.nil_append,
            List.cons.injEq] at h
          have hx := x.toNat_lt
          have hy := y.toNat_lt
          have hhigh := hinj _ (by omega) _ (by omega) h.1
          have hlow := hinj _ (by omega) _ (by omega) h.2.1
          have hxy : x.toNat = y.toNat := by omega
          rw [UInt8.toNat_inj.mp hxy, ih h.2.2]

/-- A text decodes to the bytes that its lowercase form encodes. -/
theorem decode_eq_ok {s : Str} {bytes : Bytes} :
    decode s = .ok bytes ↔ (∀ c ∈ s, isDigit c = true) ∧ Text.asciiLower s = encode bytes := by
  constructor
  · intro h
    have hdigits := isDigit_of_decode h
    have hlen := utf8Len_of_digits hdigits
    unfold decode at h
    split_ifs at h with hodd
    obtain ⟨bytes', hdecode, hencode⟩ := decodePairs_of_digits s 0 hdigits (by omega)
    rw [hdecode, Except.ok.injEq] at h
    exact ⟨hdigits, h ▸ hencode.symm⟩
  · rintro ⟨hdigits, hlower⟩
    have hlen := utf8Len_of_digits hdigits
    have heven : s.length = 2 * bytes.length := by
      rw [← length_encode, ← hlower, Text.asciiLower, List.length_map]
    obtain ⟨bytes', hdecode, hencode⟩ := decodePairs_of_digits s 0 hdigits (by omega)
    rw [decode, if_neg (by omega), hdecode, encode_injective (hencode.trans hlower)]

@[simp] theorem decode_encode (bytes : Bytes) : decode (encode bytes) = .ok bytes := by
  refine decode_eq_ok.mpr ⟨fun c hc => isDigit_of_mem_encode hc, ?_⟩
  have hlower : ∀ n < 16, (digit n).toLower = digit n := by decide
  rw [Text.asciiLower]
  conv_rhs => rw [← List.map_id (encode bytes)]
  refine List.map_congr_left fun c hc => ?_
  obtain ⟨n, hn, rfl⟩ := exists_digit_of_mem_encode hc
  exact hlower n hn

end Hex

/-! ## Change of radix -/

namespace Radix

/-- Rewrite a big-endian digit string from radix `b` to radix `d`, keeping one
zero digit for each leading zero. -/
def convert (b d : Nat) (digits : List Nat) : List Nat :=
  List.replicate (digits.takeWhile (· = 0)).length 0 ++
    (Nat.digits d (Nat.ofDigits b digits.reverse)).reverse

variable {b d : Nat}

/-- A digit string, as its leading zeros and the digits of the number it writes. -/
theorem eq_zeros_append (hb : 1 < b) {digits : List Nat} (h : ∀ x ∈ digits, x < b) :
    digits = List.replicate (digits.takeWhile (· = 0)).length 0 ++
      (Nat.digits b (Nat.ofDigits b digits.reverse)).reverse := by
  induction digits with
  | nil => simp
  | cons x digits ih =>
      by_cases hx : x = 0
      · subst hx
        have htail := ih fun y hy => h y (List.mem_cons_of_mem 0 hy)
        simp only [decide_true, List.takeWhile_cons_of_pos, List.length_cons,
          List.replicate_succ, List.reverse_cons, List.cons_append, List.cons.injEq, true_and]
        rw [Nat.ofDigits_append_zero]
        exact htail
      · have hdigits : Nat.digits b (Nat.ofDigits b (x :: digits).reverse) =
            (x :: digits).reverse := by
          refine Nat.digits_ofDigits b hb _ (fun y hy => h y (List.mem_reverse.mp hy)) ?_
          intro hne
          simpa using hx
        rw [hdigits]
        simp [hx]

theorem ofDigits_convert (digits : List Nat) :
    Nat.ofDigits d (convert b d digits).reverse = Nat.ofDigits b digits.reverse := by
  rw [convert, List.reverse_append, List.reverse_reverse, List.reverse_replicate,
    Nat.ofDigits_append_replicate_zero, Nat.ofDigits_digits]

theorem takeWhile_convert (digits : List Nat) :
    ((convert b d digits).takeWhile (· = 0)).length = (digits.takeWhile (· = 0)).length := by
  have hnone : (Nat.digits d (Nat.ofDigits b digits.reverse)).reverse.takeWhile (· = 0) = [] := by
    cases hrev : (Nat.digits d (Nat.ofDigits b digits.reverse)).reverse with
    | nil => rfl
    | cons x xs =>
        have hdigits : Nat.digits d (Nat.ofDigits b digits.reverse) = xs.reverse ++ [x] := by
          rw [← List.reverse_reverse (Nat.digits d _), hrev, List.reverse_cons]
        have hne : Nat.digits d (Nat.ofDigits b digits.reverse) ≠ [] := by simp [hdigits]
        have hlast := Nat.getLast_digit_ne_zero d (Nat.digits_ne_nil_iff_ne_zero.mp hne)
        simp only [hdigits, List.getLast_append_singleton] at hlast
        simp [hlast]
  rw [convert, List.takeWhile_append_of_pos (by simp), hnone]
  simp

/-- Changing the radix and back. -/
theorem convert_convert (hb : 1 < b) {digits : List Nat}
    (h : ∀ x ∈ digits, x < b) : convert d b (convert b d digits) = digits := by
  conv_rhs => rw [eq_zeros_append hb h]
  rw [convert, ofDigits_convert, takeWhile_convert]

theorem lt_of_mem_convert (hd : 1 < d) {digits : List Nat} :
    ∀ x ∈ convert b d digits, x < d := by
  intro x hx
  simp only [convert, List.mem_append, List.mem_replicate, List.mem_reverse] at hx
  rcases hx with ⟨_, rfl⟩ | hx
  · omega
  · exact Nat.digits_lt_base hd hx

end Radix

/-! ## base58btc -/

namespace Base58

/-- The Bitcoin base58 alphabet, in digit order. -/
def alphabet : Str :=
  "123456789ABCDEFGHJKLMNPQRSTUVWXYZabcdefghijkmnopqrstuvwxyz".toList

/-- Why a text is not base58. -/
inductive DecodeError where
  | invalidCharacter (c : Char) (index : Nat)
  | nonAsciiCharacter (index : Nat)
  deriving DecidableEq, Repr

/-- Digit values of a text, `index` characters in. -/
def digitValues (index : Nat) : Str → Except DecodeError (List Nat)
  | [] => .ok []
  | c :: s =>
      if 128 ≤ c.toNat then .error (.nonAsciiCharacter index)
      else
        match alphabet.idxOf? c with
        | none => .error (.invalidCharacter c index)
        | some value => do
            let values ← digitValues (index + 1) s
            pure (value :: values)

/-- Decode a base58 text: one zero byte for each leading `1`, then the bytes of
the number the text writes. -/
def decode (s : Str) : Except DecodeError Bytes := do
  let values ← digitValues 0 s
  pure ((Radix.convert 58 256 values).map UInt8.ofNat)

/-- Encode bytes as base58. -/
def encode (bytes : Bytes) : Str :=
  (Radix.convert 256 58 (bytes.map UInt8.toNat)).map fun d => alphabet.getD d '1'

theorem mem_alphabet_of_digitValues {index : Nat} {s : Str} {values : List Nat}
    (h : digitValues index s = .ok values) : ∀ c ∈ s, c ∈ alphabet := by
  fun_induction digitValues index s generalizing values with
  | case1 => simp
  | case2 => simp at h
  | case3 => simp at h
  | case4 index c s hascii value hvalue ih =>
      cases htail : digitValues (index + 1) s with
      | error e => simp [htail, bind, Except.bind] at h
      | ok tail =>
          have hc : c ∈ alphabet := by
            have hsome : (alphabet.idxOf? c).isSome := by simp [hvalue]
            simpa using hsome
          intro d hd
          rcases List.mem_cons.mp hd with rfl | hd
          · exact hc
          · exact ih htail d hd

/-- A text that decodes is written in the alphabet. -/
theorem mem_alphabet_of_decode {s : Str} {out : Bytes} (h : decode s = .ok out) :
    ∀ c ∈ s, c ∈ alphabet := by
  unfold decode at h
  cases hvalues : digitValues 0 s with
  | error e => simp [hvalues, bind, Except.bind] at h
  | ok values => exact mem_alphabet_of_digitValues hvalues

theorem alphabet_digit :
    ∀ n < 58, (alphabet.getD n '1').toNat < 128 ∧
      alphabet.idxOf? (alphabet.getD n '1') = some n := by
  decide

theorem digitValues_map (index : Nat) {values : List Nat} (h : ∀ x ∈ values, x < 58) :
    digitValues index (values.map fun n => alphabet.getD n '1') = .ok values := by
  induction values generalizing index with
  | nil => rfl
  | cons n values ih =>
      obtain ⟨hascii, hindex⟩ := alphabet_digit n (h n List.mem_cons_self)
      have htail := ih (index + 1) fun x hx => h x (List.mem_cons_of_mem n hx)
      simp only [List.map_cons, digitValues, hindex, htail, if_neg (Nat.not_le.mpr hascii)]
      rfl

theorem map_of_digitValues {index : Nat} {s : Str} {values : List Nat}
    (h : digitValues index s = .ok values) :
    (∀ x ∈ values, x < 58) ∧ s = values.map fun n => alphabet.getD n '1' := by
  fun_induction digitValues index s generalizing values with
  | case1 =>
      obtain rfl := Except.ok.inj h
      simp
  | case2 => simp at h
  | case3 => simp at h
  | case4 index c s hascii value hvalue ih =>
      cases htail : digitValues (index + 1) s with
      | error e => simp [htail, bind, Except.bind] at h
      | ok tail =>
          obtain ⟨hlt, hs⟩ := ih htail
          obtain rfl : value :: tail = values := by
            simpa [htail, bind, Except.bind, pure, Except.pure] using h
          obtain ⟨hidx, hget, _⟩ := List.idxOf?_eq_some_iff.mp hvalue
          have hbound : value < 58 := hidx
          refine ⟨by simpa using ⟨hbound, hlt⟩, ?_⟩
          rw [List.map_cons, ← hs, List.getD_eq_getElem _ _ hidx, hget]

@[simp] theorem decode_encode (bytes : Bytes) : decode (encode bytes) = .ok bytes := by
  have hbytes : ∀ x ∈ bytes.map UInt8.toNat, x < 256 := by
    intro x hx
    obtain ⟨b, _, rfl⟩ := List.mem_map.mp hx
    exact b.toNat_lt
  rw [decode, encode, digitValues_map 0 (Radix.lt_of_mem_convert (by decide))]
  change Except.ok _ = _
  rw [Radix.convert_convert (by decide) hbytes, List.map_map]
  simp [Function.comp_def]

/-- A text is the encoding of the bytes it decodes to. -/
theorem encode_of_decode {s : Str} {bytes : Bytes} (h : decode s = .ok bytes) :
    encode bytes = s := by
  unfold decode at h
  cases hvalues : digitValues 0 s with
  | error e => simp [hvalues, bind, Except.bind] at h
  | ok values =>
      obtain ⟨hlt, hs⟩ := map_of_digitValues hvalues
      rw [hvalues] at h
      obtain rfl : (Radix.convert 58 256 values).map UInt8.ofNat = bytes := Except.ok.inj h
      have hround : ((Radix.convert 58 256 values).map UInt8.ofNat).map UInt8.toNat =
          Radix.convert 58 256 values := by
        rw [List.map_map]
        conv_rhs => rw [← List.map_id (Radix.convert 58 256 values)]
        refine List.map_congr_left fun x hx => ?_
        have hx256 := Radix.lt_of_mem_convert (b := 58) (by decide) x hx
        simp only [Function.comp_apply, UInt8.toNat_ofNat', id_eq]
        omega
      rw [encode, hround, Radix.convert_convert (by decide) hlt, ← hs]

end Base58

/-! ## base64 -/

namespace Base64

/-- The standard alphabet. -/
def standard : Str :=
  "ABCDEFGHIJKLMNOPQRSTUVWXYZabcdefghijklmnopqrstuvwxyz0123456789+/".toList

/-- The URL-safe alphabet. -/
def urlSafe : Str :=
  "ABCDEFGHIJKLMNOPQRSTUVWXYZabcdefghijklmnopqrstuvwxyz0123456789-_".toList

/-- Sextets of a byte string, and how many padding characters complete the last
group of four. -/
def sextets : Bytes → List Nat × Nat
  | a :: b :: c :: rest =>
      let n := a.toNat * 65536 + b.toNat * 256 + c.toNat
      let tail := sextets rest
      (n / 262144 :: n / 4096 % 64 :: n / 64 % 64 :: n % 64 :: tail.1, tail.2)
  | [a, b] =>
      let n := a.toNat * 65536 + b.toNat * 256
      ([n / 262144, n / 4096 % 64, n / 64 % 64], 1)
  | [a] => ([a.toNat / 4, a.toNat % 4 * 16], 2)
  | [] => ([], 0)

/-- Base64 without padding. -/
def encodeNoPad (alphabet : Str) (bytes : Bytes) : Str :=
  (sextets bytes).1.map fun d => alphabet.getD d 'A'

/-- Base64 with `=` padding. -/
def encode (alphabet : Str) (bytes : Bytes) : Str :=
  encodeNoPad alphabet bytes ++ List.replicate (sextets bytes).2 '='

/-- Bytes of a sequence of sextets. -/
def fromSextets : List Nat → Option Bytes
  | a :: b :: c :: d :: rest =>
      let n := a * 262144 + b * 4096 + c * 64 + d
      (fromSextets rest).map fun tail =>
        UInt8.ofNat (n / 65536) :: UInt8.ofNat (n / 256 % 256) :: UInt8.ofNat (n % 256) :: tail
  | [a, b, c] =>
      let n := a * 262144 + b * 4096 + c * 64
      some [UInt8.ofNat (n / 65536), UInt8.ofNat (n / 256 % 256)]
  | [a, b] => some [UInt8.ofNat (a * 4 + b / 16)]
  | [_] => none
  | [] => some []

/-- Decode base64, with or without padding. -/
def decode (alphabet : Str) (s : Str) : Option Bytes := do
  let values ← (s.rdropWhile (· = '=')).mapM fun c => alphabet.idxOf? c
  fromSextets values

/-- Decode base64 without padding, refusing bits past the last byte that are not zero. -/
def decodeNoPad (alphabet : Str) (s : Str) : Option Bytes :=
  (decode alphabet s).filter fun bytes => encodeNoPad alphabet bytes = s

/-- Decode base64 with all of its padding, some of it or none, refusing bits past the last
byte that are not zero. -/
def decodeIndifferent (alphabet : Str) (s : Str) : Option Bytes :=
  (decode alphabet s).filter fun bytes =>
    encodeNoPad alphabet bytes = s.rdropWhile (· = '=') ∧
      s.length ≤ (encode alphabet bytes).length

theorem sextets_lt (bytes : Bytes) : ∀ d ∈ (sextets bytes).1, d < 64 := by
  fun_induction sextets bytes with
  | case1 a b c rest n tail ih =>
      have ha := a.toNat_lt
      have hb := b.toNat_lt
      have hc := c.toNat_lt
      simp only [List.mem_cons, forall_eq_or_imp]
      refine ⟨by omega, by omega, by omega, by omega, ih⟩
  | case2 a b n =>
      have ha := a.toNat_lt
      have hb := b.toNat_lt
      simp only [List.mem_cons, forall_eq_or_imp, List.not_mem_nil, false_imp_iff,
        implies_true, and_true]
      omega
  | case3 a =>
      have ha := a.toNat_lt
      simp only [List.mem_cons, forall_eq_or_imp, List.not_mem_nil, false_imp_iff,
        implies_true, and_true]
      omega
  | case4 => simp

private theorem ofNat_eq {b : UInt8} {n : Nat} (h : n = b.toNat) : UInt8.ofNat n = b := by
  rw [h, UInt8.ofNat_toNat]

theorem fromSextets_sextets (bytes : Bytes) : fromSextets (sextets bytes).1 = some bytes := by
  fun_induction sextets bytes with
  | case1 a b c rest n tail ih =>
      have ha := a.toNat_lt
      have hb := b.toNat_lt
      have hc := c.toNat_lt
      simp only [fromSextets, tail, ih, Option.map_some]
      rw [ofNat_eq (b := a) (by omega), ofNat_eq (b := b) (by omega),
        ofNat_eq (b := c) (by omega)]
  | case2 a b n =>
      have ha := a.toNat_lt
      have hb := b.toNat_lt
      simp only [fromSextets]
      rw [ofNat_eq (b := a) (by omega), ofNat_eq (b := b) (by omega)]
  | case3 a =>
      have ha := a.toNat_lt
      simp only [fromSextets]
      rw [ofNat_eq (b := a) (by omega)]
  | case4 => rfl

/-- An alphabet of sixty-four distinct characters other than the padding. -/
structure Alphabet (alphabet : Str) : Prop where
  index : ∀ d < 64, alphabet.idxOf? (alphabet.getD d 'A') = some d
  notPadding : ∀ d < 64, alphabet.getD d 'A' ≠ '='

theorem standard_alphabet : Alphabet standard where
  index := by decide
  notPadding := by decide

theorem urlSafe_alphabet : Alphabet urlSafe where
  index := by decide
  notPadding := by decide

theorem mem_encodeNoPad {alphabet : Str} {bytes : Bytes} {c : Char}
    (h : c ∈ encodeNoPad alphabet bytes) : ∃ d < 64, c = alphabet.getD d 'A' := by
  obtain ⟨d, hd, rfl⟩ := List.mem_map.mp h
  exact ⟨d, sextets_lt bytes d hd, rfl⟩

theorem rdropWhile_padded {alphabet : Str} (h : Alphabet alphabet) (bytes : Bytes) (n : Nat) :
    (encodeNoPad alphabet bytes ++ List.replicate n '=').rdropWhile (· = '=') =
      encodeNoPad alphabet bytes := by
  induction n with
  | zero =>
      rw [List.replicate_zero, List.append_nil, List.rdropWhile_eq_self_iff]
      intro hne
      obtain ⟨d, hd, hlast⟩ := mem_encodeNoPad (List.getLast_mem hne)
      rw [hlast]
      simpa using h.notPadding d hd
  | succ n ih =>
      rw [List.replicate_succ', ← List.append_assoc, List.rdropWhile_concat_pos _ _ _ (by simp)]
      exact ih

/-- Padding is dropped before decoding, so a text with or without it decodes. -/
theorem decode_padded {alphabet : Str} (h : Alphabet alphabet) (bytes : Bytes) (n : Nat) :
    decode alphabet (encodeNoPad alphabet bytes ++ List.replicate n '=') = some bytes := by
  have hvalues : ∀ values : List Nat, (∀ d ∈ values, d < 64) →
      (values.map fun d => alphabet.getD d 'A').mapM (fun c => alphabet.idxOf? c) =
        some values := by
    intro values hlt
    induction values with
    | nil => rfl
    | cons d values ih =>
        have htail := ih fun e he => hlt e (List.mem_cons_of_mem d he)
        rw [List.map_cons, List.mapM_cons, h.index d (hlt d List.mem_cons_self), htail]
        rfl
  rw [decode, rdropWhile_padded h, encodeNoPad, hvalues _ (sextets_lt bytes)]
  exact fromSextets_sextets bytes

theorem decode_encode {alphabet : Str} (h : Alphabet alphabet) (bytes : Bytes) :
    decode alphabet (encode alphabet bytes) = some bytes :=
  decode_padded h bytes _

theorem decode_encodeNoPad {alphabet : Str} (h : Alphabet alphabet) (bytes : Bytes) :
    decode alphabet (encodeNoPad alphabet bytes) = some bytes := by
  simpa using decode_padded h bytes 0

theorem decodeNoPad_encodeNoPad {alphabet : Str} (h : Alphabet alphabet) (bytes : Bytes) :
    decodeNoPad alphabet (encodeNoPad alphabet bytes) = some bytes := by
  simp [decodeNoPad, decode_encodeNoPad h]

theorem decodeIndifferent_encodeNoPad {alphabet : Str} (h : Alphabet alphabet) (bytes : Bytes) :
    decodeIndifferent alphabet (encodeNoPad alphabet bytes) = some bytes := by
  have hbody : (encodeNoPad alphabet bytes).rdropWhile (· = '=') = encodeNoPad alphabet bytes := by
    simpa using rdropWhile_padded h bytes 0
  simp [decodeIndifferent, decode_encodeNoPad h, hbody, encode]

end Base64

end AquaAuth.Support
