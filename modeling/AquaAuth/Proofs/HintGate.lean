import AquaAuth.Model.Accessors
import AquaAuth.Support.HintBitUnpack
set_option autoImplicit false
/-!
# The hint gate

`hint_encoding_is_canonical` in four passes against the one loop of Algorithm 21, and its slices.
-/

namespace AquaAuth.Aqua

open Support Support.Result Support.Fips204

/-! ## The passes -/

theorem strictlyIncreasing_iff {bytes : Bytes} :
    strictlyIncreasing bytes = true ↔
      ∀ j, 0 < j → j < bytes.length → byteAt bytes (j - 1) < byteAt bytes j := by
  fun_induction strictlyIncreasing bytes with
  | case1 a b rest ih =>
      rw [Bool.and_eq_true, ih, decide_eq_true_iff]
      constructor
      · rintro ⟨hab, hrest⟩ j hpos hj
        match j with
        | 1 => exact hab
        | j + 2 => exact hrest (j + 1) (Nat.succ_pos j) (Nat.lt_of_succ_lt_succ hj)
      · intro h
        refine ⟨h 1 Nat.one_pos (by simp), ?_⟩
        intro j hpos hj
        obtain ⟨j, rfl⟩ := Nat.exists_eq_succ_of_ne_zero hpos.ne'
        exact h (j + 2) (by omega) (by simpa using hj)
  | case2 bytes hshort =>
      have hlen : bytes.length ≤ 1 := by
        match bytes, hshort with
        | [], _ => exact Nat.zero_le 1
        | [_], _ => exact le_refl 1
        | a :: b :: rest, hshort => exact absurd rfl (hshort a b rest)
      constructor
      · intro _ j hpos hj
        omega
      · intro _
        rfl

theorem byteAt_take {bytes : Bytes} {n j : ℕ} (h : j < n) :
    byteAt (bytes.take n) j = byteAt bytes j := by
  rw [byteAt, byteAt, List.getD_eq_getElem?_getD, List.getD_eq_getElem?_getD,
    List.getElem?_take_of_lt h]

theorem byteAt_drop {bytes : Bytes} {n j : ℕ} : byteAt (bytes.drop n) j = byteAt bytes (n + j) := by
  rw [byteAt, byteAt, List.getD_eq_getElem?_getD, List.getD_eq_getElem?_getD, List.getElem?_drop]

/-- The window of one polynomial. -/
theorem window_increasing_iff {indices : Bytes} {start stop : ℕ} (hstop : stop ≤ indices.length) :
    strictlyIncreasing ((indices.take stop).drop start) = true ↔
      ∀ j, start < j → j < stop → byteAt indices (j - 1) < byteAt indices j := by
  have hlen : ((indices.take stop).drop start).length = stop - start := by
    rw [List.length_drop, List.length_take, Nat.min_eq_left hstop]
  have hbyte : ∀ j, start + j < stop →
      byteAt ((indices.take stop).drop start) j = byteAt indices (start + j) := by
    intro j hj
    rw [byteAt_drop, byteAt_take hj]
  rw [strictlyIncreasing_iff, hlen]
  constructor
  · intro h j hstart hj
    have hwindow := h (j - start) (by omega) (by omega)
    rw [hbyte _ (by omega), hbyte _ (by omega)] at hwindow
    have hprev : start + (j - start - 1) = j - 1 := by omega
    have hcur : start + (j - start) = j := by omega
    rwa [hprev, hcur] at hwindow
  · intro h j hpos hj
    rw [hbyte _ (by omega), hbyte _ (by omega)]
    have hprev : start + (j - 1) = start + j - 1 := by omega
    rw [hprev]
    exact h (start + j) (by omega) (by omega)

section

variable {y : Bytes} {k ω : ℕ}

theorem drop_counts {i : ℕ} (h : ω + i < y.length) :
    y.drop (ω + i) = byteAt y (ω + i) :: y.drop (ω + (i + 1)) := by
  rw [List.drop_eq_getElem_cons h, byteAt, List.getD_eq_getElem _ _ h, Nat.add_assoc]

/-- The walk over the counts of `n` polynomials. -/
theorem walkCuts_eq_ok {m : ℕ} (n : ℕ) : ∀ i, y.length = omega + i + n →
    (walkCuts (countBefore y omega i) (y.drop (omega + i)) = .ok m ↔
      m = countBefore y omega (i + n) ∧ ∀ j, i ≤ j → j < i + n →
        countBefore y omega j ≤ countBefore y omega (j + 1) ∧
          countBefore y omega (j + 1) ≤ omega) := by
  induction n with
  | zero =>
      intro i hlen
      rw [List.drop_of_length_le (by omega), walkCuts, Nat.add_zero]
      constructor
      · intro h
        exact ⟨(Except.ok.inj h).symm, by omega⟩
      · rintro ⟨rfl, _⟩
        rfl
  | succ n ih =>
      intro i hlen
      have hcount : (byteAt y (omega + i)).toNat = countBefore y omega (i + 1) := rfl
      have hrest : i + (n + 1) = i + 1 + n := by omega
      rw [drop_counts (by omega), walkCuts, hcount, hrest]
      split_ifs with hmono hbound
      · constructor
        · intro h
          cases h
        · rintro ⟨_, h⟩
          have hi := h i (le_refl i) (by omega)
          omega
      · constructor
        · intro h
          cases h
        · rintro ⟨_, h⟩
          have hi := h i (le_refl i) (by omega)
          omega
      · rw [ih (i + 1) (by omega)]
        apply and_congr_right
        intro _
        constructor
        · intro h j hj hlt
          rcases Nat.eq_or_lt_of_le hj with rfl | hj
          · omega
          · exact h j hj hlt
        · intro h j hj
          exact h j (by omega)

/-- The walk over the windows of `n` polynomials. -/
theorem walkWindows_eq_ok (n : ℕ) : ∀ i, y.length = omega + i + n →
    (∀ j, i ≤ j → j < i + n → countBefore y omega (j + 1) ≤ omega) →
      (walkWindows (y.take omega) (countBefore y omega i) (y.drop (omega + i)) = .ok () ↔
        ∀ j, i ≤ j → j < i + n → ∀ t, countBefore y omega j < t → t < countBefore y omega (j + 1) →
          byteAt y (t - 1) < byteAt y t) := by
  induction n with
  | zero =>
      intro i hlen _
      rw [List.drop_of_length_le (by omega), walkWindows]
      constructor
      · intro _ j hj hlt
        omega
      · intro _
        rfl
  | succ n ih =>
      intro i hlen hbound
      have hcount : (byteAt y (omega + i)).toNat = countBefore y omega (i + 1) := rfl
      have hstop : countBefore y omega (i + 1) ≤ (y.take omega).length := by
        rw [List.length_take, Nat.min_eq_left (by omega)]
        exact hbound i (le_refl i) (by omega)
      have hwindow : strictlyIncreasing
          (((y.take omega).take (countBefore y omega (i + 1))).drop
            (countBefore y omega i)) = true ↔
            ∀ t, countBefore y omega i < t → t < countBefore y omega (i + 1) →
              byteAt y (t - 1) < byteAt y t := by
        rw [window_increasing_iff hstop]
        have hle : countBefore y omega (i + 1) ≤ omega := hbound i (le_refl i) (by omega)
        constructor
        · intro h t hstart ht
          have hlt := h t hstart ht
          rwa [byteAt_take (by omega), byteAt_take (by omega)] at hlt
        · intro h t hstart ht
          rw [byteAt_take (by omega), byteAt_take (by omega)]
          exact h t hstart ht
      have hih := ih (i + 1) (by omega) fun j hj hlt => hbound j (by omega) (by omega)
      rw [drop_counts (by omega), walkWindows, hcount]
      split_ifs with hinc
      · rw [hih]
        constructor
        · intro h j hj hlt
          rcases Nat.eq_or_lt_of_le hj with rfl | hj
          · exact hwindow.mp hinc
          · exact h j hj (by omega)
        · intro h j hj hlt
          exact h j (by omega) (by omega)
      · constructor
        · intro h
          cases h
        · intro h
          exact absurd (hwindow.mpr (h i (le_refl i) (by omega))) hinc

end

/-! ## The gate -/

/-- The trailing bytes that the gate reads. -/
def hintRegion (sig : ByteArr 4627) : Bytes := sig.1.drop hintOffset

theorem length_hintRegion (sig : ByteArr 4627) : (hintRegion sig).length = omega + k := by
  rw [hintRegion, List.length_drop, sig.2]
  rfl

/-- The gate lets through the canonical encodings. -/
theorem hintEncodingIsCanonical_eq_ok {sig : ByteArr 4627} :
    hintEncodingIsCanonical sig = .ok () ↔ Canonical k omega (hintRegion sig) := by
  have hlen : (hintRegion sig).length = omega + 0 + k := length_hintRegion sig
  have hcuts := fun m => walkCuts_eq_ok (m := m) k 0 hlen
  have hunused : ∀ m, (∀ b ∈ ((hintRegion sig).take omega).drop m, b = 0) ↔
      ∀ j, m ≤ j → j < omega → byteAt (hintRegion sig) j = 0 := by
    intro m
    have hlenIndices : ((hintRegion sig).take omega).length = omega := by
      rw [List.length_take, hlen]
      rfl
    constructor
    · intro h j hj hlt
      have hmem :
          byteAt ((hintRegion sig).take omega) j ∈ ((hintRegion sig).take omega).drop m := by
        have hj' : j < ((hintRegion sig).take omega).length := by rwa [hlenIndices]
        rw [byteAt, List.getD_eq_getElem _ _ hj', List.mem_drop_iff_getElem]
        exact ⟨j - m, by omega, by congr 1; omega⟩
      rw [← byteAt_take hlt]
      exact h _ hmem
    · intro h b hb
      obtain ⟨j, hj, rfl⟩ := List.mem_drop_iff_getElem.mp hb
      rw [hlenIndices] at hj
      have hzero := h (m + j) (by omega) (by omega)
      rw [← byteAt_take (by omega : m + j < omega), byteAt,
        List.getD_eq_getElem _ _ (by omega)] at hzero
      exact hzero
  constructor
  · intro h
    obtain ⟨m, hm, h⟩ := bind_eq_ok.mp h
    obtain ⟨u, hzero, hwindows⟩ := bind_eq_ok.mp h
    obtain ⟨rfl, hmono⟩ := (hcuts m).mp hm
    have hinc := (walkWindows_eq_ok k 0 hlen fun j hj hlt => (hmono j hj hlt).2).mp hwindows
    refine ⟨?_, (hunused _).mp (ensure_eq_ok.mp hzero)⟩
    intro i hi
    have hi' : i < 0 + k := by omega
    exact ⟨(hmono i (Nat.zero_le i) hi').1, (hmono i (Nat.zero_le i) hi').2,
      hinc i (Nat.zero_le i) hi'⟩
  · intro h
    have hrow : ∀ j, 0 ≤ j → j < 0 + k → RowCanonical (hintRegion sig) omega j := by
      intro j _ hj
      exact h.rows j (by omega)
    have hm :=
      (hcuts _).mpr ⟨rfl, fun j hj hlt => ⟨(hrow j hj hlt).monotone, (hrow j hj hlt).bounded⟩⟩
    have hwindows := (walkWindows_eq_ok k 0 hlen fun j hj hlt => (hrow j hj hlt).bounded).mpr
      fun j hj hlt => (hrow j hj hlt).increasing
    apply bind_eq_ok.mpr
    refine ⟨_, hm, bind_eq_ok.mpr ⟨(), ensure_pos ((hunused _).mpr ?_), hwindows⟩⟩
    intro j hj hlt
    exact h.unused j (by simpa using hj) hlt

/-! ## The slices -/

/-- Counts that the first walk lets through cut out windows in range. -/
theorem walkWindows?_eq {indices : Bytes} (hlen : indices.length = omega) {m : ℕ} (cuts : Bytes) :
    ∀ start, walkCuts start cuts = .ok m →
      walkWindows? indices start cuts = some (walkWindows indices start cuts) := by
  induction cuts with
  | nil => exact fun _ _ => rfl
  | cons cut cuts ih =>
      intro start h
      rw [walkCuts] at h
      split_ifs at h with hmono hbound
      have hslice : Slice.range? indices start cut.toNat =
          some ((indices.take cut.toNat).drop start) :=
        Slice.range?_eq_some (by omega) (by omega)
      rw [walkWindows?, hslice, walkWindows]
      show (if _ then _ else _) = some (if _ then _ else _)
      split_ifs
      · exact ih cut.toNat h
      · rfl

theorem le_of_walkCuts {m : ℕ} (cuts : Bytes) :
    ∀ running, running ≤ omega → walkCuts running cuts = .ok m → m ≤ omega := by
  induction cuts with
  | nil =>
      intro running hle h
      rwa [← Except.ok.inj h]
  | cons cut cuts ih =>
      intro running _ h
      rw [walkCuts] at h
      split_ifs at h with hmono hbound
      exact ih cut.toNat (by omega) h

theorem hintEncodingIsCanonical?_eq (sig : ByteArr 4627) :
    hintEncodingIsCanonical? sig = some (hintEncodingIsCanonical sig) := by
  have hlen := length_hintRegion sig
  have hindices : ((hintRegion sig).take omega).length = omega := by
    rw [List.length_take, hlen]
    rfl
  have hle : omega ≤ (hintRegion sig).length := by omega
  have hhint : Slice.from? sig.1 hintOffset = some (hintRegion sig) :=
    Slice.from?_eq_some (by rw [sig.2]; decide)
  have hgate : hintEncodingIsCanonical sig =
      (walkCuts 0 ((hintRegion sig).drop omega) >>= fun maxCut =>
        ensure (∀ b ∈ ((hintRegion sig).take omega).drop maxCut, b = 0) .unusedHintByteNonZero >>=
          fun _ => walkWindows ((hintRegion sig).take omega) 0 ((hintRegion sig).drop omega)) := rfl
  rw [hgate, hintEncodingIsCanonical?, hhint]
  simp only [Option.bind_eq_bind, Option.bind_some, if_pos hlen, Slice.to?_eq_some hle,
    Slice.from?_eq_some hle]
  cases hcuts : walkCuts 0 ((hintRegion sig).drop omega) with
  | error defect => rfl
  | ok maxCut =>
      have hmax : maxCut ≤ ((hintRegion sig).take omega).length := by
        rw [hindices]
        exact le_of_walkCuts _ 0 (Nat.zero_le omega) hcuts
      simp only [Slice.from?_eq_some hmax, Option.bind_some, ok_bind]
      split_ifs with hzero
      · rw [ensure_pos hzero, ok_bind, walkWindows?_eq hindices _ 0 hcuts]
      · rw [ensure_neg hzero]
        rfl

/-- The gate is Algorithm 21, and none of its slices is out of range. -/
theorem hintEncodingIsCanonical_iff (sig : ByteArr 4627) :
    (hintEncodingIsCanonical sig = .ok () ↔ (hintBitUnpack 8 75 (sig.1.drop 4544)).isSome = true) ∧
      hintEncodingIsCanonical? sig = some (hintEncodingIsCanonical sig) := by
  refine ⟨?_, hintEncodingIsCanonical?_eq sig⟩
  rw [hintBitUnpack_isSome_iff]
  exact hintEncodingIsCanonical_eq_ok

end AquaAuth.Aqua
