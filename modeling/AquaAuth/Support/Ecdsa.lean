import Mathlib.Algebra.Field.ZMod
import Mathlib.Algebra.Module.Basic
set_option autoImplicit false
/-!
# ECDSA over a group of prime order

The textbook scheme: what a signature is, when it verifies and which key it recovers to,
over any group whose scalars are the integers modulo a prime and whose nonzero points have
coordinates.  Nothing depends on the curve the group comes from.
-/

namespace AquaAuth.Support.Ecdsa

variable {n : ℕ} {P : Type} [AddCommGroup P] [Module (ZMod n) P] [Fact n.Prime]

/-- The base point, and the coordinates of the points other than zero. -/
structure Curve (n : ℕ) (P : Type) [AddCommGroup P] [Module (ZMod n) P] where
  base : P
  x : P → ℕ
  yIsOdd : P → Bool
  x_neg : ∀ R, x (-R) = x R
  yIsOdd_neg : ∀ R, R ≠ 0 → yIsOdd (-R) = !yIsOdd R
  determined : ∀ R S, R ≠ 0 → S ≠ 0 → x R = x S → yIsOdd R = yIsOdd S → R = S

/-- Two scalars other than zero. -/
structure Signature (n : ℕ) where
  r : ZMod n
  s : ZMod n
  r_ne_zero : r ≠ 0
  s_ne_zero : s ≠ 0

namespace Signature

variable {sig : Signature n}

/-- The signature with `n - s` for `s`. -/
def neg (sig : Signature n) : Signature n :=
  ⟨sig.r, -sig.s, sig.r_ne_zero, neg_ne_zero.mpr sig.s_ne_zero⟩

/-- The second scalar is above half the order. -/
def IsHigh (sig : Signature n) : Prop := n / 2 < sig.s.val

@[simp] theorem neg_neg (sig : Signature n) : sig.neg.neg = sig := by
  simp [neg]

/-- Of a signature and its negation one is high. -/
theorem isHigh_neg (hodd : n ≠ 2) : sig.neg.IsHigh ↔ ¬ sig.IsHigh := by
  have hprime : n.Prime := Fact.out
  have hpos : 0 < sig.s.val := ZMod.val_pos.mpr sig.s_ne_zero
  have hlt : sig.s.val < n := ZMod.val_lt sig.s
  have hval : sig.neg.s.val = n - sig.s.val := by
    have hneg := ZMod.neg_val sig.s
    rwa [if_neg sig.s_ne_zero] at hneg
  have hhalf : n % 2 = 1 := hprime.eq_two_or_odd.resolve_left hodd
  unfold IsHigh
  rw [hval]
  omega

instance (sig : Signature n) : Decidable sig.IsHigh := inferInstanceAs (Decidable (_ < _))

/-- The form of the signature whose second scalar is not high. -/
def lowS (sig : Signature n) : Signature n := if sig.IsHigh then sig.neg else sig

theorem lowS_neg (hodd : n ≠ 2) : sig.neg.lowS = sig.lowS := by
  have hhigh : sig.neg.IsHigh ↔ ¬ sig.IsHigh := isHigh_neg hodd
  unfold lowS
  by_cases h : sig.IsHigh
  · rw [if_neg (fun hneg => hhigh.mp hneg h), if_pos h]
  · rw [if_pos (hhigh.mpr h), if_neg h, neg_neg]

end Signature

namespace Curve

variable (C : Curve n P)

/-- The key `Q` accepts the signature of the message scalar `z`. -/
def Verifies (Q : P) (z : ZMod n) (sig : Signature n) : Prop :=
  let R := (sig.s⁻¹ * z) • C.base + (sig.s⁻¹ * sig.r) • Q
  R ≠ 0 ∧ (C.x R : ZMod n) = sig.r

/-- The secret key `d` signs `z` with the nonce `k`. -/
def Signs (d k z : ZMod n) (sig : Signature n) : Prop :=
  (C.x (k • C.base) : ZMod n) = sig.r ∧ sig.s = k⁻¹ * (z + sig.r * d)

/-- The point whose `x` coordinate is `r`, of the given parity. -/
def Decompresses (r : ZMod n) (odd : Bool) (R : P) : Prop :=
  R ≠ 0 ∧ C.x R = r.val ∧ C.yIsOdd R = odd

/-- The key under which a signature made with the nonce point `R` verifies. -/
def candidate (z : ZMod n) (sig : Signature n) (R : P) : P :=
  sig.r⁻¹ • (sig.s • R - z • C.base)

/-- Recovery returns the key `Q`. -/
def Recovers (z : ZMod n) (sig : Signature n) (odd : Bool) (Q : P) : Prop :=
  ∃ R, C.Decompresses sig.r odd R ∧ Q = C.candidate z sig R ∧ Q ≠ 0

variable {C} {Q Q' R : P} {d k z : ZMod n} {sig : Signature n} {odd : Bool}

/-! ## Points -/

omit [Fact n.Prime] in
/-- No point other than zero is its own negation. -/
theorem ne_neg (hR : R ≠ 0) (C : Curve n P) : R ≠ -R := by
  intro h
  have hparity := C.yIsOdd_neg R hR
  rw [← h] at hparity
  simp at hparity

theorem order_ne_two (hR : R ≠ 0) (C : Curve n P) : n ≠ 2 := by
  intro hn
  apply ne_neg hR C
  have htwo : (2 : ZMod n) = 0 := by
    have hcast : ((2 : ℕ) : ZMod n) = 0 := (ZMod.natCast_eq_zero_iff 2 n).mpr (by rw [hn])
    exact_mod_cast hcast
  have hdouble : R + R = 0 := by
    rw [← two_smul (ZMod n) R, htwo, zero_smul]
  exact eq_neg_of_add_eq_zero_left hdouble

omit [Fact n.Prime] in
theorem Decompresses.neg {r : ZMod n} (h : C.Decompresses r odd R) :
    C.Decompresses r (!odd) (-R) := by
  obtain ⟨hR, hx, hparity⟩ := h
  refine ⟨neg_ne_zero.mpr hR, ?_, ?_⟩
  · rw [C.x_neg, hx]
  · rw [C.yIsOdd_neg R hR, hparity]

omit [Fact n.Prime] in
theorem Decompresses.unique {r : ZMod n} {S : P} (hR : C.Decompresses r odd R)
    (hS : C.Decompresses r odd S) : R = S := by
  apply C.determined R S hR.1 hS.1
  · rw [hR.2.1, hS.2.1]
  · rw [hR.2.2, hS.2.2]

/-! ## Recovered keys -/

theorem Recovers.unique (h : C.Recovers z sig odd Q) (h' : C.Recovers z sig odd Q') : Q = Q' := by
  obtain ⟨R, hR, hQ, _⟩ := h
  obtain ⟨S, hS, hQ', _⟩ := h'
  rw [hQ, hQ', hR.unique hS]

theorem smul_candidate : sig.r • C.candidate z sig R = sig.s • R - z • C.base := by
  rw [candidate, smul_smul, mul_inv_cancel₀ sig.r_ne_zero, one_smul]

/-- The verification equation gives back the nonce point. -/
theorem nonce_of_candidate :
    (sig.s⁻¹ * z) • C.base + (sig.s⁻¹ * sig.r) • C.candidate z sig R = R := by
  have hs : sig.s⁻¹ * sig.s = 1 := inv_mul_cancel₀ sig.s_ne_zero
  calc (sig.s⁻¹ * z) • C.base + (sig.s⁻¹ * sig.r) • C.candidate z sig R
      = sig.s⁻¹ • (z • C.base + sig.r • C.candidate z sig R) := by
        rw [smul_add, smul_smul, smul_smul]
    _ = sig.s⁻¹ • (sig.s • R) := by rw [smul_candidate, add_sub_cancel]
    _ = R := by rw [smul_smul, hs, one_smul]

theorem Recovers.verifies (h : C.Recovers z sig odd Q) : C.Verifies Q z sig := by
  obtain ⟨R, ⟨hR, hx, _⟩, rfl, _⟩ := h
  unfold Verifies
  rw [nonce_of_candidate]
  refine ⟨hR, ?_⟩
  rw [hx, ZMod.natCast_zmod_val]

/-- The two parities recover different keys. -/
theorem Recovers.ne (h : C.Recovers z sig odd Q) (h' : C.Recovers z sig (!odd) Q') : Q ≠ Q' := by
  obtain ⟨R, hR, hQ, _⟩ := h
  obtain ⟨S, hS, hQ', _⟩ := h'
  obtain rfl : -R = S := hR.neg.unique hS
  intro heq
  have hsame : C.candidate z sig R = C.candidate z sig (-R) := by rw [← hQ, ← hQ', heq]
  have hnonce : R = -R := by
    calc R = (sig.s⁻¹ * z) • C.base + (sig.s⁻¹ * sig.r) • C.candidate z sig R :=
          nonce_of_candidate.symm
      _ = -R := by rw [hsame, nonce_of_candidate]
  exact ne_neg hR.1 C hnonce

/-! ## The negated signature -/

theorem candidate_neg : C.candidate z sig.neg R = C.candidate z sig (-R) := by
  have hs : sig.neg.s • R = sig.s • -R := by
    show (-sig.s) • R = sig.s • -R
    rw [neg_smul, smul_neg]
  show sig.r⁻¹ • (sig.neg.s • R - z • C.base) = sig.r⁻¹ • (sig.s • -R - z • C.base)
  rw [hs]

/-- Negating a signature swaps the parities. -/
theorem recovers_neg : C.Recovers z sig.neg odd Q ↔ C.Recovers z sig (!odd) Q := by
  constructor
  · rintro ⟨R, hR, hQ, hne⟩
    exact ⟨-R, hR.neg, by rw [hQ, candidate_neg], hne⟩
  · rintro ⟨R, hR, hQ, hne⟩
    have hneg : C.Decompresses sig.r odd (-R) := by
      have hneg := hR.neg
      rwa [Bool.not_not] at hneg
    exact ⟨-R, hneg, by rw [candidate_neg, neg_neg, hQ], hne⟩

theorem verifies_neg : C.Verifies Q z sig.neg ↔ C.Verifies Q z sig := by
  have hpoint : (sig.neg.s⁻¹ * z) • C.base + (sig.neg.s⁻¹ * sig.neg.r) • Q =
      -((sig.s⁻¹ * z) • C.base + (sig.s⁻¹ * sig.r) • Q) := by
    show ((-sig.s)⁻¹ * z) • C.base + ((-sig.s)⁻¹ * sig.r) • Q = _
    rw [inv_neg, neg_mul, neg_mul, neg_smul, neg_smul, neg_add]
  simp only [Verifies, hpoint, C.x_neg, neg_ne_zero]
  rfl

theorem verifies_lowS : C.Verifies Q z sig.lowS ↔ C.Verifies Q z sig := by
  unfold Signature.lowS
  split_ifs
  · exact verifies_neg
  · exact Iff.rfl

/-- Two keys recovered from a signature are recovered from its low form. -/
theorem Recovers.lowS (h : C.Recovers z sig odd Q) (h' : C.Recovers z sig (!odd) Q') :
    ∃ odd', C.Recovers z sig.lowS odd' Q ∧ C.Recovers z sig.lowS (!odd') Q' := by
  unfold Signature.lowS
  split_ifs
  · refine ⟨!odd, recovers_neg.mpr ?_, recovers_neg.mpr ?_⟩
    · rwa [Bool.not_not]
    · rwa [Bool.not_not]
  · exact ⟨odd, h, h'⟩

/-! ## The nonce point of a verification -/

/-- The nonce point that a verification under `Q` computes. -/
def nonce (C : Curve n P) (Q : P) (z : ZMod n) (sig : Signature n) : P :=
  (sig.s⁻¹ * z) • C.base + (sig.s⁻¹ * sig.r) • Q

theorem candidate_nonce : C.candidate z sig (C.nonce Q z sig) = Q := by
  have hs : sig.s * sig.s⁻¹ = 1 := mul_inv_cancel₀ sig.s_ne_zero
  have hscaled : sig.s • C.nonce Q z sig = z • C.base + sig.r • Q := by
    rw [nonce, smul_add, smul_smul, smul_smul, ← mul_assoc, ← mul_assoc, hs, one_mul, one_mul]
  rw [candidate, hscaled, add_sub_cancel_left, smul_smul, inv_mul_cancel₀ sig.r_ne_zero, one_smul]

/-- Recovery finds the keys that verify, short of a nonce point whose coordinate was reduced. -/
theorem exists_recovers_iff (hQ : Q ≠ 0) :
    (∃ odd, C.Recovers z sig odd Q) ↔ C.Verifies Q z sig ∧ C.x (C.nonce Q z sig) < n := by
  constructor
  · rintro ⟨odd, h⟩
    refine ⟨h.verifies, ?_⟩
    obtain ⟨R, ⟨_, hx, _⟩, rfl, _⟩ := h
    rw [nonce, nonce_of_candidate, hx]
    exact ZMod.val_lt sig.r
  · rintro ⟨⟨hnonce, hr⟩, hx⟩
    have hexact : C.x (C.nonce Q z sig) = sig.r.val := by
      rw [← hr, ZMod.val_natCast]
      exact (Nat.mod_eq_of_lt hx).symm
    exact ⟨_, _, ⟨hnonce, hexact, rfl⟩, candidate_nonce.symm, hQ⟩

theorem x_nonce_neg : C.x (C.nonce Q z sig.neg) = C.x (C.nonce Q z sig) := by
  have hpoint : C.nonce Q z sig.neg = -C.nonce Q z sig := by
    show ((-sig.s)⁻¹ * z) • C.base + ((-sig.s)⁻¹ * sig.r) • Q = _
    rw [inv_neg, neg_mul, neg_mul, neg_smul, neg_smul, ← neg_add, nonce]
  rw [hpoint, C.x_neg]

theorem x_nonce_lowS : C.x (C.nonce Q z sig.lowS) = C.x (C.nonce Q z sig) := by
  unfold Signature.lowS
  split_ifs
  · exact x_nonce_neg
  · rfl

/-! ## The signer -/

theorem Signs.nonce_ne_zero (h : C.Signs d k z sig) : k ≠ 0 := by
  rintro rfl
  apply sig.s_ne_zero
  rw [h.2, inv_zero, zero_mul]

/-- The signer is the candidate of its own nonce point. -/
theorem Signs.candidate_eq (h : C.Signs d k z sig) :
    C.candidate z sig (k • C.base) = d • C.base := by
  have hk : sig.s * k = z + sig.r * d := by
    rw [h.2, mul_comm, ← mul_assoc, mul_inv_cancel₀ h.nonce_ne_zero, one_mul]
  have hd : sig.r⁻¹ * (sig.s * k - z) = d := by
    rw [hk, add_sub_cancel_left, ← mul_assoc, inv_mul_cancel₀ sig.r_ne_zero, one_mul]
  rw [candidate, smul_smul, ← sub_smul, smul_smul, hd]

theorem Signs.decompresses (h : C.Signs d k z sig) (hx : C.x (k • C.base) < n)
    (hd : d • C.base ≠ 0) :
    C.Decompresses sig.r (C.yIsOdd (k • C.base)) (k • C.base) := by
  have hbase : C.base ≠ 0 := by
    intro hzero
    exact hd (by rw [hzero, smul_zero])
  have hnonce : k • C.base ≠ 0 := by
    intro hzero
    apply hbase
    calc C.base = k⁻¹ • (k • C.base) := by
          rw [smul_smul, inv_mul_cancel₀ h.nonce_ne_zero, one_smul]
      _ = 0 := by rw [hzero, smul_zero]
  refine ⟨hnonce, ?_, rfl⟩
  rw [← h.1, ZMod.val_natCast, Nat.mod_eq_of_lt hx]

/-- The parity of the nonce point recovers the signer, the other one another key unless that is
zero. -/
theorem Signs.recovers (h : C.Signs d k z sig) (hx : C.x (k • C.base) < n)
    (hd : d • C.base ≠ 0) (hother : C.candidate z sig (-(k • C.base)) ≠ 0) :
    C.Recovers z sig (C.yIsOdd (k • C.base)) (d • C.base) ∧
      C.Recovers z sig (!C.yIsOdd (k • C.base)) (C.candidate z sig (-(k • C.base))) := by
  have hnonce := h.decompresses hx hd
  exact ⟨⟨_, hnonce, h.candidate_eq.symm, hd⟩, ⟨_, hnonce.neg, rfl, hother⟩⟩

end Curve

end AquaAuth.Support.Ecdsa
