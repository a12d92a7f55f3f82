import Mathlib.NumberTheory.LucasPrimality
import Mathlib.Tactic.NormNum.Prime
set_option autoImplicit false
/-!
# The order of the P-256 group

The order of NIST P-256 is a prime.  A table of Lucas certificates shows it, each entry by the
primes above it.
-/

namespace AquaAuth.Support.Primality

/-- `a ^ e % m` by repeated squaring, for an exponent of at most `bits` bits. -/
def powMod (m bits a e : ℕ) : ℕ :=
  match bits with
  | 0 => 1 % m
  | bits + 1 => (if e % 2 = 1 then a else 1) * powMod m bits (a * a % m) (e / 2) % m

theorem powMod_eq {m bits a e : ℕ} (he : e < 2 ^ bits) : powMod m bits a e = a ^ e % m := by
  induction bits generalizing a e with
  | zero =>
      obtain rfl : e = 0 := by omega
      rfl
  | succ bits ih =>
      have hhalf : powMod m bits (a * a % m) (e / 2) = a ^ (2 * (e / 2)) % m := by
        rw [ih (by omega), ← Nat.pow_mod, ← pow_two, ← pow_mul]
      have hlast : (if e % 2 = 1 then a else 1) = a ^ (e % 2) := by
        rcases Nat.mod_two_eq_zero_or_one e with h | h <;> simp [h]
      rw [powMod, hhalf, hlast, Nat.mul_mod_mod, ← pow_add, Nat.mod_add_div]

/-- An element whose powers show `p` prime, given the prime factors of `p - 1`. -/
structure Certificate where
  p : ℕ
  a : ℕ
  factors : List ℕ

/-- The certificate holds, given that the numbers in `primes` are primes. -/
def Certificate.Valid (bits : ℕ) (primes : List ℕ) (c : Certificate) : Prop :=
  (1 < c.p ∧ c.p ≤ 2 ^ bits) ∧ (∀ q ∈ c.factors, q ∈ primes) ∧ c.factors.prod = c.p - 1 ∧
    powMod c.p bits c.a (c.p - 1) = 1 ∧
      ∀ q ∈ c.factors, powMod c.p bits c.a ((c.p - 1) / q) ≠ 1

instance (bits : ℕ) (primes : List ℕ) (c : Certificate) : Decidable (c.Valid bits primes) :=
  inferInstanceAs (Decidable (_ ∧ _))

theorem Certificate.Valid.prime {bits : ℕ} {primes : List ℕ} {c : Certificate}
    (h : c.Valid bits primes) (hprimes : ∀ q ∈ primes, q.Prime) : c.p.Prime := by
  obtain ⟨⟨hlt, hbits⟩, hfactors, hprod, hone, hne⟩ := h
  have hpow : ∀ e < c.p, (c.a : ZMod c.p) ^ e = 1 ↔ powMod c.p bits c.a e = 1 := by
    intro e he
    have hmod : 1 % c.p = 1 := Nat.mod_eq_of_lt hlt
    rw [powMod_eq (by omega), ← Nat.cast_pow, ← Nat.cast_one, ZMod.natCast_eq_natCast_iff', hmod]
  apply lucas_primality c.p (c.a : ZMod c.p)
  · exact (hpow _ (by omega)).mpr hone
  · intro q hq hdvd
    rw [← hprod] at hdvd
    -- A prime factor of the product is one of the listed primes.
    have hlisted : ∃ f ∈ c.factors, q ∣ f := (Prime.dvd_prod_iff hq.prime).mp hdvd
    obtain ⟨f, hf, hqf⟩ := hlisted
    have heq : q = f := (Nat.prime_dvd_prime_iff_eq hq (hprimes f (hfactors f hf))).mp hqf
    have hsmall : (c.p - 1) / q < c.p := (Nat.div_le_self _ _).trans_lt (by omega)
    intro hroot
    apply hne f hf
    rw [← heq]
    exact (hpow _ hsmall).mp hroot

/-- Each certificate of a table rests on the primes certified above it. -/
def TableValid (bits : ℕ) : List ℕ → List Certificate → Prop
  | _, [] => True
  | primes, c :: table => c.Valid bits primes ∧ TableValid bits (c.p :: primes) table

instance decidableTableValid (bits : ℕ) : ∀ primes table, Decidable (TableValid bits primes table)
  | _, [] => inferInstanceAs (Decidable True)
  | primes, c :: table =>
      have := decidableTableValid bits (c.p :: primes) table
      inferInstanceAs (Decidable (c.Valid bits primes ∧ TableValid bits (c.p :: primes) table))

theorem TableValid.prime {bits : ℕ} {table : List Certificate} : ∀ {primes : List ℕ},
    TableValid bits primes table → (∀ q ∈ primes, q.Prime) → ∀ c ∈ table, c.p.Prime := by
  induction table with
  | nil =>
      intro primes _ _ c hc
      cases hc
  | cons first table ih =>
      intro primes h hprimes c hc
      have hfirst : first.p.Prime := h.1.prime hprimes
      have hall : ∀ q ∈ first.p :: primes, q.Prime := List.forall_mem_cons.mpr ⟨hfirst, hprimes⟩
      cases hc with
      | head => exact hfirst
      | tail _ hc => exact ih h.2 hall c hc

/-- The number of points of NIST P-256. -/
@[irreducible] def p256Order : ℕ :=
  0xffffffff00000000ffffffffffffffffbce6faada7179e84f3b9cac2fc632551

/-- The primes the table starts from. -/
def smallPrimes : List ℕ :=
  [2, 3, 5, 7, 11, 17, 29, 41, 43, 71, 127, 131, 229, 311, 373, 1201, 1297, 3023, 3407, 16879,
    17449, 38189, 126241, 155317, 3969899]

def p256Certificates : List Certificate :=
  [⟨9350987, 2, [2, 17, 229, 1201]⟩,
    ⟨187019741, 2, [2, 2, 5, 9350987]⟩,
    ⟨311245691, 2, [2, 5, 7, 17, 29, 29, 311]⟩,
    ⟨622491383, 5, [2, 311245691]⟩,
    ⟨1002328039319, 19, [2, 126241, 3969899]⟩,
    ⟨191039911, 3, [2, 3, 5, 41, 155317]⟩,
    ⟨208150935158385979, 2, [2, 3, 11, 43, 127, 3023, 191039911]⟩,
    ⟨2624747550333869278416773953, 7,
      [2, 2, 2, 2, 2, 2, 3, 3, 1297, 16879, 208150935158385979]⟩,
    ⟨p256Order, 7, [2, 2, 2, 2, 3, 71, 131, 373, 3407, 17449, 38189, 187019741, 622491383,
      1002328039319, 2624747550333869278416773953]⟩]

theorem p256Order_prime : p256Order.Prime := by
  have hsmall : ∀ q ∈ smallPrimes, q.Prime := by
    simp only [smallPrimes, List.forall_mem_cons]
    norm_num
  have htable : TableValid 256 smallPrimes p256Certificates := by decide +kernel
  have hne : p256Certificates ≠ [] := List.cons_ne_nil _ _
  exact htable.prime hsmall (p256Certificates.getLast hne) (List.getLast_mem hne)

end AquaAuth.Support.Primality
