import Mathlib.NumberTheory.LucasPrimality
import Mathlib.Tactic.NormNum.Prime
import GroupSignal.Proofs.Field.Residue
import GroupSignal.Residue

/-!
# The two moduli are prime

By Lucas's test: a number is prime when some residue has an order that is one less than it. That
the order is no proper divisor is checked at the prime factors, which are certified in the same way
where they are too large for trial division.

## Main definitions

* `powerMod`: the remainder of a power, by squaring
* `Generates`: a residue has the order that the test asks for

## Main results

* `prime_of_generates`: the test
* `baseModulus_prime`, `scalarModulus_prime`: the two moduli are prime
-/

namespace GroupSignal

/-- The remainder of a power modulo `p`. -/
def powerMod (p a n : ℕ) : ℕ := power (fun x y => x * y % p) (1 % p) a n

theorem natCast_powerMod (p a n : ℕ) : (powerMod p a n : ZMod p) = (a : ZMod p) ^ n :=
  power_rel (R := fun (x : ℕ) (y : ZMod p) => (x : ZMod p) = y)
    (by rw [ZMod.natCast_mod, Nat.cast_one])
    (fun hx hy => by rw [ZMod.natCast_mod, Nat.cast_mul, hx, hy]) rfl n

/-- The order of `a` modulo `p` is `p - 1`, which is the product of some factors: the power by it is
one, and no power by its quotient by a factor is. -/
structure Generates (p a : ℕ) (factors : List ℕ) : Prop where
  one_lt : 1 < p
  prod_eq : factors.prod = p - 1
  power_eq : powerMod p a (p - 1) % p = 1
  power_ne : ∀ q ∈ factors, powerMod p a ((p - 1) / q) % p ≠ 1

instance (p a : ℕ) (factors : List ℕ) : Decidable (Generates p a factors) :=
  decidable_of_iff (1 < p ∧ factors.prod = p - 1 ∧ powerMod p a (p - 1) % p = 1 ∧
      ∀ q ∈ factors, powerMod p a ((p - 1) / q) % p ≠ 1)
    ⟨fun ⟨h₁, h₂, h₃, h₄⟩ => ⟨h₁, h₂, h₃, h₄⟩, fun ⟨h₁, h₂, h₃, h₄⟩ => ⟨h₁, h₂, h₃, h₄⟩⟩

/-- **Lucas's test**, with prime factors of `p - 1`. -/
theorem prime_of_generates {p : ℕ} (a : ℕ) (factors : List ℕ) (h : Generates p a factors)
    (hfactors : ∀ q ∈ factors, q.Prime) : p.Prime := by
  have hpow : ∀ n, (a : ZMod p) ^ n = 1 ↔ powerMod p a n % p = 1 := by
    intro n
    rw [← natCast_powerMod, ← Nat.cast_one (R := ZMod p), ZMod.natCast_eq_natCast_iff',
      Nat.mod_eq_of_lt h.one_lt]
  refine lucas_primality p a ((hpow _).mpr h.power_eq) fun q hq hdvd => ?_
  rw [← h.prod_eq, hq.prime.dvd_prod_iff] at hdvd
  obtain ⟨q', hmem, hdvd⟩ := hdvd
  obtain rfl : q = q' := (Nat.prime_dvd_prime_iff_eq hq (hfactors q' hmem)).mp hdvd
  exact fun hone => h.power_ne q hmem ((hpow _).mp hone)

/-- The largest prime factor of `baseModulus - 1`. -/
theorem prime_largestFactor : Nat.Prime 13427688667394608761327070753331941386769 := by
  have h₁ : Nat.Prime 1263766531 :=
    prime_of_generates 10 [2, 3, 5, 13, 911, 3557] (by decide +kernel)
      (by norm_num)
  have h₂ : Nat.Prime 35385462869 :=
    prime_of_generates 2 [2, 2, 7, 1263766531] (by decide +kernel)
      (by simp only [List.forall_mem_cons, h₁]; norm_num)
  have h₃ : Nat.Prime 2480874801745591 :=
    prime_of_generates 6 [2, 3, 3, 5, 19, 41, 35385462869] (by decide +kernel)
      (by simp only [List.forall_mem_cons, h₂]; norm_num)
  have h₄ : Nat.Prime 173171039 :=
    prime_of_generates 13 [2, 73, 89, 13327] (by decide +kernel) (by norm_num)
  exact prime_of_generates 17 [2, 2, 2, 2, 3, 7, 11, 1853641, 4562087, 173171039, 2480874801745591]
    (by decide +kernel) (by simp only [List.forall_mem_cons, h₃, h₄]; norm_num)

/-- A prime factor of both `baseModulus - 1` and `scalarModulus - 1`. -/
theorem prime_sharedFactor : Nat.Prime 405928799 :=
  prime_of_generates 22 [2, 11, 3691, 4999] (by decide +kernel) (by norm_num)

/-- **The modulus of the coordinates is prime.** -/
theorem baseModulus_prime : baseModulus.Prime := by
  have h₁ : Nat.Prime 11465965001 :=
    prime_of_generates 3 [2, 2, 2, 5, 5, 5, 5, 7, 327599] (by decide +kernel)
      (by norm_num)
  exact prime_of_generates 3 [2, 3, 3, 13, 29, 67, 229, 311, 983, 11003, 405928799, 11465965001,
      13427688667394608761327070753331941386769]
    (by decide +kernel)
    (by simp only [List.forall_mem_cons, h₁, prime_sharedFactor, prime_largestFactor]; norm_num)

instance : Fact baseModulus.Prime := ⟨baseModulus_prime⟩

/-- **The modulus of the scalars is prime.** -/
theorem scalarModulus_prime : scalarModulus.Prime := by
  have h₁ : Nat.Prime 12048837557 :=
    prime_of_generates 2 [2, 2, 7, 7, 661, 93001] (by decide +kernel) (by norm_num)
  have h₂ : Nat.Prime 5156902474397 :=
    prime_of_generates 2 [2, 2, 107, 12048837557] (by decide +kernel)
      (by simp only [List.forall_mem_cons, h₁]; norm_num)
  have h₃ : Nat.Prime 1670836401704629 :=
    prime_of_generates 2 [2, 2, 3, 3, 3, 3, 5156902474397] (by decide +kernel)
      (by simp only [List.forall_mem_cons, h₂]; norm_num)
  have h₄ : Nat.Prime 639533339 :=
    prime_of_generates 2 [2, 229, 853, 1637] (by decide +kernel) (by norm_num)
  have h₅ : Nat.Prime 65865678001877903 :=
    prime_of_generates 5 [2, 83, 379, 1637, 639533339] (by decide +kernel)
      (by simp only [List.forall_mem_cons, h₄]; norm_num)
  have h₆ : Nat.Prime 13818364434197438864469338081 :=
    prime_of_generates 3 [2, 2, 2, 2, 2, 5, 823, 1593227, 65865678001877903] (by decide +kernel)
      (by simp only [List.forall_mem_cons, h₅]; norm_num)
  exact prime_of_generates 5 (List.replicate 28 2 ++ [3, 3, 13, 29, 983, 11003, 237073, 405928799,
      1670836401704629, 13818364434197438864469338081])
    (by decide +kernel)
    (by simp only [List.forall_mem_append, List.forall_mem_cons, prime_sharedFactor, h₃, h₆]
        norm_num)

instance : Fact scalarModulus.Prime := ⟨scalarModulus_prime⟩

end GroupSignal
