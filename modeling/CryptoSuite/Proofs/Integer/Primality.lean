import CryptoSuite.Proofs.Number.Numeral
import Mathlib.FieldTheory.Finite.Basic

/-!
# Certificates of primality

Let `F` divide `n - 1` and be above the square root of `n`. If some `a` has
`a ^ (n - 1) = 1` modulo `n`, and `a ^ ((n - 1) / q) - 1` is a unit for every
prime `q` that divides `F`, then `n` is prime (`prime_of_isUnit`) : modulo the
least prime factor of `n` a power of `a` has order `F`, so that factor is above
the square root.

A `PrimalityStep` is such an `n` with its `a` and the prime powers of `F`. In a
certificate each of these primes is the number of an earlier step.
`PrimalityStep.checkAll` tests a certificate and can be evaluated by the kernel,
and a certificate that passes holds primes only (`prime_of_checkAll`).
-/

namespace CryptoSuite

/-! ## The criterion -/

/-- If the order of a power of `a` is `F` modulo every prime factor of `n`, all are above `F`. -/
theorem prime_of_isUnit {n F : ℕ} (hn : 1 < n) (hdvd : F ∣ n - 1) (hsq : n < F * F) {a : ZMod n}
    (hone : a ^ (n - 1) = 1) (hunit : ∀ q, q.Prime → q ∣ F → IsUnit (a ^ ((n - 1) / q) - 1)) :
    n.Prime := by
  by_contra hcomposite
  have hr : Fact n.minFac.Prime := ⟨Nat.minFac_prime hn.ne'⟩
  have hF : 0 < F := Nat.pos_of_dvd_of_pos hdvd (by omega)
  let f := ZMod.castHom n.minFac_dvd (ZMod n.minFac)
  have hpow : (f a ^ ((n - 1) / F)) ^ F = 1 := by
    rw [← pow_mul, Nat.div_mul_cancel hdvd, ← map_pow, hone, map_one]
  have horder : orderOf (f a ^ ((n - 1) / F)) = F := by
    refine orderOf_eq_of_pow_and_pow_div_prime hF hpow fun q hq hqF heq => ?_
    have hexp : (n - 1) / F * (F / q) = (n - 1) / q := by
      rw [← Nat.mul_div_assoc _ hqF, Nat.div_mul_cancel hdvd]
    have hf : f (a ^ ((n - 1) / q) - 1) = 0 := by
      rw [map_sub, map_pow, map_one, ← hexp, pow_mul, heq, sub_self]
    exact ((hunit q hq hqF).map f).ne_zero hf
  have hne : f a ^ ((n - 1) / F) ≠ 0 := by
    intro hzero
    rw [hzero, zero_pow hF.ne'] at hpow
    exact zero_ne_one hpow
  have hle : F ≤ n.minFac - 1 := by
    have hdvd' : F ∣ n.minFac - 1 := by
      rw [← horder]
      exact orderOf_dvd_of_pow_eq_one (ZMod.pow_card_sub_one_eq_one hne)
    exact Nat.le_of_dvd (Nat.sub_pos_of_lt hr.out.one_lt) hdvd'
  have hsmall : n.minFac * n.minFac ≤ n := by
    rw [← sq]
    exact Nat.minFac_sq_le_self (by omega) hcomposite
  have hlt : F < n.minFac := by
    have := hr.out.pos
    omega
  exact absurd hsq (not_lt.2 ((Nat.mul_le_mul hlt.le hlt.le).trans hsmall))

/-! ## Powers -/

/-- Square-and-multiply over the bits of `e` below a position, from the highest down. -/
def powBits (n a e : ℕ) : ℕ → ℕ → ℕ
  | 0, r => r
  | i + 1, r => powBits n a e i (if e.testBit i then r * r * a % n else r * r % n)

/-- The residue of `a ^ e` modulo `n`. -/
def powMod (n a e : ℕ) : ℕ :=
  powBits n a e (e.log2 + 1) 1

theorem cast_powBits {n a e m r : ℕ} (hr : (r : ZMod n) = (a : ZMod n) ^ Number.topBits e m) :
    (powBits n a e m r : ZMod n) = (a : ZMod n) ^ e := by
  induction m generalizing r with
  | zero => rwa [Number.topBits_zero] at hr
  | succ i ih =>
    apply ih
    rw [Number.topBits_eq, pow_add, pow_mul', sq]
    cases e.testBit i with
    | false => simp [hr]
    | true => simp [hr]

theorem cast_powMod (n a e : ℕ) : (powMod n a e : ZMod n) = (a : ZMod n) ^ e := by
  refine cast_powBits ?_
  rw [Number.topBits, Nat.div_eq_of_lt Nat.lt_log2_self, pow_zero, Nat.cast_one]

/-! ## Certificates -/

/-- A number with a base and the prime powers of a divisor of its predecessor. -/
structure PrimalityStep where
  /-- The number. -/
  n : ℕ
  /-- The base of the powers. -/
  base : ℕ
  /-- Primes of the divisor with their exponents. -/
  factors : List (ℕ × ℕ)

namespace PrimalityStep

/-- The divisor of `n - 1`. -/
def divisor (step : PrimalityStep) : ℕ :=
  (step.factors.map fun f => f.1 ^ f.2).prod

/-- The criterion, given numbers that are known to be prime. -/
def check (known : List ℕ) (step : PrimalityStep) : Bool :=
  decide (1 < step.n ∧ step.divisor ∣ step.n - 1 ∧ step.n < step.divisor * step.divisor) &&
    powMod step.n step.base (step.n - 1) == 1 &&
    step.factors.all fun f => known.contains f.1 &&
      decide (Nat.Coprime (powMod step.n step.base ((step.n - 1) / f.1) + (step.n - 1)) step.n)

/-- The criterion for each step in turn, given the numbers before it. -/
def checkAll : List ℕ → List PrimalityStep → Bool
  | _, [] => true
  | known, step :: rest => step.check known && checkAll (step.n :: known) rest

theorem mem_of_prime_dvd_divisor {step : PrimalityStep} {q : ℕ} (hq : q.Prime)
    (hdvd : q ∣ step.divisor) (hprime : ∀ f ∈ step.factors, f.1.Prime) :
    ∃ f ∈ step.factors, f.1 = q := by
  obtain ⟨m, hm, hqm⟩ := (Prime.dvd_prod_iff hq.prime).1 hdvd
  obtain ⟨f, hf, rfl⟩ := List.mem_map.1 hm
  have hqf : q ∣ f.1 := hq.dvd_of_dvd_pow hqm
  exact ⟨f, hf, ((Nat.prime_dvd_prime_iff_eq hq (hprime f hf)).1 hqf).symm⟩

theorem prime_of_check {known : List ℕ} {step : PrimalityStep} (hknown : ∀ q ∈ known, q.Prime)
    (h : step.check known = true) : step.n.Prime := by
  simp only [check, Bool.and_eq_true, decide_eq_true_eq, List.all_eq_true, beq_iff_eq,
    List.contains_iff_mem] at h
  obtain ⟨⟨⟨hn, hdvd, hsq⟩, hone⟩, hfactors⟩ := h
  refine prime_of_isUnit hn hdvd hsq (a := step.base) ?_ ?_
  · rw [← cast_powMod, hone, Nat.cast_one]
  · intro q hq hqF
    obtain ⟨f, hf, rfl⟩ :=
      mem_of_prime_dvd_divisor hq hqF fun f hf => hknown f.1 (hfactors f hf).1
    have hunit := (ZMod.isUnit_iff_coprime _ _).2 (hfactors f hf).2
    rwa [Nat.cast_add, cast_powMod, Nat.cast_sub hn.le, ZMod.natCast_self, Nat.cast_one, zero_sub,
      ← sub_eq_add_neg] at hunit

/-- The numbers of a certificate are prime, by induction on its steps. -/
theorem prime_of_checkAll {known : List ℕ} {steps : List PrimalityStep}
    (hknown : ∀ q ∈ known, q.Prime) (h : checkAll known steps = true) :
    ∀ q ∈ steps.map n, q.Prime := by
  induction steps generalizing known with
  | nil => simp
  | cons step rest ih =>
    rw [checkAll, Bool.and_eq_true] at h
    have hstep := prime_of_check hknown h.1
    rw [List.map_cons, List.forall_mem_cons]
    exact ⟨hstep, ih (List.forall_mem_cons.2 ⟨hstep, hknown⟩) h.2⟩

end PrimalityStep

end CryptoSuite
