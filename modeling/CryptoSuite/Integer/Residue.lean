/-!
# Residues and inverses of integers

`Residue.reduce` is the residue of an integer modulo a natural number `m`, in `[0, m)`. The
inverse of an integer modulo `m` is computed by the extended algorithm of Euclid:
`Residue.euclid` returns the greatest common divisor with a coefficient, and
`Residue.inverse?` answers exactly when that divisor is one.

Main statements: `Residue.reduce_eq_emod` (the residue is that of Euclidean division),
`Residue.fst_euclid` (the first part is the greatest common divisor) and
`Residue.euclid_invariant` (the coefficient expresses it as a multiple modulo `m`).
-/

namespace CryptoSuite

namespace Residue

/-- The residue of an integer modulo `m`. Division that rounds toward zero leaves a remainder with
the sign of the integer, and a negative one is moved up by `m`. -/
def reduce (a : Int) (m : Nat) : Int :=
  let r := a.tmod m
  if r < 0 then r + m else r

/-- Remainders of the algorithm of Euclid on `r` and `s`, each with a coefficient. Answers the
last remainder that is not zero and its coefficient. -/
def euclid (r s : Nat) (t u : Int) : Nat × Int :=
  if s = 0 then (r, t) else euclid s (r % s) u (t - (r / s : Nat) * u)
termination_by s
decreasing_by exact Nat.mod_lt _ (Nat.pos_of_ne_zero (by assumption))

/-- The inverse of a natural number modulo `m`, reduced, if the two have no common divisor. -/
def inverse? (a m : Nat) : Option Nat :=
  let (divisor, coefficient) := euclid m (a % m) 0 1
  if divisor = 1 then some (coefficient % m).toNat else none

/-- The inverse of an integer modulo `m`: that of its absolute value `|a|`, or `m` less that if
the integer is negative. -/
def signedInverse? (a : Int) (m : Nat) : Option Int :=
  (inverse? a.natAbs m).map fun r => if a < 0 then (m : Int) - r else r

/-! ## Residues -/

theorem reduce_eq_emod (a : Int) (m : Nat) : reduce a m = a % m := by
  by_cases hm : m = 0
  · subst hm
    simp [reduce]
  · have hnonneg : 0 ≤ a % (m : Int) := Int.emod_nonneg a (by omega)
    have hlt : a % (m : Int) < m := Int.emod_lt_of_pos a (by omega)
    simp only [reduce, Int.tmod_eq_emod, Int.natAbs_natCast]
    -- The remainder is the residue, or `m` less if `a` is negative and no multiple of `m`.
    by_cases h : 0 ≤ a ∨ (m : Int) ∣ a
    · rw [if_pos h, if_neg (by omega)]
      omega
    · rw [if_neg h, if_pos (by omega)]
      omega

/-! ## The algorithm of Euclid -/

theorem euclid_zero (r : Nat) (t u : Int) : euclid r 0 t u = (r, t) := by
  rw [euclid, if_pos rfl]

theorem euclid_of_ne_zero {r s : Nat} (h : s ≠ 0) (t u : Int) :
    euclid r s t u = euclid s (r % s) u (t - (r / s : Nat) * u) := by
  rw [euclid, if_neg h]

theorem fst_euclid (r s : Nat) (t u : Int) : (euclid r s t u).1 = Nat.gcd r s := by
  induction s using Nat.strongRecOn generalizing r t u with
  | ind s ih =>
    by_cases h : s = 0
    · rw [h, euclid_zero, Nat.gcd_zero_right]
    · rw [euclid_of_ne_zero h, ih _ (Nat.mod_lt _ (Nat.pos_of_ne_zero h)), Nat.gcd_comm s,
        ← Nat.gcd_rec, Nat.gcd_comm]

/-- If each remainder is its coefficient times `a` modulo `m` at the start, so is the answer. -/
theorem euclid_invariant {m a : Int} (r s : Nat) (t u : Int)
    (hr : m ∣ r - t * a) (hs : m ∣ s - u * a) :
    m ∣ ((euclid r s t u).1 : Int) - (euclid r s t u).2 * a := by
  induction s using Nat.strongRecOn generalizing r t u with
  | ind s ih =>
    by_cases h : s = 0
    · simpa [h, euclid_zero] using hr
    · rw [euclid_of_ne_zero h]
      refine ih _ (Nat.mod_lt _ (Nat.pos_of_ne_zero h)) s u _ hs ?_
      have hmod : ((r % s : Nat) : Int) = r - (r / s : Nat) * s := by
        have := Nat.div_add_mod r s
        rw [Nat.mul_comm] at this
        omega
      obtain ⟨x, hx⟩ := hr
      obtain ⟨y, hy⟩ := hs
      refine ⟨x - (r / s : Nat) * y, ?_⟩
      rw [hmod, Int.mul_sub, ← hx, Int.mul_left_comm, ← hy, Int.mul_sub, Int.sub_mul]
      rw [← Int.mul_assoc]
      omega

end Residue

end CryptoSuite
