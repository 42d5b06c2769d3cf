import CryptoSuite.Number.Integer
import CryptoSuite.Proofs.Integer.Inverse

/-!
# Integers modulo an integer of either sign

The modulus counts by its absolute value. `ReducesTo m k` says of an answer that it
is the integer of the class of `k` in `[0, |m|)`, or the refusal of a zero modulus.
Residues, products and squares are answered so, whatever the signs
(`reducesTo_rem`, `reducesTo_mulMod`, `reducesTo_squareMod`). There is one such
answer for a class (`ReducesTo.eq`), so it does not matter whether a product is
reduced in one step, after a multiplication, or after its factors
(`modular_operations_reduce`).

`InvertsTo m a` says of an answer that it is an inverse of `a` in `[0, |m|)`, or a
refusal where there is no inverse. Inverses are answered so, but for those of negative
integers modulo one and minus one, where the answer is one and not zero
(`invMod_reduced_iff`).
-/

namespace CryptoSuite

namespace Number

variable {F : Type} {a k l m : ℤ} {answer other : Except Error (Number F)}

/-! ## What is promised -/

/-- The answer is the integer in `[0, |m|)` of the class of `k`. A modulus of zero is refused. -/
structure ReducesTo (m k : ℤ) (answer : Except Error (Number F)) : Prop where
  refused : m = 0 → answer = .error zeroModulus
  reduced : m ≠ 0 → ∃ r, answer = .ok (integer r) ∧ (0 ≤ r ∧ r < |m|) ∧ r ≡ k [ZMOD |m|]

/-- The answer is an inverse of `a` in `[0, |m|)`. Where there is none a parameter is refused. -/
structure InvertsTo (m a : ℤ) (answer : Except Error (Number F)) : Prop where
  refused : (∃ context message, answer = .error (.invalidParameter context message)) ↔
    m = 0 ∨ Int.gcd a m ≠ 1
  inverted : m ≠ 0 → Int.gcd a m = 1 →
    ∃ r, answer = .ok (integer r) ∧ (0 ≤ r ∧ r < |m|) ∧ a * r ≡ 1 [ZMOD |m|]

/-- The answer depends on the class only. -/
theorem ReducesTo.congr (h : ReducesTo m k answer) (hkl : k ≡ l [ZMOD |m|]) :
    ReducesTo m l answer where
  refused := h.refused
  reduced hm := by
    obtain ⟨r, hr, hrange, hclass⟩ := h.reduced hm
    exact ⟨r, hr, hrange, hclass.trans hkl⟩

/-- A class has one answer. -/
theorem ReducesTo.eq (h : ReducesTo m k answer) (h' : ReducesTo m k other) : answer = other := by
  by_cases hm : m = 0
  · rw [h.refused hm, h'.refused hm]
  · obtain ⟨r, rfl, ⟨hr, hrm⟩, hrk⟩ := h.reduced hm
    obtain ⟨s, rfl, ⟨hs, hsm⟩, hsk⟩ := h'.reduced hm
    have hrs : r % |m| = s % |m| := hrk.trans hsk.symm
    rw [Int.emod_eq_of_lt hr hrm, Int.emod_eq_of_lt hs hsm] at hrs
    rw [hrs]

/-- Euclidean division leaves the remainder that is asked for. -/
theorem reducesTo_of_emod (hzero : m = 0 → answer = .error zeroModulus)
    (h : m ≠ 0 → answer = .ok (integer (k % m.natAbs))) : ReducesTo m k answer where
  refused := hzero
  reduced hm := by
    refine ⟨_, h hm, ?_, ?_⟩
    · rw [Int.natCast_natAbs]
      exact ⟨Int.emod_nonneg k (abs_ne_zero.2 hm), Int.emod_lt_of_pos k (abs_pos.2 hm)⟩
    · rw [Int.natCast_natAbs]
      exact Int.mod_modEq k |m|

/-! ## Residues, products and squares -/

section Operations

variable [Representation F]

theorem reducesTo_rem (a m : ℤ) : ReducesTo m a ((integer a : Number F).rem (integer m)) := by
  refine reducesTo_of_emod ?_ (rem_integer a)
  rintro rfl
  exact rem_zero a

theorem reducesTo_mulMod (a b m : ℤ) :
    ReducesTo m (a * b) ((integer a : Number F).mulMod (integer b) (integer m)) := by
  refine reducesTo_of_emod ?_ (mulMod_integer a b)
  rintro rfl
  exact mulMod_zero a _

theorem reducesTo_squareMod (a m : ℤ) :
    ReducesTo m (a * a) ((integer a : Number F).squareMod (integer m)) := by
  refine reducesTo_of_emod ?_ (squareMod_integer a)
  rintro rfl
  exact squareMod_zero a

/-- The factors may be reduced first. -/
theorem reducesTo_mulMod_of_residues (a b m : ℤ) :
    ReducesTo m (a * b) (do
      (← (integer a : Number F).rem (integer m)).mulMod (← (integer b : Number F).rem (integer m))
        (integer m)) := by
  have ha := reducesTo_rem (F := F) a m
  have hb := reducesTo_rem (F := F) b m
  by_cases hm : m = 0
  · rw [ha.refused hm]
    exact ⟨fun _ => rfl, fun hne => absurd hm hne⟩
  · obtain ⟨r, hr, -, hra⟩ := ha.reduced hm
    obtain ⟨s, hs, -, hsb⟩ := hb.reduced hm
    rw [hr, hs]
    exact (reducesTo_mulMod r s m).congr (hra.mul hsb)

/-- A residue, a product and a square modulo an integer of either sign fail for zero only, with a
refused parameter, and otherwise answer the integer in `[0, |m|)` of the class of the operand, of
the product and of the square. A product may be multiplied out first, or reduced by its factors
first, and a square is the product with itself. -/
theorem modular_operations_reduce (a b m : ℤ) :
    let x : Number F := integer a
    let y : Number F := integer b
    let modulus : Number F := integer m
    (ReducesTo m a (x.rem modulus) ∧ ReducesTo m (a * b) (x.mulMod y modulus) ∧
      ReducesTo m (a * a) (x.squareMod modulus)) ∧
    x.mulMod y modulus = (do (← x.mul y).rem modulus) ∧
    x.mulMod y modulus = (do (← x.rem modulus).mulMod (← y.rem modulus) modulus) ∧
    x.squareMod modulus = x.mulMod x modulus := by
  intro x y modulus
  have hmul : ReducesTo m (a * b) (x.mulMod y modulus) := reducesTo_mulMod a b m
  have hsquare : ReducesTo m (a * a) (x.squareMod modulus) := reducesTo_squareMod a m
  exact ⟨⟨reducesTo_rem a m, hmul, hsquare⟩, hmul.eq (reducesTo_rem (a * b) m),
    hmul.eq (reducesTo_mulMod_of_residues a b m), hsquare.eq (reducesTo_mulMod a a m)⟩

/-! ## Inverses -/

/-- What has a divisor in common with the modulus has no inverse. -/
theorem invMod_of_gcd_ne_one (hm : m ≠ 0) (h : Int.gcd a m ≠ 1) :
    (integer a : Number F).invMod (integer m) = .error notInvertible := by
  have hnone : Residue.signedInverse? a m.natAbs = none := Residue.signedInverse?_eq_none_iff.2 h
  rw [invMod_integer a hm, hnone]
  rfl

/-- All else has an inverse, which is reduced but for negative integers modulo one. -/
theorem exists_invMod (hm : m ≠ 0) (h : Int.gcd a m = 1) :
    ∃ r, (integer a : Number F).invMod (integer m) = .ok (integer r) ∧ 0 ≤ r ∧
      a * r ≡ 1 [ZMOD |m|] ∧ (r < |m| ↔ ¬(a < 0 ∧ |m| = 1)) := by
  have hpos : 0 < m.natAbs := Int.natAbs_pos.2 hm
  rw [invMod_integer a hm, Int.abs_eq_natAbs, Nat.cast_eq_one]
  cases hs : Residue.signedInverse? a m.natAbs with
  | none => exact absurd h (Residue.signedInverse?_eq_none_iff.1 hs)
  | some r =>
    exact ⟨r, rfl, Residue.signedInverse?_nonneg hpos hs, Residue.signedInverse?_modEq hpos hs,
      Residue.signedInverse?_lt_iff hpos hs⟩

theorem invMod_eq_invalidParameter_iff (a m : ℤ) :
    (∃ context message,
      (integer a : Number F).invMod (integer m) = .error (.invalidParameter context message)) ↔
      m = 0 ∨ Int.gcd a m ≠ 1 := by
  by_cases hm : m = 0
  · subst hm
    exact iff_of_true ⟨_, _, invMod_zero a⟩ (.inl rfl)
  by_cases hgcd : Int.gcd a m = 1
  · obtain ⟨r, hr, -⟩ := exists_invMod (F := F) hm hgcd
    rw [hr]
    exact iff_of_false nofun (not_or.2 ⟨hm, not_not.2 hgcd⟩)
  · exact iff_of_true ⟨_, _, invMod_of_gcd_ne_one hm hgcd⟩ (.inr hgcd)

/-- Modulo one and minus one. -/
theorem invMod_of_abs_eq_one (ha : a < 0) (hm : |m| = 1) :
    (integer a : Number F).invMod (integer m) = .ok (integer 1) := by
  have hunit : m.natAbs = 1 := by rwa [Int.abs_eq_natAbs, Nat.cast_eq_one] at hm
  have hne : m ≠ 0 := by
    rintro rfl
    cases hunit
  rw [invMod_integer a hne, hunit, Residue.signedInverse?_one_of_neg ha]
  rfl

/-- The inverse modulo an integer of either sign is refused exactly for a modulus of zero and for
what has a divisor in common with the modulus, and otherwise an inverse that is not negative is
answered. It is in `[0, |m|)` but for negative integers modulo one and minus one, where the answer
is one. -/
theorem invMod_reduced_iff (a m : ℤ) :
    let answer := (integer a : Number F).invMod (integer m)
    (InvertsTo m a answer ↔ ¬(a < 0 ∧ |m| = 1)) ∧
    ((∃ context message, answer = .error (.invalidParameter context message)) ↔
      m = 0 ∨ Int.gcd a m ≠ 1) ∧
    (m ≠ 0 → Int.gcd a m = 1 →
      ∃ r, answer = .ok (integer r) ∧ 0 ≤ r ∧ a * r ≡ 1 [ZMOD |m|]) ∧
    (a < 0 → |m| = 1 → answer = .ok (integer 1)) := by
  intro answer
  have hrefused := invMod_eq_invalidParameter_iff (F := F) a m
  refine ⟨⟨?_, fun hother => ⟨hrefused, fun hm hgcd => ?_⟩⟩, hrefused, fun hm hgcd => ?_,
    invMod_of_abs_eq_one⟩
  · rintro h ⟨ha, hm⟩
    have hone : answer = .ok (integer 1) := invMod_of_abs_eq_one ha hm
    -- The answer is no refusal, so that an inverse is promised.
    have hinvertible : ¬(m = 0 ∨ Int.gcd a m ≠ 1) := by
      rw [← h.refused, hone]
      rintro ⟨context, message, he⟩
      cases he
    obtain ⟨hne, hgcd⟩ := not_or.1 hinvertible
    obtain ⟨r, hr, ⟨-, hlt⟩, -⟩ := h.inverted hne (not_not.1 hgcd)
    rw [hone] at hr
    cases hr
    exact hlt.ne hm.symm
  · obtain ⟨r, hr, hnonneg, hmod, hlt⟩ := exists_invMod (F := F) hm hgcd
    exact ⟨r, hr, ⟨hnonneg, hlt.2 hother⟩, hmod⟩
  · obtain ⟨r, hr, hnonneg, hmod, -⟩ := exists_invMod (F := F) hm hgcd
    exact ⟨r, hr, hnonneg, hmod⟩

/-- Minus five is zero modulo one, and the answer for its inverse is not reduced. -/
theorem inverse_not_reduced :
    (integer (-5) : Number Empty).invMod (integer 1) = .ok (integer 1) ∧
      (integer (-5) : Number Empty).rem (integer 1) = .ok (integer 0) ∧
      Int.gcd (-5) 1 = 1 ∧ ¬(1 : ℤ) < |1| := by
  decide +kernel

end Operations

end Number

end CryptoSuite
