import CryptoSuite.Number.Basic

/-!
# Operations on integers

What the operations on numbers answer when every operand is an integer: sums, differences,
products and comparisons always those of the integers, residues and inverses those modulo `|m|`,
if the modulus `m` is not zero.
-/

namespace CryptoSuite

namespace Number

variable {F : Type}

theorem modulus_integer {m : Int} (h : m ≠ 0) :
    modulus (integer m : Number F) = .ok m.natAbs := by
  simp [modulus, operand, bind, Except.bind, h]

theorem modulus_zero : modulus (integer 0 : Number F) = .error zeroModulus := by
  simp [modulus, operand, bind, Except.bind]

variable [Representation F]

/-! ## Order and arithmetic -/

@[simp]
theorem compare_integer (a b : Int) :
    compare (integer a : Number F) (integer b) = .ok (Ord.compare a b) := rfl

@[simp]
theorem compareMagnitude_integer (a b : Int) :
    compareMagnitude (integer a : Number F) (integer b) = .ok (Ord.compare a.natAbs b.natAbs) :=
  rfl

@[simp]
theorem add_integer (a b : Int) :
    add (integer a : Number F) (integer b) = .ok (integer (a + b)) := rfl

@[simp]
theorem sub_integer (a b : Int) :
    sub (integer a : Number F) (integer b) = .ok (integer (a - b)) := rfl

@[simp]
theorem mul_integer (a b : Int) :
    mul (integer a : Number F) (integer b) = .ok (integer (a * b)) := rfl

@[simp]
theorem abs_integer (a : Int) : abs (integer a : Number F) = integer a.natAbs := rfl

/-! ## Arithmetic modulo a number -/

theorem rem_integer (a : Int) {m : Int} (h : m ≠ 0) :
    rem (integer a : Number F) (integer m) = .ok (integer (a % m.natAbs)) := by
  simp [rem, modulus_integer h, Residue.reduce_eq_emod, bind, Except.bind, pure, Except.pure]

theorem mulMod_integer (a b : Int) {m : Int} (h : m ≠ 0) :
    mulMod (integer a : Number F) (integer b) (integer m)
      = .ok (integer (a * b % m.natAbs)) := by
  simp [mulMod, modulus_integer h, operand, Residue.reduce_eq_emod, bind, Except.bind, pure,
    Except.pure]

theorem squareMod_integer (a : Int) {m : Int} (h : m ≠ 0) :
    squareMod (integer a : Number F) (integer m) = .ok (integer (a * a % m.natAbs)) := by
  simp [squareMod, modulus_integer h, Residue.reduce_eq_emod, bind, Except.bind, pure, Except.pure]

theorem invMod_integer (a : Int) {m : Int} (h : m ≠ 0) :
    invMod (integer a : Number F) (integer m)
      = ((Residue.signedInverse? a m.natAbs).map integer).elim (.error notInvertible) .ok := by
  simp only [invMod, modulus_integer h, bind, Except.bind]
  cases Residue.signedInverse? a m.natAbs <;> rfl

theorem rem_zero (a : Int) : rem (integer a : Number F) (integer 0) = .error zeroModulus := by
  simp [rem, modulus_zero, bind, Except.bind]

theorem mulMod_zero (a : Int) (b : Number F) :
    mulMod (integer a) b (integer 0) = .error zeroModulus := by
  simp [mulMod, modulus_zero, bind, Except.bind]

theorem squareMod_zero (a : Int) :
    squareMod (integer a : Number F) (integer 0) = .error zeroModulus := by
  simp [squareMod, modulus_zero, bind, Except.bind]

theorem invMod_zero (a : Int) :
    invMod (integer a : Number F) (integer 0) = .error zeroModulus := by
  simp [invMod, modulus_zero, bind, Except.bind]

end Number

/-! ## Integers alone -/

/-- No representation besides the integers. -/
instance : Representation Empty where
  algorithm := Empty.elim
  setBytes := Empty.elim
  setSmall := Empty.elim
  toBytes := Empty.elim
  byteSize := Empty.elim
  bitSize := Empty.elim
  testBit := Empty.elim
  isZero := Empty.elim
  isNegative := Empty.elim
  compare := Empty.elim
  compareMagnitude := Empty.elim
  add := Empty.elim
  sub := Empty.elim
  mul := Empty.elim
  rem := Empty.elim
  mulMod := Empty.elim
  squareMod := Empty.elim
  invMod := Empty.elim
  abs := Empty.elim
  listing := Empty.elim

end CryptoSuite
