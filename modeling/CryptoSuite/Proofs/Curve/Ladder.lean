import CryptoSuite.Proofs.Curve.Group
import CryptoSuite.Proofs.Curve.ScaledPoint
import CryptoSuite.Proofs.Number.Numeral

/-!
# The order of a point by computation

`ScaledPoint.ladder` is double-and-add on scaled points with integer
coordinates, each reduced modulo `p`. It takes no inverses and can be evaluated
by the kernel at scalars of hundreds of bits. `Scales s G` says that `s` stands
for the element `G` of the group of a curve, and `Scales.ladder` that the ladder
keeps to the multiples of the base point, by the invariant of the bits above
position `i`.

If the ladder takes a point to its opposite in `n - 1` steps, the `n`-fold of
the point is zero (`nsmul_eq_zero_of_closes`).
-/

namespace CryptoSuite

namespace ScaledPoint

/-- The point with every coordinate reduced. -/
def reduce (p : ℤ) (s : ScaledPoint ℤ) : ScaledPoint ℤ :=
  s.map (· % p)

/-- One bit of a scalar, for the base point `(x, y)`. -/
def pass (p a x y : ℤ) (bit : Bool) (s : ScaledPoint ℤ) : ScaledPoint ℤ :=
  let d := (s.double a).reduce p
  if bit then (d.add x y).reduce p else d

/-- The bits of `k` below a position, from the highest down. A run that meets an exceptional
case ends there. -/
def ladder (p a x y : ℤ) (k : ℕ) : ℕ → ScaledPoint ℤ → ScaledPoint ℤ
  | 0, s => s
  | i + 1, s =>
    let t := s.pass p a x y (k.testBit i)
    -- Without this test an evaluation would put off the whole run to its end.
    if t.z = 0 then t else ladder p a x y k i t

/-- Whether the `n - 1`-fold of `(x, y)` is its opposite, by the ladder. -/
def closes (p a x y : ℤ) (n : ℕ) : Bool :=
  let s := ladder p a x y (n - 1) (n - 1).log2 ⟨x, y, 1⟩
  decide (¬p ∣ s.z ∧ p ∣ x * s.z ^ 2 - s.x ∧ p ∣ y * s.z ^ 3 + s.y)

end ScaledPoint

namespace PrimeCurve

open Number

variable {E : PrimeCurve} {s : ScaledPoint ℤ} {G B : E.Group} {x y : ℤ}

variable (E) in
/-- Modulo the prime, a scaled point stands for an element of the group. -/
def Scales (s : ScaledPoint ℤ) (G : E.Group) : Prop :=
  (s.map (Int.castRingHom (ZMod E.p))).Represents (PlanePoint.toPlane G)

theorem map_reduce (s : ScaledPoint ℤ) :
    (s.reduce E.p).map (Int.castRingHom (ZMod E.p)) = s.map (Int.castRingHom (ZMod E.p)) := by
  simp [ScaledPoint.reduce, ScaledPoint.map]

theorem Scales.toPlane_eq (hs : E.Scales s G) (hz : (s.z : ZMod E.p) ≠ 0) :
    PlanePoint.toPlane G = .finite ((s.x : ZMod E.p) / s.z ^ 2) (s.y / s.z ^ 3) :=
  hs hz

/-! ## One bit -/

theorem Scales.double (hs : E.Scales s G) : E.Scales ((s.double E.a).reduce E.p) (G + G) := by
  rw [Scales, map_reduce, ScaledPoint.map_double, PlanePoint.toPlane_double E.two_ne_zero]
  exact ScaledPoint.Represents.double hs

theorem Scales.add (hs : E.Scales s G) (hB : PlanePoint.toPlane B = .finite (x : ZMod E.p) y) :
    E.Scales ((s.add x y).reduce E.p) (G + B) := by
  rw [Scales, map_reduce, ScaledPoint.map_add, PlanePoint.toPlane_add, hB]
  exact ScaledPoint.Represents.add hs

theorem Scales.pass (hs : E.Scales s G) (hB : PlanePoint.toPlane B = .finite (x : ZMod E.p) y)
    (bit : Bool) : E.Scales (s.pass E.p E.a x y bit) (G + G + bit.toNat • B) := by
  cases bit with
  | false =>
    rw [Bool.toNat_false, zero_nsmul, add_zero]
    exact hs.double
  | true =>
    rw [Bool.toNat_true, one_nsmul]
    exact hs.double.add hB

/-! ## A whole run -/

/-- A run over the bits below `n`, by induction on the bits left. -/
theorem Scales.ladder (hB : PlanePoint.toPlane B = .finite (x : ZMod E.p) y) {k n : ℕ}
    (hs : E.Scales s (topBits k n • B)) : E.Scales (s.ladder E.p E.a x y k n) (k • B) := by
  induction n generalizing s with
  | zero => rwa [topBits_zero] at hs
  | succ i ih =>
    have hpass := hs.pass hB (k.testBit i)
    rw [← two_nsmul, ← mul_nsmul', ← add_nsmul, ← topBits_eq] at hpass
    rw [ScaledPoint.ladder]
    split_ifs with hz
    · exact ScaledPoint.represents_of_z_eq_zero (by simp [ScaledPoint.map, hz]) _
    · exact ih hpass

/-- A point that the ladder takes to its opposite has order dividing `n`. -/
theorem nsmul_eq_zero_of_closes (hB : PlanePoint.toPlane B = .finite (x : ZMod E.p) y) {n : ℕ}
    (hn : 1 < n) (h : ScaledPoint.closes E.p E.a x y n = true) : n • B = 0 := by
  have hstart : E.Scales ⟨x, y, 1⟩ (topBits (n - 1) (n - 1).log2 • B) := by
    rw [topBits_log2 (by omega), one_nsmul, Scales, hB]
    simpa [ScaledPoint.map] using ScaledPoint.represents_one (x : ZMod E.p) (y : ZMod E.p)
  have hend := hstart.ladder hB
  obtain ⟨hz, hx, hy⟩ := of_decide_eq_true h
  rw [← ZMod.intCast_zmod_eq_zero_iff_dvd] at hz hx hy
  push_cast at hz hx hy
  have hopp : (n - 1) • B = -B := by
    apply PlanePoint.toPlane_injective
    rw [hend.toPlane_eq hz, PlanePoint.toPlane_neg, hB, PlanePoint.neg, PlanePoint.finite.injEq]
    constructor
    · rw [div_eq_iff (pow_ne_zero 2 hz)]
      exact (sub_eq_zero.1 hx).symm
    · rw [div_eq_iff (pow_ne_zero 3 hz), neg_mul]
      exact eq_neg_of_add_eq_zero_right hy
  rw [← Nat.sub_add_cancel hn.le, succ_nsmul, hopp, neg_add_cancel]

end PrimeCurve

end CryptoSuite
