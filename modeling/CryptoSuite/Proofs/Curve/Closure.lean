import CryptoSuite.Proofs.Curve.IntegerPoint

/-!
# Families of points closed under the operations

A family of points is `Point.ClosedUnder` the operations if doubles and sums of its points are again
in it, up to the expected failures. Then so are multiples and joint multiples (`ClosedUnder.mul`,
`ClosedUnder.jointMul`), by one induction over the bits of double-and-add.

The points over the integers with one modulus and one coefficient of `x` are such a family
(`Point.closedUnder_over`), where only an integer without an inverse, a zero modulus or a negative
scalar can be refused.
-/

namespace CryptoSuite

namespace Point

open Number

variable {F : Type} [Representation F]

/-! ## Closed families -/

/-- Infinity, doubles and sums of points of a family are in the family, up to failures. -/
structure ClosedUnder (good : Point F → Prop) (failure : Error → Prop) : Prop where
  atInfinity : ∀ {P}, good P → good P.atInfinity
  double : ∀ {P}, good P → Outcome good failure P.double
  add : ∀ {P Q}, good P → good Q → Outcome good failure (P.add Q)

variable {good : Point F → Prop} {failure : Error → Prop} {P Q R : Point F}

/-- A run of double-and-add stays in the family if the terms are from it. -/
theorem ClosedUnder.doubleAndAdd (h : ClosedUnder good failure) {term : ℕ → Option (Point F)}
    (hterm : ∀ i T, term i = some T → good T) (count : ℕ) (hR : good R) :
    Outcome good failure (Point.doubleAndAdd term count R) := by
  induction count generalizing R with
  | zero => exact hR
  | succ i ih =>
    rw [Point.doubleAndAdd]
    refine (h.double hR).bind fun D hD => ?_
    cases hT : term i with
    | none => exact ih hD
    | some T => exact (h.add hD (hterm i T hT)).bind fun S hS => ih hS

theorem ClosedUnder.mul (h : ClosedUnder good failure) (hneg : failure negativeScalar)
    (hP : good P) (k : Number F) : Outcome good failure (P.mul k) := by
  rw [Point.mul, requireNonnegative]
  split
  · exact hneg
  · refine h.doubleAndAdd (fun i T hT => ?_) _ (h.atInfinity hP)
    rw [bitTerm] at hT
    split_ifs at hT
    cases hT
    exact hP

theorem good_of_jointTerm {Z T : Point F} (hP : good P) (hQ : good Q)
    (hZ : good Z) {a b : Number F} {i : ℕ} (hT : P.jointTerm Q Z a b i = some T) : good T := by
  rw [jointTerm] at hT
  split at hT
  · cases hT
    exact hZ
  · cases hT
    exact hP
  · cases hT
    exact hQ
  · cases hT

theorem ClosedUnder.jointMul (h : ClosedUnder good failure) (hneg : failure negativeScalar)
    (hone : P.requireOneCurve Q = .ok ()) (hP : good P) (hQ : good Q) (a b : Number F) :
    Outcome good failure (P.jointMul a Q b) := by
  rw [Point.jointMul, hone, requireNonnegative, requireNonnegative]
  split
  · exact hneg
  split
  · exact hneg
  exact (h.add hP hQ).bind fun Z hZ =>
    h.doubleAndAdd (fun i T hT => good_of_jointTerm hP hQ hZ hT) _ (h.atInfinity hP)

/-! ## Points over the integers -/

variable {p a : ℤ}

theorem Over.double (h : P.Over p a) : Outcome (Over p a) IntegerFailure P.double := by
  have hcase := h.doubleCase
  generalize P.double = c at hcase ⊢
  cases hcase with
  | vertical => exact h.atInfinity
  | tangent => exact over_lineSum h.p h.a _ _ _ _
  | failure he => exact he

theorem Over.add (hP : P.Over p a) (hQ : Q.Over p a) :
    Outcome (Over p a) IntegerFailure (P.add Q) := by
  have hdouble := hP.double
  have hcase := hP.sumCase hQ
  generalize P.add Q = c at hcase ⊢
  cases hcase with
  | infinity => exact hP.atInfinity
  | left => exact hP
  | right hfin => exact ⟨hP.p, hP.a, fun _ => hQ.finite hfin⟩
  | double => exact hdouble
  | chord => exact over_lineSum hP.p hP.a _ _ _ _
  | failure he => exact he

/-- Operations on points over the integers fail as operations on integers do. -/
theorem closedUnder_over (p a : ℤ) : ClosedUnder (Over p a : Point F → Prop) IntegerFailure where
  atInfinity h := h.atInfinity
  double h := h.double
  add hP hQ := hP.add hQ

end Point

end CryptoSuite
