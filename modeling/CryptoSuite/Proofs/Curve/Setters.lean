import CryptoSuite.Curve.Point
import CryptoSuite.Proofs.Curve.NamedValues

/-!
# What setters come to

A setter of a curve or of a point looks, forgets, writes, and can fail on the
way. Each comes to all or nothing (`allOrNothing`) : it fails and leaves the curve or
the point as it was, whatever it had done by then, or it succeeds and leaves the one
that is written out here. `Point.setBytes` has no equation of its own : one coordinate
is always taken, and a whole point goes to `Point.setSec`.
-/

namespace CryptoSuite

/-- The state that a computation answers, or the error it fails with and the state from before. -/
def allOrNothing {S : Type} (state : S) : Except Error S → Except Error Unit × S
  | .ok written => (.ok (), written)
  | .error e => (.error e, state)

variable {F : Type} [Representation F]

namespace Curve

/-- The name of the parameter is looked up and a whole base point is decoded before the name of the
curve is forgotten. -/
theorem setBytes_eq (curve : Curve F) (field : String) (octets : Bytes) (part : Coordinate) :
    curve.setBytes field octets part = allOrNothing curve (do
      match ← Field.ofName field, part with
      | .scalar s, _ => return (curve.setScalar ((curve.scalar s).withBytes octets) s).unnamed
      | .base, .x =>
        return { curve with
          name := none, baseAtInfinity := false, gx := curve.gx.withBytes octets }
      | .base, .y =>
        return { curve with
          name := none, baseAtInfinity := false, gy := curve.gy.withBytes octets }
      | .base, _ =>
        return (curve.setBaseDecoded (← PrimitiveError.forward (Sec.decode octets))).unnamed) := by
  rw [setBytes]
  cases Field.ofName field with
  | error e => rfl
  | ok field =>
    cases field with
    | scalar s => cases s <;> rfl
    | base =>
      cases part with
      | x => rfl
      | y => rfl
      | sec | secCompressed =>
        simp only [changing_lift_bind, decodeBase]
        rcases Sec.decode octets with e | (_ | ⟨x, y⟩) <;> rfl

/-- The name of the parameter is looked up first, then the number is asked for its implementation,
and at last the part for being one coordinate. -/
theorem setNumber_eq (curve : Curve F) (field : String) (value : Number F) (part : Coordinate) :
    curve.setNumber field value part = allOrNothing curve (do
      let field ← Field.ofName field
      if value.algorithm ≠ curve.p.algorithm then throw parameterMismatch
      else match field, part with
        | .scalar s, _ => return (curve.setScalar value s).unnamed
        | .base, .x => return { curve with name := none, baseAtInfinity := false, gx := value }
        | .base, .y => return { curve with name := none, baseAtInfinity := false, gy := value }
        | .base, _ => throw baseFromNumber) := by
  rw [setNumber]
  cases Field.ofName field with
  | error e => rfl
  | ok field =>
    by_cases hsame : value.algorithm = curve.p.algorithm
    · simp only [changing_lift_bind, changing_get_bind, hsame, ne_eq, not_true_eq_false, if_false]
      rcases field with s | _
      · cases s <;> rfl
      · cases part <;> rfl
    · simp only [changing_lift_bind, changing_get_bind, hsame, ne_eq, not_false_eq_true, if_true]
      rfl

theorem setBase_eq (curve : Curve F) (point : Point F) :
    curve.setBase point = allOrNothing curve (
      if point.x.algorithm ≠ curve.p.algorithm then .error baseMismatch
      else .ok { curve with
        name := none, baseAtInfinity := point.infinity, gx := point.x, gy := point.y }) := by
  rw [setBase]
  by_cases hsame : point.x.algorithm = curve.p.algorithm <;> simp [hsame, allOrNothing, unnamed]

end Curve

namespace Point

theorem setSec_eq (point : Point F) (octets : Bytes) :
    point.setSec octets = allOrNothing point
      ((PrimitiveError.forward (Sec.decode octets)).map point.setDecoded) := by
  rw [setSec]
  cases Sec.decode octets <;> rfl

/-- The number is asked for its implementation before the part is looked at. -/
theorem setCoordinate_eq (point : Point F) (part : Coordinate) (value : Number F) :
    point.setCoordinate part value = allOrNothing point (
      if value.algorithm ≠ point.curve.p.algorithm then .error coordinateMismatch
      else match part with
        | .x => .ok { point with infinity := false, x := value }
        | .y => .ok { point with infinity := false, y := value }
        | _ => .error notSingle) := by
  rw [setCoordinate]
  by_cases hsame : value.algorithm = point.curve.p.algorithm
  · cases part <;> simp [hsame, allOrNothing, setInfinity]
  · simp [hsame, allOrNothing]

end Point

end CryptoSuite
