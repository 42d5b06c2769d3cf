import CryptoSuite.Curve.Arithmetic
import CryptoSuite.Proofs.Curve.Setters

/-!
# Histories of curves and of their points

A curve changes by loads and writes. `Curve.run` is the curve after a history of
such calls, each of which goes on from the curve that the one before it left,
whether it succeeded or not; a clone goes on from the history of its original.

A curve makes points. The setters and the operations make further points of
these, and the setters leave points when they fail (`Point.MadeOn`). Whatever a
point is made by, it carries the parameters that its curve had when the first of
its line was made (`Point.MadeOn.curve_eq`).
-/

namespace CryptoSuite

variable {F : Type}

/-! ## Computations of points -/

namespace Point

/-- Whatever point a computation answers, it carries the given parameters. -/
def YieldsOn (curve : Curve F) (answer : Except Error (Point F)) : Prop :=
  ∀ P, answer = .ok P → P.curve = curve

theorem yieldsOn_ok {curve : Curve F} {P : Point F} (h : P.curve = curve) :
    YieldsOn curve (.ok P) := by
  rintro _ ⟨⟩
  exact h

theorem yieldsOn_error (curve : Curve F) (e : Error) : YieldsOn curve (.error e) :=
  fun _ h => nomatch h

theorem YieldsOn.bind {α : Type} {curve : Curve F} {x : Except Error α}
    {f : α → Except Error (Point F)} (h : ∀ a, x = .ok a → YieldsOn curve (f a)) :
    YieldsOn curve (x >>= f) := by
  intro R hR
  obtain ⟨a, hx, hf⟩ := bind_eq_ok_iff.1 hR
  exact h a hx R hf

end Point

variable [Representation F]

namespace Curve

/-! ## Calls on a curve -/

/-- A call that may change a curve. -/
inductive Call (F : Type) where
  /-- Load a named curve. -/
  | load (name : String)
  /-- Set a parameter from octets. -/
  | setBytes (field : String) (octets : Bytes) (part : Coordinate)
  /-- Set a parameter from a number. -/
  | setNumber (field : String) (value : Number F) (part : Coordinate)
  /-- Replace the base point. -/
  | setBase (point : Point F)

/-- What a call answers, and the curve it leaves. -/
def attempt (curve : Curve F) : Call F → Except Error Unit × Curve F
  | .load name => curve.load name
  | .setBytes field octets part => curve.setBytes field octets part
  | .setNumber field value part => curve.setNumber field value part
  | .setBase point => curve.setBase point

/-- The curve that a call leaves. -/
def perform (curve : Curve F) (call : Call F) : Curve F :=
  (curve.attempt call).2

/-- The curve after a history of calls. -/
def run (curve : Curve F) (calls : List (Call F)) : Curve F :=
  calls.foldl perform curve

theorem run_append (curve : Curve F) (calls later : List (Call F)) :
    curve.run (calls ++ later) = (curve.run calls).run later :=
  List.foldl_append

end Curve

/-! ## Points of one curve -/

namespace Point

section

variable {curve : Curve F} {P : Point F}

theorem curve_setDecoded (P : Point F) (decoded : Sec.Decoded) :
    (P.setDecoded decoded).curve = P.curve := by
  cases decoded <;> rfl

theorem yieldsOn_decodePoint (curve : Curve F) (octets : Bytes) :
    YieldsOn curve (curve.decodePoint octets) := by
  rw [Curve.decodePoint_eq]
  cases PrimitiveError.forward (Sec.decode octets) with
  | error e => exact yieldsOn_error _ e
  | ok decoded => exact yieldsOn_ok (curve_setDecoded _ decoded)

/-! ### What setters leave -/

theorem curve_setSec (P : Point F) (octets : Bytes) : (P.setSec octets).2.curve = P.curve := by
  rw [setSec_eq]
  cases Sec.decode octets with
  | error e => rfl
  | ok decoded => exact curve_setDecoded P decoded

theorem curve_setBytes (P : Point F) (part : Coordinate) (octets : Bytes) :
    (P.setBytes part octets).2.curve = P.curve := by
  cases part with
  | x => rfl
  | y => rfl
  | sec => exact curve_setSec P octets
  | secCompressed => exact curve_setSec P octets

theorem curve_setCoordinate (P : Point F) (part : Coordinate) (value : Number F) :
    (P.setCoordinate part value).2.curve = P.curve := by
  rw [setCoordinate_eq]
  split
  · rfl
  · cases part <;> rfl

/-! ### What operations answer -/

theorem yieldsOn_invert (P : Point F) : YieldsOn P.curve P.invert := by
  rw [invert]
  split
  · exact yieldsOn_ok rfl
  · exact .bind fun _ _ => .bind fun _ _ => yieldsOn_ok rfl

theorem yieldsOn_alongLine (P : Point F) (slope qx : Number F) :
    YieldsOn P.curve (P.alongLine slope qx) :=
  .bind fun _ _ => .bind fun _ _ => .bind fun _ _ => .bind fun _ _ => .bind fun _ _ =>
    .bind fun _ _ => .bind fun _ _ => .bind fun _ _ => yieldsOn_ok rfl

theorem yieldsOn_double (P : Point F) : YieldsOn P.curve P.double := by
  rw [double]
  split
  · exact yieldsOn_ok rfl
  · exact .bind fun slope _ => yieldsOn_alongLine P slope P.x

/-- A sum carries the parameters of its first operand. -/
theorem yieldsOn_add (P Q : Point F) : YieldsOn P.curve (P.add Q) := by
  rw [add]
  refine .bind fun _ _ => ?_
  cases P.infinity <;> cases Q.infinity
  case true.true => exact yieldsOn_ok rfl
  case true.false => exact yieldsOn_ok rfl
  case false.true => exact yieldsOn_ok rfl
  case false.false =>
    refine .bind fun order _ => ?_
    split
    · exact yieldsOn_double P
    · refine .bind fun order' _ => ?_
      split
      · exact yieldsOn_ok rfl
      · exact .bind fun slope _ => yieldsOn_alongLine P slope Q.x

theorem yieldsOn_doubleAndAdd (term : Nat → Option (Point F)) (count : Nat) (R : Point F) :
    YieldsOn R.curve (doubleAndAdd term count R) := by
  induction count generalizing R with
  | zero => exact yieldsOn_ok rfl
  | succ count ih =>
    rw [doubleAndAdd]
    -- The induction goes on from a sum, whose curve is that of the double and so that of `R`.
    refine .bind fun D hD => ?_
    rw [← yieldsOn_double R D hD]
    cases term count with
    | none => exact ih D
    | some T =>
      refine .bind fun S hS => ?_
      rw [← yieldsOn_add D T S hS]
      exact ih S

theorem yieldsOn_mul (P : Point F) (k : Number F) : YieldsOn P.curve (P.mul k) :=
  .bind fun _ _ => yieldsOn_doubleAndAdd _ _ P.atInfinity

theorem yieldsOn_jointMul (P : Point F) (a : Number F) (Q : Point F) (b : Number F) :
    YieldsOn P.curve (P.jointMul a Q b) :=
  .bind fun _ _ => .bind fun _ _ => .bind fun _ _ => .bind fun _ _ =>
    yieldsOn_doubleAndAdd _ _ P.atInfinity

/-- The points made on a curve : its base point, its point at infinity, the points decoded on it,
what the setters leave of these, failing or not, and what the operations answer, with second
operands from anywhere. -/
inductive MadeOn (curve : Curve F) : Point F → Prop
  | base : MadeOn curve curve.base
  | pointAtInfinity : MadeOn curve curve.pointAtInfinity
  | decodePoint {octets : Bytes} {P : Point F} (h : curve.decodePoint octets = .ok P) :
    MadeOn curve P
  | setInfinity {P : Point F} (infinity : Bool) (hP : MadeOn curve P) :
    MadeOn curve (P.setInfinity infinity)
  | setSec {P : Point F} (octets : Bytes) (hP : MadeOn curve P) :
    MadeOn curve (P.setSec octets).2
  | setBytes {P : Point F} (part : Coordinate) (octets : Bytes) (hP : MadeOn curve P) :
    MadeOn curve (P.setBytes part octets).2
  | setCoordinate {P : Point F} (part : Coordinate) (value : Number F) (hP : MadeOn curve P) :
    MadeOn curve (P.setCoordinate part value).2
  | invert {P Q : Point F} (hP : MadeOn curve P) (h : P.invert = .ok Q) : MadeOn curve Q
  | double {P Q : Point F} (hP : MadeOn curve P) (h : P.double = .ok Q) : MadeOn curve Q
  | add {P Q R : Point F} (hP : MadeOn curve P) (h : P.add Q = .ok R) : MadeOn curve R
  | mul {P R : Point F} {k : Number F} (hP : MadeOn curve P) (h : P.mul k = .ok R) :
    MadeOn curve R
  | jointMul {P Q R : Point F} {a b : Number F} (hP : MadeOn curve P)
    (h : P.jointMul a Q b = .ok R) : MadeOn curve R

/-- A point carries the parameters of the curve it was made on. -/
theorem MadeOn.curve_eq (h : MadeOn curve P) : P.curve = curve := by
  induction h with
  | base => rfl
  | pointAtInfinity => rfl
  | decodePoint h => exact yieldsOn_decodePoint _ _ _ h
  | setInfinity infinity _ ih => exact ih
  | setSec octets _ ih => exact (curve_setSec _ octets).trans ih
  | setBytes part octets _ ih => exact (curve_setBytes _ part octets).trans ih
  | setCoordinate part value _ ih => exact (curve_setCoordinate _ part value).trans ih
  | invert _ h ih => exact (yieldsOn_invert _ _ h).trans ih
  | double _ h ih => exact (yieldsOn_double _ _ h).trans ih
  | add _ h ih => exact (yieldsOn_add _ _ _ h).trans ih
  | mul _ h ih => exact (yieldsOn_mul _ _ _ h).trans ih
  | jointMul _ h ih => exact (yieldsOn_jointMul _ _ _ _ _ h).trans ih

end

end Point

end CryptoSuite
