import CryptoSuite.Curve.Arithmetic
import Mathlib.Data.List.Forall2
import Mathlib.Data.Option.Basic
import Mathlib.Logic.Function.Basic

/-!
# Coordinates remembered at infinity

A point at infinity remembers coordinates. Two points are `Point.Alike` if they
are equal, or points at infinity of one curve, whatever these remember. Nothing
that can be asked of points tells alike points apart (`Alike.observe_eq`), and what
is made of alike points is alike or fails with the same error : inverses
(`Alike.invert`), doubles (`Alike.double`), sums (`Alike.add`), and by induction
over the bits the multiples of one point and of two (`Alike.doubleAndAdd`).

Points are held under names, and a history of requests asks questions of them and
puts what it makes of them under names again. Main statement : the history gets
the same replies, up to alike points, whatever a point at infinity remembered at
its start (`Point.hidden_coordinates_unobservable`).
-/

namespace CryptoSuite

namespace Point

variable {F ι : Type}

/-! ## Requests -/

/-- A question about points under names. -/
inductive Question (ι : Type) where
  /-- Is the point at infinity? -/
  | isInfinity (P : ι)
  /-- The coordinates of a finite point. -/
  | coordinates (P : ι)
  /-- One coordinate. -/
  | coordinate (P : ι) (part : Coordinate)
  /-- Octets of a coordinate or of the whole point. -/
  | bytes (P : ι) (part : Coordinate)
  /-- Their announced number. -/
  | byteSize (P : ι) (part : Coordinate)
  /-- The encoding. -/
  | toSec (P : ι) (format : Sec.Format)
  /-- Is the point on its curve? -/
  | isOnCurve (P : ι)
  /-- The order of two points. -/
  | compare (P Q : ι)
  /-- Are two points equal? -/
  | same (P Q : ι)
  /-- The text for listings. -/
  | listing (P : ι)

/-- An operation on points under names. -/
inductive Operation (F ι : Type) where
  | invert (P : ι)
  | double (P : ι)
  | add (P Q : ι)
  | mul (P : ι) (k : Number F)
  | jointMul (P : ι) (k : Number F) (Q : ι) (l : Number F)

/-- What a question is answered with. -/
inductive Observation (F : Type) where
  | verdict (holds : Bool)
  | coordinates (both : Option (Number F × Number F))
  | number (value : Number F)
  | octets (octets : Bytes)
  | size (size : Nat)
  | order (order : Ordering)
  | text (text : String)

/-- A request to points under names. -/
inductive Request (F ι : Type) where
  /-- Ask a question. -/
  | ask (question : Question ι)
  /-- Put what an operation answers under a name. -/
  | make (operation : Operation F ι) (name : ι)

/-- What a request is replied with. -/
inductive Reply (F : Type) where
  | observed (answer : Except Error (Observation F))
  | made (answer : Except Error (Point F))

variable [Representation F]

/-- The answer to a question. -/
def observe (points : ι → Point F) : Question ι → Except Error (Observation F)
  | .isInfinity P => .ok (.verdict (points P).infinity)
  | .coordinates P => .ok (.coordinates (points P).coordinates)
  | .coordinate P part => do return .number (← (points P).coordinate part)
  | .bytes P part => do return .octets (← (points P).bytes part)
  | .byteSize P part => do return .size (← (points P).byteSize part)
  | .toSec P format => do return .octets (← (points P).toSec format)
  | .isOnCurve P => do return .verdict (← (points P).isOnCurve)
  | .compare P Q => do return .order (← (points P).compare (points Q))
  | .same P Q => .ok (.verdict ((points P).same (points Q)))
  | .listing P => .ok (.text (points P).listing)

/-- The point an operation answers. -/
def operate (points : ι → Point F) : Operation F ι → Except Error (Point F)
  | .invert P => (points P).invert
  | .double P => (points P).double
  | .add P Q => (points P).add (points Q)
  | .mul P k => (points P).mul k
  | .jointMul P k Q l => (points P).jointMul k (points Q) l

/-- The reply to a request. -/
def reply (points : ι → Point F) : Request F ι → Reply F
  | .ask question => .observed (observe points question)
  | .make operation _ => .made (operate points operation)

variable [DecidableEq ι]

/-- The points after a request. An operation that fails puts nothing under its name. -/
def perform (points : ι → Point F) : Request F ι → ι → Point F
  | .ask _ => points
  | .make operation name =>
    match operate points operation with
    | .ok P => Function.update points name P
    | .error _ => points

/-- The points after a history of requests. -/
def run (points : ι → Point F) (requests : List (Request F ι)) : ι → Point F :=
  requests.foldl perform points

/-- The replies to a history of requests. -/
def transcript : (ι → Point F) → List (Request F ι) → List (Reply F)
  | _, [] => []
  | points, request :: requests =>
    reply points request :: transcript (perform points request) requests

/-! ## Alike points -/

omit [Representation F] [DecidableEq ι]

/-- Equal points, or points at infinity of one curve. -/
inductive Alike : Point F → Point F → Prop
  | refl (P : Point F) : Alike P P
  | hidden (curve : Curve F) (x y x' y' : Number F) :
    Alike ⟨true, x, y, curve⟩ ⟨true, x', y', curve⟩

/-- Two answers of operations : the same error, or alike points. -/
abbrev AlikeAnswers : Except Error (Point F) → Except Error (Point F) → Prop :=
  InStep Eq Alike

/-- Two replies : the same observation or the same error, and alike points. -/
inductive Reply.Alike : Reply F → Reply F → Prop
  | observed (answer : Except Error (Observation F)) : Alike (.observed answer) (.observed answer)
  | made {answer answer' : Except Error (Point F)} (h : AlikeAnswers answer answer') :
    Alike (.made answer) (.made answer')

variable [Representation F] {P P' Q Q' : Point F}

omit [Representation F] in
theorem alikeAnswers_self (answer : Except Error (Point F)) : AlikeAnswers answer answer :=
  InStep.refl Eq.refl .refl answer

namespace Alike

/-! ## What is made of alike points -/

omit [Representation F] in
theorem atInfinity (hP : Alike P P') : Alike P.atInfinity P'.atInfinity := by
  cases hP with
  | refl => exact .refl _
  | hidden => exact .hidden ..

theorem invert (hP : Alike P P') : AlikeAnswers P.invert P'.invert := by
  cases hP with
  | refl => exact alikeAnswers_self _
  | hidden => exact .ok (.hidden ..)

theorem double (hP : Alike P P') : AlikeAnswers P.double P'.double := by
  cases hP with
  | refl => exact alikeAnswers_self _
  | hidden => exact .ok (.hidden ..)

/-- Only the curves of the operands are compared. -/
theorem requireOneCurve_eq (hP : Alike P P') (hQ : Alike Q Q') :
    P.requireOneCurve Q = P'.requireOneCurve Q' := by
  cases hP <;> cases hQ <;> rfl

theorem add (hP : Alike P P') (hQ : Alike Q Q') : AlikeAnswers (P.add Q) (P'.add Q') := by
  unfold Point.add
  rw [hP.requireOneCurve_eq hQ]
  refine InStep.after Eq.refl _ fun _ => ?_
  cases hP with
  | refl =>
    cases hQ with
    | refl => exact alikeAnswers_self _
    | hidden => cases P.infinity <;> exact alikeAnswers_self _
  | hidden curve x y x' y' =>
    cases hQ with
    | refl =>
      -- A finite second operand lends its coordinates, so the sums are equal.
      cases Q.infinity with
      | true => exact .ok (.hidden ..)
      | false => exact alikeAnswers_self _
    | hidden => exact .ok (.hidden ..)

/-- Runs of double-and-add from alike points with alike terms, by induction over the bits. -/
theorem doubleAndAdd {term term' : Nat → Option (Point F)}
    (hterm : ∀ i, Option.Rel Alike (term i) (term' i)) (count : Nat) (hP : Alike P P') :
    AlikeAnswers (Point.doubleAndAdd term count P) (Point.doubleAndAdd term' count P') := by
  induction count generalizing P P' with
  | zero => exact .ok hP
  | succ i ih =>
    refine hP.double.bind fun D D' hD => ?_
    have hi := hterm i
    generalize term i = t, term' i = t' at hi
    cases hi with
    | none => exact ih hD
    | some hT => exact (hD.add hT).bind fun S S' hS => ih hS

theorem mul (hP : Alike P P') (k : Number F) : AlikeAnswers (P.mul k) (P'.mul k) := by
  unfold Point.mul
  refine InStep.after Eq.refl _ fun _ => doubleAndAdd (fun i => ?_) _ hP.atInfinity
  rw [bitTerm, bitTerm]
  split
  · exact .some hP
  · exact .none

theorem jointTerm {Z Z' : Point F} (hP : Alike P P') (hQ : Alike Q Q') (hZ : Alike Z Z')
    (k l : Number F) (i : Nat) :
    Option.Rel Alike (P.jointTerm Q Z k l i) (P'.jointTerm Q' Z' k l i) := by
  rw [Point.jointTerm, Point.jointTerm]
  split
  · exact .some hZ
  · exact .some hP
  · exact .some hQ
  · exact .none

theorem jointMul (hP : Alike P P') (hQ : Alike Q Q') (k l : Number F) :
    AlikeAnswers (P.jointMul k Q l) (P'.jointMul k Q' l) := by
  unfold Point.jointMul
  rw [hP.requireOneCurve_eq hQ]
  refine InStep.after Eq.refl _ fun _ => InStep.after Eq.refl _ fun _ =>
    InStep.after Eq.refl _ fun _ => ?_
  exact (hP.add hQ).bind fun Z Z' hZ => doubleAndAdd (hP.jointTerm hQ hZ k l) _ hP.atInfinity

/-! ## What can be seen of alike points -/

omit [Representation F] in
theorem infinity_eq (hP : Alike P P') : P.infinity = P'.infinity := by
  cases hP <;> rfl

omit [Representation F] in
theorem coordinates_eq (hP : Alike P P') : P.coordinates = P'.coordinates := by
  cases hP <;> rfl

theorem isOnCurve_eq (hP : Alike P P') : P.isOnCurve = P'.isOnCurve := by
  cases hP <;> rfl

theorem listing_eq (hP : Alike P P') : P.listing = P'.listing := by
  cases hP with
  | refl => rfl
  | hidden => simp only [Point.listing, if_true]

theorem compare_eq (hP : Alike P P') (hQ : Alike Q Q') : P.compare Q = P'.compare Q' := by
  cases hP with
  | refl =>
    cases hQ with
    | refl => rfl
    | hidden => unfold Point.compare; cases P.infinity <;> rfl
  | hidden =>
    cases hQ with
    | refl => unfold Point.compare; cases Q.infinity <;> rfl
    | hidden => rfl

omit [Representation F] in
/-- A coordinate of a point at infinity is refused before it is read. -/
theorem coordinate_eq (hP : Alike P P') (part : Coordinate) :
    P.coordinate part = P'.coordinate part := by
  cases hP <;> rfl

theorem toSec_eq (hP : Alike P P') (format : Sec.Format) : P.toSec format = P'.toSec format := by
  cases hP with
  | refl => rfl
  | hidden => cases format <;> rfl

theorem bytes_eq (hP : Alike P P') (part : Coordinate) : P.bytes part = P'.bytes part := by
  cases hP with
  | refl => rfl
  | hidden => cases part <;> rfl

theorem byteSize_eq (hP : Alike P P') (part : Coordinate) :
    P.byteSize part = P'.byteSize part := by
  cases hP with
  | refl => rfl
  | hidden => cases part <;> rfl

variable {points points' : ι → Point F} (h : ∀ name, Alike (points name) (points' name))
include h

theorem observe_eq (question : Question ι) :
    observe points question = observe points' question := by
  cases question with
  | isInfinity P => simp only [observe, (h P).infinity_eq]
  | coordinates P => simp only [observe, (h P).coordinates_eq]
  | coordinate P part => simp only [observe, (h P).coordinate_eq]
  | bytes P part => simp only [observe, (h P).bytes_eq]
  | byteSize P part => simp only [observe, (h P).byteSize_eq]
  | toSec P format => simp only [observe, (h P).toSec_eq]
  | isOnCurve P => simp only [observe, (h P).isOnCurve_eq]
  | compare P Q => simp only [observe, (h P).compare_eq (h Q)]
  | same P Q => simp only [observe, Point.same, (h P).compare_eq (h Q)]
  | listing P => simp only [observe, (h P).listing_eq]

theorem operate (operation : Operation F ι) :
    AlikeAnswers (Point.operate points operation) (Point.operate points' operation) := by
  cases operation with
  | invert P => exact (h P).invert
  | double P => exact (h P).double
  | add P Q => exact (h P).add (h Q)
  | mul P k => exact (h P).mul k
  | jointMul P k Q l => exact (h P).jointMul (h Q) k l

/-! ## Histories -/

theorem reply (request : Request F ι) :
    (Point.reply points request).Alike (Point.reply points' request) := by
  cases request with
  | ask question =>
    rw [Point.reply, Point.reply, observe_eq h]
    exact .observed _
  | make operation name => exact .made (operate h operation)

variable [DecidableEq ι]

omit [Representation F] in
theorem update (hP : Alike P P') (name other : ι) :
    Alike (Function.update points name P other) (Function.update points' name P' other) := by
  by_cases hname : other = name
  · subst hname
    simpa only [Function.update_self] using hP
  · simpa only [Function.update_of_ne hname] using h other

/-- A request keeps points alike. -/
theorem perform (request : Request F ι) (name : ι) :
    Alike (Point.perform points request name) (Point.perform points' request name) := by
  cases request with
  | ask question => exact h name
  | make operation target =>
    have hanswers := operate h operation
    rw [Point.perform, Point.perform]
    generalize Point.operate points operation = answer, Point.operate points' operation = answer'
      at hanswers
    cases hanswers with
    | error => exact h name
    | ok hmade => exact update h hmade target name

/-- A history of requests keeps points alike. -/
theorem run (requests : List (Request F ι)) (name : ι) :
    Alike (Point.run points requests name) (Point.run points' requests name) := by
  induction requests generalizing points points' with
  | nil => exact h name
  | cons request requests ih => exact ih (perform h request)

theorem transcript (requests : List (Request F ι)) :
    List.Forall₂ Reply.Alike (Point.transcript points requests)
      (Point.transcript points' requests) := by
  induction requests generalizing points points' with
  | nil => exact .nil
  | cons request requests ih => exact .cons (reply h request) (ih (perform h request))

end Alike

/-- Let a point at infinity remember other coordinates. Then every history of requests, to it and
to whatever else there is, gets the same observations and the same errors, and points that are equal
or both at infinity on one curve, and so are the points it leaves under every name. -/
theorem hidden_coordinates_unobservable [DecidableEq ι] (curve : Curve F) (x y x' y' : Number F)
    (points : ι → Point F) (name : ι) (requests : List (Request F ι)) :
    List.Forall₂ Reply.Alike
      (transcript (Function.update points name ⟨true, x, y, curve⟩) requests)
      (transcript (Function.update points name ⟨true, x', y', curve⟩) requests) ∧
    ∀ other, Alike (run (Function.update points name ⟨true, x, y, curve⟩) requests other)
      (run (Function.update points name ⟨true, x', y', curve⟩) requests other) := by
  have hstart := Alike.update (fun name => .refl (points name)) (.hidden curve x y x' y') name
  exact ⟨Alike.transcript hstart requests, Alike.run hstart requests⟩

end Point

end CryptoSuite
