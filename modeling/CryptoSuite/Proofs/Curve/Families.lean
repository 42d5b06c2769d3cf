import CryptoSuite.Proofs.Curve.BaseWrites
import CryptoSuite.Proofs.Curve.Closure
import CryptoSuite.Proofs.Curve.HiddenCoordinates
import CryptoSuite.Proofs.Curve.ParameterStore

/-!
# Curves and points from a family of numbers

A curve is from a family of numbers if every slot holds one of it (`Curve.All`), and
a point if both coordinates are from it, those remembered at infinity included, and
the curve is (`Point.All`). A family has one name, and a setter takes only what goes
by it. So a call on a curve, or a write to a point, leaves these in the family if
what it brings under the name is from it (`Curve.All.perform`, `Point.All.accept`).

All numbers of one name are a family under the law of the names, and then what an
operation answers is from the family too (`Point.Named.operate`), since every number
it makes goes by the name of a first operand.
-/

namespace CryptoSuite

variable {F ι : Type}

/-- Every number of the curve is good. -/
def Curve.All (good : Number F → Prop) (curve : Curve F) : Prop :=
  ∀ s, good (curve.slot s)

/-- Both coordinates are good, at infinity too, and so is every number of the curve. -/
structure Point.All (good : Number F → Prop) (P : Point F) : Prop where
  x : good P.x
  y : good P.y
  curve : P.curve.All good

/-- The numbers that a write brings along. -/
def Point.Write.Brings (value : Number F) : Point.Write F → Prop
  | .octets _ _ => False
  | .number _ given => value = given

variable [Representation F] {name : String} {good : Number F → Prop}

/-! ## Curves -/

namespace Curve

variable {curve : Curve F}

omit [Representation F] in
theorem All.base (h : curve.All good) : curve.base.All good :=
  ⟨h .gx, h .gy, h⟩

omit [Representation F] in
theorem All.pointAtInfinity (h : curve.All good) : curve.pointAtInfinity.All good :=
  ⟨h .p, h .p, h⟩

theorem All.perform (hgood : Number.Family name good) (h : curve.All good) {call : Call F}
    (hcall : call.Uniform)
    (hbrings : ∀ value, call.Brings value → value.algorithm = name → good value) :
    (curve.perform call).All good := by
  have hstore : ∀ s, good (curve.store.slot s) := h
  intro s
  have hslot := ParameterStore.slots_perform hgood hcall hbrings hstore s
  rw [perform_eq]
  cases s <;> exact hslot

end Curve

/-! ## Points -/

namespace Point

variable {P : Point F}

omit [Representation F] in
theorem All.setInfinity (h : P.All good) (infinity : Bool) : (P.setInfinity infinity).All good :=
  ⟨h.x, h.y, h.curve⟩

theorem All.setDecoded (hgood : Number.Family name good) (h : P.All good)
    (decoded : Sec.Decoded) : (P.setDecoded decoded).All good := by
  cases decoded with
  | infinity => exact ⟨h.x, h.y, h.curve⟩
  | affine x y => exact ⟨hgood.withBytes h.x x, hgood.withBytes h.y y, h.curve⟩

theorem All.setSec (hgood : Number.Family name good) (h : P.All good) (octets : Bytes) :
    (P.setSec octets).2.All good := by
  rw [setSec_eq]
  cases Sec.decode octets with
  | error e => exact h
  | ok decoded => exact h.setDecoded hgood decoded

theorem All.decodePoint (hgood : Number.Family name good) {curve : Curve F} (h : curve.All good)
    {octets : Bytes} (hP : curve.decodePoint octets = .ok P) : P.All good := by
  have hleft := h.pointAtInfinity.setSec hgood octets
  rw [accepted_eq_ok_iff.1 hP] at hleft
  exact hleft

theorem All.setBytes (hgood : Number.Family name good) (h : P.All good) (part : Coordinate)
    (octets : Bytes) : (P.setBytes part octets).2.All good := by
  cases part with
  | x => exact ⟨hgood.withBytes h.x octets, h.y, h.curve⟩
  | y => exact ⟨h.x, hgood.withBytes h.y octets, h.curve⟩
  | sec => exact h.setSec hgood octets
  | secCompressed => exact h.setSec hgood octets

theorem All.setCoordinate (hgood : Number.Family name good) (h : P.All good) (part : Coordinate)
    {value : Number F} (hvalue : value.algorithm = name → good value) :
    (P.setCoordinate part value).2.All good := by
  have hp : P.curve.p.algorithm = name := hgood.algorithm (h.curve .p)
  rw [setCoordinate_eq, hp]
  split
  · exact h
  next hsame =>
    have hnew := hvalue (Classical.not_not.1 hsame)
    cases part with
    | x => exact ⟨hnew, h.y, h.curve⟩
    | y => exact ⟨h.x, hnew, h.curve⟩
    | sec => exact h
    | secCompressed => exact h

theorem All.accept (hgood : Number.Family name good) (h : P.All good) (write : Write F)
    (hbrings : ∀ value, write.Brings value → value.algorithm = name → good value) :
    (P.accept write).All good := by
  cases write with
  | octets part numeral => exact h.setBytes hgood part numeral
  | number part value => exact h.setCoordinate hgood part (hbrings value rfl)

/-- Both coordinates have one representation. -/
theorem All.uniform (hgood : Number.Family name good) (h : P.All good) :
    (Curve.Call.setBase P).Uniform :=
  (hgood.algorithm h.x).trans (hgood.algorithm h.y).symm

/-! ## What operations answer -/

/-- Every number of the point goes by the given name. -/
abbrev Named (name : String) (P : Point F) : Prop :=
  P.All fun value => value.algorithm = name

section Operations

variable (hF : Number.KeepsName F) {Q : Point F} {points : ι → Point F}
include hF

theorem Named.alongLine (hP : P.Named name) {slope : Number F} (hslope : slope.algorithm = name)
    (qx : Number F) : Outcome (Named name) (fun _ => True) (P.alongLine slope qx) := by
  refine .bind (hF.named_squareMod slope _) fun square hsquare => ?_
  refine .bind (hF.named_sub square _) fun first hfirst => ?_
  refine .bind (hF.named_sub first _) fun second hsecond => ?_
  refine .bind (hF.named_rem second _) fun x hx => ?_
  refine .bind (hF.named_sub P.x _) fun run hrun => ?_
  refine .bind (hF.named_mulMod run _ _) fun rise hrise => ?_
  refine .bind (hF.named_sub rise _) fun difference hdifference => ?_
  refine .bind (hF.named_rem difference _) fun y hy => ?_
  refine ⟨?_, ?_, hP.curve⟩
  · exact hx.trans (hsecond.trans (hfirst.trans (hsquare.trans hslope)))
  · exact hy.trans (hdifference.trans (hrise.trans (hrun.trans hP.x)))

/-- The slope of a tangent goes by the name of the first coordinate. -/
theorem named_tangentSlope (P : Point F) : Number.Named P.x.algorithm P.tangentSlope := by
  refine .bind (hF.named_squareMod P.x _) fun square hsquare => ?_
  refine .bind (hF.named_mulMod square _ _) fun triple htriple => ?_
  refine .bind (hF.named_add triple _) fun numerator hnumerator => ?_
  refine .bind (.any _) fun denominator _ => .bind (.any _) fun inverse _ => ?_
  refine .bind (hF.named_mul numerator _) fun slope hslope => ?_
  rw [← hsquare, ← htriple, ← hnumerator, ← hslope]
  exact hF.named_rem slope _

/-- The slope of a chord goes by the name of the second coordinate of the second point. -/
theorem named_chordSlope (P Q : Point F) : Number.Named Q.y.algorithm (P.chordSlope Q) := by
  refine .bind (.any _) fun denominator _ => .bind (.any _) fun inverse _ => ?_
  refine .bind (hF.named_sub Q.y _) fun numerator hnumerator => ?_
  refine .bind (hF.named_mul numerator _) fun slope hslope => ?_
  rw [← hnumerator, ← hslope]
  exact hF.named_rem slope _

theorem Named.invert (hP : P.Named name) : Outcome (Named name) (fun _ => True) P.invert := by
  rw [Point.invert]
  split
  · exact ⟨hP.x, hP.y, hP.curve⟩
  · refine .bind (hF.named_sub P.curve.p _) fun difference hdifference => ?_
    refine .bind (hF.named_rem difference _) fun y hy => ?_
    exact ⟨hP.x, hy.trans (hdifference.trans (hP.curve .p)), hP.curve⟩

/-- The points of one name are closed under the operations, whatever these fail with. -/
theorem closedUnder_named (name : String) :
    ClosedUnder (Named name : Point F → Prop) fun _ => True := by
  have hdouble {P : Point F} (hP : P.Named name) :
      Outcome (Named name) (fun _ => True) P.double := by
    rw [Point.double]
    split
    · exact ⟨hP.x, hP.y, hP.curve⟩
    · exact .bind (named_tangentSlope hF P) fun slope hslope =>
        hP.alongLine hF (hslope.trans hP.x) P.x
  refine ⟨fun hP => ⟨hP.x, hP.y, hP.curve⟩, hdouble, ?_⟩
  intro P Q hP hQ
  refine .bind (.any _) fun _ _ => ?_
  cases P.infinity <;> cases Q.infinity
  case true.true => exact ⟨hP.x, hP.y, hP.curve⟩
  case true.false => exact ⟨hQ.x, hQ.y, hP.curve⟩
  case false.true => exact hP
  case false.false =>
    refine .bind (.any _) fun order _ => ?_
    split
    · exact hdouble hP
    · refine .bind (.any _) fun order' _ => ?_
      split
      · exact ⟨hP.x, hP.y, hP.curve⟩
      · exact .bind (named_chordSlope hF P Q) fun slope hslope =>
          hP.alongLine hF (hslope.trans hQ.y) Q.x

theorem Named.operate (h : ∀ point, (points point).Named name) (operation : Operation F ι) :
    Outcome (Named name) (fun _ => True) (Point.operate points operation) := by
  have hclosed := closedUnder_named hF name
  cases operation with
  | invert P => exact (h P).invert hF
  | double P => exact hclosed.double (h P)
  | add P Q => exact hclosed.add (h P) (h Q)
  | mul P k => exact hclosed.mul trivial (h P) k
  | jointMul P k Q l =>
    cases hone : (points P).requireOneCurve (points Q) with
    | ok => exact hclosed.jointMul trivial hone (h P) (h Q) k l
    | error e =>
      rw [Point.operate, Point.jointMul, hone]
      exact .bind (.any _) fun _ _ => trivial

end Operations

end Point

end CryptoSuite
