import CryptoSuite.Proofs.Curve.Addition

/-!
# The group of valid points

`PrimeCurve.Denotes P G` says that the point `P` stands for the element `G` of
the group of the curve. Every valid point stands for one (`Valid.exists_denotes`),
sums, doubles and inverses of points stand for those of the group, and two
points compare as equal exactly if they stand for one element
(`Denotes.compare_eq_iff`). What holds in every abelian group thus holds of valid
points, up to comparison (`abelian_group`).

`PrimeCurve.Answers` says the same of a computation, which then succeeds, and
`Point.Agree` says of two that both succeed with points that compare as equal.
-/

namespace CryptoSuite

namespace Point

variable {F : Type} [Representation F]

/-- Two computations both answer, with points that compare as equal. -/
def Agree (c d : Except Error (Point F)) : Prop :=
  ∃ P Q, c = .ok P ∧ d = .ok Q ∧ P.compare Q = .ok .eq

end Point

namespace PrimeCurve

variable {F : Type} {E : PrimeCurve} {P Q : Point F} {G H : E.Group}

/-! ## Points as elements of the group -/

variable (E) in
/-- A point stands for an element of the group. -/
def Denotes (P : Point F) (G : E.Group) : Prop :=
  E.Reads P (PlanePoint.toPlane G)

theorem Valid.exists_denotes (h : E.Valid P) : ∃ G, E.Denotes P G := by
  obtain ⟨A, hA, hc⟩ := valid_iff.1 h
  obtain ⟨G, rfl⟩ := E.exists_toPlane_eq hc
  exact ⟨G, hA⟩

theorem Denotes.valid (h : E.Denotes P G) : E.Valid P :=
  Reads.valid h (PlanePoint.onCurve_toPlane G)

theorem Denotes.atInfinity (h : E.Denotes P G) : E.Denotes P.atInfinity 0 :=
  Reads.atInfinity h

/-- The points that stand for zero are those at infinity. -/
theorem Denotes.infinity_iff (h : E.Denotes P G) : P.infinity = true ↔ G = 0 := by
  unfold Denotes at h
  rcases G with _ | ⟨x, y, hns⟩
  · cases h
    exact ⟨fun _ => rfl, fun _ => rfl⟩
  · cases h
    constructor
    · intro hinf
      cases hinf
    · intro hzero
      exact absurd hzero (WeierstrassCurve.Affine.Point.some_ne_zero hns)

/-! ## Computations of points -/

variable (E) in
/-- A computation answers a point that stands for an element of the group. -/
def Answers (c : Except Error (Point F)) (G : E.Group) : Prop :=
  ∃ P, c = .ok P ∧ E.Denotes P G

theorem Denotes.answers (h : E.Denotes P G) : E.Answers (.ok P) G :=
  ⟨P, rfl, h⟩

theorem Answers.bind {c : Except Error (Point F)} {f : Point F → Except Error (Point F)}
    (hc : E.Answers c G) (hf : ∀ P, E.Denotes P G → E.Answers (f P) H) :
    E.Answers (c >>= f) H := by
  obtain ⟨P, rfl, hP⟩ := hc
  exact hf P hP

/-! ## Operations -/

variable [Representation F]

theorem Denotes.add (hP : E.Denotes P G) (hQ : E.Denotes Q H) :
    E.Answers (P.add Q) (G + H) := by
  obtain ⟨S, hS, hr⟩ :=
    Reads.add hP hQ (PlanePoint.onCurve_toPlane G) (PlanePoint.onCurve_toPlane H)
  refine ⟨S, hS, ?_⟩
  rwa [Denotes, PlanePoint.toPlane_add]

theorem Denotes.double (h : E.Denotes P G) : E.Answers P.double (G + G) := by
  obtain ⟨D, hD, hr⟩ := Reads.double h
  refine ⟨D, hD, ?_⟩
  rwa [Denotes, PlanePoint.toPlane_double E.two_ne_zero]

theorem Denotes.invert (h : E.Denotes P G) : E.Answers P.invert (-G) := by
  obtain ⟨N, hN, hr⟩ := Reads.invert h
  refine ⟨N, hN, ?_⟩
  rwa [Denotes, PlanePoint.toPlane_neg]

/-- Points compare as equal exactly if they stand for one element. -/
theorem Denotes.compare_eq_iff (hP : E.Denotes P G) (hQ : E.Denotes Q H) :
    P.compare Q = .ok .eq ↔ G = H := by
  rw [Reads.compare_eq_iff hP hQ, PlanePoint.toPlane_injective.eq_iff]

/-- Two computations agree exactly if they answer one element. -/
theorem Answers.agree_iff {c d : Except Error (Point F)} (hc : E.Answers c G)
    (hd : E.Answers d H) : Point.Agree c d ↔ G = H := by
  obtain ⟨P, rfl, hP⟩ := hc
  obtain ⟨Q, rfl, hQ⟩ := hd
  rw [← hP.compare_eq_iff hQ]
  constructor
  · rintro ⟨P', Q', hP', hQ', h⟩
    rwa [Except.ok.inj hP', Except.ok.inj hQ']
  · intro h
    exact ⟨P, Q, rfl, rfl, h⟩

/-! ## The laws -/

/-- Sums of valid points are associative and commutative, with the points at infinity neutral
and the inverses opposite, and the inverse of a sum is the sum of the inverses. -/
theorem abelian_group {R : Point F} (hP : E.Valid P) (hQ : E.Valid Q) (hR : E.Valid R) :
    Point.Agree (do (← P.add Q).add R) (do P.add (← Q.add R)) ∧
    Point.Agree (P.add Q) (Q.add P) ∧
    (∀ O, E.Valid O → O.infinity = true →
      Point.Agree (P.add O) (.ok P) ∧ Point.Agree (O.add P) (.ok P)) ∧
    (∃ S, (do P.add (← P.invert)) = .ok S ∧ S.infinity = true) ∧
    Point.Agree (do (← P.add Q).invert) (do (← P.invert).add (← Q.invert)) := by
  obtain ⟨G, hG⟩ := hP.exists_denotes
  obtain ⟨H, hH⟩ := hQ.exists_denotes
  obtain ⟨K, hK⟩ := hR.exists_denotes
  refine ⟨?_, ?_, ?_, ?_, ?_⟩
  · have hl : E.Answers (do (← P.add Q).add R) (G + H + K) :=
      Answers.bind (hG.add hH) fun S hS => hS.add hK
    have hr : E.Answers (do P.add (← Q.add R)) (G + (H + K)) :=
      Answers.bind (hH.add hK) fun S hS => hG.add hS
    exact (hl.agree_iff hr).2 (add_assoc G H K)
  · exact (Answers.agree_iff (hG.add hH) (hH.add hG)).2 (add_comm G H)
  · intro O hO hinf
    obtain ⟨Z, hZ⟩ := hO.exists_denotes
    obtain rfl : Z = 0 := hZ.infinity_iff.1 hinf
    exact ⟨(Answers.agree_iff (hG.add hZ) hG.answers).2 (add_zero G),
      (Answers.agree_iff (hZ.add hG) hG.answers).2 (zero_add G)⟩
  · obtain ⟨S, hS, hd⟩ : E.Answers (do P.add (← P.invert)) (G + -G) :=
      Answers.bind hG.invert fun N hN => hG.add hN
    exact ⟨S, hS, hd.infinity_iff.2 (add_neg_cancel G)⟩
  · have hl : E.Answers (do (← P.add Q).invert) (-(G + H)) :=
      Answers.bind (hG.add hH) fun S hS => hS.invert
    have hr : E.Answers (do (← P.invert).add (← Q.invert)) (-G + -H) :=
      Answers.bind hG.invert fun N hN => Answers.bind hH.invert fun M hM => hN.add hM
    exact (hl.agree_iff hr).2 (neg_add G H)

/-- `(5, 1)`, `(6, 3)` and `(5, 16)` on the small curve, the third opposite to the first. -/
theorem abelian_group_small :
    small.Valid (smallPoint 5 1) ∧ small.Valid (smallPoint 6 3) ∧ small.Valid (smallPoint 5 16) ∧
      Point.Agree (do (← (smallPoint 5 1).add (smallPoint 6 3)).add (smallPoint 5 16))
        (do (smallPoint 5 1).add (← (smallPoint 6 3).add (smallPoint 5 16))) :=
  ⟨valid_five_one, valid_six_three, valid_five_sixteen,
    (abelian_group valid_five_one valid_six_three valid_five_sixteen).1⟩

end PrimeCurve

end CryptoSuite
