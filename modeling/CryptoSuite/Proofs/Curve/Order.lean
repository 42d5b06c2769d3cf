import CryptoSuite.Proofs.Curve.Group
import Mathlib.Data.Prod.Lex
import Mathlib.Order.WithBot

/-!
# The order of points

Points are ordered by their `Point.rank` : the point at infinity comes before all others, and these
come in the lexicographic order of the magnitudes of their coordinates. On integer coordinates of
any size and sign `Point.compare` is the comparison of ranks (`Point.Over.compare_eq`), so what it
answers is a linear order.

On the valid points of a curve over a prime field two ranks are equal exactly if the points stand
for one element of the group. Main statement : there the order fits the group, two points compare
as equal exactly if their difference is at infinity (`PrimeCurve.order_fits_group`).
-/

namespace CryptoSuite

/-- Of two steps up in a linear order, the first that is strict decides the whole. -/
theorem cmp_eq_then {α : Type} [LinearOrder α] {a b c : α} (hab : cmp a b ≠ .gt)
    (hbc : cmp b c ≠ .gt) : cmp a c = (cmp a b).then (cmp b c) := by
  cases hfirst : cmp a b with
  | gt => exact absurd hfirst hab
  | eq => rw [(cmp_eq_eq_iff a b).1 hfirst, Ordering.eq_then]
  | lt =>
    have hlt := (cmp_eq_lt_iff a b).1 hfirst
    exact (cmp_eq_lt_iff a c).2 (hlt.trans_le ((cmp_compares b c).ne_gt.1 hbc))

namespace Point

variable {F : Type}

/-- The place of a point in the order. -/
def rank (P : Point F) : WithBot (ℕ ×ₗ ℕ) :=
  if P.infinity then ⊥ else ↑(toLex (P.x.toInt.natAbs, P.y.toInt.natAbs))

theorem rank_of_infinity {P : Point F} (h : P.infinity = true) : P.rank = ⊥ :=
  if_pos h

/-- Finite points come after the point at infinity. -/
theorem bot_lt_rank {P : Point F} (h : P.infinity = false) : ⊥ < P.rank := by
  rw [rank, if_neg (by simp [h])]
  exact WithBot.bot_lt_coe _

/-- Two finite points are ranked by their first coordinates, and by the second ones if those have
one magnitude. -/
theorem cmp_rank_ofIntegers (curve curve' : Curve F) (x y x' y' : ℤ) :
    cmp (ofIntegers curve x y).rank (ofIntegers curve' x' y').rank =
      (Ord.compare x.natAbs x'.natAbs).then (Ord.compare y.natAbs y'.natAbs) := by
  have hmono : StrictMono fun r : ℕ ×ₗ ℕ => (r : WithBot (ℕ ×ₗ ℕ)) := WithBot.coe_strictMono
  have hlex : cmp (toLex (x.natAbs, y.natAbs)) (toLex (x'.natAbs, y'.natAbs)) =
      (Ord.compare x.natAbs x'.natAbs).then (Ord.compare y.natAbs y'.natAbs) := by
    rw [cmp_eq_compare, Prod.Lex.compare_def]
    rfl
  rw [← hlex]
  exact hmono.cmp_map_eq _ _

variable [Representation F] {P Q : Point F}

/-- Comparing points is comparing their ranks. -/
theorem Over.compare_eq {p a p' a' : ℤ} (hP : P.Over p a) (hQ : Q.Over p' a') :
    P.compare Q = .ok (cmp P.rank Q.rank) := by
  cases hPinf : P.infinity <;> cases hQinf : Q.infinity
  case false.false =>
    obtain ⟨x, y, hxy⟩ := hP.exists_ofIntegers hPinf
    obtain ⟨x', y', hxy'⟩ := hQ.exists_ofIntegers hQinf
    rw [hxy, hxy', compare_ofIntegers, cmp_rank_ofIntegers]
  case false.true =>
    rw [rank_of_infinity hQinf, (cmp_eq_gt_iff _ _).2 (bot_lt_rank hPinf), compare, hPinf, hQinf]
  case true.false =>
    rw [rank_of_infinity hPinf, (cmp_eq_lt_iff _ _).2 (bot_lt_rank hQinf), compare, hPinf, hQinf]
  case true.true =>
    rw [rank_of_infinity hPinf, rank_of_infinity hQinf, cmp_self_eq_eq, compare, hPinf, hQinf]

theorem same_eq_true_iff : P.same Q = true ↔ P.compare Q = .ok .eq := by
  unfold same
  split
  · next h => exact iff_of_true rfl h
  · next h => exact iff_of_false Bool.false_ne_true h

end Point

namespace PrimeCurve

variable {F : Type} {E : PrimeCurve} {P Q R : Point F}

theorem Valid.over (h : E.Valid P) : P.Over E.p E.a where
  p := h.curve.p
  a := h.curve.a
  finite hfin := by
    obtain ⟨x, y, hx, hy, -⟩ := h.finite hfin
    exact ⟨x, y, hx, hy⟩

variable [Representation F]

/-- Valid points always compare, and this is a linear order : exchanging the operands reverses the
answer, and of two steps up the first that is strict decides the whole. A point at infinity comes
before every finite one. Two points compare as equal, and count as the same, exactly if the first
and the inverse of the second add up to infinity. -/
theorem order_fits_group (hP : E.Valid P) (hQ : E.Valid Q) (hR : E.Valid R) :
    (∃ o, P.compare Q = .ok o ∧ Q.compare P = .ok o.swap) ∧
    (∀ o o', P.compare Q = .ok o → Q.compare R = .ok o' → o ≠ .gt → o' ≠ .gt →
      P.compare R = .ok (o.then o')) ∧
    (P.infinity = true → Q.infinity = false → P.compare Q = .ok .lt) ∧
    ∃ S, (do P.add (← Q.invert)) = .ok S ∧ (P.compare Q = .ok .eq ↔ S.infinity = true) ∧
      (P.same Q = true ↔ S.infinity = true) := by
  refine ⟨?_, ?_, ?_, ?_⟩
  · refine ⟨_, hP.over.compare_eq hQ.over, ?_⟩
    rw [hQ.over.compare_eq hP.over, cmp_swap]
  · intro o o' ho ho' hne hne'
    rw [hP.over.compare_eq hQ.over] at ho
    rw [hQ.over.compare_eq hR.over] at ho'
    obtain rfl := Except.ok.inj ho
    obtain rfl := Except.ok.inj ho'
    rw [hP.over.compare_eq hR.over, cmp_eq_then hne hne']
  · intro hPinf hQinf
    rw [hP.over.compare_eq hQ.over, Point.rank_of_infinity hPinf,
      (cmp_eq_lt_iff _ _).2 (Point.bot_lt_rank hQinf)]
  · obtain ⟨G, hG⟩ := hP.exists_denotes
    obtain ⟨H, hH⟩ := hQ.exists_denotes
    obtain ⟨S, hS, hd⟩ : E.Answers (do P.add (← Q.invert)) (G + -H) :=
      Answers.bind hH.invert fun N hN => hG.add hN
    have hequal : P.compare Q = .ok .eq ↔ S.infinity = true := by
      rw [hG.compare_eq_iff hH, hd.infinity_iff, ← sub_eq_add_neg, sub_eq_zero]
    exact ⟨S, hS, hequal, Point.same_eq_true_iff.trans hequal⟩

/-- `(5, 1)` comes before its inverse `(5, 16)`, which comes before `(6, 3)`. -/
theorem order_fits_group_small :
    small.Valid (smallPoint 5 1) ∧ small.Valid (smallPoint 5 16) ∧ small.Valid (smallPoint 6 3) ∧
      (smallPoint 5 1).compare (smallPoint 6 3) = .ok .lt ∧
      (∃ S, (do (smallPoint 5 1).add (← (smallPoint 5 16).invert)) = .ok S ∧
        S.infinity = false) := by
  obtain ⟨-, htrans, -, S, hS, hequal, -⟩ :=
    order_fits_group valid_five_one valid_five_sixteen valid_six_three
  refine ⟨valid_five_one, valid_five_sixteen, valid_six_three,
    htrans .lt .lt rfl rfl (by decide) (by decide), S, hS, ?_⟩
  rw [← Bool.not_eq_true, ← hequal]
  exact nofun

end PrimeCurve

end CryptoSuite
