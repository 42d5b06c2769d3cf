import CryptoSuite.Proofs.Curve.Equation
import CryptoSuite.Proofs.Curve.Ladder
import CryptoSuite.Proofs.Curve.NamedValues
import CryptoSuite.Proofs.Curve.ScalarMultiple
import CryptoSuite.Proofs.Integer.Primality

/-!
# The base points of the named curves

Each entry of the table whose prime is one is a curve without singular points
(`NamedCurve.toPrimeCurve`), and its base point is on it. The ladder takes the
base point to its opposite in `n - 1` steps. All of this is one evaluation for
each entry (`NamedCurve.inOrder_of_mem`). If `n` is prime too, it is the order of
the base point, so the multiples of the point that `Curve.load` installs repeat
with period `n` and are at infinity at the multiples of `n` only
(`loaded_base_order`).
-/

namespace CryptoSuite

namespace NamedCurve

/-! ## What the table holds -/

theorem find?_name : ∀ named ∈ all, find? named.name = some named := by
  simp only [all, List.forall_mem_cons, List.not_mem_nil, false_imp_iff, implies_true, and_true]
  exact ⟨rfl, rfl, rfl, rfl, rfl, rfl, rfl, rfl⟩

/-- What the curve of an entry needs of its numbers: an odd prime, no singular point, a base point
on the curve whose `n - 1`-fold is its opposite. -/
def InOrder (named : NamedCurve) : Prop :=
  named.number .p ≠ 2 ∧
    ¬(named.number .p : ℤ) ∣ 4 * (named.number .a : ℤ) ^ 3 + 27 * (named.number .b : ℤ) ^ 2 ∧
    (named.number .gx < named.number .p ∧ named.number .gy < named.number .p ∧
      (named.number .gy : ℤ) ^ 2 ≡
        (named.number .gx : ℤ) ^ 3 + named.number .a * named.number .gx + named.number .b
        [ZMOD named.number .p]) ∧
    ScaledPoint.closes (named.number .p) (named.number .a) (named.number .gx)
      (named.number .gy) (named.number .n) = true

instance (named : NamedCurve) : Decidable named.InOrder :=
  inferInstanceAs (Decidable (_ ∧ _))

theorem inOrder_of_mem : ∀ named ∈ all, named.InOrder := by
  decide +kernel

/-- An entry as a curve over the field of its prime. -/
def toPrimeCurve (named : NamedCurve) (hmem : named ∈ all) (hp : (named.number .p).Prime) :
    PrimeCurve where
  p := named.number .p
  a := named.number .a
  b := named.number .b
  prime := hp
  odd := (inOrder_of_mem named hmem).1
  nonsingular := (inOrder_of_mem named hmem).2.1

end NamedCurve

/-! ## What loading installs -/

namespace Curve

variable {F : Type} [Representation F] {named : NamedCurve}

theorem load_name (hmem : named ∈ NamedCurve.all) (curve : Curve F) :
    curve.load named.name = (.ok (), curve.withNamed named.name named.values) :=
  load_eq_ok_iff.mpr ⟨named, NamedCurve.find?_name named hmem, rfl⟩

end Curve

namespace PrimeCurve

variable {F : Type} [Representation F] {E : PrimeCurve} {P : Point F} {G : E.Group}

theorem valid_base_withNamed {curve : Curve F} {m : ℤ} {named : NamedCurve}
    (hcurve : curve.p = .integer m) (hmem : named ∈ NamedCurve.all) (hp : (named.number .p).Prime) :
    (named.toPrimeCurve hmem hp).Valid (curve.withNamed named.name named.values).base := by
  obtain ⟨-, -, ⟨hx, hy, heq⟩, -⟩ := NamedCurve.inOrder_of_mem named hmem
  rw [Curve.withNamed_eq hcurve]
  have hgx : 0 ≤ (named.number .gx : ℤ) ∧ (named.number .gx : ℤ) < named.number .p :=
    ⟨by omega, by exact_mod_cast hx⟩
  have hgy : 0 ≤ (named.number .gy : ℤ) ∧ (named.number .gy : ℤ) < named.number .p :=
    ⟨by omega, by exact_mod_cast hy⟩
  exact ⟨⟨rfl, rfl, rfl⟩, fun _ => ⟨_, _, rfl, rfl, hgx, hgy, heq⟩⟩

/-! ## Multiples of a point of prime order -/

/-- If the `n`-fold of a finite point is zero and `n` is prime, its multiples repeat with period
`n` and are at infinity at the multiples of `n` only. -/
theorem Denotes.multiples_of_prime_order (hP : E.Denotes P G) (hfin : P.infinity = false) {n : ℕ}
    (hn : n.Prime) (hzero : n • G = 0) (k : ℕ) :
    ∃ M R, P.mul (.integer k) = .ok M ∧ M.isOnCurve = .ok true ∧
      P.mul (.integer (k % n : ℕ)) = .ok R ∧ M.compare R = .ok .eq ∧
      (M.infinity = true ↔ n ∣ k) := by
  have hG : G ≠ 0 := by
    intro hG
    rw [hP.infinity_iff.2 hG] at hfin
    cases hfin
  have horder : addOrderOf G = n := by
    have : Fact n.Prime := ⟨hn⟩
    exact addOrderOf_eq_prime hzero hG
  obtain ⟨M, hM, hMG⟩ := hP.mul k
  obtain ⟨R, hR, hRG⟩ := hP.mul (k % n)
  have hmod : k • G = (k % n) • G := by
    rw [← horder, mod_addOrderOf_nsmul]
  refine ⟨M, R, hM, hMG.valid.isOnCurve, hR, (hMG.compare_eq_iff hRG).2 hmod, ?_⟩
  rw [hMG.infinity_iff, ← addOrderOf_dvd_iff_nsmul_eq_zero, horder]

/-- The base point that loading a named curve with prime `p` and `n` installs has order `n`. -/
theorem loaded_base_order {named : NamedCurve} (hmem : named ∈ NamedCurve.all)
    (hp : (named.number .p).Prime) (hn : (named.number .n).Prime) {curve : Curve F} {m : ℤ}
    (hcurve : curve.p = .integer m) :
    ∃ loaded, curve.load named.name = (.ok (), loaded) ∧
      (∀ part, loaded.number "n" part = .ok (.integer (named.number .n))) ∧
      ∀ k : ℕ, ∃ M R, loaded.base.mul (.integer k) = .ok M ∧ M.isOnCurve = .ok true ∧
        loaded.base.mul (.integer (k % named.number .n : ℕ)) = .ok R ∧ M.compare R = .ok .eq ∧
        (M.infinity = true ↔ named.number .n ∣ k) := by
  have hvalid := valid_base_withNamed hcurve hmem hp
  obtain ⟨G, hG⟩ := hvalid.exists_denotes
  have heq := Curve.withNamed_eq hcurve named
  have hplane : PlanePoint.toPlane G =
      .finite ((named.number .gx : ℤ) : ZMod (named.number .p))
        ((named.number .gy : ℤ) : ZMod (named.number .p)) := by
    rw [← hG.plane_eq, heq]
    rfl
  have hzero : named.number .n • G = 0 :=
    nsmul_eq_zero_of_closes hplane hn.one_lt (NamedCurve.inOrder_of_mem named hmem).2.2.2
  refine ⟨_, Curve.load_name hmem curve, fun part => ?_, fun k => ?_⟩
  · rw [heq]
    cases part <;> rfl
  · exact hG.multiples_of_prime_order (by rw [heq]; rfl) hn hzero k

/-! ### secp224r1 -/

/-- Steps up to the prime and the order of secp224r1. -/
def secp224r1Steps : List PrimalityStep := [
  ⟨3, 2, [(2, 1)]⟩,
  ⟨10909, 2, [(3, 3), (2, 2)]⟩,
  ⟨65537, 3, [(2, 16)]⟩,
  ⟨11105363, 2, [(10909, 1)]⟩,
  ⟨821796863, 2, [(11105363, 1)]⟩,
  ⟨432621809776543, 2, [(821796863, 1)]⟩,
  ⟨136401162692544977256234449, 2, [(432621809776543, 1)]⟩,
  ⟨34646440928557194402992574983797, 2, [(136401162692544977256234449, 1)]⟩,
  ⟨375503554633724504423937478103159147573209, 2, [(34646440928557194402992574983797, 1)]⟩,
  ⟨50520606258875818707470860153287666700917696099933389351507, 2,
    [(375503554633724504423937478103159147573209, 1)]⟩,
  ⟨NamedCurve.secp224r1.number .n, 2,
    [(50520606258875818707470860153287666700917696099933389351507, 1)]⟩,
  ⟨NamedCurve.secp224r1.number .p, 11, [(65537, 1), (2, 96)]⟩]

theorem prime_of_mem_secp224r1Steps :
    ∀ q ∈ secp224r1Steps.map PrimalityStep.n, q.Prime := by
  have hcheck : PrimalityStep.checkAll [2] secp224r1Steps = true := by decide +kernel
  refine PrimalityStep.prime_of_checkAll ?_ hcheck
  intro q hq
  rw [List.mem_singleton.1 hq]
  exact Nat.prime_two

/-- The multiples of the base point of secp224r1, loaded on a new curve over the integers. -/
theorem loaded_base_order_secp224r1 :
    NamedCurve.secp224r1 ∈ NamedCurve.all ∧ (NamedCurve.secp224r1.number .p).Prime ∧
      (NamedCurve.secp224r1.number .n).Prime ∧
      ∃ loaded, (Curve.new (.integer 0) : Curve Empty).load "secp224r1" = (.ok (), loaded) ∧
        (∀ part, loaded.number "n" part = .ok (.integer (NamedCurve.secp224r1.number .n))) ∧
        ∀ k : ℕ, ∃ M R, loaded.base.mul (.integer k) = .ok M ∧ M.isOnCurve = .ok true ∧
          loaded.base.mul (.integer (k % NamedCurve.secp224r1.number .n : ℕ)) = .ok R ∧
          M.compare R = .ok .eq ∧ (M.infinity = true ↔ NamedCurve.secp224r1.number .n ∣ k) := by
  have hmem : NamedCurve.secp224r1 ∈ NamedCurve.all := by simp [NamedCurve.all]
  have hp : (NamedCurve.secp224r1.number .p).Prime :=
    prime_of_mem_secp224r1Steps _ (by simp [secp224r1Steps])
  have hn : (NamedCurve.secp224r1.number .n).Prime :=
    prime_of_mem_secp224r1Steps _ (by simp [secp224r1Steps])
  have hcurve : (Curve.new (.integer 0) : Curve Empty).p = .integer 0 := rfl
  exact ⟨hmem, hp, hn, loaded_base_order hmem hp hn hcurve⟩

end PrimeCurve

end CryptoSuite
