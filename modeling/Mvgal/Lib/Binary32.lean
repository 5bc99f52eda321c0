import Mathlib.Algebra.Order.Group.Int
import Mathlib.Data.Prod.Lex
import Mvgal.Lib.Scan

/-! The order of IEEE single-precision numbers.

`Float32` is defined by its bit pattern, and its comparison by cases on sign,
exponent and mantissa. Read as a rank in a lexicographic order, with no rank for
not-a-number, the comparison is a strict order in which only not-a-number is
incomparable: enough for a loop that keeps the best score (`Scan.Comparison`). -/
namespace Mvgal.Binary32
open Float.Model (UnpackedFloat)

def rank : UnpackedFloat → Option (Int ×ₗ Int ×ₗ Int)
  | .notANumber => none
  | .infinity .negative => some (toLex (-2, toLex (0, 0)))
  | .finite .negative m e _ => some (toLex (-1, toLex (-e, -(m : Int))))
  | .zero _ => some (toLex (0, toLex (0, 0)))
  | .finite .positive m e _ => some (toLex (1, toLex (e, (m : Int))))
  | .infinity .positive => some (toLex (2, toLex (0, 0)))

theorem then_eq_lt (e e' : Int) (m m' : Nat) :
    (compare e e').then (compare m m') = .lt ↔ e < e' ∨ e = e' ∧ m < m' := by
  simp [Ordering.then_eq_lt, compare_lt_iff_lt]

theorem then_eq_gt (e e' : Int) (m m' : Nat) :
    (compare e e').then (compare m m') = .gt ↔ e' < e ∨ e = e' ∧ m' < m := by
  simp [Ordering.then_eq_gt, compare_gt_iff_gt]

theorem lt_iff_rank (a b : UnpackedFloat) :
    a.lt b = true ↔ ∃ x y, rank a = some x ∧ rank b = some y ∧ x < y := by
  cases a with
  | notANumber => exact iff_of_false Bool.false_ne_true fun ⟨_, _, hx, _, _⟩ => nomatch hx
  | infinity s | zero s | finite s m e h =>
    cases b with
    | notANumber =>
      refine iff_of_false ?_ fun ⟨_, _, _, hy, _⟩ => nomatch hy
      exact Bool.false_ne_true
    | infinity s' | zero s' | finite s' m' e' h' =>
      cases s <;> cases s' <;> dsimp only [UnpackedFloat.lt, UnpackedFloat.compare, rank] <;>
        simp [Prod.Lex.lt_iff, then_eq_lt, then_eq_gt] <;> decide

/-- `x > y` on `float`. -/
def greater (x y : Float32) : Bool := y.lt x

theorem greater_iff (x y : Float32) :
    greater x y = true ↔ ∃ p q, rank x.toModel.unpack = some p ∧ rank y.toModel.unpack = some q ∧ q < p := by
  have h : greater x y = true ↔ y.toModel.unpack.lt x.toModel.unpack = true := by
    simp only [greater, Float32.lt, decide_eq_true_eq]
    exact Iff.rfl
  rw [h, lt_iff_rank]
  exact ⟨fun ⟨q, p, hq, hp, hlt⟩ => ⟨p, q, hp, hq, hlt⟩, fun ⟨p, q, hp, hq, hlt⟩ => ⟨q, p, hq, hp, hlt⟩⟩

theorem greater_comparison : Scan.Comparison greater where
  irrefl x := by
    cases h : greater x x with
    | false => rfl
    | true =>
      obtain ⟨p, q, hp, hq, hlt⟩ := (greater_iff x x).mp h
      obtain rfl : p = q := Option.some.inj (hp.symm.trans hq)
      exact absurd hlt (lt_irrefl p)
  trans x y z hxy hyz := by
    obtain ⟨p, q, hp, hq, hqp⟩ := (greater_iff x y).mp hxy
    obtain ⟨q', r, hq', hr, hrq⟩ := (greater_iff y z).mp hyz
    obtain rfl : q = q' := Option.some.inj (hq.symm.trans hq')
    exact (greater_iff x z).mpr ⟨p, r, hp, hr, hrq.trans hqp⟩
  cotrans x y z hxz := by
    obtain ⟨p, r, hp, hr, hrp⟩ := (greater_iff x z).mp hxz
    cases hq : rank y.toModel.unpack with
    | none =>
      refine .inr (.inr fun w => ?_)
      cases hw : greater y w with
      | false => rfl
      | true =>
        obtain ⟨q, _, hq', -⟩ := (greater_iff y w).mp hw
        rw [hq] at hq'
        cases hq'
    | some q =>
      rcases lt_or_ge q p with hqp | hpq
      · exact .inl ((greater_iff x y).mpr ⟨p, q, hp, hq, hqp⟩)
      · exact .inr (.inl ((greater_iff y z).mpr ⟨q, r, hq, hr, hrp.trans_le hpq⟩))

end Mvgal.Binary32
