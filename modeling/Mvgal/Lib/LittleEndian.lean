import Mathlib.Algebra.Order.Ring.Nat
import Mathlib.Data.Nat.ModEq

/-! Numbers as bytes, the least significant first. -/
namespace Mvgal.LittleEndian

/-- The `w` low bytes of a number. -/
def toBytes : Nat → Nat → List UInt8
  | 0, _ => []
  | w + 1, n => UInt8.ofNat n :: toBytes w (n / 256)

def ofBytes : List UInt8 → Nat
  | [] => 0
  | b :: rest => b.toNat + 256 * ofBytes rest

@[simp] theorem length_toBytes (w n : Nat) : (toBytes w n).length = w := by
  induction w generalizing n with
  | zero => rfl
  | succ w ih => rw [toBytes, List.length_cons, ih]

theorem drop_toBytes (n : Nat) {w k : Nat} (h : w ≤ k) : (toBytes w n).drop k = [] :=
  List.drop_eq_nil_of_le (by rwa [length_toBytes])

theorem ofBytes_toBytes (w n : Nat) : ofBytes (toBytes w n) = n % 256 ^ w := by
  induction w generalizing n with
  | zero => rw [pow_zero, Nat.mod_one]; rfl
  | succ w ih => rw [toBytes, ofBytes, ih, UInt8.toNat_ofNat', pow_succ' 256 w, Nat.mod_mul]

theorem ofBytes_toBytes_of_lt {w n : Nat} (h : n < 256 ^ w) : ofBytes (toBytes w n) = n := by
  rw [ofBytes_toBytes, Nat.mod_eq_of_lt h]

end Mvgal.LittleEndian
