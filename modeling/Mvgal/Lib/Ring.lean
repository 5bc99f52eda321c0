import Mathlib.Algebra.Group.Fin.Basic
import Mathlib.Algebra.GroupWithZero.Nat

/-! A ring of `n` slots, described by where the next element goes, where the oldest one is,
and how many there are. The three agree (`head_eq`), so the ring is a queue: `contents` lists
it from the oldest, `push` adds at the end, and `pop` takes from the front. -/
namespace Mvgal
open List
open Function (update)

structure Ring (α : Type) (n : Nat) [NeZero n] where
  slots : Fin n → α
  head : Fin n
  tail : Fin n
  count : Nat
  bounded : count ≤ n
  head_eq : head = tail + Fin.ofNat n count

namespace Ring
variable {α : Type} {n : Nat} [NeZero n]

def empty (a : α) : Ring α n where
  slots _ := a
  head := 0
  tail := 0
  count := 0
  bounded := Nat.zero_le n
  head_eq := (add_zero 0).symm

def contents (r : Ring α n) : List α := (List.range r.count).map fun i => r.slots (r.tail + Fin.ofNat n i)

theorem ofNat_succ (k : Nat) : Fin.ofNat n (k + 1) = Fin.ofNat n k + 1 := by
  apply Fin.ext
  simp [Fin.val_add]

def push (r : Ring α n) (a : α) (h : r.count < n) : Ring α n where
  slots := update r.slots r.head a
  head := r.head + 1
  tail := r.tail
  count := r.count + 1
  bounded := h
  head_eq := by rw [r.head_eq, ofNat_succ, add_assoc]

def front (r : Ring α n) : α := r.slots r.tail

def pop (r : Ring α n) (h : 0 < r.count) : Ring α n where
  slots := r.slots
  head := r.head
  tail := r.tail + 1
  count := r.count - 1
  bounded := Nat.le_trans (Nat.sub_le ..) r.bounded
  head_eq := by
    obtain ⟨k, hk⟩ := Nat.exists_eq_succ_of_ne_zero (Nat.pos_iff_ne_zero.mp h)
    rw [r.head_eq, hk, Nat.succ_sub_one, ofNat_succ, add_assoc, add_comm 1]

@[simp] theorem length_contents (r : Ring α n) : r.contents.length = r.count := by
  simp [contents]

theorem ofNat_ne {i k : Nat} (hi : i < k) (hk : k < n) : Fin.ofNat n i ≠ Fin.ofNat n k := by
  intro h
  have hmod : i % n = k % n := congrArg Fin.val h
  rw [Nat.mod_eq_of_lt (by omega), Nat.mod_eq_of_lt hk] at hmod
  omega

/-- The slot that is written is none of those in use. -/
theorem contents_push (r : Ring α n) (a : α) (h : r.count < n) : (r.push a h).contents = r.contents ++ [a] := by
  have hold : ∀ i ∈ range r.count,
      update r.slots r.head a (r.tail + Fin.ofNat n i) = r.slots (r.tail + Fin.ofNat n i) := by
    intro i hi
    apply Function.update_of_ne
    rw [r.head_eq]
    exact fun heq => ofNat_ne (mem_range.mp hi) h (add_left_cancel heq)
  show (range (r.count + 1)).map _ = _
  rw [range_succ, map_append]
  congr 1
  · exact map_congr_left hold
  · show [update r.slots r.head a (r.tail + Fin.ofNat n r.count)] = [a]
    rw [← r.head_eq, Function.update_self]

theorem contents_pop (r : Ring α n) (h : 0 < r.count) : r.contents = r.front :: (r.pop h).contents := by
  obtain ⟨k, hk⟩ := Nat.exists_eq_succ_of_ne_zero (Nat.pos_iff_ne_zero.mp h)
  have hpop : (r.pop h).contents = (range k).map fun i => r.slots (r.tail + 1 + Fin.ofNat n i) := by
    show (range (r.count - 1)).map _ = _
    rw [hk]
    rfl
  rw [hpop, contents, hk, range_succ_eq_map, map_cons, map_map]
  congr 1
  · rw [Fin.ofNat_zero, add_zero]
    rfl
  · apply map_congr_left
    intro i _
    rw [Function.comp_apply, ofNat_succ, add_assoc, add_comm 1]

end Ring
end Mvgal
