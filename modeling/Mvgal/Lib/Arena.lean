import Mathlib.Algebra.BigOperators.Group.Finset.Basic

/-! Stores of cells that are created, changed and destroyed.

A cell is named by the number it got when it was created, and a number is never
used again, so that a name that outlives its cell names nothing. What the cells
hold can be added up over the live ones (`Arena.total`). -/
namespace Mvgal
open Finset
open Function (update_self update_of_ne update_apply update)

variable {α : Type}

/-- Cells by number; those not yet created are empty. -/
@[ext] structure Arena (α : Type) where
  cells : Nat → Option α
  next : Nat
  fresh : ∀ i, next ≤ i → cells i = none

namespace Arena

def empty : Arena α where
  cells := fun _ => none
  next := 0
  fresh := fun _ _ => rfl

def push (A : Arena α) (x : α) : Arena α where
  cells := update A.cells A.next (some x)
  next := A.next + 1
  fresh := by
    intro i hi
    rw [update_of_ne (by omega)]
    exact A.fresh i (by omega)

def modify (A : Arena α) (i : Nat) (f : α → α) : Arena α where
  cells := update A.cells i ((A.cells i).map f)
  next := A.next
  fresh := by
    intro j hj
    by_cases h : j = i
    · subst h
      rw [update_self, A.fresh j hj, Option.map_none]
    · rw [update_of_ne h]
      exact A.fresh j hj

def erase (A : Arena α) (i : Nat) : Arena α where
  cells := update A.cells i none
  next := A.next
  fresh := by
    intro j hj
    by_cases h : j = i
    · subst h
      rw [update_self]
    · rw [update_of_ne h]
      exact A.fresh j hj

@[simp] theorem empty_cells (i : Nat) : (empty : Arena α).cells i = none := rfl

@[simp] theorem push_next (A : Arena α) (x : α) : (A.push x).next = A.next + 1 := rfl

@[simp] theorem erase_next (A : Arena α) (i : Nat) : (A.erase i).next = A.next := rfl

theorem push_cells (A : Arena α) (x : α) (i : Nat) :
    (A.push x).cells i = if i = A.next then some x else A.cells i := by
  simp [push, update_apply]

theorem modify_cells (A : Arena α) (i : Nat) (f : α → α) (j : Nat) :
    (A.modify i f).cells j = if j = i then (A.cells i).map f else A.cells j := by
  simp [modify, update_apply]

theorem erase_cells (A : Arena α) (i j : Nat) :
    (A.erase i).cells j = if j = i then none else A.cells j := by
  simp [erase, update_apply]

@[simp] theorem cells_next (A : Arena α) : A.cells A.next = none := A.fresh _ (Nat.le_refl _)

variable {A : Arena α} {i : Nat}

theorem lt_next {x : α} (h : A.cells i = some x) : i < A.next := by
  by_contra hge
  rw [A.fresh i (by omega)] at h
  cases h

@[simp] theorem push_self (A : Arena α) (x : α) : (A.push x).cells A.next = some x := by
  rw [push_cells, if_pos rfl]

theorem push_of_some {x y : α} (h : A.cells i = some x) : (A.push y).cells i = some x := by
  rw [push_cells, if_neg (Nat.ne_of_lt (lt_next h)), h]

@[simp] theorem modify_self (A : Arena α) (i : Nat) (f : α → α) :
    (A.modify i f).cells i = (A.cells i).map f := by
  rw [modify_cells, if_pos rfl]

theorem modify_of_ne (A : Arena α) {j : Nat} (f : α → α) (h : j ≠ i) :
    (A.modify i f).cells j = A.cells j := by
  rw [modify_cells, if_neg h]

@[simp] theorem erase_self (A : Arena α) (i : Nat) : (A.erase i).cells i = none := by
  rw [erase_cells, if_pos rfl]

theorem erase_of_ne (A : Arena α) {j : Nat} (h : j ≠ i) : (A.erase i).cells j = A.cells j := by
  rw [erase_cells, if_neg h]

section
variable {A : Arena α} {i j : Nat} {x y : α} {f : α → α}

theorem of_push (h : (A.push x).cells i = some y) : i = A.next ∧ y = x ∨ A.cells i = some y := by
  rw [push_cells] at h
  split at h
  · next hi => exact .inl ⟨hi, (Option.some.inj h).symm⟩
  · exact .inr h

theorem of_modify (h : (A.modify i f).cells j = some y) :
    (j = i ∧ ∃ x, A.cells i = some x ∧ y = f x) ∨ j ≠ i ∧ A.cells j = some y := by
  rw [modify_cells] at h
  split at h
  · next hj =>
    obtain ⟨x, hx, rfl⟩ := Option.map_eq_some_iff.mp h
    exact .inl ⟨hj, x, hx, rfl⟩
  · next hj => exact .inr ⟨hj, h⟩

theorem modify_update (h : A.cells i = some x) (f : α → α) :
    (A.modify i f).cells = update A.cells i (some (f x)) := by
  show update A.cells i ((A.cells i).map f) = _
  rw [h, Option.map_some]

theorem of_erase (h : (A.erase i).cells j = some y) : j ≠ i ∧ A.cells j = some y := by
  rw [erase_cells] at h
  split at h
  · cases h
  · next hj => exact ⟨hj, h⟩

end

theorem push_modify (A : Arena α) (x : α) (f : α → α) : (A.push x).modify A.next f = A.push (f x) := by
  apply Arena.ext
  · funext i
    rw [modify_cells, push_self, push_cells, push_cells]
    by_cases h : i = A.next
    · rw [if_pos h, if_pos h]
      rfl
    · rw [if_neg h, if_neg h, if_neg h]
  · rfl

theorem push_erase_cells (A : Arena α) (x : α) : ((A.push x).erase A.next).cells = A.cells := by
  funext i
  by_cases h : i = A.next
  · rw [h, erase_self, cells_next]
  · rw [erase_of_ne _ h, push_cells, if_neg h]

theorem modify_eq_self {f : α → α} (h : ∀ x, A.cells i = some x → f x = x) : A.modify i f = A := by
  obtain ⟨cells, next, fresh⟩ := A
  have hcells : update cells i ((cells i).map f) = cells := by
    apply Function.update_eq_self_iff.mpr
    cases hx : cells i with
    | none => rfl
    | some x => exact congrArg some (h x hx)
  unfold modify
  congr

/-- A function of the contents that the change keeps is the same in every cell. -/
theorem modify_map {β : Type} (A : Arena α) (i : Nat) {f : α → α} {g : α → β}
    (h : ∀ x, A.cells i = some x → g (f x) = g x) (j : Nat) :
    ((A.modify i f).cells j).map g = (A.cells j).map g := by
  by_cases hj : j = i
  · subst hj
    rw [modify_self]
    cases hx : A.cells j with
    | none => rfl
    | some x => exact congrArg some (h x hx)
  · rw [modify_of_ne A f hj]

def total (f : α → Nat) (A : Arena α) : Nat :=
  ∑ i ∈ Finset.range A.next, ((A.cells i).map f).getD 0

theorem total_of_none (f : α → Nat) (h : ∀ i, A.cells i = none) : A.total f = 0 := by
  apply sum_eq_zero
  intro i _
  rw [h i]
  rfl

theorem total_push (f : α → Nat) (A : Arena α) (x : α) : (A.push x).total f = A.total f + f x := by
  unfold total
  rw [push_next, sum_range_succ, push_self, Option.map_some, Option.getD_some]
  congr 1
  apply sum_congr rfl
  intro i hi
  rw [push_cells, if_neg (Nat.ne_of_lt (mem_range.mp hi))]

theorem total_eq_sum_range (f : α → Nat) {n : Nat} (h : A.next ≤ n) :
    A.total f = ∑ i ∈ Finset.range n, ((A.cells i).map f).getD 0 := by
  apply sum_subset (range_subset_range.mpr h)
  intro i _ hi
  rw [A.fresh i (by simpa using hi)]
  rfl

theorem total_congr {f : α → Nat} {B : Arena α}
    (h : ∀ i, (B.cells i).map f = (A.cells i).map f) : B.total f = A.total f := by
  rw [total_eq_sum_range f (Nat.le_max_left B.next A.next),
    total_eq_sum_range f (Nat.le_max_right B.next A.next)]
  exact sum_congr rfl fun i _ => by rw [h i]

theorem total_erase (f : α → Nat) {x : α} (h : A.cells i = some x) :
    (A.erase i).total f + f x = A.total f := by
  unfold total
  have hmem : i ∈ range A.next := mem_range.mpr (lt_next h)
  rw [erase_next, ← sum_erase_add _ _ hmem, ← sum_erase_add _ _ hmem, erase_self, h]
  have hrest : ∀ j ∈ (range A.next).erase i,
      (((A.erase i).cells j).map f).getD 0 = ((A.cells j).map f).getD 0 := by
    intro j hj
    rw [erase_of_ne A (ne_of_mem_erase hj)]
  rw [sum_congr rfl hrest]
  rfl

end Arena

end Mvgal
