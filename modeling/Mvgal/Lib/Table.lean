import Mathlib.Algebra.BigOperators.Group.Finset.Basic
import Mathlib.Data.Fintype.Basic

/-! Tables written at one place.

A state that holds one thing for each thread, slot or handle is a function, and a step
writes it at one place (`Function.update`). What was found there before a write, and
what is found after it, differ at that place only. The number of places with a property
(`tally`) follows a write. -/
namespace Mvgal.Table
open Finset
open Function (update)

variable {ι α β : Type} [DecidableEq ι] {i j : ι} {f : ι → α}

theorem update_eq_iff {a b : α} : update f i a j = b ↔ j = i ∧ a = b ∨ j ≠ i ∧ f j = b := by
  by_cases h : j = i
  · subst h
    simp
  · simp [h]

/-- An entry found after an entry was written is that one, or was there before. -/
theorem update_some {f : ι → Option α} {a b : α} (h : update f i (some a) j = some b) :
    j = i ∧ a = b ∨ j ≠ i ∧ f j = some b :=
  (update_eq_iff.mp h).imp (And.imp_right Option.some.inj) id

/-- An entry found after one was cleared was there before, at another place. -/
theorem update_none {f : ι → Option α} {b : α} (h : update f i none j = some b) : j ≠ i ∧ f j = some b := by
  obtain ⟨-, hb⟩ | h := update_eq_iff.mp h
  · cases hb
  · exact h

/-- A write is not seen in what the old and the new entry have in common. -/
theorem view_update (g : α → β) {a : α} (h : g a = g (f i)) (j : ι) : g (update f i a j) = g (f j) := by
  by_cases hj : j = i
  · rw [hj, Function.update_self, h]
  · rw [Function.update_of_ne hj]

/-- A pointwise relation of two tables after one place of both was written. -/
theorem forall_update_iff {R : α → β → Prop} {g : ι → β} (h : ∀ i, R (f i) (g i)) (i : ι) (a : α)
    (b : β) : (∀ j, R (update f i a j) (update g i b j)) ↔ R a b := by
  constructor
  · intro hall
    simpa using hall i
  · intro hab j
    by_cases hj : j = i
    · subst hj
      simpa using hab
    · simpa [hj] using h j

theorem sum_update [Fintype ι] (w : α → Nat) (f : ι → α) (i : ι) (a : α) :
    ∑ j, w (update f i a j) + w (f i) = ∑ j, w (f j) + w a := by
  have hrest : ∑ j ∈ univ.erase i, w (update f i a j) = ∑ j ∈ univ.erase i, w (f j) :=
    sum_congr rfl fun j hj => by rw [Function.update_of_ne (ne_of_mem_erase hj)]
  rw [← add_sum_erase _ _ (mem_univ i), ← add_sum_erase _ (fun j => w (f j)) (mem_univ i), hrest, Function.update_self]
  omega

section Tally
variable {ι α : Type} [Fintype ι] (p : α → Bool) {f : ι → α}

@[irreducible] def tally (f : ι → α) : Nat := ∑ i, (p (f i)).toNat

theorem tally_update [DecidableEq ι] (f : ι → α) (i : ι) (a : α) :
    tally p (update f i a) + (p (f i)).toNat = tally p f + (p a).toNat := by
  unfold tally
  exact sum_update (fun a => (p a).toNat) f i a

theorem tally_congr {g : ι → α} (h : ∀ i, p (g i) = p (f i)) : tally p g = tally p f := by
  unfold tally
  exact sum_congr rfl fun i _ => by rw [h i]

theorem tally_eq_zero (h : ∀ i, p (f i) = false) : tally p f = 0 := by
  unfold tally
  exact sum_eq_zero fun i _ => by rw [h i, Bool.toNat_false]

end Tally

end Mvgal.Table
