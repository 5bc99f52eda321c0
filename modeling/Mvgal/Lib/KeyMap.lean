import Mathlib.Data.Finmap

/-! Finite maps and what their entries add up to.

A hash map whose order of iteration plays no role is a `Finmap`. The sum of a measure
over its entries follows an insertion and a removal: `total_insert` for a new key,
`total_insert_of_lookup` for one that is replaced, `total_erase` for one that goes.

A loop over the entries of a map, each of which changes an accumulated map at its own key
only, is read key by key (`lookup_foldl`). -/
namespace Mvgal
open Finmap

abbrev KeyMap (κ ν : Type) : Type := Finmap fun _ : κ => ν

namespace KeyMap
variable {κ ν : Type} {m : KeyMap κ ν} {k : κ} {x y : ν}

def total (f : ν → Nat) (m : KeyMap κ ν) : Nat := (m.entries.map fun e => f e.2).sum

theorem total_empty (f : ν → Nat) : total f (∅ : KeyMap κ ν) = 0 := rfl

variable [DecidableEq κ] (f : ν → Nat)

theorem total_insert (h : k ∉ m) : total f (m.insert k x) = f x + total f m := by
  rw [total, entries_insert_of_notMem h, Multiset.map_cons, Multiset.sum_cons]
  rfl

theorem insert_erase (k : κ) (x : ν) (m : KeyMap κ ν) : (m.erase k).insert k x = m.insert k x := by
  apply ext_lookup
  intro j
  by_cases hj : j = k
  · rw [hj, lookup_insert, lookup_insert]
  · rw [lookup_insert_of_ne _ hj, lookup_insert_of_ne _ hj, lookup_erase_ne hj]

section
variable (h : m.lookup k = some x)
include h

theorem insert_of_lookup : m.insert k x = m := by
  apply ext_lookup
  intro j
  by_cases hj : j = k
  · rw [hj, lookup_insert, h]
  · rw [lookup_insert_of_ne _ hj]

theorem total_erase : total f m = f x + total f (m.erase k) := by
  conv_lhs => rw [← insert_of_lookup h, ← insert_erase]
  exact total_insert f notMem_erase_self

theorem total_insert_of_lookup :
    total f (m.insert k y) + f x = f y + total f m := by
  rw [← insert_erase, total_insert f notMem_erase_self, total_erase f h]
  omega

end

theorem lookup_insert_eq {j : κ} (h : (m.insert k x).lookup j = some y) :
    j = k ∧ x = y ∨ j ≠ k ∧ m.lookup j = some y := by
  by_cases hj : j = k
  · rw [hj, lookup_insert] at h
    exact .inl ⟨hj, Option.some.inj h⟩
  · rw [lookup_insert_of_ne _ hj] at h
    exact .inr ⟨hj, h⟩

/-- What a map holds after a removal was there before, at another key. -/
theorem lookup_erase_eq {j : κ} (h : (m.erase k).lookup j = some y) : j ≠ k ∧ m.lookup j = some y := by
  by_cases hj : j = k
  · rw [hj, lookup_erase] at h
    cases h
  · rw [lookup_erase_ne hj] at h
    exact ⟨hj, h⟩

/-- A loop over entries with distinct keys, seen at one key of what it accumulates. -/
theorem lookup_foldl {σ : Type} (view : σ → κ → Option ν) {step : σ → (_ : κ) × ν → σ} {F : Option ν → ν → Option ν}
    (hstep : ∀ s e j, view (step s e) j = if j = e.1 then F (view s j) e.2 else view s j)
    {entries : List ((_ : κ) × ν)} (hkeys : entries.NodupKeys) (s : σ) (k : κ) :
    view (entries.foldl step s) k = (entries.dlookup k).elim (view s k) (F (view s k)) := by
  induction entries generalizing s with
  | nil => rfl
  | cons e rest ih =>
    obtain ⟨hnotin, hrest⟩ := List.nodupKeys_cons.mp hkeys
    rw [List.foldl_cons, ih hrest, hstep]
    by_cases hk : k = e.1
    · subst hk
      rw [List.dlookup_eq_none.mpr hnotin, List.dlookup_cons_eq, if_pos rfl]
      rfl
    · rw [List.dlookup_cons_ne _ _ hk, if_neg hk]

end KeyMap
end Mvgal
