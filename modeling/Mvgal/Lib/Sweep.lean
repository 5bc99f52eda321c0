import Mathlib.Data.List.Nodup

/-! Loops that visit every index once.

The body of such a loop works on the whole state, but what it does at an index changes the entry
of that index only. The loop then does to every entry what the body does to its own, read from
the state before the loop. -/
namespace Mvgal.Sweep
open List

variable {σ ι α : Type} (body : σ → ι → σ) (entry : σ → ι → α) (own : ι → α → α)

/-- `K` is what the body keeps of the rest of the state. -/
theorem entry_foldl [DecidableEq ι] {K : σ → Prop} {visited : List ι} (hkeep : ∀ s, ∀ i ∈ visited, K s → K (body s i))
    (hown : ∀ s, ∀ i ∈ visited, K s → entry (body s i) i = own i (entry s i))
    (hother : ∀ s, ∀ i ∈ visited, K s → ∀ j, j ≠ i → entry (body s i) j = entry s j)
    (hnodup : visited.Nodup) {s : σ} (hs : K s) (j : ι) :
    entry (visited.foldl body s) j = if j ∈ visited then own j (entry s j) else entry s j := by
  induction visited generalizing s with
  | nil => rfl
  | cons i rest ih =>
    have htail := ih (fun s k hk => hkeep s k (mem_cons_of_mem i hk))
      (fun s k hk => hown s k (mem_cons_of_mem i hk))
      (fun s k hk => hother s k (mem_cons_of_mem i hk))
      (nodup_cons.mp hnodup).2 (hkeep s i mem_cons_self hs)
    rw [foldl_cons, htail]
    by_cases hj : j = i
    · subst hj
      rw [if_neg (nodup_cons.mp hnodup).1, if_pos mem_cons_self, hown s j mem_cons_self hs]
    · rw [hother s i mem_cons_self hs j hj]
      simp only [mem_cons, hj, false_or]

end Mvgal.Sweep
