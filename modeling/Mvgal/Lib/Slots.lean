import Mathlib.Data.List.Nodup
import Mathlib.Data.List.Perm.Basic

/-! Tables of slots that are claimed and released.

A slot is in use or free, and one in use has a key. A search takes the first slot in use
with its key (`lookup`), a claim changes the first free slot, and a release changes the slot
that a search finds. What the slots in use are after a claim and after a release is said up
to their order (`inUse_claim`, `inUse_release`); with different keys the search then finds
the slots in use and no others (`lookup_of_mem`, `lookup_eq_none_iff`). -/
namespace Mvgal.Slots
open List

variable {α κ : Type}

/-- Change the first entry with `p`. -/
def changeFirst (p : α → Bool) (f : α → α) : List α → List α
  | [] => []
  | x :: xs => if p x then f x :: xs else x :: changeFirst p f xs

section Change
variable {p : α → Bool} {f : α → α} {l : List α} {e : α}

theorem changeFirst_of_find (h : l.find? p = some e) :
    ∃ pre post, l = pre ++ e :: post ∧ changeFirst p f l = pre ++ f e :: post := by
  induction l with
  | nil => cases h
  | cons x xs ih =>
    cases hx : p x with
    | true =>
      rw [find?_cons_of_pos hx] at h
      cases h
      exact ⟨[], xs, rfl, if_pos hx⟩
    | false =>
      have hx : ¬ p x = true := Bool.eq_false_iff.mp hx
      rw [find?_cons_of_neg hx] at h
      obtain ⟨pre, post, hl, hchange⟩ := ih h
      refine ⟨x :: pre, post, by rw [hl, cons_append], ?_⟩
      rw [changeFirst, if_neg hx, hchange, cons_append]

theorem changeFirst_of_none (h : l.find? p = none) : changeFirst p f l = l := by
  induction l with
  | nil => rfl
  | cons x xs ih =>
    have hx : ¬ p x = true := find?_eq_none.mp h x mem_cons_self
    rw [find?_cons_of_neg hx] at h
    rw [changeFirst, if_neg hx, ih h]

@[simp] theorem length_changeFirst (p : α → Bool) (f : α → α) (l : List α) :
    (changeFirst p f l).length = l.length := by
  induction l with
  | nil => rfl
  | cons x xs ih =>
    rw [changeFirst]
    split
    · rfl
    · rw [List.length_cons, ih, List.length_cons]

theorem mem_changeFirst {x : α} (h : x ∈ changeFirst p f l) : x ∈ l ∨ ∃ e, x = f e := by
  cases hfind : l.find? p with
  | none =>
    rw [changeFirst_of_none hfind] at h
    exact .inl h
  | some e =>
    obtain ⟨pre, post, hl, hchange⟩ := changeFirst_of_find hfind
    rw [hchange, mem_append, mem_cons] at h
    rw [hl, mem_append, mem_cons]
    obtain h | h | h := h
    · exact .inl (.inl h)
    · exact .inr ⟨e, h⟩
    · exact .inl (.inr (.inr h))

end Change

variable (active : α → Bool) (key : α → κ)

def inUse (l : List α) : List α := l.filter active

def serves [DecidableEq κ] (k : κ) (e : α) : Bool := active e && decide (key e = k)

def lookup [DecidableEq κ] (l : List α) (k : κ) : Option α := l.find? (serves active key k)

variable {active key} {f : α → α} {l : List α} {e : α}

theorem mem_inUse : e ∈ inUse active l ↔ e ∈ l ∧ active e = true := mem_filter

theorem inUse_middle (pre post : List α) (e : α) :
    inUse active (pre ++ e :: post) = inUse active pre ++ ((if active e then [e] else []) ++ inUse active post) := by
  unfold inUse
  rw [filter_append, filter_cons]
  cases active e <;> rfl

theorem inUse_claim (h : l.find? (fun e => !active e) = some e) (hf : active (f e) = true) :
    (inUse active (changeFirst (fun e => !active e) f l)).Perm (f e :: inUse active l) := by
  obtain ⟨pre, post, hl, hchange⟩ := changeFirst_of_find h
  have hfree : active e = false := by simpa using find?_some h
  rw [hchange, hl, inUse_middle, inUse_middle, if_pos hf, if_neg (Bool.eq_false_iff.mp hfree)]
  exact perm_middle

variable [DecidableEq κ] {k : κ}

theorem lookup_mem (h : lookup active key l k = some e) : e ∈ inUse active l ∧ key e = k := by
  have hserves : serves active key k e = true := find?_some h
  rw [serves, Bool.and_eq_true, decide_eq_true_iff] at hserves
  exact ⟨mem_inUse.mpr ⟨mem_of_find?_eq_some h, hserves.1⟩, hserves.2⟩

theorem lookup_eq_none_iff : lookup active key l k = none ↔ ∀ e ∈ inUse active l, key e ≠ k := by
  simp [lookup, serves, mem_inUse, find?_eq_none]

/-- With one slot for each key the search finds every slot in use. -/
theorem lookup_of_mem (hkeys : ((inUse active l).map key).Nodup) (he : e ∈ inUse active l) :
    lookup active key l (key e) = some e := by
  cases hlookup : lookup active key l (key e) with
  | none => exact absurd rfl (lookup_eq_none_iff.mp hlookup e he)
  | some e' =>
    obtain ⟨hmem, hkey⟩ := lookup_mem hlookup
    rw [inj_on_of_nodup_map hkeys hmem he hkey]

theorem inUse_release (h : lookup active key l k = some e) (hf : active (f e) = false) :
    (inUse active l).Perm (e :: inUse active (changeFirst (serves active key k) f l)) := by
  obtain ⟨pre, post, hl, hchange⟩ := changeFirst_of_find h
  have hactive : active e = true := (mem_inUse.mp (lookup_mem h).1).2
  rw [hchange, hl, inUse_middle, inUse_middle, if_pos hactive, if_neg (Bool.eq_false_iff.mp hf)]
  exact perm_middle

end Mvgal.Slots
