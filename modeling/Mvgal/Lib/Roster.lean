import Mathlib.Data.Finset.Card
import Mathlib.Data.List.Find

/-! Tables of entries in the first places of an array.

The entries `e 0, …, e (n - 1)` have pairwise different keys and are searched from
the front (`search`). `Holds` says that they are the entries of a finite map. It is
kept when the entry that a search finds is overwritten by one with its key, and
when an entry with a new key is written to place `n`. -/
namespace Mvgal.Roster
open List
open Function (update update_self update_of_ne)

variable {α : Type} (key : α → Nat) (e : Nat → α) (n : Nat)

def search (g : Nat) : Option Nat := (List.range n).find? fun i => key (e i) = g

/-- The first `n` places hold the entries of `M`, one place for each key. -/
structure Holds (M : Nat → Option α) : Prop where
  distinct : ∀ i j, i < n → j < n → key (e i) = key (e j) → i = j
  mem_iff : ∀ g a, M g = some a ↔ ∃ i, i < n ∧ e i = a ∧ key a = g

variable {key e n} {M M' : Nat → Option α} {g i : Nat}

theorem search_some (h : search key e n g = some i) : i < n ∧ key (e i) = g := by
  have hmem := mem_of_find?_eq_some h
  have hkey := find?_some h
  exact ⟨mem_range.mp hmem, of_decide_eq_true hkey⟩

theorem search_none (h : search key e n g = none) (i : Nat) (hi : i < n) : key (e i) ≠ g := by
  have := find?_eq_none.mp h i (mem_range.mpr hi)
  simpa using this

theorem search_congr {e' : Nat → α} (h : ∀ i, i < n → key (e' i) = key (e i)) (g : Nat) :
    search key e' n g = search key e n g :=
  find?_congr fun i hi => by rw [h i (mem_range.mp hi)]

theorem search_succ (key : α → Nat) (e : Nat → α) (n g : Nat) :
    search key e (n + 1) g = (search key e n g).or (if key (e n) = g then some n else none) := by
  unfold search
  rw [range_succ, find?_append, find?_singleton]
  simp only [decide_eq_true_eq]

namespace Holds

variable (h : Holds key e n M)
include h

/-- The entry that the search finds is the entry of the map. -/
theorem search_eq (g : Nat) : (search key e n g).map e = M g := by
  cases hs : search key e n g with
  | some i =>
    obtain ⟨hi, hkey⟩ := search_some hs
    exact ((h.mem_iff g (e i)).mpr ⟨i, hi, rfl, hkey⟩).symm
  | none =>
    cases hM : M g with
    | none => rfl
    | some a =>
      obtain ⟨i, hi, rfl, hkey⟩ := (h.mem_iff g a).mp hM
      exact absurd hkey (search_none hs i hi)

theorem of_search_some (hs : search key e n g = some i) : M g = some (e i) := by
  rw [← h.search_eq g, hs]
  rfl

theorem of_search_none (hs : search key e n g = none) : M g = none := by
  rw [← h.search_eq g, hs]
  rfl

theorem unique (h' : Holds key e n M') : M = M' := by
  funext g
  rw [← h.search_eq g, h'.search_eq g]

omit h in
theorem empty : Holds key e 0 fun _ => none where
  distinct := by
    intro i j hi
    omega
  mem_iff := by
    intro g a
    simp

/-- Only the first `n` places matter. -/
theorem congr {e' : Nat → α} (he : ∀ i, i < n → e' i = e i) : Holds key e' n M where
  distinct := by
    intro i j hi hj hkey
    rw [he i hi, he j hj] at hkey
    exact h.distinct i j hi hj hkey
  mem_iff := by
    intro g a
    rw [h.mem_iff]
    apply exists_congr
    intro i
    apply and_congr_right
    intro hi
    rw [he i hi]

/-- An entry is written to a place in use that has its key, or to the next place. -/
theorem write {a : α} {k : Nat} (hi : i < k) (hk : ∀ j, j < k ↔ j < n ∨ j = i)
    (hother : ∀ j, j < n → j ≠ i → key (e j) ≠ key a) (hold : i < n → key (e i) = key a) :
    Holds key (update e i a) k (update M (key a) (some a)) where
  distinct := by
    intro j l hj hl hkey
    rw [hk] at hj hl
    by_cases hji : j = i
    · by_cases hli : l = i
      · rw [hji, hli]
      · rw [hji, update_self, update_of_ne hli] at hkey
        exact absurd hkey.symm (hother l (hl.resolve_right hli) hli)
    · rw [update_of_ne hji] at hkey
      by_cases hli : l = i
      · rw [hli, update_self] at hkey
        exact absurd hkey (hother j (hj.resolve_right hji) hji)
      · rw [update_of_ne hli] at hkey
        exact h.distinct j l (hj.resolve_right hji) (hl.resolve_right hli) hkey
  mem_iff := by
    intro g b
    by_cases hg : g = key a
    · subst hg
      rw [update_self]
      constructor
      · intro hb
        cases hb
        exact ⟨i, hi, update_self .., rfl⟩
      · rintro ⟨j, hj, rfl, hkey⟩
        by_cases hji : j = i
        · rw [hji, update_self]
        · rw [update_of_ne hji] at hkey
          exact absurd hkey (hother j (((hk j).mp hj).resolve_right hji) hji)
    · rw [update_of_ne hg, h.mem_iff]
      constructor
      · rintro ⟨j, hj, rfl, hkey⟩
        have hji : j ≠ i := by
          rintro rfl
          exact hg (hkey.symm.trans (hold hj))
        exact ⟨j, (hk j).mpr (.inl hj), update_of_ne hji .., hkey⟩
      · rintro ⟨j, hj, rfl, hkey⟩
        have hji : j ≠ i := by
          rintro rfl
          rw [update_self] at hkey
          exact hg hkey.symm
        rw [update_of_ne hji] at hkey ⊢
        exact ⟨j, ((hk j).mp hj).resolve_right hji, rfl, hkey⟩

theorem set (hi : i < n) {a : α} (ha : key a = key (e i)) :
    Holds key (update e i a) n (update M (key a) (some a)) :=
  h.write hi (by omega) (fun j hj hne hkey => hne (h.distinct j i hj hi (hkey.trans ha))) fun _ => ha.symm

theorem append {a : α} (hnew : ∀ i, i < n → key (e i) ≠ key a) :
    Holds key (update e n a) (n + 1) (update M (key a) (some a)) :=
  h.write (Nat.lt_succ_self n) (by omega) (fun j hj _ => hnew j hj) fun hn => absurd hn (Nat.lt_irrefl n)

theorem map {f : α → α} (hf : ∀ a, key (f a) = key a) :
    Holds key (fun i => f (e i)) n fun g => (M g).map f where
  distinct := by
    intro i j hi hj hkey
    rw [hf, hf] at hkey
    exact h.distinct i j hi hj hkey
  mem_iff := by
    intro g b
    rw [Option.map_eq_some_iff]
    constructor
    · rintro ⟨a, hM, rfl⟩
      obtain ⟨i, hi, rfl, hkey⟩ := (h.mem_iff g a).mp hM
      exact ⟨i, hi, rfl, (hf _).trans hkey⟩
    · rintro ⟨i, hi, rfl, hkey⟩
      rw [hf] at hkey
      exact ⟨e i, (h.mem_iff g (e i)).mpr ⟨i, hi, rfl, hkey⟩, rfl⟩

/-- With keys below `k` and one of them unused there is a free place below `k`. -/
theorem lt_of_unused {k : Nat} (hk : ∀ i, i < n → key (e i) < k) (hg : g < k)
    (hfree : ∀ i, i < n → key (e i) ≠ g) : n < k := by
  have hsub : (Finset.range n).image (fun i => key (e i)) ⊆ (Finset.range k).erase g := by
    intro v hv
    obtain ⟨i, hi, rfl⟩ := Finset.mem_image.mp hv
    have hi := Finset.mem_range.mp hi
    exact Finset.mem_erase.mpr ⟨hfree i hi, Finset.mem_range.mpr (hk i hi)⟩
  have hcard : ((Finset.range n).image fun i => key (e i)).card = n := by
    rw [Finset.card_image_of_injOn, Finset.card_range]
    intro i hi j hj hij
    exact h.distinct i j (by simpa using hi) (by simpa using hj) hij
  have hle := Finset.card_le_card hsub
  rw [hcard, Finset.card_erase_of_mem (Finset.mem_range.mpr hg), Finset.card_range] at hle
  omega

end Holds

variable {p : Nat → Bool} {k : Nat}

theorem countP_range_eq_card (p : Nat → Bool) (k : Nat) :
    (List.range k).countP p = ((Finset.range k).filter fun i => p i = true).card := by
  rw [countP_eq_length_filter, Finset.card_def, Finset.filter_val, Finset.range_val, Multiset.range,
    Multiset.filter_coe, Multiset.coe_card]
  simp

theorem countP_range_le (p : Nat → Bool) (k : Nat) : (List.range k).countP p ≤ k := by
  have hle := countP_le_length (p := p) (l := range k)
  rwa [length_range] at hle

/-- The keys with `p` are without a gap exactly when they are less than their number. -/
theorem dense_iff (p : Nat → Bool) (k : Nat) : (∀ i j, i ≤ j → j < k → p j = true → p i = true) ↔
      ∀ g, g < k → p g = true → g < (List.range k).countP p := by
  rw [countP_range_eq_card]
  constructor
  · intro hd g hg hp
    have hsub : Finset.range (g + 1) ⊆ (Finset.range k).filter fun i => p i = true := by
      intro i hi
      have hig : i ≤ g := Nat.le_of_lt_succ (Finset.mem_range.mp hi)
      exact Finset.mem_filter.mpr ⟨Finset.mem_range.mpr (by omega), hd i g hig hg hp⟩
    have hcard := Finset.card_le_card hsub
    rw [Finset.card_range] at hcard
    exact hcard
  · intro hlt i j hij hj hp
    have hsub : (Finset.range k).filter (fun i => p i = true) ⊆
        Finset.range ((Finset.range k).filter fun i => p i = true).card := by
      intro g hg
      obtain ⟨hgk, hpg⟩ := Finset.mem_filter.mp hg
      exact Finset.mem_range.mpr (hlt g (Finset.mem_range.mp hgk) hpg)
    -- as many keys as there are places, so every place is taken
    have heq := Finset.eq_of_subset_of_card_le hsub (Nat.le_of_eq (Finset.card_range _))
    have hmem : i ∈ (Finset.range k).filter fun i => p i = true := by
      rw [heq]
      exact Finset.mem_range.mpr (Nat.lt_of_le_of_lt hij (hlt j hj hp))
    exact (Finset.mem_filter.mp hmem).2

theorem mem_iff_lt_of_dense (hd : ∀ i j, i ≤ j → j < k → p j = true → p i = true) (i : Nat) (hi : i < k) :
    p i = true ↔ i < (List.range k).countP p := by
  have hlt := (dense_iff p k).mp hd
  constructor
  · exact hlt i hi
  · intro hcount
    by_contra hp
    have hsub : (Finset.range k).filter (fun j => p j = true) ⊆ Finset.range i := by
      intro j hj
      obtain ⟨hjk, hpj⟩ := Finset.mem_filter.mp hj
      rw [Finset.mem_range] at hjk ⊢
      by_contra hij
      exact hp (hd i j (Nat.not_lt.mp hij) hjk hpj)
    have hcard := Finset.card_le_card hsub
    rw [← countP_range_eq_card, Finset.card_range] at hcard
    omega

end Mvgal.Roster
