import Mathlib.Data.List.Perm.Basic

/-! One pass over candidates that keeps the best so far.

The loop starts from a floor and replaces its choice only by a strictly better
candidate. With a comparison that is a strict order in which some scores may be
incomparable to everything (`Comparison`: the not-a-number of a float format is
such a score), the loop chooses the first best candidate above the floor, and
chooses nothing exactly when no candidate is above it (`scan_eq_some_iff`,
`scan_eq_none_iff`). Taking the first best out and repeating lists the
candidates in descending order, equal ones as they stood
(`StableDescending.cons`). -/
namespace Mvgal.Scan
open List

variable {α β : Type}

/-- A strict order, up to scores that beat nothing. -/
structure Comparison (gt : β → β → Bool) : Prop where
  irrefl : ∀ x, gt x x = false
  trans : ∀ x y z, gt x y = true → gt y z = true → gt x z = true
  cotrans : ∀ x y z, gt x z = true → gt x y = true ∨ gt y z = true ∨ ∀ w, gt y w = false

theorem Comparison.ofKey {gt : β → β → Bool} (key : β → Nat)
    (h : ∀ x y, gt x y = true ↔ key y < key x) : Comparison gt where
  irrefl x := by
    cases hx : gt x x with
    | false => rfl
    | true => exact absurd ((h x x).mp hx) (Nat.lt_irrefl _)
  trans x y z hxy hyz := (h x z).mpr (Nat.lt_trans ((h y z).mp hyz) ((h x y).mp hxy))
  cotrans x y z hxz := by
    have := (h x z).mp hxz
    rcases Nat.lt_or_ge (key y) (key x) with hyx | hxy
    · exact .inl ((h x y).mpr hyx)
    · exact .inr (.inl ((h y z).mpr (by omega)))

variable (gt : β → β → Bool) (score : α → β)

/-- The loop: the best score so far and the candidate that has it. -/
def scan (best : β × Option α) : List α → β × Option α
  | [] => best
  | a :: rest => scan (if gt (score a) best.1 then (score a, some a) else best) rest

/-- The first candidate with the best score above `floor`. -/
def FirstBest (floor : β) (l : List α) (g : α) : Prop :=
  ∃ before after, l = before ++ g :: after ∧ gt (score g) floor = true ∧
    (∀ a ∈ before, gt (score a) floor = true → gt (score g) (score a) = true) ∧
    ∀ a ∈ after, gt (score a) (score g) = false

/-- What the loop leaves in its two variables, from any values of them. -/
theorem scan_spec {gt : β → β → Bool} (C : Comparison gt) (score : α → β) (l : List α)
    (best : β × Option α) : (scan gt score best l = best ∧ ∀ a ∈ l, gt (score a) best.1 = false) ∨
      ∃ g, scan gt score best l = (score g, some g) ∧ FirstBest gt score best.1 l g := by
  induction l generalizing best with
  | nil => exact .inl ⟨rfl, fun a ha => absurd ha not_mem_nil⟩
  | cons a l ih =>
    cases ha : gt (score a) best.1 with
    | true =>
      simp only [scan, ha, if_true]
      rcases ih (score a, some a) with ⟨hs, hl⟩ | ⟨g, hs, before, after, rfl, hfloor, hb, haft⟩
      · exact .inr ⟨a, hs, [], l, rfl, ha, fun x hx => absurd hx not_mem_nil, hl⟩
      · refine .inr ⟨g, hs, a :: before, after, rfl, C.trans _ _ _ hfloor ha, ?_, haft⟩
        intro x hx hxf
        rcases mem_cons.mp hx with rfl | hx
        · exact hfloor
        -- A candidate passed over before `g` is beaten by the best it was compared with.
        · rcases C.cotrans _ (score x) _ hfloor with h | h | h
          · exact h
          · exact hb x hx h
          · exact absurd hxf (by rw [h]; decide)
    | false =>
      simp only [scan, ha, Bool.false_eq_true, if_false]
      rcases ih best with ⟨hs, hl⟩ | ⟨g, hs, before, after, rfl, hfloor, hb, haft⟩
      · refine .inl ⟨hs, fun x hx => ?_⟩
        rcases mem_cons.mp hx with rfl | hx
        · exact ha
        · exact hl x hx
      · refine .inr ⟨g, hs, a :: before, after, rfl, hfloor, fun x hx hxf => ?_, haft⟩
        rcases mem_cons.mp hx with rfl | hx
        · exact absurd hxf (by rw [ha]; decide)
        · exact hb x hx hxf

variable {gt score} {floor : β} {l : List α} {g : α}

section
variable (h : FirstBest gt score floor l g)
include h

theorem FirstBest.mem : g ∈ l := by
  obtain ⟨before, after, rfl, -⟩ := h
  simp

theorem FirstBest.above : gt (score g) floor = true := by
  obtain ⟨before, after, -, hg, -⟩ := h
  exact hg

theorem FirstBest.unique {g' : α}
    (h' : FirstBest gt score floor l g') : g = g' := by
  obtain ⟨before, after, rfl, hg, hb, ha⟩ := h
  obtain ⟨before', after', he, hg', hb', ha'⟩ := h'
  have hcases := append_eq_append_iff.mp he
  rcases hcases with ⟨mid, hmid, hrest⟩ | ⟨mid, hmid, hrest⟩
  · cases mid with
    | nil => exact (cons.inj hrest).1
    | cons x mid =>
      obtain ⟨rfl, rfl⟩ : g = x ∧ after = mid ++ g' :: after' := by simpa using hrest
      have hbeat := hb' g (by rw [hmid]; simp) hg
      rw [ha g' (by simp)] at hbeat
      exact nomatch hbeat
  · cases mid with
    | nil => exact (cons.inj hrest).1.symm
    | cons x mid =>
      obtain ⟨rfl, rfl⟩ : g' = x ∧ after' = mid ++ g :: after := by simpa using hrest
      have hbeat := hb g' (by rw [hmid]; simp) hg'
      rw [ha' g (by simp)] at hbeat
      exact nomatch hbeat

end

section
variable (C : Comparison gt)
include C

theorem scan_eq_some_iff :
    (scan gt score (floor, none) l).2 = some g ↔ FirstBest gt score floor l g := by
  rcases scan_spec C score l (floor, none) with ⟨hs, hl⟩ | ⟨g', hs, hfirst⟩
  · rw [hs]
    refine ⟨fun h => by simp at h, fun h => ?_⟩
    have hgt := h.above
    rw [hl g h.mem] at hgt
    exact nomatch hgt
  · rw [hs]
    constructor
    · intro h
      obtain rfl : g' = g := by simpa using h
      exact hfirst
    · intro h
      simp only [hfirst.unique h]

theorem scan_eq_none_iff :
    (scan gt score (floor, none) l).2 = none ↔ ∀ a ∈ l, gt (score a) floor = false := by
  rcases scan_spec C score l (floor, none) with ⟨hs, hl⟩ | ⟨g, hs, hfirst⟩
  · exact ⟨fun _ => hl, fun _ => by rw [hs]⟩
  · rw [hs]
    refine ⟨fun h => by simp at h, fun h => ?_⟩
    have hgt := hfirst.above
    rw [h g hfirst.mem] at hgt
    exact nomatch hgt

/-- The best score the loop ends with is its choice's. -/
theorem scan_fst_of_some (h : (scan gt score (floor, none) l).2 = some g) :
    (scan gt score (floor, none) l).1 = score g := by
  rcases scan_spec C score l (floor, none) with ⟨hs, -⟩ | ⟨g', hs, -⟩
  · rw [hs] at h
    simp at h
  · rw [hs] at h ⊢
    simp only [Option.some.injEq] at h
    rw [h]

/-- Nothing chosen, the loop leaves the floor where it was. -/
theorem scan_of_none (h : (scan gt score (floor, none) l).2 = none) :
    scan gt score (floor, none) l = (floor, none) := by
  rcases scan_spec C score l (floor, none) with ⟨hs, -⟩ | ⟨g', hs, -⟩
  · exact hs
  · rw [hs] at h
    simp at h

end

/-- `out` is `l` by descending score, candidates of one score in their old order. -/
structure StableDescending [DecidableEq β] (gt : β → β → Bool) (score : α → β) (l out : List α) :
    Prop where
  perm : out.Perm l
  sorted : out.Pairwise (fun a b => gt (score b) (score a) = false)
  stable : ∀ k, out.filter (fun a => score a = k) = l.filter (fun a => score a = k)

theorem StableDescending.nil [DecidableEq β] : StableDescending gt score ([] : List α) [] :=
  ⟨.nil, .nil, fun _ => rfl⟩

theorem StableDescending.congr [DecidableEq β] {score' : α → β} {out : List α}
    (h : StableDescending gt score l out) (hs : ∀ a ∈ l, score a = score' a) :
    StableDescending gt score' l out := by
  have hout : ∀ a ∈ out, score a = score' a := fun a ha => hs a (h.perm.subset ha)
  refine ⟨h.perm, h.sorted.imp_of_mem fun ha hb hab => ?_, fun k => ?_⟩
  · rw [← hout _ ha, ← hout _ hb]
    exact hab
  · have hl : ∀ xs : List α, (∀ a ∈ xs, score a = score' a) →
        xs.filter (fun a => decide (score' a = k)) = xs.filter (fun a => decide (score a = k)) :=
      fun xs hxs => filter_congr fun a ha => by rw [hxs a ha]
    rw [hl out hout, hl l hs]
    exact h.stable k

theorem FirstBest.max (C : Comparison gt) (h : FirstBest gt score floor l g) {a : α} (ha : a ∈ l) :
    gt (score a) (score g) = false := by
  obtain ⟨before, after, rfl, hg, hb, haft⟩ := h
  rcases mem_append.mp ha with ha | ha
  · cases hag : gt (score a) (score g) with
    | false => rfl
    | true =>
      have hga := hb a ha (C.trans _ _ _ hag hg)
      have := C.trans _ _ _ hag hga
      rw [C.irrefl] at this
      exact this.symm
  · rcases mem_cons.mp ha with rfl | ha
    · exact C.irrefl _
    · exact haft a ha

/-- The first best candidate, then the rest in order, is the whole in order. -/
theorem StableDescending.cons [DecidableEq α] [DecidableEq β] (C : Comparison gt)
    (h : FirstBest gt score floor l g) {out : List α}
    (hout : StableDescending gt score (l.erase g) out) :
    StableDescending gt score l (g :: out) := by
  have hmax : ∀ a ∈ l, gt (score a) (score g) = false := fun a ha => h.max C ha
  have hmem := h.mem
  obtain ⟨before, after, rfl, hg, hb, -⟩ := h
  -- A candidate before `g` with `g`'s score would have been chosen instead.
  have hdiff : ∀ a ∈ before, score a ≠ score g := by
    intro a ha he
    have hbeat := hb a ha (by rw [he]; exact hg)
    rw [he, C.irrefl] at hbeat
    exact nomatch hbeat
  have herase : (before ++ g :: after).erase g = before ++ after := by
    rw [erase_append_right _ (fun hx => hdiff g hx rfl), erase_cons_head]
  refine ⟨?_, ?_, fun k => ?_⟩
  · exact (hout.perm.cons g).trans (perm_cons_erase hmem).symm
  · refine pairwise_cons.mpr ⟨fun a ha => hmax a ?_, hout.sorted⟩
    exact mem_of_mem_erase (hout.perm.subset ha)
  · rw [filter_cons, hout.stable k, herase, filter_append, filter_append,
      filter_cons]
    by_cases hk : score g = k
    · subst hk
      have hnone : before.filter (fun a => decide (score a = score g)) = [] :=
        filter_eq_nil_iff.mpr fun a ha => by simpa using hdiff a ha
      simp [hnone]
    · simp [hk]

end Mvgal.Scan
