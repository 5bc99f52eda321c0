import Mvgal.Lib.Table

/-! Reference-counted forests.

A node counts the references to it: one from its holder, for as long as there is
one, and one from each of its children, which it also lists. A node goes when the
last reference goes, and then it drops the reference it has on its own parent.
`Forest` states the count and the listing for all nodes at once, up to `extra`
references: those whose holder or child is gone, and which are about to be
dropped. Parents are older than their children, so the dropping comes to an end. -/
namespace Mvgal
open List
open Function (update update_self update_of_ne)
open Table (update_some)

/-- Overwrite the first entry that is `a` by the last entry, and drop the last. -/
def swapRemove (l : List Nat) (a : Nat) : List Nat :=
  if a ∈ l then (l.set (l.idxOf a) (l.getLast?.getD a)).dropLast else l

variable {l : List Nat} {a : Nat}

theorem swapRemove_perm (h : a ∈ l) : (swapRemove l a).Perm (l.erase a) := by
  obtain ⟨xs, ys, hx, rfl, he⟩ := exists_erase_eq h
  have hidx : (xs ++ a :: ys).idxOf a = xs.length := by
    rw [idxOf_append_of_notMem hx, idxOf_cons_self, Nat.add_zero]
  rw [swapRemove, if_pos h, hidx, he, set_append_right _ _ (Nat.le_refl _), Nat.sub_self,
    set_cons_zero]
  -- The entry that moves is the last one; it is `a` itself when nothing follows `a`.
  obtain rfl | ⟨ys, z, rfl⟩ := eq_nil_or_concat ys
  · simp
  · have hsplit : xs ++ a :: ys.concat z = (xs ++ a :: ys) ++ [z] := by simp
    have hset : ∀ w, xs ++ w :: ys.concat z = (xs ++ w :: ys) ++ [z] := by simp
    rw [hsplit, getLast?_concat, Option.getD_some, hset, dropLast_concat, concat_eq_append]
    exact Perm.append_left xs (perm_append_singleton z ys).symm

variable {c : Nat}

theorem mem_swapRemove (hd : l.Nodup) (h : a ∈ l) : c ∈ swapRemove l a ↔ c ≠ a ∧ c ∈ l := by
  rw [(swapRemove_perm h).mem_iff, hd.mem_erase_iff]

theorem nodup_swapRemove (hd : l.Nodup) (h : a ∈ l) : (swapRemove l a).Nodup :=
  (swapRemove_perm h).nodup_iff.mpr (hd.erase a)

theorem length_swapRemove (h : a ∈ l) : (swapRemove l a).length + 1 = l.length := by
  rw [(swapRemove_perm h).length_eq, length_erase_of_mem h]
  have := length_pos_of_mem h
  omega

structure Node where
  count : Nat
  children : List Nat
  parent : Option Nat

def parentOf (N : Nat → Option Node) (c : Nat) : Option Nat := (N c).bind Node.parent

/-- What holds of the node `x` at `p`. -/
structure Node.Ok (held : Nat → Bool) (extra : Nat → Nat) (N : Nat → Option Node) (p : Nat)
    (x : Node) : Prop where
  nodup : x.children.Nodup
  mem_children : ∀ c, c ∈ x.children ↔ parentOf N c = some p
  parent_lt : ∀ q, x.parent = some q → q < p
  parent_live : ∀ q, x.parent = some q → (N q).isSome
  count_eq : x.count = (held p).toNat + x.children.length + extra p
  count_pos : 0 < x.count

/-- Every node is as it should be, and what is held is live. -/
structure Forest (held : Nat → Bool) (extra : Nat → Nat) (N : Nat → Option Node) : Prop where
  ok : ∀ p x, N p = some x → x.Ok held extra N p
  held_live : ∀ p, held p = true → (N p).isSome

variable {held held' : Nat → Bool} {extra extra' : Nat → Nat} {N N' : Nat → Option Node} {y : Node}

theorem parentOf_eq (h : N c = some y) : parentOf N c = y.parent := by
  rw [parentOf, h, Option.bind_some]

theorem parentOf_update (c d : Nat) (y : Option Node) :
    parentOf (update N c y) d = if d = c then y.bind Node.parent else parentOf N d := by
  unfold parentOf
  by_cases h : d = c
  · rw [h, update_self, if_pos rfl]
  · rw [update_of_ne h, if_neg h]

theorem parentOf_update_same {y : Option Node} (h : y.bind Node.parent = parentOf N c) (d : Nat) :
    parentOf (update N c y) d = parentOf N d := by
  rw [parentOf_update, h]
  by_cases hd : d = c
  · rw [if_pos hd, hd]
  · rw [if_neg hd]

variable {p : Nat} {x : Node}

/-- A node looks at its children, at whether its parent is live, and at its own
references. -/
theorem Node.Ok.congr (h : x.Ok held extra N p)
    (hchild : ∀ c, parentOf N' c = some p ↔ parentOf N c = some p)
    (hparent : ∀ q, x.parent = some q → (N' q).isSome)
    (hheld : held' p = held p) (hextra : extra' p = extra p) : x.Ok held' extra' N' p where
  nodup := h.nodup
  mem_children := fun c => (h.mem_children c).trans (hchild c).symm
  parent_lt := h.parent_lt
  parent_live := hparent
  count_eq := by rw [hheld, hextra, h.count_eq]
  count_pos := h.count_pos

namespace Forest

theorem empty : Forest (fun _ => false) extra (fun _ => none) where
  ok := by
    intro p x h
    cases h
  held_live := by
    intro p h
    cases h

variable (h : Forest held extra N)
include h

theorem parentOf_ne (hp : N p = none) (c : Nat) :
    parentOf N c ≠ some p := by
  intro hc
  cases hy : N c with
  | none => exact absurd hc (by simp [parentOf, hy])
  | some y =>
    rw [parentOf_eq hy] at hc
    exact absurd ((h.ok c y hy).parent_live p hc) (by simp [hp])

omit h in
theorem isSome_update {q i : Nat} (h : (N q).isSome) : (update N i (some y) q).isSome := by
  by_cases hq : q = i
  · rw [hq, update_self]
    rfl
  · rw [update_of_ne hq]
    exact h

theorem create {i : Nat} (hi : N i = none) (he : extra i = 0) :
    Forest (update held i true) extra (update N i (some ⟨1, [], none⟩)) := by
  have hparent : ∀ c, parentOf (update N i (some ⟨1, [], none⟩)) c = parentOf N c :=
    parentOf_update_same (by rw [parentOf, hi]; rfl)
  refine ⟨fun p x hp => ?_, fun p hp => ?_⟩
  · obtain ⟨rfl, rfl⟩ | ⟨hpi, hp⟩ := update_some hp
    · exact ⟨nodup_nil, fun c => by simp [hparent, h.parentOf_ne hi c], by simp, by simp,
        by simp [he], Nat.one_pos⟩
    · refine (h.ok p x hp).congr (fun c => by rw [hparent]) (fun q hq => ?_)
        (update_of_ne hpi ..) rfl
      exact isSome_update ((h.ok p x hp).parent_live q hq)
  · by_cases hpi : p = i
    · rw [hpi, update_self]
      rfl
    · rw [update_of_ne hpi] at hp
      exact isSome_update (h.held_live p hp)

omit h in
/-- The parents when a node changes and another one keeps its parent. -/
theorem parentOf_update_pair {w w' : Node} (hp : N p = some x) (hpc : p ≠ c)
    (hsame : w'.parent = x.parent) (d : Nat) :
    parentOf (update (update N c (some w)) p (some w')) d = if d = c then w.parent else parentOf N d := by
  rw [parentOf_update, parentOf_update]
  by_cases hd : d = p
  · rw [if_pos hd, if_neg (hd.trans_ne hpc), hd, parentOf_eq hp]
    exact hsame
  · rw [if_neg hd]
    rfl

/-- A new child of `p`. -/
theorem attach (hp : N p = some x)
    (hc : N c = none) (hlt : p < c) (he : extra c = 0) : Forest (update held c true) extra
      (update (update N c (some ⟨1, [], some p⟩)) p
        (some ⟨x.count + 1, x.children ++ [c], x.parent⟩)) := by
  have hx := h.ok p x hp
  have hparent : ∀ d, parentOf (update (update N c (some ⟨1, [], some p⟩)) p
      (some ⟨x.count + 1, x.children ++ [c], x.parent⟩)) d = if d = c then some p else parentOf N d :=
    parentOf_update_pair hp (Nat.ne_of_lt hlt) rfl
  have hnew : parentOf N c ≠ some p := by simp [parentOf, hc]
  refine ⟨fun i z hi => ?_, fun i hi => ?_⟩
  · obtain ⟨rfl, rfl⟩ | ⟨hip, hi⟩ := update_some hi
    · refine ⟨?_, fun d => ?_, hx.parent_lt, ?_, ?_, Nat.succ_pos _⟩
      · exact nodup_append.mpr ⟨hx.nodup, by simp, fun d hd e he' hde => by
          rw [mem_singleton] at he'
          exact hnew ((hx.mem_children c).mp (he' ▸ hde ▸ hd))⟩
      · rw [hparent, mem_append, mem_singleton, hx.mem_children]
        by_cases hd : d = c
        · simp [hd]
        · simp [hd]
      · exact fun q hq => isSome_update (isSome_update (hx.parent_live q hq))
      · have := hx.count_eq
        rw [update_of_ne (by omega)]
        simp only [length_append, length_singleton]
        omega
    · obtain ⟨rfl, rfl⟩ | ⟨hic, hi⟩ := update_some hi
      · refine ⟨nodup_nil, fun d => ?_, by simpa using hlt, ?_, by simp [he], Nat.one_pos⟩
        · rw [hparent]
          by_cases hd : d = i
          · simp [hd, Nat.ne_of_lt hlt]
          · simp [hd, h.parentOf_ne hc d]
        · intro q hq
          cases hq
          rw [update_self]
          rfl
      · refine (h.ok i z hi).congr (fun d => ?_) (fun q hq => ?_) (update_of_ne hic ..) rfl
        · rw [hparent]
          by_cases hd : d = c
          · rw [hd, if_pos rfl]
            simp [parentOf, hc, Ne.symm hip]
          · rw [if_neg hd]
        · exact isSome_update (isSome_update ((h.ok i z hi).parent_live q hq))
  · by_cases hic : i = c
    · rw [hic, update_of_ne (by omega), update_self]
      rfl
    · rw [update_of_ne hic] at hi
      exact isSome_update (isSome_update (h.held_live i hi))

/-- Take `b` off its parent's list: `b` is a root, and its reference on the parent
is left to be dropped. -/
theorem sever {b : Nat} (hb : N b = some y)
    (hy : y.parent = some p) (hp : N p = some x) : Forest held (update extra p (extra p + 1))
      (update (update N b (some {y with parent := none})) p
        (some {x with children := swapRemove x.children b})) := by
  have hx := h.ok p x hp
  have hlt : p < b := (h.ok b y hb).parent_lt p hy
  have hmem : b ∈ x.children := (hx.mem_children b).mpr ((parentOf_eq hb).trans hy)
  have hparent : ∀ d, parentOf (update (update N b (some {y with parent := none})) p
      (some {x with children := swapRemove x.children b})) d =
        if d = b then none else parentOf N d :=
    parentOf_update_pair hp (Nat.ne_of_lt hlt) rfl
  refine ⟨fun i z hi => ?_, fun i hi => isSome_update (isSome_update (h.held_live i hi))⟩
  obtain ⟨rfl, rfl⟩ | ⟨hip, hi⟩ := update_some hi
  · refine ⟨nodup_swapRemove hx.nodup hmem, fun d => ?_, hx.parent_lt, ?_, ?_, hx.count_pos⟩
    · rw [hparent, mem_swapRemove hx.nodup hmem, hx.mem_children]
      by_cases hd : d = b
      · simp [hd]
      · simp [hd]
    · exact fun q hq => isSome_update (isSome_update (hx.parent_live q hq))
    · have hlen := length_swapRemove hmem
      have hcount := hx.count_eq
      rw [update_self]
      show x.count = _ + (swapRemove x.children b).length + _
      omega
  · have hz : z.Ok held extra N i := by
      obtain ⟨rfl, rfl⟩ | ⟨-, hi⟩ := update_some hi
      · have hyo := h.ok i y hb
        exact ⟨hyo.nodup, hyo.mem_children, by simp, by simp, hyo.count_eq, hyo.count_pos⟩
      · exact h.ok i z hi
    refine hz.congr (fun d => ?_) (fun q hq => ?_) rfl (update_of_ne hip ..)
    · rw [hparent]
      by_cases hd : d = b
      · rw [hd, if_pos rfl, parentOf_eq hb, hy]
        simp [Ne.symm hip]
      · rw [if_neg hd]
    · exact isSome_update (isSome_update (hz.parent_live q hq))

theorem drop (hp : N p = some x) (he : 0 < extra p) (hc : x.count ≠ 1) :
    Forest held (update extra p (extra p - 1)) (update N p (some {x with count := x.count - 1})) := by
  have hx := h.ok p x hp
  have hparent : ∀ d, parentOf (update N p (some {x with count := x.count - 1})) d = parentOf N d :=
    parentOf_update_same (parentOf_eq hp).symm
  refine ⟨fun i z hi => ?_, fun i hi => isSome_update (h.held_live i hi)⟩
  obtain ⟨rfl, rfl⟩ | ⟨hip, hi⟩ := update_some hi
  · have hcount := hx.count_eq
    refine ⟨hx.nodup, fun d => by rw [hparent]; exact hx.mem_children d, hx.parent_lt,
      fun q hq => isSome_update (hx.parent_live q hq), ?_, ?_⟩
    · rw [update_self]
      show x.count - 1 = _ + x.children.length + _
      omega
    · show 0 < x.count - 1
      omega
  · exact (h.ok i z hi).congr (fun d => by rw [hparent])
      (fun q hq => isSome_update ((h.ok i z hi).parent_live q hq)) rfl (update_of_ne hip ..)

/-- When the last reference is an extra one, there is no holder and no child. -/
theorem last (hp : N p = some x) (he : 0 < extra p)
    (hc : x.count = 1) : x.children = [] ∧ held p = false ∧ extra p = 1 := by
  have hcount := (h.ok p x hp).count_eq
  have hchildren : x.children.length = 0 := by omega
  refine ⟨length_eq_zero_iff.mp hchildren, ?_, by omega⟩
  cases hh : held p with
  | false => rfl
  | true =>
    rw [hh, Bool.toNat_true] at hcount
    omega

theorem eraseRoot (hp : N p = some x)
    (hroot : x.parent = none) (he : 0 < extra p) (hc : x.count = 1) :
    Forest held (update extra p 0) (update N p none) := by
  obtain ⟨hchildren, hheld, -⟩ := h.last hp he hc
  have hnone : ∀ d, parentOf N d ≠ some p := by
    intro d hd
    have := ((h.ok p x hp).mem_children d).mpr hd
    rw [hchildren] at this
    cases this
  have hparent : ∀ d, parentOf (update N p none) d = parentOf N d :=
    parentOf_update_same (by rw [parentOf_eq hp, hroot]; rfl)
  refine ⟨fun i z hi => ?_, fun i hi => ?_⟩
  · obtain ⟨hip, hi⟩ := Table.update_none hi
    refine (h.ok i z hi).congr (fun d => by rw [hparent]) (fun q hq => ?_) rfl
      (update_of_ne hip ..)
    have hqp : q ≠ p := fun hqp => hnone i ((parentOf_eq hi).trans (hqp ▸ hq))
    rw [update_of_ne hqp]
    exact (h.ok i z hi).parent_live q hq
  · have hip : i ≠ p := by
      intro hip
      rw [hip, hheld] at hi
      cases hi
    rw [update_of_ne hip]
    exact h.held_live i hi

/-- A holder that goes leaves its reference to be dropped. -/
theorem unhold (hp : held p = true) :
    Forest (update held p false) (update extra p (extra p + 1)) N := by
  refine ⟨fun i z hi => ?_, fun i hi => ?_⟩
  · by_cases hip : i = p
    · subst hip
      have hz := h.ok i z hi
      refine ⟨hz.nodup, hz.mem_children, hz.parent_lt, hz.parent_live, ?_, hz.count_pos⟩
      have hcount := hz.count_eq
      rw [hp, Bool.toNat_true] at hcount
      rw [update_self, update_self, Bool.toNat_false]
      omega
    · exact (h.ok i z hi).congr (fun _ => Iff.rfl) (h.ok i z hi).parent_live
        (update_of_ne hip ..) (update_of_ne hip ..)
  · by_cases hip : i = p
    · rw [hip, update_self] at hi
      cases hi
    · rw [update_of_ne hip] at hi
      exact h.held_live i hi

end Forest
end Mvgal
