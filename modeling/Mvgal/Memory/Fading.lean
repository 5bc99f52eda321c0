import Mvgal.Memory.Access
import Mvgal.Memory.Bind

/-! What a release and an unmapping leave alone.

Releasing a buffer and unmapping it take memory, structures, links and pointers away, and
add nothing (`Fades`). A release destroys a buffer and perhaps its ancestors, and writes
to their aliases. So a structure outside a set of buffers that is closed under parents,
and on the alias list of none of them, stays as it is, and so does a block that none of
them points to (`Confined`, `bufferRelease_fades`). -/
namespace Mvgal.Memory
open Arena
open Blocks (Ptr Space Fault)

def Buffer.fixed (x : Buffer) :
    Option Ptr × Option Nat × UInt64 × UInt64 × Vector Binding maxGpus × Nat :=
  (x.originalPtr, x.dmabufFd, x.size, x.aliasSize, x.gpuBindings, x.gpuBindingCount)

/-- The structure has the pointers and links it had, or fewer. -/
structure Buffer.Fades (x x' : Buffer) : Prop where
  parent : x'.parent? = x.parent? ∨ x'.parent? = none
  aliases : List.Subperm x'.aliases x.aliases
  hostPtr : x'.hostPtr = x.hostPtr ∨ x'.hostPtr = none
  fixed : x'.fixed = x.fixed

namespace Buffer.Fades

variable {x y z : Buffer}

theorem refl (x : Buffer) : x.Fades x := ⟨.inl rfl, List.Subperm.refl _, .inl rfl, rfl⟩

variable (h : x.Fades y)
include h

theorem trans (h' : y.Fades z) : x.Fades z where
  parent := by
    obtain hp | hp := h'.parent
    · rw [hp]
      exact h.parent
    · exact .inr hp
  aliases := h'.aliases.trans h.aliases
  hostPtr := by
    obtain hp | hp := h'.hostPtr
    · rw [hp]
      exact h.hostPtr
    · exact .inr hp
  fixed := h'.fixed.trans h.fixed

theorem parent_of {q : Nat} (hq : y.parent? = some q) : x.parent? = some q := by
  obtain hp | hp := h.parent
  · exact hp.symm.trans hq
  · cases hp.symm.trans hq

theorem hostPtr_of {r : Ptr} (hr : y.hostPtr = some r) : x.hostPtr = some r := by
  obtain hp | hp := h.hostPtr
  · exact hp.symm.trans hr
  · cases hp.symm.trans hr

theorem originalPtr : y.originalPtr = x.originalPtr := congrArg Prod.fst h.fixed

theorem dmabufFd : y.dmabufFd = x.dmabufFd := congrArg (·.2.1) h.fixed

end Buffer.Fades

/-- Blocks were only taken away, and those of `keep` were not. -/
structure SpaceFades (keep : Nat → Prop) (s s' : Space) : Prop where
  bytes : s'.bytes = s.bytes
  objects : s'.objects = s.objects
  next : s'.blocks.next = s.blocks.next
  blocks : ∀ i B, s'.blocks.cells i = some B → s.blocks.cells i = some B
  kept : ∀ i, keep i → s'.blocks.cells i = s.blocks.cells i

/-- Things were only taken away; structure `z` and the blocks of `keep` were not. -/
structure Fades (z : Nat) (keep : Nat → Prop) (m m' : State) : Prop extends
    SpaceFades keep m.space m'.space where
  same : m'.store.cells z = m.store.cells z
  cells : ∀ i x', m'.store.cells i = some x' → ∃ x, m.store.cells i = some x ∧ x.Fades x'
  created : m'.store.next = m.store.next

/-- The structure has its parent in `T`, does not have `z` as an alias, and points to no block
of `keep`. -/
structure Buffer.Clear (T : Nat → Prop) (z : Nat) (keep : Nat → Prop) (x : Buffer) : Prop where
  parent : ∀ q, x.parent? = some q → T q
  aliases : z ∉ x.aliases
  hostPtr : ∀ r, x.hostPtr = some r → ¬ keep r.block
  originalPtr : ∀ r, x.originalPtr = some r → ¬ keep r.block

structure Confined (T : Nat → Prop) (z : Nat) (keep : Nat → Prop) (m : State) : Prop where
  outside : ¬ T z
  cells : ∀ i x, T i → m.store.cells i = some x → x.Clear T z keep

variable {T keep : Nat → Prop} {z k : Nat} {m m' m'' : State} {s s' s'' : Space} {x y : Buffer}

theorem SpaceFades.refl (s : Space) : SpaceFades keep s s := ⟨rfl, rfl, rfl, fun _ _ h => h, fun _ _ => rfl⟩

theorem SpaceFades.trans (h : SpaceFades keep s s') (h' : SpaceFades keep s' s'') : SpaceFades keep s s'' :=
  ⟨h'.bytes.trans h.bytes, h'.objects.trans h.objects, h'.next.trans h.next,
    fun i B hB => h.blocks i B (h'.blocks i B hB), fun i hi => (h'.kept i hi).trans (h.kept i hi)⟩

theorem Fades.refl (z : Nat) (keep : Nat → Prop) (m : State) : Fades z keep m m :=
  ⟨.refl _, rfl, fun _ x hx => ⟨x, hx, .refl x⟩, rfl⟩

theorem Fades.trans (h : Fades z keep m m') (h' : Fades z keep m' m'') : Fades z keep m m'' where
  toSpaceFades := h.toSpaceFades.trans h'.toSpaceFades
  same := h'.same.trans h.same
  cells := by
    intro i x'' hx''
    obtain ⟨x', hx', hf'⟩ := h'.cells i x'' hx''
    obtain ⟨x, hx, hf⟩ := h.cells i x' hx'
    exact ⟨x, hx, hf.trans hf'⟩
  created := h'.created.trans h.created

theorem Buffer.Clear.fades (h : x.Clear T z keep) (hf : x.Fades y) : y.Clear T z keep where
  parent := fun q hq => h.parent q (hf.parent_of hq)
  aliases := fun hz => h.aliases (hf.aliases.subset hz)
  hostPtr := fun r hr => h.hostPtr r (hf.hostPtr_of hr)
  originalPtr := fun r hr => h.originalPtr r (hf.originalPtr.symm.trans hr)

/-- Taking things away keeps buffers confined, whatever is protected from it. -/
theorem Confined.fades {z' : Nat} {keep' : Nat → Prop} (h : Confined T z keep m) (hf : Fades z' keep' m m') :
    Confined T z keep m' := by
  refine ⟨h.outside, fun i x' hi hx' => ?_⟩
  obtain ⟨x, hx, hfade⟩ := hf.cells i x' hx'
  exact (h.cells i x hi hx).fades hfade

theorem Confined.ne (h : Confined T z keep m) (hk : T k) : k ≠ z := fun he => h.outside (he ▸ hk)

theorem fades_modify {f : Buffer → Buffer} (hk : k ≠ z) (hf : ∀ x : Buffer, x.Fades (f x)) :
    Fades z keep m (m.modify k f) where
  toSpaceFades := .refl _
  same := modify_of_ne m.store f (Ne.symm hk)
  cells := by
    intro i x' hx'
    obtain ⟨rfl, x, hx, rfl⟩ | ⟨-, hx⟩ := of_modify hx'
    · exact ⟨x, hx, hf x⟩
    · exact ⟨x', hx, .refl x'⟩
  created := rfl

theorem orphan_fades (x : Buffer) : x.Fades x.orphan := ⟨.inr rfl, List.Subperm.refl _, .inl rfl, rfl⟩

theorem decref_fades (x : Buffer) : x.Fades x.decref := ⟨.inl rfl, List.Subperm.refl _, .inl rfl, rfl⟩

theorem clearAliases_fades (x : Buffer) : x.Fades x.clearAliases :=
  ⟨.inl rfl, List.nil_subperm, .inl rfl, rfl⟩

theorem removeAlias_fades (a : Nat) (x : Buffer) : x.Fades (x.removeAlias a) := by
  refine ⟨.inl rfl, ?_, .inl rfl, rfl⟩
  show List.Subperm (swapRemove x.aliases a) x.aliases
  by_cases ha : a ∈ x.aliases
  · exact (swapRemove_perm ha).subperm.trans (List.erase_subperm a x.aliases)
  · rw [swapRemove, if_neg ha]

theorem orphanAll_fades {l : List Nat} (h : orphanAll m l = .ok m') (hz : z ∉ l) : Fades z keep m m' := by
  induction l generalizing m with
  | nil =>
    obtain rfl := Except.ok.inj h
    exact .refl z keep m
  | cons a rest ih =>
    obtain ⟨x, -, h⟩ := bind_eq_ok h
    obtain ⟨hne, hrest⟩ := List.ne_and_not_mem_of_not_mem_cons hz
    exact (fades_modify (Ne.symm hne) orphan_fades).trans (ih h hrest)

theorem spaceFades_drop (s : Space) {r : Ptr} (hr : ¬ keep r.block) : SpaceFades keep s (s.drop r) where
  bytes := rfl
  objects := rfl
  next := rfl
  blocks := fun _ _ hB => (of_erase hB).2
  kept := fun _ hi => erase_of_ne _ fun he => hr (he ▸ hi)

theorem unmapOwned_fades (s : Space) (hp : ∀ r, x.hostPtr = some r → ¬ keep r.block) :
    SpaceFades keep s (x.unmapOwned s) := by
  unfold Buffer.unmapOwned
  split
  · split
    · next r hr => exact spaceFades_drop s (hp r hr)
    · exact .refl s
  · exact .refl s

theorem freeOwned_fades (ho : ∀ r, x.originalPtr = some r → ¬ keep r.block)
    (h : x.freeOwned s = .ok s') : SpaceFades keep s s' := by
  unfold Buffer.freeOwned at h
  split at h
  · split at h
    · next r hr =>
      unfold Space.free at h
      split at h
      · cases h
      · split at h
        · cases h
          exact spaceFades_drop s (ho r hr)
        · cases h
    · cases h
      exact .refl s
  · cases h
    exact .refl s

theorem fades_space (h : SpaceFades keep m.space s) : Fades z keep m {m with space := s} :=
  ⟨h, rfl, fun _ x hx => ⟨x, hx, .refl x⟩, rfl⟩

theorem fades_discard (hk : k ≠ z) (size : UInt64) : Fades z keep m (m.discard k size) where
  toSpaceFades := .refl _
  same := erase_of_ne m.store (Ne.symm hk)
  cells := fun _ x' hx' => ⟨x', (of_erase hx').2, .refl x'⟩
  created := rfl

variable (hc : Confined T z keep m)
include hc

theorem releaseWith_fades {destroy : State → Nat → Except Fault State} (hk : T k)
    (hdestroy : ∀ m m', Confined T z keep m → destroy m k = .ok m' → Fades z keep m m')
    (h : releaseWith destroy m k = .ok m') : Fades z keep m m' := by
  have hdec : Fades z keep m (m.modify k Buffer.decref) := fades_modify (hc.ne hk) decref_fades
  obtain ⟨x, -, ⟨-, h⟩ | ⟨-, rfl⟩⟩ := releaseWith_cases h
  · exact hdec.trans (hdestroy _ _ (hc.fades hdec) h)
  · exact hdec

/-- The destruction of a confined buffer; what goes with it is confined as well. -/
theorem freeInternal_fades {fuel : Nat} (hk : T k)
    (h : freeInternal fuel m k = .ok m') : Fades z keep m m' := by
  induction fuel generalizing m k m' with
  | zero => exact absurd h (by simp [freeInternal])
  | succ fuel ih =>
    obtain ⟨fuel', x, m₁, m₂, s, hfuel, hx, horphan, hparent, hown, rfl⟩ := freeInternal_cases h
    cases hfuel
    have hclear := hc.cells k x hk hx
    have h₁ : Fades z keep m (m₁.modify k Buffer.clearAliases) :=
      (orphanAll_fades horphan hclear.aliases).trans (fades_modify (hc.ne hk) clearAliases_fades)
    have h₂ : Fades z keep m m₂ := by
      cases hp : x.parent? with
      | none =>
        rw [hp] at hparent
        cases hparent
        exact h₁
      | some q =>
        rw [hp] at hparent
        have hq : T q := hclear.parent q hp
        have hrem : Fades z keep m ((m₁.modify k Buffer.clearAliases).modify q (·.removeAlias k)) :=
          h₁.trans (fades_modify (hc.ne hq) (removeAlias_fades k))
        exact hrem.trans (releaseWith_fades (hc.fades hrem) hq (fun m m' hc => ih hc hq) hparent)
    have hs : SpaceFades keep m₂.space s :=
      (unmapOwned_fades m₂.space hclear.hostPtr).trans (freeOwned_fades hclear.originalPtr hown)
    exact (h₂.trans (fades_space hs)).trans (fades_discard (hc.ne hk) x.size)

theorem bufferRelease_fades (hk : T k) (h : bufferRelease m k = .ok m') :
    Fades z keep m m' :=
  releaseWith_fades hc hk (fun _ _ hc => freeInternal_fades hc hk) h

theorem memoryUnmap_fades (hk : T k) (h : memoryUnmap m k = .ok m') :
    Fades z keep m m' := by
  obtain ⟨x, hx, rfl⟩ := map_eq_ok h
  have hx := read_ok_iff.mp hx
  have hfade : x.Fades (x.unmap m.space).1 ∧ SpaceFades keep m.space (x.unmap m.space).2 := by
    unfold Buffer.unmap
    split
    · exact ⟨⟨.inl rfl, List.Subperm.refl _, .inr rfl, rfl⟩, unmapOwned_fades m.space (hc.cells k x hk hx).hostPtr⟩
    · exact ⟨.refl x, .refl m.space⟩
  refine ⟨hfade.2, modify_of_ne m.store _ (hc.ne hk).symm, fun i y hy => ?_, rfl⟩
  obtain ⟨rfl, x', hx', rfl⟩ | ⟨-, hy⟩ := of_modify hy
  · exact ⟨x, hx, hfade.1⟩
  · exact ⟨y, hy, .refl y⟩

end Mvgal.Memory
