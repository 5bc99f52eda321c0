import Mvgal.Memory.Bind

/-! What the binding calls give to a GPU, and what they store in one buffer.

`Grants` says for each GPU which mapping and flags it was given last. A buffer
stores them (`Buffer.Binds`) when its first `gpu_binding_count` places hold exactly
these, one place for each GPU. Binding, replicating and aliasing store what they
give. The DMA-BUF constructor stores the binding of GPU `i` at place `i`, which is
right exactly when the mask has no gap (`binds_dmaBuffer_iff`), and
`mvgal_memory_set_access` tells reading from writing exactly when both or neither
is asked for (`setAccess_exact`). -/
namespace Mvgal.Memory
open Option Buffer Nat Roster
open Blocks (Ptr)
open Function (update update_self update_of_ne)

/-- What each GPU was given. -/
abbrev Grants : Type := Nat → Option Binding

def Buffer.Binds (x : Buffer) (M : Grants) : Prop :=
  Roster.Holds Binding.gpuIndex x.binding x.gpuBindingCount M

/-- The places after the first ones are as `calloc` left them. -/
structure Buffer.Slots (x : Buffer) : Prop where
  count_le : x.gpuBindingCount ≤ maxGpus
  index_lt : ∀ i, i < x.gpuBindingCount → (x.binding i).gpuIndex < maxGpus
  rest : ∀ i, x.gpuBindingCount ≤ i → x.binding i = .zero

variable {x y : Buffer} {M : Grants} {gpu i : Nat}

theorem Buffer.Binds.congr (h : x.Binds M) (hb : y.gpuBindings = x.gpuBindings)
    (hc : y.gpuBindingCount = x.gpuBindingCount) : y.Binds M := by
  unfold Binds
  rw [binding_congr hb, hc]
  exact h

theorem Buffer.Slots.congr (h : x.Slots) (hb : y.gpuBindings = x.gpuBindings)
    (hc : y.gpuBindingCount = x.gpuBindingCount) : y.Slots := by
  have hbind := binding_congr hb
  exact ⟨hc ▸ h.count_le, by rw [hbind, hc]; exact h.index_lt, by rw [hbind, hc]; exact h.rest⟩

theorem Buffer.Binds.set (h : x.Binds M) (hs : x.Slots) (hfind : x.findBinding gpu = some i)
    {f : Binding → Binding} (hf : ∀ e, (f e).gpuIndex = e.gpuIndex) : M gpu = some (x.binding i) ∧
      (x.setBinding i f).Binds (update M gpu (some (f (x.binding i)))) ∧ (x.setBinding i f).Slots := by
  obtain ⟨hi, hkey⟩ := search_some hfind
  have hbind := binding_setBinding (x := x) (lt_of_lt_of_le hi hs.count_le) f
  have hcount : (x.setBinding i f).gpuBindingCount = x.gpuBindingCount := setBinding_count i f
  have hgpu : (f (x.binding i)).gpuIndex = gpu := (hf _).trans hkey
  refine ⟨Holds.of_search_some h hfind, ?_, (le_of_eq hcount).trans hs.count_le, fun j hj => ?_, fun j hj => ?_⟩
  · have hset := Holds.set h hi (hf _)
    rw [hgpu] at hset
    unfold Binds
    rw [hbind, hcount]
    exact hset
  · rw [hcount] at hj
    rw [hbind]
    by_cases hji : j = i
    · rw [hji, update_self, hf]
      exact hs.index_lt i hi
    · rw [update_of_ne hji]
      exact hs.index_lt j hj
  · rw [hcount] at hj
    rw [hbind, update_of_ne (by omega)]
    exact hs.rest j hj

/-- A GPU that was not bound gets the next place; there is one. -/
theorem Buffer.Binds.append (h : x.Binds M) (hs : x.Slots) (hfind : x.findBinding gpu = none)
    (hgpu : gpu < maxGpus) {f : Binding → Binding} (hf : (f .zero).gpuIndex = gpu) :
    M gpu = none ∧ x.gpuBindingCount < maxGpus ∧
      (x.appendBinding f).Binds (update M gpu (some (f .zero))) ∧ (x.appendBinding f).Slots := by
  have hfree := search_none hfind
  have hlt : x.gpuBindingCount < maxGpus := Holds.lt_of_unused h hs.index_lt hgpu hfree
  have hbind := binding_appendBinding hlt f
  rw [hs.rest _ (le_refl _)] at hbind
  have hcount : (x.appendBinding f).gpuBindingCount = x.gpuBindingCount + 1 := appendBinding_count f
  refine ⟨Holds.of_search_none h hfind, hlt, ?_, (le_of_eq hcount).trans hlt, fun j hj => ?_, fun j hj => ?_⟩
  · have happ := Holds.append h fun j hj => hf ▸ hfree j hj
    rw [hf] at happ
    unfold Binds
    rw [hbind, hcount]
    exact happ
  · rw [hcount] at hj
    rw [hbind]
    by_cases hjn : j = x.gpuBindingCount
    · rw [hjn, update_self, hf]
      exact hgpu
    · rw [update_of_ne hjn]
      exact hs.index_lt j (by omega)
  · rw [hcount] at hj
    rw [hbind, update_of_ne (by omega)]
    exact hs.rest j (by omega)

/-! ### What the calls give -/

/-- `mvgal_buffer_bind_to_gpu` gives the mapping of the buffer, or new flags. -/
def grantBind (gpuCount : Nat) (host : Option Ptr) (gpu : Nat) (writable : Bool) (M : Grants) : Grants :=
  if gpu < maxGpus ∧ gpu < gpuCount then
    update M gpu (some
      (match M gpu with
      | some e => {e with writable := writable, readable := true}
      | none => ⟨gpu, none, host, writable, true⟩))
  else M

/-- `mvgal_dmabuf_bind_to_gpu` gives an address to a GPU that is enabled and not bound. -/
def grantDmabuf (mgr : GpuManager) (x : Buffer) (gpu : Nat) (M : Grants) : Grants :=
  if x.dmabufFd ≠ none ∧ M gpu = none ∧ gpu < mgr.count ∧ mgr.enabled gpu = true then
    update M gpu (some ⟨gpu, x.hostPtr, none, true, true⟩)
  else M

/-- Flags for a bound GPU, and a binding with these flags for one that is not. -/
def grantFlags (gpuCount : Nat) (host : Option Ptr) (gpu : Nat) (access : UInt32)
    (bound new : Bool × Bool) (M : Grants) : Grants :=
  if gpu < maxGpus then
    match M gpu with
    | some e => update M gpu (some {e with readable := bound.1, writable := bound.2})
    | none =>
      if access ≠ 0 ∧ gpu < gpuCount then update M gpu (some ⟨gpu, none, host, new.2, new.1⟩) else M
  else M

/-- `mvgal_memory_set_access` gives read and write access as its argument says. -/
def grantAccess (gpuCount : Nat) (host : Option Ptr) (gpu : Nat) (access : UInt32) (M : Grants) : Grants :=
  grantFlags gpuCount host gpu access (hasAny access accessRead, hasAny access accessWrite)
    (hasAny access accessRead, hasAny access accessWrite) M

/-- `mvgal_memory_replicate` binds each GPU, without write access. -/
def grantReplicas (gpuCount : Nat) (host : Option Ptr) (gpus : List Nat) (M : Grants) : Grants :=
  gpus.foldl (fun M g => grantBind gpuCount host g false M) M

/-- A read-only alias cannot write. -/
def aliasBinding (flags : UInt32) (e : Binding) : Binding :=
  if hasAny flags aliasReadOnly then {e with writable := false} else e

def grantAlias (flags : UInt32) (M : Grants) : Grants := fun g => (M g).map (aliasBinding flags)

/-- DMA-BUF memory is given to all GPUs of the mask. -/
def grantMask (info : AllocInfo) (x : Buffer) : Grants :=
  fun g =>
    if x.backend = .dmaBuf ∧ g < maxGpus ∧ inMask info.gpuMask g then
      some ⟨g, none, x.hostPtr, hasAny info.access accessWrite, true⟩
    else none

theorem bindToGpu_hostPtr (x : Buffer) (gpu gpuCount : Nat) (writable : Bool) :
    (x.bindToGpu gpu gpuCount writable).2.hostPtr = x.hostPtr := by
  unfold bindToGpu
  split
  · rfl
  · split
    · rfl
    · split
      · simp only [setBinding_hostPtr]
      · simp only
        split
        · simp only [appendBinding_hostPtr, addToMask]
        · simp only [addToMask]

theorem binds_bindToGpu (h : x.Binds M) (hs : x.Slots) (gpu gpuCount : Nat) (writable : Bool) :
    (x.bindToGpu gpu gpuCount writable).2.Binds (grantBind gpuCount x.hostPtr gpu writable M) ∧
      (x.bindToGpu gpu gpuCount writable).2.Slots := by
  unfold bindToGpu grantBind
  by_cases hgpu : maxGpus ≤ gpu
  · rw [if_pos hgpu, if_neg (by omega)]
    exact ⟨h, hs⟩
  rw [if_neg hgpu]
  by_cases hcount : gpuCount ≤ gpu
  · rw [if_pos hcount, if_neg (by omega)]
    exact ⟨h, hs⟩
  have hin : gpu < maxGpus ∧ gpu < gpuCount := ⟨by omega, by omega⟩
  rw [if_neg hcount, if_pos hin]
  cases hfind : x.findBinding gpu with
  | some i =>
    obtain ⟨hM, hset⟩ := h.set hs hfind
      (f := fun e => {e with writable := writable, readable := true}) fun _ => rfl
    rw [hM]
    exact hset
  | none =>
    have h' : (x.addToMask gpu).Binds M := h.congr rfl rfl
    have hs' : (x.addToMask gpu).Slots := hs.congr rfl rfl
    obtain ⟨hM, hlt, happ⟩ := h'.append hs' hfind hin.1
      (f := fun e => {e with gpuIndex := gpu, mapping := x.hostPtr, writable := writable, readable := true})
      rfl
    rw [hM]
    rw [if_pos hlt]
    exact happ

theorem binds_dmabufBindToGpu (h : x.Binds M) (hs : x.Slots) (gpu : Nat) (mgr : GpuManager) :
    (x.dmabufBindToGpu gpu mgr).2.Binds (grantDmabuf mgr x gpu M) ∧
      (x.dmabufBindToGpu gpu mgr).2.Slots := by
  unfold dmabufBindToGpu grantDmabuf
  by_cases hfd : x.dmabufFd = none
  · rw [if_pos hfd, if_neg fun hc => hc.1 hfd]
    exact ⟨h, hs⟩
  rw [if_neg hfd]
  cases hfind : x.findBinding gpu with
  | some i =>
    have hM : M gpu = some (x.binding i) := Holds.of_search_some h hfind
    simp only [hM, reduceCtorEq, false_and, and_false, if_false]
    exact ⟨h, hs⟩
  | none =>
    by_cases hno : mgr.count ≤ gpu ∨ mgr.enabled gpu = false
    · have hnot : ¬ (gpu < mgr.count ∧ mgr.enabled gpu = true) := by
        rintro ⟨hlt, hon⟩
        rw [hon] at hno
        exact absurd hno (by simp [hlt])
      rw [if_pos hno, if_neg fun hc => hnot hc.2.2]
      exact ⟨h, hs⟩
    · obtain ⟨hlt, hon⟩ := not_or.mp hno
      rw [not_le] at hlt
      rw [Bool.not_eq_false] at hon
      obtain ⟨hM, hroom, happ⟩ := h.append hs hfind (lt_of_lt_of_le hlt mgr.count_le)
        (f := fun e => {e with gpuIndex := gpu, gpuAddress := x.hostPtr, writable := true, readable := true})
        rfl
      rw [if_neg hno, if_pos hroom, if_pos ⟨hfd, hM, hlt, hon⟩]
      exact happ

theorem binds_foldl_bindToGpu (gpuCount : Nat) (gpus : List Nat) (h : x.Binds M) (hs : x.Slots) :
    let y := gpus.foldl
      (fun x g => if maxGpus ≤ g then x else (x.bindToGpu g gpuCount false).2) x
    y.Binds (grantReplicas gpuCount x.hostPtr gpus M) ∧ y.Slots := by
  induction gpus generalizing x M with
  | nil => exact ⟨h, hs⟩
  | cons g gpus ih =>
    simp only [List.foldl_cons, grantReplicas]
    by_cases hg : maxGpus ≤ g
    · have hsame : grantBind gpuCount x.hostPtr g false M = M := if_neg (by omega)
      rw [if_pos hg, hsame]
      exact ih h hs
    · obtain ⟨hbinds, hslots⟩ := binds_bindToGpu h hs g gpuCount false
      have hrest := ih hbinds hslots
      rw [bindToGpu_hostPtr] at hrest
      rw [if_neg hg]
      exact hrest

theorem binds_replicate (gpuCount : Nat) (gpus : List Nat) (h : x.Binds M) (hs : x.Slots) :
    (x.replicate gpuCount gpus).2.Binds (grantReplicas gpuCount x.hostPtr gpus M) ∧
      (x.replicate gpuCount gpus).2.Slots := by
  unfold replicate
  split
  · next hnil =>
    rw [hnil]
    exact ⟨h, hs⟩
  · exact binds_foldl_bindToGpu gpuCount gpus h hs

theorem hasAny_readWrite (access : UInt32) :
    hasAny access accessReadWrite = (hasAny access accessRead || hasAny access accessWrite) := by
  have hsplit : access &&& (accessRead ||| accessWrite) = access &&& accessRead ||| access &&& accessWrite :=
    UInt32.toBitVec_inj.mp BitVec.and_or_distrib_left
  have hor : accessRead ||| accessWrite = accessReadWrite := by decide
  unfold hasAny
  rw [← hor, hsplit, Bool.eq_iff_iff]
  simp only [bne_iff_ne, ne_eq, UInt32.or_eq_zero_iff, not_and_or, Bool.or_eq_true]

/-- What `mvgal_memory_set_access` stores: a bound GPU may read if it may write, and
one that was not bound may read. -/
theorem binds_setAccess (h : x.Binds M) (hs : x.Slots) (gpu gpuCount : Nat) (access : UInt32) :
    (x.setAccess gpu gpuCount access).2.Binds (grantFlags gpuCount x.hostPtr gpu access
          (hasAny access accessReadWrite, hasAny access accessReadWrite)
          (true, hasAny access accessReadWrite) M) ∧ (x.setAccess gpu gpuCount access).2.Slots := by
  have hr : accessRead ||| accessReadWrite = accessReadWrite := by decide
  have hw : accessWrite ||| accessReadWrite = accessReadWrite := by decide
  unfold setAccess grantFlags
  by_cases hgpu : maxGpus ≤ gpu
  · rw [if_pos hgpu, if_neg (by omega)]
    exact ⟨h, hs⟩
  rw [if_neg hgpu, if_pos (not_le.mp hgpu), hr, hw]
  obtain ⟨y, hy, hb, hc, hh⟩ : ∃ y, (if access ≠ 0 then x.addToMask gpu else x.removeFromMask gpu) = y ∧
      y.gpuBindings = x.gpuBindings ∧ y.gpuBindingCount = x.gpuBindingCount ∧ y.hostPtr = x.hostPtr := by
    refine ⟨_, rfl, ?_⟩
    split <;> exact ⟨rfl, rfl, rfl⟩
  rw [hy]
  have hM : y.Binds M := h.congr hb hc
  have hslots : y.Slots := hs.congr hb hc
  simp only
  cases hfind : y.findBinding gpu with
  | some i =>
    obtain ⟨hgiven, hset⟩ := hM.set hslots hfind
      (f := fun e => {e with
        readable := hasAny access accessReadWrite, writable := hasAny access accessReadWrite})
      fun _ => rfl
    rw [hgiven]
    exact hset
  | none =>
    rw [Holds.of_search_none hM hfind]
    simp only
    by_cases h0 : access = 0
    · rw [if_neg fun hc => hc h0, if_neg fun hc => hc.1 h0]
      exact ⟨hM, hslots⟩
    · have hbind := binds_bindToGpu hM hslots gpu gpuCount (hasAny access accessReadWrite)
      rw [grantBind, Holds.of_search_none hM hfind, hh] at hbind
      rw [if_pos h0]
      by_cases hcount : gpu < gpuCount
      · rw [if_pos ⟨not_le.mp hgpu, hcount⟩] at hbind
        rw [if_pos ⟨h0, hcount⟩]
        exact hbind
      · rw [if_neg fun hc => hcount hc.2] at hbind
        rw [if_neg fun hc => hcount hc.2]
        exact hbind

theorem grantFlags_eq_iff (gpuCount : Nat) (host : Option Ptr) (access : UInt32)
    (bound new bound' new' : Bool × Bool) :
    grantFlags gpuCount host gpu access bound new M = grantFlags gpuCount host gpu access bound' new' M ↔
      (gpu < maxGpus → ((M gpu).isSome → bound = bound') ∧
        (M gpu = none → access ≠ 0 → gpu < gpuCount → new = new')) := by
  unfold grantFlags
  by_cases hgpu : gpu < maxGpus
  · cases hM : M gpu with
    | some e =>
      simp only [hgpu, if_true, isSome_some, reduceCtorEq, false_imp_iff, and_true, true_imp_iff]
      constructor
      · intro heq
        have hat := congrFun heq gpu
        simp only [update_self, some.injEq, Binding.mk.injEq] at hat
        exact Prod.ext hat.2.2.2.2 hat.2.2.2.1
      · intro heq
        rw [heq]
    | none =>
      simp only [hgpu, if_true, isSome_none, Bool.false_eq_true, false_imp_iff, true_and,
        true_imp_iff]
      by_cases hnew : access ≠ 0 ∧ gpu < gpuCount
      · rw [if_pos hnew, if_pos hnew]
        constructor
        · intro heq _ _
          have hat := congrFun heq gpu
          simp only [update_self, some.injEq, Binding.mk.injEq] at hat
          exact Prod.ext hat.2.2.2.2 hat.2.2.2.1
        · intro heq
          rw [heq hnew.1 hnew.2]
      · rw [if_neg hnew, if_neg hnew]
        exact ⟨fun _ h0 hcount => absurd ⟨h0, hcount⟩ hnew, fun _ => rfl⟩
  · simp [hgpu]

/-- `mvgal_memory_set_access` can express the access: a bound GPU gets both rights or
none, and one that is not bound gets both. -/
def AccessFits (x : Buffer) (gpu gpuCount : Nat) (access : UInt32) : Prop :=
  gpu < maxGpus →
    ((x.findBinding gpu).isSome → hasAny access accessRead = hasAny access accessWrite) ∧
    (x.findBinding gpu = none → access ≠ 0 → gpu < gpuCount →
      hasAny access accessRead = true ∧ hasAny access accessWrite = true)

theorem setAccess_exact (h : x.Binds M) (hs : x.Slots) (gpu gpuCount : Nat) (access : UInt32) :
    (x.setAccess gpu gpuCount access).2.Binds (grantAccess gpuCount x.hostPtr gpu access M) ↔
      AccessFits x gpu gpuCount access := by
  obtain ⟨hstored, -⟩ := binds_setAccess h hs gpu gpuCount access
  have hiff : (x.setAccess gpu gpuCount access).2.Binds (grantAccess gpuCount x.hostPtr gpu access M) ↔
      grantAccess gpuCount x.hostPtr gpu access M = _ :=
    ⟨fun hgiven => Holds.unique hgiven hstored, fun heq => heq ▸ hstored⟩
  have hsearch := Holds.search_eq h gpu
  have hsome : (M gpu).isSome = (x.findBinding gpu).isSome := by
    rw [← hsearch, isSome_map]
    rfl
  have hnone : M gpu = none ↔ x.findBinding gpu = none := by
    rw [← not_isSome_iff_eq_none, ← not_isSome_iff_eq_none, hsome]
  rw [hiff, grantAccess, grantFlags_eq_iff, hsome, hnone, hasAny_readWrite]
  unfold AccessFits
  cases hasAny access accessRead <;> cases hasAny access accessWrite <;> simp

/-- The GPUs of the mask are the first ones. -/
def MaskDense (mask : UInt32) : Prop :=
  ∀ i j, i ≤ j → j < maxGpus → inMask mask j = true → inMask mask i = true

theorem binding_dmaBuffer (info : AllocInfo) (fd : Nat) (p : Ptr) (i : Nat) :
    (dmaBuffer info fd p).binding i = if i < maxGpus then dmaBinding info p i else .zero := by
  unfold binding dmaBuffer
  split
  · exact Vector.getElem_ofFn _
  · rfl

theorem dmaBuffer_grants (info : AllocInfo) (fd : Nat) (p : Ptr) (g : Nat) :
    grantMask info (dmaBuffer info fd p) g =
      if g < maxGpus ∧ inMask info.gpuMask g = true then some (dmaBinding info p g) else none := by
  unfold grantMask dmaBinding
  by_cases hg : g < maxGpus ∧ inMask info.gpuMask g = true
  · rw [if_pos ⟨rfl, hg⟩, if_pos hg, if_pos hg.2]
    rfl
  · rw [if_neg fun hc => hg hc.2, if_neg hg]

variable {info : AllocInfo}

/-- A mask without a gap puts the binding of each of its GPUs at the place of that GPU. -/
theorem binding_of_dense (hd : MaskDense info.gpuMask) (fd : Nat) (p : Ptr) {i : Nat}
    (hi : i < (dmaBuffer info fd p).gpuBindingCount) :
    i < maxGpus ∧ inMask info.gpuMask i = true ∧ (dmaBuffer info fd p).binding i = dmaBinding info p i ∧
      (dmaBinding info p i).gpuIndex = i := by
  have hlt := lt_of_lt_of_le hi (countP_range_le (inMask info.gpuMask) maxGpus)
  have hmask := (mem_iff_lt_of_dense hd i hlt).mpr hi
  rw [binding_dmaBuffer, if_pos hlt, dmaBinding, if_pos hmask]
  exact ⟨hlt, hmask, rfl, rfl⟩

theorem maskDense_of_binds {fd : Nat} {p : Ptr}
    (h : (dmaBuffer info fd p).Binds (grantMask info (dmaBuffer info fd p))) : MaskDense info.gpuMask := by
  apply (dense_iff (inMask info.gpuMask) maxGpus).mpr
  intro g hg hin
  -- the place that holds the binding of `g` is `g` itself
  have hgrant := dmaBuffer_grants info fd p g
  rw [if_pos ⟨hg, hin⟩] at hgrant
  obtain ⟨i, hi, hbind, -⟩ := (h.mem_iff g _).mp hgrant
  have hlt := lt_of_lt_of_le hi (countP_range_le (inMask info.gpuMask) maxGpus)
  rw [binding_dmaBuffer, if_pos hlt] at hbind
  have hgi : i = g := by
    unfold dmaBinding at hbind
    split at hbind
    · exact congrArg Binding.gpuIndex hbind
    · exact absurd (congrArg Binding.readable hbind) (by simp [Binding.zero])
  exact hgi ▸ hi

theorem binds_of_maskDense (hd : MaskDense info.gpuMask) (fd : Nat) (p : Ptr) :
    (dmaBuffer info fd p).Binds (grantMask info (dmaBuffer info fd p)) := by
  constructor
  · intro i j hi hj hkey
    obtain ⟨-, -, hbi, hgi⟩ := binding_of_dense hd fd p hi
    obtain ⟨-, -, hbj, hgj⟩ := binding_of_dense hd fd p hj
    rwa [hbi, hbj, hgi, hgj] at hkey
  · intro g a
    rw [dmaBuffer_grants]
    constructor
    · intro hg
      obtain ⟨⟨hlt, hmask⟩, ha⟩ := ite_none_right_eq_some.mp hg
      have hi := (mem_iff_lt_of_dense hd g hlt).mp hmask
      obtain ⟨-, -, hbind, hindex⟩ := binding_of_dense hd fd p hi
      cases ha
      exact ⟨g, hi, hbind, hindex⟩
    · rintro ⟨i, hi, rfl, hkey⟩
      obtain ⟨hlt, hmask, hbind, hindex⟩ := binding_of_dense hd fd p hi
      rw [hbind, hindex] at hkey
      subst hkey
      rw [if_pos ⟨hlt, hmask⟩, hbind]

/-- The DMA-BUF constructor stores what it gives exactly when the mask has no gap. -/
theorem binds_dmaBuffer_iff (info : AllocInfo) (fd : Nat) (p : Ptr) :
    (dmaBuffer info fd p).Binds (grantMask info (dmaBuffer info fd p)) ↔ MaskDense info.gpuMask :=
  ⟨maskDense_of_binds, fun hd => binds_of_maskDense hd fd p⟩

theorem slots_dmaBuffer (info : AllocInfo) (fd : Nat) (p : Ptr) (hd : MaskDense info.gpuMask) :
    (dmaBuffer info fd p).Slots := by
  have hle := countP_range_le (inMask info.gpuMask) maxGpus
  refine ⟨hle, fun i hi => ?_, fun i hi => ?_⟩
  · obtain ⟨hlt, -, hbind, hindex⟩ := binding_of_dense hd fd p hi
    rw [hbind, hindex]
    exact hlt
  · rw [binding_dmaBuffer]
    split
    · next hlt => exact if_neg fun hmask => not_lt.mpr hi ((mem_iff_lt_of_dense hd i hlt).mp hmask)
    · rfl

theorem binding_blank {x : Buffer} (h : x.gpuBindings = Vector.replicate maxGpus .zero) (i : Nat) :
    x.binding i = .zero := by
  unfold binding
  rw [h]
  split
  · exact Vector.getElem_replicate _
  · rfl

theorem binds_systemBuffer (info : AllocInfo) (p : Ptr) :
    (systemBuffer info p).Binds (grantMask info (systemBuffer info p)) ∧ (systemBuffer info p).Slots := by
  have hcount : (systemBuffer info p).gpuBindingCount = 0 := rfl
  refine ⟨?_, zero_le _, fun i hi => ?_, fun i _ => binding_blank rfl i⟩
  · unfold Binds
    exact Holds.empty
  · rw [hcount] at hi
    omega

theorem binding_alias (x : Buffer) (p : Nat) (offset size : UInt64) (flags : UInt32) (i : Nat) :
    ((x.alias p offset size).restrict flags).binding i =
      if i < x.gpuBindingCount then aliasBinding flags (x.binding i) else .zero := by
  unfold Buffer.restrict Buffer.alias aliasBinding Buffer.binding
  by_cases hlt : i < maxGpus
  · by_cases hi : i < x.gpuBindingCount <;>
      cases hasAny flags aliasReadOnly <;> cases hasAny flags aliasWriteOnly <;> simp [hi, hlt]
  · simp [hlt, Binding.zero]

theorem binds_alias (h : x.Binds M) (hs : x.Slots) (p : Nat) (offset size : UInt64) (flags : UInt32) :
    ((x.alias p offset size).restrict flags).Binds (grantAlias flags M) ∧
      ((x.alias p offset size).restrict flags).Slots := by
  have hbind := binding_alias x p offset size flags
  have hcount : ((x.alias p offset size).restrict flags).gpuBindingCount = x.gpuBindingCount := by
    obtain ⟨v, access, hr⟩ := restrict_eq (x.alias p offset size) flags
    rw [hr]
    rfl
  have hkey (e : Binding) : (aliasBinding flags e).gpuIndex = e.gpuIndex := by
    unfold aliasBinding
    split <;> rfl
  refine ⟨?_, hcount ▸ hs.count_le, fun i hi => ?_, fun i hi => ?_⟩
  · unfold Binds
    rw [hcount]
    exact (Holds.map h hkey).congr fun i hi => (hbind i).trans (if_pos hi)
  · rw [hcount] at hi
    rw [hbind, if_pos hi, hkey]
    exact hs.index_lt i hi
  · rw [hcount] at hi
    rw [hbind, if_neg (not_lt.mpr hi)]

end Mvgal.Memory
