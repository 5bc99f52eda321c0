import Mvgal.Memory.Bindings

/-! Access rights: `mvgal_memory_get_access` after `mvgal_memory_set_access`
(`memory.c`).

The rights of a GPU are in three places: the mask of the buffer, the binding that the
search finds, and for a GPU of the mask without a binding a default. Setting rights
changes what is reported for that GPU only, whatever the history of the buffer
(`getAccess_setAccess_of_ne`), but reading and writing are not told apart: both tests
accept either bit. `access_round_trip_iff` says which rights are reported as they were
set. -/
namespace Mvgal.Memory
open Option Buffer Roster
open Function (update_self update_of_ne update)

/-- The access flags that the two flags of a binding stand for. -/
def flagsOf (readable writable : Bool) : UInt32 :=
  (if readable then accessRead else 0) ||| (if writable then accessWrite else 0)

/-- `mvgal_memory_get_access`. A GPU of the mask without a binding may read and write. -/
def Buffer.getAccess (x : Buffer) (gpu : Nat) : Except Error UInt32 :=
  if maxGpus ≤ gpu then .error .invalidArgument
  else if !inMask x.gpuMask gpu then .ok 0
  else
    match x.findBinding gpu with
    | some i => .ok (flagsOf (x.binding i).readable (x.binding i).writable)
    | none => .ok accessReadWrite

/-- How a buffer comes to its mask and its bindings: it is made by an allocation, a wrap
or as an alias, and its rights are changed by the binding calls. No other call of the
module writes the mask or the bindings of a structure. -/
inductive Buffer.Reachable : Buffer → Prop
  | system (info : AllocInfo) (p : Blocks.Ptr) : Reachable (systemBuffer info p)
  | dma (info : AllocInfo) (fd : Nat) (p : Blocks.Ptr) : Reachable (dmaBuffer info fd p)
  | wrapped (p : Blocks.Ptr) (size : UInt64) (flags : UInt32) : Reachable (wrappedBuffer p size flags)
  | aliased {x : Buffer} (parent : Nat) (offset size : UInt64) (flags : UInt32) :
    Reachable x → Reachable ((x.alias parent offset size).restrict flags)
  | bindToGpu {x : Buffer} (gpu gpuCount : Nat) (writable : Bool) :
    Reachable x → Reachable (x.bindToGpu gpu gpuCount writable).2
  | dmabufBindToGpu {x : Buffer} (gpu : Nat) (mgr : GpuManager) :
    Reachable x → Reachable (x.dmabufBindToGpu gpu mgr).2
  | setAccess {x : Buffer} (gpu gpuCount : Nat) (access : UInt32) :
    Reachable x → Reachable (x.setAccess gpu gpuCount access).2
  | other {x y : Buffer} : Reachable x → y.gpuMask = x.gpuMask → y.gpuBindings = x.gpuBindings →
    y.gpuBindingCount = x.gpuBindingCount → Reachable y

variable {x y : Buffer} {gpu gpuCount i g : Nat} {access : UInt32}

/-! ### What setting the rights does -/

/-- The mask after the rights are set: the GPU is in it if it has any. -/
def Buffer.mark (x : Buffer) (gpu : Nat) (access : UInt32) : Buffer :=
  if access ≠ 0 then x.addToMask gpu else x.removeFromMask gpu

theorem mark_count (x : Buffer) (gpu : Nat) (access : UInt32) :
    (x.mark gpu access).gpuBindingCount = x.gpuBindingCount := by
  unfold mark
  split <;> rfl

theorem mark_bindings (x : Buffer) (gpu : Nat) (access : UInt32) :
    (x.mark gpu access).gpuBindings = x.gpuBindings := by
  unfold mark
  split <;> rfl

theorem mark_hostPtr (x : Buffer) (gpu : Nat) (access : UInt32) :
    (x.mark gpu access).hostPtr = x.hostPtr := by
  unfold mark
  split <;> rfl

theorem findBinding_congr (hb : y.gpuBindings = x.gpuBindings) (hc : y.gpuBindingCount = x.gpuBindingCount)
    (gpu : Nat) : y.findBinding gpu = x.findBinding gpu := by
  rw [findBinding, findBinding, binding_congr hb, hc]

/-- The flags that the rights become in a binding: both tests are for either bit. -/
def Binding.withAccess (access : UInt32) (e : Binding) : Binding :=
  {e with readable := hasAny access accessReadWrite, writable := hasAny access accessReadWrite}

/-- A new binding is readable in any case. -/
def Binding.bound (x : Buffer) (gpu : Nat) (writable : Bool) (e : Binding) : Binding :=
  {e with gpuIndex := gpu, mapping := x.hostPtr, writable := writable, readable := true}

theorem hasAny_or (a b bits : UInt32) : hasAny (a ||| b) bits = (hasAny a bits || hasAny b bits) := by
  have hsplit : (a ||| b) &&& bits = a &&& bits ||| b &&& bits :=
    UInt32.toBitVec_inj.mp BitVec.and_or_distrib_right
  unfold hasAny
  rw [hsplit, Bool.eq_iff_iff]
  simp only [bne_iff_ne, ne_eq, UInt32.or_eq_zero_iff, not_and_or, Bool.or_eq_true]

theorem hasAny_bit : ∀ i j : Fin maxGpus,
    hasAny (1 <<< UInt32.ofNat i) (1 <<< UInt32.ofNat j) = decide (j = i) := by decide

theorem clear_bit : ∀ i j : Fin maxGpus, ~~~((1 : UInt32) <<< UInt32.ofNat i) &&& (1 <<< UInt32.ofNat j) =
    (if j = i then 0 else 1 <<< UInt32.ofNat j : UInt32) := by decide

theorem inMask_addToMask (x : Buffer) (hgpu : gpu < maxGpus) (hg : g < maxGpus) :
    inMask (x.addToMask gpu).gpuMask g = (inMask x.gpuMask g || decide (g = gpu)) := by
  have hbit := hasAny_bit ⟨gpu, hgpu⟩ ⟨g, hg⟩
  simp only [Fin.mk.injEq] at hbit
  rw [inMask, addToMask, hasAny_or, hbit]
  rfl

theorem inMask_mark (x : Buffer) (access : UInt32) (hgpu : gpu < maxGpus) (hg : g < maxGpus) :
    inMask (x.mark gpu access).gpuMask g = if g = gpu then decide (access ≠ 0) else inMask x.gpuMask g := by
  unfold mark
  by_cases h0 : access = 0
  · rw [if_neg (not_not_intro h0), inMask, removeFromMask, hasAny, UInt32.and_assoc,
      clear_bit ⟨gpu, hgpu⟩ ⟨g, hg⟩]
    simp only [Fin.mk.injEq]
    split
    · simp [h0]
    · rfl
  · rw [if_pos h0, inMask_addToMask x hgpu hg]
    split
    · next hgg => simp [hgg, h0]
    · next hgg => simp [hgg]

/-- Rights are set in the binding that is found; else a binding is appended when the GPU
exists and there is a place; else only the mask changes. -/
theorem setAccess_cases (x : Buffer) (hgpu : gpu < maxGpus) (gpuCount : Nat) (access : UInt32) :
    (∃ i, x.findBinding gpu = some i ∧
      x.setAccess gpu gpuCount access = (.success, (x.mark gpu access).setBinding i (.withAccess access))) ∨
    (x.findBinding gpu = none ∧ access ≠ 0 ∧ x.gpuBindingCount < maxGpus ∧
      x.setAccess gpu gpuCount access = (.success, ((x.mark gpu access).addToMask gpu).appendBinding
        (.bound x gpu (hasAny access accessReadWrite)))) ∨
    (x.findBinding gpu = none ∧ ∃ z, x.setAccess gpu gpuCount access = (.success, z) ∧
      z.gpuBindings = x.gpuBindings ∧ z.gpuBindingCount = x.gpuBindingCount ∧
      ∀ g, g < maxGpus → inMask z.gpuMask g = inMask (x.mark gpu access).gpuMask g) := by
  have hr : accessRead ||| accessReadWrite = accessReadWrite := by decide
  have hw : accessWrite ||| accessReadWrite = accessReadWrite := by decide
  have hfind : (x.mark gpu access).findBinding gpu = x.findBinding gpu :=
    findBinding_congr (mark_bindings x gpu access) (mark_count x gpu access) gpu
  have hset : x.setAccess gpu gpuCount access = match x.findBinding gpu with
      | some i => (.success, (x.mark gpu access).setBinding i (.withAccess access))
      | none => (.success, if access ≠ 0 then
          ((x.mark gpu access).bindToGpu gpu gpuCount (hasAny access accessReadWrite)).2
        else x.mark gpu access) := by
    rw [setAccess, if_neg (Nat.not_le.mpr hgpu), hr, hw, ← hfind]
    rfl
  cases hx : x.findBinding gpu with
  | some i =>
    rw [hx] at hset
    exact .inl ⟨i, rfl, hset⟩
  | none =>
    rw [hx] at hset
    rw [hx] at hfind
    refine .inr ?_
    by_cases h0 : access = 0
    · rw [if_neg (not_not_intro h0)] at hset
      exact .inr ⟨rfl, _, hset, mark_bindings x gpu access, mark_count x gpu access, fun _ _ => rfl⟩
    · rw [if_pos h0] at hset
      by_cases hcount : gpuCount ≤ gpu
      · rw [bindToGpu, if_neg (Nat.not_le.mpr hgpu), if_pos hcount] at hset
        exact .inr ⟨rfl, _, hset, mark_bindings x gpu access, mark_count x gpu access, fun _ _ => rfl⟩
      · rw [bindToGpu, if_neg (Nat.not_le.mpr hgpu), if_neg hcount, hfind] at hset
        dsimp only at hset
        have hmarked : ((x.mark gpu access).addToMask gpu).gpuBindingCount = x.gpuBindingCount :=
          mark_count x gpu access
        have hhost : ((x.mark gpu access).addToMask gpu).hostPtr = x.hostPtr := mark_hostPtr x gpu access
        rw [hmarked, hhost] at hset
        by_cases hroom : x.gpuBindingCount < maxGpus
        · rw [if_pos hroom] at hset
          exact .inl ⟨rfl, h0, hroom, hset⟩
        · rw [if_neg hroom] at hset
          refine .inr ⟨rfl, _, hset, mark_bindings x gpu access, hmarked, fun g hg => ?_⟩
          rw [inMask_addToMask _ hgpu hg, inMask_mark x access hgpu hg]
          by_cases hgg : g = gpu
          · simp [hgg, h0]
          · simp [hgg]

theorem setBinding_gpuMask (x : Buffer) (i : Nat) (f : Binding → Binding) :
    (x.setBinding i f).gpuMask = x.gpuMask := by
  simp only [setBinding]

variable {f : Binding → Binding}

theorem appendBinding_count_le (h : x.gpuBindingCount < maxGpus) :
    (x.appendBinding f).gpuBindingCount ≤ maxGpus := (appendBinding_count f).trans_le h

theorem bindToGpu_count_le (h : x.gpuBindingCount ≤ maxGpus) (gpu gpuCount : Nat) (writable : Bool) :
    (x.bindToGpu gpu gpuCount writable).2.gpuBindingCount ≤ maxGpus := by
  unfold bindToGpu
  split
  · exact h
  · split
    · exact h
    · split
      · rw [setBinding_count]
        exact h
      · dsimp only
        split
        · next hlt => exact appendBinding_count_le hlt
        · exact h

theorem Buffer.Reachable.count_le (h : x.Reachable) : x.gpuBindingCount ≤ maxGpus := by
  induction h with
  | system info p => exact Nat.zero_le _
  | dma info fd p => exact countP_range_le _ _
  | wrapped p size flags => exact Nat.zero_le _
  | @aliased x parent offset size flags _ ih =>
    obtain ⟨v, a, hr⟩ := restrict_eq (x.alias parent offset size) flags
    rw [hr]
    exact ih
  | bindToGpu gpu gpuCount writable _ ih => exact bindToGpu_count_le ih gpu gpuCount writable
  | dmabufBindToGpu gpu mgr _ ih =>
    unfold Buffer.dmabufBindToGpu
    split
    · exact ih
    · split
      · exact ih
      · split
        · exact ih
        · split
          · next hlt => exact appendBinding_count_le hlt
          · exact ih
  | @setAccess x gpu gpuCount access _ ih =>
    by_cases hgpu : gpu < maxGpus
    · obtain ⟨i, -, he⟩ | ⟨-, -, hlt, he⟩ | ⟨-, z, he, -, hc, -⟩ := setAccess_cases x hgpu gpuCount access
      · rw [he, setBinding_count, mark_count]
        exact ih
      · rw [he]
        exact appendBinding_count_le (by simpa [Buffer.addToMask, mark_count] using hlt)
      · rw [he]
        exact hc.trans_le ih
    · rw [Buffer.setAccess, if_pos (Nat.not_lt.mp hgpu)]
      exact ih
  | other _ _ _ hc ih => exact hc.trans_le ih

variable {w : Bound}

def Buffer.boundFlags (x : Buffer) (g : Nat) : Option (Bool × Bool) :=
  (x.findBinding g).map fun i => ((x.binding i).readable, (x.binding i).writable)

theorem getAccess_eq (x : Buffer) (hg : g < maxGpus) :
    x.getAccess g = .ok (if inMask x.gpuMask g then
      (x.boundFlags g).elim accessReadWrite fun f => flagsOf f.1 f.2 else 0) := by
  unfold getAccess boundFlags
  rw [if_neg (Nat.not_le.mpr hg)]
  cases inMask x.gpuMask g with
  | false => rfl
  | true =>
    cases x.findBinding g with
    | none => rfl
    | some i => rfl

theorem boundFlags_congr (hb : y.gpuBindings = x.gpuBindings) (hc : y.gpuBindingCount = x.gpuBindingCount) :
    y.boundFlags = x.boundFlags := by
  funext g
  rw [boundFlags, boundFlags, findBinding_congr hb hc, binding_congr hb]

/-- A binding that is overwritten changes the flags of its GPU only. -/
theorem boundFlags_setBinding (hle : x.gpuBindingCount ≤ maxGpus) (hfind : x.findBinding gpu = some i)
    (hf : ∀ e, (f e).gpuIndex = e.gpuIndex) :
    (x.setBinding i f).boundFlags = update x.boundFlags gpu
      (some ((f (x.binding i)).readable, (f (x.binding i)).writable)) := by
  obtain ⟨hi, hkey⟩ := search_some hfind
  have hbind := binding_setBinding (x := x) (Nat.lt_of_lt_of_le hi hle) f
  have hsearch (g : Nat) : (x.setBinding i f).findBinding g = x.findBinding g := by
    rw [findBinding, setBinding_count, hbind]
    refine search_congr (fun j _ => ?_) g
    by_cases hj : j = i
    · rw [hj, update_self, hf]
    · rw [update_of_ne hj]
  funext g
  rw [boundFlags, hsearch, hbind]
  by_cases hg : g = gpu
  · subst hg
    rw [hfind, update_self, map_some, update_self]
  · rw [update_of_ne hg, boundFlags]
    cases hs : x.findBinding g with
    | none => rfl
    | some j =>
      have hj : j ≠ i := by
        rintro rfl
        exact hg ((search_some hs).2.symm.trans hkey)
      rw [map_some, map_some, update_of_ne hj]

/-- So does a binding that is appended, for a GPU that had none. -/
theorem boundFlags_appendBinding (hlt : x.gpuBindingCount < maxGpus) (hfind : x.findBinding gpu = none)
    (hf : ∀ e, (f e).gpuIndex = gpu) : (x.appendBinding f).boundFlags = update x.boundFlags gpu
      (some ((f (x.binding x.gpuBindingCount)).readable, (f (x.binding x.gpuBindingCount)).writable)) := by
  have hbind := binding_appendBinding hlt f
  have hbefore (g : Nat) : search Binding.gpuIndex (x.appendBinding f).binding x.gpuBindingCount g =
      x.findBinding g := by
    refine search_congr (fun j hj => ?_) g
    rw [hbind, update_of_ne (Nat.ne_of_lt hj)]
  have hlast : (x.appendBinding f).binding x.gpuBindingCount = f (x.binding x.gpuBindingCount) := by
    rw [hbind, update_self]
  have hsearch (g : Nat) : (x.appendBinding f).findBinding g =
      (x.findBinding g).or (if gpu = g then some x.gpuBindingCount else none) := by
    rw [findBinding, appendBinding_count, search_succ, hbefore, hlast, hf]
  funext g
  rw [boundFlags, hsearch]
  by_cases hg : g = gpu
  · subst hg
    rw [hfind, none_or, if_pos rfl, map_some, hlast, update_self]
  · rw [if_neg (Ne.symm hg), or_none, update_of_ne hg, boundFlags]
    cases hs : x.findBinding g with
    | none => rw [map_none, map_none]
    | some j =>
      have hj : j ≠ x.gpuBindingCount := Nat.ne_of_lt (search_some hs).1
      rw [map_some, map_some, hbind, update_of_ne hj]

section
variable (hx : x.gpuBindingCount ≤ maxGpus) (hgpu : gpu < maxGpus)
include hx hgpu

/-- After the rights are set, the mask is as marked, and the flags of the GPU are both
given or both not, except that a new binding is readable. -/
theorem setAccess_spec (gpuCount : Nat) (access : UInt32) :
    (x.setAccess gpu gpuCount access).1 = .success ∧
    (∀ g, g < maxGpus → inMask (x.setAccess gpu gpuCount access).2.gpuMask g =
      inMask (x.mark gpu access).gpuMask g) ∧
    ∃ flags, (x.setAccess gpu gpuCount access).2.boundFlags = update x.boundFlags gpu flags ∧
      (flags = none ∨ flags = some (hasAny access accessReadWrite, hasAny access accessReadWrite) ∨
        flags = some (true, hasAny access accessReadWrite)) := by
  have hflags : (x.mark gpu access).boundFlags = x.boundFlags :=
    boundFlags_congr (mark_bindings x gpu access) (mark_count x gpu access)
  have hfindm : (x.mark gpu access).findBinding gpu = x.findBinding gpu :=
    findBinding_congr (mark_bindings x gpu access) (mark_count x gpu access) gpu
  obtain ⟨i, hfind, he⟩ | ⟨hfind, h0, hlt, he⟩ | ⟨hfind, z, he, hb, hc, hmask⟩ :=
    setAccess_cases x hgpu gpuCount access
  · rw [he]
    refine ⟨rfl, fun g hg => by rw [setBinding_gpuMask], _, ?_, .inr (.inl rfl)⟩
    have hset := boundFlags_setBinding (f := .withAccess access) ((mark_count x gpu access).trans_le hx)
      (hfindm.trans hfind) fun _ => rfl
    rw [hflags] at hset
    exact hset
  · rw [he]
    refine ⟨rfl, fun g hg => ?_, some (true, hasAny access accessReadWrite), ?_, .inr (.inr rfl)⟩
    · show inMask ((x.mark gpu access).addToMask gpu).gpuMask g = _
      rw [inMask_addToMask _ hgpu hg, inMask_mark x access hgpu hg]
      by_cases hgg : g = gpu
      · simp [hgg, h0]
      · simp [hgg]
    · have happ := boundFlags_appendBinding (x := (x.mark gpu access).addToMask gpu)
        (f := .bound x gpu (hasAny access accessReadWrite)) ((mark_count x gpu access).trans_lt hlt)
        (hfindm.trans hfind) fun _ => rfl
      have hmarked : ((x.mark gpu access).addToMask gpu).boundFlags = x.boundFlags := hflags
      rw [hmarked] at happ
      exact happ
  · rw [he]
    refine ⟨rfl, hmask, none, ?_, .inl rfl⟩
    have hnone : x.boundFlags gpu = none := by rw [boundFlags, hfind]; rfl
    rw [boundFlags_congr hb hc, ← hnone, Function.update_eq_self]

theorem getAccess_setAccess_of_ne (gpuCount : Nat)
    (access : UInt32) (hne : g ≠ gpu) : (x.setAccess gpu gpuCount access).2.getAccess g = x.getAccess g := by
  by_cases hg : g < maxGpus
  · obtain ⟨-, hmask, flags, hflags, -⟩ := setAccess_spec hx hgpu gpuCount access
    rw [getAccess_eq _ hg, getAccess_eq _ hg, hmask g hg, inMask_mark x access hgpu hg, if_neg hne, hflags,
      update_of_ne hne]
  · rw [getAccess, getAccess, if_pos (Nat.not_lt.mp hg), if_pos (Nat.not_lt.mp hg)]

theorem getAccess_setAccess_iff (gpuCount : Nat)
    (access : UInt32) : (x.setAccess gpu gpuCount access).2.getAccess gpu = .ok access ↔
      access = 0 ∨ access = accessReadWrite := by
  obtain ⟨-, hmask, flags, hflags, hcases⟩ := setAccess_spec hx hgpu gpuCount access
  rw [getAccess_eq _ hgpu, hmask gpu hgpu, inMask_mark x access hgpu hgpu, if_pos rfl, hflags,
    update_self, Except.ok.injEq]
  by_cases h0 : access = 0
  · simp [h0]
  rw [decide_eq_true h0, if_pos rfl, or_iff_right h0]
  -- of the four values that can be reported, only one is an access that leads to it
  have hboth : hasAny accessReadWrite accessReadWrite = true := by decide
  obtain rfl | rfl | rfl := hcases
  · exact eq_comm
  · cases ha : hasAny access accessReadWrite with
    | true => exact eq_comm
    | false =>
      refine iff_of_false (fun h => h0 h.symm) fun h => ?_
      rw [h, hboth] at ha
      cases ha
  · cases ha : hasAny access accessReadWrite with
    | true => exact eq_comm
    | false =>
      refine iff_of_false (fun h => ?_) fun h => ?_
      · rw [← h] at ha
        exact nomatch ha
      · rw [h, hboth] at ha
        cases ha

end

/-- **Access rights.** Setting the rights of a GPU on a reachable buffer always succeeds
and leaves those reported for every other GPU alone; the rights that were set are
reported exactly when they are none, or read and write. -/
theorem access_round_trip_iff (x : {x : Buffer // x.Reachable}) (gpu : Fin maxGpus) (gpuCount : Nat)
    (access : UInt32) : (x.1.setAccess gpu gpuCount access).1 = .success ∧
    ((x.1.setAccess gpu gpuCount access).2.getAccess gpu = .ok access ↔
      access = 0 ∨ access = accessReadWrite) ∧
    ∀ g : Nat, g ≠ gpu → (x.1.setAccess gpu gpuCount access).2.getAccess g = x.1.getAccess g :=
  ⟨(setAccess_spec x.2.count_le gpu.2 gpuCount access).1,
    getAccess_setAccess_iff x.2.count_le gpu.2 gpuCount access,
    fun _ hne => getAccess_setAccess_of_ne x.2.count_le gpu.2 gpuCount access hne⟩

/-- Read access alone for GPU 0 of two: write access is reported as well. -/
theorem read_access_reported_as_both :
    (systemBuffer ⟨64, 0, flagHostValid, .other, accessReadWrite, 0⟩ ⟨0, 0⟩).Reachable ∧
    ((systemBuffer ⟨64, 0, flagHostValid, .other, accessReadWrite, 0⟩ ⟨0, 0⟩).setAccess 0 2 accessRead).1 =
      .success ∧
    ((systemBuffer ⟨64, 0, flagHostValid, .other, accessReadWrite, 0⟩ ⟨0, 0⟩).setAccess 0 2 accessRead).2.getAccess 0 =
      .ok accessReadWrite :=
  ⟨.system _ _, rfl, by decide⟩

end Mvgal.Memory
