import Mathlib.Algebra.Order.Group.Multiset
import Mathlib.Data.List.Induction
import Mvgal.Kernel.Gpu
import Mvgal.Lib.Run

/-! Allocation of VRAM by the kernel module (`mvgal_memory.c`).

`mvgal_ioctl_alloc_memory` walks over the bits of a mask, but takes the first GPU of
the list for each of them. It keeps the last return code, and its clean-up looks at
flags that no one has set in memory from a slab cache. `mvgal_ioctl_free_memory`
returns no VRAM. What the drivers and the slab cache answer are arguments.

`vram_conserved` says which calls keep the blocks of the drivers and the records of
the memory objects equal. -/
namespace Mvgal.Kernel.Vram
open List
open Function (update update_self update_of_ne update_idem update_eq_self)

/-- `struct mvgal_memory`: arrays are functions of the index. -/
structure Mem where
  id : UInt64
  gpuAddrs : Nat → UInt64
  dmabufs : Nat → Option Nat
  populated : Nat → Bool

/-- `memory_manager`, and the blocks that each GPU's driver has handed out; a GPU is
its position in the list. -/
structure Manager where
  objects : List Mem
  nextMemoryId : BitVec 32
  vram : Nat → Multiset UInt64

/-- `dma_buf_put` of a pointer that no one has set. -/
inductive Fault where
  | wildPointer
deriving DecidableEq

/-- The result of `alloc_vram`: an address, or `e` for the return code `-(e + 1)`. -/
abbrev Answer : Type := Except Nat UInt64

/-- The bits below `MVGAL_MAX_GPUS`; a mask of 0 asks for all. -/
def requested (mask : UInt32) : List Nat :=
  (List.range maxGpus).filter (inMask (if mask = 0 then 0xFFFFFFFF else mask))

/-- Record the block of index `i`, or that there is none. -/
def Mem.place (x : Mem) (i : Nat) (addr : Option UInt64) : Mem :=
  {x with
    gpuAddrs := update x.gpuAddrs i (addr.getD 0)
    populated := update x.populated i addr.isSome}

/-- The variables of the allocation loop. -/
structure Loop where
  mem : Mem
  vram : Nat → Multiset UInt64
  ret : Int

variable (gpus : List Gpu) (driver : Nat → Answer)

/-- The body of the loop for bit `i`, on the first GPU of the list. -/
def allocBit (gpu : Gpu) (l : Loop) (i : Nat) : Loop :=
  if gpu.allocates then
    match driver i with
    | .ok addr =>
      {mem := l.mem.place i (some addr)
       vram := update l.vram 0 (addr ::ₘ l.vram 0)
       ret := 0}
    | .error e => {l with mem := l.mem.place i none, ret := -(e + 1)}
  else {l with mem := l.mem.place i none}

def allocLoop (mask : UInt32) (l : Loop) : Loop :=
  (requested mask).foldl (fun l i =>
    match gpus.head? with
    | none => l
    | some gpu => allocBit driver gpu l i) l

/-- The clean-up, through the device pointer that the loop has left. -/
def rollback (x : Mem) (vram : Nat → Multiset UInt64) : Nat → Multiset UInt64 :=
  (List.range maxGpus).foldl (fun vram i =>
    if x.populated i && gpus.head?.any Gpu.frees then update vram 0 ((vram 0).erase (x.gpuAddrs i))
    else vram) vram

/-- `mvgal_ioctl_alloc_memory`; `slab` is the object that the cache returns, with what
was in it before. -/
def ioctlAllocMemory (m : Manager) (mask : UInt32) (slab : Option Mem) : Int × Manager :=
  match slab with
  | none => (-12, m)
  | some x =>
    let x := {x with id := ⟨m.nextMemoryId.signExtend 64⟩}
    let l := allocLoop gpus driver mask ⟨x, m.vram, 0⟩
    let m := {m with nextMemoryId := m.nextMemoryId + 1}
    if l.ret < 0 then (l.ret, {m with vram := rollback gpus l.mem l.vram})
    else (0, {m with vram := l.vram, objects := m.objects ++ [l.mem]})

/-- `mvgal_ioctl_free_memory`. In these runs no one sets a DMA-BUF pointer, so one that
is put is wild. -/
def ioctlFreeMemory (m : Manager) (id : UInt64) : Except Fault (Int × Manager) :=
  match m.objects.find? fun x => x.id = id with
  | none => .ok (-2, m)
  | some x =>
    if (List.range maxGpus).any fun i => x.populated i && (x.dmabufs i).isSome then .error .wildPointer
    else .ok (0, {m with objects := m.objects.eraseP fun x => x.id = id})

/-- What an allocation was asked for and what it did. -/
structure Report where
  mask : UInt32
  failed : Bool
  result : Int
  before : Nat → Multiset UInt64

structure World where
  manager : Manager
  last : Option Report

inductive Call where
  | alloc (mask : UInt32) (slab : Option Mem) (driver : Nat → Answer)
  | free (id : UInt64)

/-- Some `alloc_vram` call of the allocation fails. -/
def anyFailed (mask : UInt32) (slab : Option Mem) : Bool :=
  slab.isSome && gpus.head?.any Gpu.allocates && (requested mask).any fun i => !(driver i).isOk

def World.allocate (w : World) (mask : UInt32) (slab : Option Mem) : World :=
  let r := ioctlAllocMemory gpus driver w.manager mask slab
  ⟨r.2, some ⟨mask, anyFailed gpus driver mask slab, r.1, w.manager.vram⟩⟩

def call (w : World) : Call → Option (Except Fault World)
  | .alloc mask slab driver => some (.ok (w.allocate gpus driver mask slab))
  | .free id => some ((ioctlFreeMemory w.manager id).map fun r => ⟨r.2, none⟩)

def recorded (objects : List Mem) (g : Nat) : Multiset UInt64 :=
  ↑((objects.filter fun x => x.populated g).map fun x => x.gpuAddrs g)

/-- Each driver has handed out exactly the recorded blocks. -/
def Conserved (m : Manager) : Prop :=
  ∀ g, g < gpus.length → g < maxGpus → m.vram g = recorded m.objects g

/-- An allocation that fails on a GPU returns an error, one that returns an error leaves
no block, and one that does not has a block for every GPU of the mask. -/
structure Report.Kept (r : Report) (m : Manager) : Prop where
  error : r.failed = true → r.result < 0
  nothing : r.result < 0 → ∀ g, g < gpus.length → m.vram g = r.before g
  granted : r.result = 0 → ∀ g gpu, gpus[g]? = some gpu → g ∈ requested r.mask → gpu.allocates = true →
    ∃ x, m.objects.getLast? = some x ∧ x.populated g = true

structure Sound (w : World) : Prop where
  conserved : Conserved gpus w.manager
  kept : ∀ r, w.last = some r → r.Kept gpus w.manager

/-- The slab object has no flag set that the loop will not write. -/
def Clean (x : Mem) (mask : UInt32) : Prop := ∀ i, i < maxGpus → i ∉ requested mask → x.populated i = false

/-- The code of the last answer, which decides. -/
def lastFails (mask : UInt32) : Bool := (requested mask).getLast?.any fun i => !(driver i).isOk

/-- An allocation finds no object or no GPU; or its object is clean, and it asks for
nothing, or no GPU it asks for allocates, or it asks for the first GPU alone, or the
last answer is a failure and the first GPU can free what it gave. -/
def AllocOk (mask : UInt32) (slab : Option Mem) : Prop :=
  ∀ x gpu, slab = some x → gpus.head? = some gpu → Clean x mask ∧ (requested mask = [] ∨
      (gpu.allocates = false ∧
        ∀ g other, gpus[g]? = some other → g ∈ requested mask → other.allocates = false) ∨
      requested mask = [0] ∨ (gpu.allocates = true ∧ lastFails driver mask = true ∧
        (gpu.frees = true ∨ ∀ i ∈ requested mask, (driver i).isOk = false)))

/-- An object that is freed has no block, and no flag beside a pointer that is not null. -/
def CallOk (w : World) : Call → Prop
  | .alloc mask slab driver => AllocOk gpus driver mask slab
  | .free id => ∀ x, w.manager.objects.find? (fun x => x.id = id) = some x →
    (∀ g, g < gpus.length → g < maxGpus → x.populated g = false) ∧
      ∀ i, i < maxGpus → x.populated i = true → x.dmabufs i = none

variable {gpus driver} {gpu : Gpu} {mask : UInt32}

def granted (driver : Nat → Answer) (bits : List Nat) : List UInt64 :=
  bits.filterMap fun i => (driver i).toOption

/-- What the loop leaves, when the first GPU allocates. -/
structure Allocated (driver : Nat → Answer) (bits : List Nat) (l l' : Loop) : Prop where
  vram : l'.vram = update l.vram 0 (l.vram 0 + ↑(granted driver bits))
  written : ∀ i ∈ bits, l'.mem.populated i = (driver i).isOk ∧ l'.mem.gpuAddrs i = (driver i).toOption.getD 0
  kept : ∀ i, i ∉ bits → l'.mem.populated i = l.mem.populated i ∧ l'.mem.gpuAddrs i = l.mem.gpuAddrs i
  ret : l'.ret = (bits.getLast?.elim l.ret fun i => match driver i with
    | .ok _ => 0
    | .error e => -(e + 1))

theorem place_self (x : Mem) (i : Nat) (a : Option UInt64) :
    (x.place i a).populated i = a.isSome ∧ (x.place i a).gpuAddrs i = a.getD 0 :=
  ⟨update_self .., update_self ..⟩

variable {x : Mem}

theorem place_of_ne {i j : Nat} (a : Option UInt64) (h : j ≠ i) :
    (x.place i a).populated j = x.populated j ∧ (x.place i a).gpuAddrs j = x.gpuAddrs j :=
  ⟨update_of_ne h .., update_of_ne h ..⟩

/-- One bit: what its driver call answers is recorded. -/
theorem allocBit_spec (h : gpu.allocates = true) (l : Loop) (i : Nat) :
    Allocated driver [i] l (allocBit driver gpu l i) := by
  unfold allocBit
  rw [if_pos h]
  cases hd : driver i with
  | ok addr =>
    refine ⟨?_, fun j hj => ?_, fun j hj => ?_, by simp [hd]⟩
    · simp [granted, hd, Except.toOption, ← Multiset.singleton_add, add_comm]
    · obtain rfl := mem_singleton.mp hj
      rw [hd]
      exact place_self ..
    · exact place_of_ne _ (by simpa using hj)
  | error e =>
    refine ⟨?_, fun j hj => ?_, fun j hj => ?_, by simp [hd]⟩
    · simp [granted, hd, Except.toOption]
    · obtain rfl := mem_singleton.mp hj
      rw [hd]
      exact place_self ..
    · exact place_of_ne _ (by simpa using hj)

theorem Allocated.snoc {bits : List Nat} {i : Nat} {l l' l'' : Loop} (h : Allocated driver bits l l')
    (h' : Allocated driver [i] l' l'') : Allocated driver (bits ++ [i]) l l'' := by
  refine ⟨?_, fun j hj => ?_, fun j hj => ?_, ?_⟩
  · rw [h'.vram, h.vram, update_self, update_idem]
    simp [granted, ← Multiset.coe_add, add_assoc]
  · by_cases hji : j = i
    · exact h'.written j (by simp [hji])
    · have hw := h.written j (by simpa [hji] using hj)
      have hk := h'.kept j (by simpa using hji)
      exact ⟨hk.1.trans hw.1, hk.2.trans hw.2⟩
  · simp only [mem_append, mem_singleton, not_or] at hj
    have hk := h.kept j hj.1
    have hk' := h'.kept j (by simpa using hj.2)
    exact ⟨hk'.1.trans hk.1, hk'.2.trans hk.2⟩
  · rw [h'.ret]
    simp

/-- The whole loop, by induction on the bits from the end. -/
theorem allocBits_spec (h : gpu.allocates = true) (l : Loop) (bits : List Nat) :
    Allocated driver bits l (bits.foldl (allocBit driver gpu) l) := by
  induction bits using reverseRecOn with
  | nil =>
    refine ⟨?_, fun i hi => absurd hi (by simp), fun i _ => ⟨rfl, rfl⟩, rfl⟩
    simp [granted]
  | append_singleton bits i ih =>
    rw [foldl_append]
    exact ih.snoc (allocBit_spec h _ i)

/-- What the loop leaves, when the first GPU does not allocate. -/
structure Skipped (bits : List Nat) (l l' : Loop) : Prop where
  vram : l'.vram = l.vram
  written : ∀ i ∈ bits, l'.mem.populated i = false
  kept : ∀ i, i ∉ bits → l'.mem.populated i = l.mem.populated i
  ret : l'.ret = l.ret

theorem skipBits_spec (h : gpu.allocates = false) (l : Loop) (bits : List Nat) :
    Skipped bits l (bits.foldl (allocBit driver gpu) l) := by
  induction bits using reverseRecOn with
  | nil => exact ⟨rfl, fun i hi => absurd hi (by simp), fun i _ => rfl, rfl⟩
  | append_singleton bits i ih =>
    rw [foldl_append]
    set l' := bits.foldl (allocBit driver gpu) l
    have hbit : [i].foldl (allocBit driver gpu) l' = {l' with mem := l'.mem.place i none} := by
      simp [allocBit, h]
    rw [hbit]
    refine ⟨ih.vram, fun j hj => ?_, fun j hj => ?_, ih.ret⟩
    · by_cases hji : j = i
      · rw [hji]
        exact (place_self ..).1
      · exact (place_of_ne _ hji).1.trans (ih.written j (by simpa [hji] using hj))
    · simp only [mem_append, mem_singleton, not_or] at hj
      exact (place_of_ne _ hj.2).1.trans (ih.kept j hj.1)

theorem allocLoop_nil (l : Loop) : allocLoop [] driver mask l = l := by
  unfold allocLoop
  induction requested mask with
  | nil => rfl
  | cons i rest ih => exact ih

/-- Freeing blocks one by one takes them out of what the first driver has handed out. -/
theorem rollback_eq (x : Mem) (vram : Nat → Multiset UInt64) (rest : List Gpu) (h : gpu.frees = true) :
    rollback (gpu :: rest) x vram =
      update vram 0 (vram 0 - ↑(((List.range maxGpus).filter x.populated).map x.gpuAddrs)) := by
  unfold rollback
  induction range maxGpus generalizing vram with
  | nil => simp
  | cons i bits ih =>
    rw [foldl_cons, ih]
    by_cases hp : x.populated i = true
    · simp [hp, h, ← Multiset.cons_coe, Multiset.sub_cons]
    · simp [hp]

theorem rollback_of_not_frees (x : Mem) (vram : Nat → Multiset UInt64) (rest : List Gpu)
    (h : gpu.frees = false) : rollback (gpu :: rest) x vram = vram := by
  simp [rollback, h]

/-- With a clean object the flags name exactly the blocks that were granted. -/
theorem populated_eq_granted {q : Nat → Bool} {bits : List Nat}
    (hin : ∀ i ∈ bits, q i = true → x.populated i = (driver i).isOk ∧ x.gpuAddrs i = (driver i).toOption.getD 0)
    (hout : ∀ i ∈ bits, q i = false → x.populated i = false) :
    (bits.filter x.populated).map x.gpuAddrs = granted driver (bits.filter q) := by
  induction bits with
  | nil => rfl
  | cons i bits ih =>
    have hrest := ih (fun j hj => hin j (by simp [hj])) fun j hj => hout j (by simp [hj])
    unfold granted at hrest ⊢
    cases hq : q i with
    | false => simp [hq, hout i (by simp) hq, hrest]
    | true =>
      obtain ⟨hp, ha⟩ := hin i (by simp) hq
      cases hd : driver i with
      | ok addr => simp [hq, hp, ha, hd, hrest, Except.isOk, Except.toBool, Except.toOption]
      | error e => simp [hq, hp, hd, hrest, Except.isOk, Except.toBool, Except.toOption]

theorem rollback_restores {l l' : Loop} (rest : List Gpu) (hclean : Clean x mask)
    (hflags : ∀ i, l.mem.populated i = x.populated i) (h : Allocated driver (requested mask) l l')
    (hback : gpu.frees = true ∨ ∀ i ∈ requested mask, (driver i).isOk = false) :
    rollback (gpu :: rest) l'.mem l'.vram = l.vram := by
  cases hf : gpu.frees with
  | true =>
    have hnames : ((range maxGpus).filter l'.mem.populated).map l'.mem.gpuAddrs =
        granted driver (requested mask) := by
      refine populated_eq_granted (fun i hi hq => h.written i (mem_filter.mpr ⟨hi, hq⟩)) fun i hi hq => ?_
      have hnot : i ∉ requested mask := fun hmem => by
        have := (mem_filter.mp hmem).2
        rw [hq] at this
        cases this
      rw [(h.kept i hnot).1, hflags]
      exact hclean i (mem_range.mp hi) hnot
    rw [rollback_eq _ _ _ hf, hnames, h.vram, update_self, Multiset.add_sub_cancel_right,
      update_idem, update_eq_self]
  | false =>
    have hnone := hback.resolve_left (by simp [hf])
    have hgranted : granted driver (requested mask) = [] := by
      unfold granted
      rw [filterMap_eq_nil_iff]
      intro i hi
      have := hnone i hi
      cases hd : driver i with
      | ok addr =>
        rw [hd] at this
        exact absurd this (by simp [Except.isOk, Except.toBool])
      | error e => rfl
    rw [rollback_of_not_frees _ _ _ hf, h.vram, hgranted, Multiset.coe_nil, add_zero,
      update_eq_self]

theorem recorded_append (objects : List Mem) (x : Mem) (g : Nat) : recorded (objects ++ [x]) g =
      recorded objects g + if x.populated g = true then {x.gpuAddrs g} else 0 := by
  unfold recorded
  rw [filter_append, map_append, ← Multiset.coe_add]
  cases hp : x.populated g with
  | true => simp [hp]
  | false => simp [hp]

variable {m m' : Manager}

section
variable (h : Conserved gpus m)
include h

/-- An object without blocks, when nothing was allocated. -/
theorem conserved_empty (hv : m'.vram = m.vram)
    (ho : m'.objects = m.objects ++ [x]) (hx : ∀ g, g < maxGpus → x.populated g = false) :
    Conserved gpus m' := by
  intro g hg hmax
  rw [hv, ho, recorded_append, hx g hmax]
  simpa using h g hg hmax

theorem conserved_same (hv : m'.vram = m.vram)
    (ho : m'.objects = m.objects) : Conserved gpus m' := by
  intro g hg hmax
  rw [hv, ho]
  exact h g hg hmax

/-- The first GPU alone has one block more, in the driver and in the records. -/
theorem conserved_first {addr : UInt64}
    (hv : m'.vram = update m.vram 0 (m.vram 0 + {addr})) (ho : m'.objects = m.objects ++ [x])
    (h0 : x.populated 0 = true) (ha : x.gpuAddrs 0 = addr)
    (hx : ∀ g, g < maxGpus → g ≠ 0 → x.populated g = false) : Conserved gpus m' := by
  intro g hg hmax
  rw [hv, ho, recorded_append]
  by_cases hg0 : g = 0
  · subst hg0
    rw [update_self, if_pos h0, ha, h 0 hg hmax]
  · rw [update_of_ne hg0, hx g hmax hg0]
    simpa using h g hg hmax

end

variable {w : World} {slab : Option Mem}

def looped (driver : Nat → Answer) (gpu : Gpu) (m : Manager) (mask : UInt32) (x : Mem) : Loop :=
  (requested mask).foldl (allocBit driver gpu) ⟨{x with id := ⟨m.nextMemoryId.signExtend 64⟩}, m.vram, 0⟩

variable {rest : List Gpu}

theorem ioctlAllocMemory_fails (h : (looped driver gpu m mask x).ret < 0) :
    ioctlAllocMemory (gpu :: rest) driver m mask (some x) = ((looped driver gpu m mask x).ret,
      {m with
        nextMemoryId := m.nextMemoryId + 1
        vram := rollback (gpu :: rest) (looped driver gpu m mask x).mem (looped driver gpu m mask x).vram}) :=
  if_pos h

theorem ioctlAllocMemory_returns (h : ¬ (looped driver gpu m mask x).ret < 0) :
    ioctlAllocMemory (gpu :: rest) driver m mask (some x) = (0,
      {m with
        nextMemoryId := m.nextMemoryId + 1
        vram := (looped driver gpu m mask x).vram
        objects := m.objects ++ [(looped driver gpu m mask x).mem]}) :=
  if_neg h

theorem Report.Kept.of_success {r : Report} (hr : r.result = 0) (hf : r.failed = false)
    (hg : ∀ g gpu, gpus[g]? = some gpu → g ∈ requested r.mask → gpu.allocates = true →
      ∃ x, m.objects.getLast? = some x ∧ x.populated g = true) : r.Kept gpus m :=
  ⟨fun h => absurd h (by simp [hf]), fun h => absurd h (by omega), fun _ => hg⟩

theorem Report.Kept.of_error {r : Report} (hr : r.result < 0) (hv : m.vram = r.before) :
    r.Kept gpus m :=
  ⟨fun _ => hr, fun _ g _ => congrFun hv g, fun h => absurd h (by omega)⟩

section
variable (h : Sound (gpu :: rest) w)
include h

/-- Nothing is allocated, and no GPU that is asked for allocates. -/
theorem sound_empty
    (hret : (looped driver gpu w.manager mask x).ret = 0)
    (hvram : (looped driver gpu w.manager mask x).vram = w.manager.vram)
    (hflags : ∀ g, g < maxGpus → (looped driver gpu w.manager mask x).mem.populated g = false)
    (hfailed : anyFailed (gpu :: rest) driver mask (some x) = false)
    (hnone : ∀ g other, (gpu :: rest)[g]? = some other → g ∈ requested mask → other.allocates = false) :
    Sound (gpu :: rest) (w.allocate (gpu :: rest) driver mask (some x)) := by
  unfold World.allocate
  rw [ioctlAllocMemory_returns (by omega)]
  refine ⟨conserved_empty h.conserved hvram rfl hflags, fun r hr => ?_⟩
  cases hr
  refine .of_success rfl hfailed fun g other hother hmem halloc => ?_
  exact absurd halloc (by simp [hnone g other hother hmem])

theorem sound_skipped (hclean : Clean x mask)
    (ha : gpu.allocates = false)
    (hnone : ∀ g other, (gpu :: rest)[g]? = some other → g ∈ requested mask → other.allocates = false) :
    Sound (gpu :: rest) (w.allocate (gpu :: rest) driver mask (some x)) := by
  have hspec : Skipped (requested mask) _ (looped driver gpu w.manager mask x) := skipBits_spec ha _ _
  refine sound_empty h hspec.ret hspec.vram (fun g hg => ?_) (by simp [anyFailed, ha]) hnone
  by_cases hmem : g ∈ requested mask
  · exact hspec.written g hmem
  · exact (hspec.kept g hmem).trans (hclean g hg hmem)

/-- The first GPU alone is asked for, and has a block. -/
theorem sound_first {addr : UInt64}
    (hclean : Clean x mask) (ha : gpu.allocates = true) (hreq : requested mask = [0])
    (hd : driver 0 = .ok addr) :
    Sound (gpu :: rest) (w.allocate (gpu :: rest) driver mask (some x)) := by
  have hspec : Allocated driver (requested mask) _ (looped driver gpu w.manager mask x) :=
    allocBits_spec ha _ _
  have hw := hspec.written 0 (by simp [hreq])
  rw [hd] at hw
  unfold World.allocate
  rw [ioctlAllocMemory_returns (by rw [hspec.ret, hreq]; simp [hd])]
  refine ⟨conserved_first h.conserved (?_ : _ = update _ 0 (_ + {addr})) rfl hw.1 hw.2 fun g hg hg0 => ?_,
    fun r hr => ?_⟩
  · show (looped driver gpu w.manager mask x).vram = _
    rw [hspec.vram, hreq]
    simp [granted, hd, Except.toOption]
  · have hmem : g ∉ requested mask := by simp [hreq, hg0]
    exact (hspec.kept g hmem).1.trans (hclean g hg hmem)
  · cases hr
    refine .of_success rfl ?_ fun g other hother hmem halloc => ?_
    · simp [anyFailed, hreq, hd, Except.isOk, Except.toBool]
    · have hmem : g ∈ requested mask := hmem
      rw [hreq, mem_singleton] at hmem
      exact ⟨_, getLast?_concat .., hmem ▸ hw.1⟩

omit h in
theorem ret_of_lastFails {l l' : Loop} (h : Allocated driver (requested mask) l l')
    (hlast : lastFails driver mask = true) : l'.ret < 0 := by
  rw [h.ret]
  unfold lastFails at hlast
  cases hl : (requested mask).getLast? with
  | none => exact absurd hlast (by simp [hl])
  | some i =>
    cases hd : driver i with
    | ok addr => exact absurd hlast (by simp [hl, hd, Except.isOk, Except.toBool])
    | error e =>
      simp only [Option.elim_some, hd]
      omega

/-- The last answer is a failure, and what was granted is given back. -/
theorem sound_failed (hclean : Clean x mask)
    (ha : gpu.allocates = true) (hlast : lastFails driver mask = true)
    (hback : gpu.frees = true ∨ ∀ i ∈ requested mask, (driver i).isOk = false) :
    Sound (gpu :: rest) (w.allocate (gpu :: rest) driver mask (some x)) := by
  have hspec : Allocated driver (requested mask) _ (looped driver gpu w.manager mask x) :=
    allocBits_spec ha _ _
  have hret := ret_of_lastFails hspec hlast
  have hrestored := rollback_restores rest hclean (fun _ => rfl) hspec hback
  unfold World.allocate
  rw [ioctlAllocMemory_fails hret]
  refine ⟨conserved_same h.conserved hrestored rfl, fun r hr => ?_⟩
  cases hr
  exact .of_error hret hrestored

end

theorem sound_alloc (h : Sound gpus w) (hok : AllocOk gpus driver mask slab) :
    Sound gpus (w.allocate gpus driver mask slab) := by
  cases slab with
  | none =>
    refine ⟨h.conserved, fun r hr => ?_⟩
    cases hr
    exact .of_error (show (-12 : Int) < 0 by decide) rfl
  | some x =>
    cases gpus with
    | nil =>
      refine ⟨fun g hg => absurd hg (by simp), fun r hr => ?_⟩
      cases hr
      refine .of_success ?_ (by simp [anyFailed]) fun g gpu hgpu => nomatch hgpu
      simp [ioctlAllocMemory, allocLoop_nil]
    | cons gpu rest =>
      obtain ⟨hclean, hcase⟩ := hok x gpu rfl rfl
      cases ha : gpu.allocates with
      | false =>
        refine sound_skipped h hclean ha fun g other hother hmem => ?_
        obtain hnil | ⟨-, hnone⟩ | hreq | ⟨hyes, -⟩ := hcase
        · exact absurd hmem (by simp [hnil])
        · exact hnone g other hother hmem
        · obtain rfl := mem_singleton.mp (hreq ▸ hmem)
          obtain rfl : gpu = other := by simpa using hother
          exact ha
        · exact absurd hyes (by simp [ha])
      | true =>
        obtain hnil | ⟨hno, -⟩ | hreq | ⟨-, hlast, hback⟩ := hcase
        · have hloop : looped driver gpu w.manager mask x =
              ⟨{x with id := ⟨w.manager.nextMemoryId.signExtend 64⟩}, w.manager.vram, 0⟩ := by
            rw [looped, hnil]
            rfl
          refine sound_empty h (by rw [hloop]) (by rw [hloop]) (fun g hg => ?_) (by simp [anyFailed, hnil])
            fun g other _ hmem => absurd hmem (by simp [hnil])
          rw [hloop]
          exact hclean g hg (by simp [hnil])
        · exact absurd ha (by simp [hno])
        · cases hd : driver 0 with
          | ok addr => exact sound_first h hclean ha hreq hd
          | error e =>
            refine sound_failed h hclean ha ?_ (.inr fun i hi => ?_)
            · simp [lastFails, hreq, hd, Except.isOk, Except.toBool]
            · rw [hreq, mem_singleton] at hi
              simp [hi, hd, Except.isOk, Except.toBool]
        · exact sound_failed h hclean ha hlast hback

/-- The first object with the id is taken out of the list. -/
theorem recorded_eraseP {objects : List Mem} {id : UInt64} {g : Nat}
    (hx : objects.find? (fun x => x.id = id) = some x) (hp : x.populated g = false) :
    recorded (objects.eraseP fun x => x.id = id) g = recorded objects g := by
  induction objects with
  | nil => exact nomatch hx
  | cons y rest ih =>
    by_cases hy : y.id = id
    · obtain rfl : y = x := by simpa [find?_cons, hy] using hx
      simp [recorded, hy, hp]
    · have hrest := ih (by simpa [find?_cons, hy] using hx)
      unfold recorded at hrest ⊢
      rw [eraseP_cons, decide_eq_false hy]
      cases hq : y.populated g with
      | true | false => simpa [hq] using hrest

theorem sound_free {id : UInt64} (h : Sound gpus w) (hok : CallOk gpus w (.free id)) :
    ∃ r, ioctlFreeMemory w.manager id = .ok r ∧ Sound gpus ⟨r.2, none⟩ := by
  unfold ioctlFreeMemory
  cases hx : w.manager.objects.find? fun x => x.id = id with
  | none => exact ⟨_, rfl, h.conserved, fun r hr => nomatch hr⟩
  | some x =>
    obtain ⟨hblocks, hptrs⟩ := hok x hx
    have hsafe : ¬ ((range maxGpus).any fun i => x.populated i && (x.dmabufs i).isSome) = true := by
      rw [any_eq_true]
      rintro ⟨i, hi, hboth⟩
      obtain ⟨hp, hd⟩ := Bool.and_eq_true_iff.mp hboth
      exact absurd hd (by simp [hptrs i (mem_range.mp hi) hp])
    simp only [if_neg hsafe]
    refine ⟨_, rfl, fun g hg hmax => ?_, fun r hr => nomatch hr⟩
    rw [recorded_eraseP hx (hblocks g hg hmax)]
    exact h.conserved g hg hmax

def World.initial : World := ⟨⟨[], 1, fun _ => 0⟩, none⟩

theorem sound_initial (gpus : List Gpu) : Sound gpus World.initial :=
  ⟨fun _ _ _ => rfl, fun r hr => absurd hr (by simp [World.initial])⟩

/-- **VRAM is conserved** along every run whose calls meet the condition: no call faults,
each driver has handed out exactly the blocks of the live objects, and every
allocation has kept what it reports. -/
theorem vram_conserved (gpus : List Gpu) {calls : List Call}
    (h : Run.Admitted (Run.faulting (call gpus)) (Run.Allowed (CallOk gpus)) (.ok World.initial) calls) :
    Run.Along (Run.faulting (call gpus)) (Run.Safe (Sound gpus)) (.ok World.initial) calls := by
  refine Run.along_of_admitted (fun r a r' hs hrun hok => ?_) (fun r hs => hs)
    (show Run.Safe (Sound gpus) (.ok World.initial) from sound_initial gpus) h
  cases r with
  | error f => exact absurd hrun (by simp [Run.faulting])
  | ok w =>
    cases a with
    | alloc mask slab driver =>
      cases hrun
      exact sound_alloc hs hok
    | free id =>
      cases hrun
      obtain ⟨r, hr, hsound⟩ := sound_free hs hok
      rw [hr]
      exact hsound

def fullGpu (handle : Nat) : Gpu := ⟨handle, 0, true, true, 0, UInt32.ofNat handle, some ⟨true, true, true⟩⟩

def Mem.zero : Mem := ⟨0, fun _ => 0, fun _ => none, fun _ => false⟩

theorem vram_conserved_of_first :
    Run.Along (Run.faulting (call [fullGpu 0])) (Run.Safe (Sound [fullGpu 0])) (.ok World.initial)
      [.alloc 1 (some .zero) fun _ => .ok 0x1000] := by
  refine vram_conserved _ fun s' hs => ⟨fun x gpu hx hgpu => ?_, trivial⟩
  cases hx
  exact ⟨fun _ _ _ => rfl, .inr (.inr (.inl (by decide)))⟩

/-- Two GPUs are asked for, and the driver of the first gives both blocks; a failure is
forgotten when the next call succeeds; and an object that is freed keeps its block. -/
theorem blocks_of_the_wrong_gpu :
    ¬ Run.Along (Run.faulting (call [fullGpu 0, fullGpu 1])) (Run.Safe (Sound [fullGpu 0, fullGpu 1]))
      (.ok World.initial) [.alloc 3 (some .zero) fun i => .ok (UInt64.ofNat i)] ∧
    ¬ Run.Along (Run.faulting (call [fullGpu 0])) (Run.Safe (Sound [fullGpu 0]))
      (.ok World.initial) [.alloc 3 (some .zero) fun i => if i = 0 then .error 11 else .ok 0x1000] ∧
    ¬ Run.Along (Run.faulting (call [fullGpu 0])) (Run.Safe (Sound [fullGpu 0]))
      (.ok World.initial) [.alloc 1 (some .zero) fun _ => .ok 0x1000, .free 1] := by
  refine ⟨fun h => ?_, fun h => ?_, fun h => ?_⟩
  · have hs := h.final rfl
    exact absurd (hs.conserved 1 (by decide) (by decide)) (by decide)
  · have hs := h.final rfl
    exact absurd ((hs.kept _ rfl).error (by decide)) (by decide)
  · have hs := h.final rfl
    exact absurd (hs.conserved 0 (by decide) (by decide)) (by decide)

end Mvgal.Kernel.Vram
