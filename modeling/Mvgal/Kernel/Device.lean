import Mvgal.Kernel.PowerBudget

/-! The GPU list of the logical device (`mvgal_device.c`).

`mvgal_gpu_add` numbers a GPU by the current count, and `mvgal_gpu_remove` takes one
off the count wherever the GPU stands in the list. The numbers are also the slots of
the power budget, which a GPU that goes away clears.

`gpu_indices_iff` says that the numbering survives exactly those removals that take
the GPU with the highest number. -/
namespace Mvgal.Kernel.Devices
open List
open PowerBudget (GpuPower registerGpu unregisterGpu)

/-- The list of GPUs and their count, of `struct mvgal_device`. -/
structure Device where
  gpuList : List Gpu
  gpuCount : UInt32

/-- `mvgal_gpu_add`; `initRet` is what `ops->init` returns. The other steps of the set-up
cannot make it fail. -/
def gpuAdd (d : Device) (power : PowerBudget.State) (gpu : Gpu) (initRet : Int) :
    Int × Device × PowerBudget.State :=
  if maxGpus ≤ d.gpuCount.toNat then (-28, d, power)
  else
    let gpu := {gpu with gpuIndex := d.gpuCount}
    if gpu.ops.any VendorOps.init && initRet < 0 then (initRet, d, power)
    else (0, ⟨d.gpuList ++ [gpu], d.gpuCount + 1⟩, (registerGpu power gpu.gpuIndex.toNat).2)

/-- `mvgal_gpu_remove`, with `mvgal_gpu_free`. -/
def gpuRemove (d : Device) (power : PowerBudget.State) (gpu : Gpu) : Device × PowerBudget.State :=
  (⟨d.gpuList.erase gpu, d.gpuCount - 1⟩, (unregisterGpu power gpu.gpuIndex.toNat).2)

inductive Call where
  | add (gpu : Gpu) (initRet : Int)
  | remove (gpu : Gpu)

/-- The device and the power state; after a removal, also the slots before it. -/
structure World where
  device : Device
  power : PowerBudget.State
  before : Option (Nat → GpuPower)

/-- One call: a GPU that is added is not in the list, one that is removed is. -/
def call (w : World) : Call → Option World
  | .add gpu initRet =>
    if ∀ other ∈ w.device.gpuList, other.handle ≠ gpu.handle then
      let r := gpuAdd w.device w.power gpu initRet
      some ⟨r.2.1, r.2.2, none⟩
    else none
  | .remove gpu =>
    if gpu ∈ w.device.gpuList then
      let r := gpuRemove w.device w.power gpu
      some ⟨r.1, r.2, some w.power.budget.gpuPower⟩
    else none

/-- The numbers are distinct and below the count, the count is that of the list, and a
removal has left the slots of the GPUs that stay. -/
structure Indexed (w : World) : Prop where
  distinct : (w.device.gpuList.map Gpu.gpuIndex).Nodup
  below : ∀ gpu ∈ w.device.gpuList, gpu.gpuIndex < w.device.gpuCount
  count : w.device.gpuCount.toNat = w.device.gpuList.length
  kept : ∀ power, w.before = some power → ∀ gpu ∈ w.device.gpuList,
    w.power.budget.gpuPower gpu.gpuIndex.toNat = power gpu.gpuIndex.toNat

/-- A GPU that is removed has the highest number. -/
def CallOk (w : World) : Call → Prop
  | .add _ _ => True
  | .remove gpu => gpu.gpuIndex.toNat + 1 = w.device.gpuCount.toNat

def World.initial (power : PowerBudget.State) : World := ⟨⟨[], 0⟩, power, none⟩

variable {w : World} {gpu other : Gpu}

theorem mem_erase_iff (h : Indexed w) : other ∈ w.device.gpuList.erase gpu ↔
    other ≠ gpu ∧ other ∈ w.device.gpuList :=
  h.distinct.of_map.mem_erase_iff

section
variable (h : Indexed w) (hmem : gpu ∈ w.device.gpuList)
include h hmem

theorem index_ne (ho : other ∈ w.device.gpuList)
    (hne : other ≠ gpu) : other.gpuIndex ≠ gpu.gpuIndex :=
  fun heq => hne (inj_on_of_nodup_map h.distinct ho hmem heq)

/-- The numbers of `n` GPUs are those below `n`, so one GPU has the highest. -/
theorem exists_highest :
    ∃ top ∈ w.device.gpuList, top.gpuIndex.toNat + 1 = w.device.gpuCount.toNat := by
  have hpos : 0 < w.device.gpuList.length := length_pos_of_mem hmem
  have hnodup : (w.device.gpuList.map fun gpu => gpu.gpuIndex.toNat).Nodup := by
    have := h.distinct.map fun a b => UInt32.toNat_inj.mp
    rwa [map_map] at this
  have hsub : w.device.gpuList.map (fun gpu => gpu.gpuIndex.toNat) ⊆ range w.device.gpuList.length := by
    intro i hi
    obtain ⟨gpu, hgpu, rfl⟩ := mem_map.mp hi
    exact mem_range.mpr (h.count ▸ UInt32.lt_iff_toNat_lt.mp (h.below gpu hgpu))
  have hperm := (hnodup.subperm hsub).perm_of_length_le (by simp)
  have htop : w.device.gpuList.length - 1 ∈ w.device.gpuList.map fun gpu => gpu.gpuIndex.toNat :=
    hperm.mem_iff.mpr (mem_range.mpr (by omega))
  obtain ⟨top, hmemtop, htop⟩ := mem_map.mp htop
  exact ⟨top, hmemtop, by rw [h.count]; omega⟩

theorem count_pred : (w.device.gpuCount - 1).toNat = w.device.gpuCount.toNat - 1 := by
  have hpos : 0 < w.device.gpuList.length := length_pos_of_mem hmem
  exact UInt32.toNat_sub_of_le _ _ (UInt32.le_iff_toNat_le.mpr (by rw [h.count]; exact hpos))

end

/-- A removal clears no slot but the one of the GPU that goes. -/
theorem unregisterGpu_of_ne {power : PowerBudget.State} {i j : Nat} (h : j ≠ i) :
    (unregisterGpu power i).2.budget.gpuPower j = power.budget.gpuPower j := by
  unfold unregisterGpu
  split
  · rfl
  · exact Function.update_of_ne h ..

theorem indexed_remove_iff (h : Indexed w) (hmem : gpu ∈ w.device.gpuList) :
    Indexed ⟨(gpuRemove w.device w.power gpu).1, (gpuRemove w.device w.power gpu).2,
      some w.power.budget.gpuPower⟩ ↔ gpu.gpuIndex.toNat + 1 = w.device.gpuCount.toNat := by
  have hpred := count_pred h hmem
  constructor
  · intro h'
    obtain ⟨top, htop, hhigh⟩ := exists_highest h hmem
    -- The highest GPU would stay, with a number that is not below the new count.
    by_contra hlow
    have hstay : top ∈ w.device.gpuList.erase gpu :=
      (mem_erase_iff h).mpr ⟨fun heq => hlow (heq ▸ hhigh), htop⟩
    have hbelow := UInt32.lt_iff_toNat_lt.mp (h'.below top hstay)
    simp only [gpuRemove] at hbelow
    omega
  · intro hhigh
    refine ⟨h.distinct.sublist (erase_sublist.map _), fun other ho => ?_, ?_, fun power hp other ho => ?_⟩
    · obtain ⟨hne, hin⟩ := (mem_erase_iff h).mp ho
      have hindex := UInt32.toNat_inj.not.mpr (index_ne h hmem hin hne)
      have hlt := UInt32.lt_iff_toNat_lt.mp (h.below other hin)
      refine UInt32.lt_iff_toNat_lt.mpr ?_
      simp only [gpuRemove]
      omega
    · simp only [gpuRemove]
      rw [hpred, length_erase_of_mem hmem, h.count]
    · cases hp
      obtain ⟨hne, hin⟩ := (mem_erase_iff h).mp ho
      exact unregisterGpu_of_ne (UInt32.toNat_inj.not.mpr (index_ne h hmem hin hne))

theorem indexed_add (h : Indexed w) (gpu : Gpu) (initRet : Int) :
    Indexed ⟨(gpuAdd w.device w.power gpu initRet).2.1, (gpuAdd w.device w.power gpu initRet).2.2, none⟩ := by
  unfold gpuAdd
  split
  · exact ⟨h.distinct, h.below, h.count, fun _ hp => nomatch hp⟩
  · rename_i hroom
    dsimp only
    split
    · exact ⟨h.distinct, h.below, h.count, fun _ hp => nomatch hp⟩
    · have hsucc : (w.device.gpuCount + 1).toNat = w.device.gpuCount.toNat + 1 := by
        have hroom : ¬ 8 ≤ w.device.gpuCount.toNat := hroom
        show (w.device.gpuCount.toNat + 1) % 2 ^ 32 = _
        omega
      refine ⟨?_, fun other ho => ?_, ?_, fun _ hp => nomatch hp⟩
      · rw [map_append, nodup_append]
        refine ⟨h.distinct, by simp, fun i hi j hj => ?_⟩
        obtain ⟨other, ho, rfl⟩ := mem_map.mp hi
        obtain rfl := mem_singleton.mp hj
        exact UInt32.ne_of_lt (h.below other ho)
      · refine UInt32.lt_iff_toNat_lt.mpr ?_
        simp only [hsucc]
        obtain ho | ho := mem_append.mp ho
        · have := UInt32.lt_iff_toNat_lt.mp (h.below other ho)
          omega
        · obtain rfl := mem_singleton.mp ho
          exact Nat.lt_succ_self _
      · simp only [hsucc, length_append, h.count, length_singleton]

/-- **The numbers of the GPUs.** Along any sequence of additions and removals, whatever
the state of the power budget, the GPUs have distinct numbers below the count and
keep their slots exactly when each removal takes the GPU with the highest number. -/
theorem gpu_indices_iff (power : PowerBudget.State) (calls : List Call) :
    Run.Along call Indexed (.initial power) calls ↔ Run.Admitted call CallOk (.initial power) calls := by
  refine Run.along_iff_of_exact (fun w a w' h hrun => ?_) ⟨.nil, by simp [World.initial], rfl, by simp [World.initial]⟩ calls
  cases a with
  | add gpu initRet =>
    obtain ⟨-, rfl⟩ := Run.guarded hrun
    exact ⟨fun _ => trivial, fun _ => indexed_add h gpu initRet⟩
  | remove gpu =>
    obtain ⟨hmem, rfl⟩ := Run.guarded hrun
    exact indexed_remove_iff h hmem

def plain (handle : Nat) (gpuIndex : UInt32) : Gpu := ⟨handle, 0, true, true, 0, gpuIndex, none⟩

/-- The first of two GPUs goes, and the other keeps the number 1 of a count of 1. The
next GPU gets that number too, and clears the slot of both when it goes. -/
theorem index_reused_after_remove : (¬ Run.Along call Indexed (.initial PowerBudget.init)
      [.add (plain 0 0) 0, .add (plain 1 0) 0, .remove (plain 0 0)]) ∧
    ∃ w, Run.run call (.initial PowerBudget.init) [.add (plain 0 0) 0, .add (plain 1 0) 0,
        .remove (plain 0 0), .add (plain 2 0) 0, .remove (plain 2 1)] = some w ∧
      w.device.gpuList = [plain 1 1] ∧ w.before.map (fun power => power 1) = some ⟨50, 300, 0, 300⟩ ∧
      w.power.budget.gpuPower 1 = ⟨0, 0, 0, 0⟩ := by
  refine ⟨fun h => ?_, _, rfl, rfl, rfl, rfl⟩
  exact absurd ((h.final rfl).below (plain 1 1) (by decide)) (by decide)

/-- A device on the bus, with what `mvgal_gpu_alloc` and `mvgal_gpu_add` answer for it. -/
structure PciDev where
  vendor : UInt16
  pciClass : UInt32
  allocated : Bool
  addRet : Int

/-- Whether `mvgal_enumerate_gpus` finds a vendor: AMD, NVIDIA, Intel for its display
class, or MTT. -/
def PciDev.isGpu (dev : PciDev) : Bool :=
  dev.vendor == 0x1002 || dev.vendor == 0x10de ||
    dev.vendor == 0x8086 && dev.pciClass >>> 8 == 3 || dev.vendor == 0x1ed5

/-- What `ret` becomes for a GPU. -/
def PciDev.ret (dev : PciDev) : Int := if dev.allocated then dev.addRet else -12

/-- The references to each device, by its place on the bus, and the places in `gpu_list`. -/
structure Refs where
  count : Nat → Int
  gpuList : List Nat

/-- `pci_dev_put`, which does nothing for `NULL`. -/
def Refs.put (r : Refs) (pdev : Option Nat) : Refs :=
  {r with count := fun i => if pdev = some i then r.count i - 1 else r.count i}

/-- `pci_get_device` from `pdev`, where it finds the device at `next`. -/
def Refs.getDevice (r : Refs) (pdev : Option Nat) (next : Nat) : Refs :=
  {r with count := fun i => (r.put pdev).count i + if i = next then 1 else 0}

/-- `mvgal_enumerate_gpus` from its loop on, with the bus from the place `next`. -/
def enumerateGpus (next : Nat) (pdev : Option Nat) (ret : Int) (r : Refs) : List PciDev → Int × Refs
  | [] => (ret, (r.put pdev).put none)
  | dev :: bus =>
    let r := r.getDevice pdev next
    let pdev := some next
    if dev.isGpu then
      -- Both failures put the device and leave through `out`, which puts it again.
      if dev.ret < 0 then (dev.ret, (r.put pdev).put pdev)
      else enumerateGpus (next + 1) pdev dev.ret {r with gpuList := r.gpuList ++ [next]} bus
    else enumerateGpus (next + 1) pdev ret (r.put pdev) bus

/-- A listed device has one reference more than before, any other as many. -/
def Balanced (count : Nat → Int) (r : Refs) : Prop :=
  ∀ i, r.count i = count i + if i ∈ r.gpuList then 1 else 0

/-- A device the loop has passed loses the reference of `pdev` and is not listed any more. -/
theorem enumerateGpus_of_lt {i next : Nat} (hi : i < next) (pdev : Option Nat) (ret : Int)
    (r : Refs) (bus : List PciDev) :
    (enumerateGpus next pdev ret r bus).2.count i = (r.put pdev).count i ∧
      (i ∈ (enumerateGpus next pdev ret r bus).2.gpuList ↔ i ∈ r.gpuList) := by
  induction bus generalizing next pdev ret r with
  | nil => exact ⟨by simp [enumerateGpus, Refs.put], Iff.rfl⟩
  | cons dev bus ih =>
    have hne : next ≠ i := Nat.ne_of_gt hi
    have hlt := Nat.lt_succ_of_lt hi
    unfold enumerateGpus
    split_ifs
    · simp [Refs.put, Refs.getDevice, hne, hne.symm]
    · simp [ih hlt, Refs.put, Refs.getDevice, hne, hne.symm]
    · simp [ih hlt, Refs.put, Refs.getDevice, hne, hne.symm]

/-- **The references of the enumeration.** Whatever the allocations and additions answer,
they are balanced only on an empty bus: the first device always ends with one too few. -/
theorem enumerate_balanced_iff (count : Nat → Int) (bus : List PciDev) :
    Balanced count (enumerateGpus 0 none 0 ⟨count, []⟩ bus).2 ↔ bus = [] := by
  constructor
  · intro h
    cases bus with
    | nil => rfl
    | cons dev bus =>
      have hfirst := h 0
      by_cases hgpu : dev.isGpu
      · by_cases hret : dev.ret < 0
        · simp [enumerateGpus, hgpu, hret, Refs.put, Refs.getDevice] at hfirst
        · simp [enumerateGpus, hgpu, hret, enumerateGpus_of_lt, Refs.put, Refs.getDevice] at hfirst
      · simp [enumerateGpus, hgpu, enumerateGpus_of_lt, Refs.put, Refs.getDevice] at hfirst
  · rintro rfl i
    simp [enumerateGpus, Refs.put]

/-- An NVIDIA GPU is listed without a reference, and a host bridge loses one. -/
theorem listed_without_reference :
    let r := (enumerateGpus 0 none 0 ⟨fun _ => 1, []⟩ [⟨0x10de, 0x30000, true, 0⟩, ⟨0x1022, 0x60000, true, 0⟩]).2
    ¬ Balanced (fun _ => 1) r ∧ r.gpuList = [0] ∧ r.count 0 = 1 ∧ r.count 1 = 0 :=
  ⟨fun h => absurd (h 0) (by decide), rfl, rfl, rfl⟩

end Mvgal.Kernel.Devices
