import Mvgal.Lib.KeyMap
import Mvgal.Lib.Run

/-! The allocation registry behind the C interface (`safe/memory_safety`).

A record has a 32-bit reference count that saturates upwards, and its size is added to one
of two 64-bit totals. The totals wrap when they are counted up and saturate at 0 when they
are counted down. So a total that has once passed 2^64 is wrong as soon as the true sum
fits again.

`registry_accounts_iff` says which calls keep records and totals right: no record goes
before its last reference, no sum comes back from beyond 2^64, and no handle is used
twice. -/
namespace Mvgal.Safe.Allocations
open Finmap KeyMap
open Function (update)

inductive MemoryPlacement where
  | systemRam
  | gpuVram
  | mirrored
deriving DecidableEq, Repr

structure Allocation where
  sizeBytes : UInt64
  placement : MemoryPlacement
  gpuIndex : UInt32
  refCount : UInt32
  hasDmabuf : Bool
  dmabufFd : Int32
deriving DecidableEq

structure AllocationRegistry where
  allocs : KeyMap UInt64 Allocation
  nextId : UInt64
  totalBytesSystem : UInt64
  totalBytesGpu : UInt64

def saturatingAdd (a : UInt32) : UInt32 := if a = 0xFFFFFFFF then a else a + 1

def saturatingSub (a b : UInt64) : UInt64 := if a < b then 0 else a - b

namespace AllocationRegistry

def new : AllocationRegistry := ⟨∅, 1, 0, 0⟩

/-- The `match` on the placement that says which total is changed. -/
def count (r : AllocationRegistry) (placement : MemoryPlacement) (f : UInt64 → UInt64) : AllocationRegistry :=
  match placement with
  | .systemRam => {r with totalBytesSystem := f r.totalBytesSystem}
  | _ => {r with totalBytesGpu := f r.totalBytesGpu}

def put (r : AllocationRegistry) (handle : UInt64) (a : Allocation) : AllocationRegistry :=
  {r with allocs := r.allocs.insert handle a}

def remove (r : AllocationRegistry) (handle : UInt64) : AllocationRegistry :=
  {r with allocs := r.allocs.erase handle}

def allocate (r : AllocationRegistry) (sizeBytes : UInt64) (placement : MemoryPlacement) (gpuIndex : UInt32) :
    UInt64 × AllocationRegistry :=
  let id := r.nextId
  let r := {r with nextId := r.nextId + 1}
  (id, (r.count placement (· + sizeBytes)).put id ⟨sizeBytes, placement, gpuIndex, 1, false, -1⟩)

def retain (r : AllocationRegistry) (handle : UInt64) : Bool × AllocationRegistry :=
  match r.allocs.lookup handle with
  | some a => (true, r.put handle {a with refCount := saturatingAdd a.refCount})
  | none => (false, r)

def release (r : AllocationRegistry) (handle : UInt64) : Bool × AllocationRegistry :=
  match r.allocs.lookup handle with
  | some a =>
    if a.refCount = 0 then (false, r)
    else if a.refCount - 1 = 0 then
      (true, (r.remove handle).count a.placement (saturatingSub · a.sizeBytes))
    else (true, r.put handle {a with refCount := a.refCount - 1})
  | none => (false, r)

def setDmabuf (r : AllocationRegistry) (handle : UInt64) (fd : Int32) : Bool × AllocationRegistry :=
  match r.allocs.lookup handle with
  | some a => (true, r.put handle {a with hasDmabuf := 0 ≤ fd, dmabufFd := fd})
  | none => (false, r)

/-- The `as i32` of a placement. -/
def code : MemoryPlacement → Int32
  | .systemRam => 0
  | .gpuVram => 1
  | .mirrored => 2

def getPlacement (r : AllocationRegistry) (handle : UInt64) : Int32 :=
  ((r.allocs.lookup handle).map fun a => code a.placement).getD (-1)

end AllocationRegistry

/-- The placements that the C interface knows. -/
def placementOf (code : UInt32) : Option MemoryPlacement :=
  if code = 0 then some .systemRam else if code = 1 then some .gpuVram else if code = 2 then some .mirrored else none

def memTrack (r : AllocationRegistry) (sizeBytes : UInt64) (placement gpuIndex : UInt32) :
    UInt64 × AllocationRegistry :=
  match placementOf placement with
  | some p => r.allocate sizeBytes p gpuIndex
  | none => (0, r)

def ffiBool : Bool × AllocationRegistry → Int32 × AllocationRegistry
  | (ok, r) => (if ok then 1 else 0, r)

def memRetain (r : AllocationRegistry) (handle : UInt64) : Int32 × AllocationRegistry := ffiBool (r.retain handle)

def memRelease (r : AllocationRegistry) (handle : UInt64) : Int32 × AllocationRegistry := ffiBool (r.release handle)

def memSetDmabuf (r : AllocationRegistry) (handle : UInt64) (fd : Int32) : Int32 × AllocationRegistry :=
  ffiBool (r.setDmabuf handle fd)

inductive Call where
  | track (sizeBytes : UInt64) (placement gpuIndex : UInt32)
  | retain (handle : UInt64)
  | release (handle : UInt64)
  | setDmabuf (handle : UInt64) (fd : Int32)

/-- The registry, the handles it has given out, and the successful calls on each. -/
structure World where
  registry : AllocationRegistry
  handed : List UInt64
  retains : UInt64 → Nat
  releases : UInt64 → Nat

def World.initial : World := ⟨.new, [], fun _ => 0, fun _ => 0⟩

def counted (n : UInt64 → Nat) (handle : UInt64) (ret : Int32) : UInt64 → Nat :=
  if ret = 1 then update n handle (n handle + 1) else n

def call (w : World) : Call → Option World
  | .track sizeBytes placement gpuIndex =>
    let r := memTrack w.registry sizeBytes placement gpuIndex
    some {w with
      registry := r.2
      handed := if (placementOf placement).isSome then w.handed ++ [r.1] else w.handed}
  | .retain handle =>
    let r := memRetain w.registry handle
    some {w with registry := r.2, retains := counted w.retains handle r.1}
  | .release handle =>
    let r := memRelease w.registry handle
    some {w with registry := r.2, releases := counted w.releases handle r.1}
  | .setDmabuf handle fd => some {w with registry := (memSetDmabuf w.registry handle fd).2}

/-- What is counted together: the allocations in system memory, and the others. -/
inductive Pool where
  | system
  | gpu
deriving DecidableEq

def MemoryPlacement.pool : MemoryPlacement → Pool
  | .systemRam => .system
  | _ => .gpu

def AllocationRegistry.totalBytes (r : AllocationRegistry) : Pool → UInt64
  | .system => r.totalBytesSystem
  | .gpu => r.totalBytesGpu

def Allocation.bytesIn (p : Pool) (a : Allocation) : Nat := if a.placement.pool = p then a.sizeBytes.toNat else 0

def trueSum (r : AllocationRegistry) (p : Pool) : Nat := r.allocs.total (Allocation.bytesIn p)

/-- A handle is live while it has references, none is given out twice, and a sum that fits
64 bits is the total. -/
structure Accounts (w : World) : Prop where
  live : ∀ h, h ∈ w.registry.allocs ↔ h ∈ w.handed ∧ w.releases h < 1 + w.retains h
  fresh : w.handed.Nodup
  totals : ∀ p, trueSum w.registry p < 2 ^ 64 → (w.registry.totalBytes p).toNat = trueSum w.registry p

/-- A handle that is given out is new. The release that drops a record is that of the last
reference, and leaves no sum that fits where there was none. -/
def CallOk (w : World) : Call → Prop
  | .track _ placement _ => (placementOf placement).isSome → w.registry.nextId ∉ w.handed
  | .release handle =>
    ∀ a, w.registry.allocs.lookup handle = some a → a.refCount = 1 →
      w.releases handle = w.retains handle ∧ (trueSum w.registry a.placement.pool < 2 ^ 64 ∨
          2 ^ 64 + a.sizeBytes.toNat ≤ trueSum w.registry a.placement.pool)
  | _ => True

/-- A record counts at least one reference and at most those there are, calls succeed on
handles that were given out, and a sum beyond 64 bits is ahead of its total. -/
structure Kept (w : World) : Prop where
  counts : ∀ h a, w.registry.allocs.lookup h = some a →
    a.refCount ≠ 0 ∧ a.refCount.toNat + w.releases h ≤ 1 + w.retains h
  unused : ∀ h, h ∉ w.handed → w.retains h = 0 ∧ w.releases h = 0
  ahead : ∀ p, 2 ^ 64 ≤ trueSum w.registry p → (w.registry.totalBytes p).toNat + 2 ^ 64 ≤ trueSum w.registry p

theorem toNat_saturatingAdd (c : UInt32) : saturatingAdd c ≠ 0 ∧ (saturatingAdd c).toNat ≤ c.toNat + 1 := by
  unfold saturatingAdd
  split
  · rename_i h
    exact ⟨by rw [h]; decide, by omega⟩
  · rename_i h
    have hne : c.toNat ≠ 4294967295 := fun heq => h (UInt32.toNat_inj.mp heq)
    have hlt := c.toNat_lt
    have hsum : (c + 1).toNat = c.toNat + 1 := by
      exact Nat.mod_eq_of_lt (by simp; omega)
    exact ⟨fun hzero => by simp [hzero] at hsum, hsum.le⟩

theorem toNat_saturatingSub (a b : UInt64) : (saturatingSub a b).toNat = a.toNat - b.toNat := by
  unfold saturatingSub
  split
  · rename_i h
    exact (Nat.sub_eq_zero_of_le (UInt64.lt_iff_toNat_lt.mp h).le).symm
  · rename_i h
    exact UInt64.toNat_sub_of_le _ _ (UInt64.le_iff_toNat_le.mpr (Nat.le_of_not_lt (mt UInt64.lt_iff_toNat_lt.mpr h)))

theorem toNat_pred {c : UInt32} (hc : c ≠ 0) : (c - 1).toNat + 1 = c.toNat := by
  have hne : c.toNat ≠ 0 := fun heq => hc (UInt32.toNat_inj.mp heq)
  rw [UInt32.toNat_sub_of_le _ _ (UInt32.le_iff_toNat_le.mpr (by simp; omega))]
  simp
  omega

variable {r : AllocationRegistry} {w w' : World} {handle : UInt64} {a b : Allocation} {p : Pool}

variable (placement : MemoryPlacement)

theorem totalBytes_count (f : UInt64 → UInt64) (p : Pool) :
    (r.count placement f).totalBytes p = if placement.pool = p then f (r.totalBytes p) else r.totalBytes p := by
  cases placement <;> cases p <;> rfl

theorem allocs_count (f : UInt64 → UInt64) :
    (r.count placement f).allocs = r.allocs := by
  cases placement <;> rfl

theorem trueSum_put_new (h : handle ∉ r.allocs) (a : Allocation) (p : Pool) :
    trueSum (r.put handle a) p = a.bytesIn p + trueSum r p :=
  total_insert _ h

theorem trueSum_put (h : r.allocs.lookup handle = some a) (hsize : b.sizeBytes = a.sizeBytes)
    (hplacement : b.placement = a.placement) (p : Pool) : trueSum (r.put handle b) p = trueSum r p := by
  have hsum := total_insert_of_lookup (y := b) (Allocation.bytesIn p) h
  have hbytes : b.bytesIn p = a.bytesIn p := by rw [Allocation.bytesIn, hsize, hplacement, Allocation.bytesIn]
  simp only [trueSum, AllocationRegistry.put]
  omega

theorem trueSum_remove (h : r.allocs.lookup handle = some a) (p : Pool) :
    trueSum r p = a.bytesIn p + trueSum (r.remove handle) p :=
  total_erase _ h

theorem trueSum_count (f : UInt64 → UInt64) (p : Pool) :
    trueSum (r.count placement f) p = trueSum r p := by
  rw [trueSum, allocs_count, trueSum]

/-- A total and the sum it stands for: equal while the sum fits 64 bits, and behind it
otherwise. -/
def Tallies (total : UInt64) (sum : Nat) : Prop :=
  (sum < 2 ^ 64 → total.toNat = sum) ∧ (2 ^ 64 ≤ sum → total.toNat + 2 ^ 64 ≤ sum)

variable {sum : Nat}

theorem tallies_add {total : UInt64} (h : Tallies total sum) (size : UInt64) :
    Tallies (total + size) (size.toNat + sum) := by
  have hsum := UInt64.toNat_add total size
  obtain ⟨hfit, hover⟩ := h
  constructor <;> intro hle <;> by_cases hs : sum < 2 ^ 64
  · have := hfit hs
    omega
  · omega
  · have := hfit hs
    omega
  · have := hover (by omega)
    omega

/-- Counting down is right unless the sum comes back below 2^64. -/
theorem tallies_sub_iff {total size : UInt64} (h : Tallies total (size.toNat + sum)) :
    (sum < 2 ^ 64 → (saturatingSub total size).toNat = sum) ↔
      size.toNat + sum < 2 ^ 64 ∨ 2 ^ 64 ≤ sum := by
  have hlt := size.toNat_lt
  obtain ⟨hfit, hover⟩ := h
  rw [toNat_saturatingSub]
  constructor
  · intro heq
    by_contra hback
    have := heq (by omega)
    have := hover (by omega)
    omega
  · rintro (hs | hs) hfits
    · have := hfit hs
      omega
    · omega

theorem tallies_sub {total size : UInt64} (h : Tallies total (size.toNat + sum))
    (hok : size.toNat + sum < 2 ^ 64 ∨ 2 ^ 64 ≤ sum) : Tallies (saturatingSub total size) sum := by
  refine ⟨(tallies_sub_iff h).mpr hok, fun hs => ?_⟩
  have hover := h.2 (by omega)
  rw [toNat_saturatingSub]
  have := size.toNat_lt
  omega

theorem tallies_of (h : Accounts w) (hk : Kept w) (p : Pool) :
    Tallies (w.registry.totalBytes p) (trueSum w.registry p) :=
  ⟨h.totals p, hk.ahead p⟩

/-- A call that rewrites one record, in its reference count at most as the calls on the
handle allow. -/
structure Touches (w w' : World) (handle : UInt64) (a b : Allocation) : Prop where
  found : w.registry.allocs.lookup handle = some a
  registry : w'.registry = w.registry.put handle b
  size : b.sizeBytes = a.sizeBytes
  placement : b.placement = a.placement
  handed : w'.handed = w.handed
  others : ∀ j, j ≠ handle → w'.retains j = w.retains j ∧ w'.releases j = w.releases j
  counts : b.refCount ≠ 0 ∧ b.refCount.toNat + w'.releases handle ≤ 1 + w'.retains handle

section
variable (ht : Touches w w' handle a b)
include ht

theorem Touches.trueSum_eq (p : Pool) :
    trueSum w'.registry p = trueSum w.registry p := by
  rw [ht.registry, trueSum_put ht.found ht.size ht.placement]

theorem Touches.totalBytes_eq (p : Pool) :
    w'.registry.totalBytes p = w.registry.totalBytes p := by
  rw [ht.registry]
  cases p <;> rfl

theorem Touches.mem_iff (j : UInt64) :
    j ∈ w'.registry.allocs ↔ j ∈ w.registry.allocs := by
  rw [ht.registry]
  refine mem_insert.trans ⟨?_, Or.inr⟩
  rintro (rfl | hj)
  · exact mem_of_lookup_eq_some ht.found
  · exact hj

theorem Touches.accounts (h : Accounts w) : Accounts w' := by
  refine ⟨fun j => ?_, ht.handed ▸ h.fresh, fun p => ?_⟩
  · rw [ht.mem_iff, h.live, ht.handed]
    by_cases hj : j = handle
    · subst hj
      have hmem := (h.live j).mp (mem_of_lookup_eq_some ht.found)
      obtain ⟨hne, hle⟩ := ht.counts
      have hpos : b.refCount.toNat ≠ 0 := fun heq => hne (UInt32.toNat_inj.mp heq)
      exact iff_of_true hmem ⟨hmem.1, by omega⟩
    · rw [(ht.others j hj).1, (ht.others j hj).2]
  · rw [ht.trueSum_eq, ht.totalBytes_eq]
    exact h.totals p

theorem Touches.kept (h : Accounts w) (hk : Kept w) : Kept w' := by
  refine ⟨fun j c hj => ?_, fun j hj => ?_, fun p => ?_⟩
  · rw [ht.registry] at hj
    obtain ⟨rfl, rfl⟩ | ⟨hne, hj⟩ := lookup_insert_eq hj
    · exact ht.counts
    · rw [(ht.others j hne).1, (ht.others j hne).2]
      exact hk.counts j c hj
  · rw [ht.handed] at hj
    have hne : j ≠ handle := by
      rintro rfl
      exact hj ((h.live j).mp (mem_of_lookup_eq_some ht.found)).1
    rw [(ht.others j hne).1, (ht.others j hne).2]
    exact hk.unused j hj
  · rw [ht.trueSum_eq, ht.totalBytes_eq]
    exact hk.ahead p

end

/-! ### A record that goes -/

def dropped (w : World) (handle : UInt64) (a : Allocation) : World :=
  {w with
    registry := (w.registry.remove handle).count a.placement (saturatingSub · a.sizeBytes)
    releases := update w.releases handle (w.releases handle + 1)}

theorem trueSum_dropped (hl : w.registry.allocs.lookup handle = some a) (p : Pool) :
    trueSum w.registry p = a.bytesIn p + trueSum (dropped w handle a).registry p := by
  rw [dropped, trueSum_count]
  exact trueSum_remove hl p

theorem totalBytes_dropped (p : Pool) : (dropped w handle a).registry.totalBytes p =
      if a.placement.pool = p then saturatingSub (w.registry.totalBytes p) a.sizeBytes
      else w.registry.totalBytes p := by
  rw [dropped, totalBytes_count]
  cases p <;> rfl

theorem mem_dropped (j : UInt64) :
    j ∈ (dropped w handle a).registry.allocs ↔ j ≠ handle ∧ j ∈ w.registry.allocs := by
  rw [dropped, allocs_count]
  exact mem_erase

/-- The sum of a pool after the drop is right, or may stay wrong, as it was. -/
theorem tallies_dropped (h : Accounts w) (hk : Kept w) (hl : w.registry.allocs.lookup handle = some a)
    (hok : trueSum w.registry a.placement.pool < 2 ^ 64 ∨
      2 ^ 64 + a.sizeBytes.toNat ≤ trueSum w.registry a.placement.pool) (p : Pool) :
    Tallies ((dropped w handle a).registry.totalBytes p) (trueSum (dropped w handle a).registry p) := by
  have hbefore := tallies_of h hk p
  rw [totalBytes_dropped]
  rw [trueSum_dropped hl] at hbefore
  by_cases hp : a.placement.pool = p
  · rw [Allocation.bytesIn, if_pos hp] at hbefore
    rw [if_pos hp]
    apply tallies_sub hbefore
    rw [hp, trueSum_dropped hl, Allocation.bytesIn, if_pos hp] at hok
    omega
  · rw [Allocation.bytesIn, if_neg hp, Nat.zero_add] at hbefore
    rw [if_neg hp]
    exact hbefore

theorem accounts_dropped_iff (h : Accounts w) (hk : Kept w) (hl : w.registry.allocs.lookup handle = some a) :
    Accounts (dropped w handle a) ↔ w.releases handle = w.retains handle ∧
        (trueSum w.registry a.placement.pool < 2 ^ 64 ∨
          2 ^ 64 + a.sizeBytes.toNat ≤ trueSum w.registry a.placement.pool) := by
  have hmem := (h.live handle).mp (mem_of_lookup_eq_some hl)
  constructor
  · intro h'
    constructor
    · -- The record is gone, so there is no reference left.
      have hgone := mt (h'.live handle).mpr (fun hm => ((mem_dropped handle).mp hm).1 rfl)
      simp only [dropped, Function.update_self, not_and] at hgone
      have := hgone hmem.1
      omega
    · have hbefore := tallies_of h hk a.placement.pool
      have hafter := h'.totals a.placement.pool
      rw [trueSum_dropped hl, Allocation.bytesIn, if_pos rfl] at hbefore ⊢
      rw [totalBytes_dropped, if_pos rfl, tallies_sub_iff hbefore] at hafter
      omega
  · rintro ⟨hlast, hok⟩
    refine ⟨fun j => ?_, h.fresh, fun p => (tallies_dropped h hk hl hok p).1⟩
    rw [mem_dropped, h.live]
    by_cases hj : j = handle
    · subst hj
      simp [dropped, hlast, Nat.add_comm]
    · simp [dropped, hj]

theorem kept_dropped (h : Accounts w) (hk : Kept w) (hl : w.registry.allocs.lookup handle = some a)
    (hok : trueSum w.registry a.placement.pool < 2 ^ 64 ∨
      2 ^ 64 + a.sizeBytes.toNat ≤ trueSum w.registry a.placement.pool) : Kept (dropped w handle a) := by
  refine ⟨fun j c hj => ?_, fun j hj => ?_, fun p => (tallies_dropped h hk hl hok p).2⟩
  · rw [dropped, allocs_count] at hj
    obtain ⟨hne, hj⟩ := lookup_erase_eq hj
    simpa [dropped, hne] using hk.counts j c hj
  · have hne : j ≠ handle := by
      rintro rfl
      exact hj ((h.live j).mp (mem_of_lookup_eq_some hl)).1
    simpa [dropped, hne] using hk.unused j hj

def tracked (w : World) (a : Allocation) : World :=
  {w with
    registry := (({w.registry with nextId := w.registry.nextId + 1} : AllocationRegistry).count a.placement
      (· + a.sizeBytes)).put w.registry.nextId a
    handed := w.handed ++ [w.registry.nextId]}

theorem trueSum_tracked (h : w.registry.nextId ∉ w.registry.allocs) (p : Pool) :
    trueSum (tracked w a).registry p = a.bytesIn p + trueSum w.registry p := by
  rw [tracked, trueSum_put_new (by rwa [allocs_count]), trueSum_count]
  rfl

theorem totalBytes_tracked (p : Pool) : (tracked w a).registry.totalBytes p =
      if a.placement.pool = p then w.registry.totalBytes p + a.sizeBytes else w.registry.totalBytes p := by
  have hcount := totalBytes_count (r := {w.registry with nextId := w.registry.nextId + 1}) a.placement
    (· + a.sizeBytes) p
  cases p <;> exact hcount

theorem tallies_tracked (h : Accounts w) (hk : Kept w) (hnew : w.registry.nextId ∉ w.registry.allocs)
    (p : Pool) :
    Tallies ((tracked w a).registry.totalBytes p) (trueSum (tracked w a).registry p) := by
  have hbefore := tallies_of h hk p
  rw [totalBytes_tracked, trueSum_tracked hnew, Allocation.bytesIn]
  by_cases hp : a.placement.pool = p
  · rw [if_pos hp, if_pos hp]
    exact tallies_add hbefore _
  · rw [if_neg hp, if_neg hp, Nat.zero_add]
    exact hbefore

theorem mem_tracked (j : UInt64) :
    j ∈ (tracked w a).registry.allocs ↔ j = w.registry.nextId ∨ j ∈ w.registry.allocs := by
  rw [tracked, AllocationRegistry.put, allocs_count]
  exact mem_insert

theorem accounts_tracked_iff (h : Accounts w) (hk : Kept w) :
    Accounts (tracked w a) ↔ w.registry.nextId ∉ w.handed := by
  constructor
  · intro h' hmem
    have hfresh : (w.handed ++ [w.registry.nextId]).Nodup := h'.fresh
    exact (List.nodup_append.mp hfresh).2.2 _ hmem _ (List.mem_singleton_self _) rfl
  · intro hnew
    have hgone := fun hm => hnew ((h.live _).mp hm).1
    refine ⟨fun j => ?_, List.Nodup.append h.fresh (List.nodup_singleton _) (by simpa using hnew), fun p =>
      (tallies_tracked h hk hgone p).1⟩
    rw [mem_tracked, h.live]
    simp only [tracked, List.mem_append, List.mem_singleton]
    by_cases hj : j = w.registry.nextId
    · subst hj
      simp [hk.unused _ hnew]
    · simp [hj]

theorem kept_tracked (h : Accounts w) (hk : Kept w) (hnew : w.registry.nextId ∉ w.handed)
    (hone : a.refCount = 1) : Kept (tracked w a) := by
  have hgone := fun hm => hnew ((h.live _).mp hm).1
  refine ⟨fun j c hj => ?_, fun j hj => ?_, fun p => (tallies_tracked h hk hgone p).2⟩
  · obtain ⟨rfl, rfl⟩ | ⟨hne, hj⟩ := lookup_insert_eq hj
    · obtain ⟨hretains, hreleases⟩ := hk.unused _ hnew
      simp [tracked, hone, hretains, hreleases]
    · rw [allocs_count] at hj
      exact hk.counts j c hj
  · exact hk.unused j fun hm => hj (List.mem_append_left _ hm)

theorem call_track (sizeBytes : UInt64) (placement gpuIndex : UInt32) :
    call w (.track sizeBytes placement gpuIndex) = match placementOf placement with
      | some p => some (tracked w ⟨sizeBytes, p, gpuIndex, 1, false, -1⟩)
      | none => some w := by
  simp only [call, memTrack]
  cases placementOf placement <;> rfl

theorem call_absent (hl : w.registry.allocs.lookup handle = none) :
    call w (.retain handle) = some w ∧ call w (.release handle) = some w ∧
      ∀ fd, call w (.setDmabuf handle fd) = some w := by
  simp [call, memRetain, memRelease, memSetDmabuf, AllocationRegistry.retain, AllocationRegistry.release,
    AllocationRegistry.setDmabuf, hl, ffiBool, counted]

section
variable (hk : Kept w) (hl : w.registry.allocs.lookup handle = some a)
include hk hl

theorem touches_retain (h : call w (.retain handle) = some w') :
    Touches w w' handle a {a with refCount := saturatingAdd a.refCount} := by
  simp only [call, memRetain, AllocationRegistry.retain, hl, ffiBool, counted, if_true] at h
  cases h
  obtain ⟨hne, hle⟩ := toNat_saturatingAdd a.refCount
  obtain ⟨-, hcount⟩ := hk.counts handle a hl
  refine ⟨hl, rfl, rfl, rfl, rfl, fun j hj => by simp [hj], hne, ?_⟩
  simp only [Function.update_self]
  omega

theorem touches_setDmabuf {fd : Int32} (h : call w (.setDmabuf handle fd) = some w') :
    Touches w w' handle a {a with hasDmabuf := 0 ≤ fd, dmabufFd := fd} := by
  simp only [call, memSetDmabuf, AllocationRegistry.setDmabuf, hl, ffiBool] at h
  cases h
  exact ⟨hl, rfl, rfl, rfl, rfl, fun j _ => ⟨rfl, rfl⟩, hk.counts handle a hl⟩

theorem touches_release (hmore : a.refCount ≠ 1) (h : call w (.release handle) = some w') :
    Touches w w' handle a {a with refCount := a.refCount - 1} := by
  obtain ⟨hne, hcount⟩ := hk.counts handle a hl
  have hpred := toNat_pred hne
  have hlast : a.refCount - 1 ≠ 0 := by
    intro hzero
    rw [hzero] at hpred
    exact hmore (UInt32.toNat_inj.mp hpred.symm)
  simp only [call, memRelease, AllocationRegistry.release, hl, hne, hlast, ffiBool, counted, if_true, if_false] at h
  cases h
  refine ⟨hl, rfl, rfl, rfl, rfl, fun j hj => by simp [hj], hlast, ?_⟩
  simp only [Function.update_self]
  omega

end

theorem call_release_last (hl : w.registry.allocs.lookup handle = some a) (hone : a.refCount = 1) :
    call w (.release handle) = some (dropped w handle a) := by
  simp [call, memRelease, AllocationRegistry.release, hl, hone, ffiBool, counted, dropped]

/-- The worlds a call can end in, and what makes it admitted there. -/
inductive Effect (w : World) (c : Call) : World → Prop
  | nothing (hok : CallOk w c) : Effect w c w
  | touched {w' : World} {handle : UInt64} {a b : Allocation} (ht : Touches w w' handle a b) (hok : CallOk w c) :
    Effect w c w'
  | tracked (a : Allocation) (hone : a.refCount = 1) (hok : CallOk w c ↔ w.registry.nextId ∉ w.handed) :
    Effect w c (tracked w a)
  | dropped {handle : UInt64} {a : Allocation} (hl : w.registry.allocs.lookup handle = some a)
    (hok : CallOk w c ↔ w.releases handle = w.retains handle ∧
      (trueSum w.registry a.placement.pool < 2 ^ 64 ∨
        2 ^ 64 + a.sizeBytes.toNat ≤ trueSum w.registry a.placement.pool)) :
    Effect w c (dropped w handle a)

theorem effect_release (hk : Kept w) (h : call w (.release handle) = some w') :
    Effect w (.release handle) w' := by
  cases hl : w.registry.allocs.lookup handle with
  | none =>
    cases (call_absent hl).2.1.symm.trans h
    exact .nothing fun a ha => absurd (hl.symm.trans ha) (by simp)
  | some a =>
    by_cases hone : a.refCount = 1
    · cases (call_release_last hl hone).symm.trans h
      exact .dropped hl (by simp [CallOk, hl, hone])
    · refine .touched (touches_release hk hl hone h) fun b hb hb' => ?_
      cases hl.symm.trans hb
      exact absurd hb' hone

variable {c : Call}

theorem effect_call (hk : Kept w) (h : call w c = some w') : Effect w c w' := by
  cases c with
  | track sizeBytes placement gpuIndex =>
    rw [call_track] at h
    cases hp : placementOf placement with
    | none =>
      rw [hp] at h
      cases h
      exact .nothing (by simp [CallOk, hp])
    | some p =>
      rw [hp] at h
      cases h
      exact .tracked _ rfl (by simp [CallOk, hp])
  | retain handle =>
    cases hl : w.registry.allocs.lookup handle with
    | none =>
      cases (call_absent hl).1.symm.trans h
      exact .nothing trivial
    | some a => exact .touched (touches_retain hk hl h) trivial
  | release handle => exact effect_release hk h
  | setDmabuf handle fd =>
    cases hl : w.registry.allocs.lookup handle with
    | none =>
      cases ((call_absent hl).2.2 fd).symm.trans h
      exact .nothing trivial
    | some a => exact .touched (touches_setDmabuf hk hl h) trivial

theorem accounts_effect_iff (hk : Kept w) (h : Accounts w) (he : Effect w c w') :
    Accounts w' ↔ CallOk w c := by
  cases he with
  | nothing hok => exact iff_of_true h hok
  | touched ht hok => exact iff_of_true (ht.accounts h) hok
  | tracked a hone hok => exact (accounts_tracked_iff h hk).trans hok.symm
  | dropped hl hok => exact (accounts_dropped_iff h hk hl).trans hok.symm

theorem kept_effect (hk : Kept w) (h : Accounts w) (he : Effect w c w') (hc : CallOk w c) :
    Kept w' := by
  cases he with
  | nothing hok => exact hk
  | touched ht hok => exact ht.kept h hk
  | tracked a hone hok => exact kept_tracked h hk (hok.mp hc) hone
  | dropped hl hok => exact kept_dropped h hk hl (hok.mp hc).2

theorem lookup_initial (handle : UInt64) : World.initial.registry.allocs.lookup handle = none :=
  lookup_empty handle

theorem accounts_initial : Accounts World.initial := by
  refine ⟨fun h => ?_, List.nodup_nil, fun p _ => ?_⟩
  · exact iff_of_false (lookup_eq_none.mp (lookup_initial h)) (fun hm => absurd hm.1 List.not_mem_nil)
  · cases p <;> rfl

theorem kept_initial : Kept World.initial := by
  refine ⟨fun h a ha => absurd ((lookup_initial h).symm.trans ha) (by simp), fun _ _ => ⟨rfl, rfl⟩, fun p hp => ?_⟩
  exact absurd hp (by simp [trueSum, World.initial, AllocationRegistry.new, total_empty])

/-- **The books of the registry.** Along any sequence of calls, handles are live exactly
while they have references and are new when given out, and each total is the sum of the
live sizes where that fits 64 bits, exactly when no handle comes again, no record goes
before its last reference, and no release brings a sum back below 2^64. -/
theorem registry_accounts_iff (calls : List Call) :
    Run.Along call Accounts .initial calls ↔ Run.Admitted call CallOk .initial calls :=
  Run.along_iff_admitted (I := Kept) (fun _ _ _ hk h hc => accounts_effect_iff hk h (effect_call hk hc))
    (fun _ _ _ hk h hc hok => kept_effect hk h (effect_call hk hc) hok) kept_initial accounts_initial calls

/-- The total has wrapped to 1 when the release takes it down to 0; the sum is 2. -/
theorem release_loses_total :
    ¬ Run.Along call Accounts .initial [.track (0 - 1) 0 0, .track 2 0 0, .release 1] := by
  intro h
  have htotal := (h.final rfl).totals .system (by decide)
  exact nomatch htotal

end Mvgal.Safe.Allocations
