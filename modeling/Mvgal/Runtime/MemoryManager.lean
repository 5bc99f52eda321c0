import Mvgal.Lib.Run
import Mvgal.Lib.Scan
import Mvgal.Lib.Table

/-! The memory manager of the daemon (`memory_manager.cpp`).

An allocation may have memory on several GPUs. `populated` says on which, and a call that
gets or gives back memory on a GPU has to say so there. The functions that do the work on a
GPU may fail; each gets one resource when it returns true. The model keeps the resources
beside the manager (`World.resources`) and treats an index outside a vector as a fault.

`resources_exact_iff` says which calls keep the books: not a mapping that succeeds, which is
never entered, not a migration to a GPU that has the allocation already, not a GPU index
outside the registry, and not a replication that fails half way. -/
namespace Mvgal.Runtime.Memory
open List Function Table
open Function (update)

inductive AllocationStrategy where
  | firstAvailable
  | mostVRAM
  | leastUtilized
  | numaAware
  | explicit
deriving DecidableEq

structure MemoryAllocation where
  id : UInt64
  uva : UInt64
  size : UInt64
  flags : UInt32
  gpuAddresses : List UInt64
  dmaBufFds : List Int32
  populated : List Bool
  preferredGpu : UInt32
  isReplicated : Bool
  replicationTargets : List UInt32
deriving DecidableEq

structure MemoryManager where
  gpuCount : Nat
  allocations : UInt64 → Option MemoryAllocation
  nextAllocationId : UInt64

/-- The resources an allocation holds on each GPU. -/
abbrev Row := Nat → Int

/-- The manager, what the GPUs have given out for each allocation, and of the last call
whether it failed and which allocations there were before it. -/
structure World where
  manager : MemoryManager
  resources : UInt64 → Row
  failed : Bool
  before : UInt64 → Option MemoryAllocation

def World.initial (gpuCount : Nat) : World := ⟨⟨gpuCount, fun _ => none, 1⟩, fun _ _ => 0, false, fun _ => none⟩

inductive Fault where
  | outOfBounds

def Row.acquire (row : Row) (gpu : Nat) : Row := update row gpu (row gpu + 1)

def Row.release (row : Row) (gpu : Nat) : Row := update row gpu (row gpu - 1)

def World.fail (w : World) : World := {w with failed := true, before := w.manager.allocations}

def World.write (w : World) (id : UInt64) (alloc : Option MemoryAllocation) (row : Row) (failed : Bool) : World :=
  {w with
    manager.allocations := update w.manager.allocations id alloc
    resources := update w.resources id row
    failed
    before := w.manager.allocations}

def moreVRAM (x y : UInt64) : Bool := y < x

def lessUtilized (x y : UInt32) : Bool := x < y

structure Registry where
  vramSize : Nat → UInt64
  utilization : Nat → UInt32

def findGpuWithMostVRAM (gpuCount : Nat) (r : Registry) : Nat :=
  (Scan.scan moreVRAM r.vramSize (0, none) (List.range gpuCount)).2.getD 0

def findLeastUtilizedGpu (gpuCount : Nat) (r : Registry) : Nat :=
  (Scan.scan lessUtilized r.utilization (0xFFFFFFFF, none) (List.range gpuCount)).2.getD 0

def getGpuForNumaNode (gpuCount : Nat) (numaNode : Nat) : Nat := if numaNode < gpuCount then numaNode else 0

def targetGpu (gpuCount : Nat) (r : Registry) (preferredGpu : UInt32) : AllocationStrategy → Nat
  | .firstAvailable => 0
  | .mostVRAM => findGpuWithMostVRAM gpuCount r
  | .leastUtilized => findLeastUtilizedGpu gpuCount r
  | .numaAware => if preferredGpu ≠ 0xFFFFFFFF then preferredGpu.toNat else getGpuForNumaNode gpuCount 0
  | .explicit => preferredGpu.toNat

/-- What `allocate` is given, and what it meets: the registry, whether the range and the
system memory could be mapped (and where), and whether the GPU had memory. -/
structure Allocate where
  size : UInt64
  flags : UInt32
  preferredGpu : UInt32
  strategy : AllocationStrategy
  registry : Registry
  uva : Option UInt64
  onGpu : Bool
  systemRam : Option UInt64

def MemoryManager.newAllocation (m : MemoryManager) (size uva : UInt64) (flags preferredGpu : UInt32) :
    MemoryAllocation where
  id := m.nextAllocationId
  uva := uva
  size := size
  flags := flags
  gpuAddresses := List.replicate m.gpuCount 0
  dmaBufFds := List.replicate m.gpuCount (-1)
  populated := List.replicate m.gpuCount false
  preferredGpu := preferredGpu
  isReplicated := false
  replicationTargets := []

/-- `allocateOnGpu` where it succeeds: it writes the address. -/
def MemoryAllocation.onGpu (a : MemoryAllocation) (gpu : Nat) : Except Fault MemoryAllocation :=
  if gpu < a.gpuAddresses.length then .ok {a with gpuAddresses := a.gpuAddresses.set gpu (0x1000 + a.id)}
  else .error .outOfBounds

/-- `allocateSystemRam` where it succeeds: the address goes to the place of GPU 0. -/
def MemoryAllocation.inSystemRam (a : MemoryAllocation) (ptr : UInt64) : Except Fault MemoryAllocation :=
  if 0 < a.gpuAddresses.length then .ok {a with gpuAddresses := a.gpuAddresses.set 0 ptr, preferredGpu := 0}
  else .error .outOfBounds

def MemoryAllocation.mark (a : MemoryAllocation) (gpu : Nat) (populated : Bool) : MemoryAllocation :=
  {a with populated := a.populated.set gpu populated}

/-- A new allocation is entered under the next identifier. A call that returns 0 has failed
for its caller. -/
def World.enter (w : World) (a : MemoryAllocation) (row : Row) : World :=
  {w.write w.manager.nextAllocationId (some a) row (w.manager.nextAllocationId == 0) with
    manager.nextAllocationId := w.manager.nextAllocationId + 1}

def World.allocate (w : World) (c : Allocate) : Except Fault World :=
  match c.uva with
  | none => .ok w.fail
  | some uva =>
    let a := w.manager.newAllocation c.size uva c.flags c.preferredGpu
    let target := targetGpu w.manager.gpuCount c.registry c.preferredGpu c.strategy
    let row := w.resources w.manager.nextAllocationId
    if c.onGpu then do
      let a ← a.onGpu target
      return w.enter {a.mark target true with preferredGpu := UInt32.ofNat target} (row.acquire target)
    else
      match c.systemRam with
      | none => .ok w.fail
      | some ptr => do
        let a ← a.inSystemRam ptr
        return w.enter a row

def MemoryAllocation.freed (a : MemoryAllocation) (row : Row) : Row :=
  (List.range a.populated.length).foldl (fun row i => if a.populated.getD i false then row.release i else row) row

def World.free (w : World) (id : UInt64) : World :=
  match w.manager.allocations id with
  | none => w.fail
  | some a => w.write id none (a.freed (w.resources id)) false

/-- `canUseDmaBuf`, `importViaDmaBuf` and `copyViaStagingBuffer` on one GPU. -/
structure Transfer where
  canUseDmaBuf : Bool
  imported : Bool
  copied : Bool

def Transfer.ok (t : Transfer) : Bool := if t.canUseDmaBuf then t.imported else t.copied

def World.mapToGpu (w : World) (id : UInt64) (gpuIndex : UInt32) (t : Transfer) : World :=
  match w.manager.allocations id with
  | none => w.fail
  | some a =>
    match a.populated[gpuIndex.toNat]? with
    | none => w.fail
    | some true => w.write id (some a) (w.resources id) false
    | some false =>
      if t.ok then w.write id (some a) ((w.resources id).acquire gpuIndex.toNat) false else w.fail

def World.unmapFromGpu (w : World) (id : UInt64) (gpuIndex : UInt32) : World :=
  match w.manager.allocations id with
  | none => w.fail
  | some a =>
    match a.populated[gpuIndex.toNat]? with
    | none => w.fail
    | some false => w.write id (some a) (w.resources id) false
    | some true => w.write id (some (a.mark gpuIndex.toNat false)) ((w.resources id).release gpuIndex.toNat) false

def replicateLoop (transfer : UInt32 → Transfer) (a : MemoryAllocation) (row : Row) :
    List UInt32 → Except Fault (Bool × MemoryAllocation × Row)
  | [] => .ok (true, a, row)
  | gpuIndex :: rest =>
    if a.gpuAddresses.length ≤ gpuIndex.toNat then replicateLoop transfer a row rest
    else
      match a.populated[gpuIndex.toNat]? with
      | none => .error .outOfBounds
      | some true => replicateLoop transfer a row rest
      | some false =>
        if (transfer gpuIndex).ok then
          replicateLoop transfer (a.mark gpuIndex.toNat true) (row.acquire gpuIndex.toNat) rest
        else .ok (false, a, row)

def World.replicate (w : World) (id : UInt64) (targetGpus : List UInt32) (transfer : UInt32 → Transfer) :
    Except Fault World :=
  match w.manager.allocations id with
  | none => .ok w.fail
  | some a => do
    let (complete, a, row) ← replicateLoop transfer a (w.resources id) targetGpus
    if complete then
      return w.write id (some {a with isReplicated := true, replicationTargets := targetGpus}) row false
    else return w.write id (some a) row true

def World.migrate (w : World) (id : UInt64) (targetGpu : UInt32) (onGpu : Bool) : Except Fault World :=
  match w.manager.allocations id with
  | none => .ok w.fail
  | some a =>
    let currentGpu := a.preferredGpu.toNat
    if a.populated[currentGpu]? ≠ some true then .ok w.fail
    else if !onGpu then .ok w.fail
    else do
      let a ← a.onGpu targetGpu.toNat
      let row := ((w.resources id).acquire targetGpu.toNat).release currentGpu
      let a := (a.mark currentGpu false).mark targetGpu.toNat true
      return w.write id (some {a with preferredGpu := targetGpu}) row false

/-- What `importDmaBuf` meets on one GPU: the duplicate of the descriptor, and the answer of
`importViaDmaBuf`. -/
structure Import where
  fd : Int32
  imported : Bool

def importOn (imports : Nat → Import) (ar : MemoryAllocation × Row) (i : Nat) : MemoryAllocation × Row :=
  if (imports i).imported then
    ({ar.1.mark i true with dmaBufFds := ar.1.dmaBufFds.set i (imports i).fd}, ar.2.acquire i)
  else
    -- a duplicate that was made is closed again
    ({ar.1 with dmaBufFds := ar.1.dmaBufFds.set i (if 0 ≤ (imports i).fd then -1 else (imports i).fd)}, ar.2)

/-- `CPU_VISIBLE | COHERENT`. -/
def importFlags : UInt32 := 0x18

def World.importDmaBuf (w : World) (size : UInt64) (uva : Option UInt64) (imports : Nat → Import) : World :=
  match uva with
  | none => w.fail
  | some uva =>
    let gpus := List.range w.manager.gpuCount
    let (a, row) := gpus.foldl (importOn imports)
      (w.manager.newAllocation size uva importFlags 0xFFFFFFFF, w.resources w.manager.nextAllocationId)
    if !gpus.any (fun i => (imports i).imported) ∧ 0 < w.manager.gpuCount then w.fail else w.enter a row

inductive Call where
  | allocate (c : Allocate)
  | free (id : UInt64)
  | mapToGpu (id : UInt64) (gpuIndex : UInt32) (t : Transfer)
  | unmapFromGpu (id : UInt64) (gpuIndex : UInt32)
  | replicate (id : UInt64) (targetGpus : List UInt32) (transfer : UInt32 → Transfer)
  | migrate (id : UInt64) (targetGpu : UInt32) (onGpu : Bool)
  | importDmaBuf (size : UInt64) (uva : Option UInt64) (imports : Nat → Import)

def World.call (w : World) : Call → Except Fault World
  | .allocate c => w.allocate c
  | .free id => .ok (w.free id)
  | .mapToGpu id gpuIndex t => .ok (w.mapToGpu id gpuIndex t)
  | .unmapFromGpu id gpuIndex => .ok (w.unmapFromGpu id gpuIndex)
  | .replicate id targetGpus transfer => w.replicate id targetGpus transfer
  | .migrate id targetGpu onGpu => w.migrate id targetGpu onGpu
  | .importDmaBuf size uva imports => .ok (w.importDmaBuf size uva imports)

/-- What an allocation should hold on a GPU. -/
def share : Option MemoryAllocation → Row
  | some a, gpu => if a.populated[gpu]? = some true then 1 else 0
  | none, _ => 0

/-- Every allocation holds one resource on each GPU it is populated on and none elsewhere,
one that is not there holds none, and the last call, if it failed, changed nothing. -/
structure Exact (w : World) : Prop where
  booked : ∀ id, w.resources id = share (w.manager.allocations id)
  intact : w.failed = true → w.manager.allocations = w.before

/-- The identifier of a new allocation is not the one for failure, and nothing is booked
under it. -/
def FreshId (w : World) : Prop :=
  w.manager.nextAllocationId ≠ 0 ∧ share (w.manager.allocations w.manager.nextAllocationId) = fun _ => 0

/-- The calls that keep that. -/
def CallOk (w : World) : Call → Prop
  | .allocate c =>
    c.uva.isSome → (c.onGpu = true → targetGpu w.manager.gpuCount c.registry c.preferredGpu c.strategy < w.manager.gpuCount ∧
        FreshId w) ∧
      (c.onGpu = false → c.systemRam.isSome → 0 < w.manager.gpuCount ∧ FreshId w)
  | .mapToGpu id gpuIndex t =>
    ∀ a, w.manager.allocations id = some a → a.populated[gpuIndex.toNat]? = some false → t.ok = false
  | .replicate id targetGpus transfer =>
    ∀ a a' row, w.manager.allocations id = some a →
      replicateLoop transfer a (w.resources id) targetGpus = .ok (false, a', row) → a' = a
  | .migrate id targetGpu onGpu =>
    ∀ a, w.manager.allocations id = some a → a.populated[a.preferredGpu.toNat]? = some true → onGpu = true →
      targetGpu.toNat < w.manager.gpuCount ∧ (targetGpu = a.preferredGpu ∨ a.populated[targetGpu.toNat]? ≠ some true)
  | .importDmaBuf _ uva imports =>
    uva.isSome → ((∃ i < w.manager.gpuCount, (imports i).imported = true) ∨ w.manager.gpuCount = 0) → FreshId w
  | _ => True

section Row
variable {a : MemoryAllocation} {row row' : Row} {gpu other : Nat}

theorem acquire_self : row.acquire gpu gpu = row gpu + 1 := update_self ..

theorem release_of_ne (h : other ≠ gpu) : row.release gpu other = row other := update_of_ne h ..

theorem release_acquire (row : Row) : (row.acquire gpu).release gpu = row := by
  simp [Row.release, Row.acquire]

theorem acquire_release (row : Row) : (row.release gpu).acquire gpu = row := by
  simp [Row.release, Row.acquire]

theorem acquire_inj : row.acquire gpu = row'.acquire gpu ↔ row = row' := by
  refine ⟨fun h => ?_, fun h => by rw [h]⟩
  rw [← release_acquire row, h, release_acquire]

theorem release_inj : row.release gpu = row'.release gpu ↔ row = row' := by
  refine ⟨fun h => ?_, fun h => by rw [h]⟩
  rw [← acquire_release row, h, acquire_release]

theorem share_mark (h : gpu < a.populated.length) (populated : Bool) :
    share (some (a.mark gpu populated)) = update (share (some a)) gpu (if populated then 1 else 0) := by
  funext other
  by_cases hother : other = gpu
  · rw [hother, update_self]
    simp [share, MemoryAllocation.mark, h]
  · rw [update_of_ne hother]
    simp [share, MemoryAllocation.mark, getElem?_set_ne (Ne.symm hother)]

/-- A GPU that is marked now and was not before is one more. -/
theorem share_mark_true (h : a.populated[gpu]? = some false) :
    share (some (a.mark gpu true)) = (share (some a)).acquire gpu := by
  rw [share_mark (List.getElem?_eq_some_iff.mp h).1, Row.acquire]
  simp [share, h]

theorem share_mark_false (h : a.populated[gpu]? = some true) :
    share (some (a.mark gpu false)) = (share (some a)).release gpu := by
  rw [share_mark (List.getElem?_eq_some_iff.mp h).1, Row.release]
  simp [share, h]

theorem acquire_mark_iff (h : a.populated[gpu]? = some false) :
    row.acquire gpu = share (some (a.mark gpu true)) ↔ row = share (some a) := by
  rw [share_mark_true h, acquire_inj]

theorem release_mark_iff (h : a.populated[gpu]? = some true) :
    row.release gpu = share (some (a.mark gpu false)) ↔ row = share (some a) := by
  rw [share_mark_false h, release_inj]

variable {a' : MemoryAllocation}

theorem share_congr (h : a'.populated = a.populated) : share (some a') = share (some a) := by
  funext gpu
  simp only [share, h]

theorem acquire_marked_iff (h : a.populated[gpu]? = some false)
    (hmarked : a'.populated = a.populated.set gpu true) :
    row.acquire gpu = share (some a') ↔ row = share (some a) := by
  rw [← acquire_mark_iff h, share_congr hmarked (a := a.mark gpu true)]

theorem release_acquire_comm (h : other ≠ gpu) :
    (row.acquire gpu).release other = (row.release other).acquire gpu := by
  unfold Row.release Row.acquire
  rw [update_comm h, update_of_ne h, update_of_ne h.symm]

/-- A resource moved from one GPU to another, with the marks: right unless the other GPU had
one already. -/
theorem move_iff {current target : Nat} (hcurrent : a.populated[current]? = some true)
    (htarget : target < a.populated.length)
    (hmoved : a'.populated = (a.populated.set current false).set target true) :
    ((share (some a)).acquire target).release current = share (some a') ↔
      target = current ∨ a.populated[target]? ≠ some true := by
  by_cases hsame : target = current
  · refine iff_of_true ?_ (.inl hsame)
    subst hsame
    have hmarked : a.populated[target] = true := (List.getElem?_eq_some_iff.mp hcurrent).2
    have hback : a'.populated = a.populated := by
      rw [hmoved, List.set_set, ← hmarked, List.set_getElem_self]
    rw [release_acquire, share_congr hback]
  · rw [release_acquire_comm (Ne.symm hsame)]
    have hkept : (a.mark current false).populated[target]? = a.populated[target]? :=
      List.getElem?_set_ne (Ne.symm hsame)
    cases hp : a.populated[target] with
    | false =>
      have hunmarked : a.populated[target]? = some false := List.getElem?_eq_some_iff.mpr ⟨htarget, hp⟩
      rw [acquire_marked_iff (hkept.trans hunmarked) hmoved, release_mark_iff hcurrent]
      exact iff_of_true rfl (.inr (by simp [hunmarked]))
    | true =>
      have hmarked : a.populated[target]? = some true := List.getElem?_eq_some_iff.mpr ⟨htarget, hp⟩
      refine iff_of_false (fun hrow => ?_) (by simp [hsame, hmarked])
      -- two resources, one mark
      have htwo := congrFun hrow target
      rw [acquire_self, release_of_ne hsame] at htwo
      simp only [share, hmarked, if_true] at htwo
      split at htwo <;> omega

theorem share_new (m : MemoryManager) (size uva : UInt64) (flags preferredGpu : UInt32) :
    share (some (m.newAllocation size uva flags preferredGpu)) = fun _ => 0 := by
  funext gpu
  simp only [share, MemoryManager.newAllocation, getElem?_replicate]
  split <;> simp_all

/-- The loop of `free` gives back what the marks say. -/
theorem freed_eq (a : MemoryAllocation) (row : Row) : a.freed row = fun gpu => row gpu - share (some a) gpu := by
  have hloop (k : Nat) (hk : k ≤ a.populated.length) :
      (range k).foldl (fun row i => if a.populated.getD i false then row.release i else row) row =
        fun gpu => row gpu - if gpu < k then share (some a) gpu else 0 := by
    induction k with
    | zero => simp
    | succ k ih =>
      rw [range_succ, foldl_append, ih (by omega)]
      funext gpu
      have hk' : k < a.populated.length := hk
      simp only [foldl_cons, foldl_nil]
      by_cases hgpu : gpu = k
      · subst hgpu
        cases hp : a.populated[gpu] with
        | true => simp [getD, hp, hk', Row.release, share]
        | false => simp [getD, hp, hk', share]
      · have hlt : gpu < k + 1 ↔ gpu < k := by omega
        simp only [hlt]
        split
        · rw [release_of_ne hgpu]
        · rfl
  unfold MemoryAllocation.freed
  rw [hloop _ (Nat.le_refl _)]
  funext gpu
  split
  · rfl
  · next h =>
    have hnone : a.populated[gpu]? = none := getElem?_eq_none (Nat.le_of_not_lt h)
    simp [share, hnone]

end Row

structure Fits (gpuCount : Nat) (a : MemoryAllocation) : Prop where
  addresses : a.gpuAddresses.length = gpuCount
  populated : a.populated.length = gpuCount

/-- What holds in any case: the vectors have their lengths, and the identifier of failure is
not in use. -/
structure Shaped (w : World) : Prop where
  fits : ∀ id a, w.manager.allocations id = some a → Fits w.manager.gpuCount a
  zero : w.manager.allocations 0 = none

/-- What a call can do, if `ok` says when that keeps the books: fail, write an allocation that
is there, enter a new one, or fault. -/
inductive Outcome (w : World) (ok : Prop) : Except Fault World → Prop
  | fails (hok : ok) : Outcome w ok (.ok w.fail)
  | writes {id : UInt64} {a : MemoryAllocation} {alloc : Option MemoryAllocation} {row : Row} {failed : Bool}
      (ha : w.manager.allocations id = some a) (hfits : ∀ b ∈ alloc, Fits w.manager.gpuCount b)
      (hok : ok ↔ row = share alloc ∧ (failed = true → alloc = some a)) :
      Outcome w ok (.ok (w.write id alloc row failed))
  | enters {a : MemoryAllocation} {row : Row} (hfits : Fits w.manager.gpuCount a)
      (hrow : row = share (some a) ↔ w.resources w.manager.nextAllocationId = fun _ => 0) (hok : ok ↔ FreshId w) :
      Outcome w ok (.ok (w.enter a row))
  | faults (hok : ¬ ok) : Outcome w ok (.error .outOfBounds)

section Outcome
variable {w : World} {id : UInt64} {a : MemoryAllocation} {row : Row} {ok : Prop} {result : Except Fault World}

theorem write_exact_iff (h : Exact w) (ha : w.manager.allocations id = some a) (alloc : Option MemoryAllocation)
    (failed : Bool) :
    Exact (w.write id alloc row failed) ↔ row = share alloc ∧ (failed = true → alloc = some a) := by
  have hbooked := forall_update_iff (R := fun row alloc => row = share alloc) h.booked id row alloc
  have hkept : update w.manager.allocations id alloc = w.manager.allocations ↔ alloc = some a := by
    rw [update_eq_self_iff, ha]
  exact ⟨fun hw => ⟨hbooked.mp hw.booked, fun hf => hkept.mp (hw.intact hf)⟩,
    fun hw => ⟨hbooked.mpr hw.1, fun hf => hkept.mpr (hw.2 hf)⟩⟩

theorem enter_exact_iff (h : Exact w) (hi : Shaped w) :
    Exact (w.enter a row) ↔ w.manager.nextAllocationId ≠ 0 ∧ row = share (some a) := by
  have hbooked := forall_update_iff (R := fun row alloc => row = share alloc) h.booked
    w.manager.nextAllocationId row (some a)
  constructor
  · intro hw
    refine ⟨fun hzero => ?_, hbooked.mp hw.booked⟩
    -- the caller is told of a failure
    have hkept := congrFun (hw.intact (beq_iff_eq.mpr hzero)) w.manager.nextAllocationId
    have hfound : (w.enter a row).manager.allocations w.manager.nextAllocationId = some a := update_self ..
    have hnone : (w.enter a row).before w.manager.nextAllocationId = none := hzero ▸ hi.zero
    rw [hfound, hnone] at hkept
    cases hkept
  · intro hw
    exact ⟨hbooked.mpr hw.2, fun hzero => absurd (beq_iff_eq.mp hzero) hw.1⟩

theorem Outcome.exact_iff (h : Exact w) (hi : Shaped w) (hr : Outcome w ok result) : Run.Safe Exact result ↔ ok := by
  cases hr with
  | fails hok => exact iff_of_true ⟨h.booked, fun _ => rfl⟩ hok
  | writes ha _ hok => exact (write_exact_iff h ha _ _).trans hok.symm
  | enters _ hrow hok =>
    rw [hok, FreshId, ← h.booked, ← hrow]
    exact enter_exact_iff h hi
  | faults hok => exact iff_of_false not_false hok

theorem Outcome.shaped (hi : Shaped w) (hr : Outcome w ok result) (hok : ok) : Run.Safe Shaped result := by
  cases hr with
  | fails => exact ⟨hi.fits, hi.zero⟩
  | @writes id a alloc row failed ha hfits _ =>
    refine ⟨fun other b hb => ?_, ?_⟩
    · obtain ⟨-, hb⟩ | ⟨-, hb⟩ := update_eq_iff.mp hb
      · exact hfits b hb
      · exact hi.fits other b hb
    · refine update_eq_iff.mpr (.inr ⟨fun hid => ?_, hi.zero⟩)
      rw [← hid, hi.zero] at ha
      cases ha
  | enters hfits _ hfresh =>
    refine ⟨fun other b hb => ?_, update_eq_iff.mpr (.inr ⟨Ne.symm (hfresh.mp hok).1, hi.zero⟩)⟩
    obtain ⟨-, rfl⟩ | ⟨-, hb⟩ := update_some hb
    · exact hfits
    · exact hi.fits other b hb
  | faults hnot => exact absurd hok hnot

end Outcome

section Calls
variable {w : World} {id : UInt64} {a : MemoryAllocation} {row : Row} {n : Nat}

section
variable (h : Fits n a)
include h

theorem Fits.mark (gpu : Nat) (populated : Bool) : Fits n (a.mark gpu populated) :=
  ⟨h.addresses, length_set.trans h.populated⟩

theorem Fits.entered : ∀ b ∈ some a, Fits n b := by
  intro b hb
  cases hb
  exact h

theorem Fits.prefer (gpu : UInt32) : Fits n {a with preferredGpu := gpu} :=
  ⟨h.addresses, h.populated⟩

/-- The address is written where there is a place for it, and nothing else changes. -/
theorem onGpu_cases (gpu : Nat) :
    (gpu < n ∧ ∃ a', a.onGpu gpu = .ok a' ∧ Fits n a' ∧ a'.populated = a.populated) ∨
      (¬ gpu < n ∧ a.onGpu gpu = .error .outOfBounds) := by
  unfold MemoryAllocation.onGpu
  rw [h.addresses]
  by_cases hlt : gpu < n
  · rw [if_pos hlt]
    exact .inl ⟨hlt, _, rfl, ⟨length_set.trans h.addresses, h.populated⟩, rfl⟩
  · rw [if_neg hlt]
    exact .inr ⟨hlt, rfl⟩

theorem inSystemRam_cases (ptr : UInt64) :
    (0 < n ∧ ∃ a', a.inSystemRam ptr = .ok a' ∧ Fits n a' ∧ a'.populated = a.populated) ∨
      (¬ 0 < n ∧ a.inSystemRam ptr = .error .outOfBounds) := by
  unfold MemoryAllocation.inSystemRam
  rw [h.addresses]
  by_cases hlt : 0 < n
  · rw [if_pos hlt]
    exact .inl ⟨hlt, _, rfl, ⟨length_set.trans h.addresses, h.populated⟩, rfl⟩
  · rw [if_neg hlt]
    exact .inr ⟨hlt, rfl⟩

end

theorem fits_new (m : MemoryManager) (size uva : UInt64) (flags preferredGpu : UInt32) :
    Fits m.gpuCount (m.newAllocation size uva flags preferredGpu) := ⟨length_replicate, length_replicate⟩

theorem new_unmarked (m : MemoryManager) (size uva : UInt64) (flags preferredGpu : UInt32) {gpu : Nat}
    (h : gpu < m.gpuCount) : (m.newAllocation size uva flags preferredGpu).populated[gpu]? = some false := by
  simp [MemoryManager.newAllocation, h]

theorem allocate_outcome (w : World) (c : Allocate) : Outcome w (CallOk w (.allocate c)) (w.allocate c) := by
  unfold World.allocate
  simp only [CallOk]
  cases c.uva with
  | none => exact .fails (by simp)
  | some uva =>
    have hshare := share_new w.manager c.size uva c.flags c.preferredGpu
    have hfits := fits_new w.manager c.size uva c.flags c.preferredGpu
    cases c.onGpu with
    | true =>
      dsimp only
      obtain ⟨hlt, a, heq, hfits', hkept⟩ | ⟨hlt, heq⟩ := onGpu_cases hfits
        (targetGpu w.manager.gpuCount c.registry c.preferredGpu c.strategy)
      · rw [heq]
        refine .enters ((hfits'.mark _ _).prefer _) ?_ (by simp [hlt])
        rw [acquire_marked_iff (new_unmarked w.manager c.size uva c.flags c.preferredGpu hlt) (hkept ▸ rfl), hshare]
      · rw [heq]
        exact .faults fun hok => hlt ((hok rfl).1 rfl).1
    | false =>
      cases c.systemRam with
      | none => exact .fails (by simp)
      | some ptr =>
        dsimp only
        obtain ⟨hlt, a, heq, hfits', hkept⟩ | ⟨hlt, heq⟩ := inSystemRam_cases hfits ptr
        · rw [heq]
          refine .enters hfits' ?_ (by simp [hlt])
          rw [share_congr hkept, hshare]
        · rw [heq]
          exact .faults fun hok => hlt ((hok rfl).2 rfl rfl).1

section
variable (h : Exact w)
include h

/-- `free` gives back all there is. -/
theorem free_outcome (id : UInt64) : Outcome w (CallOk w (.free id)) (.ok (w.free id)) := by
  unfold World.free
  cases ha : w.manager.allocations id with
  | none => exact .fails trivial
  | some a =>
    refine .writes ha nofun (iff_of_true trivial ⟨?_, nofun⟩)
    rw [freed_eq, h.booked, ha]
    funext gpu
    exact Int.sub_self _

variable (hi : Shaped w)
include hi

theorem rewrite_outcome (ha : w.manager.allocations id = some a) {ok : Prop} (hok : ok) :
    Outcome w ok (.ok (w.write id (some a) (w.resources id) false)) := by
  refine .writes ha (hi.fits id a ha).entered (iff_of_true hok ⟨?_, nofun⟩)
  rw [h.booked, ha]

theorem mapToGpu_outcome (id : UInt64) (gpuIndex : UInt32) (t : Transfer) :
    Outcome w (CallOk w (.mapToGpu id gpuIndex t)) (.ok (w.mapToGpu id gpuIndex t)) := by
  unfold World.mapToGpu
  simp only [CallOk]
  cases ha : w.manager.allocations id with
  | none => exact .fails (by simp)
  | some a =>
    simp only [Option.some.injEq, forall_eq']
    cases hp : a.populated[gpuIndex.toNat]? with
    | none => exact .fails (by simp)
    | some marked =>
      cases marked with
      | true => exact rewrite_outcome h hi ha (by simp)
      | false =>
        cases hok : t.ok with
        | false => exact .fails (by simp)
        | true =>
          refine .writes ha (hi.fits id a ha).entered (iff_of_false (by simp) fun hrow => ?_)
          -- the resource is there and the mark is not
          have hcount := congrFun hrow.1 gpuIndex.toNat
          rw [acquire_self, h.booked, ha] at hcount
          omega

theorem unmapFromGpu_outcome (id : UInt64) (gpuIndex : UInt32) :
    Outcome w (CallOk w (.unmapFromGpu id gpuIndex)) (.ok (w.unmapFromGpu id gpuIndex)) := by
  unfold World.unmapFromGpu
  cases ha : w.manager.allocations id with
  | none => exact .fails trivial
  | some a =>
    dsimp only
    cases hp : a.populated[gpuIndex.toNat]? with
    | none => exact .fails trivial
    | some marked =>
      cases marked with
      | false => exact rewrite_outcome h hi ha trivial
      | true =>
        refine .writes ha ((hi.fits id a ha).mark _ _).entered (iff_of_true trivial ⟨?_, nofun⟩)
        rw [release_mark_iff hp, h.booked, ha]

omit hi in
omit h in
/-- The loop of `replicate` books what it marks, and stays inside the vectors. -/
theorem replicateLoop_spec (transfer : UInt32 → Transfer) (targetGpus : List UInt32)
    (hfits : Fits n a) (hrow : row = share (some a)) :
    ∃ complete a' row', replicateLoop transfer a row targetGpus = .ok (complete, a', row') ∧
      row' = share (some a') ∧ Fits n a' := by
  induction targetGpus generalizing a row with
  | nil => exact ⟨true, a, row, rfl, hrow, hfits⟩
  | cons gpuIndex rest ih =>
    unfold replicateLoop
    by_cases hout : a.gpuAddresses.length ≤ gpuIndex.toNat
    · rw [if_pos hout]
      exact ih hfits hrow
    · rw [if_neg hout]
      cases hp : a.populated[gpuIndex.toNat]? with
      | none =>
        rw [getElem?_eq_none_iff, hfits.populated, ← hfits.addresses] at hp
        exact absurd hp hout
      | some marked =>
        cases marked with
        | true => exact ih hfits hrow
        | false =>
          dsimp only
          split
          · exact ih (hfits.mark gpuIndex.toNat true) ((acquire_mark_iff hp).mpr hrow)
          · exact ⟨false, a, row, rfl, hrow, hfits⟩

theorem replicate_outcome (id : UInt64) (targetGpus : List UInt32)
    (transfer : UInt32 → Transfer) :
    Outcome w (CallOk w (.replicate id targetGpus transfer)) (w.replicate id targetGpus transfer) := by
  unfold World.replicate
  simp only [CallOk]
  cases ha : w.manager.allocations id with
  | none => exact .fails (by simp)
  | some a =>
    have hrow : w.resources id = share (some a) := by rw [h.booked, ha]
    obtain ⟨complete, a', row, hloop, hbooked, hfits⟩ :=
      replicateLoop_spec transfer targetGpus (hi.fits id a ha) hrow
    have hok : (∀ b b' row', some a = some b →
        replicateLoop transfer b (w.resources id) targetGpus = .ok (false, b', row') → b' = b) ↔
        (complete = false → a' = a) := by
      constructor
      · rintro hall rfl
        exact hall a a' row rfl hloop
      · intro hkept b b' row' hb hfailed
        cases hb
        rw [hloop] at hfailed
        cases hfailed
        exact hkept rfl
    rw [hok]
    dsimp only
    rw [hloop]
    cases complete with
    | true =>
      have hfits' : Fits w.manager.gpuCount {a' with isReplicated := true, replicationTargets := targetGpus} :=
        ⟨hfits.addresses, hfits.populated⟩
      exact .writes ha hfits'.entered (iff_of_true nofun ⟨hbooked.trans (share_congr rfl), nofun⟩)
    | false =>
      -- the marks of a loop that gave up stay
      exact .writes ha hfits.entered (by simp [hbooked])

theorem migrate_outcome (id : UInt64) (targetGpu : UInt32) (onGpu : Bool) :
    Outcome w (CallOk w (.migrate id targetGpu onGpu)) (w.migrate id targetGpu onGpu) := by
  unfold World.migrate
  simp only [CallOk]
  cases ha : w.manager.allocations id with
  | none => exact .fails (by simp)
  | some a =>
    have hfits := hi.fits id a ha
    simp only [Option.some.injEq, forall_eq']
    by_cases hcurrent : a.populated[a.preferredGpu.toNat]? = some true
    · rw [if_neg (not_not_intro hcurrent)]
      cases onGpu with
      | false => exact .fails (by simp)
      | true =>
        obtain ⟨hlt, a', heq, hfits', hkept⟩ | ⟨hlt, heq⟩ := onGpu_cases hfits targetGpu.toNat
        · rw [heq]
          refine .writes ha (((hfits'.mark _ _).mark _ _).prefer _).entered ?_
          rw [h.booked, ha, move_iff hcurrent (hfits.populated ▸ hlt) (hkept ▸ rfl), UInt32.toNat_inj]
          simp [hcurrent, hlt]
        · rw [heq]
          exact .faults fun hok => hlt (hok hcurrent rfl).1
    · rw [if_pos hcurrent]
      exact .fails fun hmarked => absurd hmarked hcurrent

end

/-- One GPU of `importDmaBuf` adds a resource and a mark, or neither. -/
theorem importOn_cases (imports : Nat → Import) (a : MemoryAllocation) (row : Row) (i : Nat) :
    ∃ a', a'.gpuAddresses = a.gpuAddresses ∧
      ((a'.populated = a.populated.set i true ∧ importOn imports (a, row) i = (a', row.acquire i)) ∨
        (a'.populated = a.populated ∧ importOn imports (a, row) i = (a', row))) := by
  unfold importOn
  split
  · exact ⟨_, by rfl, .inl ⟨by rfl, rfl⟩⟩
  · exact ⟨_, by rfl, .inr ⟨by rfl, rfl⟩⟩

theorem import_fold_spec (row : Row) (imports : Nat → Import) (gpus : List Nat) (hfits : Fits n a) (hnodup : gpus.Nodup)
    (hunmarked : ∀ i ∈ gpus, a.populated[i]? = some false) :
    Fits n (gpus.foldl (importOn imports) (a, row)).1 ∧
      ((gpus.foldl (importOn imports) (a, row)).2 = share (some (gpus.foldl (importOn imports) (a, row)).1) ↔
        row = share (some a)) := by
  induction gpus generalizing a row with
  | nil => exact ⟨hfits, Iff.rfl⟩
  | cons i rest ih =>
    obtain ⟨hi, hrest⟩ := nodup_cons.mp hnodup
    have hlater : ∀ j ∈ rest, a.populated[j]? = some false := fun j hj => hunmarked j (mem_cons_of_mem i hj)
    rw [foldl_cons]
    obtain ⟨a', haddresses, ⟨hmarked, heq⟩ | ⟨hsame, heq⟩⟩ := importOn_cases imports a row i
    · rw [heq, ← acquire_marked_iff (hunmarked i mem_cons_self) hmarked]
      refine ih _ ⟨haddresses ▸ hfits.addresses, hmarked ▸ length_set.trans hfits.populated⟩ hrest fun j hj => ?_
      have hne : i ≠ j := fun hij => hi (hij ▸ hj)
      rw [hmarked, getElem?_set_ne hne]
      exact hlater j hj
    · rw [heq, ← share_congr hsame]
      exact ih _ ⟨haddresses ▸ hfits.addresses, hsame ▸ hfits.populated⟩ hrest fun j hj => hsame ▸ hlater j hj

theorem importDmaBuf_outcome (w : World) (size : UInt64) (uva : Option UInt64) (imports : Nat → Import) :
    Outcome w (CallOk w (.importDmaBuf size uva imports)) (.ok (w.importDmaBuf size uva imports)) := by
  unfold World.importDmaBuf
  simp only [CallOk]
  cases uva with
  | none => exact .fails (by simp)
  | some uva =>
    have hany : ((∃ i < w.manager.gpuCount, (imports i).imported = true) ∨ w.manager.gpuCount = 0) ↔
        ¬ ((!(range w.manager.gpuCount).any fun i => (imports i).imported) = true ∧ 0 < w.manager.gpuCount) := by
      rw [Decidable.not_and_iff_or_not, Nat.pos_iff_ne_zero, not_not]
      simp
    obtain ⟨hfits, hrow⟩ := import_fold_spec (w.resources w.manager.nextAllocationId) imports _
      (fits_new w.manager size uva importFlags 0xFFFFFFFF) nodup_range
      fun i hi => new_unmarked _ _ _ _ _ (mem_range.mp hi)
    rw [hany]
    dsimp only
    split
    · next hnone => exact .fails fun _ hsome => absurd hnone hsome
    · next hsome =>
      refine .enters hfits ?_ ⟨fun hok => hok rfl hsome, fun hfresh _ _ => hfresh⟩
      rw [hrow, share_new]

theorem call_outcome (h : Exact w) (hi : Shaped w) (c : Call) : Outcome w (CallOk w c) (w.call c) := by
  cases c with
  | allocate c => exact allocate_outcome w c
  | free id => exact free_outcome h id
  | mapToGpu id gpuIndex t => exact mapToGpu_outcome h hi id gpuIndex t
  | unmapFromGpu id gpuIndex => exact unmapFromGpu_outcome h hi id gpuIndex
  | replicate id targetGpus transfer => exact replicate_outcome h hi id targetGpus transfer
  | migrate id targetGpu onGpu => exact migrate_outcome h hi id targetGpu onGpu
  | importDmaBuf size uva imports => exact importDmaBuf_outcome w size uva imports

end Calls

theorem shaped_initial (gpuCount : Nat) : Shaped (.initial gpuCount) :=
  ⟨fun id a h => by simp [World.initial] at h, rfl⟩

theorem exact_initial (gpuCount : Nat) : Exact (.initial gpuCount) := ⟨fun _ => rfl, nofun⟩

end Mvgal.Runtime.Memory
