import Mvgal.Lib.KeyMap
import Mvgal.Lib.Run
import Mvgal.Types

/-! The memory tracker of the Rust runtime (`memory_safety.rs`).

`allocate` hands out addresses one after the other. It moves the next address, the total
and the peak first, and then makes an address of the base, which can fail: it does for
the base 0, where every tracker begins. All sums are of 64 bits and wrap.

`tracker_exact_iff` says which calls keep the books of a tracker. On a new one those are
the allocations of no bytes: the first one of any size fails and is counted.

`access_inside_iff` is about `validate_memory_access`, which compares two ends that wrap. -/
namespace Mvgal.Runtime.Tracker
open KeyMap

def gpuMemoryAlignment : UInt64 := 256

def isAligned (address alignment : UInt64) : Bool := address % alignment = 0

def alignUp (value alignment : UInt64) : UInt64 := (value + alignment - 1) / alignment * alignment

inductive MemoryType where
  | gpuDeviceLocal
  | gpuHostVisible
  | systemRam
  | unifiedMemory
  | dmaBuf
deriving DecidableEq, Repr

structure GpuMemoryRegion where
  base : UInt64
  size : UInt64
  memoryType : MemoryType
  gpuaffinity : List Bool
  refcount : Nat
  mappable : Bool
deriving DecidableEq

def GpuMemoryRegion.new (base size : UInt64) (memoryType : MemoryType) (numGpus : Nat) : GpuMemoryRegion :=
  ⟨base, size, memoryType, List.replicate numGpus true, 1, false⟩

def GpuMemoryRegion.isAccessibleBy (r : GpuMemoryRegion) (gpuIndex : Nat) : Bool :=
  r.gpuaffinity[gpuIndex]?.getD false

/-- `GpuMemoryAddress`: null, or made by `new`. -/
@[ext] structure GpuMemoryAddress where
  get : UInt64
  aligned : isAligned get gpuMemoryAlignment = true
deriving DecidableEq

def GpuMemoryAddress.new (address : UInt64) : Except MvgalError GpuMemoryAddress :=
  if address = 0 then .error .invalidArgument
  else if h : isAligned address gpuMemoryAlignment = true then .ok ⟨address, h⟩
  else .error .invalidArgument

structure GpuMemoryTracker where
  allocations : KeyMap GpuMemoryAddress GpuMemoryRegion
  nextAddress : UInt64
  totalCommitted : UInt64
  peakUsage : UInt64

namespace GpuMemoryTracker

def new : GpuMemoryTracker := ⟨∅, 0, 0, 0⟩

def advanced (t : GpuMemoryTracker) (alignedSize : UInt64) : GpuMemoryTracker :=
  { t with
    nextAddress := t.nextAddress + alignedSize
    totalCommitted := t.totalCommitted + alignedSize
    peakUsage := if alignedSize + t.nextAddress > t.peakUsage then alignedSize + t.nextAddress else t.peakUsage }

def inserted (t : GpuMemoryTracker) (address : GpuMemoryAddress) (region : GpuMemoryRegion) : GpuMemoryTracker :=
  {t with allocations := t.allocations.insert address region}

def allocate (t : GpuMemoryTracker) (size : UInt64) (memoryType : MemoryType) (numGpus : Nat) :
    Except MvgalError GpuMemoryRegion × GpuMemoryTracker :=
  let alignedSize := alignUp size gpuMemoryAlignment
  let base := t.nextAddress
  let t := t.advanced alignedSize
  let region := GpuMemoryRegion.new base alignedSize memoryType numGpus
  match GpuMemoryAddress.new base with
  | .error e => (.error e, t)
  | .ok address => (.ok region, t.inserted address region)

def free (t : GpuMemoryTracker) (address : GpuMemoryAddress) : Except MvgalError Unit × GpuMemoryTracker :=
  match t.allocations.lookup address with
  | none => (.error .notFound, t)
  | some region =>
    (.ok (), {t with
      allocations := t.allocations.erase address
      totalCommitted := t.totalCommitted - region.size})

def getRegion (t : GpuMemoryTracker) (address : GpuMemoryAddress) : Option GpuMemoryRegion :=
  t.allocations.lookup address

def isValidAddress (t : GpuMemoryTracker) (address : GpuMemoryAddress) : Bool := (t.getRegion address).isSome

end GpuMemoryTracker

/-- `validate_memory_access`, which does not look at the kind of the access. -/
def validateMemoryAccess (gpuIndex : UInt32) (address : GpuMemoryAddress) (size : UInt64)
    (tracker : GpuMemoryTracker) : Except MvgalError Unit :=
  if tracker.isValidAddress address = false then .error .invalidArgument
  else
    match tracker.getRegion address with
    | none => .error .notFound
    | some region =>
      if region.isAccessibleBy gpuIndex.toNat = false then .error .accessDenied
      else if address.get + size > region.base + region.size then .error .invalidArgument
      else .ok ()

inductive Call where
  | allocate (size : UInt64) (memoryType : MemoryType) (numGpus : Nat)
  | free (address : GpuMemoryAddress)

/-- A tracker; after a call that returned an error, also the tracker before it. -/
structure World where
  tracker : GpuMemoryTracker
  failed : Option GpuMemoryTracker

def returned {α : Type} (before : GpuMemoryTracker) : Except MvgalError α × GpuMemoryTracker → World
  | (.error _, t) => ⟨t, some before⟩
  | (.ok _, t) => ⟨t, none⟩

def call (w : World) : Call → Option World
  | .allocate size memoryType numGpus => some (returned w.tracker (w.tracker.allocate size memoryType numGpus))
  | .free address => some (returned w.tracker (w.tracker.free address))

def GpuMemoryRegion.Covers (r : GpuMemoryRegion) (x : Nat) : Prop :=
  r.base.toNat ≤ x ∧ x < r.base.toNat + r.size.toNat

def GpuMemoryRegion.Apart (r s : GpuMemoryRegion) : Prop := ∀ x, r.Covers x → ¬ s.Covers x

def GpuMemoryRegion.bytes (r : GpuMemoryRegion) : Nat := r.size.toNat

/-- The books of a tracker are right: the total is that of the live regions, which are apart
and aligned. -/
structure Consistent (t : GpuMemoryTracker) : Prop where
  total : t.totalCommitted.toNat = t.allocations.total GpuMemoryRegion.bytes
  apart : ∀ a b r s, t.allocations.lookup a = some r → t.allocations.lookup b = some s → a ≠ b → r.Apart s
  aligned : ∀ a r, t.allocations.lookup a = some r → r.base.toNat % 256 = 0 ∧ r.size.toNat % 256 = 0

/-- The books are right, and a call that returned an error has changed nothing. -/
structure Exact (w : World) : Prop where
  consistent : Consistent w.tracker
  unchanged : ∀ t, w.failed = some t → w.tracker = t

/-- The next address is aligned, and the regions are stored under their bases. -/
structure Based (t : GpuMemoryTracker) : Prop where
  next : t.nextAddress.toNat % 256 = 0
  base : ∀ a r, t.allocations.lookup a = some r → r.base = a.get

/-- An allocation of no bytes at the address 0; or elsewhere, one with room in the total,
whose region meets no live one and replaces at most one of no bytes. -/
def CallOk (w : World) : Call → Prop
  | .allocate size memoryType numGpus =>
    let t := w.tracker
    let alignedSize := alignUp size gpuMemoryAlignment
    if t.nextAddress = 0 then alignedSize = 0
    else
      t.totalCommitted.toNat + alignedSize.toNat < 2 ^ 64 ∧ ∀ a r, t.allocations.lookup a = some r →
        r.Apart (.new t.nextAddress alignedSize memoryType numGpus) ∧ (r.base = t.nextAddress → r.size = 0)
  | .free _ => True

theorem alignUp_mod (size : UInt64) : (alignUp size gpuMemoryAlignment).toNat % 256 = 0 := by
  have h256 : gpuMemoryAlignment.toNat = 256 := rfl
  rw [alignUp, UInt64.toNat_mul, UInt64.toNat_div, h256]
  omega

theorem add_mod {a b : UInt64} (ha : a.toNat % 256 = 0) (hb : b.toNat % 256 = 0) : (a + b).toNat % 256 = 0 := by
  rw [UInt64.toNat_add]
  omega

theorem isAligned_iff (a : UInt64) : isAligned a gpuMemoryAlignment = true ↔ a.toNat % 256 = 0 := by
  have h256 : gpuMemoryAlignment.toNat = 256 := rfl
  rw [isAligned, decide_eq_true_eq, ← UInt64.toNat_inj, UInt64.toNat_mod, h256]
  rfl

variable {t : GpuMemoryTracker} {size : UInt64} {memoryType : MemoryType} {numGpus : Nat}

theorem allocate_at_zero (h : t.nextAddress = 0) :
    t.allocate size memoryType numGpus = (.error .invalidArgument, t.advanced (alignUp size gpuMemoryAlignment)) := by
  simp [GpuMemoryTracker.allocate, GpuMemoryAddress.new, h]

theorem allocate_elsewhere (ht : Based t) (h : t.nextAddress ≠ 0) (size : UInt64) (memoryType : MemoryType)
    (numGpus : Nat) : ∃ address : GpuMemoryAddress, address.get = t.nextAddress ∧
      t.allocate size memoryType numGpus =
        (.ok (.new t.nextAddress (alignUp size gpuMemoryAlignment) memoryType numGpus),
          (t.advanced (alignUp size gpuMemoryAlignment)).inserted address
            (.new t.nextAddress (alignUp size gpuMemoryAlignment) memoryType numGpus)) := by
  have haligned := (isAligned_iff t.nextAddress).mpr ht.next
  refine ⟨⟨t.nextAddress, haligned⟩, rfl, ?_⟩
  simp only [GpuMemoryTracker.allocate, GpuMemoryAddress.new, h, if_false, haligned, dite_true]

/-- At the address 0 nothing is counted for an allocation of no bytes only. -/
theorem advanced_eq_iff (h : t.nextAddress = 0) (alignedSize : UInt64) :
    t.advanced alignedSize = t ↔ alignedSize = 0 := by
  constructor
  · intro heq
    have hnext := congrArg GpuMemoryTracker.nextAddress heq
    simpa [GpuMemoryTracker.advanced, h] using hnext
  · intro hzero
    cases t
    simp_all [GpuMemoryTracker.advanced]

theorem based_advanced (ht : Based t) (alignedSize : UInt64) (ha : alignedSize.toNat % 256 = 0) :
    Based (t.advanced alignedSize) :=
  ⟨add_mod ht.next ha, ht.base⟩

theorem based_insert (ht : Based t) {address : GpuMemoryAddress} (haddr : address.get = t.nextAddress)
    {alignedSize : UInt64} (ha : alignedSize.toNat % 256 = 0) :
    Based ((t.advanced alignedSize).inserted address (.new t.nextAddress alignedSize memoryType numGpus)) := by
  refine ⟨add_mod ht.next ha, fun a r hr => ?_⟩
  obtain ⟨rfl, rfl⟩ | ⟨-, hr⟩ := lookup_insert_eq hr
  · exact haddr.symm
  · exact ht.base a r hr

/-- The total grows by what the map gains if it does not wrap and nothing is replaced. -/
theorem total_insert_iff (h : Consistent t) (address : GpuMemoryAddress) (region : GpuMemoryRegion) :
    (t.totalCommitted + region.size).toNat =
        KeyMap.total GpuMemoryRegion.bytes (t.allocations.insert address region) ↔
      t.totalCommitted.toNat + region.size.toNat < 2 ^ 64 ∧
        ∀ r, t.allocations.lookup address = some r → r.size = 0 := by
  have htotal := h.total
  rw [UInt64.toNat_add]
  cases hold : t.allocations.lookup address with
  | none =>
    rw [total_insert _ (Finmap.lookup_eq_none.mp hold)]
    simp only [GpuMemoryRegion.bytes] at htotal ⊢
    constructor
    · intro heq
      exact ⟨by omega, fun r hr => nomatch hr⟩
    · rintro ⟨hlt, -⟩
      omega
  | some r =>
    have hsum := total_insert_of_lookup (y := region) GpuMemoryRegion.bytes hold
    have hr := r.size.toNat_lt
    simp only [GpuMemoryRegion.bytes] at htotal hsum ⊢
    constructor
    · intro heq
      refine ⟨by omega, fun r' hr' => ?_⟩
      cases hr'
      exact UInt64.toNat_inj.mp (show r.size.toNat = 0 by omega)
    · rintro ⟨hlt, hzero⟩
      have hsize : r.size.toNat = 0 := by
        rw [hzero r rfl]
        rfl
      omega

theorem apart_of_empty {r s : GpuMemoryRegion} (h : r.size = 0) : r.Apart s := by
  intro x hx
  have hsize : r.size.toNat = 0 := by
    rw [h]
    rfl
  have := hx.1
  have := hx.2
  omega

theorem GpuMemoryRegion.Apart.symm {r s : GpuMemoryRegion} (h : r.Apart s) : s.Apart r :=
  fun x hs hr => h x hr hs

theorem consistent_insert_iff (ht : Based t) (h : Consistent t) {address : GpuMemoryAddress}
    (haddr : address.get = t.nextAddress) {alignedSize : UInt64} (ha : alignedSize.toNat % 256 = 0) :
    Consistent ((t.advanced alignedSize).inserted address (.new t.nextAddress alignedSize memoryType numGpus)) ↔
      t.totalCommitted.toNat + alignedSize.toNat < 2 ^ 64 ∧ ∀ a r, t.allocations.lookup a = some r →
        r.Apart (.new t.nextAddress alignedSize memoryType numGpus) ∧ (r.base = t.nextAddress → r.size = 0) := by
  have htotal := total_insert_iff h address (.new t.nextAddress alignedSize memoryType numGpus)
  -- The region at the new base, if there is one, is the one that is replaced.
  have hsame (a : GpuMemoryAddress) (r : GpuMemoryRegion) (hr : t.allocations.lookup a = some r) :
      r.base = t.nextAddress ↔ a = address := by
    rw [ht.base a r hr, ← haddr]
    exact ⟨GpuMemoryAddress.ext, fun heq => heq ▸ rfl⟩
  constructor
  · intro h'
    obtain ⟨hlt, hzero⟩ := htotal.mp h'.total
    refine ⟨hlt, fun a r hr => ⟨?_, fun hbase => ?_⟩⟩
    · by_cases heq : a = address
      · exact apart_of_empty (hzero r (heq ▸ hr))
      · refine h'.apart a address r _ ?_ (Finmap.lookup_insert _) heq
        exact (Finmap.lookup_insert_of_ne t.allocations heq).trans hr
    · exact hzero r ((hsame a r hr).mp hbase ▸ hr)
  · rintro ⟨hlt, hall⟩
    refine ⟨htotal.mpr ⟨hlt, fun r hr => (hall address r hr).2 ((hsame address r hr).mpr rfl)⟩,
      fun a b r s hr hs hne => ?_, fun a r hr => ?_⟩
    · obtain ⟨ha', rfl⟩ | ⟨-, hr⟩ := lookup_insert_eq hr
      · obtain ⟨hb, -⟩ | ⟨-, hs⟩ := lookup_insert_eq hs
        · exact absurd (ha'.trans hb.symm) hne
        · exact (hall b s hs).1.symm
      · obtain ⟨-, rfl⟩ | ⟨-, hs⟩ := lookup_insert_eq hs
        · exact (hall a r hr).1
        · exact h.apart a b r s hr hs hne
    · obtain ⟨-, rfl⟩ | ⟨-, hr⟩ := lookup_insert_eq hr
      · exact ⟨ht.next, ha⟩
      · exact h.aligned a r hr

theorem exact_allocate_iff (ht : Based t) (h : Consistent t) (failed : Option GpuMemoryTracker) :
    Exact (returned t (t.allocate size memoryType numGpus)) ↔
      CallOk ⟨t, failed⟩ (.allocate size memoryType numGpus) := by
  by_cases hzero : t.nextAddress = 0
  · simp only [allocate_at_zero hzero, returned, CallOk, hzero, if_true]
    constructor
    · intro h'
      exact (advanced_eq_iff hzero _).mp (h'.unchanged t rfl)
    · intro hok
      have heq := (advanced_eq_iff hzero _).mpr hok
      refine ⟨heq.symm ▸ h, fun t' ht' => ?_⟩
      rw [← Option.some.inj ht']
      exact heq
  · obtain ⟨address, haddr, hcall⟩ := allocate_elsewhere ht hzero size memoryType numGpus
    simp only [hcall, returned, CallOk, hzero, if_false]
    rw [← consistent_insert_iff ht h haddr (alignUp_mod size)]
    exact ⟨fun h' => h'.consistent, fun h' => ⟨h', fun t' ht' => nomatch ht'⟩⟩

theorem based_allocate (ht : Based t) : Based (t.allocate size memoryType numGpus).2 := by
  by_cases hzero : t.nextAddress = 0
  · rw [allocate_at_zero hzero]
    exact based_advanced ht _ (alignUp_mod size)
  · obtain ⟨address, haddr, hcall⟩ := allocate_elsewhere ht hzero size memoryType numGpus
    rw [hcall]
    exact based_insert ht haddr (alignUp_mod size)

theorem based_free (ht : Based t) (address : GpuMemoryAddress) : Based (t.free address).2 := by
  unfold GpuMemoryTracker.free
  split
  · exact ht
  · exact ⟨ht.next, fun a r hr => ht.base a r (lookup_erase_eq hr).2⟩

theorem exact_free (h : Consistent t) (address : GpuMemoryAddress) : Exact (returned t (t.free address)) := by
  unfold GpuMemoryTracker.free
  split
  · exact ⟨h, fun t' ht' => Option.some.inj ht'⟩
  · rename_i region hregion
    have herase := total_erase GpuMemoryRegion.bytes hregion
    have htotal := h.total
    refine ⟨⟨?_, fun a b r s hr hs => ?_, fun a r hr => ?_⟩, fun t' ht' => absurd ht' (by simp [returned])⟩
    · show (t.totalCommitted - region.size).toNat = total _ (t.allocations.erase address)
      have hle : region.size ≤ t.totalCommitted := UInt64.le_iff_toNat_le.mpr (by
        simp only [GpuMemoryRegion.bytes] at herase htotal
        omega)
      rw [UInt64.toNat_sub_of_le _ _ hle]
      simp only [GpuMemoryRegion.bytes] at herase htotal ⊢
      omega
    · exact h.apart a b r s (lookup_erase_eq hr).2 (lookup_erase_eq hs).2
    · exact h.aligned a r (lookup_erase_eq hr).2

structure Sound (t : GpuMemoryTracker) : Prop where
  consistent : Consistent t
  based : Based t

theorem returned_tracker {α : Type} (before : GpuMemoryTracker) (r : Except MvgalError α × GpuMemoryTracker) :
    (returned before r).tracker = r.2 := by
  obtain ⟨_ | _, t⟩ := r <;> rfl

/-- **The books of a tracker.** Along any sequence of allocations and frees on a tracker in
order, the total is that of the live regions, these are apart and aligned, and errors
change nothing, exactly when each allocation is one of no bytes at the address 0, or one
elsewhere that fits the total and meets no live region. -/
theorem tracker_exact_iff (ht : Sound t) (calls : List Call) :
    Run.Along call Exact ⟨t, none⟩ calls ↔ Run.Admitted call CallOk ⟨t, none⟩ calls := by
  refine Run.along_iff_admitted (I := fun w => Based w.tracker) (fun w a w' hb h hrun => ?_)
    (fun w a w' hb h hrun _ => ?_) ht.based ⟨ht.consistent, fun t' ht' => nomatch ht'⟩ calls
  · cases a with
    | allocate size memoryType numGpus =>
      cases hrun
      exact exact_allocate_iff hb h.consistent w.failed
    | free address =>
      cases hrun
      exact iff_of_true (exact_free h.consistent address) trivial
  · cases a with
    | allocate size memoryType numGpus =>
      cases hrun
      rw [returned_tracker]
      exact based_allocate hb
    | free address =>
      cases hrun
      rw [returned_tracker]
      exact based_free hb address

def emptyAt (next : UInt64) : GpuMemoryTracker := ⟨∅, next, 0, 0⟩

theorem sound_emptyAt {next : UInt64} (h : next.toNat % 256 = 0) : Sound (emptyAt next) := by
  have hnone (a : GpuMemoryAddress) (r : GpuMemoryRegion) : (emptyAt next).allocations.lookup a ≠ some r := by
    simp [emptyAt]
  exact ⟨⟨rfl, fun a b r s hr => absurd hr (hnone a r), fun a r hr => absurd hr (hnone a r)⟩, h,
    fun a r hr => absurd hr (hnone a r)⟩

/-- One allocation and its free, on a tracker that does not begin at 0. -/
theorem tracker_exact_from_256 : Sound (emptyAt 256) ∧
      Run.Along call Exact ⟨emptyAt 256, none⟩ [.allocate 100 .systemRam 1, .free ⟨256, rfl⟩] := by
  refine ⟨sound_emptyAt rfl, (tracker_exact_iff (sound_emptyAt rfl) _).mpr fun w hw => ⟨?_, fun w' _ => ⟨trivial, trivial⟩⟩⟩
  exact ⟨by decide, fun a r hr => absurd hr (by simp [emptyAt])⟩

/-- The first allocation on a new tracker fails, and has moved the next address. -/
theorem first_allocation_counted :
    ¬ Run.Along call Exact ⟨.new, none⟩ [.allocate 100 .systemRam 1] := by
  intro h
  have hsame := (h.final rfl).unchanged .new rfl
  exact absurd (congrArg GpuMemoryTracker.nextAddress hsame) (by decide)

/-- On a new tracker, the calls that keep the books are the frees and the allocations of no
bytes: none of them leaves the address 0. -/
theorem admitted_new_iff (calls : List Call) (failed : Option GpuMemoryTracker) :
    Run.Admitted call CallOk ⟨.new, failed⟩ calls ↔
      ∀ size memoryType numGpus, .allocate size memoryType numGpus ∈ calls → alignUp size gpuMemoryAlignment = 0 := by
  induction calls generalizing failed with
  | nil => simp [Run.Admitted]
  | cons c calls ih =>
    cases c with
    | allocate size memoryType numGpus =>
      have hstep : call ⟨.new, failed⟩ (.allocate size memoryType numGpus) =
          some ⟨GpuMemoryTracker.new.advanced (alignUp size gpuMemoryAlignment), some .new⟩ := by
        rw [call, allocate_at_zero rfl, returned]
      constructor
      · intro h
        obtain ⟨hok, hrest⟩ := h _ hstep
        have hzero : alignUp size gpuMemoryAlignment = 0 := hok
        rw [hzero, (advanced_eq_iff rfl 0).mpr rfl, ih] at hrest
        intro size' memoryType' numGpus' hmem
        obtain heq | hmem := List.mem_cons.mp hmem
        · cases heq
          exact hzero
        · exact hrest size' memoryType' numGpus' hmem
      · intro hall w' hw'
        have hzero := hall size memoryType numGpus List.mem_cons_self
        cases hstep.symm.trans hw'
        refine ⟨hzero, ?_⟩
        rw [hzero, (advanced_eq_iff rfl 0).mpr rfl, ih]
        exact fun size' memoryType' numGpus' hmem => hall _ _ _ (List.mem_cons_of_mem _ hmem)
    | free address =>
      have hstep : call ⟨.new, failed⟩ (.free address) = some ⟨.new, some .new⟩ := rfl
      simp only [Run.Admitted, hstep, Option.some.injEq, forall_eq', ih, CallOk, true_and, List.mem_cons,
        reduceCtorEq, false_or]

def GpuMemoryTracker.after (t : GpuMemoryTracker) : Call → GpuMemoryTracker
  | .allocate size memoryType numGpus => (t.allocate size memoryType numGpus).2
  | .free address => (t.free address).2

/-- The tracker after some calls on a new one. -/
def trackerAfter (calls : List Call) : GpuMemoryTracker := calls.foldl .after .new

theorem based_after (calls : List Call) (ht : Based t) : Based (calls.foldl .after t) := by
  induction calls generalizing t with
  | nil => exact ht
  | cons c calls ih =>
    refine ih ?_
    cases c with
    | allocate size memoryType numGpus => exact based_allocate ht
    | free address => exact based_free ht address

/-- The bytes of the access lie in the live region at its address, which is open to the GPU. -/
def AccessInside (gpuIndex : UInt32) (address : GpuMemoryAddress) (size : UInt64) (t : GpuMemoryTracker) : Prop :=
  ∃ r, t.getRegion address = some r ∧ r.base = address.get ∧ r.isAccessibleBy gpuIndex.toNat = true ∧
    address.get.toNat + size.toNat ≤ r.base.toNat + r.size.toNat

/-- The comparison of two ends that wrap is wrong when only the first of them does. -/
theorem wrapped_le_iff (base size regionSize : UInt64) :
    (base + size ≤ base + regionSize → size.toNat ≤ regionSize.toNat) ↔
      ¬(base.toNat + regionSize.toNat < 2 ^ 64 ∧ 2 ^ 64 ≤ base.toNat + size.toNat) := by
  have hbase := base.toNat_lt
  have hsize := size.toNat_lt
  rw [UInt64.le_iff_toNat_le, UInt64.toNat_add, UInt64.toNat_add]
  omega

/-- **The accesses let through.** After any calls on a new tracker, a valid access lies in the live
region at its address, which is open to the GPU. This fails exactly for an access that ends at 2^64
or later in an open region that ends below. -/
theorem access_inside_iff (calls : List Call) (gpuIndex : UInt32) (address : GpuMemoryAddress) (size : UInt64) :
    (validateMemoryAccess gpuIndex address size (trackerAfter calls) = .ok () →
        AccessInside gpuIndex address size (trackerAfter calls)) ↔
      ∀ r, (trackerAfter calls).getRegion address = some r → r.isAccessibleBy gpuIndex.toNat = true →
        ¬(r.base.toNat + r.size.toNat < 2 ^ 64 ∧ 2 ^ 64 ≤ address.get.toNat + size.toNat) := by
  have hbased : Based (trackerAfter calls) := based_after calls (sound_emptyAt rfl).based
  unfold validateMemoryAccess AccessInside GpuMemoryTracker.isValidAddress
  cases hr : (trackerAfter calls).getRegion address with
  | none => simp
  | some r =>
    have hwrap := wrapped_le_iff address.get size r.size
    cases haccess : r.isAccessibleBy gpuIndex.toNat with
    | false => simp [haccess]
    | true => simpa [hbased.base address r hr, haccess] using hwrap

/-- The second allocation on a new tracker has 256 bytes at 256. An access there may have 2^64 - 256. -/
theorem access_past_the_end_valid :
    let t := trackerAfter [.allocate 100 .systemRam 1, .allocate 100 .systemRam 1]
    validateMemoryAccess 0 ⟨256, rfl⟩ (0 - 256) t = .ok () ∧ ¬ AccessInside 0 ⟨256, rfl⟩ (0 - 256) t := by
  refine ⟨by decide, ?_⟩
  rintro ⟨r, hr, -, -, hle⟩
  cases hr
  exact absurd hle (by decide)

end Mvgal.Runtime.Tracker
