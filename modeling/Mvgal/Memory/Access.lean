import Mvgal.Memory.Release

/-! Access to the memory of buffers (`memory.c`, `dmabuf.c`): mapping, reading,
writing and copying.

Offsets are added to pointers, and every range that is read or written is
checked against the blocks that are live. The bounds checks of the source add
an offset and a size in 64-bit arithmetic. -/
namespace Mvgal.Memory
open Blocks (Ptr Space Fault)

variable (sys : System)

def Buffer.mapAt (x : Buffer) (p : Ptr) : Buffer := {x with hostPtr := some p, mapped := true}

def Buffer.unmapped (x : Buffer) : Buffer := {x with hostPtr := none, mapped := false}

/-- `mvgal_memory_map`, on the structure and the address space. A buffer that is
mapped already is not mapped again. -/
def Buffer.map (s : Space) (x : Buffer) (offset size : UInt64) :
    Except Error (Option Ptr) × Buffer × Space :=
  if x.mapped then (.ok (x.hostPtr.map (·.add offset.toNat)), x, s)
  else
    match x.dmabufFd with
    | some fd =>
      match mmap sys s fd (if size = 0 then x.size else size) offset with
      | none => (.error .memory, x, s)
      | some (p, s) => (.ok (some p), x.mapAt p, s)
    | none =>
      if !hasAny x.flags flagHostValid then (.error .notSupported, x, s)
      else (.ok (x.hostPtr.map (·.add offset.toNat)), x, s)

/-- `mvgal_memory_unmap`. Only memory the buffer owns is unmapped; the pointer is
cleared in any case. -/
def Buffer.unmap (s : Space) (x : Buffer) : Buffer × Space :=
  if x.mapped then (x.unmapped, x.unmapOwned s) else (x, s)

def State.put (m : State) (b : Nat) (x : Buffer) (s : Space) : State :=
  {m with space := s, store := m.store.modify b fun _ => x}

def memoryMap (m : State) (b : Nat) (offset size : UInt64) :
    Except Fault (Except Error (Option Ptr) × State) :=
  (m.read b).map fun x =>
    let r := x.map sys m.space offset size
    (r.1, m.put b r.2.1 r.2.2)

def memoryUnmap (m : State) (b : Nat) : Except Fault State :=
  (m.read b).map fun x => m.put b (x.unmap m.space).1 (x.unmap m.space).2

def Buffer.ensureMapped (s : Space) (x : Buffer) (offset size : UInt64) :
    Except Error Unit × Buffer × Space :=
  if !x.mapped && x.hostPtr.isNone then
    let r := x.map sys s offset size
    (r.1.map fun _ => (), r.2)
  else (.ok (), x, s)

def memoryWrite (m : State) (b : Nat) (offset size : UInt64) (data : Nat → UInt8) :
    Except Fault (Error × State) :=
  if size = 0 then .ok (.invalidArgument, m)
  else
    (m.read b).bind fun x =>
    match x.ensureMapped sys m.space offset size with
    | (.error e, x, s) => .ok (e, m.put b x s)
    | (.ok (), x, s) =>
      if x.size < offset + size then .ok (.invalidArgument, m.put b x s)
      else
        (s.store (x.hostPtr.map (·.add offset.toNat)) size.toNat data).map fun s =>
          (.success, m.put b {x with bytesWritten := x.bytesWritten + size} s)

/-- `mvgal_memory_read`, with the bytes it returns. -/
def memoryRead (m : State) (b : Nat) (offset size : UInt64) :
    Except Fault (Except Error (Nat → UInt8) × State) :=
  if size = 0 then .ok (.error .invalidArgument, m)
  else
    (m.read b).bind fun x =>
    match x.ensureMapped sys m.space offset size with
    | (.error e, x, s) => .ok (.error e, m.put b x s)
    | (.ok (), x, s) =>
      if x.size < offset + size then .ok (.error .invalidArgument, m.put b x s)
      else
        (s.load (x.hostPtr.map (·.add offset.toNat)) size.toNat).map fun data =>
          (.ok data, m.put b {x with bytesRead := x.bytesRead + size} s)

structure CopyRegion where
  src : Nat
  srcOffset : UInt64
  dst : Nat
  dstOffset : UInt64
  size : UInt64
deriving DecidableEq

/-- The bounds check that every copy makes. -/
def CopyRegion.rejected (r : CopyRegion) (x y : Buffer) : Prop :=
  x.size < r.srcOffset + r.size ∨ y.size < r.dstOffset + r.size

instance (r : CopyRegion) (x y : Buffer) : Decidable (r.rejected x y) :=
  inferInstanceAs (Decidable (_ ∨ _))

def Buffer.countRead (x : Buffer) (n : UInt64) : Buffer :=
  {x with bytesRead := x.bytesRead + n, bytesTransferred := x.bytesTransferred + n}

def Buffer.countWritten (x : Buffer) (n : UInt64) : Buffer :=
  {x with bytesWritten := x.bytesWritten + n, bytesTransferred := x.bytesTransferred + n}

def State.counted (m : State) (r : CopyRegion) (s : Space) : State :=
  ({m with space := s}.modify r.src (·.countRead r.size)).modify r.dst (·.countWritten r.size)

/-- The second half of a round of `mvgal_memory_copy`: the source is mapped at `p`.
The pointers that mapping returns have the offset in them when the buffer was
mapped before; the copy adds it again. -/
def copyToDst (sys' : System) (m : State) (r : CopyRegion) (p : Option Ptr) :
    Except Fault (Error × State) :=
  (memoryMap sys' m r.dst r.dstOffset r.size).bind fun
  | (.error e, m) => (memoryUnmap m r.src).map fun m => (e, m)
  | (.ok q, m) =>
    (m.space.copy (q.map (·.add r.dstOffset.toNat)) (p.map (·.add r.srcOffset.toNat))
      r.size.toNat).map fun s => (.success, m.counted r s)

/-- One round of `mvgal_memory_copy`; `sys` and `sys'` answer the two mappings. The
clean-up at the end asks to unmap buffers that are not mapped, which does nothing. -/
def copyRegion (sys sys' : System) (m : State) (r : CopyRegion) : Except Fault (Error × State) :=
  if r.size = 0 then .ok (.success, m)
  else
    (m.read r.src).bind fun x =>
    (m.read r.dst).bind fun y =>
    if r.rejected x y then .ok (.invalidArgument, m)
    else
      (memoryMap sys m r.src r.srcOffset r.size).bind fun
      | (.error e, m) => .ok (e, m)
      | (.ok p, m) => copyToDst sys' m r p

/-- `mvgal_memory_copy`: every region in turn; the last error is returned. -/
def copyRegions (m : State) (overall : Error) :
    List (System × System × CopyRegion) → Except Fault (Error × State)
  | [] => .ok (overall, m)
  | (sys, sys', r) :: rest =>
    (copyRegion sys sys' m r).bind fun (e, m) =>
      copyRegions m (if e = .success then overall else e) rest

def memoryCopy (m : State) (regions : List (System × System × CopyRegion)) :
    Except Fault (Error × State) :=
  if regions = [] then .ok (.invalidArgument, m) else copyRegions m .success regions

inductive CopyMethod where
  | cpu
  | p2p
  | dmaBuf
  | nvlink
deriving DecidableEq, Repr

def p2pIsSupported (mgr : GpuManager) (src dst : Nat) : Bool :=
  if src ≥ maxGpus || dst ≥ maxGpus then false
  else if src ≥ mgr.count || dst ≥ mgr.count then false
  else mgr.enabled src && mgr.enabled dst

def nvlinkIsAvailable (_src _dst : Nat) : Bool := false

def getCopyMethod (mgr : GpuManager) (src dst : Nat) : CopyMethod :=
  if src ≥ maxGpus || dst ≥ maxGpus then .cpu
  else if src ≥ mgr.count || dst ≥ mgr.count then .cpu
  else if nvlinkIsAvailable src dst then .nvlink
  else if p2pIsSupported mgr src dst then .dmaBuf
  else .cpu

/-- `mvgal_dmabuf_export`: the descriptor a buffer already has. -/
def Buffer.export (x : Buffer) : Except Error (Option Nat) × Buffer :=
  if x.exported then (.ok x.dmabufFd, x)
  else if x.backend = .dmaBuf ∨ x.backend = .dmaBufImported then
    (.ok x.dmabufFd, {x with exported := true})
  else (.error .notSupported, x)

/-- The copy that every branch of `mvgal_dmabuf_copy_gpu_to_gpu` ends in. -/
def directCopy (m : State) (r : CopyRegion) (x y : Buffer) : Except Fault (Error × State) :=
  (m.space.copy (y.hostPtr.map (·.add r.dstOffset.toNat)) (x.hostPtr.map (·.add r.srcOffset.toNat))
    r.size.toNat).map fun s => (.success, {m with space := s})

/-- `mvgal_dmabuf_copy_gpu_to_gpu`. When only the source has a descriptor, the
destination is exported and the copy starts again. -/
def copyGpuToGpu (mgr : GpuManager) (srcGpu dstGpu : Nat) (r : CopyRegion) :
    Nat → State → Except Fault (Error × State)
  | 0, _ => .error .endlessRecursion
  | fuel + 1, m =>
    if r.size = 0 then .ok (.success, m)
    else
      (m.read r.src).bind fun x =>
      (m.read r.dst).bind fun y =>
      if r.rejected x y then .ok (.invalidArgument, m)
      else if !p2pIsSupported mgr srcGpu dstGpu then directCopy m r x y
      else if x.dmabufFd.isSome && y.dmabufFd.isSome then directCopy m r x y
      else if x.dmabufFd.isSome && y.dmabufFd.isNone then
        match y.export with
        | (.ok fd, y) =>
          copyGpuToGpu mgr srcGpu dstGpu r fuel
            (m.modify r.dst fun _ => {y with dmabufFd := fd, backend := .dmaBuf})
        | (.error _, y) => directCopy m r x y
      else directCopy m r x y

/-- The descriptor that an export returns is the one whose absence led to it, so
that the copy would start again for ever; a second round decides. -/
def dmabufCopyGpuToGpu (mgr : GpuManager) (m : State) (r : CopyRegion) (srcGpu dstGpu : Nat) :
    Except Fault (Error × State) :=
  copyGpuToGpu mgr srcGpu dstGpu r 2 m

def memoryCopyGpu (sys sys' : System) (mgr : GpuManager) (m : State) (r : CopyRegion)
    (srcGpu dstGpu : Nat) : Except Fault (Error × State) :=
  if r.size = 0 then .ok (.success, m)
  else if getCopyMethod mgr srcGpu dstGpu ≠ .cpu then
    (dmabufCopyGpuToGpu mgr m r srcGpu dstGpu).bind fun
    | (.success, m) => .ok (.success, m)
    | (_, m) => memoryCopy m [(sys, sys', r)]
  else memoryCopy m [(sys, sys', r)]

theorem memoryCopy_single (sys sys' : System) (m : State) (r : CopyRegion) :
    memoryCopy m [(sys, sys', r)] = copyRegion sys sys' m r := by
  rw [memoryCopy, if_neg (by simp), copyRegions]
  cases copyRegion sys sys' m r with
  | error e => rfl
  | ok q =>
    obtain ⟨e, m'⟩ := q
    by_cases he : e = .success
    · simp [Except.bind, copyRegions, he]
    · simp [Except.bind, copyRegions, he]

/-- All branches of the accelerated copy do the same, unless the destination has no
descriptor and yet counts as exported or as DMA-BUF memory. -/
theorem copyGpuToGpu_eq (mgr : GpuManager) {m : State} {r : CopyRegion} {x y : Buffer} (srcGpu dstGpu fuel : Nat)
    (h0 : r.size ≠ 0) (hx : m.store.cells r.src = some x) (hy : m.store.cells r.dst = some y)
    (hexp : y.dmabufFd = none → y.exported = false ∧ y.backend ≠ .dmaBuf ∧ y.backend ≠ .dmaBufImported) :
    copyGpuToGpu mgr srcGpu dstGpu r (fuel + 1) m =
      if r.rejected x y then .ok (.invalidArgument, m) else directCopy m r x y := by
  rw [copyGpuToGpu, if_neg h0, State.read, hx, State.read, hy]
  simp only [Except.bind]
  by_cases hrej : r.rejected x y
  · rw [if_pos hrej, if_pos hrej]
  rw [if_neg hrej, if_neg hrej]
  split
  · rfl
  · split
    · rfl
    · split
      · next h =>
        rw [Bool.and_eq_true, Option.isNone_iff_eq_none] at h
        obtain ⟨h1, h2, h3⟩ := hexp h.2
        simp [Buffer.export, h1, h2, h3]
      · rfl

end Mvgal.Memory
