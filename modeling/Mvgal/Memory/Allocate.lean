import Mvgal.Memory.State

/-! Creation of buffers: `mvgal_buffer_allocate_internal`, the public allocation
calls on top of it, and `mvgal_memory_wrap`.

A call that creates a buffer returns its handle, or the error code, together
with the state; the module may have been initialized even when the call fails. -/
namespace Mvgal.Memory
open Blocks (Ptr Space limit)

variable (sys : System) (mgr : GpuManager) (m : State)

/-- `malloc`, with the contents the new block has. -/
def malloc (s : Space) (n : UInt64) (byte : Nat → UInt8) : Option (Ptr × Space) :=
  if h : sys.malloc ∧ n.toNat < limit then some (s.create .heap n.toNat h.2 byte) else none

/-- `posix_memalign` takes powers of two that are multiples of a pointer's size. -/
def posixMemalign (s : Space) (alignment n : UInt64) (byte : Nat → UInt8) : Option (Ptr × Space) :=
  if alignment &&& (alignment - 1) = 0 ∧ alignment % 8 = 0 then malloc sys s n byte else none

/-- `mmap` of a descriptor. A mapping of no bytes is refused. -/
def mmap (s : Space) (fd : Nat) (n offset : UInt64) : Option (Ptr × Space) :=
  if h : sys.mmap ∧ n ≠ 0 ∧ n.toNat < limit then some (s.map fd offset.toNat n.toNat h.2.2) else none

def moduleInit : State :=
  {m with
    initialized := true
    buffers := none
    totalAllocated := 0
    totalFreed := 0
    systemHeap := sys.openHeap
    gpuCount := mgr.count
    gpuFeatures := mgr.features}

/-- `ensure_memory_initialized`. -/
def ensureInitialized : State := if m.initialized then m else moduleInit sys mgr m

/-- The size rounded up to the alignment, in 64-bit arithmetic. -/
def alignedSize (size alignment : UInt64) : UInt64 :=
  if alignment = 0 then size else (size + alignment - 1) &&& ~~~(alignment - 1)

def popcount (mask : UInt32) : Nat := (List.range 32).countP (inMask mask)

def dmabufIsSupported (mask : UInt32) : Bool :=
  mask != 0 && (List.range m.gpuCount).all fun i =>
    !inMask mask i || m.gpuFeatures i &&& featureDmaBuf != 0

/-- Whether DMA-BUF is requested, by a flag or by naming several GPUs. -/
def dmabufRequested (info : AllocInfo) : Bool :=
  hasAny info.flags flagDmaBuf || info.sharingMode == .dmaBuf ||
    (info.gpuMask != 0 && decide (1 < popcount info.gpuMask))

/-- `mvgal_dmabuf_allocate`: a descriptor from the kernel heap, else a truncated
anonymous file, and a mapping of the whole of it. -/
def dmabufAllocate (size : UInt64) : Option (Nat × Ptr × Space) :=
  if (m.systemHeap && sys.ioctl) || (sys.memfd && decide (size.toNat < limit)) then
    if h : sys.mmap ∧ size ≠ 0 ∧ size.toNat < limit then
      some (m.space.objects.next, m.space.create .mapping size.toNat h.2.2 fun _ => 0)
    else none
  else none

def systemAllocate (info : AllocInfo) : Option (Ptr × Space) :=
  let size := alignedSize info.size info.alignment
  let byte := if hasAny info.flags flagZeroInitialized then fun _ => 0 else sys.garbage
  if hasAny info.flags flagHostValid && decide (8 < info.alignment) then
    posixMemalign sys m.space info.alignment size byte
  else malloc sys m.space size byte

def Buffer.ofInfo (info : AllocInfo) : Buffer :=
  {Buffer.blank with
    size := info.size
    flags := info.flags
    access := info.access
    gpuMask := info.gpuMask}

/-- The binding of GPU `i` when DMA-BUF memory is mapped to a mask of GPUs. -/
def dmaBinding (info : AllocInfo) (p : Ptr) (i : Nat) : Binding :=
  if inMask info.gpuMask i then
    {gpuIndex := i
     gpuAddress := none
     mapping := some p
     writable := hasAny info.access accessWrite
     readable := true}
  else .zero

/-- The DMA-BUF branch. It stores the binding of a GPU at the GPU's own index and
counts the bindings it stores. -/
def dmaBuffer (info : AllocInfo) (fd : Nat) (p : Ptr) : Buffer :=
  {Buffer.ofInfo info with
    hostPtr := some p
    dmabufFd := some fd
    dmabufOwner := true
    backend := .dmaBuf
    mapped := true
    gpuBindings := Vector.ofFn fun i : Fin maxGpus => dmaBinding info p i
    gpuBindingCount := (List.range maxGpus).countP (inMask info.gpuMask)}

def systemBuffer (info : AllocInfo) (p : Ptr) : Buffer :=
  {Buffer.ofInfo info with
    hostPtr := some p
    originalPtr := some p
    shouldFree := true
    backend := .system
    mapped := hasAny info.flags flagHostValid}

def allocateMemory (info : AllocInfo) : Option (Buffer × Space) :=
  let dma :=
    if dmabufRequested info && dmabufIsSupported m info.gpuMask then
      dmabufAllocate sys m (alignedSize info.size info.alignment)
    else none
  match dma with
  | some (fd, p, s) => some (dmaBuffer info fd p, s)
  | none => (systemAllocate sys m info).map fun r => (systemBuffer info r.1, r.2)

def allocateInternal (info : AllocInfo) : Except Error Nat × State :=
  if info.size = 0 then (.error .invalidArgument, m)
  else if !sys.calloc then (.error .outOfMemory, m)
  else
    match allocateMemory sys m info with
    | none => (.error .outOfMemory, m)
    | some (x, s) => (.ok m.store.next, {m with space := s}.newBuffer x)

def memoryAllocate (info : AllocInfo) : Except Error Nat × State :=
  match allocateInternal sys (ensureInitialized sys mgr m) info with
  | (.error e, m) => (.error e, m)
  | (.ok b, m) => (.ok b, {m.insert b with totalAllocated := m.totalAllocated + info.size})

def memoryAllocateSimple (size : UInt64) (flags : UInt32) : Except Error Nat × State :=
  if size = 0 then (.error .invalidArgument, m)
  else
    memoryAllocate sys mgr m
      {size := size
       alignment := 0
       flags := flags ||| flagHostValid
       sharingMode := .other
       access := accessReadWrite
       gpuMask := 0}

/-- `mvgal_memory_create_shared`; only indices below 32 enter the mask. -/
def memoryCreateShared (size : UInt64) (gpuIndices : List Nat) : Except Error Nat × State :=
  if size = 0 ∨ gpuIndices = [] then (.error .invalidArgument, m)
  else
    memoryAllocate sys mgr m
      {size := size
       alignment := 0
       flags := flagShared ||| flagDmaBuf
       sharingMode := .dmaBuf
       access := accessReadWrite
       gpuMask := gpuIndices.foldl
        (fun mask i => if i < 32 then mask ||| (1 <<< UInt32.ofNat i) else mask) 0}

def wrappedBuffer (p : Ptr) (size : UInt64) (flags : UInt32) : Buffer :=
  {Buffer.blank with
    size := size
    flags := flags ||| flagHostValid
    access := accessReadWrite
    gpuMask := 0xFFFFFFFF
    hostPtr := some p
    originalPtr := some p
    backend := .wrapped
    mapped := true}

/-- `mvgal_memory_wrap`. Nothing is added to `total_allocated`. -/
def memoryWrap (p : Option Ptr) (size : UInt64) (flags : UInt32) : Except Error Nat × State :=
  match p with
  | none => (.error .invalidArgument, m)
  | some p =>
    if size = 0 then (.error .invalidArgument, m)
    else
      let m := ensureInitialized sys mgr m
      if !sys.calloc then (.error .outOfMemory, m)
      else (.ok m.store.next, (m.newBuffer (wrappedBuffer p size flags)).insert m.store.next)

variable {sys mgr m}

@[simp] theorem ensureInitialized_store : (ensureInitialized sys mgr m).store = m.store := by
  unfold ensureInitialized
  split <;> rfl

@[simp] theorem ensureInitialized_space : (ensureInitialized sys mgr m).space = m.space := by
  unfold ensureInitialized
  split <;> rfl

@[simp] theorem ensureInitialized_links : (ensureInitialized sys mgr m).links = m.links := by
  unfold ensureInitialized
  split <;> rfl

@[simp] theorem ensureInitialized_initialized : (ensureInitialized sys mgr m).initialized = true := by
  unfold ensureInitialized
  split
  · assumption
  · rfl

def State.addBuffer (m : State) (x : Buffer) (s : Space) : State :=
  ({m with space := s}.newBuffer x).insert m.store.next

variable {s : Space}

theorem malloc_cases {s' : Space} {n : UInt64} {byte : Nat → UInt8} {p : Ptr}
    (h : malloc sys s n byte = some (p, s')) :
    ∃ hn : n.toNat < limit, (p, s') = s.create .heap n.toNat hn byte := by
  unfold malloc at h
  split at h
  · next hc => exact ⟨hc.2, (Option.some.inj h).symm⟩
  · cases h

theorem systemAllocate_cases {info : AllocInfo} {p : Ptr}
    (h : systemAllocate sys m info = some (p, s)) :
    ∃ byte, ∃ hn : (alignedSize info.size info.alignment).toNat < limit,
      (p, s) = m.space.create .heap _ hn byte := by
  simp only [systemAllocate, posixMemalign] at h
  split at h
  · split at h
    · exact ⟨_, malloc_cases h⟩
    · cases h
  · exact ⟨_, malloc_cases h⟩

theorem dmabufAllocate_cases {size : UInt64} {fd : Nat} {p : Ptr}
    (h : dmabufAllocate sys m size = some (fd, p, s)) :
    fd = m.space.objects.next ∧ ∃ hn : size.toNat < limit,
      (p, s) = m.space.create .mapping size.toNat hn fun _ => 0 := by
  unfold dmabufAllocate at h
  split at h
  · split at h
    · next hc =>
      simp only [Option.some.injEq, Prod.mk.injEq] at h
      exact ⟨h.1.symm, hc.2.2, h.2.symm⟩
    · cases h
  · cases h

/-- Memory for a buffer is one new block of the aligned size: a mapping that the
buffer owns, or a heap block that it frees. -/
theorem allocateMemory_cases {info : AllocInfo} {x : Buffer}
    (h : allocateMemory sys m info = some (x, s)) :
    ∃ kind byte, ∃ hn : (alignedSize info.size info.alignment).toNat < limit,
      s = (m.space.create kind _ hn byte).2 ∧
      (kind = .mapping ∧ dmabufRequested info ∧ dmabufIsSupported m info.gpuMask ∧
          x = dmaBuffer info m.space.objects.next ⟨m.space.blocks.next, 0⟩ ∨
        kind = .heap ∧ x = systemBuffer info ⟨m.space.blocks.next, 0⟩) := by
  unfold allocateMemory at h
  simp only at h
  split at h
  · next fd p s' hdma =>
    obtain ⟨rfl, rfl⟩ : dmaBuffer info fd p = x ∧ s' = s := by simpa using h
    split at hdma
    · next hreq =>
      rw [Bool.and_eq_true] at hreq
      obtain ⟨rfl, hn, hp⟩ := dmabufAllocate_cases hdma
      cases hp
      exact ⟨.mapping, _, hn, rfl, .inl ⟨rfl, hreq.1, hreq.2, rfl⟩⟩
    · cases hdma
  · cases hsys : systemAllocate sys m info with
    | none => rw [hsys] at h; exact nomatch h
    | some r =>
      obtain ⟨p, s'⟩ := r
      rw [hsys] at h
      obtain ⟨rfl, rfl⟩ : systemBuffer info p = x ∧ s' = s := by simpa using h
      obtain ⟨byte, hn, hp⟩ := systemAllocate_cases hsys
      cases hp
      exact ⟨.heap, byte, hn, rfl, .inr ⟨rfl, rfl⟩⟩

/-- The request is granted: memory for the structure and for its contents is found. -/
def AllocGranted (sys : System) (m : State) (info : AllocInfo) (x : Buffer) (s : Space) : Prop :=
  info.size ≠ 0 ∧ sys.calloc = true ∧ allocateMemory sys m info = some (x, s)

theorem allocateInternal_cases (sys : System) (m : State) (info : AllocInfo) :
    ((∀ x s, ¬ AllocGranted sys m info x s) ∧ ∃ e, allocateInternal sys m info = (.error e, m)) ∨
    ∃ x s, AllocGranted sys m info x s ∧
      allocateInternal sys m info = (.ok m.store.next, {m with space := s}.newBuffer x) := by
  unfold allocateInternal
  by_cases h0 : info.size = 0
  · rw [if_pos h0]
    exact .inl ⟨fun x s h => h.1 h0, _, rfl⟩
  rw [if_neg h0]
  cases hc : sys.calloc with
  | false => exact .inl ⟨fun x s h => absurd h.2.1 (by simp [hc]), _, rfl⟩
  | true =>
    cases hm : allocateMemory sys m info with
    | none => exact .inl ⟨fun x s h => absurd h.2.2 (by simp [hm]), _, rfl⟩
    | some r => exact .inr ⟨r.1, r.2, ⟨h0, hc, hm⟩, rfl⟩

theorem memoryAllocate_cases (sys : System) (mgr : GpuManager) (m : State) (info : AllocInfo) :
    ((∀ x s, ¬ AllocGranted sys (ensureInitialized sys mgr m) info x s) ∧
      ∃ e, memoryAllocate sys mgr m info = (.error e, ensureInitialized sys mgr m)) ∨
    ∃ x s, AllocGranted sys (ensureInitialized sys mgr m) info x s ∧
      memoryAllocate sys mgr m info = (.ok (ensureInitialized sys mgr m).store.next,
        {(ensureInitialized sys mgr m).addBuffer x s with
          totalAllocated := (ensureInitialized sys mgr m).totalAllocated + info.size}) := by
  unfold memoryAllocate
  obtain ⟨hno, e, he⟩ | ⟨x, s, hyes, he⟩ :=
    allocateInternal_cases sys (ensureInitialized sys mgr m) info
  · rw [he]
    exact .inl ⟨hno, e, rfl⟩
  · rw [he]
    exact .inr ⟨x, s, hyes, rfl⟩

theorem memoryWrap_cases (sys : System) (mgr : GpuManager) (m : State) (p : Option Ptr) (size : UInt64)
    (flags : UInt32) : (∃ e m', memoryWrap sys mgr m p size flags = (.error e, m') ∧
      (m' = m ∨ m' = ensureInitialized sys mgr m) ∧ (p = none ∨ size = 0 ∨ sys.calloc = false)) ∨
    ∃ q, p = some q ∧ size ≠ 0 ∧ sys.calloc = true ∧
      memoryWrap sys mgr m p size flags = (.ok (ensureInitialized sys mgr m).store.next,
        (ensureInitialized sys mgr m).addBuffer (wrappedBuffer q size flags)
          (ensureInitialized sys mgr m).space) := by
  unfold memoryWrap
  cases p with
  | none => exact .inl ⟨_, m, rfl, .inl rfl, .inl rfl⟩
  | some q =>
    by_cases h0 : size = 0
    · exact .inl ⟨.invalidArgument, m, by simp [h0], .inl rfl, .inr (.inl h0)⟩
    · cases hc : sys.calloc with
      | false => exact .inl ⟨.outOfMemory, _, by simp [h0], .inr rfl, .inr (.inr rfl)⟩
      | true =>
        exact .inr ⟨q, rfl, h0, rfl, by simp only [if_neg h0]; rfl⟩

end Mvgal.Memory
