import Mvgal.Types
import Mvgal.Lib.Blocks
import Mvgal.Lib.Chain

/-! The data of the user-space memory module (`memory_internal.h`).

Buffer structures live in an arena, their `next` and `prev` pointers beside it
(`Chain.Links`), and the memory they describe in an address space of blocks. A
file descriptor is the number of the object it stands for; -1 is `none`. What
the operating system and the GPU manager answer to a call is an argument of the
function that asks (`System`, `GpuManager`). -/
namespace Mvgal.Memory
open Blocks (Ptr Space)
open Chain (Links)

abbrev maxGpus : Nat := 16

/-- The length of `aliases`. -/
def maxAliases : Nat := 16

/-- `MVGAL_MEMORY_FLAG_*`. -/
def flagHostValid : UInt32 := 1
def flagShared : UInt32 := 16
def flagDmaBuf : UInt32 := 32
def flagZeroInitialized : UInt32 := 1024

/-- `MVGAL_MEMORY_ACCESS_*`. -/
def accessRead : UInt32 := 1
def accessWrite : UInt32 := 2
def accessReadWrite : UInt32 := 3

/-- `MVGAL_BUFFER_ALIAS_FLAG_*`. -/
def aliasReadOnly : UInt32 := 1
def aliasWriteOnly : UInt32 := 2

/-- `flags & bits`, as a condition. -/
def hasAny (flags bits : UInt32) : Bool := flags &&& bits != 0

/-- `mask & (1 << i)`, as a condition. -/
def inMask (mask : UInt32) (i : Nat) : Bool := hasAny mask (1 <<< UInt32.ofNat i)

/-- `mvgal_memory_sharing_mode_t`: the module tells DMA-BUF sharing from the rest. -/
inductive SharingMode where
  | dmaBuf
  | other
deriving DecidableEq, Repr

structure AllocInfo where
  size : UInt64
  alignment : UInt64
  flags : UInt32
  sharingMode : SharingMode
  access : UInt32
  gpuMask : UInt32
deriving DecidableEq

/-- `mvgal_buffer_backend_type_t`. -/
inductive Backend where
  | system
  | dmaBuf
  | dmaBufImported
  | gpu
  | wrapped
  | p2p
deriving DecidableEq, Repr

/-- `mvgal_gpu_binding_t`. An address that is 0 is `none`. -/
structure Binding where
  gpuIndex : Nat
  gpuAddress : Option Ptr
  mapping : Option Ptr
  writable : Bool
  readable : Bool
deriving DecidableEq

def Binding.zero : Binding := ⟨0, none, none, false, false⟩

/-- `struct mvgal_buffer`, less its list links. Of the state flags only MAPPED and
EXPORTED are ever read. `aliases` is the first `alias_count` entries of the array. -/
structure Buffer where
  refcount : UInt32
  mapped : Bool
  exported : Bool
  backend : Backend
  size : UInt64
  flags : UInt32
  access : UInt32
  gpuMask : UInt32
  hostPtr : Option Ptr
  dmabufFd : Option Nat
  dmabufOwner : Bool
  gpuBindings : Vector Binding maxGpus
  gpuBindingCount : Nat
  bytesRead : UInt64
  bytesWritten : UInt64
  bytesTransferred : UInt64
  originalPtr : Option Ptr
  shouldFree : Bool
  aliasParent : Option Nat
  aliases : List Nat
  aliasSize : UInt64
  isAlias : Bool
  aliasDetached : Bool
deriving DecidableEq

/-- A buffer as `calloc` leaves it, with a reference count of one and no descriptor. -/
def Buffer.blank : Buffer where
  refcount := 1
  mapped := false
  exported := false
  backend := .system
  size := 0
  flags := 0
  access := 0
  gpuMask := 0
  hostPtr := none
  dmabufFd := none
  dmabufOwner := false
  gpuBindings := Vector.replicate maxGpus Binding.zero
  gpuBindingCount := 0
  bytesRead := 0
  bytesWritten := 0
  bytesTransferred := 0
  originalPtr := none
  shouldFree := false
  aliasParent := none
  aliases := []
  aliasSize := 0
  isAlias := false
  aliasDetached := false

/-- `mvgal_memory_state_t`, with the buffer structures and the address space. -/
structure State where
  initialized : Bool
  buffers : Option Nat
  totalAllocated : UInt64
  totalFreed : UInt64
  systemHeap : Bool
  gpuCount : Nat
  gpuFeatures : Nat → UInt64
  store : Arena Buffer
  links : Links Nat
  space : Space

/-- The zero-initialized `g_memory_state`. Descriptor 0 counts as an open heap. -/
def State.zero : State where
  initialized := false
  buffers := none
  totalAllocated := 0
  totalFreed := 0
  systemHeap := true
  gpuCount := 0
  gpuFeatures := fun _ => 0
  store := .empty
  links := ⟨fun _ => none, fun _ => none⟩
  space := .empty

/-- What the GPU manager answers. When it cannot be initialized, `mvgal_gpu_get_count`
returns the error code 16 as a count; then no GPU is enabled or has a feature. -/
structure GpuManager where
  count : Nat
  count_le : count ≤ maxGpus
  features : Nat → UInt64
  enabled : Nat → Bool

theorem two_le_maxGpus : 2 ≤ maxGpus := by decide

/-- What the operating system answers during one call. -/
structure System where
  openHeap : Bool
  calloc : Bool
  malloc : Bool
  ioctl : Bool
  memfd : Bool
  mmap : Bool
  garbage : Nat → UInt8

def willing : System := ⟨false, true, true, true, true, true, fun _ => 0⟩

def noGpus : GpuManager := ⟨0, Nat.zero_le _, fun _ => 0, fun _ => false⟩

variable (m : State) (b : Nat)

def State.modify (f : Buffer → Buffer) : State := {m with store := m.store.modify b f}

def State.newBuffer (x : Buffer) : State :=
  {m with
    store := m.store.push x
    links := (m.links.setNext m.store.next none).setPrev m.store.next none}

def State.insert : State :=
  {m with links := Chain.pushFront m.links m.buffers b, buffers := some b}

end Mvgal.Memory
