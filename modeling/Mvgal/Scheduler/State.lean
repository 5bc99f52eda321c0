import Mvgal.Types
import Mvgal.Lib.Chain

/-! The data of the user-space scheduler (`scheduler_internal.h`).

The heap of workload structures is a partial map from addresses, with the queue
links of all structures side by side (`Chain.Links`). An address stands for the
identity of one structure: `calloc` returns one that was never used before. Of
the four queues of the source only the ready queue is ever used. `log` is a
history variable: no function reads it. -/
namespace Mvgal.Scheduler
open Chain (Links Ends)

abbrev maxGpus : Nat := 16

def maxQueued : UInt32 := 1024

/-- The value 0xFFFFFFFF that the source stores for "no GPU". -/
def noGpu : Nat := 0xFFFFFFFF

/-- The value 0xFFFFFFFF that the source reads as "any GPU". -/
def anyGpu : UInt64 := 0xFFFFFFFF

inductive WorkloadState where
  | pending
  | queued
  | running
  | completed
  | failed
  | cancelled
deriving DecidableEq, Repr

structure SubmitInfo where
  type : WorkloadType
  priority : UInt32
  gpuMask : UInt32
  userData : Nat

structure Descriptor where
  id : UInt32
  type : WorkloadType
  priority : UInt32
  gpuMask : UInt64
  completed : Bool
  result : Error
  assignedGpu : Nat
deriving DecidableEq

structure SfrRegion where
  x : UInt32
  y : UInt32
  width : UInt32
  height : UInt32
  gpuIndex : Nat
deriving DecidableEq

/-- `sfr_workload_data_t`; `region_count` is the length of `regions`. -/
structure SfrWorkloadData where
  regions : List SfrRegion
  originalWidth : UInt32
  originalHeight : UInt32
deriving DecidableEq

/-- The pointer `strategy_data`: null, or to a live block, or to one already freed. -/
inductive StrategyData where
  | null
  | live (data : SfrWorkloadData)
  | freed
deriving DecidableEq

/-- `struct mvgal_workload`, less its queue links. -/
structure Workload where
  refcount : UInt32
  state : WorkloadState
  descriptor : Descriptor
  callback : Option Nat
  userData : Nat
  assignedGpuCount : Nat
  assignedGpus : Vector Nat maxGpus
  completionSignaled : Bool
  completionStatus : Error
  strategyData : StrategyData
deriving DecidableEq

structure Heap where
  workloads : Nat → Option Workload
  links : Links Nat
  nextAddress : Nat

structure Queue where
  ends : Ends Nat
  count : UInt32
  totalPriority : UInt64
deriving DecidableEq

/-- `mvgal_gpu_state_t`. -/
structure Gpu where
  available : Bool
  enabled : Bool
  utilization : Float32
  temperature : Float32
  features : UInt64
  computeScore : Float32
  graphicsScore : Float32
  priority : UInt32

/-- The first `gpu_count` entries of the GPU array. No function reads the others. -/
structure Gpus where
  list : List Gpu
  length_le : list.length ≤ maxGpus

/-- `mvgal_scheduler_config_internal_t`. -/
structure Config where
  strategy : Strategy
  dynamicLoadBalance : Bool
  thermalAware : Bool

/-- `g_afr_state`: the rotation of alternate-frame rendering, with the first
`gpu_count` entries of `gpu_indices`. The position in the rotation names one of
them whenever there is one. -/
structure AfrState where
  currentGpuIndex : Nat
  frameCounter : UInt32
  gpuIndices : List Nat
  initialized : Bool
  length_le : gpuIndices.length ≤ maxGpus
  current_lt : gpuIndices ≠ [] → currentGpuIndex < gpuIndices.length

theorem afr_current_lt_nil : ([] : List Nat) ≠ [] → 0 < ([] : List Nat).length := fun h => absurd rfl h

structure Stats where
  workloadsSubmitted : UInt64
  workloadsCompleted : UInt64
  workloadsFailed : UInt64

inductive Event where
  /-- handed to `mvgal_scheduler_apply_strategy` -/
  | applied (w : Nat)
  /-- handed to `mvgal_workload_complete` -/
  | completed (w : Nat) (result : Error)
  /-- `mvgal_workload_cancel` succeeded -/
  | cancelled (w : Nat)
  /-- added to `workloads_completed` -/
  | countedCompleted (w : Nat)
  /-- added to `workloads_failed` -/
  | countedFailed (w : Nat)
  /-- the callback was called -/
  | notified (w : Nat) (callback : Nat) (result : Error)
deriving DecidableEq

/-- `g_scheduler_state`, the rotation of `afr.c` and the heap. -/
structure State where
  initialized : Bool
  paused : Bool
  running : Bool
  threadRunning : Bool
  config : Config
  gpus : Gpus
  afr : AfrState
  readyQueue : Queue
  heap : Heap
  stats : Stats
  nextWorkloadId : UInt64
  log : List Event

def Heap.modify (h : Heap) (w : Nat) (f : Workload → Workload) : Heap :=
  {h with workloads := Function.update h.workloads w ((h.workloads w).map f)}

def State.modify (s : State) (w : Nat) (f : Workload → Workload) : State :=
  {s with heap := s.heap.modify w f}

def Heap.priority (h : Heap) (w : Nat) : UInt32 :=
  match h.workloads w with
  | some x => x.descriptor.priority
  | none => 0

theorem modify_workloads (h : Heap) (w v : Nat) (f : Workload → Workload) :
    (h.modify w f).workloads v = if v = w then (h.workloads w).map f else h.workloads v := by
  simp [Heap.modify, Function.update_apply]

@[simp] theorem modify_self (h : Heap) (w : Nat) (f : Workload → Workload) :
    (h.modify w f).workloads w = (h.workloads w).map f := by
  simp [modify_workloads]

theorem modify_other (h : Heap) {w v : Nat} (f : Workload → Workload) (hv : v ≠ w) :
    (h.modify w f).workloads v = h.workloads v := by
  simp [modify_workloads, hv]

@[simp] theorem modify_isSome (h : Heap) (w v : Nat) (f : Workload → Workload) :
    ((h.modify w f).workloads v).isSome = (h.workloads v).isSome := by
  by_cases hv : v = w
  · subst hv
    simp
  · rw [modify_other h f hv]

theorem modify_priority (h : Heap) (w : Nat) (f : Workload → Workload)
    (hf : ∀ x, (f x).descriptor.priority = x.descriptor.priority) :
    (h.modify w f).priority = h.priority := by
  funext v
  by_cases hv : v = w
  · subst hv
    cases hx : h.workloads v with
    | none => simp [Heap.priority, hx]
    | some x => simp [Heap.priority, hx, hf]
  · simp [Heap.priority, modify_other h f hv]

end Mvgal.Scheduler
