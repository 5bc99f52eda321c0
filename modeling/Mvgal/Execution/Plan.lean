import Mvgal.Memory.Access
import Mvgal.Scheduler.Strategy

/-! Planning a submission (`execution.c`).

A plan says under which strategy the work of one submission is scheduled, on which GPUs it
ended up and what it is expected to cost. It is a function of the submission, of the frame
it belongs to, and of what the rest of the program answers during the call (`Env`). -/
namespace Mvgal.Execution
open Memory (GpuManager CopyMethod getCopyMethod)

def maxGpus : Nat := 16

/-- `mvgal_api_type_t`, one bit for each API. -/
abbrev Api := UInt64

def apiVulkan : Api := (1 : UInt64) <<< 0
def apiOpenCl : Api := (1 : UInt64) <<< 2
def apiCuda : Api := (1 : UInt64) <<< 3
def apiD3d11 : Api := (1 : UInt64) <<< 4
def apiD3d12 : Api := (1 : UInt64) <<< 5
def apiMetal : Api := (1 : UInt64) <<< 6
def apiWebGpu : Api := (1 : UInt64) <<< 7

/-- The workload types of one API each that planning tells apart. -/
def workloadVulkan : WorkloadType := .api 10
def workloadVulkanCmd : WorkloadType := .api 11
def workloadCudaKernel : WorkloadType := .api 20
def workloadD3dQueue : WorkloadType := .api 31
def workloadD3dPipeline : WorkloadType := .api 32
def workloadOpenClKernel : WorkloadType := .api 70
def workloadUnknown : WorkloadType := .api 100

structure Telemetry where
  type : WorkloadType
  stepName : Option (List Char)
  dataSize : UInt64
  isFrameEnd : Bool
  isPresent : Bool

structure BeginInfo where
  api : Api
  requestedStrategy : Strategy
  applicationName : Option (List Char)
  steamMode : Bool
  protonMode : Bool
  lowLatency : Bool

structure SubmitInfo where
  frameId : UInt64
  api : Api
  requestedStrategy : Strategy
  telemetry : Telemetry
  resourceBytes : UInt64
  commandBufferCount : UInt32
  queueFamilyFlags : UInt32
  gpuMask : UInt32

/-- `mvgal_execution_plan_t`. Of the array of selected GPUs only the part in use. -/
structure Plan where
  frameId : UInt64
  workloadId : UInt32
  api : Api
  workloadType : WorkloadType
  requestedStrategy : Strategy
  appliedStrategy : Strategy
  migrationMethod : CopyMethod
  selectedGpus : List Nat
  selectedGpuMask : UInt64
  estimatedBytes : UInt64
  estimatedDurationNs : UInt64
  steamMode : Bool
  protonMode : Bool
  framePacingEnabled : Bool
  crossVendor : Bool
deriving DecidableEq

/-- `mvgal_execution_frame_state_t`, less `bytes_migrated`, which is never written. -/
structure Frame where
  inUse : Bool
  frameId : UInt64
  context : Nat
  api : Api
  requestedStrategy : Strategy
  appliedStrategy : Strategy
  submitCount : UInt32
  presentCount : UInt32
  selectedGpus : List Nat
  bytesScheduled : UInt64
  startTimeNs : UInt64
  endTimeNs : UInt64
  active : Bool
  steamMode : Bool
  protonMode : Bool
  lowLatency : Bool
  applicationName : List Char
  lastPlan : Option Plan

/-- What the rest of the program answers during one call. -/
structure Env where
  /-- `mvgal_init`, or success where the library is up already -/
  up : Error
  /-- `mvgal_context_get_current` -/
  current : Option Nat
  /-- `mvgal_context_create` -/
  created : Except Error Nat
  /-- `mvgal_get_strategy` -/
  strategyOf : Nat → Strategy
  /-- `detect_steam_mode`, `detect_proton_mode` -/
  steam : Bool
  proton : Bool
  /-- `execution_get_time_ns` -/
  now : UInt64
  gpus : GpuManager
  /-- the vendor `mvgal_gpu_get_descriptor` reports; zero is `MVGAL_VENDOR_UNKNOWN` -/
  vendor : Nat → Option Nat
  /-- `mvgal_workload_submit`, between the two changes of the strategy -/
  submitted : Except Error Scheduler.Workload

def enabledGpus (mgr : GpuManager) : List Nat := ((List.range mgr.count).filter mgr.enabled).take maxGpus

def buildEnabledGpuMask (mgr : GpuManager) : UInt32 :=
  (enabledGpus mgr).foldl (fun mask i => mask ||| (1 : UInt32) <<< UInt32.ofNat i) 0

def gpuMask (gpus : List Nat) : UInt64 := gpus.foldl (fun mask i => mask ||| (1 : UInt64) <<< UInt64.ofNat i) 0

/-- The loop of `detect_cross_vendor`, from the first vendor known so far. -/
def crossVendorFrom (vendor : Nat → Option Nat) : Nat → List Nat → Bool
  | _, [] => false
  | first, gpu :: rest =>
    match vendor gpu with
    | none => crossVendorFrom vendor first rest
    | some v =>
      if first = 0 then crossVendorFrom vendor v rest
      else if v ≠ first then true
      else crossVendorFrom vendor first rest

def detectCrossVendor (env : Env) (gpus : List Nat) : Bool := crossVendorFrom env.vendor 0 gpus

def copyMethod (env : Env) : List Nat → CopyMethod
  | first :: second :: _ => getCopyMethod env.gpus first second
  | _ => .cpu

def normalizeWorkloadType (info : SubmitInfo) : WorkloadType :=
  if info.telemetry.type ≠ workloadUnknown then info.telemetry.type
  else if info.queueFamilyFlags &&& 1 != 0 || info.telemetry.isPresent then .graphics
  else if info.queueFamilyFlags &&& 2 != 0 then .compute
  else if 0 < info.telemetry.dataSize then .transfer
  else .graphics

def baseDurationNs (type : WorkloadType) : UInt64 :=
  if type ∈ [.graphics, workloadVulkan, workloadVulkanCmd, workloadD3dQueue, workloadD3dPipeline] then 2000000
  else if type ∈ [.compute, .ai, workloadCudaKernel, workloadOpenClKernel] then 1500000
  else if type = .transfer then 800000
  else 500000

def estimateDurationNs (type : WorkloadType) (resourceBytes : UInt64) (commandBufferCount : UInt32) : UInt64 :=
  baseDurationNs type + commandBufferCount.toUInt64 * 250000 + resourceBytes / (1024 * 1024) * 150000

/-- The strategies that make sense for several GPUs only. -/
def spreads (strategy : Strategy) : Bool :=
  strategy ∈ [.afr, .sfr, .task, .hybrid, .computeOffload]

/-- The strategy `choose_strategy` takes as requested. -/
def requestedStrategy (env : Env) (context : Nat) (frame : Option Frame) (info : SubmitInfo) : Strategy :=
  let requested :=
    if info.requestedStrategy = .auto then
      match frame with
      | some frame => frame.requestedStrategy
      | none => env.strategyOf context
    else info.requestedStrategy
  if requested = .auto then .hybrid else requested

def chooseStrategy (env : Env) (context : Nat) (frame : Option Frame) (info : SubmitInfo) : Strategy :=
  let type := normalizeWorkloadType info
  let several := 1 < (enabledGpus env.gpus).length
  let requested := requestedStrategy env context frame info
  if ¬ several ∧ spreads requested then .singleGpu
  else if requested ≠ .hybrid then requested
  else if (frame.any fun frame => frame.steamMode || frame.protonMode) ∧ type = .graphics ∧ several then .afr
  else if (type = .compute ∨ type = .ai) ∧ several then .computeOffload
  else if type = .transfer ∧ several then .task
  else if type = .graphics ∧ 64 * 1024 * 1024 ≤ info.resourceBytes ∧ several then .sfr
  else if several then .afr
  else .singleGpu

/-- The strategies whose frames are paced. -/
def paced (strategy : Strategy) : Bool := strategy = .afr || strategy = .sfr

/-- The plan of a submission before it is scheduled. -/
def planSubmit (env : Env) (context : Nat) (frame : Frame) (info : SubmitInfo) : Plan :=
  let type := normalizeWorkloadType info
  let applied := chooseStrategy env context (some frame) info
  let bytes := info.resourceBytes + info.telemetry.dataSize
  { frameId := frame.frameId
    workloadId := 0
    api := info.api
    workloadType := type
    requestedStrategy := if info.requestedStrategy = .auto then frame.requestedStrategy else info.requestedStrategy
    appliedStrategy := applied
    migrationMethod := .cpu
    selectedGpus := []
    selectedGpuMask := 0
    estimatedBytes := bytes
    estimatedDurationNs := estimateDurationNs type bytes info.commandBufferCount
    steamMode := frame.steamMode
    protonMode := frame.protonMode
    framePacingEnabled := frame.lowLatency && paced applied
    crossVendor := false }

def schedulerInfo (env : Env) (info : SubmitInfo) (plan : Plan) : Scheduler.SubmitInfo where
  type := plan.workloadType
  priority := if info.telemetry.isPresent then 95 else if info.telemetry.isFrameEnd then 90 else 70
  gpuMask := if info.gpuMask ≠ 0 then info.gpuMask else buildEnabledGpuMask env.gpus
  userData := 0

def selectGpus (env : Env) (workload : Scheduler.Workload) : List Nat :=
  if 0 < workload.assignedGpuCount then workload.assigned
  else if workload.descriptor.assignedGpu ≠ Scheduler.noGpu then [workload.descriptor.assignedGpu]
  else (enabledGpus env.gpus).take 1

def Plan.schedule (env : Env) (plan : Plan) (workload : Scheduler.Workload) : Plan :=
  let gpus := selectGpus env workload
  { plan with
    workloadId := workload.descriptor.id
    selectedGpus := gpus
    selectedGpuMask := gpuMask gpus
    crossVendor := detectCrossVendor env gpus
    migrationMethod := copyMethod env gpus }

def planPresent (env : Env) (frame : Frame) (api : Api) : Plan where
  frameId := frame.frameId
  workloadId := 0
  api := api
  workloadType := .graphics
  requestedStrategy := frame.requestedStrategy
  appliedStrategy := frame.appliedStrategy
  migrationMethod := copyMethod env frame.selectedGpus
  selectedGpus := frame.selectedGpus
  selectedGpuMask := gpuMask frame.selectedGpus
  estimatedBytes := frame.bytesScheduled
  estimatedDurationNs := estimateDurationNs .graphics frame.bytesScheduled frame.submitCount
  steamMode := frame.steamMode
  protonMode := frame.protonMode
  framePacingEnabled := frame.lowLatency && 1 < frame.selectedGpus.length && paced frame.appliedStrategy
  crossVendor := detectCrossVendor env frame.selectedGpus

end Mvgal.Execution
