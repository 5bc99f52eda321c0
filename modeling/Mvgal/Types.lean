/-! The enumerations of `mvgal_types.h`, and the errors of the Rust runtime, that the
modelled modules share. -/
namespace Mvgal

inductive Error where
  | success
  | invalidArgument
  | outOfMemory
  | notFound
  | timeout
  | unsupported
  | busy
  | deviceLost
  | contextLost
  | notInitialized
  | alreadyInitialized
  | incompatible
  | gpuNotFound
  | notSupported
  | driver
  | memory
  | initialization
  | ipc
  | noGpus
  | unknown
  | interrupted
  | scheduler
deriving DecidableEq, Repr

/-- `MvgalError`, the errors of the Rust runtime (`lib.rs`). -/
inductive MvgalError where
  | success
  | invalidArgument
  | outOfMemory
  | notFound
  | notSupported
  | deviceBusy
  | timeout
  | fenceAlreadySignaled
  | fenceNotSignaled
  | mappingFailed
  | accessDenied
  | unknown
deriving DecidableEq, Repr

/-- `mvgal_workload_type_t`. The members of one graphics API each (Vulkan, CUDA,
Direct3D, …) are never told apart by the scheduler; they are `api` with their code. -/
inductive WorkloadType where
  | graphics
  | compute
  | video
  | ai
  | trace
  | transfer
  | api (code : Nat)
deriving DecidableEq, Repr

inductive Strategy where
  | roundRobin
  | afr
  | sfr
  | auto
  | computeOffload
  | hybrid
  | singleGpu
  | task
  | aiDriven
  | custom
deriving DecidableEq, Repr

/-- `mask & (1 << i)`, as a condition. -/
def bitSet (mask : UInt64) (i : Nat) : Bool := mask &&& (1 <<< UInt64.ofNat i) != 0

/-- `MVGAL_FEATURE_*`. -/
def featureDmaBuf : UInt64 := (1 : UInt64) <<< 0
def featureGraphics : UInt64 := (1 : UInt64) <<< 4
def featureCompute : UInt64 := (1 : UInt64) <<< 5
def featureVideoDecode : UInt64 := (1 : UInt64) <<< 6
def featureVideoEncode : UInt64 := (1 : UInt64) <<< 7
def featureAiAccel : UInt64 := (1 : UInt64) <<< 8
def featureRayTracing : UInt64 := (1 : UInt64) <<< 9

end Mvgal
