import Mvgal.Scheduler.Sfr
import Mvgal.Lib.Binary32

/-! Choosing GPUs for a workload (`scheduler.c`, `strategy/afr.c`, `strategy/sfr.c`,
`strategy/task.c`).

Each strategy is a function of the configuration, the GPUs, the rotation of
alternate-frame rendering and the workload; it returns the error code with the
rotation and the workload afterwards. Loops that keep the best score are
`Scan.scan`, from the score they start with. -/
namespace Mvgal.Scheduler
open Scan (scan)
open Binary32 (greater)

def gpuSuitable (g : Gpus) (i : Nat) (x : Workload) : Bool :=
  match g.list[i]? with
  | none => false
  | some gpu =>
    gpu.enabled && gpu.available &&
      (x.descriptor.gpuMask == anyGpu || bitSet x.descriptor.gpuMask i)

def calculateScore (c : Config) (g : Gpus) (i : Nat) (x : Workload) : Float32 :=
  match g.list[i]? with
  | none => -1.0
  | some gpu =>
    let score : Float32 := 0.0
    let score := score + gpu.priority.toFloat32 * 0.1
    let score := match x.descriptor.type with
      | .compute | .ai => score + gpu.computeScore * 0.01
      | .graphics | .trace => score + gpu.graphicsScore * 0.01
      | .video | .transfer | .api _ => score + (gpu.computeScore + gpu.graphicsScore) * 0.005
    let score := score - gpu.utilization * 100.0
    if c.thermalAware && greater gpu.temperature 80.0 then
      score - (gpu.temperature - 80.0) * 0.5
    else score

def indices (g : Gpus) : List Nat := List.range g.list.length

/-- The choice of `mvgal_scheduler_find_best_gpu`. -/
def bestGpu (c : Config) (g : Gpus) (x : Workload) : Option Nat :=
  (scan greater (fun i => calculateScore c g i x) (-1000.0, none)
    ((indices g).filter fun i => gpuSuitable g i x)).2

def Workload.assignGpu (x : Workload) (i : Nat) : Workload :=
  {x with descriptor := {x.descriptor with assignedGpu := i}}

/-- `mvgal_scheduler_find_best_gpu(workload, &workload->descriptor.assigned_gpu)`. -/
def findBestGpu (c : Config) (g : Gpus) (x : Workload) : Error × Workload :=
  match bestGpu c g x with
  | none => (.noGpus, x)
  | some i => (.success, x.assignGpu i)

def Workload.assignOne (x : Workload) (i : Nat) : Workload :=
  {x.assignGpu i with assignedGpuCount := 1, assignedGpus := x.assignedGpus.set 0 i}

def Workload.assigned (x : Workload) : List Nat := x.assignedGpus.toList.take x.assignedGpuCount

def afrInit (a : AfrState) : AfrState :=
  if a.initialized then a
  else ⟨0, 0, [], true, Nat.zero_le _, afr_current_lt_nil⟩

def afrConfigure (a : AfrState) (gpuIndices : List Nat) : Error × AfrState :=
  if h : gpuIndices = [] ∨ maxGpus < gpuIndices.length then (.invalidArgument, a)
  else
    (.success, ⟨0, 0, gpuIndices, (afrInit a).initialized, by omega,
      fun hne => List.length_pos_iff.mpr hne⟩)

def afrGetNextGpu (a : AfrState) : Nat × AfrState :=
  if a.gpuIndices = [] then (noGpu, a)
  else
    (a.gpuIndices[a.currentGpuIndex]?.getD noGpu,
      { a with
        currentGpuIndex := (a.currentGpuIndex + 1) % a.gpuIndices.length
        frameCounter := a.frameCounter + 1
        current_lt := fun hne => Nat.mod_lt _ (List.length_pos_iff.mpr hne) })

def maskIndices (mask : UInt64) : List Nat := (List.range maxGpus).filter (bitSet mask)

/-- The rotation `mvgal_scheduler_distribute_afr` reads its next GPU from. -/
def afrRotation (a : AfrState) (mask : UInt64) : AfrState :=
  if mask = anyGpu ∨ maskIndices mask = [] then afrInit a
  else (afrConfigure (afrInit a) (maskIndices mask)).2

def distributeAfr (c : Config) (g : Gpus) (a : AfrState) (x : Workload) : Error × AfrState × Workload :=
  if 0 < x.assignedGpuCount then (.success, afrInit a, x.assignGpu x.assignedGpus[0])
  else
    let next := afrGetNextGpu (afrRotation a x.descriptor.gpuMask)
    if next.1 = noGpu then
      let found := findBestGpu c g x
      (found.1, next.2, found.2)
    else (.success, next.2, x.assignOne next.1)

/-- The GPUs `mvgal_scheduler_distribute_sfr` and the task strategy draw from. -/
def usable (g : Gpus) (i : Nat) : Bool :=
  match g.list[i]? with
  | none => false
  | some gpu => gpu.available && gpu.enabled

def StrategyData.free : StrategyData → StrategyData
  | .null => .null
  | _ => .freed

/-- Replace the split data: the old block is freed, then `calloc` succeeds or not. -/
def replaceSplitData (alloc : Bool) (x : Workload) (data : SfrWorkloadData) : Error × Workload :=
  if alloc then (.success, {x with strategyData := .live data})
  else (.outOfMemory, {x with strategyData := x.strategyData.free})

/-- The equal split of a manual assignment: bands of one height, the last one longer. -/
def sfrEqualRegions (x : Workload) : List SfrRegion :=
  let regionHeight : UInt32 := 1080 / UInt32.ofNat x.assignedGpuCount
  x.assigned.zipIdx.map fun (gpu, i) =>
    { x := 0
      y := UInt32.ofNat i * regionHeight
      width := 1920
      height := if i = x.assignedGpuCount - 1 then 1080 - UInt32.ofNat i * regionHeight else regionHeight
      gpuIndex := gpu }

/-- The weight of one GPU in the split. -/
def sfrWeight (c : Config) (g : Gpus) (i : Nat) : Float32 :=
  match g.list[i]? with
  | none => 0.0
  | some gpu =>
    let base : Float32 := if Float32.le gpu.graphicsScore 0.0 then 1.0 else gpu.graphicsScore
    if c.dynamicLoadBalance then
      let util : Float32 := if Float32.lt gpu.utilization 0.01 then 0.01 else gpu.utilization
      base * (1.0 / util)
    else base

def Workload.assignAll (x : Workload) (l : List Nat) : Workload :=
  { x with
    assignedGpuCount := l.length
    assignedGpus := Vector.ofFn fun i => l[i.val]?.getD x.assignedGpus[i.val] }

/-- `sfr_create_split_data_weighted` for a frame of 1920 by 1080, whose mode is always
`SFR_MODE_HORIZONTAL`. -/
def sfrCreateSplitDataWeighted (alloc : Bool) (x : Workload) (weights : Nat → Float32) : Error × Workload :=
  if x.assignedGpuCount = 0 then (.invalidArgument, x)
  else
    replaceSplitData alloc x
      { regions := sfrSplitHorizontal 1920 1080 x.assignedGpuCount (some weights) (maxGpus * 4)
          fun i => (x.assigned[i % x.assignedGpuCount]?).getD 0
        originalWidth := 1920
        originalHeight := 1080 }

/-- `mvgal_scheduler_distribute_sfr`. The result of creating the split data is not
looked at. -/
def distributeSfr (alloc : Bool) (c : Config) (g : Gpus) (x : Workload) : Error × Workload :=
  if 0 < x.assignedGpuCount then
    let split := replaceSplitData alloc x ⟨sfrEqualRegions x, 1920, 1080⟩
    if split.1 = .success then (.success, split.2.assignGpu x.assignedGpus[0]) else split
  else
    match (List.range maxGpus).filter (usable g) with
    | [] => findBestGpu c g x
    | first :: others =>
      let gpus := first :: others
      let split := sfrCreateSplitDataWeighted alloc (x.assignAll gpus)
        fun i => sfrWeight c g (gpus[i]?.getD 0)
      (.success, split.2.assignGpu first)

/-- `task_type_mapping_t`, less the memory weight, which no score uses. -/
structure TaskMapping where
  requiredFeatures : UInt64
  computeWeight : Float32
  graphicsWeight : Float32

/-- `get_task_mapping`, with the default of its caller. -/
def taskMapping : WorkloadType → TaskMapping
  | .graphics => ⟨featureGraphics, 0.2, 0.7⟩
  | .compute => ⟨featureCompute, 0.8, 0.1⟩
  | .video => ⟨featureVideoDecode ||| featureVideoEncode, 0.5, 0.3⟩
  | .ai => ⟨featureAiAccel, 0.9, 0.0⟩
  | .trace => ⟨featureRayTracing, 0.6, 0.4⟩
  | .transfer => ⟨0, 0.1, 0.1⟩
  | .api _ => ⟨featureGraphics, 0.2, 0.7⟩

def hasFeatures (g : Gpus) (features : UInt64) (i : Nat) : Bool :=
  match g.list[i]? with
  | none => false
  | some gpu => gpu.features &&& features == features

def taskScore (g : Gpus) (m : TaskMapping) (i : Nat) : Float32 :=
  match g.list[i]? with
  | none => 0.0
  | some gpu =>
    let score : Float32 := 0.0
    let score := score + gpu.computeScore * m.computeWeight
    let score := score + gpu.graphicsScore * m.graphicsWeight
    let score := score + gpu.priority.toFloat32 * 0.01
    score - gpu.utilization * 50.0

def taskFallbackScore (g : Gpus) (i : Nat) : Float32 :=
  match g.list[i]? with
  | none => 0.0
  | some gpu =>
    let score := gpu.computeScore * 0.5 + gpu.graphicsScore * 0.5
    let score := score + gpu.priority.toFloat32 * 0.01
    score - gpu.utilization * 50.0

/-- The choice of `mvgal_scheduler_distribute_task`. -/
def taskGpu (g : Gpus) (x : Workload) : Option Nat :=
  let m := taskMapping x.descriptor.type
  let candidates := (indices g).filter (usable g)
  let best := scan greater (taskScore g m) (-1000.0, none)
    (candidates.filter (hasFeatures g m.requiredFeatures))
  match best.2 with
  | some i => some i
  | none => (scan greater (taskFallbackScore g) best candidates).2

def distributeTask (g : Gpus) (x : Workload) : Error × Workload :=
  if 0 < x.assignedGpuCount then (.success, x.assignGpu x.assignedGpus[0])
  else
    match taskGpu g x with
    | none => (.noGpus, x)
    | some i => (.success, x.assignOne i)

/-- What `MVGAL_STRATEGY_AUTO` stands for. -/
def autoStrategy : WorkloadType → Strategy
  | .graphics => .afr
  | .compute => .computeOffload
  | .video => .sfr
  | _ => .singleGpu

def effectiveStrategy (c : Config) (x : Workload) : Strategy :=
  if c.strategy = .auto then autoStrategy x.descriptor.type else c.strategy

def applyStrategy (alloc : Bool) (c : Config) (g : Gpus) (a : AfrState) (x : Workload) :
    Error × AfrState × Workload :=
  match effectiveStrategy c x with
  | .afr => distributeAfr c g a x
  | .sfr => let r := distributeSfr alloc c g x; (r.1, a, r.2)
  | .task => let r := distributeTask g x; (r.1, a, r.2)
  | .computeOffload | .hybrid | .singleGpu => let r := findBestGpu c g x; (r.1, a, r.2)
  | .custom | .roundRobin | .aiDriven | .auto => (.notSupported, a, x)

/-- The two structures differ in the assignment at most. -/
def AssignmentOnly (x x' : Workload) : Prop :=
  ∃ gpu count gpus data, x' =
    { x with
      descriptor := {x.descriptor with assignedGpu := gpu}
      assignedGpuCount := count
      assignedGpus := gpus
      strategyData := data }

theorem AssignmentOnly.refl (x : Workload) : AssignmentOnly x x := ⟨_, _, _, _, rfl⟩

theorem findBestGpu_assignmentOnly (c : Config) (g : Gpus) (x : Workload) :
    AssignmentOnly x (findBestGpu c g x).2 := by
  unfold findBestGpu
  split
  · exact .refl x
  · exact ⟨_, _, _, _, rfl⟩

theorem distributeAfr_assignmentOnly (c : Config) (g : Gpus) (a : AfrState) (x : Workload) :
    AssignmentOnly x (distributeAfr c g a x).2.2 := by
  unfold distributeAfr
  split
  · exact ⟨_, _, _, _, rfl⟩
  · dsimp only
    split
    · exact findBestGpu_assignmentOnly c g x
    · exact ⟨_, _, _, _, rfl⟩

theorem distributeSfr_assignmentOnly (alloc : Bool) (c : Config) (g : Gpus) (x : Workload) :
    AssignmentOnly x (distributeSfr alloc c g x).2 := by
  unfold distributeSfr
  split
  · unfold replaceSplitData
    cases alloc <;> exact ⟨_, _, _, _, rfl⟩
  · split
    · exact findBestGpu_assignmentOnly c g x
    · unfold sfrCreateSplitDataWeighted replaceSplitData
      split
      · exact ⟨_, _, _, _, rfl⟩
      · cases alloc <;> exact ⟨_, _, _, _, rfl⟩

theorem distributeTask_assignmentOnly (g : Gpus) (x : Workload) :
    AssignmentOnly x (distributeTask g x).2 := by
  unfold distributeTask
  split
  · exact ⟨_, _, _, _, rfl⟩
  · split
    · exact .refl x
    · exact ⟨_, _, _, _, rfl⟩

/-- **A strategy writes the assignment and nothing else.** -/
theorem applyStrategy_assignmentOnly (alloc : Bool) (c : Config) (g : Gpus) (a : AfrState) (x : Workload) :
    AssignmentOnly x (applyStrategy alloc c g a x).2.2 := by
  unfold applyStrategy
  cases effectiveStrategy c x with
  | afr => exact distributeAfr_assignmentOnly c g a x
  | sfr => exact distributeSfr_assignmentOnly alloc c g x
  | task => exact distributeTask_assignmentOnly g x
  | computeOffload | hybrid | singleGpu => exact findBestGpu_assignmentOnly c g x
  | custom | roundRobin | aiDriven | auto => exact .refl x

end Mvgal.Scheduler
