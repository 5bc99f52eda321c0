import Mvgal.Scheduler.Queue
import Mvgal.Scheduler.Strategy

/-! The calls of the scheduler on its global state (`scheduler.c`).

`mvgal_workload_complete` is given in the parts between which other threads can
run: the unlocked writes of the outcome, the signal under the workload's mutex,
the counters under the scheduler's lock, and the callback. A callback is an
event of the log; what it calls in turn is a call of its own. -/
namespace Mvgal.Scheduler

/-- The structure `mvgal_workload_create_internal` fills in. -/
def newWorkload (id : UInt32) (info : SubmitInfo) : Workload where
  refcount := 1
  state := .pending
  descriptor :=
    { id := id
      type := info.type
      priority := info.priority
      gpuMask := info.gpuMask.toUInt64
      completed := false
      result := .success
      assignedGpu := noGpu }
  callback := none
  userData := info.userData
  assignedGpuCount := 0
  assignedGpus := Vector.replicate maxGpus 0
  completionSignaled := false
  completionStatus := .success
  strategyData := .null

/-- `mvgal_workload_create_internal`, when `calloc` succeeds. -/
def workloadCreateInternal (s : State) (info : SubmitInfo) : Nat × State :=
  let w := s.heap.nextAddress
  (w, { s with
    heap :=
      { workloads := Function.update s.heap.workloads w
          (some (newWorkload s.nextWorkloadId.toUInt32 info))
        links := (s.heap.links.setNext w none).setPrev w none
        nextAddress := w + 1 }
    nextWorkloadId := s.nextWorkloadId + 1 })

def workloadDestroyInternal (h : Heap) (w : Nat) : Heap :=
  {h with workloads := Function.update h.workloads w none}

theorem destroy_other (h : Heap) {w v : Nat} (hv : v ≠ w) :
    (workloadDestroyInternal h w).workloads v = h.workloads v := by
  simp [workloadDestroyInternal, hv]

def workloadRelease (h : Heap) (w : Nat) : Heap :=
  match h.workloads w with
  | none => h
  | some x =>
    let h := h.modify w fun x => {x with refcount := x.refcount - 1}
    if x.refcount = 1 then workloadDestroyInternal h w else h

/-- `mvgal_scheduler_apply_strategy` on the structure at an address. `alloc` is the
outcome of the allocation it may make. -/
def State.applyStrategy (alloc : Bool) (s : State) (w : Nat) : Error × State :=
  match s.heap.workloads w with
  | none => (.invalidArgument, s)
  | some x =>
    let r := Scheduler.applyStrategy alloc s.config s.gpus s.afr x
    (r.1, {s.modify w (fun _ => r.2.2) with afr := r.2.1, log := s.log ++ [.applied w]})

def completionState (result : Error) : WorkloadState :=
  if result = .success then .completed else .failed

def Workload.mark (result : Error) (x : Workload) : Workload :=
  { x with
    state := completionState result
    descriptor := {x.descriptor with completed := true, result := result} }

def Workload.signal (status : Error) (x : Workload) : Workload :=
  {x with completionSignaled := true, completionStatus := status}

/-- `mvgal_workload_complete`: the outcome, written without a lock. -/
def completeMark (s : State) (w : Nat) (result : Error) : State :=
  {s.modify w (·.mark result) with log := s.log ++ [.completed w result]}

/-- `mvgal_workload_complete`: the signal to the waiting threads. -/
def completeSignal (s : State) (w : Nat) (result : Error) : State :=
  s.modify w (·.signal result)

/-- `mvgal_workload_complete`: the counters. -/
def completeCount (s : State) (w : Nat) (result : Error) : State :=
  if result = .success then
    { s with
      stats := {s.stats with workloadsCompleted := s.stats.workloadsCompleted + 1}
      log := s.log ++ [.countedCompleted w] }
  else
    { s with
      stats := { s.stats with
        workloadsCompleted := s.stats.workloadsCompleted + 1
        workloadsFailed := s.stats.workloadsFailed + 1 }
      log := s.log ++ [.countedCompleted w, .countedFailed w] }

/-- `mvgal_workload_complete`: the callback. -/
def completeNotify (s : State) (w : Nat) (result : Error) : State :=
  match (s.heap.workloads w).bind (·.callback) with
  | none => s
  | some callback => {s with log := s.log ++ [.notified w callback result]}

def workloadComplete (s : State) (w : Nat) (result : Error) : State :=
  completeNotify (completeCount (completeSignal (completeMark s w result) w result) w result) w result

/-- Completion writes the workload's structure twice and nothing else of the heap. -/
theorem workloadComplete_heap (s : State) (w : Nat) (result : Error) :
    (workloadComplete s w result).heap = (s.heap.modify w (·.mark result)).modify w (·.signal result) := by
  unfold workloadComplete completeNotify completeCount
  split <;> split <;> rfl

theorem workloadComplete_readyQueue (s : State) (w : Nat) (result : Error) :
    (workloadComplete s w result).readyQueue = s.readyQueue := by
  unfold workloadComplete completeNotify completeCount
  split <;> split <;> rfl

/-- What the processing loops do with a workload they took from the queue. -/
def processWorkload (alloc : Nat → Bool) (s : State) (w : Nat) : State :=
  let s := (s.applyStrategy (alloc w) w).2
  let s := workloadComplete s w .success
  {s with heap := workloadRelease s.heap w}

/-- The loop of `mvgal_scheduler_process_internal`; `none` is a loop still running. -/
def processLoop (alloc : Nat → Bool) : Nat → State → Option State
  | 0, _ => none
  | fuel + 1, s =>
    if s.readyQueue.count = 0 then some s
    else
      match workloadDequeuePriority s.heap s.readyQueue with
      | none => none
      | some (none, heap, queue) => processLoop alloc fuel {s with heap := heap, readyQueue := queue}
      | some (some w, heap, queue) =>
        processLoop alloc fuel (processWorkload alloc {s with heap := heap, readyQueue := queue} w)

def processInternal (alloc : Nat → Bool) (fuel : Nat) (s : State) : Option (Error × State) :=
  if s.initialized then (processLoop alloc fuel s).map (Error.success, ·)
  else some (.notInitialized, s)

/-- `mvgal_scheduler_module_init`, with the GPUs it finds. -/
def moduleInit (gpus : Gpus) (s : State) : Error × State :=
  if s.initialized then (.alreadyInitialized, s)
  else
    (.success, { s with
      initialized := true
      paused := false
      running := false
      threadRunning := false
      config := ⟨.auto, true, true⟩
      gpus := gpus
      readyQueue := ⟨⟨none, none⟩, 0, 0⟩
      stats := ⟨0, 0, 0⟩
      nextWorkloadId := 1 })

def submitted (info : SubmitInfo) (callback : Option Nat) (s : State) : State :=
  (workloadCreateInternal s info).2.modify s.heap.nextAddress
    fun x => {x with callback := callback, state := .queued}

/-- `mvgal_workload_submit` and `mvgal_workload_submit_with_callback` on an initialized
scheduler, up to the point where the workload stands in the ready queue. -/
def submitQueue (alloc : Bool) (info : SubmitInfo) (callback : Option Nat) (s : State) :
    Except Error Nat × State :=
  if alloc then
    let w := s.heap.nextAddress
    let s := submitted info callback s
    match workloadQueue s.heap s.readyQueue w with
    | (.success, heap, queue) =>
      (.ok w, { s with
        heap := heap
        readyQueue := queue
        stats := {s.stats with workloadsSubmitted := s.stats.workloadsSubmitted + 1} })
    | (err, _, _) => (.error err, {s with heap := workloadDestroyInternal s.heap w})
  else (.error .outOfMemory, s)

/-- `mvgal_workload_submit` and `mvgal_workload_submit_with_callback`: without a scheduler
thread the call processes the queue itself before it returns. -/
def workloadSubmit (gpus : Gpus) (alloc : Bool) (sfrAlloc : Nat → Bool) (fuel : Nat) (info : SubmitInfo)
    (callback : Option Nat) (s : State) : Option (Except Error Nat × State) :=
  match submitQueue alloc info callback (moduleInit gpus s).2 with
  | (.error e, s) => some (.error e, s)
  | (.ok w, s) =>
    if s.threadRunning then some (.ok w, s)
    else
      match processInternal sfrAlloc fuel s with
      | none => none
      | some (e, s) => some (if e = .success then .ok w else .error e, s)

def Workload.cancel (x : Workload) : Workload :=
  {x.signal .interrupted with state := .cancelled}

def workloadCancel (s : State) (w : Nat) : Error × State :=
  match s.heap.workloads w with
  | none => (.invalidArgument, s)
  | some x =>
    if x.state = .pending ∨ x.state = .queued then
      (.success, {s.modify w Workload.cancel with
        stats := {s.stats with workloadsFailed := s.stats.workloadsFailed + 1}
        log := s.log ++ [.cancelled w, .countedFailed w]})
    else (.notSupported, s)

def Workload.setPriority (x : Workload) (priority : UInt32) : Workload :=
  {x with descriptor := {x.descriptor with priority := priority}}

def workloadSetPriority (s : State) (w : Nat) (priority : UInt32) : Error × State :=
  match s.heap.workloads w with
  | none => (.invalidArgument, s)
  | some x =>
    if priority > 100 then (.invalidArgument, s)
    else if x.state = .queued then
      (.success, {s.modify w (·.setPriority priority) with
        readyQueue := {s.readyQueue with
          totalPriority := s.readyQueue.totalPriority - x.descriptor.priority.toUInt64 +
            priority.toUInt64}})
    else (.success, s.modify w (·.setPriority priority))

/-- `mvgal_workload_wait` with no time left, and the read that ends every wait: `none`
is a workload that has not been signalled. -/
def workloadWait (s : State) (w : Nat) : Option Error :=
  (s.heap.workloads w).bind fun x => if x.completionSignaled then some x.completionStatus else none

def workloadGetResult (s : State) (w : Nat) : Error :=
  match s.heap.workloads w with
  | none => .invalidArgument
  | some x => x.completionStatus

def zeroState : State where
  initialized := false
  paused := false
  running := false
  threadRunning := false
  config := ⟨.roundRobin, false, false⟩
  gpus := ⟨[], Nat.zero_le _⟩
  afr := ⟨0, 0, [], false, Nat.zero_le _, afr_current_lt_nil⟩
  readyQueue := ⟨⟨none, none⟩, 0, 0⟩
  heap := ⟨fun _ => none, ⟨fun _ => none, fun _ => none⟩, 0⟩
  stats := ⟨0, 0, 0⟩
  nextWorkloadId := 0
  log := []

def initialState (gpus : Gpus) : State := (moduleInit gpus zeroState).2

theorem ready_initialState (gpus : Gpus) :
    Ready (initialState gpus).heap (initialState gpus).readyQueue [] := ready_nil _

end Mvgal.Scheduler
