import Mvgal.Execution.Plan
import Mvgal.Lib.Run

/-! The frame table and its three entry points (`execution.c`).

A frame lives in one of 64 slots. It is found by its number among the slots in use, a
presented frame included; a new frame takes the first slot that was never used, else the
last one whose frame was presented, else slot 0. A submission that names no frame begins
one first. Each entry point is one function of the state and of what the rest of the
program answers, in the order of the source.

`history` is a history variable: it records the frames begun, and the submissions and
presentations that succeeded. No function reads it. -/
namespace Mvgal.Execution
open Function (update)

abbrev maxFrames : Nat := 64

abbrev Slot : Type := Fin maxFrames

/-- `mvgal_stats_t`, the counters that the entry points move. -/
structure Stats where
  framesSubmitted : UInt64
  framesCompleted : UInt64
  workloadsDistributed : UInt64
  vulkanWorkloads : UInt64
  cudaKernels : UInt64
  openclKernels : UInt64
  d3dWorkloads : UInt64
  metalWorkloads : UInt64
  webgpuWorkloads : UInt64
deriving DecidableEq

inductive Event where
  | begun (id : UInt64) (context : Nat)
  | submitted (id bytes : UInt64)
  | presented (id : UInt64)
deriving DecidableEq

structure State where
  initialized : Bool
  nextFrameId : UInt64
  frames : Slot → Frame
  stats : Stats
  history : List Event

def Frame.empty : Frame where
  inUse := false
  frameId := 0
  context := 0
  api := 0
  requestedStrategy := .roundRobin
  appliedStrategy := .roundRobin
  submitCount := 0
  presentCount := 0
  selectedGpus := []
  bytesScheduled := 0
  startTimeNs := 0
  endTimeNs := 0
  active := false
  steamMode := false
  protonMode := false
  lowLatency := false
  applicationName := []
  lastPlan := none

def Stats.zero : Stats := ⟨0, 0, 0, 0, 0, 0, 0, 0, 0⟩

def State.zero : State := ⟨false, 0, fun _ => Frame.empty, Stats.zero, []⟩

def Frame.live (frame : Frame) : Bool := frame.inUse && frame.active

def Frame.named (id : UInt64) (frame : Frame) : Bool := frame.inUse && frame.frameId == id

def findFrameState (s : State) (id : UInt64) : Option Slot := Fin.find? fun i => (s.frames i).named id

def allocateFrom (frames : Slot → Frame) (replacement : Slot) : List Slot → Slot
  | [] => replacement
  | i :: rest =>
    if !(frames i).inUse then i
    else allocateFrom frames (if !(frames i).active then i else replacement) rest

def allocateFrameState (s : State) : Slot := allocateFrom s.frames 0 (List.finRange maxFrames)

/-- What `mvgal_execution_module_init` does to a module that is not initialized. -/
def State.ready (s : State) : State :=
  if s.initialized then s
  else {s with initialized := true, nextFrameId := 1, frames := fun _ => Frame.empty, stats := Stats.zero}

/-- `ensure_execution_initialized`, as its callers read its result. -/
def ensureExecutionInitialized (env : Env) (s : State) : Except Error Unit × State :=
  if env.up ≠ .success ∧ env.up ≠ .alreadyInitialized then (.error env.up, s) else (.ok (), s.ready)

def resolveContext (env : Env) : Option Nat → Except Error Nat
  | some context => .ok context
  | none =>
    match env.current with
    | some context => .ok context
    | none => env.created

/-- How every entry point starts. -/
def prepare (env : Env) (context : Option Nat) (s : State) : Except Error Nat × State :=
  match ensureExecutionInitialized env s with
  | (.error e, s) => (.error e, s)
  | (.ok (), s) => (resolveContext env context, s)

def applicationLabel (name : Option (List Char)) (steam proton : Bool) : List Char :=
  match name with
  | some name => name.take 127
  | none => if proton then "proton".toList else if steam then "steam".toList else "mvgal".toList

def newFrame (env : Env) (context : Nat) (info : BeginInfo) (id : UInt64) : Frame :=
  let requested := if info.requestedStrategy = .auto then env.strategyOf context else info.requestedStrategy
  let steam := info.steamMode || env.steam
  let proton := info.protonMode || env.proton
  { Frame.empty with
    inUse := true
    active := true
    frameId := id
    context := context
    api := info.api
    requestedStrategy := requested
    appliedStrategy := requested
    steamMode := steam
    protonMode := proton
    lowLatency := info.lowLatency || steam || proton
    startTimeNs := env.now
    applicationName := applicationLabel info.applicationName steam proton }

def State.begin (s : State) (env : Env) (context : Nat) (info : BeginInfo) : State :=
  { s with
    frames := update s.frames (allocateFrameState s) (newFrame env context info s.nextFrameId)
    nextFrameId := s.nextFrameId + 1
    stats := {s.stats with framesSubmitted := s.stats.framesSubmitted + 1}
    history := s.history ++ [.begun s.nextFrameId context] }

def beginFrame (env : Env) (context : Option Nat) (info : BeginInfo) (s : State) : Except Error UInt64 × State :=
  match prepare env context s with
  | (.error e, s) => (.error e, s)
  | (.ok context, s) => (.ok s.nextFrameId, s.begin env context info)

/-- The counter of an API. -/
def Stats.countApi (stats : Stats) (api : Api) : Stats :=
  if api = apiVulkan then {stats with vulkanWorkloads := stats.vulkanWorkloads + 1}
  else if api = apiCuda then {stats with cudaKernels := stats.cudaKernels + 1}
  else if api = apiOpenCl then {stats with openclKernels := stats.openclKernels + 1}
  else if api = apiD3d11 ∨ api = apiD3d12 then {stats with d3dWorkloads := stats.d3dWorkloads + 1}
  else if api = apiMetal then {stats with metalWorkloads := stats.metalWorkloads + 1}
  else if api = apiWebGpu then {stats with webgpuWorkloads := stats.webgpuWorkloads + 1}
  else stats

def Frame.count (plan : Plan) (frame : Frame) : Frame :=
  { frame with
    submitCount := frame.submitCount + 1
    bytesScheduled := frame.bytesScheduled + plan.estimatedBytes
    appliedStrategy := plan.appliedStrategy
    selectedGpus := plan.selectedGpus
    lastPlan := some plan }

def State.countFrame (s : State) (id : UInt64) (plan : Plan) : Slot → Frame :=
  match findFrameState s id with
  | none => s.frames
  | some i => update s.frames i ((s.frames i).count plan)

def State.count (s : State) (id : UInt64) (api : Api) (plan : Plan) : State :=
  { s with
    frames := s.countFrame id plan
    stats := {s.stats with workloadsDistributed := s.stats.workloadsDistributed + 1}.countApi api
    history := s.history ++ [.submitted id plan.estimatedBytes] }

def submitTo (env : Env) (context : Nat) (info : SubmitInfo) (s : State) : Except Error Plan × State :=
  match findFrameState s info.frameId with
  | none => (.error .notFound, s)
  | some i =>
    match env.submitted with
    | .error e => (.error e, s)
    | .ok workload =>
      let plan := (planSubmit env context (s.frames i) info).schedule env workload
      (.ok plan, s.count info.frameId info.api plan)

/-- The frame that a submission without one begins. -/
def implicitFrame (env : Env) (info : SubmitInfo) : BeginInfo where
  api := info.api
  requestedStrategy := info.requestedStrategy
  applicationName := info.telemetry.stepName
  steamMode := env.steam
  protonMode := env.proton
  lowLatency := info.telemetry.isPresent

def submit (env : Env) (context : Option Nat) (info : SubmitInfo) (s : State) : Except Error Plan × State :=
  match prepare env context s with
  | (.error e, s) => (.error e, s)
  | (.ok context, s) =>
    if info.frameId = 0 then
      match beginFrame env (some context) (implicitFrame env info) s with
      | (.error e, s) => (.error e, s)
      | (.ok id, s) => submitTo env context {info with frameId := id} s
    else submitTo env context info s

def Frame.finish (env : Env) (plan : Plan) (frame : Frame) : Frame :=
  { frame with
    presentCount := frame.presentCount + 1
    active := false
    endTimeNs := env.now
    lastPlan := some plan }

def State.finish (s : State) (env : Env) (i : Slot) (id : UInt64) (plan : Plan) : State :=
  { s with
    frames := update s.frames i ((s.frames i).finish env plan)
    stats := {s.stats with framesCompleted := s.stats.framesCompleted + 1}
    history := s.history ++ [.presented id] }

def present (env : Env) (context : Option Nat) (id : UInt64) (api : Api) (s : State) :
    Except Error Plan × State :=
  if id = 0 then (.error .invalidArgument, s)
  else
    match prepare env context s with
    | (.error e, s) => (.error e, s)
    | (.ok _, s) =>
      match findFrameState s id with
      | none => (.error .notFound, s)
      | some i =>
        let plan := planPresent env (s.frames i) api
        (.ok plan, s.finish env i id plan)

/-- `mvgal_execution_reset_stats_internal`. The history starts again. -/
def resetStats (s : State) : State := if s.initialized then {s with stats := Stats.zero, history := []} else s

inductive Call where
  | beginFrame (context : Option Nat) (info : BeginInfo)
  | submit (context : Option Nat) (info : SubmitInfo)
  | present (context : Option Nat) (id : UInt64) (api : Api)

def perform (env : Env) (s : State) : Call → State
  | .beginFrame context info => (beginFrame env context info s).2
  | .submit context info => (submit env context info s).2
  | .present context id api => (present env context id api s).2

/-- One call, with what it is answered by the rest of the program. -/
def step (s : State) (call : Env × Call) : Option State := some (perform call.1 s call.2)

def plainEnv : Env where
  up := .success
  current := some 1
  created := .error .outOfMemory
  strategyOf := fun _ => .hybrid
  steam := false
  proton := false
  now := 0
  gpus := ⟨1, by decide, fun _ => 0, fun _ => true⟩
  vendor := fun _ => none
  submitted := .error .memory

def plainFrame : BeginInfo := ⟨apiVulkan, .auto, none, false, false, false⟩

variable {s : State} {env : Env} {id : UInt64} {i j : Slot}

theorem find_some_iff : findFrameState s id = some i ↔
    (s.frames i).named id = true ∧ ∀ j, j < i → (s.frames j).named id = false :=
  Fin.find?_eq_some_iff

theorem named_iff {frame : Frame} : frame.named id = true ↔ frame.inUse = true ∧ frame.frameId = id := by
  simp [Frame.named]

theorem live_iff {frame : Frame} : frame.live = true ↔ frame.inUse = true ∧ frame.active = true := by
  simp [Frame.live]

variable {s' : State}

/-- Only the numbers of the slots in use matter to a search. -/
theorem find_congr (h : ∀ i, (s'.frames i).named id = (s.frames i).named id) :
    findFrameState s' id = findFrameState s id := by
  unfold findFrameState
  rw [funext h]

/-- A slot is free for a new frame, or its frame was presented. -/
def Room (s : State) : Prop := ∃ i, (s.frames i).live = false

/-- The loop ends in a slot without a live frame if it started with one or meets one. -/
theorem allocateFrom_live {frames : Slot → Frame} {replacement : Slot} {slots : List Slot}
    (h : (frames replacement).live = false ∨ ∃ i ∈ slots, (frames i).live = false) :
    (frames (allocateFrom frames replacement slots)).live = false := by
  induction slots generalizing replacement with
  | nil =>
    obtain h | ⟨i, hi, -⟩ := h
    · exact h
    · exact absurd hi List.not_mem_nil
  | cons i rest ih =>
    unfold allocateFrom
    cases huse : (frames i).inUse with
    | false => simp [Frame.live, huse]
    | true =>
      apply ih
      cases hactive : (frames i).active with
      | false => exact .inl (by simp [Frame.live, hactive])
      | true =>
        refine h.imp id fun ⟨j, hj, hlive⟩ => ⟨j, ?_, hlive⟩
        obtain rfl | hj := List.mem_cons.mp hj
        · rw [live_iff.mpr ⟨huse, hactive⟩] at hlive
          exact nomatch hlive
        · exact hj

theorem allocate_live (h : Room s) : (s.frames (allocateFrameState s)).live = false := by
  obtain ⟨i, hi⟩ := h
  exact allocateFrom_live (.inr ⟨i, List.mem_finRange i, hi⟩)

theorem not_room (h : ¬ Room s) (i : Slot) : (s.frames i).live = true := by
  by_contra hi
  exact h ⟨i, Bool.eq_false_iff.mpr hi⟩

/-! ### What the calls do -/

def enters (env : Env) (context : Option Nat) : Except Error Nat :=
  if env.up ≠ .success ∧ env.up ≠ .alreadyInitialized then .error env.up else resolveContext env context

def Call.begins : Call → Option (Option Nat)
  | .beginFrame context _ => some context
  | .submit context info => if info.frameId = 0 then some context else none
  | .present .. => none

/-- The call comes to begin a frame. -/
def Begins (env : Env) (call : Call) : Prop := ∃ context c, call.begins = some context ∧ enters env context = .ok c

theorem prepare_ok {context : Option Nat} {c : Nat} (h : enters env context = .ok c) :
    prepare env context s = (.ok c, s.ready) := by
  unfold enters at h
  unfold prepare ensureExecutionInitialized
  split at h
  · cases h
  · rename_i hup
    rw [if_neg hup, ← h]

theorem prepare_error {context : Option Nat} {e : Error} (h : enters env context = .error e) :
    ∃ e' s', prepare env context s = (.error e', s') ∧ (s' = s ∨ s' = s.ready) := by
  unfold enters at h
  unfold prepare ensureExecutionInitialized
  split at h
  · rename_i hup
    rw [if_pos hup]
    exact ⟨env.up, s, rfl, .inl rfl⟩
  · rename_i hup
    rw [if_neg hup, h]
    exact ⟨e, s.ready, rfl, .inr rfl⟩

theorem enters_found {context : Option Nat} {c : Nat} (h : enters env context = .ok c) :
    enters env (some c) = .ok c := by
  unfold enters at h ⊢
  split at h
  · cases h
  · rename_i hup
    rw [if_neg hup]
    rfl

def Presents (env : Env) (s : State) (call : Call) (i : Slot) (id : UInt64) : Prop :=
  ∃ context api c, call = .present context id api ∧ id ≠ 0 ∧ enters env context = .ok c ∧
    findFrameState s.ready id = some i

/-- The locked parts of the entry points that a call comes to. -/
inductive Effect (env : Env) (s : State) (call : Call) : State → Prop
  | none {s' : State} (hs : s' = s ∨ s' = s.ready) (hb : ¬ Begins env call) (hp : ∀ i id, ¬ Presents env s call i id) :
      Effect env s call s'
  | begun (context : Nat) (info : BeginInfo) (hb : Begins env call) :
      Effect env s call (s.ready.begin env context info)
  | begunCounted (context : Nat) (info : BeginInfo) (api : Api) (plan : Plan) (i : Slot) (hb : Begins env call)
      (hfind : findFrameState (s.ready.begin env context info) s.ready.nextFrameId = some i) :
      Effect env s call ((s.ready.begin env context info).count s.ready.nextFrameId api plan)
  | counted (id : UInt64) (api : Api) (plan : Plan) (i : Slot) (hb : ¬ Begins env call)
      (hp : ∀ i id, ¬ Presents env s call i id) (hfind : findFrameState s.ready id = some i) :
      Effect env s call (s.ready.count id api plan)
  | presented (i : Slot) (id : UInt64) (plan : Plan) (hp : Presents env s call i id) :
      Effect env s call (s.ready.finish env i id plan)

def Call.context : Call → Option Nat
  | .beginFrame context _ => context
  | .submit context _ => context
  | .present context _ _ => context

variable {call : Call}

/-- A call that is refused at its start does nothing but, perhaps, the initialization. -/
theorem Effect.refused {e : Error} (h : enters env call.context = .error e)
    (hs : s' = s ∨ s' = s.ready) : Effect env s call s' := by
  refine .none hs ?_ ?_
  · intro ⟨context, c, hbegins, hok⟩
    have hcontext : call.context = context := by
      cases call with
      | beginFrame context' info => exact Option.some.inj hbegins
      | submit context' info => exact Option.some.inj (Option.ite_none_right_eq_some.mp hbegins).2
      | present context' id api => exact nomatch hbegins
    rw [← hcontext, h] at hok
    exact nomatch hok
  · intro i id ⟨context, api, c, hcall, _, hok, _⟩
    rw [hcall] at h
    exact nomatch h.symm.trans hok

theorem Begins.not_presents (hb : Begins env call) (i : Slot) (id : UInt64) :
    ¬ Presents env s call i id := by
  rintro ⟨context, api, c, rfl, -⟩
  obtain ⟨context', c', hbegins, -⟩ := hb
  cases hbegins

theorem Presents.not_begins (hp : Presents env s call i id) : ¬ Begins env call :=
  fun hb => hb.not_presents i id hp

theorem Presents.unique {id' : UInt64} (h : Presents env s call i id)
    (h' : Presents env s call j id') : i = j ∧ id = id' := by
  obtain ⟨context, api, c, rfl, -, -, hfind⟩ := h
  obtain ⟨context', api', c', hcall, -, -, hfind'⟩ := h'
  injection hcall with _ hid _
  subst hid
  exact ⟨Option.some.inj (hfind.symm.trans hfind'), rfl⟩

theorem beginFrame_effect (env : Env) (s : State) (context : Option Nat) (info : BeginInfo) :
    Effect env s (.beginFrame context info) (beginFrame env context info s).2 := by
  unfold beginFrame
  cases henters : enters env context with
  | ok c =>
    rw [prepare_ok henters]
    exact .begun c info ⟨context, c, rfl, henters⟩
  | error e =>
    obtain ⟨e', s', h, hs⟩ := prepare_error henters
    rw [h]
    exact .refused henters hs

theorem ready_initialized (s : State) : s.ready.initialized = true := by
  unfold State.ready
  split
  · assumption
  · rfl

theorem ready_of_initialized (h : s.initialized = true) : s.ready = s := if_pos h

@[simp] theorem ready_ready (s : State) : s.ready.ready = s.ready := ready_of_initialized (ready_initialized s)

/-- Once the number is known, a submission counts in its frame or leaves the state as it is. -/
theorem submitTo_cases (env : Env) (context : Nat) (info : SubmitInfo) (s : State) :
    (submitTo env context info s).2 = s ∨ ∃ i plan, findFrameState s info.frameId = some i ∧
        (submitTo env context info s).2 = s.count info.frameId info.api plan := by
  unfold submitTo
  split
  · exact .inl rfl
  · rename_i i hfind
    split
    · exact .inl rfl
    · exact .inr ⟨i, _, hfind, rfl⟩

theorem submit_effect (env : Env) (s : State) (context : Option Nat) (info : SubmitInfo) :
    Effect env s (.submit context info) (submit env context info s).2 := by
  unfold submit
  cases henters : enters env context with
  | ok c =>
    rw [prepare_ok henters]
    dsimp only
    split
    · rename_i hzero
      have hb : Begins env (.submit context info) := ⟨context, c, by simp [Call.begins, hzero], henters⟩
      unfold beginFrame
      rw [prepare_ok (enters_found henters), ready_ready]
      obtain h | ⟨i, plan, hfind, h⟩ := submitTo_cases env c {info with frameId := s.ready.nextFrameId}
        (s.ready.begin env c (implicitFrame env info))
      · rw [h]
        exact .begun c _ hb
      · rw [h]
        exact .begunCounted c _ _ plan i hb hfind
    · rename_i hnonzero
      have hb : ¬ Begins env (.submit context info) := by
        intro ⟨context', c', hcontext, _⟩
        simp [Call.begins, hnonzero] at hcontext
      have hp (i : Slot) (id : UInt64) : ¬ Presents env s (.submit context info) i id := by
        intro ⟨context', api, c, hcall, _⟩
        cases hcall
      obtain h | ⟨i, plan, hfind, h⟩ := submitTo_cases env c info s.ready
      · rw [h]
        exact .none (.inr rfl) hb hp
      · rw [h]
        exact .counted _ _ plan i hb hp hfind
  | error e =>
    obtain ⟨e', s', h, hs⟩ := prepare_error henters
    rw [h]
    exact .refused henters hs

theorem present_effect (env : Env) (s : State) (context : Option Nat) (id : UInt64) (api : Api) :
    Effect env s (.present context id api) (present env context id api s).2 := by
  have hb : ¬ Begins env (.present context id api) := by
    intro ⟨context', c, hcontext, _⟩
    cases hcontext
  unfold present
  split
  · rename_i hzero
    refine .none (.inl rfl) hb fun i id' hp => ?_
    obtain ⟨context', api', c, hcall, hid, -⟩ := hp
    injection hcall with _ hid' _
    exact hid (hid' ▸ hzero)
  · rename_i hid
    cases henters : enters env context with
    | ok c =>
      rw [prepare_ok henters]
      dsimp only
      cases hfind : findFrameState s.ready id with
      | some i => exact .presented i id _ ⟨context, api, c, rfl, hid, henters, hfind⟩
      | none =>
        refine .none (.inr rfl) hb fun i id' hp => ?_
        obtain ⟨context', api', c', hcall, -, -, hfind'⟩ := hp
        injection hcall with _ hid' _
        rw [← hid', hfind] at hfind'
        cases hfind'
    | error e =>
      obtain ⟨e', s', h, hs⟩ := prepare_error henters
      rw [h]
      exact .refused henters hs

/-- **What a call can do.** -/
theorem perform_effect (env : Env) (s : State) (call : Call) : Effect env s call (perform env s call) := by
  cases call with
  | beginFrame context info => exact beginFrame_effect env s context info
  | submit context info => exact submit_effect env s context info
  | present context id api => exact present_effect env s context id api

/-- The rule for a property that a submission's counting neither makes nor breaks: after a
call it holds exactly if the frame begun and the frame presented were right for it. -/
theorem Effect.holds_iff {P : State → Prop} {B : Prop} {F : Slot → UInt64 → Prop}
    (h : Effect env s call s') (hs : P s) (hready : P s.ready)
    (hcount : ∀ s id api plan i, findFrameState s id = some i → (P (s.count id api plan) ↔ P s))
    (hbegin : ∀ context info, P (s.ready.begin env context info) ↔ B)
    (hfinish : ∀ i id plan, findFrameState s.ready id = some i → (P (s.ready.finish env i id plan) ↔ F i id)) :
    P s' ↔ (Begins env call → B) ∧ ∀ i id, Presents env s call i id → F i id := by
  have begins_iff (hb : Begins env call) :
      B ↔ (Begins env call → B) ∧ ∀ i id, Presents env s call i id → F i id :=
    ⟨fun hB => ⟨fun _ => hB, fun i id hp => absurd hp (hb.not_presents i id)⟩, fun h => h.1 hb⟩
  cases h with
  | none hs' hb hp =>
    refine iff_of_true ?_ ⟨fun h => absurd h hb, fun i id h => absurd h (hp i id)⟩
    obtain rfl | rfl := hs'
    · exact hs
    · exact hready
  | begun context info hb => exact (hbegin context info).trans (begins_iff hb)
  | begunCounted context info api plan i hb hfind =>
    exact ((hcount _ _ api plan i hfind).trans (hbegin context info)).trans (begins_iff hb)
  | counted id api plan i hb hp hfind =>
    exact iff_of_true ((hcount _ _ api plan i hfind).mpr hready)
      ⟨fun h => absurd h hb, fun i id h => absurd h (hp i id)⟩
  | presented i id plan hp =>
    have hfind : findFrameState s.ready id = some i := by
      obtain ⟨_, _, _, _, _, _, hfind⟩ := hp
      exact hfind
    rw [hfinish i id plan hfind]
    constructor
    · intro hF
      refine ⟨fun hb => absurd hb hp.not_begins, fun j id' hp' => ?_⟩
      obtain ⟨rfl, rfl⟩ := hp.unique hp'
      exact hF
    · intro h
      exact h.2 i id hp

/-! ### The table after each effect -/

variable {k : Slot}

section
variable (h : findFrameState s id = some k)
include h

theorem count_frames (api : Api) (plan : Plan) :
    (s.count id api plan).frames = update s.frames k ((s.frames k).count plan) := by
  show s.countFrame id plan = _
  unfold State.countFrame
  rw [h]

theorem count_named (api : Api) (plan : Plan) (id' : UInt64)
    (i : Slot) : ((s.count id api plan).frames i).named id' = (s.frames i).named id' := by
  rw [count_frames h]
  refine Table.view_update (Frame.named id') ?_ i
  rfl

theorem count_live (api : Api) (plan : Plan) (i : Slot) :
    ((s.count id api plan).frames i).live = (s.frames i).live := by
  rw [count_frames h]
  refine Table.view_update Frame.live ?_ i
  rfl

theorem find_count (api : Api) (plan : Plan) (id' : UInt64) :
    findFrameState (s.count id api plan) id' = findFrameState s id' :=
  find_congr (count_named h api plan id')

end

theorem find_finish (s : State) (env : Env) (i : Slot) (id : UInt64) (plan : Plan) (id' : UInt64) :
    findFrameState (s.finish env i id plan) id' = findFrameState s id' :=
  find_congr (Table.view_update (Frame.named id') rfl)

end Mvgal.Execution
