import Mvgal.Execution.Frames
import Mvgal.Lib.Override
import Mvgal.Scheduler.Process

/-! The strategy of one submission (`submit_scheduler_workload`).

The scheduler has one strategy. To have a workload distributed under the strategy of its
plan, a submission reads the scheduler's strategy, writes its own, submits the workload and
writes back what it had read. Each of the four takes the scheduler's lock by itself. No
scheduler thread is ever started, so `mvgal_workload_submit` distributes the workload before
it returns. What a submission does before and after (planning, releasing the workload)
touches neither the strategy nor the queue and is left out.

With respect to the strategy this is a shared setting that is overwritten for one use
(`Override`). Over every interleaving of submissions with changes by the application:
`strategy_kept_iff`, and `strategy_kept_of_serial` for submissions one at a time. -/
namespace Mvgal.Execution
open List Scheduler
open Function (update)
open Run (Along Admitted)
open Scheduler (Ready handOvers workloadSubmit)

def schedulerSetStrategy (s : Scheduler.State) (strategy : Strategy) : Scheduler.State :=
  {s with config := {s.config with strategy := strategy}}

def schedulerGetStrategy (s : Scheduler.State) : Strategy := s.config.strategy

/-- A call of `submit_scheduler_workload`. -/
structure Job where
  env : Env
  info : SubmitInfo
  plan : Plan

/-- Where the call of a thread is, with the `previous_strategy` it read. -/
inductive JobPhase where
  | idle
  | saved (job : Job) (previous : Strategy)
  | installed (job : Job) (previous : Strategy)
  | submitted (job : Job) (previous : Strategy)

def applied (s : Scheduler.State) : List Nat :=
  s.log.filterMap fun
    | .applied w => some w
    | _ => none

/-- The scheduler, the threads, the strategy that the application set last, the plans of the
workloads that were submitted, and the strategy each workload was distributed under. -/
structure World where
  sched : Scheduler.State
  thread : Nat → JobPhase
  chosen : Strategy
  planned : Nat → Option Plan
  distributed : List (Nat × Strategy)

/-- The outcomes of the allocations of `mvgal_workload_submit`, and enough fuel for its loop. -/
structure Outcome where
  alloc : Bool
  sfrAlloc : Nat → Bool
  fuel : Nat

inductive WorldAction where
  | save (t : Nat) (job : Job)
  | install (t : Nat)
  | submit (t : Nat) (outcome : Outcome)
  | restore (t : Nat)
  | setStrategy (strategy : Strategy)

/-- The world after a submission that left the scheduler as `s'`. The workloads distributed
meanwhile were distributed under the strategy then in force. -/
def World.submitted (w : World) (t : Nat) (job : Job) (previous : Strategy) (s' : Scheduler.State) : World :=
  { w with
    sched := s'
    thread := update w.thread t (.submitted job previous)
    planned := update w.planned w.sched.heap.nextAddress (some job.plan)
    distributed := w.distributed ++
      ((applied s').drop (applied w.sched).length).map fun v => (v, schedulerGetStrategy w.sched) }

def worldStep (w : World) : WorldAction → Option World
  | .save t job =>
    match w.thread t with
    | .idle => some {w with thread := update w.thread t (.saved job (schedulerGetStrategy w.sched))}
    | _ => none
  | .install t =>
    match w.thread t with
    | .saved job previous => some { w with
        sched := schedulerSetStrategy w.sched job.plan.appliedStrategy
        thread := update w.thread t (.installed job previous) }
    | _ => none
  | .submit t outcome =>
    match w.thread t with
    | .installed job previous =>
      (workloadSubmit w.sched.gpus outcome.alloc outcome.sfrAlloc outcome.fuel
        (schedulerInfo job.env job.info job.plan) none w.sched).map fun r => w.submitted t job previous r.2
    | _ => none
  | .restore t =>
    match w.thread t with
    | .submitted _ previous => some { w with
        sched := schedulerSetStrategy w.sched previous
        thread := update w.thread t .idle }
    | _ => none
  | .setStrategy strategy => some {w with sched := schedulerSetStrategy w.sched strategy, chosen := strategy}

def NoneInProgress (w : World) : Prop := ∀ t, w.thread t = .idle

/-- With no submission in progress the strategy is the one the application set last, and every
workload was distributed under the strategy of its plan. -/
structure StrategyKept (w : World) : Prop where
  rest : NoneInProgress w → schedulerGetStrategy w.sched = w.chosen
  own : ∀ v strategy, (v, strategy) ∈ w.distributed → ∃ plan, w.planned v = some plan ∧ plan.appliedStrategy = strategy

/-- A submission that gets its memory finds its own strategy in force; the last submission in
progress puts back the strategy the application set last. -/
def StrategyOk (w : World) : WorldAction → Prop
  | .submit t outcome => ∀ job previous, w.thread t = .installed job previous → outcome.alloc = true →
      job.plan.appliedStrategy = schedulerGetStrategy w.sched
  | .restore t => ∀ job previous, w.thread t = .submitted job previous →
      (∀ u, u ≠ t → w.thread u = .idle) → previous = w.chosen
  | _ => True

/-- A submission begins, and the application sets the strategy, with none in progress. -/
def OneAtATime (w : World) : WorldAction → Prop
  | .save _ _ => NoneInProgress w
  | .setStrategy _ => NoneInProgress w
  | _ => True

/-! ### The settings of the scheduler -/

/-- The settings are as before, and the addresses given out. -/
structure SameSettings (s s' : Scheduler.State) : Prop where
  config : s'.config = s.config
  initialized : s'.initialized = s.initialized
  threadRunning : s'.threadRunning = s.threadRunning
  nextAddress : s'.heap.nextAddress = s.heap.nextAddress

theorem sameSettings_processWorkload (alloc : Nat → Bool) (s : Scheduler.State) (w : Nat) :
    SameSettings s (Scheduler.processWorkload alloc s w) := by
  have happly : (s.applyStrategy (alloc w) w).2.config = s.config ∧
      (s.applyStrategy (alloc w) w).2.initialized = s.initialized ∧
      (s.applyStrategy (alloc w) w).2.threadRunning = s.threadRunning := by
    unfold Scheduler.State.applyStrategy
    split
    · exact ⟨rfl, rfl, rfl⟩
    · exact ⟨rfl, rfl, rfl⟩
  have hcomplete (s : Scheduler.State) : (Scheduler.workloadComplete s w .success).config = s.config ∧
      (Scheduler.workloadComplete s w .success).initialized = s.initialized ∧
      (Scheduler.workloadComplete s w .success).threadRunning = s.threadRunning := by
    unfold Scheduler.workloadComplete Scheduler.completeNotify Scheduler.completeCount
    split <;> split <;> exact ⟨rfl, rfl, rfl⟩
  obtain ⟨hconfig, hinit, hthread⟩ := hcomplete (s.applyStrategy (alloc w) w).2
  exact ⟨hconfig.trans happly.1, hinit.trans happly.2.1, hthread.trans happly.2.2,
    (Scheduler.local_processWorkload alloc s w).nextAddress⟩

/-! ### A submission to a scheduler with an empty queue -/

/-- The scheduler is up, has no thread of its own, and its queue is empty. -/
structure Quiet (s : Scheduler.State) : Prop where
  initialized : s.initialized = true
  inline : s.threadRunning = false
  empty : Ready s.heap s.readyQueue []

theorem Quiet.setStrategy {s : Scheduler.State} (h : Quiet s) (strategy : Strategy) :
    Quiet (schedulerSetStrategy s strategy) :=
  ⟨h.initialized, h.inline, h.empty⟩

theorem applied_eq (s : Scheduler.State) : applied s = (handOvers s).filterMap fun
    | .applied w => some w
    | _ => none := by
  unfold applied handOvers
  rw [filterMap_filter]
  apply filterMap_congr
  intro e _
  cases e <;> rfl

/-- The loop over a queue of one workload distributes it. -/
theorem processLoop_one {alloc : Nat → Bool} {fuel : Nat} {s s' : Scheduler.State} {w : Nat}
    (hr : Ready s.heap s.readyQueue [w]) (hpriority : s.heap.priority w ≠ 0)
    (h : Scheduler.processLoop alloc fuel s = some s') :
    Ready s'.heap s'.readyQueue [] ∧ applied s' = applied s ++ [w] ∧ SameSettings s s' := by
  have hcount : s.readyQueue.count ≠ 0 := fun h => cons_ne_nil w [] (hr.count_eq_zero.mp h)
  cases fuel with
  | zero => cases h
  | succ fuel =>
    obtain ⟨-, hzero⟩ | ⟨v, links, ends, hdeq, hfirst, hlist⟩ := hr.dequeuePriority
    · exact absurd (hzero w mem_cons_self) hpriority
    · obtain rfl : v = w := mem_singleton.mp hfirst.mem
      rw [Scheduler.processLoop, if_neg hcount, hdeq] at h
      dsimp only at h
      set s₀ : Scheduler.State := {s with heap := {s.heap with links := links}, readyQueue :=
        ⟨ends, s.readyQueue.count - 1, s.readyQueue.totalPriority - (s.heap.priority v).toUInt64⟩}
      have hsettings := sameSettings_processWorkload alloc s₀ v
      have hempty : Ready (Scheduler.processWorkload alloc s₀ v).heap
          (Scheduler.processWorkload alloc s₀ v).readyQueue [] := by
        have hremoved := hr.remove mem_cons_self hlist
          (s.readyQueue.totalPriority - (s.heap.priority v).toUInt64)
        rw [erase_cons_head] at hremoved
        exact hremoved.local (Scheduler.local_processWorkload alloc s₀ v) fun hm => absurd hm not_mem_nil
      have hs : s' = Scheduler.processWorkload alloc s₀ v := by
        cases fuel with
        | zero => cases h
        | succ fuel =>
          rw [Scheduler.processLoop, if_pos (hempty.count_eq_zero.mpr rfl)] at h
          exact (Option.some.inj h).symm
      have hhand := Scheduler.handOvers_processWorkload alloc s₀ (hr.allocated v mem_cons_self)
      rw [hs]
      refine ⟨hempty, ?_, ⟨hsettings.config, hsettings.initialized, hsettings.threadRunning, hsettings.nextAddress⟩⟩
      rw [applied_eq, hhand, filterMap_append, ← applied_eq]
      rfl

theorem schedulerInfo_priority (env : Env) (info : SubmitInfo) (plan : Plan) :
    (schedulerInfo env info plan).priority ≠ 0 := by
  unfold schedulerInfo
  dsimp only
  split
  · decide
  · split
    · decide
    · decide

theorem queuedState_priority (info : Scheduler.SubmitInfo) (s : Scheduler.State) :
    (Scheduler.queuedState info none s).heap.priority s.heap.nextAddress = info.priority := by
  have hsubmitted : (submitted info none s).heap.priority s.heap.nextAddress = info.priority := by
    unfold Heap.priority
    rw [submitted_self]
    rfl
  unfold queuedState workloadQueue
  dsimp only
  split
  · exact hsubmitted
  · show (workloadRetain (submitted info none s).heap s.heap.nextAddress).priority _ = _
    unfold workloadRetain
    rw [modify_priority]
    · exact hsubmitted
    · intro x
      rfl

/-- **One submission.** It leaves the settings as they were and the queue empty, and distributes
its workload if it gets the memory for it. -/
theorem submit_quiet {s s' : Scheduler.State} (h : Quiet s) {outcome : Outcome} {info : Scheduler.SubmitInfo}
    (hpriority : info.priority ≠ 0) {gpus : Scheduler.Gpus} {r : Except Error Nat}
    (hsubmit : workloadSubmit gpus outcome.alloc outcome.sfrAlloc outcome.fuel info none s = some (r, s')) :
    Quiet s' ∧ s'.config = s.config ∧ s.heap.nextAddress + (if outcome.alloc then 1 else 0) = s'.heap.nextAddress ∧
      applied s' = applied s ++ if outcome.alloc then [s.heap.nextAddress] else [] := by
  have hinit : (moduleInit gpus s).2 = s := by
    unfold moduleInit
    rw [if_pos h.initialized]
  unfold workloadSubmit at hsubmit
  rw [hinit] at hsubmit
  cases halloc : outcome.alloc with
  | false =>
    rw [halloc] at hsubmit
    cases hsubmit
    simp [h]
  | true =>
    have hroom : ¬ maxQueued ≤ s.readyQueue.count := by
      rw [h.empty.count_eq_zero.mpr rfl]
      decide
    have hready := h.empty.queuedState info none hroom
    have hinline : (queuedState info none s).threadRunning = false := h.inline
    have hup : (queuedState info none s).initialized = true := h.initialized
    rw [halloc, submitQueue_of_room info none hroom] at hsubmit
    simp only [hinline, Bool.false_eq_true, if_false, processInternal, hup, if_true] at hsubmit
    cases hloop : processLoop outcome.sfrAlloc outcome.fuel (queuedState info none s) with
    | none =>
      rw [hloop] at hsubmit
      cases hsubmit
    | some s₁ =>
      rw [hloop] at hsubmit
      cases hsubmit
      have hpriority' : (queuedState info none s).heap.priority s.heap.nextAddress ≠ 0 := by
        rw [queuedState_priority]
        exact hpriority
      obtain ⟨hempty, happlied, hsettings⟩ := processLoop_one hready hpriority' hloop
      refine ⟨⟨hsettings.initialized.trans hup, hsettings.threadRunning.trans hinline, hempty⟩, hsettings.config,
        ?_, happlied⟩
      rw [hsettings.nextAddress, queuedState_nextAddress]
      rfl

/-! ### The strategy as a shared setting -/

def JobPhase.cell : JobPhase → Override.Phase Strategy
  | .idle => .idle
  | .saved job previous => .saved job.plan.appliedStrategy previous
  | .installed job previous => .installed job.plan.appliedStrategy previous
  | .submitted job previous => .used job.plan.appliedStrategy previous

/-- The strategy that a workload's plan asked for. -/
def World.wanted (w : World) (v : Nat) : Option Strategy := (w.planned v).map Plan.appliedStrategy

def World.cell (w : World) : Override.Cell Nat Strategy where
  value := schedulerGetStrategy w.sched
  chosen := w.chosen
  phase := fun t => (w.thread t).cell
  uses := w.distributed.map fun d => ((w.wanted d.1).getD d.2, d.2)

def WorldAction.cell : WorldAction → Override.Action Nat Strategy
  | .save t job => .save t job.plan.appliedStrategy
  | .install t => .install t
  | .submit t outcome => .use t outcome.alloc
  | .restore t => .restore t
  | .setStrategy strategy => .choose strategy

/-- The queue is empty between the scheduler's calls, and the workloads that were distributed
have a plan and an address that is not given out again. -/
structure Coherent (w : World) : Prop where
  quiet : Quiet w.sched
  known : ∀ d ∈ w.distributed, d.1 < w.sched.heap.nextAddress ∧ ∃ plan, w.planned d.1 = some plan

variable {w w' : World} {a : WorldAction} {p : JobPhase}

theorem cell_eq_idle_iff : p.cell = .idle ↔ p = .idle := by
  cases p <;> simp [JobPhase.cell]

theorem cell_eq_installed_iff {own previous : Strategy} :
    p.cell = .installed own previous ↔ ∃ job, p = .installed job previous ∧ job.plan.appliedStrategy = own := by
  cases p <;> simp [JobPhase.cell, and_comm]

theorem cell_eq_used_iff {own previous : Strategy} :
    p.cell = .used own previous ↔ ∃ job, p = .submitted job previous ∧ job.plan.appliedStrategy = own := by
  cases p <;> simp [JobPhase.cell, and_comm]

theorem phase_of_thread {t : Nat} (h : w.thread t = p) : w.cell.phase t = p.cell :=
  congrArg JobPhase.cell h

theorem noneInProgress_iff : NoneInProgress w ↔ Override.AtRest w.cell :=
  forall_congr' fun _ => cell_eq_idle_iff.symm

theorem cell_update (thread : Nat → JobPhase) (t : Nat) (p : JobPhase) :
    (fun u => (update thread t p u).cell) = update (fun u => (thread u).cell) t p.cell :=
  Function.comp_update JobPhase.cell thread t p

theorem strategyKept_iff_right (h : Coherent w) : StrategyKept w ↔ Override.Right w.cell := by
  constructor
  · intro hk
    refine ⟨fun hrest => hk.rest (noneInProgress_iff.mpr hrest), fun u hu => ?_⟩
    obtain ⟨⟨v, strategy⟩, hd, rfl⟩ := mem_map.mp hu
    obtain ⟨plan, hplan, happlied⟩ := hk.own v strategy hd
    simp [World.wanted, hplan, happlied]
  · intro hr
    refine ⟨fun hrest => hr.rest (noneInProgress_iff.mp hrest), fun v strategy hd => ?_⟩
    obtain ⟨-, plan, hplan⟩ := h.known _ hd
    have howned := hr.owned _ (mem_map_of_mem hd)
    refine ⟨plan, hplan, ?_⟩
    simpa [World.wanted, hplan] using howned

theorem strategyOk_iff_sound : StrategyOk w a ↔ Override.Sound w.cell a.cell := by
  cases a with
  | save t job => exact Iff.rfl
  | install t => exact Iff.rfl
  | submit t outcome =>
    constructor
    · intro h own previous hp halloc
      obtain ⟨job, hthread, rfl⟩ := cell_eq_installed_iff.mp hp
      exact h job previous hthread halloc
    · intro h job previous hthread halloc
      exact h _ previous (phase_of_thread hthread) halloc
  | restore t =>
    constructor
    · intro h own previous hp hothers
      obtain ⟨job, hthread, -⟩ := cell_eq_used_iff.mp hp
      exact h job previous hthread fun u hu => cell_eq_idle_iff.mp (hothers u hu)
    · intro h job previous hthread hothers
      exact h _ previous (phase_of_thread hthread) fun u hu => cell_eq_idle_iff.mpr (hothers u hu)
  | setStrategy strategy => exact Iff.rfl

theorem serial_of_oneAtATime (h : OneAtATime w a) : Override.Serial w.cell a.cell := by
  cases a with
  | save t job | setStrategy strategy => exact noneInProgress_iff.mp h
  | install t => trivial
  | submit t outcome => trivial
  | restore t => trivial

section Submitted
variable {s' : Scheduler.State} {alloc : Bool} {t : Nat} {job : Job} {previous : Strategy}

/-- The plans of the workloads distributed before are where they were. -/
theorem submitted_planned (h : Coherent w) {d : Nat × Strategy} (hd : d ∈ w.distributed) :
    (w.submitted t job previous s').planned d.1 = w.planned d.1 :=
  Function.update_of_ne (Nat.ne_of_lt (h.known d hd).1) ..

theorem submitted_planned_self :
    (w.submitted t job previous s').planned w.sched.heap.nextAddress = some job.plan :=
  Function.update_self ..

theorem submitted_distributed
    (happlied : applied s' = applied w.sched ++ if alloc then [w.sched.heap.nextAddress] else []) :
    (w.submitted t job previous s').distributed = w.distributed ++
      if alloc then [(w.sched.heap.nextAddress, schedulerGetStrategy w.sched)] else [] := by
  show w.distributed ++ _ = _
  rw [happlied, drop_left]
  cases alloc with
  | true => rfl
  | false => rfl

theorem submitted_uses (h : Coherent w)
    (happlied : applied s' = applied w.sched ++ if alloc then [w.sched.heap.nextAddress] else []) :
    (w.submitted t job previous s').cell.uses =
      if alloc then w.cell.uses ++ [(job.plan.appliedStrategy, w.cell.value)] else w.cell.uses := by
  have hold : w.distributed.map (fun d => (((w.submitted t job previous s').wanted d.1).getD d.2, d.2)) =
      w.cell.uses := by
    apply map_congr_left
    intro d hd
    simp only [World.wanted, submitted_planned h hd]
  show (w.submitted t job previous s').distributed.map _ = _
  rw [submitted_distributed happlied, map_append, hold]
  cases alloc with
  | true => simp [World.wanted, submitted_planned_self, World.cell]
  | false => simp

theorem coherent_submitted (h : Coherent w) (hquiet : Quiet s')
    (hnext : w.sched.heap.nextAddress + (if alloc then 1 else 0) = s'.heap.nextAddress)
    (happlied : applied s' = applied w.sched ++ if alloc then [w.sched.heap.nextAddress] else []) :
    Coherent (w.submitted t job previous s') := by
  refine ⟨hquiet, fun d hd => ?_⟩
  show d.1 < s'.heap.nextAddress ∧ _
  rw [submitted_distributed happlied, mem_append] at hd
  obtain hd | hd := hd
  · obtain ⟨hbelow, plan, hplan⟩ := h.known d hd
    refine ⟨?_, plan, (submitted_planned h hd).trans hplan⟩
    rw [← hnext]
    exact Nat.lt_add_right _ hbelow
  · cases alloc with
    | false => exact absurd hd not_mem_nil
    | true =>
      rw [mem_singleton.mp hd, ← hnext]
      exact ⟨Nat.lt_succ_self _, job.plan, submitted_planned_self⟩

end Submitted

/-- A submission is one use of the strategy in force. -/
theorem submitted_cell (h : Coherent w) (t : Nat) {job : Job} (previous : Strategy) {outcome : Outcome}
    {r : Except Error Nat} {s' : Scheduler.State}
    (hsubmit : workloadSubmit w.sched.gpus outcome.alloc outcome.sfrAlloc outcome.fuel
      (schedulerInfo job.env job.info job.plan) none w.sched = some (r, s')) :
    (w.submitted t job previous s').cell =
        { w.cell with
          phase := update w.cell.phase t (.used job.plan.appliedStrategy previous)
          uses := if outcome.alloc then w.cell.uses ++ [(job.plan.appliedStrategy, w.cell.value)] else w.cell.uses } ∧
      Coherent (w.submitted t job previous s') := by
  obtain ⟨hquiet, hconfig, hnext, happlied⟩ :=
    submit_quiet h.quiet (schedulerInfo_priority job.env job.info job.plan) hsubmit
  refine ⟨?_, coherent_submitted h hquiet hnext happlied⟩
  have hvalue : schedulerGetStrategy s' = schedulerGetStrategy w.sched := by
    simp only [schedulerGetStrategy, hconfig]
  have hphase : (w.submitted t job previous s').cell.phase =
      update w.cell.phase t (.used job.plan.appliedStrategy previous) := cell_update ..
  show Override.Cell.mk (schedulerGetStrategy s') w.chosen (w.submitted t job previous s').cell.phase
    (w.submitted t job previous s').cell.uses = _
  rw [hvalue, hphase, submitted_uses h happlied]
  rfl

/-- **The strategy is a setting that is overwritten and put back**, step for step. -/
theorem worldStep_cell (h : Coherent w) (hstep : worldStep w a = some w') :
    Override.step w.cell a.cell = some w'.cell ∧ Coherent w' := by
  cases a with
  | save t job =>
    cases hthread : w.thread t <;> simp only [worldStep, hthread, reduceCtorEq] at hstep
    cases hstep
    refine ⟨?_, h.quiet, h.known⟩
    simp only [WorldAction.cell, Override.step, phase_of_thread hthread, JobPhase.cell]
    simp only [World.cell, cell_update]
    rfl
  | install t | restore t =>
    cases hthread : w.thread t <;> simp only [worldStep, hthread, reduceCtorEq] at hstep
    cases hstep
    refine ⟨?_, h.quiet.setStrategy _, h.known⟩
    simp only [WorldAction.cell, Override.step, phase_of_thread hthread, JobPhase.cell]
    simp only [World.cell, cell_update]
    rfl
  | submit t outcome =>
    cases hthread : w.thread t <;> simp only [worldStep, hthread, reduceCtorEq] at hstep
    obtain ⟨⟨r, s'⟩, hsubmit, rfl⟩ := Option.map_eq_some_iff.mp hstep
    obtain ⟨hcell, hcoherent⟩ := submitted_cell h t _ hsubmit
    refine ⟨?_, hcoherent⟩
    rw [hcell]
    simp only [WorldAction.cell, Override.step, phase_of_thread hthread, JobPhase.cell]
  | setStrategy strategy =>
    cases hstep
    exact ⟨rfl, h.quiet.setStrategy _, h.known⟩

def World.initial (gpus : Scheduler.Gpus) : World where
  sched := Scheduler.initialState gpus
  thread := fun _ => .idle
  chosen := .auto
  planned := fun _ => none
  distributed := []

theorem coherent_initial (gpus : Scheduler.Gpus) : Coherent (World.initial gpus) :=
  ⟨⟨rfl, rfl, ready_initialState gpus⟩, fun _ hd => absurd hd not_mem_nil⟩

theorem exclusive_initial (gpus : Scheduler.Gpus) : Override.Exclusive (World.initial gpus).cell :=
  ⟨⟨0, fun _ _ => rfl, rfl⟩, fun _ hu => absurd hu not_mem_nil⟩

theorem strategy_kept_of_serial (gpus : Scheduler.Gpus) {actions : List WorldAction}
    (h : Admitted worldStep OneAtATime (World.initial gpus) actions) :
    Along worldStep StrategyKept (World.initial gpus) actions := by
  refine Run.along_of_admitted (I := fun w => Coherent w ∧ Override.Exclusive w.cell) (fun w a w' hi hs hok => ?_)
    (fun w hi => (strategyKept_iff_right hi.1).mpr hi.2.right) ⟨coherent_initial gpus, exclusive_initial gpus⟩ h
  obtain ⟨hcell, hc'⟩ := worldStep_cell hi.1 hs
  exact ⟨hc', Override.step_exclusive hi.2 hcell (serial_of_oneAtATime hok)⟩

def plainJob (strategy : Strategy) : Job :=
  let info : SubmitInfo :=
    { frameId := 1
      api := apiVulkan
      requestedStrategy := strategy
      telemetry := ⟨.graphics, none, 0, false, false⟩
      resourceBytes := 0
      commandBufferCount := 1
      queueFamilyFlags := 1
      gpuMask := 0 }
  ⟨plainEnv, info, planSubmit plainEnv 1 Frame.empty info⟩

theorem strategy_kept_alone :
    Along worldStep StrategyKept (World.initial ⟨[], Nat.zero_le _⟩)
      [.save 0 (plainJob .custom), .install 0, .submit 0 ⟨true, fun _ => true, 2⟩, .restore 0] :=
  strategy_kept_of_serial _ fun _ _ => ⟨fun _ => rfl,
    fun _ _ => ⟨trivial, fun _ _ => ⟨trivial, fun _ _ => ⟨trivial, trivial⟩⟩⟩⟩

end Mvgal.Execution
