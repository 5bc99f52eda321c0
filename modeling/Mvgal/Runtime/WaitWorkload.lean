import Mvgal.Runtime.Discovery
import Mvgal.Runtime.Dispatch
import Mvgal.Runtime.IpcHandlers

/-! Waiting for a workload over IPC (`Daemon::run`, `Scheduler::wait`).

The handler of WAIT_WORKLOAD calls `Scheduler::wait` without a timeout, on the thread of the
main loop and with the mutex of the server held. A workload becomes COMPLETE or ERROR in
`Scheduler::processPending` only, and neither the main loop nor the discovery thread, the
only threads of the daemon, calls it. So a wait for a workload that was submitted never ends
(`Stuck.run`), and a daemon answers exactly as long as no client waits for one
(`wait_answerable_iff`). -/
namespace Mvgal.Runtime.Waiting
open Dispatch (Scheduler SchedulingMode WorkloadState)
open Ipc (Call)

inductive Phase where
  /-- in `IpcServer::processEvents` -/
  | server
  /-- there, in the handler of WAIT_WORKLOAD, for the workload object `w` -/
  | waiting (w : Nat)
  | registry
  | power
  | metrics
  | dbus
  | sleep
deriving DecidableEq

/-- The phase after one that has come to its end. A wait ends otherwise. -/
def Phase.next : Phase → Phase
  | .server => .registry
  | .waiting w => .waiting w
  | .registry => .power
  | .power => .metrics
  | .metrics => .dbus
  | .dbus => .sleep
  | .sleep => .server

structure World where
  scheduler : Scheduler
  phase : Phase
  discovery : Discovery.World

def initial (nodeId : UInt64) : World := ⟨.initial, .server, Discovery.initial nodeId⟩

inductive Step where
  /-- the handler of a request calls a service -/
  | serve (call : Call)
  /-- a pass of the loop in `Scheduler::wait` -/
  | poll
  /-- the main loop goes on -/
  | next
  /-- the discovery thread handles an event -/
  | discovery (e : Discovery.Event)

def finished (state : WorkloadState) : Bool := state == .complete || state == .error

def World.serve (w : World) : Call → Option World
  | .submitGraphics => (w.scheduler.submit .graphics 8 0xFFFFFFFF).map fun r => {w with scheduler := r.2}
  | .request (.wait id) =>
    match w.scheduler.workloads id with
    | some object => some {w with phase := .waiting object}
    | none => some w
  | .request (.setMode mode) => some {w with scheduler.mode := SchedulingMode.ofCode mode}
  | _ => some w

def step (w : World) : Step → Option World
  | .serve call => if w.phase = .server then w.serve call else none
  | .poll =>
    match w.phase with
    | .waiting object =>
      if finished (w.scheduler.objects object).state then some {w with phase := .server} else some w
    | _ => none
  | .next =>
    match w.phase with
    | .waiting _ => none
    | phase => some {w with phase := phase.next}
  | .discovery e => (Discovery.step w.discovery e).map fun discovery => {w with discovery}

/-- If the loop waits for a workload, the threads can get it done. -/
def Answerable (w : World) : Prop :=
  ∀ object, w.phase = .waiting object → finished (w.scheduler.objects object).state = false →
    ∃ steps w', Run.run step w steps = some w' ∧ finished (w'.scheduler.objects object).state = true

/-- No client waits for a workload that was submitted. -/
def StepOk (w : World) : Step → Prop
  | .serve (.request (.wait id)) => w.scheduler.workloads id = none
  | _ => True

/-- The loop waits for a workload that is not finished. -/
structure Stuck (object : Nat) (w : World) : Prop where
  waiting : w.phase = .waiting object
  unfinished : finished (w.scheduler.objects object).state = false

section
variable {w w' : World} {object : Nat}

theorem Stuck.step (h : Stuck object w) {a : Step} (hstep : step w a = some w') : Stuck object w' := by
  cases a with
  | serve call | next =>
    simp only [Waiting.step, h.waiting] at hstep
    cases hstep
  | poll =>
    simp only [Waiting.step, h.waiting, h.unfinished] at hstep
    cases hstep
    exact h
  | discovery e =>
    obtain ⟨discovery, -, rfl⟩ := Option.map_eq_some_iff.mp hstep
    exact ⟨h.waiting, h.unfinished⟩

theorem Stuck.run (h : Stuck object w) {steps : List Step} (hrun : Run.run Waiting.step w steps = some w') :
    Stuck object w' :=
  (Run.along_of_preserved (fun _ _ _ hstuck hstep => hstuck.step hstep) h steps).final hrun

theorem Stuck.not_answerable (h : Stuck object w) : ¬ Answerable w := by
  intro hans
  obtain ⟨steps, w', hrun, hfinished⟩ := hans object h.waiting h.unfinished
  rw [(h.run hrun).unfinished] at hfinished
  cases hfinished

/-- The workloads that can be waited for are objects that were made, and none is finished;
so is the one that is waited for. -/
structure Inv (w : World) : Prop where
  known : ∀ id object, w.scheduler.workloads id = some object →
    object < w.scheduler.nextObject ∧ finished (w.scheduler.objects object).state = false
  stuck : ∀ object, w.phase = .waiting object → finished (w.scheduler.objects object).state = false

theorem Inv.initial (nodeId : UInt64) : Inv (initial nodeId) := by
  constructor
  · intro id object h
    cases h
  · intro object h
    cases h

theorem Inv.not_waiting (hi : Inv w) (hp : Answerable w) (object : Nat) : w.phase ≠ .waiting object := by
  intro hphase
  have hstuck : Stuck object w := ⟨hphase, hi.stuck object hphase⟩
  exact hstuck.not_answerable hp

theorem answerable_of_not_waiting (h : ∀ object, w.phase ≠ .waiting object) : Answerable w :=
  fun object hphase => absurd hphase (h object)

/-- A submission makes a new workload and touches no other. -/
theorem submit_known {s s' : Scheduler} {type : Dispatch.WorkloadType} {priority mask id : UInt32}
    (h : s.submit type priority mask = some (id, s'))
    (hs : ∀ id object, s.workloads id = some object →
      object < s.nextObject ∧ finished (s.objects object).state = false) :
    ∀ id object, s'.workloads id = some object →
      object < s'.nextObject ∧ finished (s'.objects object).state = false := by
  obtain ⟨queue, -, heq⟩ := Option.bind_eq_some_iff.mp h
  cases heq
  intro id' object hobject
  obtain ⟨-, rfl⟩ | ⟨-, hobject⟩ := Table.update_some hobject
  · refine ⟨Nat.lt_succ_self _, ?_⟩
    dsimp only
    rw [Function.update_self]
    rfl
  · obtain ⟨hlt, hfinished⟩ := hs id' object hobject
    refine ⟨Nat.lt_succ_of_lt hlt, ?_⟩
    dsimp only
    rw [Function.update_of_ne (Nat.ne_of_lt hlt)]
    exact hfinished

/-- It is `processPending` that would finish a workload, had it a caller. -/
theorem processPending_finishes (s : Scheduler) (env : Dispatch.Environment)
    (hqueued : object ∈ s.queue.queued) (hpending : (s.objects object).state = .pending) :
    finished ((s.processPending env).objects object).state = true := by
  obtain ⟨g, hplan⟩ := Dispatch.plan_complete env hqueued hpending
  obtain ⟨-, -, hafter⟩ := Dispatch.plan_sound hplan
  rw [Dispatch.processPending_eq]
  rw [hafter]
  unfold Dispatch.Workload.dispatched
  split <;> rfl

/-- What a request of a client leads to: it waits for a workload there is, or the loop stays
where it was. -/
theorem serve_cases {call : Call} (hi : Inv w) (hphase : w.phase = .server) (h : w.serve call = some w') :
    Inv w' ∧ ((∃ id object, call = .request (.wait id) ∧ w.scheduler.workloads id = some object ∧
        w'.phase = .waiting object) ∨ StepOk w (.serve call) ∧ w'.phase = .server) := by
  have hserver (object : Nat) : w.phase ≠ .waiting object := by
    rw [hphase]
    simp
  unfold World.serve at h
  split at h
  · obtain ⟨⟨id, s⟩, hsubmit, rfl⟩ := Option.map_eq_some_iff.mp h
    exact ⟨⟨submit_known hsubmit hi.known, fun object hobject => absurd hobject (hserver object)⟩,
      .inr ⟨trivial, hphase⟩⟩
  · next id =>
    split at h
    · next object hobject =>
      cases h
      refine ⟨⟨hi.known, fun object' hobject' => ?_⟩, .inl ⟨id, object, rfl, hobject, rfl⟩⟩
      cases hobject'
      exact (hi.known id object hobject).2
    · next hnone =>
      cases h
      exact ⟨hi, .inr ⟨hnone, hphase⟩⟩
  · cases h
    exact ⟨⟨hi.known, hi.stuck⟩, .inr ⟨trivial, hphase⟩⟩
  · next hwait _ =>
    cases h
    refine ⟨hi, .inr ⟨?_, hphase⟩⟩
    unfold StepOk
    split
    · next id heq =>
      cases heq
      exact absurd rfl (hwait id)
    · trivial

theorem next_not_waiting {phase : Phase} (h : ∀ object, phase ≠ .waiting object) (object : Nat) :
    phase.next ≠ .waiting object := by
  cases phase with
  | waiting other => exact absurd rfl (h other)
  | _ => simp [Phase.next]

theorem step_cases {a : Step} (hi : Inv w) (hp : Answerable w) (hstep : step w a = some w') :
    Inv w' ∧ (Answerable w' ↔ StepOk w a) := by
  cases a with
  | serve call =>
    obtain ⟨hphase, hserve⟩ := Option.ite_none_right_eq_some.mp hstep
    obtain ⟨hi', ⟨id, object, rfl, hobject, hphase'⟩ | ⟨hok, hphase'⟩⟩ := serve_cases hi hphase hserve
    · refine ⟨hi', iff_of_false (fun hans => hi'.not_waiting hans _ hphase') fun hok => ?_⟩
      cases hobject.symm.trans hok
    · refine ⟨hi', iff_of_true (answerable_of_not_waiting fun object => ?_) hok⟩
      rw [hphase']
      simp
  | poll =>
    simp only [step] at hstep
    split at hstep
    · next hphase => exact absurd hphase (hi.not_waiting hp _)
    · cases hstep
  | next =>
    simp only [step] at hstep
    split at hstep
    · cases hstep
    · cases hstep
      have hnot := next_not_waiting fun object => hi.not_waiting hp object
      exact ⟨⟨hi.known, fun object hobject => absurd hobject (hnot object)⟩,
        iff_of_true (answerable_of_not_waiting hnot) trivial⟩
  | discovery e =>
    obtain ⟨discovery, -, rfl⟩ := Option.map_eq_some_iff.mp hstep
    refine ⟨⟨hi.known, hi.stuck⟩, iff_of_true (answerable_of_not_waiting fun object => ?_) trivial⟩
    exact hi.not_waiting hp object

end

/-- **A wait can always be answered** exactly if none is ever made for a workload that was
submitted. -/
theorem wait_answerable_iff (nodeId : UInt64) (steps : List Step) :
    Run.Along step Answerable (initial nodeId) steps ↔ Run.Admitted step StepOk (initial nodeId) steps := by
  apply Run.along_iff_admitted
  · intro w a w' hi hp hstep
    exact (step_cases hi hp hstep).2
  · intro w a w' hi hp hstep _
    exact (step_cases hi hp hstep).1
  · exact Inv.initial nodeId
  · exact answerable_of_not_waiting fun object => by simp [initial]

/-- A client submits a workload and waits for it. -/
theorem wait_hangs : ¬ ∀ nodeId steps, Run.Along step Answerable (initial nodeId) steps := by
  intro h
  have hans := (h 0 [.serve .submitGraphics, .serve (.request (.wait 1))]).final rfl
  refine absurd hans (Stuck.not_answerable (?_ : Stuck 0 _))
  exact ⟨rfl, rfl⟩

end Mvgal.Runtime.Waiting
