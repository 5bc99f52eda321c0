import Mvgal.Scheduler.Workers

/-! Pausing the scheduler (`mvgal_scheduler_pause`, `mvgal_scheduler_resume`).

Two loops take workloads from the ready queue. The scheduler thread looks at
`paused` under the lock before it does; `mvgal_scheduler_process_internal`, which a
submission enters itself when no thread runs, does not. And a workload that was
taken before a pause is completed during it.

`pause_respected_iff` says which steps keep a pause: a caller's turn only finds
workloads of priority 0, and no worker completes the workload it holds. -/
namespace Mvgal.Scheduler.Pausing
open Option
open Function (update)

def schedulerPause (s : State) : State := {s with paused := true}

/-- `mvgal_scheduler_resume`; the signal wakes the thread, which then looks again. -/
def schedulerResume (s : State) : State := {s with paused := false}

def isCompletion : Event → Bool
  | .completed _ _ => true
  | _ => false

def completions (s : State) : List Event := s.log.filter isCompletion

/-- What there was when a pause began, with the workloads submitted since. -/
structure Pause where
  queued : List Nat
  completions : List Event

/-- The scheduler with its threads. Worker 0 is the scheduler thread and worker `i + 1` is
the application's thread `i`; `inside i` is that it is in
`mvgal_scheduler_process_internal`. -/
structure Control where
  system : System
  inside : Nat → Bool
  pause : Option Pause

def Control.sched (c : Control) : State := c.system.sched

inductive Act where
  | pause
  | resume
  | submit (i : Nat) (alloc : Bool) (info : SubmitInfo) (callback : Option Nat)
  | process (i : Nat)
  | turn (i : Nat)
  | leave (i : Nat)
  | thread
  | work (k : Nat) (alloc : Bool)

def joined : Except Error Nat → List Nat
  | .ok w => [w]
  | .error _ => []

def Pause.join (p : Pause) (r : Except Error Nat) : Pause := {p with queued := p.queued ++ joined r}

/-- The workload is queued, and without a scheduler thread the caller goes on to process
the queue. -/
def Control.submitted (c : Control) (i : Nat) (r : Except Error Nat × State) : Control where
  system := {c.system with sched := r.2}
  inside := update c.inside i (!(joined r.1).isEmpty && !r.2.threadRunning)
  pause := c.pause.map fun p => p.join r.1

/-- One step; a thread does what stands between two places where another can come in.
The turn of a caller that finds only priorities 0 leaves everything as it is (in the code
it also keeps the lock), and so does the thread when it goes to wait. -/
def step (c : Control) : Act → Option Control
  | .pause =>
    some {c with
      system := {c.system with sched := schedulerPause c.sched}
      pause := some (c.pause.getD ⟨c.sched.queued, completions c.sched⟩)}
  | .resume => some {c with system := {c.system with sched := schedulerResume c.sched}, pause := none}
  | .submit i alloc info callback =>
    if c.inside i = false then some (c.submitted i (submitQueue alloc info callback c.sched)) else none
  | .process i =>
    if c.inside i = false then some {c with inside := update c.inside i c.sched.initialized} else none
  | .turn i => if c.inside i = true then (c.system.take (i + 1)).map fun σ => {c with system := σ} else none
  | .leave i =>
    if c.inside i = true ∧ c.system.worker (i + 1) = none ∧ c.sched.readyQueue.count = 0 then
      some {c with inside := update c.inside i false}
    else none
  | .thread =>
    if c.sched.running = true ∧ c.sched.paused = false then
      (c.system.take 0).map fun σ => {c with system := σ}
    else none
  | .work k alloc => (c.system.work k alloc).map fun σ => {c with system := σ}

def start (gpus : Gpus) (running threadRunning : Bool) : Control where
  system := ⟨{initialState gpus with running := running, threadRunning := threadRunning}, fun _ => none⟩
  inside := fun _ => false
  pause := none

/-- While the scheduler is paused, the queue holds what it held when the pause began and
what was submitted since, in order, and nothing more was completed. -/
def Respected (c : Control) : Prop :=
  ∀ p, c.pause = some p → c.sched.queued = p.queued ∧ completions c.sched = p.completions

/-- During a pause, a caller's turn takes nothing, and no worker completes. -/
def StepOk (c : Control) : Act → Prop
  | .turn _ => c.sched.paused = true → ∀ w ∈ c.sched.queued, c.sched.heap.priority w = 0
  | .work k _ => c.sched.paused = true → ∀ w, c.system.worker k ≠ some (w, .applied)
  | _ => True

/-- Queue and workers are in order, and the flag is set during a pause. -/
structure Ordered (c : Control) (l : List Nat) : Prop where
  placed : Placed c.system l
  flag : c.sched.paused = c.pause.isSome

variable {c c' : Control} {l : List Nat}

theorem perform_paused (stage : Stage) (alloc : Bool) (s : State) (w : Nat) :
    (stage.perform alloc s w).paused = s.paused := by
  cases stage with
  | dequeued =>
    simp only [Stage.perform, State.applyStrategy]
    split <;> rfl
  | counted =>
    simp only [Stage.perform, completeNotify]
    split <;> rfl
  | _ => rfl

/-- A worker completes its workload at one stage only. -/
theorem completions_perform (stage : Stage) (alloc : Bool) (s : State) (w : Nat) :
    completions (stage.perform alloc s w) =
      completions s ++ if stage = .applied then [.completed w .success] else [] := by
  cases stage with
  | dequeued =>
    simp only [Stage.perform, State.applyStrategy]
    split <;> simp [completions, isCompletion]
  | counted =>
    simp only [Stage.perform, completeNotify]
    split <;> simp [completions, isCompletion]
  | applied => simp [Stage.perform, completions, completeMark, isCompletion]
  | signaled => simp [Stage.perform, completions, completeCount, isCompletion]
  | marked => simp [Stage.perform, completions, completeSignal, State.modify]
  | notified => simp [Stage.perform, completions]

section
variable (h : Ordered c l)
include h

theorem Ordered.queued_eq : c.sched.queued = l := h.placed.ready.queued_eq

theorem Ordered.paused {p : Pause} (hp : c.pause = some p) : c.sched.paused = true := by
  rw [h.flag, hp]
  rfl

/-- In a system in order, a worker's step respects a pause unless it completes. -/
theorem respected_worked_iff (hr : Respected c) {k w : Nat} {stage : Stage} (alloc : Bool)
    (hk : c.system.worker k = some (w, stage)) :
    Respected {c with system := c.system.worked k alloc w stage} ↔ (c.sched.paused = true → stage ≠ .applied) := by
  have hqueued : (c.system.worked k alloc w stage).sched.queued = c.sched.queued := by
    rw [h.queued_eq]
    exact (h.placed.worked hk alloc).ready.queued_eq
  have hdone : completions (c.system.worked k alloc w stage).sched = _ :=
    completions_perform stage alloc c.sched w
  constructor
  · intro hr' hp hstage
    obtain ⟨p, hpause⟩ := isSome_iff_exists.mp (h.flag.symm.trans hp)
    have hsame := (hr' p hpause).2
    rw [Control.sched, hdone, (hr p hpause).2, hstage] at hsame
    exact absurd hsame (by simp)
  · intro hok p hpause
    have hstage := hok (h.paused hpause)
    obtain ⟨hq, hc⟩ := hr p hpause
    refine ⟨hqueued.trans hq, hdone.trans ?_⟩
    rw [if_neg hstage, List.append_nil, hc]

theorem ordered_worked {k w : Nat} {stage : Stage} (alloc : Bool)
    (hk : c.system.worker k = some (w, stage)) : Ordered {c with system := c.system.worked k alloc w stage} l :=
  ⟨h.placed.worked hk alloc, (perform_paused stage alloc c.sched w).trans h.flag⟩

/-- A workload that is taken is missing in the queue. -/
theorem not_respected_taken (hr : Respected c) (hp : c.sched.paused = true) {i w : Nat}
    (hi : c.system.worker i = none) (hw : w ∈ l) {L : Chain.Links Nat} {e : Chain.Ends Nat}
    (hlist : Chain.IsList L e (l.erase w)) : ¬ Respected {c with system := c.system.taken i w L e} := by
  intro hr'
  obtain ⟨p, hpause⟩ := isSome_iff_exists.mp (h.flag.symm.trans hp)
  have hbefore : l = p.queued := h.queued_eq.symm.trans (hr p hpause).1
  have hafter : l.erase w = p.queued :=
    (h.placed.taken hi hw hlist).ready.queued_eq.symm.trans (hr' p hpause).1
  have hlength := congrArg List.length (hafter.trans hbefore.symm)
  rw [List.length_erase_of_mem hw] at hlength
  have := List.length_pos_of_mem hw
  omega

theorem respected_take_iff (hr : Respected c) {i : Nat} {σ : System}
    (htake : c.system.take i = some σ) : Respected {c with system := σ} ↔
      (c.sched.paused = true → ∀ w ∈ c.sched.queued, c.sched.heap.priority w = 0) := by
  obtain ⟨hi, ⟨rfl, hzero⟩ | ⟨w, L, e, hw, hlist, hpos, rfl⟩⟩ := h.placed.take_cases htake
  · rw [h.queued_eq]
    exact iff_of_true hr fun _ => hzero
  · constructor
    · intro hr' hp
      exact absurd hr' (not_respected_taken h hr hp hi hw hlist)
    · intro hok p hpause
      have hzero := hok (h.paused hpause) w (h.queued_eq.symm ▸ hw)
      exact absurd hpos (by rw [show c.system.sched.heap.priority w = 0 from hzero]; decide)

theorem ordered_take {i : Nat} {σ : System} (htake : c.system.take i = some σ) :
    ∃ l', Ordered {c with system := σ} l' := by
  obtain ⟨hi, ⟨rfl, -⟩ | ⟨w, L, e, hw, hlist, -, rfl⟩⟩ := h.placed.take_cases htake
  · exact ⟨l, h⟩
  · exact ⟨_, h.placed.taken hi hw hlist, h.flag⟩

/-- A submission adds to the queue what it adds to the record of the pause. -/
theorem submitted_cases (i : Nat) (alloc : Bool) (info : SubmitInfo) (callback : Option Nat) :
    let r := submitQueue alloc info callback c.sched
    Ordered (c.submitted i r) (l ++ joined r.1) ∧ completions r.2 = completions c.sched := by
  have hflag (r : Except Error Nat) (s : State) (hs : s.paused = c.sched.paused) :
      s.paused = (c.submitted i (r, s)).pause.isSome := by
    rw [hs, h.flag, Control.submitted, isSome_map]
  rcases submitQueue_cases alloc info callback c.sched with hs | ⟨-, hs⟩ | ⟨hf, hs⟩
  · rw [hs]
    refine ⟨⟨?_, hflag _ _ rfl⟩, rfl⟩
    rw [joined, List.append_nil]
    exact h.placed
  · rw [hs]
    refine ⟨⟨?_, hflag _ _ rfl⟩, rfl⟩
    rw [joined, List.append_nil]
    exact h.placed.refused info callback
  · rw [hs]
    exact ⟨⟨h.placed.queued info callback hf, hflag _ _ rfl⟩, rfl⟩

theorem respected_submitted (hr : Respected c) (i : Nat) (alloc : Bool) (info : SubmitInfo)
    (callback : Option Nat) : Respected (c.submitted i (submitQueue alloc info callback c.sched)) := by
  obtain ⟨ho, hdone⟩ := submitted_cases h i alloc info callback
  intro p hpause
  obtain ⟨p₀, hp₀, rfl⟩ := map_eq_some_iff.mp hpause
  obtain ⟨hq, hc⟩ := hr p₀ hp₀
  refine ⟨ho.queued_eq.trans ?_, hdone.trans hc⟩
  rw [Pause.join, ← hq, h.queued_eq]

theorem step_spec (hr : Respected c) {a : Act} (ha : step c a = some c') :
    (Respected c' ↔ StepOk c a) ∧ (Respected c' → ∃ l', Ordered c' l') := by
  cases a with
  | pause =>
    cases ha
    refine ⟨iff_of_true (fun p hp => ?_) trivial, fun _ => ⟨l, ⟨h.placed.ready, h.placed.apart, h.placed.alone⟩, rfl⟩⟩
    cases hp
    cases hpause : c.pause with
    | none => exact ⟨rfl, rfl⟩
    | some p => exact hr p hpause
  | resume =>
    cases ha
    exact ⟨iff_of_true nofun trivial, fun _ => ⟨l, ⟨h.placed.ready, h.placed.apart, h.placed.alone⟩, rfl⟩⟩
  | submit i alloc info callback =>
    obtain ⟨-, rfl⟩ := Run.guarded ha
    exact ⟨iff_of_true (respected_submitted h hr i alloc info callback) trivial,
      fun _ => ⟨_, (submitted_cases h i alloc info callback).1⟩⟩
  | process i | leave i =>
    obtain ⟨-, rfl⟩ := Run.guarded ha
    exact ⟨iff_of_true hr trivial, fun _ => ⟨l, h.placed, h.flag⟩⟩
  | turn i =>
    obtain ⟨-, ha⟩ := ite_none_right_eq_some.mp ha
    obtain ⟨σ, htake, rfl⟩ := map_eq_some_iff.mp ha
    exact ⟨respected_take_iff h hr htake, fun _ => ordered_take h htake⟩
  | thread =>
    obtain ⟨⟨-, hp⟩, ha⟩ := ite_none_right_eq_some.mp ha
    obtain ⟨σ, htake, rfl⟩ := map_eq_some_iff.mp ha
    refine ⟨iff_of_true ?_ trivial, fun _ => ordered_take h htake⟩
    exact (respected_take_iff h hr htake).mpr fun hpaused => by simp [hp] at hpaused
  | work k alloc =>
    obtain ⟨σ, hwork, rfl⟩ := map_eq_some_iff.mp ha
    obtain ⟨w, stage, hk, rfl⟩ := System.work_cases hwork
    rw [respected_worked_iff h hr alloc hk]
    exact ⟨by simp [StepOk, hk], fun _ => ⟨l, ordered_worked h alloc hk⟩⟩

end

theorem ordered_start (gpus : Gpus) (running threadRunning : Bool) : Ordered (start gpus running threadRunning) [] :=
  ⟨⟨ready_initialState gpus, nofun, nofun⟩, rfl⟩

/-- **Pauses.** Along any interleaving of pauses, resumptions, submissions, processing calls
and steps of the scheduler thread, nothing is taken or completed during a pause and the
queue is kept, exactly when no caller takes and no worker completes then. -/
theorem pause_respected_iff (gpus : Gpus) (running threadRunning : Bool) (acts : List Act) :
    Run.Along step Respected (start gpus running threadRunning) acts ↔
      Run.Admitted step StepOk (start gpus running threadRunning) acts :=
  Run.along_iff_of_step (I := fun c => ∃ l, Ordered c l) (fun _ _ _ ⟨_, h⟩ hr ha => step_spec h hr ha)
    ⟨[], ordered_start gpus running threadRunning⟩ nofun acts

/-- A submission during a pause, without a scheduler thread: the caller takes the workload. -/
theorem submit_takes_while_paused :
    ¬ Run.Along step Respected (start ⟨[], Nat.zero_le _⟩ false false)
      [.pause, .submit 0 true ⟨.compute, 50, 0xFFFFFFFF, 0⟩ none, .turn 0] := by
  intro h
  have hqueued := ((h.final rfl) _ rfl).1
  exact nomatch hqueued

/-- The scheduler thread completes a workload it took before the pause. -/
example :
    ¬ Run.Along step Respected (start ⟨[], Nat.zero_le _⟩ true true)
      [.submit 0 true ⟨.compute, 50, 0xFFFFFFFF, 0⟩ none, .thread, .work 0 true, .pause, .work 0 true] := by
  intro h
  have hdone := ((h.final rfl) _ rfl).2
  exact nomatch hdone

end Mvgal.Scheduler.Pausing
