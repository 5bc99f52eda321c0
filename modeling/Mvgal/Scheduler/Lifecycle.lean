import Mvgal.Scheduler.Frame
import Mvgal.Lib.Run

/-! The life of a workload under interleaved threads.

Any number of workers, each between two of its steps with a workload at a stage
of `take, apply, complete, release`, run against the calls of the application
(`System.step`). A cancelled workload stays linked, and no worker looks at the
state field before it dispatches or completes, so a cancellation is final only
if it does not meet a worker. `Life` gives the state and the history of a
workload at each point of its life, and every step keeps it as long as no
dispatch and no completion acts on a workload whose state is CANCELLED
(`cancel_final_iff`). -/
namespace Mvgal.Scheduler
open Option
open Chain (IsList)
open Function (update_self update_of_ne update)

/-- What a worker has done with the workload it holds. -/
inductive Stage where
  | dequeued
  | applied
  | marked
  | signaled
  | counted
  | notified
deriving DecidableEq

/-- The scheduler with its workers: the scheduler thread, and the callers of
`mvgal_scheduler_process_internal`. -/
structure System where
  sched : State
  worker : Nat → Option (Nat × Stage)

inductive Action where
  | submit (alloc : Bool) (info : SubmitInfo) (callback : Option Nat)
  | cancel (w : Nat)
  | setPriority (w : Nat) (priority : UInt32)
  | wait (w : Nat)
  | getResult (w : Nat)
  | take (i : Nat)
  | apply (i : Nat) (alloc : Bool)
  | mark (i : Nat)
  | signal (i : Nat)
  | count (i : Nat)
  | notify (i : Nat)
  | release (i : Nat)

def System.call (σ : System) (w : Nat) (s' : State) : Option System :=
  if (σ.sched.heap.workloads w).isSome then some {σ with sched := s'} else none

/-- A worker's step from one stage to the next, or to rest. -/
def System.advance (σ : System) (i : Nat) (stage : Stage) (f : State → Nat → State) (next : Option Stage) :
    Option System :=
  match σ.worker i with
  | none => none
  | some (w, at') =>
    if at' = stage then
      some {sched := f σ.sched w, worker := update σ.worker i (next.map fun st => (w, st))}
    else none

def System.take (σ : System) (i : Nat) : Option System :=
  if σ.worker i = none ∧ σ.sched.readyQueue.count ≠ 0 then
    (workloadDequeuePriority σ.sched.heap σ.sched.readyQueue).map fun taken =>
      { sched := {σ.sched with heap := taken.2.1, readyQueue := taken.2.2}
        worker := update σ.worker i (taken.1.map fun w => (w, Stage.dequeued)) }
  else none

/-- One step. The calls that wait for a workload or read its result write nothing. -/
def System.step (σ : System) : Action → Option System
  | .submit alloc info callback => some {σ with sched := (submitQueue alloc info callback σ.sched).2}
  | .cancel w => σ.call w (workloadCancel σ.sched w).2
  | .setPriority w priority => σ.call w (workloadSetPriority σ.sched w priority).2
  | .wait w => σ.call w σ.sched
  | .getResult w => σ.call w σ.sched
  | .take i => σ.take i
  | .apply i alloc => σ.advance i .dequeued (fun s w => (s.applyStrategy alloc w).2) (some .applied)
  | .mark i => σ.advance i .applied (completeMark · · .success) (some .marked)
  | .signal i => σ.advance i .marked (completeSignal · · .success) (some .signaled)
  | .count i => σ.advance i .signaled (completeCount · · .success) (some .counted)
  | .notify i => σ.advance i .counted (completeNotify · · .success) (some .notified)
  | .release i => σ.advance i .notified (fun s w => {s with heap := workloadRelease s.heap w}) none

def initialSystem (gpus : Gpus) : System := ⟨initialState gpus, fun _ => none⟩

def Event.terminal : Event → Bool
  | .completed _ _ => true
  | .cancelled _ => true
  | _ => false

/-- What a cancelled workload looks like from then on. -/
structure CancelledForGood (s : State) (w : Nat) : Prop where
  state : ∀ x, s.heap.workloads w = some x → x.state = .cancelled ∧ x.completionStatus = .interrupted
  undispatched : ∀ before after, history s w = before ++ .cancelled w :: after → .applied w ∉ after
  unnotified : ∀ callback, .notified w callback .success ∉ history s w
  counted : (history s w).count (.countedFailed w) = 1 ∧ .countedCompleted w ∉ history s w

/-- Every workload reaches at most one terminal state, and a cancellation is final. -/
def CancelFinal (σ : System) : Prop :=
  ∀ w, ((history σ.sched w).filter Event.terminal).length ≤ 1 ∧
    (.cancelled w ∈ history σ.sched w → CancelledForGood σ.sched w)

/-- The state field of a workload is CANCELLED. -/
def MarkedCancelled (s : State) (w : Nat) : Prop :=
  ∃ x, s.heap.workloads w = some x ∧ x.state = .cancelled

/-- The condition under which a step keeps cancellations final: no dispatch and no
completion of a workload marked as cancelled. -/
def SparesCancelled (σ : System) : Action → Prop
  | .apply i _ => ∀ w, σ.worker i = some (w, .dequeued) → ¬ MarkedCancelled σ.sched w
  | .mark i => ∀ w, σ.worker i = some (w, .applied) → ¬ MarkedCancelled σ.sched w
  | _ => True

/-! ### The life of a workload -/

/-- Where a workload is: not there, in the queue, with a worker, or processed. -/
inductive Phase where
  | vacant
  | linked
  | held (i : Nat) (stage : Stage)
  | retired

def Open (s : State) (w : Nat) (before : List Event) : Prop :=
  ∃ x, s.heap.workloads w = some x ∧ (x.state = .queued ∧ history s w = before ∨
      x.state = .cancelled ∧ x.completionStatus = .interrupted ∧
        history s w = before ++ [.cancelled w, .countedFailed w])

def Closed (s : State) (w : Nat) (events : List Event) : Prop :=
  (∀ x, s.heap.workloads w = some x → x.state = .completed) ∧ history s w = events

def completedEvents (w : Nat) : List Event :=
  [.applied w, .completed w .success, .countedCompleted w]

/-- The state and the history of a workload in each phase. -/
def Life (s : State) (w : Nat) : Phase → Prop
  | .vacant => s.heap.workloads w = none ∧ history s w = []
  | .linked | .held _ .dequeued => Open s w []
  | .held _ .applied => Open s w [.applied w]
  | .held _ .marked | .held _ .signaled => Closed s w [.applied w, .completed w .success]
  | .held _ .counted => Closed s w (completedEvents w)
  | .held _ .notified | .retired =>
    Closed s w (completedEvents w) ∨ ∃ callback, Closed s w (completedEvents w ++ [.notified w callback .success])

structure Agree (σ : System) (l : List Nat) (phase : Nat → Phase) : Prop where
  ready : Ready σ.sched.heap σ.sched.readyQueue l
  linked : ∀ w, w ∈ l ↔ phase w = .linked
  held : ∀ i w stage, σ.worker i = some (w, stage) ↔ phase w = .held i stage
  unborn : ∀ w, σ.sched.heap.nextAddress ≤ w → phase w = .vacant
  life : ∀ w, Life σ.sched w (phase w)

variable {w : Nat} {s s' : State}

theorem Life.frame {phase : Phase} (h : Life s w phase)
    (hw : s'.heap.workloads w = s.heap.workloads w) (hh : history s' w = history s w) :
    Life s' w phase := by
  unfold Life Open Closed at h ⊢
  rw [hw, hh]
  exact h

variable {events : List Event}

theorem Closed.modify (h : Closed s w events)
    {f : Workload → Workload} (hw : s'.heap.workloads w = (s.heap.workloads w).map f)
    (hf : ∀ x, (f x).state = x.state) (hh : history s' w = history s w) : Closed s' w events := by
  refine ⟨fun x' hx' => ?_, hh.trans h.2⟩
  rw [hw, map_eq_some_iff] at hx'
  obtain ⟨x, hx, rfl⟩ := hx'
  rw [hf x]
  exact h.1 x hx

/-- Of the structure, a life reads the state and the completion status. -/
theorem Life.modify {phase : Phase} (h : Life s w phase)
    {f : Workload → Workload} (hw : s'.heap.workloads w = (s.heap.workloads w).map f)
    (hf : ∀ x, (f x).state = x.state ∧ (f x).completionStatus = x.completionStatus)
    (hh : history s' w = history s w) : Life s' w phase := by
  have hopen : ∀ before, Open s w before → Open s' w before := by
    rintro before ⟨x, hx, hcase⟩
    refine ⟨f x, by rw [hw, hx, map_some], ?_⟩
    rw [(hf x).1, (hf x).2, hh]
    exact hcase
  have hclosed : ∀ events, Closed s w events → Closed s' w events :=
    fun events hc => hc.modify hw (fun x => (hf x).1) hh
  cases phase with
  | vacant => exact ⟨by rw [hw, h.1, map_none], hh.trans h.2⟩
  | linked => exact hopen _ h
  | retired => exact h.imp (hclosed _) fun ⟨callback, hc⟩ => ⟨callback, hclosed _ hc⟩
  | held i stage =>
    cases stage with
    | dequeued => exact hopen _ h
    | applied => exact hopen _ h
    | marked | signaled | counted => exact hclosed _ h
    | notified => exact h.imp (hclosed _) fun ⟨callback, hc⟩ => ⟨callback, hclosed _ hc⟩

def nextPhase (i : Nat) : Option Stage → Phase
  | some stage => .held i stage
  | none => .retired

variable {phase : Nat → Phase}

/-- Workers and phases still match after one worker moves one workload. -/
theorem held_update {worker : Nat → Option (Nat × Stage)}
    (hheld : ∀ i w stage, worker i = some (w, stage) ↔ phase w = .held i stage) {i : Nat}
    (hi : ∀ v stage, worker i = some (v, stage) → v = w) (hw : ∀ j stage, phase w = .held j stage → j = i)
    (next : Option Stage) (j v : Nat) (stage : Stage) :
    update worker i (next.map fun st => (w, st)) j = some (v, stage) ↔
      update phase w (nextPhase i next) v = .held j stage := by
  by_cases hvw : v = w
  · subst hvw
    by_cases hj : j = i
    · subst hj
      cases next <;> simp [nextPhase]
    · rw [update_of_ne hj, hheld]
      refine iff_of_false (fun h => hj (hw j stage h)) ?_
      cases next <;> simp [nextPhase, Ne.symm hj]
  · rw [update_of_ne hvw, ← hheld]
    by_cases hj : j = i
    · subst hj
      refine iff_of_false ?_ fun h => hvw (hi v stage h)
      cases next <;> simp [Ne.symm hvw]
    · rw [update_of_ne hj]

variable {l : List Nat} {σ : System}

/-- A call on one workload that leaves it in its phase. -/
theorem Agree.call (h : Agree σ l phase)
    (hlocal : Local w σ.sched s') (hlife : Life s' w (phase w)) :
    Agree {σ with sched := s'} l phase where
  ready := by
    refine h.ready.local hlocal fun hw => ?_
    rw [(h.linked w).mp hw] at hlife
    obtain ⟨x, hx, -⟩ := hlife
    rw [hx]
    rfl
  linked := h.linked
  held := h.held
  unborn v hv := h.unborn v (by rw [← hlocal.nextAddress]; exact hv)
  life v := by
    by_cases hvw : v = w
    · subst hvw
      exact hlife
    · exact (h.life v).frame (hlocal.others v hvw) (hlocal.histories v hvw)

theorem Agree.advance (h : Agree σ l phase) {i : Nat}
    {stage : Stage} (hi : σ.worker i = some (w, stage)) (hlocal : Local w σ.sched s')
    (next : Option Stage) (hlife : Life s' w (nextPhase i next)) :
    Agree ⟨s', update σ.worker i (next.map fun st => (w, st))⟩ l
      (update phase w (nextPhase i next)) where
  ready := by
    refine h.ready.local hlocal fun hw => ?_
    have hlinked := (h.linked w).mp hw
    rw [(h.held i w stage).mp hi] at hlinked
    cases hlinked
  linked v := by
    have hphase := (h.held i w stage).mp hi
    have hl := h.linked v
    by_cases hvw : v = w
    · subst hvw
      rw [hphase] at hl
      cases next <;> simpa [nextPhase] using hl
    · rw [update_of_ne hvw]
      exact hl
  held := by
    have hphase := (h.held i w stage).mp hi
    refine held_update h.held (fun v st hv => ?_) (fun j st hj => ?_) next
    · rw [hi] at hv
      exact (Prod.mk.inj (some.inj hv)).1.symm
    · rw [hphase] at hj
      exact (Phase.held.inj hj).1.symm
  unborn v hv := by
    have hvacant := h.unborn v (by rw [← hlocal.nextAddress]; exact hv)
    have hvw : v ≠ w := by
      intro he
      rw [he, (h.held i w stage).mp hi] at hvacant
      cases hvacant
    rw [update_of_ne hvw]
    exact hvacant
  life v := by
    by_cases hvw : v = w
    · subst hvw
      rw [update_self]
      exact hlife
    · rw [update_of_ne hvw]
      exact (h.life v).frame (hlocal.others v hvw) (hlocal.histories v hvw)

/-! ### The workload a step acts on -/

theorem Open.queued {before : List Event} (h : Open s w before) (hc : ¬ MarkedCancelled s w) :
    ∃ x, s.heap.workloads w = some x ∧ x.state = .queued ∧ history s w = before := by
  obtain ⟨x, hx, ⟨hq, hh⟩ | ⟨hcancelled, -⟩⟩ := h
  · exact ⟨x, hx, hq, hh⟩
  · exact absurd ⟨x, hx, hcancelled⟩ hc

theorem history_applyStrategy (hw : (s.heap.workloads w).isSome) (alloc : Bool) :
    history (s.applyStrategy alloc w).2 w = history s w ++ [.applied w] := by
  obtain ⟨x, hx⟩ := isSome_iff_exists.mp hw
  have hlog : (s.applyStrategy alloc w).2.log = s.log ++ [.applied w] := by
    simp only [State.applyStrategy, hx]
  exact (history_append hlog (by simp [Event.workload])).1

theorem history_completeMark (s : State) (w : Nat) (result : Error) :
    history (completeMark s w result) w = history s w ++ [.completed w result] :=
  (history_append rfl (by simp [Event.workload])).1

theorem open_applyStrategy (h : Open s w []) (hc : ¬ MarkedCancelled s w)
    (alloc : Bool) : Open (s.applyStrategy alloc w).2 w [.applied w] := by
  obtain ⟨x, hx, hq, hh⟩ := h.queued hc
  have hhist := history_applyStrategy (by rw [hx]; rfl) alloc
  rw [hh, List.nil_append] at hhist
  obtain ⟨gpu, n, gpus, data, hx'⟩ := applyStrategy_assignmentOnly alloc s.config s.gpus s.afr x
  refine ⟨(Scheduler.applyStrategy alloc s.config s.gpus s.afr x).2.2, ?_, .inl ⟨?_, hhist⟩⟩
  · simp only [State.applyStrategy, hx, State.modify, modify_self, map_some]
  · rw [hx']
    exact hq

theorem closed_completeMark (h : Open s w [.applied w]) (hc : ¬ MarkedCancelled s w) :
    Closed (completeMark s w .success) w [.applied w, .completed w .success] := by
  obtain ⟨x, hx, -, hh⟩ := h.queued hc
  refine ⟨fun x' hx' => ?_, by rw [history_completeMark, hh]; rfl⟩
  simp only [completeMark, State.modify, modify_self, hx, map_some, some.injEq] at hx'
  rw [← hx']
  rfl

section
variable (h : Closed s w events)
include h

theorem closed_completeCount :
    Closed (completeCount s w .success) w (events ++ [.countedCompleted w]) := by
  have hhist : history (completeCount s w .success) w = history s w ++ [.countedCompleted w] :=
    (history_append rfl (by simp [Event.workload])).1
  exact ⟨h.1, by rw [hhist, h.2]⟩

theorem closed_completeNotify :
    Closed (completeNotify s w .success) w events ∨
      ∃ callback, Closed (completeNotify s w .success) w (events ++ [.notified w callback .success]) := by
  unfold completeNotify
  split
  · exact .inl h
  · next callback _ =>
    refine .inr ⟨callback, h.1, ?_⟩
    rw [← h.2]
    exact (history_append rfl (by simp [Event.workload])).1

theorem closed_release :
    Closed {s with heap := workloadRelease s.heap w} w events := by
  unfold workloadRelease
  split
  · exact h
  · split
    · refine ⟨fun x hx => ?_, h.2⟩
      simp [workloadDestroyInternal] at hx
    · exact h.modify (modify_self s.heap w _) (fun _ => rfl) rfl

omit h in
/-- A call to cancel finds an open workload queued or cancelled, and a closed one
completed: only the first is changed, to cancelled. -/
theorem open_workloadCancel {before : List Event} (h : Open s w before) :
    Open (workloadCancel s w).2 w before := by
  obtain ⟨x, hx, ⟨hq, hh⟩ | ⟨hc, hstatus, hh⟩⟩ := h
  · have hcancel : workloadCancel s w = (.success, {s.modify w Workload.cancel with
        stats := {s.stats with workloadsFailed := s.stats.workloadsFailed + 1}
        log := s.log ++ [.cancelled w, .countedFailed w]}) := by
      simp [workloadCancel, hx, hq]
    rw [hcancel]
    refine ⟨x.cancel, by simp [State.modify, hx], .inr ⟨rfl, rfl, ?_⟩⟩
    rw [← hh]
    exact (history_append rfl (by simp [Event.workload])).1
  · have hcancel : workloadCancel s w = (.notSupported, s) := by simp [workloadCancel, hx, hc]
    rw [hcancel]
    exact ⟨x, hx, .inr ⟨hc, hstatus, hh⟩⟩

theorem closed_workloadCancel : Closed (workloadCancel s w).2 w events := by
  unfold workloadCancel
  split
  · exact h
  · next x hx =>
    rw [if_neg (by simp [h.1 x hx])]
    exact h

end

theorem Life.workloadCancel {phase : Phase} (h : Life s w phase) :
    Life (workloadCancel s w).2 w phase := by
  cases phase with
  | vacant => simpa [Scheduler.workloadCancel, h.1] using h
  | linked => exact open_workloadCancel h
  | retired => exact h.imp closed_workloadCancel fun ⟨callback, hc⟩ => ⟨callback, closed_workloadCancel hc⟩
  | held i stage =>
    cases stage with
    | dequeued | applied => exact open_workloadCancel h
    | marked | signaled | counted => exact closed_workloadCancel h
    | notified =>
      exact h.imp closed_workloadCancel fun ⟨callback, hc⟩ => ⟨callback, closed_workloadCancel hc⟩

theorem Life.workloadSetPriority {phase : Phase} (h : Life s w phase)
    (priority : UInt32) : Life (workloadSetPriority s w priority).2 w phase := by
  unfold Scheduler.workloadSetPriority
  split
  · exact h
  · split
    · exact h
    · split
      · exact h.modify (modify_self s.heap w (·.setPriority priority)) (fun _ => ⟨rfl, rfl⟩) rfl
      · exact h.modify (modify_self s.heap w (·.setPriority priority)) (fun _ => ⟨rfl, rfl⟩) rfl

variable (h : Agree σ l phase)
include h

theorem Agree.take {i : Nat}
    (hi : σ.worker i = none) (hw : w ∈ l) {L : Chain.Links Nat} {e : Chain.Ends Nat}
    (hlist : IsList L e (l.erase w)) (total : UInt64) :
    Agree
      ⟨{σ.sched with
          heap := {σ.sched.heap with links := L}
          readyQueue := ⟨e, σ.sched.readyQueue.count - 1, total⟩},
        update σ.worker i (some (w, .dequeued))⟩
      (l.erase w) (update phase w (.held i .dequeued)) where
  ready := h.ready.remove hw hlist total
  linked v := by
    by_cases hvw : v = w
    · subst hvw
      exact iff_of_false h.ready.list.nodup.not_mem_erase (by simp)
    · rw [update_of_ne hvw, List.mem_erase_of_ne hvw]
      exact h.linked v
  held := by
    refine held_update h.held (fun v st hv => ?_) (fun j st hj => ?_) (some .dequeued)
    · rw [hi] at hv
      cases hv
    · rw [(h.linked w).mp hw] at hj
      cases hj
  unborn v hv := by
    have hvacant := h.unborn v hv
    have hvw : v ≠ w := by
      intro he
      rw [he, (h.linked w).mp hw] at hvacant
      cases hvacant
    rw [update_of_ne hvw]
    exact hvacant
  life v := by
    have hlife := h.life v
    by_cases hvw : v = w
    · subst hvw
      rw [(h.linked v).mp hw] at hlife
      rw [update_self]
      exact hlife
    · rw [update_of_ne hvw]
      exact hlife

theorem Agree.queued
    (info : SubmitInfo) (callback : Option Nat) (hf : ¬ maxQueued ≤ σ.sched.readyQueue.count) :
    Agree {σ with sched := queuedState info callback σ.sched} (l ++ [σ.sched.heap.nextAddress])
      (update phase σ.sched.heap.nextAddress .linked) where
  ready := h.ready.queuedState info callback hf
  linked v := by
    have hvacant := h.unborn _ (Nat.le_refl σ.sched.heap.nextAddress)
    by_cases hv : v = σ.sched.heap.nextAddress
    · rw [hv, update_self]
      simp
    · rw [update_of_ne hv, ← h.linked v]
      simp [hv]
  held i v stage := by
    have hvacant := h.unborn _ (Nat.le_refl σ.sched.heap.nextAddress)
    have hheld := h.held i v stage
    by_cases hv : v = σ.sched.heap.nextAddress
    · subst hv
      rw [hvacant] at hheld
      exact iff_of_false (fun hw => by simpa using hheld.mp hw) (by simp)
    · rw [update_of_ne hv]
      exact hheld
  unborn v hv := by
    have hlt : σ.sched.heap.nextAddress < v := by
      rw [queuedState_nextAddress] at hv
      exact hv
    rw [update_of_ne (Nat.ne_of_gt hlt)]
    exact h.unborn v (Nat.le_of_lt hlt)
  life v := by
    have hlife := h.life v
    by_cases hv : v = σ.sched.heap.nextAddress
    · subst hv
      rw [h.unborn _ (Nat.le_refl _)] at hlife
      rw [update_self]
      obtain ⟨x, hx, hstate⟩ := queuedState_self info callback σ.sched
      exact ⟨x, hx, .inl ⟨hstate, hlife.2⟩⟩
    · rw [update_of_ne hv]
      exact hlife.frame (queuedState_other info callback σ.sched hv) rfl

/-- A submission that found the queue full leaves a used address behind. -/
theorem Agree.refused (info : SubmitInfo) (callback : Option Nat) :
    Agree {σ with sched := {submitted info callback σ.sched with
      heap := workloadDestroyInternal (submitted info callback σ.sched).heap σ.sched.heap.nextAddress}}
      l phase where
  ready := (h.ready.submitted info callback).destroy h.ready.fresh
  linked := h.linked
  held := h.held
  unborn v hv := h.unborn v (Nat.le_of_succ_le hv)
  life v := by
    have hlife := h.life v
    by_cases hv : v = σ.sched.heap.nextAddress
    · subst hv
      rw [h.unborn _ (Nat.le_refl _)] at hlife ⊢
      exact ⟨by simp [workloadDestroyInternal], hlife.2⟩
    · exact hlife.frame ((destroy_other _ hv).trans (submitted_other info callback σ.sched hv)) rfl

theorem Agree.submit (alloc : Bool)
    (info : SubmitInfo) (callback : Option Nat) :
    ∃ l' phase', Agree {σ with sched := (submitQueue alloc info callback σ.sched).2} l' phase' := by
  rcases submitQueue_cases alloc info callback σ.sched with hs | ⟨-, hs⟩ | ⟨hf, hs⟩
  · rw [hs]
    exact ⟨l, phase, h⟩
  · rw [hs]
    exact ⟨l, phase, h.refused info callback⟩
  · rw [hs]
    exact ⟨_, _, h.queued info callback hf⟩

end Mvgal.Scheduler
