import Mvgal.Scheduler.Lifecycle

/-! Whether a cancellation is final.

Lives are kept by every step that spares cancelled workloads (`Agree.step`), and
a workload that lives by them reaches one terminal state at most
(`Agree.cancelFinal`). A dispatch or a completion of a cancelled workload breaks
the promise at once (`not_final_of_hit`). So the promise holds along a run
exactly when no step of the run hits a cancelled workload. -/
namespace Mvgal.Scheduler
open Option

variable {σ σ' : System}

theorem advance_eq_some {i : Nat} {stage : Stage} {f : State → Nat → State}
    {next : Option Stage} : σ.advance i stage f next = some σ' ↔ ∃ w, σ.worker i = some (w, stage) ∧
        σ' = ⟨f σ.sched w, Function.update σ.worker i (next.map fun st => (w, st))⟩ := by
  unfold System.advance
  split
  · next hi => simp [hi]
  · next w at' hi =>
    by_cases hst : at' = stage
    · subst hst
      simp [hi, eq_comm]
    · simp [hi, hst]

variable {w : Nat} {s' : State}

theorem call_eq_some :
    σ.call w s' = some σ' ↔ (σ.sched.heap.workloads w).isSome ∧ σ' = {σ with sched := s'} := by
  rw [System.call, ite_none_right_eq_some, some.injEq, eq_comm (a := σ')]

variable {phase : Nat → Phase} {l : List Nat}

theorem Agree.heldLife (h : Agree σ l phase) {i : Nat}
    {stage : Stage} (hi : σ.worker i = some (w, stage)) : Life σ.sched w (.held i stage) := by
  rw [← (h.held i w stage).mp hi]
  exact h.life w

theorem Agree.takeStep (h : Agree σ l phase) {i : Nat}
    (hs : σ.take i = some σ') : ∃ l' phase', Agree σ' l' phase' := by
  obtain ⟨⟨hi, -⟩, hs⟩ := ite_none_right_eq_some.mp hs
  rcases h.ready.dequeuePriority with ⟨hdeq, -⟩ | ⟨w, L, e, hdeq, hfirst, hlist⟩
  · rw [hdeq, map_some, some.injEq] at hs
    have hworker : Function.update σ.worker i none = σ.worker := by
      rw [← hi, Function.update_eq_self]
    refine ⟨l, phase, ?_⟩
    rw [← hs]
    simp only [map_none, hworker]
    exact h
  · rw [hdeq, map_some, some.injEq] at hs
    rw [← hs]
    exact ⟨_, _, h.take hi hfirst.mem hlist _⟩

variable {a : Action}

/-- **The step lemma.** -/
theorem Agree.step (h : Agree σ l phase)
    (hok : SparesCancelled σ a) (hs : σ.step a = some σ') : ∃ l' phase', Agree σ' l' phase' := by
  cases a with rw [System.step] at hs
  | submit alloc info callback =>
    cases hs
    exact h.submit alloc info callback
  | cancel w =>
    obtain ⟨-, rfl⟩ := call_eq_some.mp hs
    exact ⟨l, phase, h.call (local_workloadCancel _ w) (h.life w).workloadCancel⟩
  | setPriority w priority =>
    obtain ⟨-, rfl⟩ := call_eq_some.mp hs
    exact ⟨l, phase, h.call (local_workloadSetPriority _ w priority) ((h.life w).workloadSetPriority priority)⟩
  | wait w | getResult w =>
    obtain ⟨-, rfl⟩ := call_eq_some.mp hs
    exact ⟨l, phase, h⟩
  | take i => exact h.takeStep hs
  | apply i alloc =>
    obtain ⟨w, hi, rfl⟩ := advance_eq_some.mp hs
    exact ⟨l, _, h.advance hi (local_applyStrategy alloc _ w) (some .applied)
      (open_applyStrategy (h.heldLife hi) (hok w hi) alloc)⟩
  | mark i =>
    obtain ⟨w, hi, rfl⟩ := advance_eq_some.mp hs
    exact ⟨l, _, h.advance hi (local_completeMark _ w .success) (some .marked)
      (closed_completeMark (h.heldLife hi) (hok w hi))⟩
  | signal i =>
    obtain ⟨w, hi, rfl⟩ := advance_eq_some.mp hs
    have hclosed : Closed σ.sched w [.applied w, .completed w .success] := h.heldLife hi
    exact ⟨l, _, h.advance hi (local_modify _ w _) (some .signaled)
      (hclosed.modify (modify_self _ w _) (fun _ => rfl) rfl)⟩
  | count i =>
    obtain ⟨w, hi, rfl⟩ := advance_eq_some.mp hs
    exact ⟨l, _, h.advance hi (local_completeCount _ w .success) (some .counted)
      (closed_completeCount (h.heldLife hi))⟩
  | notify i =>
    obtain ⟨w, hi, rfl⟩ := advance_eq_some.mp hs
    exact ⟨l, _, h.advance hi (local_completeNotify _ w .success) (some .notified)
      (closed_completeNotify (h.heldLife hi))⟩
  | release i =>
    obtain ⟨w, hi, rfl⟩ := advance_eq_some.mp hs
    have hlife := h.heldLife hi
    exact ⟨l, _, h.advance hi (local_release _ w) none
      (hlife.imp closed_release fun ⟨callback, hc⟩ => ⟨callback, closed_release hc⟩)⟩

/-- The promise for one workload. -/
def FinalAt (s : State) (w : Nat) : Prop :=
  ((history s w).filter Event.terminal).length ≤ 1 ∧
    (.cancelled w ∈ history s w → CancelledForGood s w)

variable {s : State}

theorem finalAt_of_open {before : List Event} (h : Open s w before)
    (hb : before = [] ∨ before = [.applied w]) : FinalAt s w := by
  obtain ⟨x, hx, ⟨-, hh⟩ | ⟨hstate, hstatus, hh⟩⟩ := h
  · rw [FinalAt, hh]
    rcases hb with rfl | rfl <;> simp [Event.terminal]
  · refine ⟨?_, fun _ => ⟨fun x' hx' => ?_, ?_, ?_, ?_⟩⟩
    · rw [hh]
      rcases hb with rfl | rfl <;> exact Nat.le_refl 1
    · cases hx.symm.trans hx'
      exact ⟨hstate, hstatus⟩
    · rw [hh]
      intro pre post he
      -- The only cancellation in this history is followed by its count alone.
      have hpost : post = [.countedFailed w] := by
        rcases hb with rfl | rfl
        · rcases pre with _ | ⟨_, _ | ⟨_, _⟩⟩ <;> simp_all
        · rcases pre with _ | ⟨_, _ | ⟨_, _ | ⟨_, _⟩⟩⟩ <;> simp_all
      simp [hpost]
    · rw [hh]
      rcases hb with rfl | rfl <;> simp
    · rw [hh]
      rcases hb with rfl | rfl <;> simp

theorem finalAt_of_closed {events : List Event} (h : Closed s w events)
    (hone : (events.filter Event.terminal).length ≤ 1) (hc : .cancelled w ∉ events) : FinalAt s w := by
  rw [← h.2] at hone hc
  exact ⟨hone, fun hm => absurd hm hc⟩

theorem Agree.cancelFinal (h : Agree σ l phase) : CancelFinal σ := by
  intro w
  have hlife := h.life w
  have hprocessed : (Closed σ.sched w (completedEvents w) ∨
      ∃ callback, Closed σ.sched w (completedEvents w ++ [.notified w callback .success])) →
      FinalAt σ.sched w := by
    rintro (hc | ⟨callback, hc⟩)
    · exact finalAt_of_closed hc (Nat.le_refl 1) (by simp [completedEvents])
    · exact finalAt_of_closed hc (Nat.le_refl 1) (by simp [completedEvents])
  cases hphase : phase w with
  | vacant =>
    rw [hphase] at hlife
    simp [hlife.2]
  | linked =>
    rw [hphase] at hlife
    exact finalAt_of_open hlife (.inl rfl)
  | retired =>
    rw [hphase] at hlife
    exact hprocessed hlife
  | held i stage =>
    rw [hphase] at hlife
    cases stage with
    | dequeued => exact finalAt_of_open hlife (.inl rfl)
    | applied => exact finalAt_of_open hlife (.inr rfl)
    | marked | signaled => exact finalAt_of_closed hlife (Nat.le_refl 1) (by simp)
    | counted => exact hprocessed (.inl hlife)
    | notified => exact hprocessed hlife

theorem Open.cancelled {before : List Event} (h : Open s w before)
    (hc : MarkedCancelled s w) : history s w = before ++ [.cancelled w, .countedFailed w] := by
  obtain ⟨x, hx, ⟨hq, -⟩ | ⟨-, -, hh⟩⟩ := h
  · obtain ⟨y, hy, hstate⟩ := hc
    cases hx.symm.trans hy
    rw [hq] at hstate
    cases hstate
  · exact hh

theorem not_final_of_hit
    (h : Agree σ l phase) (hs : σ.step a = some σ') (hbad : ¬ SparesCancelled σ a) : ¬ CancelFinal σ' := by
  intro hfinal
  cases a with rw [System.step] at hs
  | apply i alloc =>
    obtain ⟨w, hi, rfl⟩ := advance_eq_some.mp hs
    apply hbad
    intro v hv hc
    obtain rfl : w = v := by simpa [hi] using hv
    have hopen : Open σ.sched w [] := h.heldLife hi
    have hsome : (σ.sched.heap.workloads w).isSome := by
      obtain ⟨x, hx, -⟩ := hc
      rw [hx]
      rfl
    have hhist := history_applyStrategy hsome alloc
    rw [hopen.cancelled hc] at hhist
    have hgood := (hfinal w).2 (by rw [hhist]; simp)
    exact hgood.undispatched [] [.countedFailed w, .applied w] hhist (by simp)
  | mark i =>
    obtain ⟨w, hi, rfl⟩ := advance_eq_some.mp hs
    apply hbad
    intro v hv hc
    obtain rfl : w = v := by simpa [hi] using hv
    have hopen : Open σ.sched w [.applied w] := h.heldLife hi
    have hhist := history_completeMark σ.sched w .success
    rw [hopen.cancelled hc] at hhist
    have hone := (hfinal w).1
    rw [hhist] at hone
    exact absurd hone (by simp [Event.terminal, List.filter_cons])
  | submit | cancel | setPriority | wait | getResult | take | signal | count | notify | release =>
    exact hbad trivial

def Event.countsCompleted : Event → Bool
  | .countedCompleted _ => true
  | _ => false

def Event.countsFailed : Event → Bool
  | .countedFailed _ => true
  | _ => false

/-- The statistics count the events of the log. -/
structure Counters (s : State) : Prop where
  completed : s.stats.workloadsCompleted = UInt64.ofNat (s.log.countP Event.countsCompleted)
  failed : s.stats.workloadsFailed = UInt64.ofNat (s.log.countP Event.countsFailed)

theorem Counters.logged (h : Counters s) (events : List Event)
    (hlog : s'.log = s.log ++ events) (hc : s'.stats.workloadsCompleted =
      s.stats.workloadsCompleted + UInt64.ofNat (events.countP Event.countsCompleted))
    (hf : s'.stats.workloadsFailed =
      s.stats.workloadsFailed + UInt64.ofNat (events.countP Event.countsFailed)) : Counters s' := by
  constructor
  · rw [hc, hlog, h.completed, List.countP_append, UInt64.ofNat_add]
  · rw [hf, hlog, h.failed, List.countP_append, UInt64.ofNat_add]

theorem Counters.quiet (h : Counters s) (hlog : s'.log = s.log)
    (hc : s'.stats.workloadsCompleted = s.stats.workloadsCompleted)
    (hf : s'.stats.workloadsFailed = s.stats.workloadsFailed) : Counters s' :=
  ⟨by rw [hlog, hc, h.completed], by rw [hlog, hf, h.failed]⟩

section Calls
variable {s : State}

variable (h : Counters s)
include h

theorem Counters.submit (alloc : Bool) (info : SubmitInfo) (callback : Option Nat) :
    Counters (submitQueue alloc info callback s).2 := by
  rcases submitQueue_cases alloc info callback s with hsub | ⟨-, hsub⟩ | ⟨-, hsub⟩
  · rw [hsub]
    exact h
  · rw [hsub]
    exact h.quiet rfl rfl rfl
  · rw [hsub]
    exact h.quiet rfl rfl rfl

theorem Counters.cancel (w : Nat) : Counters (workloadCancel s w).2 := by
  unfold workloadCancel
  split
  · exact h
  · split
    · exact h.logged [.cancelled w, .countedFailed w] rfl (by simp [Event.countsCompleted])
        (by simp [Event.countsFailed])
    · exact h

theorem Counters.setPriority (w : Nat) (priority : UInt32) :
    Counters (workloadSetPriority s w priority).2 := by
  unfold workloadSetPriority
  split
  · exact h
  · split
    · exact h
    · split
      · exact h.quiet rfl rfl rfl
      · exact h.quiet rfl rfl rfl

theorem Counters.applyStrategy (alloc : Bool) (w : Nat) : Counters (s.applyStrategy alloc w).2 := by
  unfold State.applyStrategy
  split
  · exact h
  · exact h.logged [.applied w] rfl (by simp [Event.countsCompleted, State.modify])
      (by simp [Event.countsFailed, State.modify])

theorem Counters.notify (w : Nat) : Counters (completeNotify s w .success) := by
  unfold completeNotify
  split
  · exact h
  · next callback _ =>
    exact h.logged [.notified w callback .success] rfl (by simp [Event.countsCompleted])
      (by simp [Event.countsFailed])

end Calls

theorem Counters.step (h : Counters σ.sched) (hs : σ.step a = some σ') :
    Counters σ'.sched := by
  cases a with rw [System.step] at hs
  | submit alloc info callback =>
    cases hs
    exact h.submit alloc info callback
  | cancel w =>
    obtain ⟨-, rfl⟩ := call_eq_some.mp hs
    exact h.cancel w
  | setPriority w priority =>
    obtain ⟨-, rfl⟩ := call_eq_some.mp hs
    exact h.setPriority w priority
  | wait w | getResult w =>
    obtain ⟨-, rfl⟩ := call_eq_some.mp hs
    exact h
  | take i =>
    obtain ⟨-, hs⟩ := ite_none_right_eq_some.mp hs
    obtain ⟨taken, -, rfl⟩ := map_eq_some_iff.mp hs
    exact h.quiet rfl rfl rfl
  | apply i alloc =>
    obtain ⟨w, -, rfl⟩ := advance_eq_some.mp hs
    exact h.applyStrategy alloc w
  | mark i =>
    obtain ⟨w, -, rfl⟩ := advance_eq_some.mp hs
    exact h.logged [.completed w .success] rfl
      (by simp [Event.countsCompleted, completeMark, State.modify])
      (by simp [Event.countsFailed, completeMark, State.modify])
  | signal i | release i =>
    obtain ⟨w, -, rfl⟩ := advance_eq_some.mp hs
    exact h.quiet rfl rfl rfl
  | count i =>
    obtain ⟨w, -, rfl⟩ := advance_eq_some.mp hs
    exact h.logged [.countedCompleted w] rfl
      (by simp [Event.countsCompleted, completeCount]) (by simp [Event.countsFailed, completeCount])
  | notify i =>
    obtain ⟨w, -, rfl⟩ := advance_eq_some.mp hs
    exact h.notify w

theorem agree_initial (gpus : Gpus) : Agree (initialSystem gpus) [] fun _ => .vacant where
  ready := ready_initialState gpus
  linked w := by simp
  held i w stage := by simp [initialSystem]
  unborn _ _ := rfl
  life w := ⟨rfl, rfl⟩

/-- **Finality of cancellation.** Along a run from the initial scheduler, every workload
reaches at most one terminal state and every cancellation is final, exactly when no
step of the run dispatches or completes a workload whose state is CANCELLED. -/
theorem cancel_final_iff (gpus : Gpus) (as : List Action) :
    Run.Along System.step CancelFinal (initialSystem gpus) as ↔
      Run.Admitted System.step SparesCancelled (initialSystem gpus) as := by
  have hinit := agree_initial gpus
  refine Run.along_iff_admitted (I := fun σ => ∃ l phase, Agree σ l phase) ?_ ?_ ⟨_, _, hinit⟩
    hinit.cancelFinal as
  · rintro σ a σ' ⟨l, phase, h⟩ - hs
    constructor
    · intro hfinal
      by_contra hbad
      exact not_final_of_hit h hs hbad hfinal
    · intro hok
      obtain ⟨l', phase', h'⟩ := h.step hok hs
      exact h'.cancelFinal
  · rintro σ a σ' ⟨l, phase, h⟩ - hs hok
    exact h.step hok hs

/-- A workload cancelled while it is queued is taken, dispatched and completed all the
same. -/
theorem cancel_not_final_when_queued :
    ¬ Run.Along System.step CancelFinal (initialSystem ⟨[], Nat.zero_le _⟩)
      [.submit true ⟨.compute, 50, 0xFFFFFFFF, 0⟩ none, .cancel 0, .take 0, .apply 0 true, .mark 0] := by
  intro h
  have hone := ((h.final rfl) 0).1
  exact nomatch hone

end Mvgal.Scheduler
