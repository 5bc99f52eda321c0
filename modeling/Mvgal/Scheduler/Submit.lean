import Mvgal.Scheduler.Calls

/-! Submission and the ready queue.

A created workload stands at an address no queue links yet, so creating it, and
destroying it again when the queue is full, leaves the queue as it is
(`Ready.create`, `Ready.destroy`). Submission is then one of three things: no
memory, a full queue, or the new workload at the end of the queue
(`submitQueue_cases`). -/
namespace Mvgal.Scheduler

variable {l : List Nat}

theorem Ready.fresh {h : Heap} {q : Queue} (hr : Ready h q l) : h.nextAddress ∉ l :=
  fun hw => Nat.lt_irrefl _ (hr.below _ hw)

theorem create_other (s : State) (info : SubmitInfo) {v : Nat} (hv : v ≠ s.heap.nextAddress) :
    (workloadCreateInternal s info).2.heap.workloads v = s.heap.workloads v := by
  simp [workloadCreateInternal, hv]

variable {s : State}

theorem Ready.create (hr : Ready s.heap s.readyQueue l) (info : SubmitInfo) :
    Ready (workloadCreateInternal s info).2.heap s.readyQueue l := by
  have hne : ∀ v ∈ l, v ≠ s.heap.nextAddress := fun v hv he => hr.fresh (he ▸ hv)
  refine ⟨⟨hr.list.head, hr.list.tail, hr.list.segment.frame ?_ ?_⟩, fun v hv => ?_, fun v hv => ?_,
    hr.count, hr.bounded⟩
  · intro v hv
    simp [workloadCreateInternal, hne v hv]
  · intro v hv
    simp [workloadCreateInternal, hne v hv]
  · rw [create_other s info (hne v hv)]
    exact hr.allocated v hv
  · exact Nat.lt_succ_of_lt (hr.below v hv)

theorem Ready.destroy {h : Heap} {q : Queue} (hr : Ready h q l) {w : Nat} (hw : w ∉ l) :
    Ready (workloadDestroyInternal h w) q l := by
  refine ⟨hr.list, fun v hv => ?_, hr.below, hr.count, hr.bounded⟩
  have hne : v ≠ w := fun he => hw (he ▸ hv)
  rw [destroy_other h hne]
  exact hr.allocated v hv

theorem submitted_other (info : SubmitInfo) (callback : Option Nat) (s : State) {v : Nat}
    (hv : v ≠ s.heap.nextAddress) :
    (submitted info callback s).heap.workloads v = s.heap.workloads v := by
  rw [submitted, State.modify, modify_other _ _ hv, create_other s info hv]

theorem submitted_self (info : SubmitInfo) (callback : Option Nat) (s : State) :
    (submitted info callback s).heap.workloads s.heap.nextAddress =
      some {newWorkload s.nextWorkloadId.toUInt32 info with callback := callback, state := .queued} := by
  simp [submitted, State.modify, workloadCreateInternal]

theorem Ready.submitted (hr : Ready s.heap s.readyQueue l) (info : SubmitInfo)
    (callback : Option Nat) : Ready (submitted info callback s).heap s.readyQueue l :=
  (hr.create info).modify _ _

def queuedState (info : SubmitInfo) (callback : Option Nat) (s : State) : State :=
  let s' := submitted info callback s
  let queued := workloadQueue s'.heap s'.readyQueue s.heap.nextAddress
  { s' with
    heap := queued.2.1
    readyQueue := queued.2.2
    stats := {s'.stats with workloadsSubmitted := s'.stats.workloadsSubmitted + 1} }

section
variable (info : SubmitInfo) (callback : Option Nat)
include info callback

theorem queuedState_nextAddress (s : State) :
    (queuedState info callback s).heap.nextAddress = s.heap.nextAddress + 1 := by
  unfold queuedState workloadQueue
  dsimp only
  split <;> rfl

theorem queuedState_other (s : State) {v : Nat} (hv : v ≠ s.heap.nextAddress) :
    (queuedState info callback s).heap.workloads v = s.heap.workloads v := by
  rw [← submitted_other info callback s hv]
  unfold queuedState workloadQueue
  dsimp only
  split
  · rfl
  · exact modify_other _ _ hv

theorem queuedState_self (s : State) :
    ∃ x, (queuedState info callback s).heap.workloads s.heap.nextAddress = some x ∧ x.state = .queued := by
  have hself := submitted_self info callback s
  unfold queuedState workloadQueue
  dsimp only
  split
  · exact ⟨_, hself, rfl⟩
  · exact ⟨_, by rw [workloadRetain, modify_self, hself, Option.map_some], rfl⟩

/-- A submission that gets its memory is queued if there is room. -/
theorem submitQueue_of_room (hf : ¬ maxQueued ≤ s.readyQueue.count) :
    submitQueue true info callback s = (.ok s.heap.nextAddress, queuedState info callback s) := by
  have hq : workloadQueue (submitted info callback s).heap (submitted info callback s).readyQueue
      s.heap.nextAddress = (.success, _, _) := if_neg hf
  simp only [submitQueue, queuedState, hq, if_true]

end

/-- **What a submission can do.** -/
theorem submitQueue_cases (alloc : Bool) (info : SubmitInfo) (callback : Option Nat) (s : State) :
    (submitQueue alloc info callback s = (.error .outOfMemory, s)) ∨
    (maxQueued ≤ s.readyQueue.count ∧ submitQueue alloc info callback s =
      (.error .memory, {submitted info callback s with
        heap := workloadDestroyInternal (submitted info callback s).heap s.heap.nextAddress})) ∨
    (¬ maxQueued ≤ s.readyQueue.count ∧
      submitQueue alloc info callback s = (.ok s.heap.nextAddress, queuedState info callback s)) := by
  cases alloc with
  | false => exact .inl rfl
  | true =>
    by_cases hf : maxQueued ≤ s.readyQueue.count
    · have hq : workloadQueue (submitted info callback s).heap (submitted info callback s).readyQueue
          s.heap.nextAddress = (.memory, _, _) := workloadQueue_full hf
      exact .inr (.inl ⟨hf, by simp only [submitQueue, hq, if_true]⟩)
    · exact .inr (.inr ⟨hf, submitQueue_of_room info callback hf⟩)

theorem Ready.queuedState (hr : Ready s.heap s.readyQueue l) (info : SubmitInfo)
    (callback : Option Nat) (hf : ¬ maxQueued ≤ s.readyQueue.count) :
    Ready (queuedState info callback s).heap (queuedState info callback s).readyQueue
      (l ++ [s.heap.nextAddress]) := by
  have hw := submitted_self info callback s
  exact (hr.submitted info callback).queue hf (by rw [hw]; rfl) (Nat.lt_succ_self _) hr.fresh

end Mvgal.Scheduler
