import Mvgal.Scheduler.Submit

/-! What a call on one workload touches.

Every call names one workload. It writes no other structure, leaves the list of
queued workloads alone, and logs events of that workload only (`Local`). So what
is known of the other workloads, and of the queue they stand in, survives. -/
namespace Mvgal.Scheduler

def Event.workload : Event → Nat
  | .applied w => w
  | .completed w _ => w
  | .cancelled w => w
  | .countedCompleted w => w
  | .countedFailed w => w
  | .notified w _ _ => w

def history (s : State) (w : Nat) : List Event := s.log.filter fun e => e.workload = w

/-- New events of one workload go to its history, and to no other. -/
theorem history_append {s s' : State} {w : Nat} {events : List Event} (hlog : s'.log = s.log ++ events)
    (he : ∀ e ∈ events, e.workload = w) :
    history s' w = history s w ++ events ∧ ∀ v, v ≠ w → history s' v = history s v := by
  unfold history
  rw [hlog]
  constructor
  · have hall : events.filter (fun e => decide (e.workload = w)) = events :=
      List.filter_eq_self.mpr fun e hm => by simpa using he e hm
    rw [List.filter_append, hall]
  · intro v hv
    have hnone : events.filter (fun e => decide (e.workload = v)) = [] :=
      List.filter_eq_nil_iff.mpr fun e hm => by simpa [he e hm] using hv.symm
    rw [List.filter_append, hnone, List.append_nil]

/-- The queue and every other workload are as before. -/
structure Local (w : Nat) (s s' : State) : Prop where
  ends : s'.readyQueue.ends = s.readyQueue.ends
  count : s'.readyQueue.count = s.readyQueue.count
  links : s'.heap.links = s.heap.links
  nextAddress : s'.heap.nextAddress = s.heap.nextAddress
  others : ∀ v, v ≠ w → s'.heap.workloads v = s.heap.workloads v
  histories : ∀ v, v ≠ w → history s' v = history s v

theorem Local.refl (w : Nat) (s : State) : Local w s s :=
  ⟨rfl, rfl, rfl, rfl, fun _ _ => rfl, fun _ _ => rfl⟩

theorem Local.trans {w : Nat} {s s' s'' : State} (h : Local w s s') (h' : Local w s' s'') :
    Local w s s'' where
  ends := h'.ends.trans h.ends
  count := h'.count.trans h.count
  links := h'.links.trans h.links
  nextAddress := h'.nextAddress.trans h.nextAddress
  others v hv := (h'.others v hv).trans (h.others v hv)
  histories v hv := (h'.histories v hv).trans (h.histories v hv)

theorem Local.priority {w : Nat} {s s' : State} (h : Local w s s') {v : Nat} (hv : v ≠ w) :
    s'.heap.priority v = s.heap.priority v := by
  simp only [Heap.priority, h.others v hv]

/-- A queue without the workload is still represented. -/
theorem Ready.local {w : Nat} {s s' : State} {l : List Nat} (hr : Ready s.heap s.readyQueue l)
    (h : Local w s s') (hw : w ∈ l → (s'.heap.workloads w).isSome) : Ready s'.heap s'.readyQueue l := by
  refine ⟨by rw [h.links, h.ends]; exact hr.list, fun v hv => ?_, fun v hv => ?_, ?_, hr.bounded⟩
  · by_cases hvw : v = w
    · subst hvw
      exact hw hv
    · rw [h.others v hvw]
      exact hr.allocated v hv
  · rw [h.nextAddress]
    exact hr.below v hv
  · rw [h.count]
    exact hr.count

theorem local_modify (s : State) (w : Nat) (f : Workload → Workload) : Local w s (s.modify w f) :=
  ⟨rfl, rfl, rfl, rfl, fun _ hv => modify_other s.heap f hv, fun _ _ => rfl⟩

/-- Logging events of the workload, after writes to it. -/
theorem Local.logged {w : Nat} {s s' s'' : State} (h : Local w s s') {events : List Event}
    (hheap : s''.heap = s'.heap) (hqueue : s''.readyQueue = s'.readyQueue)
    (hlog : s''.log = s'.log ++ events) (he : ∀ e ∈ events, e.workload = w) : Local w s s'' where
  ends := by rw [hqueue, h.ends]
  count := by rw [hqueue, h.count]
  links := by rw [hheap, h.links]
  nextAddress := by rw [hheap, h.nextAddress]
  others v hv := by rw [hheap, h.others v hv]
  histories v hv := by rw [(history_append hlog he).2 v hv, h.histories v hv]

theorem local_applyStrategy (alloc : Bool) (s : State) (w : Nat) :
    Local w s (s.applyStrategy alloc w).2 := by
  unfold State.applyStrategy
  split
  · exact .refl w s
  · exact (local_modify s w _).logged rfl rfl rfl (by simp [Event.workload])

section
variable (s : State) (w : Nat)
include s w

theorem local_completeMark (result : Error) : Local w s (completeMark s w result) :=
  (local_modify s w _).logged rfl rfl rfl (by simp [Event.workload])

theorem local_completeCount (result : Error) : Local w s (completeCount s w result) := by
  unfold completeCount
  split <;> exact (Local.refl w s).logged rfl rfl rfl (by simp [Event.workload])

theorem local_completeNotify (result : Error) : Local w s (completeNotify s w result) := by
  unfold completeNotify
  split
  · exact .refl w s
  · exact (Local.refl w s).logged rfl rfl rfl (by simp [Event.workload])

theorem local_workloadComplete (result : Error) : Local w s (workloadComplete s w result) :=
  (((local_completeMark s w result).trans (local_modify _ w _)).trans
    (local_completeCount _ w result)).trans (local_completeNotify _ w result)

theorem local_release : Local w s {s with heap := workloadRelease s.heap w} := by
  unfold workloadRelease
  split
  · exact .refl w s
  · split
    · exact ⟨rfl, rfl, rfl, rfl, fun v hv => (destroy_other _ hv).trans (modify_other s.heap _ hv),
        fun _ _ => rfl⟩
    · exact local_modify s w _

theorem local_workloadCancel : Local w s (workloadCancel s w).2 := by
  unfold workloadCancel
  split
  · exact .refl w s
  · split
    · exact (local_modify s w _).logged rfl rfl rfl (by simp [Event.workload])
    · exact .refl w s

theorem local_workloadSetPriority (priority : UInt32) :
    Local w s (workloadSetPriority s w priority).2 := by
  unfold workloadSetPriority
  split
  · exact .refl w s
  · split
    · exact .refl w s
    · split
      · exact ⟨rfl, rfl, rfl, rfl, (local_modify s w _).others, fun _ _ => rfl⟩
      · exact local_modify s w _

end

end Mvgal.Scheduler
