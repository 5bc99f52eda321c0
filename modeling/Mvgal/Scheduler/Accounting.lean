import Mvgal.Scheduler.Submit
import Mvgal.Lib.Run

/-! The bookkeeping of the ready queue under interleaved calls.

Links and count follow the list of queued workloads under every call
(`queueStep_follows`). The sum of the priorities follows it too, but for
`mvgal_workload_set_priority`: it corrects the sum by the state field of the
workload, while queue membership is what the sum is about. A workload keeps the
state QUEUED after it was taken from the queue, until it is completed, and loses
it by cancellation while it is still linked. The sum stays right exactly when
every accepted change of a priority finds the two in agreement, or changes
nothing (`queue_invariant_iff`). -/
namespace Mvgal.Scheduler
open Option
open Chain (IsList)

/-- One critical section on the ready queue or on a workload. -/
inductive QueueAction where
  | submit (alloc : Bool) (info : SubmitInfo) (callback : Option Nat)
  | cancel (w : Nat)
  | setPriority (w : Nat) (priority : UInt32)
  | dequeue
  | dequeuePriority
  | complete (w : Nat) (result : Error)

def onWorkload (s : State) (w : Nat) (s' : State) : Option State :=
  if (s.heap.workloads w).isSome then some s' else none

variable {s s' : State} {w : Nat}

theorem onWorkload_eq_some {t : State} :
    onWorkload s w t = some s' ↔ (s.heap.workloads w).isSome ∧ t = s' := by
  simp [onWorkload]

def queueStep (s : State) : QueueAction → Option State
  | .submit alloc info callback => some (submitQueue alloc info callback s).2
  | .cancel w => onWorkload s w (workloadCancel s w).2
  | .setPriority w priority => onWorkload s w (workloadSetPriority s w priority).2
  | .dequeue =>
    let taken := workloadDequeue s.heap s.readyQueue
    some {s with heap := taken.2.1, readyQueue := taken.2.2}
  | .dequeuePriority =>
    (workloadDequeuePriority s.heap s.readyQueue).map fun taken =>
      {s with heap := taken.2.1, readyQueue := taken.2.2}
  | .complete w result => onWorkload s w (workloadComplete s w result)

/-- The representation invariant of the ready queue. -/
structure QueueInvariant (s : State) (l : List Nat) : Prop where
  list : IsList s.heap.links s.readyQueue.ends l
  nodup : l.Nodup
  count : s.readyQueue.count.toNat = l.length
  total : s.readyQueue.totalPriority.toNat = prioritySum s.heap l

def Linked (s : State) (w : Nat) : Prop := ∃ l, IsList s.heap.links s.readyQueue.ends l ∧ w ∈ l

def MarkedQueued (s : State) (w : Nat) : Prop := ∃ x, s.heap.workloads w = some x ∧ x.state = .queued

/-- The condition under which a step keeps the sum: an accepted change of a priority
finds the state field and the queue in agreement, or changes nothing. -/
def PriorityChangeSound (s : State) : QueueAction → Prop
  | .setPriority w priority =>
    priority > 100 ∨ priority = s.heap.priority w ∨ (MarkedQueued s w ↔ Linked s w)
  | _ => True

/-- The queue represents a list again, and its sum is right again exactly if `ok`. -/
def Follows (s : State) (l : List Nat) (ok : Prop) (s' : State) : Prop :=
  ∃ l', Ready s'.heap s'.readyQueue l' ∧ (s.readyQueue.totalPriority.toNat = prioritySum s.heap l →
      (s'.readyQueue.totalPriority.toNat = prioritySum s'.heap l' ↔ ok))

variable {l : List Nat}

theorem follows_refl (hr : Ready s.heap s.readyQueue l) : Follows s l True s :=
  ⟨l, hr, fun ht => iff_of_true ht trivial⟩

/-- Writes that touch neither the queue nor a priority. -/
theorem follows_of_frame (hr : Ready s'.heap s'.readyQueue l)
    (hq : s'.readyQueue.totalPriority = s.readyQueue.totalPriority)
    (hp : ∀ w ∈ l, s'.heap.priority w = s.heap.priority w) : Follows s l True s' := by
  refine ⟨l, hr, fun ht => iff_of_true ?_ trivial⟩
  rw [hq, ht, prioritySum_congr hp]

section
variable (hr : Ready s.heap s.readyQueue l)
include hr

theorem follows_submit (alloc : Bool)
    (info : SubmitInfo) (callback : Option Nat) :
    Follows s l True (submitQueue alloc info callback s).2 := by
  have hpri : ∀ w ∈ l, (submitted info callback s).heap.priority w = s.heap.priority w := by
    intro w hw
    have hne : w ≠ s.heap.nextAddress := fun he => hr.fresh (he ▸ hw)
    simp only [Heap.priority, submitted_other info callback s hne]
  rcases submitQueue_cases alloc info callback s with h | ⟨-, h⟩ | ⟨hf, h⟩
  · rw [h]
    exact follows_refl hr
  · rw [h]
    refine follows_of_frame ((hr.submitted info callback).destroy hr.fresh) rfl fun w hw => ?_
    have hne : w ≠ s.heap.nextAddress := fun he => hr.fresh (he ▸ hw)
    rw [← hpri w hw]
    simp only [Heap.priority, destroy_other _ hne]
  · rw [h]
    refine ⟨_, hr.queuedState info callback hf, fun ht => iff_of_true ?_ trivial⟩
    have ht' : (submitted info callback s).readyQueue.totalPriority.toNat =
        prioritySum (submitted info callback s).heap l := by
      rw [prioritySum_congr hpri]
      exact ht
    exact workloadQueue_totalPriority (hr.submitted info callback) hf ht'

theorem follows_cancel (w : Nat) :
    Follows s l True (workloadCancel s w).2 := by
  unfold workloadCancel
  split
  · exact follows_refl hr
  · split
    · refine follows_of_frame (hr.modify w _) rfl fun v _ => ?_
      exact congrFun (modify_priority s.heap w Workload.cancel fun _ => rfl) v
    · exact follows_refl hr

theorem follows_complete (w : Nat)
    (result : Error) : Follows s l True (workloadComplete s w result) := by
  have hheap := workloadComplete_heap s w result
  have hqueue := workloadComplete_readyQueue s w result
  refine follows_of_frame ?_ (by rw [hqueue]) fun v _ => ?_
  · rw [hheap, hqueue]
    exact (hr.modify w _).modify w _
  · rw [hheap, modify_priority _ w (·.signal result) fun _ => rfl,
      modify_priority _ w (·.mark result) fun _ => rfl]

theorem follows_dequeue :
    Follows s l True {s with
      heap := (workloadDequeue s.heap s.readyQueue).2.1
      readyQueue := (workloadDequeue s.heap s.readyQueue).2.2} := by
  cases l with
  | nil =>
    rw [workloadDequeue_nil hr]
    exact follows_refl hr
  | cons w l =>
    obtain ⟨L, e, hdeq, hlist⟩ := hr.dequeue
    have hw : w ∈ w :: l := List.mem_cons_self
    have herase : (w :: l).erase w = l := List.erase_cons_head ..
    rw [← herase] at hlist
    rw [hdeq]
    exact ⟨_, hr.remove hw hlist _, fun ht => iff_of_true (totalPriority_remove hr hw ht L) trivial⟩

theorem follows_dequeuePriority
    (h : (workloadDequeuePriority s.heap s.readyQueue).map (fun taken =>
      {s with heap := taken.2.1, readyQueue := taken.2.2}) = some s') : Follows s l True s' := by
  rcases hr.dequeuePriority with ⟨hdeq, -⟩ | ⟨w, L, e, hdeq, hfirst, hlist⟩
  · rw [hdeq, map_some, some.injEq] at h
    rw [← h]
    exact follows_refl hr
  · rw [hdeq, map_some, some.injEq] at h
    rw [← h]
    have hw := hfirst.mem
    exact ⟨_, hr.remove hw hlist _, fun ht => iff_of_true (totalPriority_remove hr hw ht L) trivial⟩

end

theorem priority_setPriority (h : Heap) (hw : (h.workloads w).isSome) (priority : UInt32) :
    (h.modify w (·.setPriority priority)).priority w = priority := by
  obtain ⟨x, hx⟩ := isSome_iff_exists.mp hw
  simp [Heap.priority, hx, Workload.setPriority]

theorem prioritySum_setPriority {h : Heap} (hw : (h.workloads w).isSome)
    (hd : l.Nodup) (hl : w ∈ l) (priority : UInt32) :
    prioritySum (h.modify w (·.setPriority priority)) l + (h.priority w).toNat =
      prioritySum h l + priority.toNat := by
  have hrest : prioritySum (h.modify w (·.setPriority priority)) (l.erase w) =
      prioritySum h (l.erase w) := by
    refine prioritySum_congr fun v hv => ?_
    have hne : v ≠ w := fun he => hd.not_mem_erase (he ▸ hv)
    simp only [Heap.priority, modify_other h _ hne]
  rw [prioritySum_erase h hl, prioritySum_erase _ hl, priority_setPriority h hw, hrest]
  omega

theorem prioritySum_setPriority_unlinked (h : Heap) (hl : w ∉ l)
    (priority : UInt32) : prioritySum (h.modify w (·.setPriority priority)) l = prioritySum h l := by
  refine prioritySum_congr fun v hv => ?_
  have hne : v ≠ w := fun he => hl (he ▸ hv)
  simp only [Heap.priority, modify_other h _ hne]

/-- The correction of the sum, in unbounded numbers: no change, or the old priority out
and the new one in. -/
theorem totalPriority_correction (total : UInt64) (old new : UInt32) (ht : total.toNat < 2 ^ 63) (n : Nat)
    (hn : n < 2 ^ 63) :
    (total - old.toUInt64 + new.toUInt64).toNat = n ↔ total.toNat + new.toNat = n + old.toNat := by
  have hold := old.toNat_lt
  have hnew := new.toNat_lt
  rw [UInt64.toNat_add, UInt64.toNat_sub, UInt32.toNat_toUInt64, UInt32.toNat_toUInt64]
  omega

section
variable (hr : Ready s.heap s.readyQueue l)
include hr

theorem linked_iff (w : Nat) : Linked s w ↔ w ∈ l :=
  ⟨fun ⟨_, hlist, hw⟩ => hlist.unique hr.list ▸ hw, fun hw => ⟨l, hr.list, hw⟩⟩

theorem follows_setPriority
    {x : Workload} (hx : s.heap.workloads w = some x) (priority : UInt32) :
    Follows s l (priority > 100 ∨ priority = s.heap.priority w ∨ (MarkedQueued s w ↔ Linked s w))
      (workloadSetPriority s w priority).2 := by
  have hsome : (s.heap.workloads w).isSome := by rw [hx]; rfl
  have hold : s.heap.priority w = x.descriptor.priority := by simp only [Heap.priority, hx]
  have hmark : MarkedQueued s w ↔ x.state = .queued := by simp [MarkedQueued, hx]
  have hr' : Ready (s.heap.modify w (·.setPriority priority)) s.readyQueue l := hr.modify w _
  have hlt := hr.prioritySum_lt
  have hlt' := hr'.prioritySum_lt
  have hinj : priority = s.heap.priority w ↔ priority.toNat = (s.heap.priority w).toNat :=
    UInt32.toNat_inj.symm
  rw [hmark, linked_iff hr, hinj]
  unfold workloadSetPriority
  simp only [hx]
  by_cases hbig : priority > 100
  · rw [if_pos hbig]
    exact ⟨l, hr, fun ht => iff_of_true ht (.inl hbig)⟩
  · rw [if_neg hbig]
    by_cases hq : x.state = .queued
    · rw [if_pos hq]
      refine ⟨l, ⟨hr'.list, hr'.allocated, hr'.below, hr'.count, hr'.bounded⟩, fun ht => ?_⟩
      show (s.readyQueue.totalPriority - x.descriptor.priority.toUInt64 + priority.toUInt64).toNat =
        prioritySum (s.heap.modify w (·.setPriority priority)) l ↔ _
      rw [totalPriority_correction _ _ _ (by omega) _ hlt', ← hold, ht]
      by_cases hl : w ∈ l
      · have hsum := prioritySum_setPriority hsome hr.list.nodup hl priority
        exact iff_of_true (by omega) (.inr (.inr ⟨fun _ => hl, fun _ => hq⟩))
      · rw [prioritySum_setPriority_unlinked s.heap hl]
        simp only [hbig, hq, hl, false_or, iff_false, or_false, not_true]
        omega
    · rw [if_neg hq]
      refine ⟨l, hr', fun ht => ?_⟩
      show s.readyQueue.totalPriority.toNat = prioritySum (s.heap.modify w (·.setPriority priority)) l ↔ _
      rw [ht]
      by_cases hl : w ∈ l
      · have hsum := prioritySum_setPriority hsome hr.list.nodup hl priority
        simp only [hbig, hq, hl, false_or, false_iff, not_true, or_false]
        omega
      · rw [prioritySum_setPriority_unlinked s.heap hl]
        exact iff_of_true rfl (.inr (.inr ⟨fun h => absurd h hq, fun h => absurd h hl⟩))

/-- **The effect of a step.** -/
theorem queueStep_follows {a : QueueAction}
    (h : queueStep s a = some s') :
    Follows s l (PriorityChangeSound s a) s' := by
  cases a with
  | submit alloc info callback =>
    cases h
    exact follows_submit hr alloc info callback
  | cancel w =>
    obtain ⟨-, rfl⟩ := onWorkload_eq_some.mp h
    exact follows_cancel hr w
  | setPriority w priority =>
    obtain ⟨hw, rfl⟩ := onWorkload_eq_some.mp h
    obtain ⟨x, hx⟩ := isSome_iff_exists.mp hw
    exact follows_setPriority hr hx priority
  | dequeue =>
    cases h
    exact follows_dequeue hr
  | dequeuePriority => exact follows_dequeuePriority hr h
  | complete w result =>
    obtain ⟨-, rfl⟩ := onWorkload_eq_some.mp h
    exact follows_complete hr w result

/-- The invariant of a represented queue is the one equation that can fail. -/
theorem queueInvariant_iff :
    (∃ l', QueueInvariant s l') ↔ s.readyQueue.totalPriority.toNat = prioritySum s.heap l := by
  constructor
  · rintro ⟨l', h⟩
    rw [h.total, h.list.unique hr.list]
  · intro ht
    exact ⟨l, hr.list, hr.list.nodup, hr.count, ht⟩

end

/-- **The ready queue under interleaved calls.** From the initial scheduler, the
representation invariant holds in every state of a run exactly when every step of
the run that changes a priority finds the state field and the queue in agreement. -/
theorem queue_invariant_iff (gpus : Gpus) (as : List QueueAction) :
    Run.Along queueStep (fun s => ∃ l, QueueInvariant s l) (initialState gpus) as ↔
      Run.Admitted queueStep PriorityChangeSound (initialState gpus) as := by
  refine Run.along_iff_admitted (I := fun s : State => ∃ l, Ready s.heap s.readyQueue l) ?_ ?_
    ⟨[], ready_initialState gpus⟩ ((queueInvariant_iff (ready_initialState gpus)).mpr rfl) as
  · rintro s a s' ⟨l, hr⟩ hp h
    obtain ⟨l', hr', hsound⟩ := queueStep_follows hr h
    rw [queueInvariant_iff hr']
    exact hsound ((queueInvariant_iff hr).mp hp)
  · rintro s a s' ⟨l, hr⟩ - h -
    obtain ⟨l', hr', -⟩ := queueStep_follows hr h
    exact ⟨l', hr'⟩

/-- A workload taken from the queue is still marked as queued: lowering its priority
takes the old priority out of a sum it is no longer part of, which wraps below zero. -/
theorem queue_invariant_fails_after_dequeue :
    ¬ Run.Along queueStep (fun s => ∃ l, QueueInvariant s l) (initialState ⟨[], Nat.zero_le _⟩)
      [.submit true ⟨.compute, 50, 0xFFFFFFFF, 0⟩ none, .dequeuePriority, .setPriority 0 10] := by
  intro h
  obtain ⟨l, hinv⟩ := h.final rfl
  obtain rfl : l = [] := List.length_eq_zero_iff.mp hinv.count.symm
  have htotal : (2 ^ 64 - 50 + 10 : Nat) = 0 := hinv.total
  omega

end Mvgal.Scheduler
