import Mvgal.Lib.Table
import Mvgal.Scheduler.Lifecycle

/-! Workers between queue and release.

A worker that holds a workload goes through the stages in a fixed order
(`Stage.perform`, `Stage.next`), whichever loop it is in. The workloads in the
queue and those held by workers are apart, and no two workers hold the same one
(`Placed`); every step of the system keeps that. -/
namespace Mvgal.Scheduler
open Chain (IsList)
open Function (update)

def State.queued (s : State) : List Nat := Chain.nodes s.heap.links s.heap.nextAddress s.readyQueue.ends.head

theorem Ready.queued_eq {s : State} {l : List Nat} (hr : Ready s.heap s.readyQueue l) : s.queued = l := by
  rw [State.queued, hr.list.head]
  exact hr.list.segment.nodes_eq hr.length_le

theorem Local.queued_eq {w : Nat} {s s' : State} (h : Local w s s') : s'.queued = s.queued := by
  rw [State.queued, h.links, h.nextAddress, h.ends, State.queued]

/-- What a worker does next with the workload it holds. -/
def Stage.perform (alloc : Bool) (s : State) (w : Nat) : Stage → State
  | .dequeued => (s.applyStrategy alloc w).2
  | .applied => completeMark s w .success
  | .marked => completeSignal s w .success
  | .signaled => completeCount s w .success
  | .counted => completeNotify s w .success
  | .notified => {s with heap := workloadRelease s.heap w}

def Stage.next : Stage → Option Stage
  | .dequeued => some .applied
  | .applied => some .marked
  | .marked => some .signaled
  | .signaled => some .counted
  | .counted => some .notified
  | .notified => none

/-- The action of the system that a worker takes at a stage. -/
def Stage.action (i : Nat) (alloc : Bool) : Stage → Action
  | .dequeued => .apply i alloc
  | .applied => .mark i
  | .marked => .signal i
  | .signaled => .count i
  | .counted => .notify i
  | .notified => .release i

/-- A worker's next step on the workload it holds. -/
def System.work (σ : System) (i : Nat) (alloc : Bool) : Option System :=
  match σ.worker i with
  | none => none
  | some (_, stage) => σ.step (stage.action i alloc)

def System.worked (σ : System) (i : Nat) (alloc : Bool) (w : Nat) (stage : Stage) : System :=
  ⟨stage.perform alloc σ.sched w, update σ.worker i (stage.next.map fun st => (w, st))⟩

theorem System.work_eq {σ : System} {i w : Nat} {stage : Stage} (hi : σ.worker i = some (w, stage)) (alloc : Bool) :
    σ.work i alloc = some (σ.worked i alloc w stage) := by
  cases stage <;> simp [System.work, System.step, System.advance, Stage.action, System.worked, Stage.perform,
    Stage.next, hi]

theorem System.work_cases {σ σ' : System} {i : Nat} {alloc : Bool} (h : σ.work i alloc = some σ') :
    ∃ w stage, σ.worker i = some (w, stage) ∧ σ' = σ.worked i alloc w stage := by
  cases hi : σ.worker i with
  | none => simp [System.work, hi] at h
  | some held =>
    obtain ⟨w, stage⟩ := held
    exact ⟨w, stage, rfl, Option.some.inj (h.symm.trans (System.work_eq hi alloc))⟩

theorem local_perform (stage : Stage) (alloc : Bool) (s : State) (w : Nat) : Local w s (stage.perform alloc s w) := by
  cases stage with
  | dequeued => exact local_applyStrategy alloc s w
  | applied => exact local_completeMark s w .success
  | marked => exact local_modify s w _
  | signaled => exact local_completeCount s w .success
  | counted => exact local_completeNotify s w .success
  | notified => exact local_release s w

/-- The queue holds `l`, and the workers hold other workloads, each its own. -/
structure Placed (σ : System) (l : List Nat) : Prop where
  ready : Ready σ.sched.heap σ.sched.readyQueue l
  apart : ∀ i w stage, σ.worker i = some (w, stage) → w ∉ l ∧ w < σ.sched.heap.nextAddress
  alone : ∀ i j w stage stage', σ.worker i = some (w, stage) → σ.worker j = some (w, stage') → i = j

variable {σ σ' : System} {l : List Nat} {i w : Nat} {stage : Stage}

theorem placed_initialSystem (gpus : Gpus) : Placed (initialSystem gpus) [] :=
  ⟨ready_initialState gpus, nofun, nofun⟩

variable (h : Placed σ l)
include h

/-- A call on one workload that leaves it in memory if it is queued. -/
theorem Placed.call {s' : State} (hlocal : Local w σ.sched s')
    (hw : w ∈ l → (s'.heap.workloads w).isSome) : Placed {σ with sched := s'} l :=
  ⟨h.ready.local hlocal hw, fun j v st hv => by
    rw [hlocal.nextAddress]
    exact h.apart j v st hv, h.alone⟩

theorem Placed.worked (hi : σ.worker i = some (w, stage)) (alloc : Bool) :
    Placed (σ.worked i alloc w stage) l := by
  have hlocal := local_perform stage alloc σ.sched w
  -- What a worker holds afterwards, it held before.
  have hheld (j v : Nat) (st : Stage) (hv : (σ.worked i alloc w stage).worker j = some (v, st)) :
      ∃ st', σ.worker j = some (v, st') := by
    obtain ⟨rfl, hnext⟩ | ⟨-, hv⟩ := Table.update_eq_iff.mp hv
    · obtain ⟨st', -, heq⟩ := Option.map_eq_some_iff.mp hnext
      exact ⟨stage, by rw [hi, ← (Prod.mk.inj heq).1]⟩
    · exact ⟨st, hv⟩
  refine ⟨h.ready.local hlocal fun hw => absurd hw (h.apart i w stage hi).1, fun j v st hv => ?_,
    fun j k v st st' hj hk => ?_⟩
  · obtain ⟨st', hv'⟩ := hheld j v st hv
    obtain ⟨hnot, hlt⟩ := h.apart j v st' hv'
    exact ⟨hnot, hlocal.nextAddress.symm ▸ hlt⟩
  · obtain ⟨st₁, hj'⟩ := hheld j v st hj
    obtain ⟨st₂, hk'⟩ := hheld k v st' hk
    exact h.alone j k v st₁ st₂ hj' hk'

def System.taken (σ : System) (i w : Nat) (L : Chain.Links Nat) (e : Chain.Ends Nat) : System where
  sched := { σ.sched with
    heap := {σ.sched.heap with links := L}
    readyQueue := ⟨e, σ.sched.readyQueue.count - 1,
      σ.sched.readyQueue.totalPriority - (σ.sched.heap.priority w).toUInt64⟩ }
  worker := update σ.worker i (some (w, .dequeued))

/-- A worker that looks for work finds only workloads of priority 0, or takes one. -/
theorem Placed.take_cases (htake : σ.take i = some σ') :
    σ.worker i = none ∧ (σ' = σ ∧ (∀ w ∈ l, σ.sched.heap.priority w = 0) ∨
      ∃ w L e, w ∈ l ∧ IsList L e (l.erase w) ∧ 0 < σ.sched.heap.priority w ∧ σ' = σ.taken i w L e) := by
  obtain ⟨⟨hi, -⟩, htake⟩ := Option.ite_none_right_eq_some.mp htake
  refine ⟨hi, ?_⟩
  rcases h.ready.dequeuePriority with ⟨hdeq, hzero⟩ | ⟨w, L, e, hdeq, hfirst, hlist⟩
  · rw [hdeq] at htake
    cases htake
    have hworker : update σ.worker i none = σ.worker := by rw [← hi, Function.update_eq_self]
    exact .inl ⟨congrArg (System.mk σ.sched) hworker, hzero⟩
  · rw [hdeq] at htake
    cases htake
    exact .inr ⟨w, L, e, hfirst.mem, hlist, by simpa [higher] using hfirst.above, rfl⟩

theorem Placed.taken (hi : σ.worker i = none) (hw : w ∈ l) {L : Chain.Links Nat} {e : Chain.Ends Nat}
    (hlist : IsList L e (l.erase w)) : Placed (σ.taken i w L e) (l.erase w) := by
  have hother (j v : Nat) (st : Stage) (hj : (σ.taken i w L e).worker j = some (v, st)) :
      (j = i ∧ v = w) ∨ σ.worker j = some (v, st) ∧ v ≠ w := by
    obtain ⟨hji, heq⟩ | ⟨-, hj⟩ := Table.update_some hj
    · exact .inl ⟨hji, (Prod.mk.inj heq).1.symm⟩
    · exact .inr ⟨hj, fun heq => (h.apart j v st hj).1 (heq ▸ hw)⟩
  refine ⟨h.ready.remove hw hlist _, fun j v st hj => ?_, fun j k v st st' hj hk => ?_⟩
  · obtain ⟨-, rfl⟩ | ⟨hj, -⟩ := hother j v st hj
    · exact ⟨h.ready.list.nodup.not_mem_erase, h.ready.below v hw⟩
    · exact ⟨fun hm => (h.apart j v st hj).1 (List.mem_of_mem_erase hm), (h.apart j v st hj).2⟩
  · obtain ⟨rfl, rfl⟩ | ⟨hj, hne⟩ := hother j v st hj
    · obtain ⟨rfl, -⟩ | ⟨-, hne⟩ := hother k v st' hk
      · rfl
      · exact absurd rfl hne
    · obtain ⟨-, rfl⟩ | ⟨hk, -⟩ := hother k v st' hk
      · exact absurd rfl hne
      · exact h.alone j k v st st' hj hk

theorem Placed.queued (info : SubmitInfo) (callback : Option Nat)
    (hf : ¬ maxQueued ≤ σ.sched.readyQueue.count) :
    Placed {σ with sched := queuedState info callback σ.sched} (l ++ [σ.sched.heap.nextAddress]) := by
  refine ⟨h.ready.queuedState info callback hf, fun j v st hj => ?_, h.alone⟩
  obtain ⟨hnot, hlt⟩ := h.apart j v st hj
  refine ⟨fun hm => ?_, ?_⟩
  · obtain hm | hm := List.mem_append.mp hm
    · exact hnot hm
    · exact absurd (List.mem_singleton.mp hm) (Nat.ne_of_lt hlt)
  · rw [queuedState_nextAddress]
    exact Nat.lt_succ_of_lt hlt

/-- The state after a submission that found the queue full: an address is used up. -/
def refusedState (info : SubmitInfo) (callback : Option Nat) (s : State) : State :=
  {submitted info callback s with heap := workloadDestroyInternal (submitted info callback s).heap s.heap.nextAddress}

theorem Placed.refused (info : SubmitInfo) (callback : Option Nat) :
    Placed {σ with sched := refusedState info callback σ.sched} l :=
  ⟨(h.ready.submitted info callback).destroy h.ready.fresh, fun j v st hj =>
    ⟨(h.apart j v st hj).1, Nat.lt_succ_of_lt (h.apart j v st hj).2⟩, h.alone⟩

end Mvgal.Scheduler
