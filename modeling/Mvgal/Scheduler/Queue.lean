import Mathlib.Algebra.GroupWithZero.Nat
import Mvgal.Scheduler.State
import Mvgal.Lib.Scan
import Mathlib.Data.List.Perm.Subperm

/-! The ready queue (`scheduler.c`: queue, dequeue, dequeue_priority).

`Ready h q l` says that the queue header and the links of the heap represent the
list `l` of workloads. Appending, taking the first and taking the one of highest
priority are then list operations: `Ready.queue`, `Ready.dequeue`,
`Ready.dequeuePriority`. The scan for the highest priority starts from priority
0 and replaces its choice by a strictly greater one, so it overlooks workloads
of priority 0. -/
namespace Mvgal.Scheduler
open List
open Chain (IsList pushBack popFront unlink)
open Scan (scan FirstBest)

def workloadRetain (h : Heap) (w : Nat) : Heap :=
  h.modify w fun x => {x with refcount := x.refcount + 1}

def workloadQueue (h : Heap) (q : Queue) (w : Nat) : Error × Heap × Queue :=
  if maxQueued ≤ q.count then (.memory, h, q)
  else
    let h := workloadRetain h w
    let linked := pushBack h.links q.ends w
    (.success, {h with links := linked.1},
      { ends := linked.2
        count := q.count + 1
        totalPriority := q.totalPriority + (h.priority w).toUInt64 })

def workloadDequeue (h : Heap) (q : Queue) : Option Nat × Heap × Queue :=
  match q.ends.head with
  | none => (none, h, q)
  | some w =>
    let linked := popFront h.links q.ends w
    (some w, {h with links := linked.1},
      { ends := linked.2
        count := q.count - 1
        totalPriority := q.totalPriority - (h.priority w).toUInt64 })

/-- The loop of `mvgal_workload_dequeue_priority`, from `current` on. -/
def dequeueScan (h : Heap) (best : UInt32 × Option Nat) : Nat → Option Nat →
    Option (UInt32 × Option Nat)
  | _, none => some best
  | 0, some _ => none
  | fuel + 1, some current =>
    dequeueScan h (if h.priority current > best.1 then (h.priority current, some current) else best)
      fuel (h.links.next current)

/-- `mvgal_workload_dequeue_priority`. The loop over the links visits every
address at most once or never ends, which is `none`. -/
def workloadDequeuePriority (h : Heap) (q : Queue) : Option (Option Nat × Heap × Queue) :=
  match dequeueScan h (0, none) h.nextAddress q.ends.head with
  | none => none
  | some (_, none) => some (none, h, q)
  | some (bestPriority, some best) =>
    let linked := unlink h.links q.ends best
    some (some best, {h with links := linked.1},
      { ends := linked.2
        count := q.count - 1
        totalPriority := q.totalPriority - bestPriority.toUInt64 })

/-- The queue holds the workloads of `l`, first to last. -/
structure Ready (h : Heap) (q : Queue) (l : List Nat) : Prop where
  list : IsList h.links q.ends l
  allocated : ∀ w ∈ l, (h.workloads w).isSome
  below : ∀ w ∈ l, w < h.nextAddress
  count : q.count.toNat = l.length
  bounded : l.length ≤ maxQueued.toNat

def prioritySum (h : Heap) (l : List Nat) : Nat := (l.map fun w => (h.priority w).toNat).sum

theorem ready_nil (h : Heap) : Ready h ⟨⟨none, none⟩, 0, 0⟩ [] :=
  ⟨Chain.isList_nil _, by simp, by simp, rfl, by simp⟩

variable {l : List Nat} {h : Heap} {q : Queue}

theorem Ready.length_le (hr : Ready h q l) : l.length ≤ h.nextAddress := by
  have hsub : l ⊆ range h.nextAddress := fun w hw => mem_range.mpr (hr.below w hw)
  simpa using (subperm_of_subset hr.list.nodup hsub).length_le

/-- Writing a field of a workload leaves the queue as it is. -/
theorem Ready.modify (hr : Ready h q l) (w : Nat)
    (f : Workload → Workload) : Ready (h.modify w f) q l :=
  ⟨hr.list, fun v hv => by rw [modify_isSome]; exact hr.allocated v hv, hr.below, hr.count, hr.bounded⟩

theorem prioritySum_le (h : Heap) (l : List Nat) : prioritySum h l ≤ l.length * 4294967295 := by
  induction l with
  | nil => simp [prioritySum]
  | cons w l ih =>
    have hw := (h.priority w).toNat_lt
    simp only [prioritySum, map_cons, sum_cons, length_cons] at ih ⊢
    omega

theorem Ready.prioritySum_lt (hr : Ready h q l) : prioritySum h l < 2 ^ 63 := by
  have hle := prioritySum_le h l
  have hb : l.length ≤ 1024 := hr.bounded
  omega

theorem prioritySum_congr {h' : Heap} (hp : ∀ w ∈ l, h'.priority w = h.priority w) :
    prioritySum h' l = prioritySum h l := by
  unfold prioritySum
  rw [map_congr_left fun w hw => by rw [hp w hw]]

variable {w : Nat}

theorem prioritySum_erase (h : Heap) (hw : w ∈ l) :
    prioritySum h l = (h.priority w).toNat + prioritySum h (l.erase w) := by
  have hperm := (perm_cons_erase hw).map fun v => (h.priority v).toNat
  simpa [prioritySum] using hperm.sum_nat

theorem workloadQueue_full (hf : maxQueued ≤ q.count) : workloadQueue h q w = (.memory, h, q) := by
  simp [workloadQueue, hf]

section
variable (hr : Ready h q l)
include hr

theorem Ready.queue
    (hf : ¬ maxQueued ≤ q.count) (hw : (h.workloads w).isSome) (hn : w < h.nextAddress) (ha : w ∉ l) :
    Ready (workloadQueue h q w).2.1 (workloadQueue h q w).2.2 (l ++ [w]) := by
  have hlt : l.length < maxQueued.toNat := by
    rw [← hr.count]
    exact UInt32.lt_iff_toNat_lt.mp (by simpa using hf)
  have hcount : (q.count + 1).toNat = l.length + 1 := by
    have h1024 : maxQueued.toNat = 1024 := rfl
    rw [UInt32.toNat_add, hr.count, UInt32.toNat_one]
    omega
  simp only [workloadQueue, hf, if_false]
  refine ⟨hr.list.pushBack ha, fun v hv => ?_, fun v hv => ?_, by simpa using hcount,
    by simpa using Nat.succ_le_of_lt hlt⟩
  · show ((h.modify w _).workloads v).isSome
    rw [modify_isSome]
    rcases mem_append.mp hv with hv | hv
    · exact hr.allocated v hv
    · exact (mem_singleton.mp hv) ▸ hw
  · rcases mem_append.mp hv with hv | hv
    · exact hr.below v hv
    · exact (mem_singleton.mp hv) ▸ hn

theorem workloadQueue_totalPriority
    (hf : ¬ maxQueued ≤ q.count) (ht : q.totalPriority.toNat = prioritySum h l) :
    (workloadQueue h q w).2.2.totalPriority.toNat =
      prioritySum (workloadQueue h q w).2.1 (l ++ [w]) := by
  have hpri : (workloadRetain h w).priority = h.priority := modify_priority h w _ fun _ => rfl
  have hsum : prioritySum (workloadQueue h q w).2.1 (l ++ [w]) =
      prioritySum h l + (h.priority w).toNat := by
    have hp : (workloadQueue h q w).2.1.priority = h.priority := by
      simp only [workloadQueue, hf, if_false]
      exact hpri
    rw [prioritySum_congr fun v _ => congrFun hp v]
    simp [prioritySum]
  rw [hsum]
  simp only [workloadQueue, hf, if_false, hpri, UInt64.toNat_add, UInt32.toNat_toUInt64, ht]
  have hlt := hr.prioritySum_lt
  have hw := (h.priority w).toNat_lt
  omega

/-- Taking one linked workload out, however its links were found. -/
theorem Ready.remove (hw : w ∈ l)
    {L : Chain.Links Nat} {e : Chain.Ends Nat} (hlist : IsList L e (l.erase w)) (total : UInt64) :
    Ready {h with links := L} ⟨e, q.count - 1, total⟩ (l.erase w) := by
  have hlen := length_erase_of_mem hw
  have hpos := length_pos_of_mem hw
  have hb : l.length ≤ 1024 := hr.bounded
  have hcount : (q.count - 1).toNat = (l.erase w).length := by
    rw [UInt32.toNat_sub, hr.count, UInt32.toNat_one]
    omega
  refine ⟨hlist, fun v hv => hr.allocated v (mem_of_mem_erase hv),
    fun v hv => hr.below v (mem_of_mem_erase hv), hcount, ?_⟩
  have hbound := hr.bounded
  omega

theorem totalPriority_remove
    (hw : w ∈ l) (ht : q.totalPriority.toNat = prioritySum h l) (L : Chain.Links Nat) :
    (q.totalPriority - (h.priority w).toUInt64).toNat = prioritySum {h with links := L} (l.erase w) := by
  have herase := prioritySum_erase h hw
  have hlt := hr.prioritySum_lt
  show _ = prioritySum h (l.erase w)
  rw [UInt64.toNat_sub, UInt32.toNat_toUInt64, ht]
  omega

end

theorem Ready.dequeue (hr : Ready h q (w :: l)) :
    ∃ L e, workloadDequeue h q = (some w, {h with links := L},
        ⟨e, q.count - 1, q.totalPriority - (h.priority w).toUInt64⟩) ∧ IsList L e l := by
  have hhead : q.ends.head = some w := hr.list.head
  exact ⟨_, _, by simp only [workloadDequeue, hhead], hr.list.popFront⟩

theorem workloadDequeue_nil (hr : Ready h q []) : workloadDequeue h q = (none, h, q) := by
  have hhead : q.ends.head = none := hr.list.head
  simp only [workloadDequeue, hhead]

def higher (a b : UInt32) : Bool := a > b

theorem higher_comparison : Scan.Comparison higher :=
  .ofKey UInt32.toNat fun a b => by simp [higher, UInt32.lt_iff_toNat_lt]

/-- Along a segment the pointer loop is the scan of its nodes. -/
theorem dequeueScan_segment {p : Option Nat}
    (hs : Chain.Segment h.links p l none) {fuel : Nat} (hf : l.length ≤ fuel)
    (best : UInt32 × Option Nat) :
    dequeueScan h best fuel l.head? = some (scan higher h.priority best l) := by
  induction l generalizing fuel best p with
  | nil => simp [dequeueScan, scan]
  | cons a l ih =>
    cases fuel with
    | zero => simp at hf
    | succ fuel =>
      have hnext : h.links.next a = l.head? := by simpa using hs.2.1
      simp only [head?_cons, dequeueScan, hnext]
      rw [ih hs.2.2 (by simpa using hf)]
      simp [scan, higher]

/-- **The scan of the ready queue.** It returns, and takes out the first workload
of the highest priority, unless every queued workload has priority 0. -/
theorem Ready.dequeuePriority (hr : Ready h q l) :
    (workloadDequeuePriority h q = some (none, h, q) ∧ ∀ w ∈ l, h.priority w = 0) ∨
      ∃ w L e, workloadDequeuePriority h q = some (some w, {h with links := L},
          ⟨e, q.count - 1, q.totalPriority - (h.priority w).toUInt64⟩) ∧
        FirstBest higher h.priority 0 l w ∧ IsList L e (l.erase w) := by
  have hscan : dequeueScan h (0, none) h.nextAddress q.ends.head =
      some (scan higher h.priority (0, none) l) := by
    rw [hr.list.head]
    exact dequeueScan_segment hr.list.segment hr.length_le _
  cases hbest : (scan higher h.priority (0, none) l).2 with
  | none =>
    left
    constructor
    · simp only [workloadDequeuePriority, hscan, Scan.scan_of_none higher_comparison hbest]
    · intro w hw
      have := (Scan.scan_eq_none_iff higher_comparison).mp hbest w hw
      have hle : (h.priority w).toNat ≤ 0 := by
        simpa [higher, UInt32.lt_iff_toNat_lt] using this
      exact UInt32.toNat_inj.mp (by simpa using hle)
  | some w =>
    right
    have hfirst := (Scan.scan_eq_some_iff higher_comparison).mp hbest
    have heq : scan higher h.priority (0, none) l = (h.priority w, some w) :=
      Prod.ext (Scan.scan_fst_of_some higher_comparison hbest) hbest
    exact ⟨w, _, _, by simp only [workloadDequeuePriority, hscan, heq], hfirst,
      hr.list.unlink hfirst.mem⟩

end Mvgal.Scheduler
