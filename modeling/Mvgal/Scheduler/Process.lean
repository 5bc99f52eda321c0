import Mvgal.Scheduler.Frame

/-! Draining the ready queue (`mvgal_scheduler_process_internal`).

One turn of the loop takes the first workload of the highest priority out and
processes it, which touches no other workload (`Local`). So the loop lists the
queue by descending priority, equal priorities in their order
(`processLoop_drains`). The scan overlooks workloads of priority 0: once only
such are left, a turn changes nothing and the loop never ends
(`processLoop_stuck`). Together: `processInternal_drains_iff`. -/
namespace Mvgal.Scheduler
open List
open Scan (FirstBest StableDescending)

variable (alloc : Nat → Bool)

theorem local_processWorkload (s : State) (w : Nat) :
    Local w s (processWorkload alloc s w) :=
  ((local_applyStrategy (alloc w) s w).trans (local_workloadComplete _ w .success)).trans
    (local_release _ w)

def Event.handOver : Event → Bool
  | .applied _ => true
  | .completed _ _ => true
  | _ => false

def handOvers (s : State) : List Event := s.log.filter Event.handOver

def handed (w : Nat) : List Event := [.applied w, .completed w .success]

theorem handOvers_completeCount (s : State) (w : Nat) (result : Error) :
    handOvers (completeCount s w result) = handOvers s := by
  unfold completeCount
  split <;> simp [handOvers, Event.handOver]

theorem handOvers_completeNotify (s : State) (w : Nat) (result : Error) :
    handOvers (completeNotify s w result) = handOvers s := by
  unfold completeNotify
  split <;> simp [handOvers, Event.handOver]

theorem handOvers_processWorkload (s : State) {w : Nat}
    (hw : (s.heap.workloads w).isSome) :
    handOvers (processWorkload alloc s w) = handOvers s ++ handed w := by
  obtain ⟨x, hx⟩ := Option.isSome_iff_exists.mp hw
  show handOvers (workloadComplete (s.applyStrategy (alloc w) w).2 w .success) = _
  unfold workloadComplete
  rw [handOvers_completeNotify, handOvers_completeCount]
  simp [handOvers, completeSignal, completeMark, State.modify, State.applyStrategy, hx, handed,
    Event.handOver]

variable {l : List Nat}

theorem Ready.count_eq_zero {h : Heap} {q : Queue} (hr : Ready h q l) : q.count = 0 ↔ l = [] := by
  rw [← UInt32.toNat_inj, hr.count, UInt32.toNat_zero, length_eq_zero_iff]

variable {s : State}

/-- **One turn.** On a queue that is not empty the loop either stays where it is, with
only priorities 0 left, or processes the first workload of the highest priority. -/
theorem processLoop_turn (fuel : Nat)
    (hr : Ready s.heap s.readyQueue l) (hl : l ≠ []) :
    (processLoop alloc (fuel + 1) s = processLoop alloc fuel s ∧ ∀ w ∈ l, s.heap.priority w = 0) ∨
      ∃ w s', processLoop alloc (fuel + 1) s = processLoop alloc fuel s' ∧
        FirstBest higher s.heap.priority 0 l w ∧ Ready s'.heap s'.readyQueue (l.erase w) ∧
        (∀ v ∈ l.erase w, s'.heap.priority v = s.heap.priority v) ∧
        handOvers s' = handOvers s ++ handed w := by
  have hcount : s.readyQueue.count ≠ 0 := fun h => hl (hr.count_eq_zero.mp h)
  rcases hr.dequeuePriority with ⟨hdeq, hzero⟩ | ⟨w, L, e, hdeq, hfirst, hlist⟩
  · left
    refine ⟨?_, hzero⟩
    rw [processLoop, if_neg hcount, hdeq]
  · right
    have hw : w ∈ l := hfirst.mem
    have hnot : w ∉ l.erase w := hr.list.nodup.not_mem_erase
    have hlocal := local_processWorkload alloc
      {s with heap := {s.heap with links := L}, readyQueue :=
        ⟨e, s.readyQueue.count - 1, s.readyQueue.totalPriority - (s.heap.priority w).toUInt64⟩} w
    refine ⟨w, _, by rw [processLoop, if_neg hcount, hdeq], hfirst,
      (hr.remove hw hlist _).local hlocal fun hm => absurd hm hnot, fun v hv => ?_, ?_⟩
    · exact hlocal.priority fun he => hnot (he ▸ hv)
    · exact handOvers_processWorkload alloc _ (hr.allocated w hw)

/-- The queue ends empty and its workloads were handed over once each, by descending
priority. -/
structure Drained (s : State) (l : List Nat) (s' : State) : Prop where
  ends : s'.readyQueue.ends = ⟨none, none⟩
  count : s'.readyQueue.count = 0
  handed : ∃ out, StableDescending higher s.heap.priority l out ∧
    handOvers s' = handOvers s ++ out.flatMap handed

theorem drained_nil (hr : Ready s.heap s.readyQueue []) : Drained s [] s := by
  refine ⟨?_, hr.count_eq_zero.mpr rfl, [], .nil, by simp⟩
  cases hends : s.readyQueue.ends with
  | mk head tail =>
    have hhead := hr.list.head
    have htail := hr.list.tail
    simp_all

theorem Drained.cons {s' s'' : State} {w : Nat} (hfirst : FirstBest higher s.heap.priority 0 l w)
    (hpri : ∀ v ∈ l.erase w, s'.heap.priority v = s.heap.priority v)
    (hhand : handOvers s' = handOvers s ++ Scheduler.handed w) (h : Drained s' (l.erase w) s'') :
    Drained s l s'' := by
  obtain ⟨out, hout, hlog⟩ := h.handed
  have hout' : StableDescending higher s.heap.priority (l.erase w) out :=
    hout.congr hpri
  refine ⟨h.ends, h.count, w :: out, .cons higher_comparison hfirst hout', ?_⟩
  rw [hlog, hhand, flatMap_cons, append_assoc]

theorem processLoop_drains (hr : Ready s.heap s.readyQueue l) (hpos : ∀ w ∈ l, s.heap.priority w ≠ 0) :
    ∃ s', processLoop alloc (l.length + 1) s = some s' ∧ Drained s l s' := by
  -- The length of the queue decreases with every turn.
  induction hn : l.length generalizing s l with
  | zero =>
    obtain rfl : l = [] := length_eq_zero_iff.mp hn
    exact ⟨s, by rw [processLoop, if_pos (hr.count_eq_zero.mpr rfl)], drained_nil hr⟩
  | succ n ih =>
    have hl : l ≠ [] := fun h => by simp [h] at hn
    rcases processLoop_turn alloc (n + 1) hr hl with ⟨-, hzero⟩ | ⟨w, s', hturn, hfirst, hr', hpri, hhand⟩
    · obtain ⟨w, hw⟩ := exists_mem_of_ne_nil l hl
      exact absurd (hzero w hw) (hpos w hw)
    · have hpos' : ∀ v ∈ l.erase w, s'.heap.priority v ≠ 0 := fun v hv => by
        rw [hpri v hv]
        exact hpos v (mem_of_mem_erase hv)
      have hlen : (l.erase w).length = n := by
        rw [length_erase_of_mem hfirst.mem, hn, Nat.add_sub_cancel]
      obtain ⟨s'', hloop, hdrained⟩ := ih hr' hpos' hlen
      exact ⟨s'', hturn.trans hloop, hdrained.cons hfirst hpri hhand⟩

/-- A queued workload of priority 0 keeps the loop running for ever. -/
theorem processLoop_stuck (fuel : Nat)
    (hr : Ready s.heap s.readyQueue l) {z : Nat} (hz : z ∈ l) (hzero : s.heap.priority z = 0) :
    processLoop alloc fuel s = none := by
  induction fuel generalizing s l with
  | zero => rfl
  | succ fuel ih =>
    rcases processLoop_turn alloc fuel hr (ne_nil_of_mem hz) with
      ⟨hturn, -⟩ | ⟨w, s', hturn, hfirst, hr', hpri, -⟩
    · exact hturn.trans (ih hr hz hzero)
    · have hne : z ≠ w := by
        intro he
        have habove := hfirst.above
        rw [← he, hzero] at habove
        exact nomatch habove
      have hz' : z ∈ l.erase w := (mem_erase_of_ne hne).mpr hz
      exact hturn.trans (ih hr' hz' ((hpri z hz').trans hzero))

/-- The call returns with the queue drained. -/
def Drains (alloc : Nat → Bool) (s : State) (l : List Nat) : Prop :=
  ∃ fuel s', processInternal alloc fuel s = some (.success, s') ∧ Drained s l s'

/-- **Draining.** `mvgal_scheduler_process_internal` drains the ready queue exactly when
no queued workload has priority 0. -/
theorem processInternal_drains_iff (alloc : Nat → Bool) {s : State} {l : List Nat}
    (hinit : s.initialized = true) (hr : Ready s.heap s.readyQueue l) :
    Drains alloc s l ↔ ∀ w ∈ l, s.heap.priority w ≠ 0 := by
  constructor
  · rintro ⟨fuel, s', hrun, -⟩ w hw hzero
    simp [processInternal, hinit, processLoop_stuck alloc fuel hr hw hzero] at hrun
  · intro hpos
    obtain ⟨s', hloop, hdrained⟩ := processLoop_drains alloc hr hpos
    exact ⟨l.length + 1, s', by simp [processInternal, hinit, hloop], hdrained⟩

def oneQueued (priority : UInt32) : State :=
  queuedState ⟨.compute, priority, 0xFFFFFFFF, 0⟩ none (initialState ⟨[], Nat.zero_le _⟩)

theorem ready_oneQueued (priority : UInt32) :
    Ready (oneQueued priority).heap (oneQueued priority).readyQueue [0] :=
  (ready_initialState _).queuedState _ _ (by decide)

theorem processInternal_drains_fifty : Drains (fun _ => true) (oneQueued 50) [0] :=
  (processInternal_drains_iff _ rfl (ready_oneQueued 50)).mpr fun w hw => by
    rw [mem_singleton.mp hw]
    decide

/-- A workload of priority 0, the lowest of the documented range, is never taken. -/
theorem processInternal_priority_zero_stuck :
    (oneQueued 0).initialized = true ∧ Ready (oneQueued 0).heap (oneQueued 0).readyQueue [0] ∧
      ¬ ∃ fuel, (processInternal (fun _ => true) fuel (oneQueued 0)).isSome := by
  refine ⟨rfl, ready_oneQueued 0, ?_⟩
  rintro ⟨fuel, hrun⟩
  have hstuck := processLoop_stuck (fun _ => true) fuel (ready_oneQueued 0) (mem_singleton_self 0)
    (by decide)
  simp [processInternal, show (oneQueued 0).initialized = true from rfl, hstuck] at hrun

end Mvgal.Scheduler
