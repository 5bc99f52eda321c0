import Mvgal.Scheduler.Calls

/-! Whether the assigned GPUs are suitable.

`mvgal_scheduler_find_best_gpu` chooses among suitable GPUs only
(`findBestGpu_suitable`), and three strategies go through it. The others choose
on their own. Alternate-frame rendering takes the next entry of a rotation made
from the workload's mask, or left by an earlier workload, without looking at the
GPU; split-frame rendering takes every usable GPU and the task strategy the best
scored one without looking at the mask. Each assigns suitable GPUs exactly under
a condition on the GPUs, the mask and the rotation before the call
(`applyStrategy_suitable_iff`). -/
namespace Mvgal.Scheduler
open List Workload
open Scan (scan FirstBest)
open Binary32 (greater greater_comparison)

def AssignsSuitable (g : Gpus) (x : Workload) (err : Error) (x' : Workload) : Prop :=
  err = .success →
    gpuSuitable g x'.descriptor.assignedGpu x = true ∧ ∀ i ∈ x'.assigned, gpuSuitable g i x = true

theorem gpuSuitable_eq (g : Gpus) (i : Nat) (x : Workload) : gpuSuitable g i x =
      (usable g i && (x.descriptor.gpuMask == anyGpu || bitSet x.descriptor.gpuMask i)) := by
  unfold gpuSuitable usable
  cases g.list[i]? with
  | none => rfl
  | some gpu => simp [Bool.and_comm]

variable {i : Nat} {g : Gpus}

theorem lt_of_usable (h : usable g i = true) : i < g.list.length := by
  unfold usable at h
  cases hi : g.list[i]? with
  | none => simp [hi] at h
  | some gpu => exact (List.getElem?_eq_some_iff.mp hi).1

variable {x : Workload}

/-- A GPU the mask allows is suitable if it is usable. -/
theorem gpuSuitable_iff_usable
    (hm : x.descriptor.gpuMask = anyGpu ∨ bitSet x.descriptor.gpuMask i = true) :
    gpuSuitable g i x = true ↔ usable g i = true := by
  rw [gpuSuitable_eq]
  rcases hm with hm | hm <;> simp [hm]

theorem gpuSuitable_iff_allowed (hu : usable g i = true) : gpuSuitable g i x = true ↔
      x.descriptor.gpuMask = anyGpu ∨ bitSet x.descriptor.gpuMask i = true := by
  rw [gpuSuitable_eq, hu]
  simp

theorem assigned_of_count_zero (h0 : x.assignedGpuCount = 0) : x.assigned = [] := by
  simp [assigned, h0]

theorem assigned_assignOne (x : Workload) (i : Nat) : (x.assignOne i).assigned = [i] := by
  have hlen : x.assignedGpus.toList.length = maxGpus := by simp
  simp only [assigned, assignOne, Vector.toList_set]
  cases hl : x.assignedGpus.toList with
  | nil => simp [hl] at hlen
  | cons a l => simp

theorem assigned_assignAll (x : Workload) {l : List Nat} (hl : l.length ≤ maxGpus) :
    (x.assignAll l).assigned = l := by
  apply ext_getElem?
  intro i
  by_cases hi : i < l.length
  · simp [assigned, assignAll, hi, Nat.lt_of_lt_of_le hi hl]
  · simp [assigned, assignAll, hi]

theorem bestGpu_suitable {c : Config} (h : bestGpu c g x = some i) : gpuSuitable g i x = true := by
  have hfirst := (Scan.scan_eq_some_iff greater_comparison).mp h
  exact (mem_filter.mp hfirst.mem).2

/-- The search for the best GPU assigns a suitable one. -/
theorem findBestGpu_suitable (c : Config) (g : Gpus) (h0 : x.assignedGpuCount = 0) :
    AssignsSuitable g x (findBestGpu c g x).1 (findBestGpu c g x).2 := by
  unfold findBestGpu
  cases hb : bestGpu c g x with
  | none => exact fun h => by cases h
  | some i =>
    intro _
    refine ⟨bestGpu_suitable hb, fun j hj => ?_⟩
    have hnone : (x.assignGpu i).assigned = [] := assigned_of_count_zero h0
    rw [hnone] at hj
    cases hj

theorem assignOne_suitable_iff (g : Gpus) (x : Workload) (i : Nat) :
    AssignsSuitable g x .success (x.assignOne i) ↔ gpuSuitable g i x = true := by
  have hgpu : (x.assignOne i).descriptor.assignedGpu = i := rfl
  simp [AssignsSuitable, assigned_assignOne, hgpu]

/-- The mask restricts the workload to GPUs of the array. -/
def NamesGpus (mask : UInt64) : Prop := mask ≠ anyGpu ∧ ∃ i < maxGpus, bitSet mask i = true

/-- The lowest GPU a mask names. -/
def LowestBit (mask : UInt64) (i : Nat) : Prop :=
  i < maxGpus ∧ bitSet mask i = true ∧ ∀ j < i, bitSet mask j = false

/-- When the rotation gives a suitable GPU: the lowest GPU the mask names is usable, or,
for a mask that names none, the entry where an earlier workload left the rotation
is suitable, if there is an entry. -/
def AfrSound (g : Gpus) (a : AfrState) (x : Workload) : Prop :=
  (NamesGpus x.descriptor.gpuMask → ∀ i, LowestBit x.descriptor.gpuMask i → usable g i = true) ∧
    (¬ NamesGpus x.descriptor.gpuMask → a.initialized = true →
      ∀ i, a.gpuIndices[a.currentGpuIndex]? = some i → i ≠ noGpu → gpuSuitable g i x = true)

variable {mask : UInt64}

theorem maskIndices_head : (maskIndices mask).head? = some i ↔ LowestBit mask i := by
  rw [maskIndices, head?_filter, find?_range_eq_some]
  simp only [LowestBit, mem_range, Bool.not_eq_true']
  tauto

theorem maskIndices_ne_nil (h : NamesGpus mask) : maskIndices mask ≠ [] := by
  obtain ⟨-, i, hi, hbit⟩ := h
  exact ne_nil_of_mem (mem_filter.mpr ⟨mem_range.mpr hi, hbit⟩)

theorem afrGetNextGpu_fst (a : AfrState) :
    (afrGetNextGpu a).1 = a.gpuIndices[a.currentGpuIndex]?.getD noGpu := by
  unfold afrGetNextGpu
  split
  · next hnil => simp [hnil]
  · rfl

/-- A mask that names GPUs starts the rotation at the lowest one. -/
theorem afrGetNextGpu_named {a : AfrState} (h : NamesGpus mask)
    (hi : LowestBit mask i) : (afrGetNextGpu (afrRotation a mask)).1 = i := by
  have hne := maskIndices_ne_nil h
  have hhead := maskIndices_head.mpr hi
  have hlen : (maskIndices mask).length ≤ maxGpus := by
    simpa [maskIndices] using length_filter_le (bitSet mask) (range maxGpus)
  have hrot : (afrRotation a mask).gpuIndices = maskIndices mask ∧
      (afrRotation a mask).currentGpuIndex = 0 := by
    simp [afrRotation, afrConfigure, h.1, hne, Nat.not_lt.mpr hlen]
  rw [afrGetNextGpu_fst, hrot.1, hrot.2, ← head?_eq_getElem?, hhead]
  rfl

/-- Otherwise the rotation goes on where it was left, from nothing if it was never used. -/
theorem afrGetNextGpu_unnamed {a : AfrState} (h : ¬ NamesGpus mask) :
    (afrGetNextGpu (afrRotation a mask)).1 =
      if a.initialized then a.gpuIndices[a.currentGpuIndex]?.getD noGpu else noGpu := by
  have hrot : afrRotation a mask = afrInit a := by
    refine if_pos ?_
    by_cases hany : mask = anyGpu
    · exact .inl hany
    · refine .inr (filter_eq_nil_iff.mpr fun i hi hbit => ?_)
      exact h ⟨hany, i, mem_range.mp hi, hbit⟩
  rw [afrGetNextGpu_fst, hrot, afrInit]
  by_cases hinit : a.initialized = true
  · rw [if_pos hinit, if_pos hinit]
  · rw [if_neg hinit, if_neg hinit]
    rfl

theorem distributeAfr_suitable_iff (c : Config) (g : Gpus) (a : AfrState)
    (h0 : x.assignedGpuCount = 0) :
    AssignsSuitable g x (distributeAfr c g a x).1 (distributeAfr c g a x).2.2 ↔ AfrSound g a x := by
  have hchoice : AssignsSuitable g x (distributeAfr c g a x).1 (distributeAfr c g a x).2.2 ↔
      ((afrGetNextGpu (afrRotation a x.descriptor.gpuMask)).1 ≠ noGpu →
        gpuSuitable g (afrGetNextGpu (afrRotation a x.descriptor.gpuMask)).1 x = true) := by
    unfold distributeAfr
    rw [if_neg (by omega)]
    by_cases hno : (afrGetNextGpu (afrRotation a x.descriptor.gpuMask)).1 = noGpu
    · simp only [hno, if_true]
      exact iff_of_true (findBestGpu_suitable c g h0) fun h => absurd rfl h
    · simp only [hno, if_false]
      rw [assignOne_suitable_iff]
      exact ⟨fun h _ => h, fun h => h hno⟩
  rw [hchoice, AfrSound]
  by_cases hn : NamesGpus x.descriptor.gpuMask
  · obtain ⟨i, others, hcons⟩ := exists_cons_of_ne_nil (maskIndices_ne_nil hn)
    have hi : (maskIndices x.descriptor.gpuMask).head? = some i := by rw [hcons, head?_cons]
    have hlow := maskIndices_head.mp hi
    have hno : i ≠ noGpu := Nat.ne_of_lt (Nat.lt_trans hlow.1 (by decide))
    rw [afrGetNextGpu_named hn hlow, gpuSuitable_iff_usable (.inr hlow.2.1)]
    constructor
    · intro h
      refine ⟨fun _ j hj => ?_, fun h' => absurd hn h'⟩
      obtain rfl : i = j := Option.some.inj (hi.symm.trans (maskIndices_head.mpr hj))
      exact h hno
    · rintro ⟨h, -⟩ -
      exact h hn i hlow
  · rw [afrGetNextGpu_unnamed hn]
    constructor
    · intro h
      refine ⟨fun h' => absurd h' hn, fun _ hinit i hi hne => ?_⟩
      rw [if_pos hinit, hi] at h
      exact h hne
    · rintro ⟨-, h⟩ hne
      by_cases hinit : a.initialized = true
      · rw [if_pos hinit] at hne ⊢
        cases hi : a.gpuIndices[a.currentGpuIndex]? with
        | none => simp [hi] at hne
        | some i =>
          rw [hi] at hne
          exact h hn hinit i hi hne
      · rw [if_neg hinit] at hne
        exact absurd rfl hne

theorem mem_usable_range : i ∈ (List.range maxGpus).filter (usable g) ↔ usable g i = true := by
  rw [mem_filter, mem_range]
  exact ⟨fun h => h.2, fun h => ⟨Nat.lt_of_lt_of_le (lt_of_usable h) g.length_le, h⟩⟩

theorem sfrCreateSplitDataWeighted_assigned (alloc : Bool) (x : Workload) (weights : Nat → Float32) :
    (sfrCreateSplitDataWeighted alloc x weights).2.assigned = x.assigned := by
  unfold sfrCreateSplitDataWeighted replaceSplitData
  split
  · rfl
  · cases alloc <;> rfl

theorem distributeSfr_suitable_iff (alloc : Bool) (c : Config) (g : Gpus)
    (h0 : x.assignedGpuCount = 0) :
    AssignsSuitable g x (distributeSfr alloc c g x).1 (distributeSfr alloc c g x).2 ↔
      ∀ i, usable g i = true → x.descriptor.gpuMask = anyGpu ∨ bitSet x.descriptor.gpuMask i = true := by
  have hall : (∀ i, usable g i = true → x.descriptor.gpuMask = anyGpu ∨
      bitSet x.descriptor.gpuMask i = true) ↔
      ∀ i ∈ (range maxGpus).filter (usable g), gpuSuitable g i x = true := by
    refine forall_congr' fun i => ?_
    rw [mem_usable_range]
    exact forall_congr' fun hu => (gpuSuitable_iff_allowed hu).symm
  have hlen : ((range maxGpus).filter (usable g)).length ≤ maxGpus := by
    simpa using length_filter_le (usable g) (range maxGpus)
  rw [hall]
  unfold distributeSfr
  rw [if_neg (by omega)]
  cases hl : (range maxGpus).filter (usable g) with
  | nil => exact iff_of_true (findBestGpu_suitable c g h0) (by simp)
  | cons first others =>
    rw [hl] at hlen
    have hassigned := (sfrCreateSplitDataWeighted_assigned alloc (x.assignAll (first :: others))
      fun i => sfrWeight c g ((first :: others)[i]?.getD 0)).trans (assigned_assignAll x hlen)
    constructor
    · intro h i hi
      refine (h rfl).2 i ?_
      rw [← hassigned] at hi
      exact hi
    · intro h _
      refine ⟨h first mem_cons_self, fun i hi => h i ?_⟩
      rw [← hassigned]
      exact hi

/-- The GPU the task strategy chooses: the first of the best score among the usable GPUs
with the required features, or, if none of these scores above the floor, among all
usable ones. -/
def TaskChoice (g : Gpus) (x : Workload) (i : Nat) : Prop :=
  let m := taskMapping x.descriptor.type
  let candidates := (indices g).filter (usable g)
  let featured := candidates.filter (hasFeatures g m.requiredFeatures)
  FirstBest greater (taskScore g m) (-1000.0) featured i ∨
    (∀ j ∈ featured, greater (taskScore g m j) (-1000.0) = false) ∧
      FirstBest greater (taskFallbackScore g) (-1000.0) candidates i

theorem taskGpu_eq_some_iff : taskGpu g x = some i ↔ TaskChoice g x i := by
  unfold taskGpu TaskChoice
  dsimp only
  set m := taskMapping x.descriptor.type
  set candidates := (indices g).filter (usable g)
  set featured := candidates.filter (hasFeatures g m.requiredFeatures)
  cases hbest : (scan greater (taskScore g m) (-1000.0, none) featured).2 with
  | some j =>
    have hfirst := (Scan.scan_eq_some_iff greater_comparison).mp hbest
    constructor
    · intro h
      cases h
      exact .inl hfirst
    · rintro (h | ⟨hnone, -⟩)
      · rw [hfirst.unique h]
      · have habove := hfirst.above
        rw [hnone j hfirst.mem] at habove
        cases habove
  | none =>
    have hnone := (Scan.scan_eq_none_iff greater_comparison).mp hbest
    rw [Scan.scan_of_none greater_comparison hbest, Scan.scan_eq_some_iff greater_comparison]
    constructor
    · exact fun h => .inr ⟨hnone, h⟩
    · rintro (h | ⟨-, h⟩)
      · have habove := h.above
        rw [hnone i h.mem] at habove
        cases habove
      · exact h

theorem TaskChoice.usable (h : TaskChoice g x i) : usable g i = true := by
  rcases h with h | ⟨-, h⟩
  · exact (mem_filter.mp (mem_filter.mp h.mem).1).2
  · exact (mem_filter.mp h.mem).2

theorem distributeTask_suitable_iff (g : Gpus) (h0 : x.assignedGpuCount = 0) :
    AssignsSuitable g x (distributeTask g x).1 (distributeTask g x).2 ↔
      ∀ i, TaskChoice g x i → x.descriptor.gpuMask = anyGpu ∨ bitSet x.descriptor.gpuMask i = true := by
  unfold distributeTask
  rw [if_neg (by omega)]
  cases ht : taskGpu g x with
  | none =>
    refine iff_of_true (fun h => by cases h) fun i hi => ?_
    rw [taskGpu_eq_some_iff.mpr hi] at ht
    cases ht
  | some j =>
    have hj := taskGpu_eq_some_iff.mp ht
    rw [assignOne_suitable_iff, gpuSuitable_iff_allowed hj.usable]
    constructor
    · intro h i hi
      cases ht.symm.trans (taskGpu_eq_some_iff.mpr hi)
      exact h
    · exact fun h => h j hj

/-- The condition of each strategy, on the GPUs, the rotation and the workload before the
call. -/
def StrategySound (c : Config) (g : Gpus) (a : AfrState) (x : Workload) : Prop :=
  match effectiveStrategy c x with
  | .afr => AfrSound g a x
  | .sfr => ∀ i, usable g i = true → x.descriptor.gpuMask = anyGpu ∨ bitSet x.descriptor.gpuMask i = true
  | .task =>
    ∀ i, TaskChoice g x i → x.descriptor.gpuMask = anyGpu ∨ bitSet x.descriptor.gpuMask i = true
  | _ => True

/-- **Suitability of the assigned GPUs.** For a workload without a manual assignment,
applying a strategy assigns suitable GPUs exactly when the strategy's condition holds. -/
theorem applyStrategy_suitable_iff (alloc : Bool) (c : Config) (g : Gpus) (a : AfrState) {x : Workload}
    (h0 : x.assignedGpuCount = 0) :
    AssignsSuitable g x (applyStrategy alloc c g a x).1 (applyStrategy alloc c g a x).2.2 ↔
      StrategySound c g a x := by
  unfold applyStrategy StrategySound
  cases effectiveStrategy c x with
  | afr => exact distributeAfr_suitable_iff c g a h0
  | sfr => exact distributeSfr_suitable_iff alloc c g h0
  | task => exact distributeTask_suitable_iff g h0
  | computeOffload | hybrid | singleGpu => exact iff_of_true (findBestGpu_suitable c g h0) trivial
  | custom | roundRobin | aiDriven | auto => exact iff_of_true (fun h => by cases h) trivial

def frameWorkload (mask : UInt32) : Workload := newWorkload 1 ⟨.graphics, 50, mask, 0⟩

def idleGpu : Gpu := ⟨true, true, 0.0, 0.0, 0, 0.0, 0.0, 50⟩

def oneGpu : Gpus := ⟨[idleGpu], by decide⟩

def noGpus : Gpus := ⟨[], by decide⟩

theorem applyStrategy_suitable_on_gpu_zero : AssignsSuitable oneGpu (frameWorkload 1)
      (applyStrategy true ⟨.auto, true, true⟩ oneGpu zeroState.afr (frameWorkload 1)).1
      (applyStrategy true ⟨.auto, true, true⟩ oneGpu zeroState.afr (frameWorkload 1)).2.2 := by
  refine (applyStrategy_suitable_iff true ⟨.auto, true, true⟩ _ zeroState.afr rfl).mpr ⟨fun _ i hi => ?_, ?_⟩
  · obtain rfl : i = 0 := by
      by_contra hne
      exact absurd (hi.2.2 0 (Nat.pos_of_ne_zero hne)) (by decide)
    rfl
  · intro hn
    exact absurd ⟨by decide, 0, by decide, by decide⟩ hn

/-- A mask that names GPU 0 puts it into the rotation, even where there is no GPU. -/
theorem applyStrategy_assigns_missing_gpu : ¬ AssignsSuitable noGpus (frameWorkload 1)
      (applyStrategy true ⟨.auto, true, true⟩ noGpus zeroState.afr (frameWorkload 1)).1
      (applyStrategy true ⟨.auto, true, true⟩ noGpus zeroState.afr (frameWorkload 1)).2.2 := by
  intro h
  exact absurd (h rfl).1 (by decide)

end Mvgal.Scheduler
