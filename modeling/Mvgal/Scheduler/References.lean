import Mvgal.Scheduler.Workers

/-! References to workloads (`mvgal_workload_retain`, `mvgal_workload_release`).

A workload is created with the reference of the application. The queue takes one of
its own, which the loop that dequeues the workload takes over and drops after it is
done. So the count is that of the application's references, plus one while the
workload is linked and one while it is held (`refs`), and the structure goes with the
last of them.

`refcount_iff`: this holds in every run, as long as no workload has 2^32 references,
which its 32-bit count cannot tell from none. -/
namespace Mvgal.Scheduler.References
open Function Table
open Function (update)

def workloadDestroy (h : Heap) (w : Nat) : Heap := workloadRelease h w

/-- The scheduler, the references of the application (the handles it has not destroyed,
and what it retained besides), and after a submission that failed the scheduler before
it. -/
structure Owners where
  system : System
  handle : Nat → Bool
  retained : Nat → Nat
  failed : Option State

def Owners.sched (c : Owners) : State := c.system.sched

inductive Act where
  | submit (alloc : Bool) (info : SubmitInfo) (callback : Option Nat)
  | retain (w : Nat)
  | release (w : Nat)
  | destroy (w : Nat)
  | take (i : Nat)
  | work (i : Nat) (alloc : Bool)

def Owners.app (c : Owners) (w : Nat) : Nat := (c.handle w).toNat + c.retained w

def Owners.submitted (c : Owners) : Except Error Nat × State → Owners
  | (.ok w, s) => {c with system := {c.system with sched := s}, handle := update c.handle w true, failed := none}
  | (.error _, s) => {c with system := {c.system with sched := s}, failed := some c.sched}

def Owners.called (c : Owners) (h : Heap) : Owners :=
  {c with system := {c.system with sched := {c.sched with heap := h}}, failed := none}

def Owners.moved (c : Owners) (σ : System) : Owners := {c with system := σ, failed := none}

/-- One step. The application retains what it has a reference to, releases what it
retained, and destroys a handle once. Any worker may be the scheduler thread or a caller
that processes the queue. -/
def step (c : Owners) : Act → Option Owners
  | .submit alloc info callback => some (c.submitted (submitQueue alloc info callback c.sched))
  | .retain w =>
    if c.app w ≠ 0 then
      some {c.called (workloadRetain c.sched.heap w) with retained := update c.retained w (c.retained w + 1)}
    else none
  | .release w =>
    if c.retained w ≠ 0 then
      some {c.called (workloadRelease c.sched.heap w) with retained := update c.retained w (c.retained w - 1)}
    else none
  | .destroy w =>
    if c.handle w = true then
      some {c.called (workloadDestroy c.sched.heap w) with handle := update c.handle w false}
    else none
  | .take i => (c.system.take i).map c.moved
  | .work i alloc => (c.system.work i alloc).map c.moved

def start (gpus : Gpus) : Owners := ⟨initialSystem gpus, fun _ => false, fun _ => 0, none⟩

/-! ### What the count should be -/

def Held (σ : System) (w : Nat) : Prop := ∃ i stage, σ.worker i = some (w, stage)

open Classical in
noncomputable def one (p : Prop) : Nat := if p then 1 else 0

noncomputable def refs (c : Owners) (w : Nat) : Nat :=
  c.app w + one (w ∈ c.sched.queued) + one (Held c.system w)

/-- A structure in memory counts the references to it, and there is none to one that is
gone. -/
def CountedAt (c : Owners) (w : Nat) : Prop :=
  match c.sched.heap.workloads w with
  | some x => x.refcount.toNat = refs c w
  | none => refs c w = 0

/-- Every count is right, and a submission that failed left neither a workload nor an
entry. -/
structure Counted (c : Owners) : Prop where
  counts : ∀ w, CountedAt c w
  clean : ∀ s, c.failed = some s → c.sched.heap.workloads = s.heap.workloads ∧ c.sched.queued = s.queued

/-- There is room for one reference more. -/
def StepOk (c : Owners) : Act → Prop
  | .retain w => refs c w + 1 < 2 ^ 32
  | _ => True

/-- Queue and workers are in order, and no address is in use before its time. -/
structure Ordered (c : Owners) (l : List Nat) : Prop where
  placed : Placed c.system l
  unborn : ∀ w, c.sched.heap.nextAddress ≤ w → c.sched.heap.workloads w = none

variable {c c' : Owners} {l : List Nat} {w : Nat}

theorem one_of {p : Prop} (h : p) : one p = 1 := if_pos h

theorem one_not {p : Prop} (h : ¬ p) : one p = 0 := if_neg h

theorem CountedAt.congr (h : CountedAt c w) (hheap : c'.sched.heap.workloads w = c.sched.heap.workloads w)
    (hrefs : refs c' w = refs c w) : CountedAt c' w := by
  unfold CountedAt at h ⊢
  rw [hheap, hrefs]
  exact h

theorem CountedAt.live (h : CountedAt c w) (hrefs : refs c w ≠ 0) :
    ∃ x, c.sched.heap.workloads w = some x ∧ x.refcount.toNat = refs c w := by
  unfold CountedAt at h
  split at h
  · exact ⟨_, ‹_›, h⟩
  · exact absurd h hrefs

theorem CountedAt.refs_lt (h : CountedAt c w) : refs c w < 2 ^ 32 := by
  unfold CountedAt at h
  split at h
  · rename_i x _
    rw [← h]
    exact x.refcount.toNat_lt
  · rw [h]
    decide

theorem clean_of_none {p : State → Prop} (h : c.failed = none) : ∀ s, c.failed = some s → p s :=
  fun _ hs => absurd (h.symm.trans hs) nofun

variable {x : Workload}

theorem countedAt_some (hx : c.sched.heap.workloads w = some x) :
    CountedAt c w ↔ x.refcount.toNat = refs c w := by
  rw [CountedAt, hx]

/-- A reference that is dropped: the count goes down, or the structure goes. -/
theorem countedAt_release (h : CountedAt c w) (hrefs : refs c w = refs c' w + 1)
    (hheap : c'.sched.heap.workloads w = (workloadRelease c.sched.heap w).workloads w) : CountedAt c' w := by
  obtain ⟨x, hx, hcount⟩ := h.live (by omega)
  rw [workloadRelease, hx] at hheap
  by_cases hone : x.refcount = 1
  · have hrefs' : refs c' w = 0 := by
      rw [hone] at hcount
      exact Nat.succ.inj (hrefs.symm.trans hcount.symm)
    simpa [CountedAt, hheap, hone, workloadDestroyInternal] using hrefs'
  · rw [countedAt_some (x := {x with refcount := x.refcount - 1}) (by simp [hheap, hone, hx])]
    have hle : (1 : UInt32) ≤ x.refcount := UInt32.le_iff_toNat_le.mpr (by simp; omega)
    rw [show ({x with refcount := x.refcount - 1} : Workload).refcount = x.refcount - 1 from rfl,
      UInt32.toNat_sub_of_le _ _ hle, hcount, hrefs]
    rfl

theorem countedAt_retain_iff (h : CountedAt c w) (hlive : refs c w ≠ 0) (hrefs : refs c' w = refs c w + 1)
    (hheap : c'.sched.heap.workloads w = (workloadRetain c.sched.heap w).workloads w) :
    CountedAt c' w ↔ refs c w + 1 < 2 ^ 32 := by
  obtain ⟨x, hx, hcount⟩ := h.live hlive
  rw [countedAt_some (x := {x with refcount := x.refcount + 1}) (by simp [hheap, workloadRetain, hx])]
  rw [show ({x with refcount := x.refcount + 1} : Workload).refcount = x.refcount + 1 from rfl,
    UInt32.toNat_add, hcount, hrefs, UInt32.toNat_one]
  omega

variable {v : Nat}

theorem refs_congr (happ : c'.app v = c.app v) (hqueued : v ∈ c'.sched.queued ↔ v ∈ c.sched.queued)
    (hheld : Held c'.system v ↔ Held c.system v) : refs c' v = refs c v := by
  rw [refs, happ, propext hqueued, propext hheld, refs]

variable {stage : Stage} {i : Nat} {σ : System}

theorem held_worked (hi : σ.worker i = some (w, stage)) (alloc : Bool)
    (hv : v ≠ w) : Held (σ.worked i alloc w stage) v ↔ Held σ v := by
  constructor
  · rintro ⟨j, st, hj⟩
    obtain ⟨rfl, hnext⟩ | ⟨-, hj⟩ := update_eq_iff.mp hj
    · obtain ⟨st', -, heq⟩ := Option.map_eq_some_iff.mp hnext
      exact absurd (Prod.mk.inj heq).1.symm hv
    · exact ⟨j, st, hj⟩
  · rintro ⟨j, st, hj⟩
    have hne : j ≠ i := by
      rintro rfl
      exact hv (Prod.mk.inj (Option.some.inj (hj.symm.trans hi))).1
    exact ⟨j, st, update_eq_iff.mpr (.inr ⟨hne, hj⟩)⟩

/-- A worker keeps its workload to the last stage, and no other worker has it. -/
theorem held_worked_self (h : Placed σ l) (hi : σ.worker i = some (w, stage)) (alloc : Bool) :
    Held (σ.worked i alloc w stage) w ↔ stage ≠ .notified := by
  constructor
  · rintro ⟨j, st, hj⟩ rfl
    obtain ⟨-, hnext⟩ | ⟨hne, hj⟩ := update_eq_iff.mp hj
    · exact absurd hnext (by simp [Stage.next])
    · exact hne (h.alone j i w st _ hj hi)
  · intro hstage
    have hnext : ∃ st, stage.next = some st := by
      cases stage with
      | notified => exact absurd rfl hstage
      | _ => exact ⟨_, rfl⟩
    obtain ⟨st, hst⟩ := hnext
    exact ⟨i, st, update_eq_iff.mpr (.inl ⟨rfl, by rw [hst]; rfl⟩)⟩

theorem held_taken (hi : σ.worker i = none) {L : Chain.Links Nat} {e : Chain.Ends Nat} :
    Held (σ.taken i w L e) v ↔ v = w ∨ Held σ v := by
  constructor
  · rintro ⟨j, st, hj⟩
    obtain ⟨-, heq⟩ | ⟨-, hj⟩ := update_some hj
    · exact .inl (Prod.mk.inj heq).1.symm
    · exact .inr ⟨j, st, hj⟩
  · rintro (rfl | ⟨j, st, hj⟩)
    · exact ⟨i, .dequeued, update_self ..⟩
    · have hne : j ≠ i := by
        rintro rfl
        exact absurd (hj.symm.trans hi) nofun
      exact ⟨j, st, update_eq_iff.mpr (.inr ⟨hne, hj⟩)⟩

/-! ### Steps on one workload -/

/-- After a step on one workload, only its count is in question. -/
theorem counted_local_iff (hc : Counted c) (hlocal : Local w c.sched c'.sched)
    (happ : ∀ v, v ≠ w → c'.app v = c.app v) (hheld : ∀ v, v ≠ w → (Held c'.system v ↔ Held c.system v))
    (hfailed : c'.failed = none) : Counted c' ↔ CountedAt c' w := by
  constructor
  · exact fun hc' => hc'.counts w
  · intro hw
    refine ⟨fun v => ?_, clean_of_none hfailed⟩
    by_cases hv : v = w
    · exact hv ▸ hw
    · exact (hc.counts v).congr (hlocal.others v hv) (refs_congr (happ v hv) (by rw [hlocal.queued_eq]) (hheld v hv))

theorem Ordered.lt_of_refs (h : Ordered c l) (hc : Counted c) (hrefs : refs c w ≠ 0) :
    w < c.sched.heap.nextAddress := by
  obtain ⟨x, hx, -⟩ := (hc.counts w).live hrefs
  by_contra hge
  exact absurd (hx.symm.trans (h.unborn w (Nat.le_of_not_lt hge))) nofun

theorem Ordered.queued_eq (h : Ordered c l) : c.sched.queued = l := h.placed.ready.queued_eq

/-- No address comes into use by a step on one workload. -/
theorem unborn_local (h : Ordered c l) (hlocal : Local w c.sched c'.sched) (hw : w < c.sched.heap.nextAddress) :
    ∀ v, c'.sched.heap.nextAddress ≤ v → c'.sched.heap.workloads v = none := by
  intro v hv
  rw [hlocal.nextAddress] at hv
  have hne : v ≠ w := Nat.ne_of_gt (Nat.lt_of_lt_of_le hw hv)
  rw [hlocal.others v hne]
  exact h.unborn v hv

/-- A queued workload has a reference, so it stays in memory when the application drops
one of its own. -/
theorem ordered_local (h : Ordered c l) (hc' : Counted c') (hlocal : Local w c.sched c'.sched)
    (hw : w < c.sched.heap.nextAddress) (hsystem : c'.system = {c.system with sched := c'.sched}) : Ordered c' l := by
  have hsome : w ∈ l → (c'.sched.heap.workloads w).isSome := by
    intro hmem
    have hq : w ∈ c'.sched.queued := by
      rw [hlocal.queued_eq, h.queued_eq]
      exact hmem
    have hrefs : refs c' w ≠ 0 := by
      rw [refs, one_of hq]
      omega
    obtain ⟨x, hx, -⟩ := (hc'.counts w).live hrefs
    rw [hx]
    rfl
  exact ⟨hsystem ▸ h.placed.call hlocal hsome, unborn_local h hlocal hw⟩

/-! ### Calls of the application -/

theorem app_update_retained (n : Nat) (hv : v ≠ w) (h : Heap) :
    Owners.app {c.called h with retained := update c.retained w n} v = c.app v := by
  simp [Owners.app, Owners.called, hv]

theorem app_update_handle (b : Bool) (hv : v ≠ w) (h : Heap) :
    Owners.app {c.called h with handle := update c.handle w b} v = c.app v := by
  simp [Owners.app, Owners.called, hv]

/-- The application changes its references to one workload, by one or none. -/
structure Calls (c c' : Owners) (w : Nat) : Prop where
  lives : c.app w ≠ 0
  sched : Local w c.sched c'.sched
  system : c'.system = {c.system with sched := c'.sched}
  others : ∀ v, v ≠ w → c'.app v = c.app v
  failed : c'.failed = none

section
variable (h : Calls c c' w)
include h

theorem Calls.refs_ne : refs c w ≠ 0 := by
  have := h.lives
  rw [refs]
  omega

theorem Calls.held_iff (v : Nat) : Held c'.system v ↔ Held c.system v := by
  rw [h.system]
  rfl

theorem Calls.counted_iff (hc : Counted c) : Counted c' ↔ CountedAt c' w :=
  counted_local_iff hc h.sched h.others (fun v _ => h.held_iff v) h.failed

theorem Calls.ordered (ho : Ordered c l) (hc : Counted c) (hc' : Counted c') : Ordered c' l :=
  ordered_local ho hc' h.sched (ho.lt_of_refs hc h.refs_ne) h.system

theorem Calls.refs_eq : refs c' w = c'.app w + (refs c w - c.app w) := by
  rw [refs, refs, h.sched.queued_eq, propext (h.held_iff w)]
  omega

end

theorem calls_retain (hlives : c.app w ≠ 0) :
    Calls c {c.called (workloadRetain c.sched.heap w) with retained := update c.retained w (c.retained w + 1)} w :=
  ⟨hlives, local_modify c.sched w _, rfl, fun _ hv => app_update_retained _ hv _, rfl⟩

theorem calls_release (hlives : c.retained w ≠ 0) :
    Calls c {c.called (workloadRelease c.sched.heap w) with retained := update c.retained w (c.retained w - 1)} w :=
  ⟨by rw [Owners.app]; omega, local_release c.sched w, rfl, fun _ hv => app_update_retained _ hv _, rfl⟩

theorem calls_destroy (hlives : c.handle w = true) :
    Calls c {c.called (workloadDestroy c.sched.heap w) with handle := update c.handle w false} w :=
  ⟨by simp [Owners.app, hlives], local_release c.sched w, rfl, fun _ hv => app_update_handle _ hv _, rfl⟩

/-! ### Steps of the workers -/

variable {s : State}

/-- Before its last step a worker leaves the count alone. -/
theorem perform_refcount (hx : s.heap.workloads w = some x)
    (hstage : stage ≠ .notified) (alloc : Bool) :
    ∃ x', (stage.perform alloc s w).heap.workloads w = some x' ∧ x'.refcount = x.refcount := by
  cases stage with
  | dequeued =>
    obtain ⟨gpu, n, gpus, data, hassigned⟩ := applyStrategy_assignmentOnly alloc s.config s.gpus s.afr x
    refine ⟨(Scheduler.applyStrategy alloc s.config s.gpus s.afr x).2.2, ?_, by rw [hassigned]⟩
    simp [Stage.perform, State.applyStrategy, hx, State.modify]
  | applied => exact ⟨x.mark .success, by simp [Stage.perform, completeMark, State.modify, hx], rfl⟩
  | marked => exact ⟨x.signal .success, by simp [Stage.perform, completeSignal, State.modify, hx], rfl⟩
  | signaled => exact ⟨x, hx, rfl⟩
  | counted =>
    refine ⟨x, ?_, rfl⟩
    simp only [Stage.perform, completeNotify]
    split <;> exact hx
  | notified => exact absurd rfl hstage

theorem refs_linked {n : Nat} (happ : c.app w = n) (hqueued : w ∈ c.sched.queued) (hheld : ¬ Held c.system w) :
    refs c w = n + 1 := by
  rw [refs, happ, one_of hqueued, one_not hheld]

theorem refs_ne_of_held (h : Held c.system w) : refs c w ≠ 0 := by
  rw [refs, one_of h]
  omega

section
variable (h : Ordered c l)
include h

theorem counted_worked (hc : Counted c)
    (hi : c.system.worker i = some (w, stage)) (alloc : Bool) :
    Counted (c.moved (c.system.worked i alloc w stage)) := by
  have hlocal : Local w c.sched (c.moved (c.system.worked i alloc w stage)).sched :=
    local_perform stage alloc c.sched w
  rw [counted_local_iff hc hlocal (fun _ _ => rfl) (fun v hv => held_worked hi alloc hv) rfl]
  have hheld : Held c.system w := ⟨i, stage, hi⟩
  by_cases hstage : stage = .notified
  · refine countedAt_release (hc.counts w) ?_ (by rw [hstage]; rfl)
    have hfree : ¬ Held (c.moved (c.system.worked i alloc w stage)).system w :=
      mt (held_worked_self h.placed hi alloc).mp (not_not.mpr hstage)
    rw [refs, refs, one_of hheld, one_not hfree, hlocal.queued_eq]
    rfl
  · obtain ⟨x, hx, hcount⟩ := (hc.counts w).live (refs_ne_of_held hheld)
    obtain ⟨x', hx', hsame⟩ := perform_refcount hx hstage alloc
    have hstill := (held_worked_self h.placed hi alloc).mpr hstage
    have hrefs : refs (c.moved (c.system.worked i alloc w stage)) w = refs c w :=
      refs_congr rfl (by rw [hlocal.queued_eq]) (iff_of_true hstill hheld)
    rw [countedAt_some (c := c.moved (c.system.worked i alloc w stage)) hx', hsame, hcount, hrefs]

theorem ordered_worked (hc : Counted c)
    (hi : c.system.worker i = some (w, stage)) (alloc : Bool) :
    Ordered (c.moved (c.system.worked i alloc w stage)) l := by
  have hlocal : Local w c.sched (c.moved (c.system.worked i alloc w stage)).sched :=
    local_perform stage alloc c.sched w
  exact ⟨h.placed.worked hi alloc, unborn_local h hlocal (h.lt_of_refs hc (refs_ne_of_held ⟨i, stage, hi⟩))⟩

/-- The worker takes over the reference of the queue. -/
theorem refs_taken (hi : c.system.worker i = none) (hw : w ∈ l) {L : Chain.Links Nat}
    {e : Chain.Ends Nat} (hlist : Chain.IsList L e (l.erase w)) (v : Nat) :
    refs (c.moved (c.system.taken i w L e)) v = refs c v := by
  have hqueued : (c.moved (c.system.taken i w L e)).sched.queued = l.erase w :=
    (h.placed.taken hi hw hlist).ready.queued_eq
  by_cases hv : v = w
  · subst hv
    have hfree : ¬ Held c.system v := fun ⟨j, st, hj⟩ => (h.placed.apart j v st hj).1 hw
    have hheld : Held (c.moved (c.system.taken i v L e)).system v := (held_taken hi).mpr (.inl rfl)
    have hout : v ∉ l.erase v := h.placed.ready.list.nodup.not_mem_erase
    rw [refs, refs, hqueued, h.queued_eq, one_of hheld, one_not hfree, one_of hw, one_not hout]
    rfl
  · refine refs_congr rfl ?_ ?_
    · rw [hqueued, h.queued_eq]
      exact List.mem_erase_of_ne hv
    · exact (held_taken hi).trans (or_iff_right hv)

theorem counted_taken (hc : Counted c) (htake : c.system.take i = some σ) :
    Counted (c.moved σ) ∧ ∃ l', Ordered (c.moved σ) l' := by
  obtain ⟨hi, ⟨rfl, -⟩ | ⟨w, L, e, hw, hlist, -, rfl⟩⟩ := h.placed.take_cases htake
  · exact ⟨⟨hc.counts, clean_of_none rfl⟩, l, h.placed, h.unborn⟩
  · refine ⟨⟨fun v => ?_, clean_of_none rfl⟩, _, h.placed.taken hi hw hlist, h.unborn⟩
    exact (hc.counts v).congr rfl (refs_taken h hi hw hlist v)

end

/-- The queue takes its reference beside that of the application. -/
theorem queuedState_refcount (info : SubmitInfo) (callback : Option Nat)
    (hf : ¬ maxQueued ≤ s.readyQueue.count) :
    ∃ x, (queuedState info callback s).heap.workloads s.heap.nextAddress = some x ∧ x.refcount = 2 := by
  have hself := submitted_self info callback s
  have hf' : ¬ maxQueued ≤ (submitted info callback s).readyQueue.count := hf
  have hretained : (queuedState info callback s).heap.workloads s.heap.nextAddress =
      ((submitted info callback s).heap.workloads s.heap.nextAddress).map
        fun x => {x with refcount := x.refcount + 1} := by
    simp only [queuedState, workloadQueue, hf', if_false]
    exact modify_self _ _ _
  rw [hself] at hretained
  exact ⟨_, hretained, rfl⟩

theorem counted_queued (h : Ordered c l) (hc : Counted c) (info : SubmitInfo) (callback : Option Nat)
    (hf : ¬ maxQueued ≤ c.sched.readyQueue.count) :
    Counted (c.submitted (.ok c.sched.heap.nextAddress, queuedState info callback c.sched)) := by
  have hqueued : (queuedState info callback c.sched).queued = l ++ [c.sched.heap.nextAddress] :=
    (h.placed.queued info callback hf).ready.queued_eq
  refine ⟨fun v => ?_, clean_of_none rfl⟩
  by_cases hv : v = c.sched.heap.nextAddress
  · subst hv
    have hnone : refs c c.sched.heap.nextAddress = 0 := by
      have hat := hc.counts c.sched.heap.nextAddress
      rwa [CountedAt, h.unborn _ (Nat.le_refl _)] at hat
    obtain ⟨x, hx, hcount⟩ := queuedState_refcount info callback hf
    rw [countedAt_some (c := c.submitted (.ok c.sched.heap.nextAddress, queuedState info callback c.sched)) hx, hcount]
    have hheld : ¬ Held c.system c.sched.heap.nextAddress := by
      intro hheld
      exact refs_ne_of_held hheld hnone
    have hretained : c.retained c.sched.heap.nextAddress = 0 := by
      rw [refs, Owners.app] at hnone
      omega
    have happ : Owners.app (c.submitted (.ok c.sched.heap.nextAddress, queuedState info callback c.sched))
        c.sched.heap.nextAddress = 1 := by
      simp [Owners.app, Owners.submitted, hretained]
    have hin : c.sched.heap.nextAddress ∈ (queuedState info callback c.sched).queued := by
      rw [hqueued]
      exact List.mem_append_right l (List.mem_singleton_self _)
    have hrefs := refs_linked happ hin hheld
    rw [hrefs]
    rfl
  · refine (hc.counts v).congr (queuedState_other info callback c.sched hv) (refs_congr ?_ ?_ Iff.rfl)
    · simp [Owners.app, Owners.submitted, hv]
    · show v ∈ (queuedState info callback c.sched).queued ↔ _
      rw [hqueued, h.queued_eq]
      simp [hv]

/-- A workload that found the queue full leaves nothing behind. -/
theorem refusedState_workloads (h : Ordered c l) (info : SubmitInfo) (callback : Option Nat) :
    (refusedState info callback c.sched).heap.workloads = c.sched.heap.workloads := by
  funext v
  by_cases hv : v = c.sched.heap.nextAddress
  · subst hv
    rw [h.unborn _ (Nat.le_refl _)]
    simp [refusedState, workloadDestroyInternal]
  · exact (destroy_other _ hv).trans (submitted_other info callback c.sched hv)

theorem counted_failed (hc : Counted c) (err : Error) (hheap : s.heap.workloads = c.sched.heap.workloads)
    (hqueued : s.queued = c.sched.queued) : Counted (c.submitted (.error err, s)) := by
  refine ⟨fun v => (hc.counts v).congr (congrFun hheap v) (refs_congr rfl ?_ Iff.rfl), fun s' hs' => ?_⟩
  · show v ∈ s.queued ↔ _
    rw [hqueued]
  · cases hs'
    exact ⟨hheap, hqueued⟩

theorem counted_submitted (h : Ordered c l) (hc : Counted c) (alloc : Bool) (info : SubmitInfo)
    (callback : Option Nat) : let c' := c.submitted (submitQueue alloc info callback c.sched)
    Counted c' ∧ ∃ l', Ordered c' l' := by
  rcases submitQueue_cases alloc info callback c.sched with hs | ⟨-, hs⟩ | ⟨hf, hs⟩
  · rw [hs]
    exact ⟨counted_failed hc _ rfl rfl, l, h.placed, h.unborn⟩
  · rw [hs]
    have hplaced := h.placed.refused info callback
    have hheap := refusedState_workloads h info callback
    refine ⟨counted_failed hc _ hheap (hplaced.ready.queued_eq.trans h.queued_eq.symm), l, hplaced, fun v hv => ?_⟩
    exact (congrFun hheap v).trans (h.unborn v (Nat.le_of_succ_le hv))
  · rw [hs]
    refine ⟨counted_queued h hc info callback hf, _, h.placed.queued info callback hf, fun v hv => ?_⟩
    have hlt : c.sched.heap.nextAddress < v := by
      have hv : (queuedState info callback c.sched).heap.nextAddress ≤ v := hv
      rw [queuedState_nextAddress] at hv
      exact hv
    exact (queuedState_other info callback c.sched (Nat.ne_of_gt hlt)).trans (h.unborn v (Nat.le_of_lt hlt))

theorem Calls.spec (h : Calls c c' w) (ho : Ordered c l) (hc : Counted c) {ok : Prop} (hw : CountedAt c' w ↔ ok) :
    (Counted c' ↔ ok) ∧ (Counted c' → ∃ l', Ordered c' l') :=
  ⟨(h.counted_iff hc).trans hw, fun hc' => ⟨l, h.ordered ho hc hc'⟩⟩

theorem step_spec (h : Ordered c l) (hc : Counted c) {a : Act} (ha : step c a = some c') :
    (Counted c' ↔ StepOk c a) ∧ (Counted c' → ∃ l', Ordered c' l') := by
  cases a with
  | submit alloc info callback =>
    cases ha
    obtain ⟨hc', ho⟩ := counted_submitted h hc alloc info callback
    exact ⟨iff_of_true hc' trivial, fun _ => ho⟩
  | retain w =>
    obtain ⟨hlives, rfl⟩ := Run.guarded ha
    have hcalls := calls_retain hlives
    refine hcalls.spec h hc (countedAt_retain_iff (hc.counts w) hcalls.refs_ne ?_ rfl)
    rw [hcalls.refs_eq]
    simp only [Owners.app, Owners.called, update_self, refs]
    omega
  | release w =>
    obtain ⟨hlives, rfl⟩ := Run.guarded ha
    have hcalls := calls_release hlives
    refine hcalls.spec h hc (iff_of_true (countedAt_release (hc.counts w) ?_ rfl) trivial)
    rw [hcalls.refs_eq]
    simp only [Owners.app, Owners.called, update_self, refs]
    omega
  | destroy w =>
    obtain ⟨hlives, rfl⟩ := Run.guarded ha
    have hcalls := calls_destroy hlives
    refine hcalls.spec h hc (iff_of_true (countedAt_release (hc.counts w) ?_ rfl) trivial)
    rw [hcalls.refs_eq]
    simp only [Owners.app, Owners.called, update_self, refs, hlives, Bool.toNat_true, Bool.toNat_false]
    omega
  | take i =>
    obtain ⟨σ, htake, rfl⟩ := Option.map_eq_some_iff.mp ha
    obtain ⟨hc', ho⟩ := counted_taken h hc htake
    exact ⟨iff_of_true hc' trivial, fun _ => ho⟩
  | work i alloc =>
    obtain ⟨σ, hwork, rfl⟩ := Option.map_eq_some_iff.mp ha
    obtain ⟨w, stage, hi, rfl⟩ := System.work_cases hwork
    exact ⟨iff_of_true (counted_worked h hc hi alloc) trivial, fun _ => ⟨l, ordered_worked h hc hi alloc⟩⟩

theorem ordered_start (gpus : Gpus) : Ordered (start gpus) [] :=
  ⟨placed_initialSystem gpus, fun _ _ => rfl⟩

theorem counted_start (gpus : Gpus) : Counted (start gpus) := by
  refine ⟨fun w => ?_, clean_of_none rfl⟩
  have hqueued : w ∉ (start gpus).sched.queued := by
    exact List.not_mem_nil
  have hheld : ¬ Held (start gpus).system w := nofun
  show refs (start gpus) w = 0
  rw [refs, one_not hqueued, one_not hheld]
  rfl

/-- **References.** Along any interleaving of submissions, of references taken and dropped
by the application and of the workers' steps, the count of each workload is that of its
references, none is destroyed while it has one, and submissions that fail leave nothing
behind, exactly when no workload is retained up to 2^32 references. -/
theorem refcount_iff (gpus : Gpus) (acts : List Act) :
    Run.Along step Counted (start gpus) acts ↔ Run.Admitted step StepOk (start gpus) acts :=
  Run.along_iff_of_step (I := fun c => ∃ l, Ordered c l) (fun _ _ _ ⟨_, h⟩ hc ha => step_spec h hc ha)
    ⟨[], ordered_start gpus⟩ (counted_start gpus) acts

/-- Retaining `n` times adds `n` to the count, modulo 2^32, and to the references. -/
theorem run_retains (hx : c.sched.heap.workloads w = some x) (happ : c.app w ≠ 0) (n : Nat) :
    ∃ c' x', Run.run step c (List.replicate n (.retain w)) = some c' ∧ c'.sched.heap.workloads w = some x' ∧
      x'.refcount = x.refcount + UInt32.ofNat n ∧ c'.retained w = c.retained w + n := by
  induction n generalizing c x with
  | zero => exact ⟨c, x, rfl, hx, by simp, rfl⟩
  | succ n ih =>
    let next : Owners :=
      {c.called (workloadRetain c.sched.heap w) with retained := update c.retained w (c.retained w + 1)}
    have hnext : next.sched.heap.workloads w = some {x with refcount := x.refcount + 1} := by
      show (workloadRetain c.sched.heap w).workloads w = _
      rw [workloadRetain, modify_self, hx]
      rfl
    have hretained : next.retained w = c.retained w + 1 := update_self ..
    obtain ⟨c', x', hrun, hx', hcount, hret⟩ := ih hnext (by rw [Owners.app]; omega)
    refine ⟨c', x', ?_, hx', ?_, by omega⟩
    · rw [List.replicate_succ, Run.run, step, if_pos happ]
      exact hrun
    · rw [hcount, UInt32.ofNat_add]
      show x.refcount + 1 + UInt32.ofNat n = x.refcount + (UInt32.ofNat n + 1)
      ac_rfl

def oneSubmitted : Owners :=
  (start ⟨[], Nat.zero_le _⟩).submitted
    (submitQueue true ⟨.compute, 50, 0xFFFFFFFF, 0⟩ none (start ⟨[], Nat.zero_le _⟩).sched)

/-- With 2^32 references the count of a queued workload is 0. -/
theorem refcount_wraps : ¬ Run.Along step Counted (start ⟨[], Nat.zero_le _⟩)
      (.submit true ⟨.compute, 50, 0xFFFFFFFF, 0⟩ none :: List.replicate 4294967294 (.retain 0)) := by
  intro h
  have hafter := h.2 oneSubmitted rfl
  have hx : ∃ x, oneSubmitted.sched.heap.workloads 0 = some x ∧ x.refcount = 2 := ⟨_, rfl, rfl⟩
  obtain ⟨x, hx, htwo⟩ := hx
  have happ : oneSubmitted.app 0 ≠ 0 := by decide
  obtain ⟨c, x', hrun, hx', hcount, hretained⟩ := run_retains hx happ 4294967294
  have hzero : x'.refcount.toNat = refs c 0 := (countedAt_some hx').mp ((hafter.final hrun).counts 0)
  have hwrapped : (2 + UInt32.ofNat 4294967294).toNat = 0 := by decide
  rw [hcount, htwo, hwrapped, refs, Owners.app, hretained] at hzero
  omega

end Mvgal.Scheduler.References
