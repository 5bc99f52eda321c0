import Mvgal.Lib.Run
import Mvgal.Power.Manager

/-! Deferred initialisation.

A callback that is registered for a parked GPU is to be invoked when the GPU is unparked. The
specification keeps for every GPU the callbacks that wait for its next unpark, and those that are
due; the code keeps a flag and one data pointer, and no callback. `lazy_init_exact_iff` compares
the invocations with what is due. -/
namespace Mvgal.Power
open Run (Along Admitted)

variable {n : Nat}

/-- The power manager, the callbacks that wait for the unpark of each GPU, and those that were to
be invoked by now. -/
structure Deferred (n : Nat) where
  pm : PowerManager n
  waiting : Fin n → List LazyInit
  due : Fin n → List LazyInit

def PmAction.registered (i : Fin n) : PmAction n → List LazyInit
  | .registerLazyInit j init => if j = i then [init] else []
  | _ => []

def Deferred.releases (w : Deferred n) (a : PmAction n) (i : Fin n) : Bool :=
  (w.pm.gpus i).isParked && !((perform w.pm a).gpus i).isParked

/-- A registration is due at once if the GPU is not parked. Otherwise it waits, and all that waits
is due when the GPU is unparked. -/
def Deferred.newlyDue (w : Deferred n) (a : PmAction n) (i : Fin n) : List LazyInit :=
  (if w.releases a i then w.waiting i else []) ++ (if (w.pm.gpus i).isParked then [] else a.registered i)

def deferredStep (w : Deferred n) (a : PmAction n) : Option (Deferred n) :=
  some {
    pm := perform w.pm a
    waiting := fun i =>
      if w.releases a i then [] else w.waiting i ++ (if (w.pm.gpus i).isParked then a.registered i else [])
    due := fun i => w.due i ++ w.newlyDue a i }

def invocations (g : GpuPm) : List LazyInit :=
  g.trace.filterMap fun | .invoked init => some init | _ => none

/-- What was invoked is what was due, each as often as it was registered. -/
def InvokedWhenDue (w : Deferred n) : Prop := ∀ i, (invocations (w.pm.gpus i)).Perm (w.due i)

/-- No GPU is unparked while a callback waits for it, and while initialisation is not lazy no
callback is registered for a parked GPU. -/
def NothingDeferred (w : Deferred n) : PmAction n → Prop
  | .tick t => ∀ i, Unparks (w.pm.policy i) (t.readings i) (atTurn w.pm t i) → w.waiting i = []
  | .signalActivity i _ _ | .unpark i _ => (w.pm.gpus i).isParked = true → w.waiting i = []
  | .registerLazyInit i _ => (w.pm.gpus i).isParked = true → w.pm.lazyInitEnabled = true
  | _ => True

def Silent (g g' : GpuPm) : Prop := invocations g' = invocations g

/-- Nothing is invoked, and a parked GPU stays parked. -/
def Quiet (g g' : GpuPm) : Prop := Silent g g' ∧ (g.isParked = true → g'.isParked = true)

section
variable (g : GpuPm) (a : Access)
include g a

theorem suspendGpu_quiet : Quiet g (suspendGpu g a).2 := by
  refine ⟨?_, fun h => ?_⟩
  · rw [Silent, invocations, suspendGpu_trace, invocations]
  · rw [suspendGpu_isParked, h]

theorem resumeGpu_quiet : Quiet g (resumeGpu g a).2 := by
  unfold resumeGpu
  split_ifs
  · exact ⟨rfl, id⟩
  · exact ⟨by simp [Silent, invocations], id⟩
  · exact ⟨rfl, id⟩

theorem parkGpu_quiet : Quiet g (parkGpu g a) := by
  unfold parkGpu
  split_ifs
  · exact ⟨rfl, id⟩
  · exact ⟨(suspendGpu_quiet g a).1, fun _ => rfl⟩

theorem unparkGpu_silent : Silent g (unparkGpu g a) := by
  have hresume := (resumeGpu_quiet g a).1
  unfold unparkGpu
  split_ifs
  · rfl
  · refine Eq.trans ?_ hresume
    simp [invocations]

theorem unparkGpu_isParked : (unparkGpu g a).isParked = false := by
  unfold unparkGpu
  split_ifs with h
  · exact h
  · rfl

end

theorem setGpuState_quiet (g : GpuPm) (state : PowerState) (a : Access) : Quiet g (setGpuState g state a).2 := by
  cases state with
  | unknown => exact ⟨rfl, id⟩
  | off | suspend => exact suspendGpu_quiet {g with requestedState := _} a
  | idle | on | performance => exact resumeGpu_quiet {g with requestedState := _} a

theorem signalActivity_silent (g : GpuPm) (now : UInt64) (a : Access) : Silent g (signalActivity g now a) := by
  unfold signalActivity
  dsimp only
  split_ifs
  · exact unparkGpu_silent {g with lastActivityNs := now, isIdle := false} a
  · rfl

theorem signalActivity_isParked (g : GpuPm) (now : UInt64) (a : Access) :
    (signalActivity g now a).isParked = false := by
  unfold signalActivity
  dsimp only
  split_ifs with h
  · exact unparkGpu_isParked ..
  · simpa using h

theorem monitorGpu_silent (p : Policy) (r : Readings) (g : GpuPm) : Silent g (monitorGpu p r g).2 := by
  have hchecked : Silent g (checked p r g).2 := by
    rw [Silent, invocations, (checked_observed p r g).trace, invocations]
  rcases monitorGpu_cases p r g with ⟨-, hturn⟩ | ⟨-, hturn⟩ | ⟨-, hturn⟩ | ⟨-, -, -, hturn⟩ <;> rw [hturn]
  · rfl
  · exact (parkGpu_quiet _ _).1.trans hchecked
  · exact (unparkGpu_silent _ _).trans hchecked
  · exact hchecked

/-- A turn releases the GPU exactly if it unparks it. -/
theorem monitorGpu_releases_iff (p : Policy) (r : Readings) (g : GpuPm) :
    (g.isParked = true ∧ (monitorGpu p r g).2.isParked = false) ↔ Unparks p r g := by
  have hparked := (checked_observed p r g).isParked
  rcases monitorGpu_cases p r g with ⟨hauto, hturn⟩ | ⟨hparks, hturn⟩ | ⟨hunparks, hturn⟩ |
    ⟨-, -, hstays, hturn⟩ <;> rw [hturn]
  · refine iff_of_false (fun h => ?_) (fun h => ?_)
    · exact absurd h.1 (by simp [h.2])
    · exact absurd hauto (by simp [h.1])
  · refine iff_of_false (fun h => ?_) (fun h => ?_)
    · exact absurd h.1 (by simp [hparks.2.2.1])
    · exact absurd h.2.2 (by simp [hparks.2.2.1])
  · exact iff_of_true ⟨hunparks.2.2, unparkGpu_isParked _ _⟩ hunparks
  · refine iff_of_false (fun h => ?_) hstays
    exact absurd h.1 (by simp [← hparked, h.2])

/-- What was equal up to order stays so exactly if what is added is. -/
theorem perm_append_iff {α : Type} {l m c e : List α} (h : l.Perm m) : (l ++ c).Perm (m ++ e) ↔ c.Perm e := by
  have hm : (l ++ c).Perm (m ++ c) := h.append_right c
  have hcongr : (l ++ c).Perm (m ++ e) ↔ (m ++ c).Perm (m ++ e) := ⟨hm.symm.trans, hm.trans⟩
  exact hcongr.trans (List.perm_append_left_iff m)

variable {a : PmAction n} {w w' : Deferred n}

section
variable (h : InvokedWhenDue w)
include h

section
variable (hregistered : ∀ i, a.registered i = [])
include hregistered

/-- A step that invokes nothing and registers nothing must not release a GPU for which a callback
waits. -/
theorem invoked_iff_of_silent
    (hsilent : ∀ i, Silent (w.pm.gpus i) ((perform w.pm a).gpus i)) (hstep : deferredStep w a = some w') :
    InvokedWhenDue w' ↔
      ∀ i, (w.pm.gpus i).isParked = true ∧ ((perform w.pm a).gpus i).isParked = false → w.waiting i = [] := by
  cases hstep
  refine forall_congr' fun i => ?_
  have hnone : (invocations ((perform w.pm a).gpus i)) = invocations (w.pm.gpus i) ++ [] := by
    rw [hsilent i, List.append_nil]
  rw [hnone, perm_append_iff (h i), Deferred.newlyDue, Deferred.releases, hregistered i]
  by_cases hbefore : (w.pm.gpus i).isParked = true
  · by_cases hafter : ((perform w.pm a).gpus i).isParked = true <;> simp [hbefore, hafter]
  · simp [hbefore]

theorem invoked_of_quiet
    (hquiet : ∀ i, Quiet (w.pm.gpus i) ((perform w.pm a).gpus i)) (hstep : deferredStep w a = some w') :
    InvokedWhenDue w' := by
  refine (invoked_iff_of_silent h hregistered (fun i => (hquiet i).1) hstep).mpr fun i hreleased => ?_
  exact absurd ((hquiet i).2 hreleased.1) (by simp [hreleased.2])

theorem invoked_iff_of_unpark {i : Fin n} {f : GpuPm → GpuPm} (hperform : perform w.pm a = w.pm.modify i f)
    (hsilent : Silent (w.pm.gpus i) (f (w.pm.gpus i))) (hreleased : (f (w.pm.gpus i)).isParked = false)
    (hstep : deferredStep w a = some w') :
    InvokedWhenDue w' ↔ ((w.pm.gpus i).isParked = true → w.waiting i = []) := by
  have hall : ∀ j, Silent (w.pm.gpus j) ((perform w.pm a).gpus j) := by
    rw [hperform]
    exact (forall_modify_iff (Q := fun j => Silent (w.pm.gpus j)) (fun _ => rfl) i f).mpr hsilent
  refine (invoked_iff_of_silent h hregistered hall hstep).trans ?_
  rw [hperform]
  refine (forall_modify_iff (Q := fun j g => (w.pm.gpus j).isParked = true ∧ g.isParked = false → w.waiting j = [])
    (fun j hj => absurd hj.1 (by simp [hj.2])) i f).trans ?_
  simp [hreleased]

end

end

theorem registerLazyInit_isParked (lazyInitEnabled : Bool) (g : GpuPm) (init : LazyInit) :
    (registerLazyInit lazyInitEnabled g init).isParked = g.isParked := by
  unfold registerLazyInit
  dsimp only
  split_ifs <;> rfl

/-- A registration invokes the callback at once, unless initialisation is lazy and the GPU parked. -/
theorem registerLazyInit_invocations (lazyInitEnabled : Bool) (g : GpuPm) (init : LazyInit) :
    invocations (registerLazyInit lazyInitEnabled g init) =
      invocations g ++ (if lazyInitEnabled = true ∧ g.isParked = true then [] else [init]) := by
  unfold registerLazyInit
  split_ifs <;> simp_all [invocations]

theorem invoked_register_iff {i : Fin n} {init : LazyInit} (h : InvokedWhenDue w)
    (hstep : deferredStep w (.registerLazyInit i init) = some w') :
    InvokedWhenDue w' ↔ ((w.pm.gpus i).isParked = true → w.pm.lazyInitEnabled = true) := by
  cases hstep
  have hgpu : ∀ j, (invocations ((perform w.pm (.registerLazyInit i init)).gpus j)).Perm
      (w.due j ++ w.newlyDue (.registerLazyInit i init) j) ↔
      (j = i → (w.pm.gpus i).isParked = true → w.pm.lazyInitEnabled = true) := by
    intro j
    unfold Deferred.newlyDue Deferred.releases
    by_cases hj : j = i
    · subst hj
      simp only [perform, modify_gpus_self]
      rw [registerLazyInit_invocations, registerLazyInit_isParked, perm_append_iff (h j)]
      by_cases hparked : (w.pm.gpus j).isParked = true <;> by_cases hlazy : w.pm.lazyInitEnabled = true <;>
        simp [hparked, hlazy, PmAction.registered]
    · simp only [perform, modify_gpus_of_ne _ _ hj]
      simpa [hj, Ne.symm hj, PmAction.registered] using h j
  exact (forall_congr' hgpu).trans forall_eq

/-- A pass invokes nothing, and releases the GPUs that it unparks. -/
theorem tick_silent (s : PowerManager n) (t : Tick n) (i : Fin n) :
    Silent (s.gpus i) ((monitorTick s t).gpus i) ∧
      ((s.gpus i).isParked = true ∧ ((monitorTick s t).gpus i).isParked = false ↔
        Unparks (s.policy i) (t.readings i) (atTurn s t i)) := by
  obtain ⟨time, hgpu⟩ := monitorTick_gpu s t i
  have hentry : Silent (s.gpus i) (atTurn s t i) ∧ (atTurn s t i).isParked = (s.gpus i).isParked := by
    refine atTurn_of (Q := fun g => Silent (s.gpus i) g ∧ g.isParked = (s.gpus i).isParked) ⟨rfl, rfl⟩ (fun a => ?_) t
    exact ⟨(suspendGpu_quiet ..).1, suspendGpu_isParked ..⟩
  rw [hgpu, ← hentry.2, ← monitorGpu_releases_iff]
  exact ⟨(monitorGpu_silent ..).trans hentry.1, Iff.rfl⟩

theorem invoked_step_iff (h : InvokedWhenDue w)
    (hstep : deferredStep w a = some w') : InvokedWhenDue w' ↔ NothingDeferred w a := by
  have hquiet : ∀ i f, perform w.pm a = w.pm.modify i f → Quiet (w.pm.gpus i) (f (w.pm.gpus i)) →
      ∀ j, Quiet (w.pm.gpus j) ((perform w.pm a).gpus j) := by
    intro i f hperform hi
    rw [hperform]
    exact (forall_modify_iff (fun _ => ⟨rfl, id⟩) i f).mpr hi
  cases a with
  | tick t =>
    have hturn := tick_silent w.pm t
    refine (invoked_iff_of_silent (a := .tick t) h (fun _ => rfl) (fun i => (hturn i).1) hstep).trans ?_
    exact forall_congr' fun i => imp_congr_left (hturn i).2
  | signalActivity i now a =>
    exact invoked_iff_of_unpark (f := (signalActivity · now a)) h (fun _ => rfl) rfl
      (signalActivity_silent ..) (signalActivity_isParked ..) hstep
  | unpark i a =>
    exact invoked_iff_of_unpark (f := (unparkGpu · a)) h (fun _ => rfl) rfl
      (unparkGpu_silent ..) (unparkGpu_isParked ..) hstep
  | park i a =>
    exact iff_of_true (invoked_of_quiet h (fun _ => rfl) (hquiet i (parkGpu · a) rfl (parkGpu_quiet ..)) hstep) trivial
  | setGpuState i state a =>
    have hset := hquiet i (fun g => (setGpuState g state a).2) rfl (setGpuState_quiet ..)
    exact iff_of_true (invoked_of_quiet h (fun _ => rfl) hset hstep) trivial
  | registerLazyInit i init => exact invoked_register_iff h hstep
  | setAutoPm | setS0ixEnabled | enterS0ix | exitS0ix =>
    refine iff_of_true (invoked_of_quiet h (fun _ => rfl) (fun i => ?_) hstep) trivial
    exact background_gpu (fun _ _ _ _ hg => hg) ⟨rfl, id⟩ (suspendGpu_quiet _) trivial

/-- Every callback is invoked exactly when it is due, exactly if no GPU is unparked while one
waits for it, and none is registered for a parked GPU while initialisation is not lazy. -/
theorem lazy_init_exact_iff (config : Option PmConfig) (support : Bool) (now : Fin n → UInt64)
    (actions : List (PmAction n)) :
    Along deferredStep InvokedWhenDue ⟨pmInit config support now, fun _ => [], fun _ => []⟩ actions ↔
      Admitted deferredStep NothingDeferred ⟨pmInit config support now, fun _ => [], fun _ => []⟩ actions := by
  refine Run.along_iff_of_exact (fun w a w' hp hstep => ?_) (fun _ => .nil) actions
  exact invoked_step_iff hp hstep

/-- A callback is registered for a parked GPU, which is then unparked: nothing is invoked. -/
theorem deferred_callback_lost :
    ¬ Along deferredStep InvokedWhenDue ⟨pmInit none false (fun _ : Fin 2 => 0), fun _ => [], fun _ => []⟩
      [ .tick (.plain 40000000000 fun _ => .plain 40000000000 40 0), .registerLazyInit 1 (1, 2),
        .signalActivity 1 41000000000 (.made 41000000000) ] := by
  intro h
  exact absurd (h.final rfl 1) (by decide)

end Mvgal.Power
