import Mvgal.Lib.Run
import Mvgal.Power.Manager

/-! Which GPUs a pass of the monitor leaves suspended.

Parking is the only suspension that the monitor takes back. A GPU that was suspended by the S0ix
entry, by the thermal check or on request is not marked as parked, so nothing switches it on when
it has work to do. `not_left_suspended_iff` is about this. -/
namespace Mvgal.Power
open Run (Along Admitted)

variable {n : Nat}

def Access.succeeding (a : Access) : Access := {a with written := true}

def Readings.succeeding (r : Readings) : Readings :=
  {r with throttling := r.throttling.succeeding, parking := r.parking.succeeding}

def Tick.succeeding (t : Tick n) : Tick n :=
  {t with readings := fun i => (t.readings i).succeeding, suspending := fun i => (t.suspending i).succeeding}

/-- The same step, with every write to `power/control` successful. -/
def PmAction.succeeding : PmAction n → PmAction n
  | .tick t => .tick t.succeeding
  | .signalActivity i now a => .signalActivity i now a.succeeding
  | .park i a => .park i a.succeeding
  | .unpark i a => .unpark i a.succeeding
  | .setGpuState i state a => .setGpuState i state a.succeeding
  | .enterS0ix a now => .enterS0ix (fun i => (a i).succeeding) now
  | a => a

/-- The power manager, and whether the last step was a pass of the monitor. -/
structure Watched (n : Nat) where
  pm : PowerManager n
  ticked : Bool

def watchedStep (w : Watched n) (a : PmAction n) : Option (Watched n) :=
  some ⟨perform w.pm a.succeeding, match a with | .tick _ => true | _ => false⟩

/-- A managed GPU that is neither idle nor throttled is not suspended. -/
def Awake (g : GpuPm) : Prop :=
  g.autoPowerManage = true → g.isIdle = false → g.isThrottled = false → g.currentState ≠ .suspend

def AwakeAfterTick (w : Watched n) : Prop := w.ticked = true → ∀ i, Awake (w.pm.gpus i)

/-- A managed GPU that is not parked is found suspended, neither idle nor throttled. -/
def Stranded (p : Policy) (r : Readings) (g : GpuPm) : Prop :=
  g.autoPowerManage = true ∧ g.isParked = false ∧ (checked p r g).2.currentState = .suspend ∧
    (checked p r g).2.isIdle = false ∧ (checked p r g).2.isThrottled = false

/-- No GPU is stranded when its turn comes. -/
def StrandsNone (w : Watched n) : PmAction n → Prop
  | .tick t => ∀ i, ¬ Stranded (w.pm.policy i) (t.succeeding.readings i) (atTurn w.pm t.succeeding i)
  | _ => True

theorem isIdle_parkGpu {g : GpuPm} (h : g.isIdle = true) (a : Access) : (parkGpu g a).isIdle = true := by
  unfold parkGpu suspendGpu
  split_ifs <;> first | exact h | rfl

theorem unparkGpu_awake {g : GpuPm} (h : g.isParked = true) {a : Access} (ha : a.written = true) :
    (unparkGpu g a).currentState ≠ .suspend := by
  unfold unparkGpu resumeGpu
  rw [if_neg (by simp [h])]
  split_ifs with hstate
  · exact hstate.1
  · simp

theorem monitorGpu_awake_iff (p : Policy) {r : Readings} (hr : r.parking.written = true) (g : GpuPm) :
    Awake (monitorGpu p r g).2 ↔ ¬ Stranded p r g := by
  have hseen := checked_observed p r g
  rcases monitorGpu_cases p r g with ⟨hauto, hturn⟩ | ⟨hparks, hturn⟩ | ⟨hunparks, hturn⟩ |
    ⟨hauto, -, hstays, hturn⟩ <;> rw [hturn]
  · -- passed over: the statement does not ask for it
    refine iff_of_true (fun h => ?_) (fun h => ?_)
    · exact absurd hauto (by simp [h])
    · exact absurd hauto (by simp [h.1])
  · have hidle := isIdle_of_checked p r g hparks.2.1
    refine iff_of_true (fun _ h => ?_) (fun h => ?_)
    · exact absurd h (by simp [isIdle_parkGpu hidle])
    · exact absurd hidle (by simp [h.2.2.2.1])
  · refine iff_of_true (fun _ _ _ => ?_) (fun h => ?_)
    · exact unparkGpu_awake (hseen.isParked.trans hunparks.2.2) hr
    · exact absurd hunparks.2.2 (by simp [h.2.1])
  · unfold Awake Stranded
    rw [hseen.autoPowerManage]
    cases hparked : g.isParked with
    | false => simp only [hauto, forall_const, true_and, not_and, ne_eq]; tauto
    | true =>
      -- parked and not to be unparked, so idle
      have hidle : (checked p r g).1 = true := by
        cases h : (checked p r g).1 with
        | false => exact absurd ⟨hauto, h, hparked⟩ hstays
        | true => rfl
      simp [isIdle_of_checked p r g hidle]

theorem awake_tick_iff (s : PowerManager n) (t : Tick n) :
    (∀ i, Awake ((monitorTick s t.succeeding).gpus i)) ↔
      ∀ i, ¬ Stranded (s.policy i) (t.succeeding.readings i) (atTurn s t.succeeding i) := by
  refine forall_congr' fun i => ?_
  obtain ⟨time, hgpu⟩ := monitorTick_gpu s t.succeeding i
  rw [hgpu]
  exact monitorGpu_awake_iff (s.policy i) rfl (atTurn s t.succeeding i)

end Mvgal.Power
