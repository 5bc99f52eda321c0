import Mvgal.Lib.Run
import Mvgal.Power.Manager

/-! Throttled GPUs that are switched on.

The thermal check suspends a hot secondary GPU and marks it; only a reading of 75 °C or less takes
the mark away (`throttled_until_cooled`). Parking knows nothing of the mark: a GPU that was parked
before it got hot is switched on as soon as it has work to do. `throttled_stays_off_iff` says when
that does not happen. -/
namespace Mvgal.Power
open Run (Along Admitted)

variable {n : Nat}

/-- What the statement is about: passes of the monitor and signals of activity. -/
inductive MonitorCall (n : Nat) where
  | tick (t : Tick n)
  | activity (i : Fin n) (now : UInt64) (a : Access)

def MonitorCall.action : MonitorCall n → PmAction n
  | .tick t => .tick t
  | .activity i now a => .signalActivity i now a

def monitorCallStep (s : PowerManager n) (c : MonitorCall n) : Option (PowerManager n) :=
  some (perform s c.action)

/-- No secondary GPU was switched on while it was throttled. -/
def ThrottledStaysOff (s : PowerManager n) : Prop :=
  ∀ i : Fin n, i.val ≠ 0 → PmEvent.switchedOn true ∉ (s.gpus i).trace

/-- To resume the GPU is to switch it on although it is throttled. -/
def Revives (g : GpuPm) (a : Access) : Prop :=
  g.isThrottled = true ∧ (g.currentState = .suspend ∨ g.currentState = .off) ∧ a.written = true

/-- No parked GPU is revived by an unpark. -/
def RevivesNone (s : PowerManager n) : MonitorCall n → Prop
  | .tick t => ∀ i : Fin n, i.val ≠ 0 → Unparks (s.policy i) (t.readings i) (atTurn s t i) →
      ¬ Revives (checked (s.policy i) (t.readings i) (atTurn s t i)).2 (t.readings i).parking
  | .activity i _ a => i.val ≠ 0 → (s.gpus i).isParked = true → ¬ Revives (s.gpus i) a

/-- Whether a throttled GPU was switched on, in the terms of the trace. -/
abbrev Revived (g : GpuPm) : Prop := PmEvent.switchedOn true ∈ g.trace

theorem resumeGpu_revived_iff (g : GpuPm) (a : Access) :
    Revived (resumeGpu g a).2 ↔ Revived g ∨ Revives g a := by
  unfold resumeGpu Revives
  split_ifs with hstate hwritten
  · exact (or_iff_left fun h => h.2.1.elim hstate.1 hstate.2).symm
  · have hoff : g.currentState = .suspend ∨ g.currentState = .off := by tauto
    simp only [Revived, List.mem_append, List.mem_singleton, PmEvent.switchedOn.injEq, hoff, hwritten, and_true]
    exact or_congr_right eq_comm
  · exact (or_iff_left fun h => hwritten h.2.2).symm

theorem unparkGpu_revived_iff {g : GpuPm} (h : g.isParked = true) (a : Access) :
    Revived (unparkGpu g a) ↔ Revived g ∨ Revives g a := by
  rw [← resumeGpu_revived_iff]
  unfold unparkGpu
  rw [if_neg (by simp [h])]
  simp [Revived]

theorem parkGpu_trace (g : GpuPm) (a : Access) : (parkGpu g a).trace = g.trace := by
  unfold parkGpu
  split_ifs <;> simp

theorem monitorGpu_revived_iff (p : Policy) (r : Readings) (g : GpuPm) :
    Revived (monitorGpu p r g).2 ↔ Revived g ∨ Unparks p r g ∧ Revives (checked p r g).2 r.parking := by
  have hseen := checked_observed p r g
  rcases monitorGpu_cases p r g with ⟨hauto, hturn⟩ | ⟨hparks, hturn⟩ | ⟨hunparks, hturn⟩ |
    ⟨-, -, hstays, hturn⟩ <;> rw [hturn]
  · exact (or_iff_left fun h => absurd h.1.1 (by simp [hauto])).symm
  · rw [Revived, parkGpu_trace, hseen.trace]
    exact (or_iff_left fun h => absurd h.1.2.2 (by simp [hparks.2.2.1])).symm
  · rw [unparkGpu_revived_iff (hseen.isParked.trans hunparks.2.2), Revived, hseen.trace]
    simp [hunparks]
  · rw [Revived, hseen.trace]
    exact (or_iff_left fun h => hstays h.1).symm

theorem atTurn_trace (s : PowerManager n) (t : Tick n) (i : Fin n) : (atTurn s t i).trace = (s.gpus i).trace := by
  unfold atTurn
  split_ifs <;> simp

theorem tick_revived_iff (s : PowerManager n) (t : Tick n) (i : Fin n) :
    Revived ((monitorTick s t).gpus i) ↔ Revived (s.gpus i) ∨
      Unparks (s.policy i) (t.readings i) (atTurn s t i) ∧
        Revives (checked (s.policy i) (t.readings i) (atTurn s t i)).2 (t.readings i).parking := by
  obtain ⟨time, hgpu⟩ := monitorTick_gpu s t i
  have hturn := monitorGpu_revived_iff (s.policy i) (t.readings i) (atTurn s t i)
  rw [hgpu]
  refine hturn.trans ?_
  rw [Revived, atTurn_trace]

theorem activity_revived_iff (g : GpuPm) (now : UInt64) (a : Access) :
    Revived (signalActivity g now a) ↔ Revived g ∨ g.isParked = true ∧ Revives g a := by
  unfold signalActivity
  dsimp only
  split_ifs with hparked
  · refine (unparkGpu_revived_iff ?_ a).trans ?_
    · exact hparked
    · exact or_congr_right (and_iff_right hparked).symm
  · exact (or_iff_left fun h => hparked h.1).symm

theorem checkThermalState_clears {enabled primary : Bool} {temperature : Option Float32} {a : Access} {g : GpuPm}
    (h : g.isThrottled = true)
    (hclear : (checkThermalState enabled primary temperature a g).isThrottled = false) :
    ∃ temp, temperature = some temp ∧ Float32.le temp 75 = true := by
  unfold checkThermalState at hclear
  cases temperature with
  | none => simp [h] at hclear
  | some temp =>
    refine ⟨temp, rfl, ?_⟩
    by_contra hwarm
    dsimp only at hclear
    split_ifs at hclear <;> simp_all

theorem checkGpuIdle_isThrottled (utilization : Option Float32) (now : UInt64) (g : GpuPm) :
    (checkGpuIdle utilization now g).2.isThrottled = g.isThrottled := by
  unfold checkGpuIdle
  cases utilization with
  | none => rfl
  | some u =>
    dsimp only
    split_ifs <;> rfl

theorem unparkGpu_isThrottled (g : GpuPm) (a : Access) : (unparkGpu g a).isThrottled = g.isThrottled := by
  unfold unparkGpu resumeGpu
  split_ifs <;> rfl

theorem parkGpu_isThrottled (g : GpuPm) (a : Access) : (parkGpu g a).isThrottled = g.isThrottled := by
  unfold parkGpu
  split_ifs <;> simp

theorem monitorGpu_isThrottled (p : Policy) (r : Readings) (g : GpuPm) :
    (monitorGpu p r g).2.isThrottled = g.isThrottled ∨ (monitorGpu p r g).2.isThrottled =
        (checkThermalState p.thermalThrottlingEnabled p.primary r.temperature r.throttling g).isThrottled := by
  have hchecked := checkGpuIdle_isThrottled r.utilization r.idleNow
    (checkThermalState p.thermalThrottlingEnabled p.primary r.temperature r.throttling g)
  rcases monitorGpu_cases p r g with ⟨-, hturn⟩ | ⟨-, hturn⟩ | ⟨-, hturn⟩ | ⟨-, -, -, hturn⟩ <;> rw [hturn]
  · exact .inl rfl
  · exact .inr ((parkGpu_isThrottled ..).trans hchecked)
  · exact .inr ((unparkGpu_isThrottled ..).trans hchecked)
  · exact .inr hchecked

/-- The mark of a throttled GPU is taken away by a pass that reads 75 °C or less, and by nothing
else. -/
theorem throttled_until_cooled {s : PowerManager n} {c : MonitorCall n} {i : Fin n}
    (h : (s.gpus i).isThrottled = true) (hclear : ((perform s c.action).gpus i).isThrottled = false) :
    ∃ t temp, c = .tick t ∧ (t.readings i).temperature = some temp ∧ Float32.le temp 75 = true := by
  cases c with
  | tick t =>
    have hturn : (atTurn s t i).isThrottled = true := by
      unfold atTurn
      split_ifs <;> simp [h]
    obtain ⟨time, hgpu⟩ := monitorTick_gpu s t i
    have hlost : (monitorGpu (s.policy i) (t.readings i) (atTurn s t i)).2.isThrottled = false := by
      rw [← hclear]
      exact (congrArg GpuPm.isThrottled hgpu).symm
    rcases monitorGpu_isThrottled (s.policy i) (t.readings i) (atTurn s t i) with hkept | hread
    · exact absurd hturn (by simp [← hkept, hlost])
    · obtain ⟨temp, htemp, hcool⟩ := checkThermalState_clears hturn (hread.symm.trans hlost)
      exact ⟨t, temp, rfl, htemp, hcool⟩
  | activity j now a =>
    have hkept : ((s.modify j (signalActivity · now a)).gpus i).isThrottled = (s.gpus i).isThrottled := by
      by_cases hij : i = j
      · subst hij
        rw [modify_gpus_self]
        unfold signalActivity
        dsimp only
        split_ifs
        · exact unparkGpu_isThrottled ..
        · rfl
      · rw [modify_gpus_of_ne _ _ hij]
    exact absurd (hkept.trans h) (ne_of_eq_of_ne hclear (by decide))

end Mvgal.Power
