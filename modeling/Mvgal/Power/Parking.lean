import Mvgal.Lib.Run
import Mvgal.Power.Manager

/-! The parking flag against the power state.

`park_gpu` sets the flag and `unpark_gpu` clears it whatever the write to `power/control` did, and
an explicit request changes the power state without looking at the flag. `parking_consistent_iff`
says which steps keep the two together. -/
namespace Mvgal.Power
open Run (Along Admitted)

variable {n : Nat}

/-- A parked GPU is suspended, and every unpark left its GPU switched on or still parked. -/
structure Consistent (g : GpuPm) : Prop where
  parked : g.isParked = true → g.currentState = .suspend
  released : ∀ state parked, PmEvent.released state parked ∈ g.trace → state = .on ∨ parked = true

def ParkingConsistent (s : PowerManager n) : Prop := ∀ i, Consistent (s.gpus i)

def Settled (g : GpuPm) : Prop := g.currentState = .on ∨ g.currentState = .suspend

def Resuming (state : PowerState) : Prop := state = .idle ∨ state = .on ∨ state = .performance

/-- Parking needs its write unless the GPU is suspended already, unparking needs it always, and a
request to resume must not reach a parked GPU. -/
def KeepsParking (s : PowerManager n) : PmAction n → Prop
  | .tick t => ∀ i : Fin n, let r := t.readings i
      let g := atTurn s t i
      (Parks (s.policy i) r g → (checked (s.policy i) r g).2.currentState = .suspend ∨ r.parking.written = true) ∧
      (Unparks (s.policy i) r g → r.parking.written = true)
  | .signalActivity i _ a | .unpark i a => (s.gpus i).isParked = true → a.written = true
  | .park i a => (s.gpus i).isParked = false → (s.gpus i).currentState = .suspend ∨ a.written = true
  | .setGpuState i state a => Resuming state → (s.gpus i).isParked = true → a.written = false
  | _ => True

variable {g : GpuPm}

theorem Consistent.suspended (h : Consistent g) (a : Access) : Consistent (suspendGpu g a).2 := by
  refine ⟨fun hparked => ?_, ?_⟩
  · rw [suspendGpu_isParked] at hparked
    rw [suspendGpu_state, if_pos (.inl (h.parked hparked))]
  · rw [suspendGpu_trace]
    exact h.released

theorem Settled.suspended (h : Settled g) (a : Access) : Settled (suspendGpu g a).2 := by
  rw [Settled, suspendGpu_state]
  split_ifs
  · exact .inr rfl
  · exact h

theorem Consistent.observed {g' : GpuPm} (h : Consistent g) (hseen : Observed g g') : Consistent g' := by
  refine ⟨fun hparked => ?_, ?_⟩
  · have hstate := h.parked (hseen.isParked.symm.trans hparked)
    exact hseen.state.elim (·.trans hstate) id
  · rw [hseen.trace]
    exact h.released

section
variable (h : Settled g)
include h

theorem Settled.observed {g' : GpuPm} (hseen : Observed g g') : Settled g' := by
  rcases hseen.state with hsame | hsuspend
  · rw [Settled, hsame]
    exact h
  · exact .inr hsuspend

theorem Settled.resumed (a : Access) : Settled (resumeGpu g a).2 := by
  unfold resumeGpu
  split_ifs
  · exact h
  · exact .inl rfl
  · exact h

theorem Settled.parked (a : Access) : Settled (parkGpu g a) := by
  unfold parkGpu
  split_ifs
  · exact h
  · exact h.suspended a

theorem Settled.unparked (a : Access) : Settled (unparkGpu g a) := by
  unfold unparkGpu
  split_ifs
  · exact h
  · exact h.resumed a

theorem Settled.turn (p : Policy) (r : Readings) : Settled (monitorGpu p r g).2 := by
  have hchecked := h.observed (checked_observed p r g)
  rcases monitorGpu_cases p r g with ⟨-, hturn⟩ | ⟨-, hturn⟩ | ⟨-, hturn⟩ | ⟨-, -, -, hturn⟩ <;> rw [hturn]
  · exact h
  · exact hchecked.parked _
  · exact hchecked.unparked _
  · exact hchecked

end

theorem consistent_park_iff (h : Consistent g) (a : Access) :
    Consistent (parkGpu g a) ↔ (g.isParked = false → g.currentState = .suspend ∨ a.written = true) := by
  unfold parkGpu
  split_ifs with hparked
  · exact iff_of_true h fun hfree => absurd hparked (by simp [hfree])
  · have hstate := suspendGpu_state g a
    constructor
    · intro hc _
      by_contra hnot
      rw [if_neg hnot] at hstate
      exact hnot (.inl (hstate.symm.trans (hc.parked rfl)))
    · intro hwrite
      rw [if_pos (hwrite (by simpa using hparked))] at hstate
      exact ⟨fun _ => hstate, (h.suspended a).released⟩

/-- The resumption of a suspended GPU, as an unpark meets it. -/
theorem resumeGpu_of_suspended (hg : g.currentState = .suspend) (a : Access) :
    (resumeGpu g a).2.currentState = (if a.written = true then .on else .suspend) ∧
      ∀ state parked, PmEvent.released state parked ∈ (resumeGpu g a).2.trace ↔
        PmEvent.released state parked ∈ g.trace := by
  unfold resumeGpu
  rw [if_neg fun h => h.1 hg]
  split_ifs <;> simp [hg]

theorem consistent_unpark_iff (h : Consistent g) (a : Access) :
    Consistent (unparkGpu g a) ↔ (g.isParked = true → a.written = true) := by
  unfold unparkGpu
  split_ifs with hfree
  · exact iff_of_true h fun hparked => absurd hfree (by simp [hparked])
  · have hparked : g.isParked = true := by simpa using hfree
    obtain ⟨hstate, htrace⟩ := resumeGpu_of_suspended (h.parked hparked) a
    rw [imp_iff_right hparked]
    constructor
    · intro hc
      -- the unpark itself is the last event
      have hlast := hc.released (resumeGpu g a).2.currentState false (by simp)
      by_contra hfailed
      rw [hstate, if_neg hfailed] at hlast
      simp at hlast
    · intro hwritten
      rw [if_pos hwritten] at hstate
      refine ⟨fun hagain => (nomatch hagain), fun state parked hmem => ?_⟩
      rcases List.mem_append.mp hmem with hold | hnew
      · exact h.released state parked ((htrace state parked).mp hold)
      · cases List.mem_singleton.mp hnew
        exact .inl hstate

theorem resumeGpu_isParked (g : GpuPm) (a : Access) : (resumeGpu g a).2.isParked = g.isParked := by
  unfold resumeGpu
  split_ifs <;> rfl

/-- To resume a parked GPU on request is to leave the flag behind. -/
theorem consistent_resume_iff (h : Consistent g) (hg : Settled g) (a : Access) :
    Consistent (resumeGpu g a).2 ↔ (g.isParked = true → a.written = false) := by
  rcases hg with hon | hsuspend
  · have hsame : resumeGpu g a = (true, g) := if_pos ⟨by simp [hon], by simp [hon]⟩
    rw [hsame]
    exact iff_of_true h fun hparked => absurd (h.parked hparked) (by simp [hon])
  · obtain ⟨hstate, htrace⟩ := resumeGpu_of_suspended hsuspend a
    have hreleased : ∀ state parked, PmEvent.released state parked ∈ (resumeGpu g a).2.trace →
        state = .on ∨ parked = true :=
      fun state parked hmem => h.released state parked ((htrace state parked).mp hmem)
    cases hwritten : a.written with
    | true =>
      rw [hwritten, if_pos rfl] at hstate
      refine ⟨fun hc hparked => ?_, fun hfree => ⟨fun hparked => ?_, hreleased⟩⟩
      · have hboth := hc.parked ((resumeGpu_isParked g a).trans hparked)
        exact absurd (hstate.symm.trans hboth) (by decide)
      · exact nomatch hfree ((resumeGpu_isParked g a).symm.trans hparked)
    | false =>
      rw [hwritten, if_neg (by decide)] at hstate
      exact iff_of_true ⟨fun _ => hstate, hreleased⟩ fun _ => rfl

theorem consistent_set_iff (h : Consistent g) (hg : Settled g) (state : PowerState) (a : Access) :
    Consistent (setGpuState g state a).2 ↔ (Resuming state → g.isParked = true → a.written = false) := by
  have hrequested : Consistent {g with requestedState := state} := ⟨h.parked, h.released⟩
  have hresume : Consistent (resumeGpu {g with requestedState := state} a).2 ↔
      (g.isParked = true → a.written = false) := consistent_resume_iff hrequested hg a
  cases state with
  | unknown => exact iff_of_true hrequested fun hr => by simp [Resuming] at hr
  | off | suspend => exact iff_of_true (hrequested.suspended a) fun hr => by simp [Resuming] at hr
  | idle => exact hresume.trans (imp_iff_right (.inl rfl)).symm
  | on => exact hresume.trans (imp_iff_right (.inr (.inl rfl))).symm
  | performance => exact hresume.trans (imp_iff_right (.inr (.inr rfl))).symm

theorem consistent_turn_iff (h : Consistent g) (p : Policy) (r : Readings) :
    Consistent (monitorGpu p r g).2 ↔
      (Parks p r g → (checked p r g).2.currentState = .suspend ∨ r.parking.written = true) ∧
      (Unparks p r g → r.parking.written = true) := by
  have hseen := checked_observed p r g
  have hchecked := h.observed hseen
  rcases monitorGpu_cases p r g with ⟨hauto, hturn⟩ | ⟨hparks, hturn⟩ | ⟨hunparks, hturn⟩ |
    ⟨-, hparks, hunparks, hturn⟩ <;> rw [hturn]
  · refine iff_of_true h ⟨fun hp => ?_, fun hu => ?_⟩
    · exact absurd hauto (by simp [hp.1])
    · exact absurd hauto (by simp [hu.1])
  · have hnot : ¬ Unparks p r g := fun hu => absurd hu.2.1 (by simp [hparks.2.1])
    rw [consistent_park_iff hchecked, hseen.isParked, imp_iff_right hparks.2.2.1]
    simp [hparks, hnot]
  · have hnot : ¬ Parks p r g := fun hp => absurd hp.2.1 (by simp [hunparks.2.1])
    rw [consistent_unpark_iff hchecked, hseen.isParked, imp_iff_right hunparks.2.2]
    simp [hunparks, hnot]
  · exact iff_of_true hchecked ⟨fun hp => absurd hp hparks, fun hu => absurd hu hunparks⟩

variable {s : PowerManager n}

theorem settled_step (h : ∀ i, Settled (s.gpus i)) (a : PmAction n) :
    ∀ i, Settled ((perform s a).gpus i) := by
  have hmodify : ∀ i f, Settled (f (s.gpus i)) → ∀ j, Settled ((s.modify i f).gpus j) :=
    fun i f => (forall_modify_iff h i f).mpr
  cases a with
  | tick t =>
    intro i
    obtain ⟨time, hgpu⟩ := monitorTick_gpu s t i
    have hturn : Settled (atTurn s t i) := atTurn_of (h i) (h i).suspended t
    exact (congrArg Settled hgpu).mpr (hturn.turn (s.policy i) (t.readings i))
  | signalActivity i now a =>
    refine hmodify i (signalActivity · now a) ?_
    unfold signalActivity
    dsimp only
    split_ifs
    · exact Settled.unparked (g := {s.gpus i with lastActivityNs := now, isIdle := false}) (h i) a
    · exact h i
  | park i a => exact hmodify i (parkGpu · a) ((h i).parked a)
  | unpark i a => exact hmodify i (unparkGpu · a) ((h i).unparked a)
  | setGpuState i state a =>
    refine hmodify i (fun g => (setGpuState g state a).2) ?_
    have hrequested : Settled {s.gpus i with requestedState := state} := h i
    cases state with
    | unknown => exact hrequested
    | off | suspend => exact hrequested.suspended a
    | idle | on | performance => exact hrequested.resumed a
  | registerLazyInit i init =>
    refine hmodify i (registerLazyInit s.lazyInitEnabled · init) ?_
    unfold registerLazyInit
    dsimp only
    split_ifs <;> exact h i
  | setAutoPm | setS0ixEnabled | enterS0ix | exitS0ix =>
    exact fun i => background_gpu (fun _ _ _ _ hg => hg) (h i) (h i).suspended trivial

theorem consistent_tick_iff (h : ParkingConsistent s) (t : Tick n) :
    ParkingConsistent (monitorTick s t) ↔ KeepsParking s (.tick t) := by
  refine forall_congr' fun i => ?_
  obtain ⟨time, hgpu⟩ := monitorTick_gpu s t i
  have hturn : Consistent (atTurn s t i) := atTurn_of (h i) (h i).suspended t
  have hsame : Consistent ((monitorTick s t).gpus i) ↔
      Consistent (monitorGpu (s.policy i) (t.readings i) (atTurn s t i)).2 := by
    rw [hgpu]
    exact ⟨fun h => ⟨h.parked, h.released⟩, fun h => ⟨h.parked, h.released⟩⟩
  exact hsame.trans (consistent_turn_iff hturn (s.policy i) (t.readings i))

theorem consistent_signal_iff (h : Consistent g) (now : UInt64) (a : Access) :
    Consistent (signalActivity g now a) ↔ (g.isParked = true → a.written = true) := by
  have hsignal : Consistent {g with lastActivityNs := now, isIdle := false} := ⟨h.parked, h.released⟩
  unfold signalActivity
  dsimp only
  split_ifs with hparked
  · exact consistent_unpark_iff hsignal a
  · exact iff_of_true hsignal fun h => absurd h hparked

theorem Consistent.registered (h : Consistent g) (lazyInitEnabled : Bool) (init : LazyInit) :
    Consistent (registerLazyInit lazyInitEnabled g init) := by
  refine ⟨?_, fun state parked hmem => h.released state parked ?_⟩
  · unfold registerLazyInit
    dsimp only
    split_ifs <;> exact h.parked
  · unfold registerLazyInit at hmem
    dsimp only at hmem
    split_ifs at hmem <;> simpa using hmem

theorem consistent_step_iff (hi : ∀ i, Settled (s.gpus i)) (h : ParkingConsistent s)
    (a : PmAction n) : ParkingConsistent (perform s a) ↔ KeepsParking s a := by
  have hmodify : ∀ i f, ParkingConsistent (s.modify i f) ↔ Consistent (f (s.gpus i)) :=
    forall_modify_iff h
  cases a with
  | tick t => exact consistent_tick_iff h t
  | signalActivity i now a => exact (hmodify i (signalActivity · now a)).trans (consistent_signal_iff (h i) now a)
  | park i a => exact (hmodify i (parkGpu · a)).trans (consistent_park_iff (h i) a)
  | unpark i a => exact (hmodify i (unparkGpu · a)).trans (consistent_unpark_iff (h i) a)
  | setGpuState i state a =>
    exact (hmodify i (fun g => (setGpuState g state a).2)).trans (consistent_set_iff (h i) (hi i) state a)
  | registerLazyInit i init =>
    exact (hmodify i (registerLazyInit s.lazyInitEnabled · init)).trans (iff_of_true ((h i).registered _ init) trivial)
  | setAutoPm | setS0ixEnabled | enterS0ix | exitS0ix =>
    refine iff_of_true (fun i => ?_) trivial
    exact background_gpu (fun _ _ _ _ hg => ⟨hg.parked, hg.released⟩) (h i) (h i).suspended trivial

/-- The flag and the power state agree all along exactly if every park and unpark has the write
that it needs, and no request resumes a parked GPU. -/
theorem parking_consistent_iff (config : Option PmConfig) (support : Bool) (now : Fin n → UInt64)
    (actions : List (PmAction n)) :
    Along pmStep ParkingConsistent (pmInit config support now) actions ↔
      Admitted pmStep KeepsParking (pmInit config support now) actions := by
  refine Run.along_iff_admitted (I := fun s => ∀ i, Settled (s.gpus i)) (fun s a s' hi hp hstep => ?_)
    (fun s a s' hi _ hstep _ => ?_) (fun _ => .inl rfl) (fun _ => ⟨fun h => (nomatch h), fun _ _ h => (nomatch h)⟩) actions
  · cases hstep
    exact consistent_step_iff hi hp a
  · cases hstep
    exact settled_step hi a

/-- A pass parks the second GPU for its idleness; a request then switches it on, and it stays
marked as parked. -/
theorem parked_and_switched_on :
    ¬ Along pmStep ParkingConsistent (pmInit none false (fun _ : Fin 2 => 0))
      [.tick (.plain 40000000000 fun _ => .plain 40000000000 40 0), .setGpuState 1 .on (.made 41000000000)] := by
  intro h
  exact absurd ((h.final rfl 1).parked rfl) (by decide)

end Mvgal.Power
