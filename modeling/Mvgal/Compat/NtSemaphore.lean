import Mvgal.Compat.NtSync
import Mvgal.Lib.Run
import Mvgal.Lib.Table

/-! NT semaphores between any number of threads (`mvgal_ntsync.c`).

All that a call does to the count it does in the lock of the semaphore, so a run is a
sequence of such sections: releases, waits that return or go to sleep, wake-ups of the
sleepers, and the looks of multi-waits.

The limit is compared with a sum of 32 bits. `count_exact_iff` says that the count is what
the releases and waits make it exactly as long as no release that is accepted wraps it. -/
namespace Mvgal.Compat.Semaphores
open Semaphore
open Function (update)

variable {ι : Type} [DecidableEq ι]

/-- The semaphore, the threads that sleep in a wait, the total of the releases that returned
0 and the number of waits that got a unit. -/
structure System (ι : Type) where
  semaphore : Semaphore
  asleep : ι → Option Timeout
  released : Nat
  consumed : Nat

def System.start (s : Semaphore) : System ι := ⟨s, fun _ => none, 0, 0⟩

inductive Action (ι : Type) where
  | release (t : ι) (releaseCount : UInt32)
  | wait (t : ι) (timeout : Timeout)
  /-- A signal, or no reason. -/
  | wake (t : ι)
  /-- `ETIMEDOUT`. -/
  | expire (t : ι)
  | poll (t : ι)

def System.settle (s : System ι) (t : ι) (timeout : Timeout) : Option WaitResult × Semaphore → System ι
  | (none, semaphore) => {s with semaphore, asleep := update s.asleep t (some timeout)}
  | (some (.object _), semaphore) =>
    {s with semaphore, asleep := update s.asleep t none, consumed := s.consumed + 1}
  | (some _, semaphore) => {s with semaphore, asleep := update s.asleep t none}

def System.step (s : System ι) : Action ι → Option (System ι)
  | .release t releaseCount =>
    if s.asleep t = none then
      let r := s.semaphore.release releaseCount
      some {s with
        semaphore := r.semaphore
        released := s.released + if r.code = 0 then releaseCount.toNat else 0}
    else none
  | .wait t timeout =>
    if s.asleep t = none then some (s.settle t timeout (s.semaphore.wait timeout)) else none
  | .wake t =>
    match s.asleep t with
    | none => none
    | some timeout => some (s.settle t timeout s.semaphore.wake)
  | .expire t =>
    if s.asleep t = some .finite then some (s.settle t .finite (some .timeout, s.semaphore)) else none
  | .poll t =>
    if s.asleep t = none then
      match s.semaphore.poll with
      | none => some s
      | some semaphore => some {s with semaphore, consumed := s.consumed + 1}
    else none

/-- The count is within its limit, and what the calls that succeeded make it. -/
structure Exact (initialCount : UInt32) (s : System ι) : Prop where
  limit : s.semaphore.count ≤ s.semaphore.maxCount
  count : (s.semaphore.count.toNat : Int) = initialCount.toNat + s.released - s.consumed

/-- A release whose sum of 32 bits is under the limit has not wrapped. -/
def StepOk (s : System ι) : Action ι → Prop
  | .release _ releaseCount =>
    releaseCount ≠ 0 → s.semaphore.count + releaseCount ≤ s.semaphore.maxCount →
      s.semaphore.count.toNat + releaseCount.toNat < 2 ^ 32
  | _ => True

section Sections
variable {s : Semaphore}

structure Taken (s s' : Semaphore) : Prop where
  maxCount : s'.maxCount = s.maxCount
  count : s'.count.toNat + 1 = s.count.toNat

theorem taken_sub_one (h : s.count > 0) : Taken s {s with count := s.count - 1} := ⟨rfl, toNat_sub_one h⟩

/-- A wait takes a unit and says so, or does neither. -/
def Fair (s : Semaphore) : Option WaitResult × Semaphore → Prop
  | (some (.object _), s') => Taken s s'
  | (_, s') => s' = s

theorem wait_fair (s : Semaphore) (timeout : Timeout) : Fair s (s.wait timeout) := by
  unfold wait
  split
  · next hpos => exact taken_sub_one hpos
  · split
    · rfl
    · rfl

theorem wake_fair (s : Semaphore) : Fair s s.wake := by
  unfold wake
  split
  · rfl
  · next hne =>
    have hpos : 0 < s.count := UInt32.pos_iff_ne_zero.mpr hne
    rw [if_pos hpos]
    exact taken_sub_one hpos

theorem poll_taken {s' : Semaphore} (h : s.poll = some s') : Taken s s' := by
  unfold poll at h
  split at h
  · next hpos =>
    cases h
    exact taken_sub_one hpos
  · cases h

/-- A release is refused and changes nothing, or adds its count within 32 bits. -/
theorem release_cases (s : Semaphore) (releaseCount : UInt32) :
    ((releaseCount ≠ 0 ∧ s.count + releaseCount ≤ s.maxCount) ∧ (s.release releaseCount).code = 0 ∧
        (s.release releaseCount).semaphore = {s with count := s.count + releaseCount}) ∨
      (¬ (releaseCount ≠ 0 ∧ s.count + releaseCount ≤ s.maxCount) ∧ (s.release releaseCount).code ≠ 0 ∧
        (s.release releaseCount).semaphore = s) := by
  unfold release
  by_cases hzero : releaseCount = 0
  · rw [if_pos hzero]
    exact .inr ⟨fun h => h.1 hzero, Int.neg_ne_zero.mpr Int.one_ne_zero, rfl⟩
  · rw [if_neg hzero]
    by_cases hover : s.count + releaseCount > s.maxCount
    · rw [if_pos hover]
      exact .inr ⟨fun h => absurd hover (UInt32.not_lt.mpr h.2), Int.neg_ne_zero.mpr Int.one_ne_zero, rfl⟩
    · rw [if_neg hover]
      exact .inl ⟨⟨hzero, UInt32.not_lt.mp hover⟩, rfl, rfl⟩

end Sections

section Steps
variable {initialCount : UInt32} {s : System ι}

omit [DecidableEq ι] in
theorem Exact.taken (h : Exact initialCount s) {semaphore : Semaphore} (ht : Taken s.semaphore semaphore)
    (asleep : ι → Option Timeout) : Exact initialCount ⟨semaphore, asleep, s.released, s.consumed + 1⟩ := by
  have hlimit := UInt32.le_iff_toNat_le.mp h.limit
  have hcount := h.count
  have htaken := ht.count
  constructor
  · show semaphore.count ≤ semaphore.maxCount
    rw [UInt32.le_iff_toNat_le, ht.maxCount]
    omega
  · show (semaphore.count.toNat : Int) = initialCount.toNat + s.released - (s.consumed + 1 : Nat)
    omega

variable (h : Exact initialCount s)
include h

theorem Exact.settle (t : ι) (timeout : Timeout)
    {outcome : Option WaitResult × Semaphore} (hfair : Fair s.semaphore outcome) :
    Exact initialCount (s.settle t timeout outcome) := by
  obtain ⟨result, semaphore⟩ := outcome
  cases result with
  | none =>
    cases hfair
    exact ⟨h.limit, h.count⟩
  | some result =>
    cases result with
    | object index => exact h.taken hfair _
    | timeout | abandoned | failed =>
      cases hfair
      exact ⟨h.limit, h.count⟩

omit [DecidableEq ι] in
/-- **A release** that is accepted is right if it has not wrapped. -/
theorem release_exact_iff (releaseCount : UInt32) :
    Exact initialCount {s with
        semaphore := (s.semaphore.release releaseCount).semaphore
        released := s.released + if (s.semaphore.release releaseCount).code = 0 then releaseCount.toNat else 0} ↔
      (releaseCount ≠ 0 → s.semaphore.count + releaseCount ≤ s.semaphore.maxCount →
        s.semaphore.count.toNat + releaseCount.toNat < 2 ^ 32) := by
  obtain ⟨haccepted, hcode, hleft⟩ | ⟨hrefused, hcode, hleft⟩ := release_cases s.semaphore releaseCount
  · rw [if_pos hcode, hleft]
    have hsum : (s.semaphore.count + releaseCount).toNat = (s.semaphore.count.toNat + releaseCount.toNat) % 2 ^ 32 :=
      UInt32.toNat_add ..
    have hcount := h.count
    constructor
    · intro hexact _ _
      have hnew := hexact.count
      dsimp only at hnew
      omega
    · intro hok
      have hlt := hok haccepted.1 haccepted.2
      refine ⟨haccepted.2, ?_⟩
      dsimp only
      omega
  · rw [if_neg hcode, hleft]
    exact iff_of_true ⟨h.limit, h.count⟩ fun hne hle => absurd ⟨hne, hle⟩ hrefused

theorem step_exact_iff (a : Action ι) {s' : System ι} (hs : s.step a = some s') :
    Exact initialCount s' ↔ StepOk s a := by
  cases a with
  | release t releaseCount =>
    rw [← Run.guarded hs |>.2]
    exact release_exact_iff h releaseCount
  | wait t timeout =>
    rw [← Run.guarded hs |>.2]
    exact iff_of_true (h.settle t timeout (wait_fair _ _)) trivial
  | wake t =>
    simp only [System.step] at hs
    split at hs
    · cases hs
    · cases hs
      exact iff_of_true (h.settle t _ (wake_fair _)) trivial
  | expire t =>
    rw [← Run.guarded hs |>.2]
    exact iff_of_true (h.settle t .finite rfl) trivial
  | poll t =>
    simp only [System.step] at hs
    split at hs
    · split at hs
      · cases hs
        exact iff_of_true h trivial
      · next hpoll =>
        cases hs
        exact iff_of_true (h.taken (poll_taken hpoll) _) trivial
    · cases hs

end Steps

/-- **The count is that of the successful calls**, and within its limit, along a run exactly
as long as no accepted release has wrapped. -/
theorem count_exact_iff (initialCount maxCount : UInt32) {semaphore : Semaphore}
    (h : Semaphore.create initialCount maxCount = some semaphore) (actions : List (Action ι)) :
    Run.Along System.step (Exact initialCount) (.start semaphore) actions ↔
      Run.Admitted System.step StepOk (.start semaphore) actions := by
  have hcreated : initialCount ≤ maxCount ∧ semaphore = ⟨initialCount, maxCount⟩ := by
    unfold create at h
    split at h
    · cases h
    · next hlimits =>
      exact ⟨UInt32.not_lt.mp fun hover => hlimits (.inl hover), (Option.some.inj h).symm⟩
  refine Run.along_iff_of_exact (fun s a s' hp hs => step_exact_iff hp a hs) ?_ actions
  rw [hcreated.2]
  exact ⟨hcreated.1, by simp [System.start]⟩

theorem count_exact_of_release : Semaphore.create 1 4 = some ⟨1, 4⟩ ∧
    (Run.Along System.step (Exact 1) (.start ⟨1, 4⟩) [.release true 3, .wait false .zero] ↔
      Run.Admitted System.step StepOk (.start ⟨1, 4⟩) [.release true 3, .wait false .zero]) :=
  ⟨rfl, count_exact_iff 1 4 rfl _⟩

/-- A count of 1 and a release of all but one of 2³² make 0, which is within the limit. -/
theorem release_wraps : ¬ Run.Along System.step (Exact 1) (.start ⟨1, 4⟩) [.release true 0xFFFFFFFF] := by
  intro h
  have hcount := (h.final rfl).count
  revert hcount
  decide

end Mvgal.Compat.Semaphores
