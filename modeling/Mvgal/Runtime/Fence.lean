import Mvgal.Lib.Run
import Mvgal.Lib.Table

/-! Fences and timelines of the Rust runtime (`fence_manager.rs`).

A fence is a flag under a mutex. `GpuTimeline::create_fence` gives a new fence the next
number of the timeline, keeps a copy and returns the original. `GpuTimeline::signal`
stores a value, whatever it is, and no fence hears of it. Any number of threads run
these two calls, and one can stop after each access to what they share.

`timeline_semaphore_iff` says when the result is a timeline semaphore: as long as the
values do not go down, and stay below the number of every fence there is. -/
namespace Mvgal.Runtime
open List
open Function (update)
open Table (update_some update_none)

inductive FenceState where
  | unsignaled
  | signaled
deriving DecidableEq, Repr

/-- `CrossDeviceFence`; `signalTime` in nanoseconds. -/
structure CrossDeviceFence where
  id : UInt64
  state : FenceState
  timelineValue : UInt64
  signalTime : Option Nat
  isTimeline : Bool
deriving DecidableEq

namespace CrossDeviceFence

def new : CrossDeviceFence := ⟨0, .unsignaled, 0, none, false⟩

def withId (id : UInt64) : CrossDeviceFence := {new with id := id}

def signal (now : Nat) (f : CrossDeviceFence) : CrossDeviceFence :=
  if f.state = .unsignaled then {f with state := .signaled, signalTime := some now} else f

def isSignaled (f : CrossDeviceFence) : Bool := f.state = .signaled

def reset (f : CrossDeviceFence) : CrossDeviceFence := {f with state := .unsignaled, signalTime := none}

theorem isSignaled_withId (id : UInt64) : (withId id).isSignaled = false := by
  simp [withId, new, isSignaled]

theorem isSignaled_signal (now : Nat) (f : CrossDeviceFence) : (f.signal now).isSignaled = true := by
  unfold signal
  split
  · rfl
  · rename_i h
    cases hs : f.state with
    | unsignaled => exact absurd hs h
    | signaled => simp [isSignaled, hs]

theorem isSignaled_reset (f : CrossDeviceFence) : f.reset.isSignaled = false := rfl

end CrossDeviceFence

structure GpuTimeline where
  currentValue : UInt64
  nextValue : UInt64
  fences : List CrossDeviceFence
  maxFences : Nat

namespace GpuTimeline

def new : GpuTimeline := ⟨0, 1, [], 1024⟩

/-- `GpuTimeline::next_value`. -/
def takeNext (g : GpuTimeline) : UInt64 × GpuTimeline := (g.nextValue, {g with nextValue := g.nextValue + 1})

/-- `GpuTimeline::create_fence`, under the lock of the list: the copy goes in, and the
oldest out if there are too many. -/
def keep (g : GpuTimeline) (fence : CrossDeviceFence) : GpuTimeline :=
  {g with fences := (if g.maxFences ≤ g.fences.length then g.fences.drop 1 else g.fences) ++ [fence]}

/-- `GpuTimeline::signal`, under the lock of the value. -/
def store (g : GpuTimeline) (value : UInt64) : GpuTimeline := {g with currentValue := value}

end GpuTimeline

namespace Timeline

/-- A timeline and its threads: who has created a fence and not kept the copy yet, and who
holds the lock of the value. The fences created and the values signalled so far are
listed in their order. -/
structure World (ι : Type) where
  timeline : GpuTimeline
  creating : ι → Option CrossDeviceFence
  storing : Option ι
  created : List CrossDeviceFence
  signalled : List UInt64

variable {ι : Type}

def World.initial : World ι := ⟨.new, fun _ => none, none, [], []⟩

/-- `number` and `keep` are the two steps of `create_fence`, `store` and `bump` those of
`signal`. -/
inductive Action (ι : Type) where
  | number (t : ι)
  | keep (t : ι)
  | store (t : ι) (value : UInt64)
  | bump (t : ι)

def step [DecidableEq ι] (w : World ι) : Action ι → Option (World ι)
  | .number t =>
    if w.creating t = none ∧ w.storing ≠ some t then
      let r := w.timeline.takeNext
      let fence := CrossDeviceFence.withId r.1
      some {w with
        timeline := r.2
        creating := update w.creating t (some fence)
        created := w.created ++ [fence]}
    else none
  | .keep t =>
    (w.creating t).map fun fence =>
      {w with timeline := w.timeline.keep fence, creating := update w.creating t none}
  | .store t value =>
    if w.creating t = none ∧ w.storing = none then
      some {w with
        timeline := w.timeline.store value
        storing := some t
        signalled := w.signalled ++ [value]}
    else none
  | .bump t =>
    if w.storing = some t then some {w with timeline := w.timeline.takeNext.2, storing := none} else none

/-- A timeline semaphore: its value is the greatest signalled, the fences are numbered
upwards, and a fence reports what the value says of its number. -/
structure Semaphore (w : World ι) : Prop where
  greatest : ∀ v ∈ w.signalled, v ≤ w.timeline.currentValue
  attained : w.timeline.currentValue ∈ 0 :: w.signalled
  increasing : w.created.Pairwise fun f g => f.id < g.id
  reports : ∀ f ∈ w.created, f.isSignaled = true ↔ f.id ≤ w.timeline.currentValue
  copies : ∀ f ∈ w.timeline.fences, f.isSignaled = true ↔ f.id ≤ w.timeline.currentValue

/-- A value is not below the last and below every fence; a fence gets a number above the
value and above every other fence. -/
def StepOk (w : World ι) : Action ι → Prop
  | .number _ => w.timeline.currentValue < w.timeline.nextValue ∧ ∀ f ∈ w.created, f.id < w.timeline.nextValue
  | .store _ value => w.timeline.currentValue ≤ value ∧ ∀ f ∈ w.created, value < f.id
  | _ => True

/-- No fence is ever signalled, and the copies are of fences that were created. -/
structure Silent (w : World ι) : Prop where
  unsignaled : ∀ f ∈ w.created, f.isSignaled = false
  copies : ∀ f ∈ w.timeline.fences, f ∈ w.created
  creating : ∀ t f, w.creating t = some f → f ∈ w.created

variable {w : World ι}

theorem mem_keep {g : GpuTimeline} {fence f : CrossDeviceFence} (h : f ∈ (g.keep fence).fences) :
    f ∈ g.fences ∨ f = fence := by
  obtain h | h := mem_append.mp h
  · split at h
    · exact .inl (mem_of_mem_drop h)
    · exact .inl h
  · exact .inr (mem_singleton.mp h)

/-- A fence that is not signalled reports rightly while its number is above the value. -/
theorem reports_iff {f : CrossDeviceFence} (hf : f.isSignaled = false) (value : UInt64) :
    (f.isSignaled = true ↔ f.id ≤ value) ↔ value < f.id := by
  rw [hf, ← UInt64.not_le]
  simp

section Steps
variable [DecidableEq ι] {w' : World ι}

theorem silent_step {a : Action ι} (h : Silent w) (hstep : step w a = some w') : Silent w' := by
  cases a with
  | number t =>
    obtain ⟨-, rfl⟩ := Run.guarded hstep
    refine ⟨fun f hf => ?_, fun f hf => mem_append_left _ (h.copies f hf), fun u f hf => ?_⟩
    · obtain hf | hf := mem_append.mp hf
      · exact h.unsignaled f hf
      · rw [mem_singleton.mp hf]
        exact CrossDeviceFence.isSignaled_withId _
    · obtain ⟨-, rfl⟩ | ⟨-, hf⟩ := update_some hf
      · exact mem_append_right _ (mem_singleton_self _)
      · exact mem_append_left _ (h.creating u f hf)
  | keep t =>
    obtain ⟨fence, hfence, rfl⟩ := Option.map_eq_some_iff.mp hstep
    refine ⟨h.unsignaled, fun f hf => ?_, fun u f hf => h.creating u f (update_none hf).2⟩
    obtain hf | rfl := mem_keep hf
    · exact h.copies f hf
    · exact h.creating t f hfence
  | store t value | bump t =>
    obtain ⟨-, rfl⟩ := Run.guarded hstep
    exact ⟨h.unsignaled, h.copies, h.creating⟩

end Steps

/-- The fences created so far agree with a value exactly if it is below all of them. -/
theorem reports_created_iff (h : Silent w) (value : UInt64) :
    (∀ f ∈ w.created, f.isSignaled = true ↔ f.id ≤ value) ↔ ∀ f ∈ w.created, value < f.id :=
  forall₂_congr fun f hf => reports_iff (h.unsignaled f hf) value

theorem semaphore_number_iff (h : Semaphore w) (creating : ι → Option CrossDeviceFence) :
    Semaphore {w with
        timeline := w.timeline.takeNext.2
        creating := creating
        created := w.created ++ [CrossDeviceFence.withId w.timeline.takeNext.1]} ↔
      w.timeline.currentValue < w.timeline.nextValue ∧ ∀ f ∈ w.created, f.id < w.timeline.nextValue := by
  have hnew := reports_iff (CrossDeviceFence.isSignaled_withId w.timeline.nextValue) w.timeline.currentValue
  constructor
  · intro h'
    obtain ⟨-, -, hlt⟩ := pairwise_append.mp h'.increasing
    refine ⟨hnew.mp (h'.reports _ (mem_append_right _ (mem_singleton_self _))), fun f hf => ?_⟩
    exact hlt f hf _ (mem_singleton_self _)
  · rintro ⟨habove, hlt⟩
    refine ⟨h.greatest, h.attained, ?_, fun f hf => ?_, h.copies⟩
    · refine pairwise_append.mpr ⟨h.increasing, pairwise_singleton _ _, fun f hf g hg => ?_⟩
      rw [mem_singleton.mp hg]
      exact hlt f hf
    · obtain hf | hf := mem_append.mp hf
      · exact h.reports f hf
      · rw [mem_singleton.mp hf]
        exact hnew.mpr habove

theorem semaphore_store_iff (hs : Silent w) (h : Semaphore w) (storing : Option ι) (value : UInt64) :
    Semaphore {w with
        timeline := w.timeline.store value
        storing := storing
        signalled := w.signalled ++ [value]} ↔
      w.timeline.currentValue ≤ value ∧ ∀ f ∈ w.created, value < f.id := by
  constructor
  · intro h'
    refine ⟨?_, (reports_created_iff hs value).mp h'.reports⟩
    obtain hzero | hmem := mem_cons.mp h.attained
    · rw [hzero]
      exact UInt64.zero_le
    · exact h'.greatest _ (mem_append_left _ hmem)
  · rintro ⟨hle, hlt⟩
    refine ⟨fun v hv => ?_, ?_, h.increasing, (reports_created_iff hs value).mpr hlt, fun f hf => ?_⟩
    · obtain hv | hv := mem_append.mp hv
      · exact UInt64.le_trans (h.greatest v hv) hle
      · rw [mem_singleton.mp hv]
        exact UInt64.le_refl _
    · exact mem_cons_of_mem _ (mem_append_right _ (mem_singleton_self _))
    · have hmem := hs.copies f hf
      exact (reports_iff (hs.unsignaled f hmem) value).mpr (hlt f hmem)

theorem semaphore_step_iff [DecidableEq ι] {w' : World ι} {a : Action ι} (hs : Silent w) (h : Semaphore w)
    (hstep : step w a = some w') : Semaphore w' ↔ StepOk w a := by
  cases a with
  | number t =>
    obtain ⟨-, rfl⟩ := Run.guarded hstep
    exact semaphore_number_iff h _
  | keep t =>
    obtain ⟨fence, hfence, rfl⟩ := Option.map_eq_some_iff.mp hstep
    refine iff_of_true ⟨h.greatest, h.attained, h.increasing, h.reports, fun f hf => ?_⟩ trivial
    obtain hf | rfl := mem_keep hf
    · exact h.copies f hf
    · exact h.reports f (hs.creating t f hfence)
  | store t value =>
    obtain ⟨-, rfl⟩ := Run.guarded hstep
    exact semaphore_store_iff hs h _ value
  | bump t =>
    obtain ⟨-, rfl⟩ := Run.guarded hstep
    exact iff_of_true ⟨h.greatest, h.attained, h.increasing, h.reports, h.copies⟩ trivial

/-- **Timeline semaphores.** Along any interleaving of `create_fence` and `signal` calls
of any threads, a timeline behaves as a timeline semaphore exactly when no value is
signalled that is below the last or reaches a fence, and no fence is numbered at or
below the value or out of order. -/
theorem timeline_semaphore_iff [DecidableEq ι] (actions : List (Action ι)) :
    Run.Along step Semaphore .initial actions ↔ Run.Admitted step StepOk .initial actions := by
  refine Run.along_iff_admitted (I := Silent) (fun w a w' hs h hstep => semaphore_step_iff hs h hstep)
    (fun w a w' hs _ hstep _ => silent_step hs hstep) ?_ ?_ actions
  · exact ⟨fun f hf => absurd hf (by simp [World.initial]), fun f hf => absurd hf (by simp [World.initial, GpuTimeline.new]),
      fun t f hf => absurd hf (by simp [World.initial])⟩
  · exact ⟨fun v hv => absurd hv (by simp [World.initial]), by simp [World.initial, GpuTimeline.new], .nil,
      fun f hf => absurd hf (by simp [World.initial]), fun f hf => absurd hf (by simp [World.initial, GpuTimeline.new])⟩

/-- The fence with number 1 stays unsignalled when 1 is signalled; and a value goes down
from 5 to 3. -/
theorem signal_reaches_no_fence :
    ¬ Run.Along step Semaphore (.initial : World Unit) [.number (), .keep (), .store () 1, .bump ()] ∧
    ¬ Run.Along step Semaphore (.initial : World Unit) [.store () 5, .bump (), .store () 3, .bump ()] := by
  refine ⟨fun h => ?_, fun h => ?_⟩
  · exact absurd ((h.final rfl).reports (.withId 1) (by decide)) (by decide)
  · exact absurd ((h.final rfl).greatest 5 (by decide)) (by decide)

end Timeline
end Mvgal.Runtime
