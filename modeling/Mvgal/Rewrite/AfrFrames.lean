import Mvgal.Rewrite.Configure

/-! The frames in flight of alternate-frame rendering (`command_buffer_rewrite.c`).

A completed frame leaves its number behind, so two slots can have one number. The one in flight
is then the first of them (`InOrder`), where completions and queries find it. -/
namespace Mvgal.Rewrite
open List Slots

/-- `mvgal_rewrite_record_afr_submission`; `none` is `MVGAL_ERROR_OUT_OF_RESOURCES`. -/
def recordAfrSubmission (frames : List AfrFrameState) (frameNumber : UInt64) (gpuIndex : UInt32) :
    Option (List AfrFrameState) :=
  if frames.any (·.completed) then some (changeFirst (·.completed) (fun _ => ⟨frameNumber, gpuIndex, false⟩) frames)
  else none

/-- `mvgal_rewrite_complete_afr_frame`; without the frame nothing changes. -/
def completeAfrFrame (frames : List AfrFrameState) (frameNumber : UInt64) : List AfrFrameState :=
  changeFirst (·.frameNumber == frameNumber) ({· with completed := true}) frames

/-- `mvgal_rewrite_get_afr_frame_state`; `none` is `MVGAL_ERROR_NOT_FOUND`. -/
def getAfrFrameState (frames : List AfrFrameState) (frameNumber : UInt64) : Option (UInt32 × Bool) :=
  (frames.find? (·.frameNumber == frameNumber)).map fun e => (e.gpuIndex, e.completed)

inductive FlightCall where
  | record (frameNumber : UInt64) (gpuIndex : UInt32)
  | complete (frameNumber : UInt64)

variable {l l' : List AfrFrameState} {n : UInt64} {g : UInt32}

abbrev Fresh (l : List AfrFrameState) (n : UInt64) : Prop := ∀ e ∈ l, e.completed = false → e.frameNumber ≠ n

/-- A number is not submitted again while its frame is in flight. -/
def flightStep (l : List AfrFrameState) : FlightCall → Option (List AfrFrameState)
  | .record n g => if Fresh l n then some ((recordAfrSubmission l n g).getD l) else none
  | .complete n => some (completeAfrFrame l n)

/-- A query finds the frames in flight and no others, a frame is recorded beside them exactly while
there is room, and a completion takes out its own frame. -/
structure FlightMap (count : Nat) (l : List AfrFrameState) : Prop where
  shown : ∀ n g, getAfrFrameState l n = some (g, false) ↔ ⟨n, g, false⟩ ∈ l
  room : ∀ n g, (recordAfrSubmission l n g).isSome ↔ (l.filter (!·.completed)).length < count
  recorded : ∀ n g l', Fresh l n → recordAfrSubmission l n g = some l' →
    ∀ e, e.completed = false → (e ∈ l' ↔ e = ⟨n, g, false⟩ ∨ e ∈ l)
  completed : ∀ n e, e.completed = false → (e ∈ completeAfrFrame l n ↔ e ∈ l ∧ e.frameNumber ≠ n)

/-- No slot has the number of a frame that is in flight behind it. -/
def InOrder (l : List AfrFrameState) : Prop :=
  l.Pairwise fun a b => b.completed = false → a.frameNumber ≠ b.frameNumber

theorem getAfrFrameState_iff (h : InOrder l) : getAfrFrameState l n = some (g, false) ↔ ⟨n, g, false⟩ ∈ l := by
  unfold getAfrFrameState
  induction l with
  | nil => simp
  | cons x rest ih =>
    obtain ⟨hx, hrest⟩ := pairwise_cons.mp h
    obtain ⟨m, k, c⟩ := x
    by_cases hm : m = n
    · have hbehind : ⟨n, g, false⟩ ∉ rest := fun hmem => hx _ hmem rfl hm
      simp [hm, hbehind, eq_comm]
    · rw [find?_cons_of_neg (by simpa using hm), ih hrest]
      simp [Ne.symm hm]

theorem record_spec (h : InOrder l) (hn : Fresh l n) (hrec : recordAfrSubmission l n g = some l') :
    InOrder l' ∧ ∀ e, e.completed = false → (e ∈ l' ↔ e = ⟨n, g, false⟩ ∨ e ∈ l) := by
  obtain ⟨hany, rfl⟩ := Run.guarded hrec
  clear hrec
  unfold InOrder Fresh at *
  induction l with
  | nil => cases hany
  | cons x rest ih =>
    obtain ⟨hx, hrest⟩ := pairwise_cons.mp h
    rw [changeFirst]
    cases hc : x.completed with
    | true => grind [pairwise_cons]
    | false =>
      have hkept := ih hrest (fun e he => hn e (mem_cons_of_mem _ he)) (by simpa [hc] using hany)
      grind [pairwise_cons]

theorem complete_spec (h : InOrder l) (n : UInt64) : InOrder (completeAfrFrame l n) ∧
    ∀ e, e.completed = false → (e ∈ completeAfrFrame l n ↔ e ∈ l ∧ e.frameNumber ≠ n) := by
  unfold completeAfrFrame InOrder at *
  induction l with
  | nil => simp [changeFirst]
  | cons x rest ih =>
    obtain ⟨hx, hrest⟩ := pairwise_cons.mp h
    rw [changeFirst]
    grind [pairwise_cons]

theorem flightStep_kept {a : FlightCall} (h : InOrder l) (hs : flightStep l a = some l') :
    InOrder l' ∧ l'.length = l.length := by
  cases a with
  | record n g =>
    obtain ⟨hn, rfl⟩ := Run.guarded hs
    cases hrec : recordAfrSubmission l n g with
    | none => exact ⟨h, rfl⟩
    | some l' =>
      have hkept := (record_spec h hn hrec).1
      obtain ⟨-, rfl⟩ := Run.guarded hrec
      exact ⟨hkept, length_changeFirst ..⟩
  | complete n =>
    cases hs
    exact ⟨(complete_spec h n).1, length_changeFirst ..⟩

/-- **The frames in flight.** After every sequence of submissions and completions the slots are a
map from the frames in flight to their GPUs, with room for as many frames as were configured. -/
theorem frames_in_flight (count : Nat) (gpuCount : UInt32) (calls : List FlightCall) :
    Run.Along flightStep (FlightMap count)
      ((List.range count).map fun i => ⟨0, UInt32.ofNat i % gpuCount, true⟩) calls := by
  refine (Run.along_of_preserved (P := fun l => InOrder l ∧ l.length = count) (fun l a l' hi hs => ?_)
    ⟨pairwise_map.mpr (pairwise_of_forall nofun), by simp⟩ calls).mono fun l hi => ?_
  · exact (flightStep_kept hi.1 hs).imp_right (·.trans hi.2)
  · refine ⟨fun n g => getAfrFrameState_iff hi.1, fun n g => ?_,
      fun n g l' hn hrec => (record_spec hi.1 hn hrec).2, fun n => (complete_spec hi.1 n).2⟩
    rw [← hi.2, length_filter_lt_length_iff_exists]
    simp [recordAfrSubmission]

end Mvgal.Rewrite
