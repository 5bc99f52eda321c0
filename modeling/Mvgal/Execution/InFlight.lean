import Mathlib.Data.UInt
import Mvgal.Execution.Frames

/-! Frames in flight.

The history says which frames are open, begun and not yet presented, and what was submitted
to each of them (`openFrames`). `Kept` says that the table still has them all: each under a
number of its own, found by it, with its context and its counters.

A new frame keeps the others exactly if a slot is free or holds a presented frame (`Room`),
and its number, which comes round again after 2^64 frames, is not the null number nor that
of an open frame or of one that the search meets first (`FreshNumber`). The code asks for
neither. Over whole runs: `frames_kept_iff`. -/
namespace Mvgal.Execution
open List Function
open Run (Along Admitted run)

/-- An open frame, as the calls made so far describe it. -/
structure OpenFrame where
  id : UInt64
  context : Nat
  submits : Nat
  bytes : Nat
deriving DecidableEq

def OpenFrame.add (id bytes : UInt64) (f : OpenFrame) : OpenFrame :=
  if f.id = id then {f with submits := f.submits + 1, bytes := f.bytes + bytes.toNat} else f

def track (frames : List OpenFrame) : Event → List OpenFrame
  | .begun id context => ⟨id, context, 0, 0⟩ :: frames
  | .submitted id bytes => frames.map (OpenFrame.add id bytes)
  | .presented id => frames.filter fun f => f.id ≠ id

def openFrames (history : List Event) : List OpenFrame := history.foldl track []

/-- The slot has what was submitted to the frame, as far as its counters go. -/
structure Holds (frame : Frame) (f : OpenFrame) : Prop where
  active : frame.active = true
  context : frame.context = f.context
  submits : frame.submitCount = UInt32.ofNat f.submits
  bytes : frame.bytesScheduled = UInt64.ofNat f.bytes

/-- Every open frame has a number of its own, one that a call can name, and is found by it. -/
structure Kept (s : State) : Prop where
  distinct : ((openFrames s.history).map OpenFrame.id).Nodup
  found : ∀ f ∈ openFrames s.history, f.id ≠ 0 ∧ ∃ i, findFrameState s f.id = some i ∧ Holds (s.frames i) f

/-- The next number names no open frame, and no frame that the search would meet first. -/
def FreshNumber (s : State) : Prop :=
  s.nextFrameId ≠ 0 ∧ ∀ i, i ≠ allocateFrameState s → (s.frames i).named s.nextFrameId = true →
    (s.frames i).active = false ∧ allocateFrameState s < i

/-- A call that begins a frame has room for it and a fresh number. -/
def BeginOk (s : State) (call : Env × Call) : Prop :=
  Begins call.1 call.2 → Room s.ready ∧ FreshNumber s.ready

/-- The live slots are those of the open frames. -/
structure Tracked (s : State) : Prop where
  opened : ∀ i, (s.frames i).live = true → ∃ f ∈ openFrames s.history, f.id = (s.frames i).frameId
  unique : ∀ i j, (s.frames i).live = true → (s.frames j).live = true →
    (s.frames i).frameId = (s.frames j).frameId → i = j
  idle : s.initialized = false → openFrames s.history = []

variable {s : State} {env : Env} {id : UInt64} {i j : Slot} {f : OpenFrame}

theorem openFrames_append (history : List Event) (e : Event) :
    openFrames (history ++ [e]) = track (openFrames history) e := by
  simp [openFrames]

@[simp] theorem OpenFrame.add_id (id bytes : UInt64) (f : OpenFrame) : (f.add id bytes).id = f.id := by
  unfold OpenFrame.add
  split
  · rfl
  · rfl

/-- The slot that is found for an open frame is live and has its number. -/
theorem Holds.live (h : Holds (s.frames i) f) (hfind : findFrameState s f.id = some i) :
    (s.frames i).live = true ∧ (s.frames i).frameId = f.id := by
  obtain ⟨huse, hid⟩ := named_iff.mp (find_some_iff.mp hfind).1
  exact ⟨live_iff.mpr ⟨huse, h.active⟩, hid⟩

theorem find_id (hfind : findFrameState s id = some i) : (s.frames i).frameId = id :=
  (named_iff.mp (find_some_iff.mp hfind).1).2

theorem holds_count_iff {frame : Frame} {plan : Plan} :
    Holds (frame.count plan) (f.add f.id plan.estimatedBytes) ↔ Holds frame f := by
  have hadd : f.add f.id plan.estimatedBytes =
      {f with submits := f.submits + 1, bytes := f.bytes + plan.estimatedBytes.toNat} := if_pos rfl
  rw [hadd]
  constructor
  · intro h
    refine ⟨h.active, h.context, ?_, ?_⟩
    · have hsubmits : frame.submitCount + 1 = UInt32.ofNat (f.submits + 1) := h.submits
      rw [UInt32.ofNat_add] at hsubmits
      exact add_right_cancel hsubmits
    · have hbytes : frame.bytesScheduled + plan.estimatedBytes =
          UInt64.ofNat (f.bytes + plan.estimatedBytes.toNat) := h.bytes
      rw [UInt64.ofNat_add, UInt64.ofNat_toNat] at hbytes
      exact add_right_cancel hbytes
  · intro h
    refine ⟨h.active, h.context, ?_, ?_⟩
    · show frame.submitCount + 1 = UInt32.ofNat (f.submits + 1)
      rw [h.submits, UInt32.ofNat_add]
      rfl
    · show frame.bytesScheduled + plan.estimatedBytes = UInt64.ofNat (f.bytes + plan.estimatedBytes.toNat)
      rw [h.bytes, UInt64.ofNat_add, UInt64.ofNat_toNat]

variable {k : Slot}

section
variable (hfind : findFrameState s id = some k)
include hfind

theorem count_holds_iff (api : Api) (plan : Plan)
    (hf : findFrameState s f.id = some i) :
    Holds ((s.count id api plan).frames i) (f.add id plan.estimatedBytes) ↔ Holds (s.frames i) f := by
  rw [count_frames hfind]
  by_cases hid : f.id = id
  · subst hid
    cases hfind.symm.trans hf
    rw [update_self]
    exact holds_count_iff
  · have hi : i ≠ k := by
      rintro rfl
      exact hid ((find_id hf).symm.trans (find_id hfind))
    have hadd : f.add id plan.estimatedBytes = f := if_neg hid
    rw [update_of_ne hi, hadd]

theorem kept_count_iff (api : Api) (plan : Plan) :
    Kept (s.count id api plan) ↔ Kept s := by
  have hopen : openFrames (s.count id api plan).history =
      (openFrames s.history).map (OpenFrame.add id plan.estimatedBytes) := openFrames_append ..
  have hids : (openFrames (s.count id api plan).history).map OpenFrame.id =
      (openFrames s.history).map OpenFrame.id := by
    rw [hopen, map_map]
    exact map_congr_left fun f _ => OpenFrame.add_id ..
  constructor
  · intro h
    refine ⟨hids ▸ h.distinct, fun f hf => ?_⟩
    have hadd : f.add id plan.estimatedBytes ∈ openFrames (s.count id api plan).history := by
      rw [hopen]
      exact mem_map_of_mem hf
    obtain ⟨hne, i, hi, hholds⟩ := h.found _ hadd
    rw [find_count hfind, OpenFrame.add_id] at hi
    exact ⟨by rwa [OpenFrame.add_id] at hne, i, hi, (count_holds_iff hfind api plan hi).mp hholds⟩
  · intro h
    refine ⟨hids ▸ h.distinct, fun f' hf' => ?_⟩
    rw [hopen] at hf'
    obtain ⟨f, hf, rfl⟩ := mem_map.mp hf'
    obtain ⟨hne, i, hi, hholds⟩ := h.found f hf
    rw [OpenFrame.add_id, find_count hfind]
    exact ⟨hne, i, hi, (count_holds_iff hfind api plan hi).mpr hholds⟩

theorem tracked_count (api : Api) (plan : Plan)
    (h : Tracked s) : Tracked (s.count id api plan) := by
  have hopen : openFrames (s.count id api plan).history =
      (openFrames s.history).map (OpenFrame.add id plan.estimatedBytes) := openFrames_append ..
  have hid (i : Slot) : ((s.count id api plan).frames i).frameId = (s.frames i).frameId := by
    rw [count_frames hfind]
    refine Table.view_update Frame.frameId ?_ i
    rfl
  refine ⟨fun i hlive => ?_, fun i j hi hj hij => ?_, fun hidle => ?_⟩
  · rw [count_live hfind] at hlive
    obtain ⟨f, hf, hfid⟩ := h.opened i hlive
    refine ⟨f.add id plan.estimatedBytes, ?_, ?_⟩
    · rw [hopen]
      exact mem_map_of_mem hf
    · rw [OpenFrame.add_id, hid, hfid]
  · rw [count_live hfind] at hi hj
    rw [hid, hid] at hij
    exact h.unique i j hi hj hij
  · rw [hopen, h.idle hidle]
    rfl

end

theorem openFrames_finish (s : State) (env : Env) (i : Slot) (id : UInt64) (plan : Plan) :
    openFrames (s.finish env i id plan).history = (openFrames s.history).filter fun f => f.id ≠ id :=
  openFrames_append ..

theorem finish_frames_of_ne (env : Env) (id : UInt64) (plan : Plan) (h : j ≠ i) :
    (s.finish env i id plan).frames j = s.frames j :=
  update_of_ne h ..

theorem kept_finish (hfind : findFrameState s id = some i) (env : Env) (plan : Plan) (h : Kept s) :
    Kept (s.finish env i id plan) := by
  refine ⟨?_, fun f hf => ?_⟩
  · rw [openFrames_finish]
    exact h.distinct.sublist (filter_sublist.map _)
  · rw [openFrames_finish, mem_filter] at hf
    obtain ⟨hmem, hid⟩ := hf
    have hid : f.id ≠ id := by simpa using hid
    obtain ⟨hne, j, hj, hholds⟩ := h.found f hmem
    have hji : j ≠ i := by
      rintro rfl
      exact hid ((find_id hj).symm.trans (find_id hfind))
    refine ⟨hne, j, ?_, ?_⟩
    · rw [find_finish]
      exact hj
    · rw [finish_frames_of_ne env id plan hji]
      exact hholds

theorem finish_live (s : State) (env : Env) (i : Slot) (id : UInt64) (plan : Plan)
    (h : ((s.finish env i id plan).frames j).live = true) : j ≠ i ∧ (s.frames j).live = true := by
  have hji : j ≠ i := by
    rintro rfl
    have hself : (s.finish env j id plan).frames j = (s.frames j).finish env plan := update_self ..
    rw [hself] at h
    simp [Frame.live, Frame.finish] at h
  rw [finish_frames_of_ne env id plan hji] at h
  exact ⟨hji, h⟩

theorem tracked_finish (hfind : findFrameState s id = some i) (env : Env) (plan : Plan) (hk : Kept s)
    (h : Tracked s) : Tracked (s.finish env i id plan) := by
  refine ⟨fun j hlive => ?_, fun j k hj hk' hjk => ?_, fun hidle => ?_⟩
  · obtain ⟨hji, hlive⟩ := finish_live s env i id plan hlive
    obtain ⟨f, hf, hfid⟩ := h.opened j hlive
    rw [finish_frames_of_ne env id plan hji, openFrames_finish]
    refine ⟨f, mem_filter.mpr ⟨hf, ?_⟩, hfid⟩
    -- an open frame of this number is the one presented, and no other slot is live with it
    by_contra hid
    obtain ⟨hne, k, hk, hholds⟩ := hk.found f hf
    obtain ⟨hklive, hkid⟩ := hholds.live hk
    have hid : f.id = id := by simpa using hid
    rw [hid, hfind] at hk
    cases hk
    exact hji (h.unique j i hlive hklive (hfid.symm.trans hkid.symm))
  · obtain ⟨hji, hj⟩ := finish_live s env i id plan hj
    obtain ⟨hki, hk'⟩ := finish_live s env i id plan hk'
    rw [finish_frames_of_ne env id plan hji, finish_frames_of_ne env id plan hki] at hjk
    exact h.unique j k hj hk' hjk
  · rw [openFrames_finish, h.idle hidle]
    rfl

section Begin
variable (s env) (context : Nat) (info : BeginInfo)

theorem openFrames_begin : openFrames (s.begin env context info).history =
    ⟨s.nextFrameId, context, 0, 0⟩ :: openFrames s.history :=
  openFrames_append ..

theorem begin_frames_self : (s.begin env context info).frames (allocateFrameState s) =
    newFrame env context info s.nextFrameId :=
  update_self ..

theorem begin_frames_of_ne {s : State} (h : i ≠ allocateFrameState s) :
    (s.begin env context info).frames i = s.frames i :=
  update_of_ne h ..

variable {s env} {context info}

/-- A live slot after a frame was begun is the new one or was live before. -/
theorem begin_live (h : ((s.begin env context info).frames i).live = true) :
    i = allocateFrameState s ∧ ((s.begin env context info).frames i).frameId = s.nextFrameId ∨
      i ≠ allocateFrameState s ∧ (s.begin env context info).frames i = s.frames i ∧ (s.frames i).live = true := by
  by_cases hi : i = allocateFrameState s
  · subst hi
    rw [begin_frames_self]
    exact .inl ⟨rfl, rfl⟩
  · rw [begin_frames_of_ne env context info hi] at h ⊢
    exact .inr ⟨hi, rfl, h⟩

theorem find_begin (hfresh : FreshNumber s) :
    findFrameState (s.begin env context info) s.nextFrameId = some (allocateFrameState s) := by
  refine find_some_iff.mpr ⟨?_, fun j hj => ?_⟩
  · rw [begin_frames_self]
    exact named_iff.mpr ⟨rfl, rfl⟩
  · have hne : j ≠ allocateFrameState s := Fin.ne_of_lt hj
    rw [begin_frames_of_ne env context info hne]
    by_contra hnamed
    have hafter := (hfresh.2 j hne (Bool.eq_true_of_not_eq_false hnamed)).2
    exact absurd (hafter.trans hj) (lt_irrefl _)

theorem find_begin_of_ne (hid : id ≠ s.nextFrameId) (hi : i ≠ allocateFrameState s)
    (hfind : findFrameState s id = some i) : findFrameState (s.begin env context info) id = some i := by
  obtain ⟨hnamed, hfirst⟩ := find_some_iff.mp hfind
  refine find_some_iff.mpr ⟨?_, fun j hj => ?_⟩
  · rw [begin_frames_of_ne env context info hi]
    exact hnamed
  · by_cases hja : j = allocateFrameState s
    · subst hja
      rw [begin_frames_self]
      by_contra hnew
      exact hid (named_iff.mp (Bool.eq_true_of_not_eq_false hnew)).2.symm
    · rw [begin_frames_of_ne env context info hja]
      exact hfirst j hj

theorem holds_new (context : Nat) (info : BeginInfo) (id : UInt64) :
    Holds (newFrame env context info id) ⟨id, context, 0, 0⟩ :=
  ⟨rfl, rfl, rfl, rfl⟩

/-- No open frame has a fresh number, if only slots that are not live are given away. -/
theorem FreshNumber.not_open (hfresh : FreshNumber s) (hroom : Room s) (hk : Kept s)
    (hf : f ∈ openFrames s.history) : f.id ≠ s.nextFrameId := by
  intro hid
  obtain ⟨-, i, hi, hholds⟩ := hk.found f hf
  obtain ⟨hlive, -⟩ := hholds.live hi
  have hne : i ≠ allocateFrameState s := by
    rintro rfl
    rw [allocate_live hroom] at hlive
    exact nomatch hlive
  have hactive := (hfresh.2 i hne (hid ▸ (find_some_iff.mp hi).1)).1
  rw [hholds.active] at hactive
  exact nomatch hactive

theorem kept_begin (hroom : Room s) (hfresh : FreshNumber s) (hk : Kept s) :
    Kept (s.begin env context info) := by
  refine ⟨?_, fun f hf => ?_⟩
  · rw [openFrames_begin, map_cons, nodup_cons]
    refine ⟨fun hmem => ?_, hk.distinct⟩
    obtain ⟨f, hf, hid⟩ := mem_map.mp hmem
    exact hfresh.not_open hroom hk hf hid
  · rw [openFrames_begin, mem_cons] at hf
    obtain rfl | hf := hf
    · refine ⟨hfresh.1, allocateFrameState s, find_begin hfresh, ?_⟩
      rw [begin_frames_self]
      exact holds_new context info s.nextFrameId
    · obtain ⟨hne, i, hi, hholds⟩ := hk.found f hf
      have hia : i ≠ allocateFrameState s := by
        rintro rfl
        have hlive := (hholds.live hi).1
        rw [allocate_live hroom] at hlive
        exact nomatch hlive
      refine ⟨hne, i, find_begin_of_ne (hfresh.not_open hroom hk hf) hia hi, ?_⟩
      rw [begin_frames_of_ne env context info hia]
      exact hholds

/-- After a frame was begun that the table keeps, the open frames have other numbers. -/
theorem Kept.new_ne (hk : Kept (s.begin env context info)) (hf : f ∈ openFrames s.history) :
    f.id ≠ s.nextFrameId := by
  intro hid
  have hdistinct := hk.distinct
  rw [openFrames_begin, map_cons, nodup_cons] at hdistinct
  exact hdistinct.1 (mem_map.mpr ⟨f, hf, hid⟩)

theorem freshNumber_of_kept (ht : Tracked s) (hk : Kept (s.begin env context info)) : FreshNumber s := by
  have hother (i : Slot) (hi : i ≠ allocateFrameState s) (hnamed : (s.frames i).named s.nextFrameId = true) :
      (s.frames i).active = false := by
    by_contra hactive
    have hnamed := named_iff.mp hnamed
    obtain ⟨f, hf, hfid⟩ := ht.opened i (live_iff.mpr ⟨hnamed.1, Bool.eq_true_of_not_eq_false hactive⟩)
    exact hk.new_ne hf (hfid.trans hnamed.2)
  have hmem : (⟨s.nextFrameId, context, 0, 0⟩ : OpenFrame) ∈ openFrames (s.begin env context info).history := by
    rw [openFrames_begin]
    exact mem_cons_self
  obtain ⟨hne, k, hfind, hholds⟩ := hk.found _ hmem
  obtain ⟨hnamed, hfirst⟩ := find_some_iff.mp hfind
  have hk : k = allocateFrameState s := by
    by_contra hk
    rw [begin_frames_of_ne env context info hk] at hnamed hholds
    have := hother k hk hnamed
    rw [hholds.active] at this
    exact nomatch this
  refine ⟨hne, fun i hi hin => ⟨hother i hi hin, ?_⟩⟩
  obtain hlt | heq | hgt := lt_trichotomy i (allocateFrameState s)
  · have := hfirst i (hk ▸ hlt)
    rw [begin_frames_of_ne env context info hi, hin] at this
    exact nomatch this
  · exact absurd heq hi
  · exact hgt

/-- With no room the new frame takes the slot of an open one, which is then not found. -/
theorem room_of_kept (ht : Tracked s) (hk : Kept (s.begin env context info)) : Room s := by
  by_contra hroom
  have hlive : (s.frames (allocateFrameState s)).live = true := not_room hroom _
  obtain ⟨f, hf, hfid⟩ := ht.opened _ hlive
  have hmem : f ∈ openFrames (s.begin env context info).history := by
    rw [openFrames_begin]
    exact mem_cons_of_mem _ hf
  obtain ⟨-, j, hj, hholds⟩ := hk.found f hmem
  obtain ⟨hjlive, hjid⟩ := hholds.live hj
  obtain ⟨-, hnew⟩ | ⟨hja, hframe, hjlive⟩ := begin_live hjlive
  · exact hk.new_ne hf (hjid.symm.trans hnew)
  · rw [hframe, hfid] at hjid
    exact hja (ht.unique j _ hjlive hlive hjid)

theorem tracked_begin (hfresh : FreshNumber s) (h : Tracked s) (hinit : s.initialized = true) :
    Tracked (s.begin env context info) := by
  have hnew (i : Slot) (hi : i ≠ allocateFrameState s) (hlive : (s.frames i).live = true) :
      (s.frames i).frameId ≠ s.nextFrameId := by
    intro hid
    obtain ⟨huse, hactive⟩ := live_iff.mp hlive
    have := (hfresh.2 i hi (named_iff.mpr ⟨huse, hid⟩)).1
    rw [hactive] at this
    exact nomatch this
  refine ⟨fun i hlive => ?_, fun i j hi hj hij => ?_, fun hidle => ?_⟩
  · rw [openFrames_begin]
    obtain ⟨rfl, hid⟩ | ⟨-, hframe, hlive⟩ := begin_live hlive
    · exact ⟨_, mem_cons_self, hid.symm⟩
    · obtain ⟨f, hf, hfid⟩ := h.opened i hlive
      rw [hframe]
      exact ⟨f, mem_cons_of_mem _ hf, hfid⟩
  · obtain ⟨rfl, hid⟩ | ⟨hia, hframe, hi⟩ := begin_live hi
    · obtain ⟨rfl, -⟩ | ⟨hja, hframe', hj⟩ := begin_live hj
      · rfl
      · rw [hid, hframe'] at hij
        exact absurd hij.symm (hnew j hja hj)
    · obtain ⟨rfl, hid⟩ | ⟨hja, hframe', hj⟩ := begin_live hj
      · rw [hid, hframe] at hij
        exact absurd hij (hnew i hia hi)
      · rw [hframe, hframe'] at hij
        exact h.unique i j hi hj hij
  · have hidle : s.initialized = false := hidle
    rw [hinit] at hidle
    cases hidle

end Begin

section
variable (ht : Tracked s)
include ht

theorem kept_ready (hk : Kept s) : Kept s.ready := by
  cases hinit : s.initialized with
  | true =>
    rw [ready_of_initialized hinit]
    exact hk
  | false =>
    have hopen : openFrames s.ready.history = [] := by
      unfold State.ready
      rw [hinit]
      exact ht.idle hinit
    refine ⟨?_, fun f hf => ?_⟩
    · rw [hopen]
      exact nodup_nil
    · rw [hopen] at hf
      exact absurd hf not_mem_nil

theorem tracked_ready : Tracked s.ready := by
  cases hinit : s.initialized with
  | true =>
    rw [ready_of_initialized hinit]
    exact ht
  | false =>
    have hlive (i : Slot) : (s.ready.frames i).live = false := by
      unfold State.ready
      rw [hinit]
      rfl
    refine ⟨fun i h => ?_, fun i j h => ?_, fun h => ?_⟩
    · rw [hlive] at h
      cases h
    · rw [hlive] at h
      cases h
    · rw [ready_initialized] at h
      cases h

/-- One call keeps the open frames exactly if it begins none without room or under a used number. -/
theorem perform_kept_iff (hk : Kept s) (env : Env) (call : Call) :
    Kept (perform env s call) ↔ BeginOk s (env, call) := by
  have hready := kept_ready ht hk
  have htready := tracked_ready ht
  rw [(perform_effect env s call).holds_iff
    (B := Room s.ready ∧ FreshNumber s.ready) hk hready
    (fun s id api plan i hfind => kept_count_iff hfind api plan)
    (fun context info => ⟨fun h => ⟨room_of_kept htready h, freshNumber_of_kept htready h⟩,
      fun h => kept_begin h.1 h.2 hready⟩)
    (fun i id plan hfind => iff_of_true (kept_finish hfind env plan hready) trivial)]
  exact ⟨fun h => h.1, fun h => ⟨h, fun _ _ _ => trivial⟩⟩

theorem perform_tracked (hk : Kept s) {env : Env} {call : Call} (hok : BeginOk s (env, call)) :
    Tracked (perform env s call) := by
  have hready := tracked_ready ht
  have hbegin (context : Nat) (info : BeginInfo) (hb : Begins env call) :
      Tracked (s.ready.begin env context info) :=
    tracked_begin (hok hb).2 hready (ready_initialized s)
  have heffect := perform_effect env s call
  generalize perform env s call = s' at heffect ⊢
  cases heffect with
  | none hs hb hp =>
    obtain rfl | rfl := hs
    · exact ht
    · exact hready
  | begun context info hb => exact hbegin context info hb
  | begunCounted context info api plan i hb hfind => exact tracked_count hfind api plan (hbegin context info hb)
  | counted id api plan i hb hp hfind => exact tracked_count hfind api plan hready
  | presented i id plan hp =>
    have hfind : findFrameState s.ready id = some i := by
      obtain ⟨_, _, _, _, _, _, hfind⟩ := hp
      exact hfind
    exact tracked_finish hfind env plan (kept_ready ht hk) hready

end

theorem kept_zero : Kept State.zero := ⟨nodup_nil, fun _ hf => absurd hf not_mem_nil⟩

theorem tracked_zero : Tracked State.zero :=
  ⟨fun _ h => absurd h Bool.false_ne_true, fun _ _ h => absurd h Bool.false_ne_true, fun _ => rfl⟩

/-- **Frames in flight.** For every sequence of calls: the open frames stay in the table exactly
if each call that begins a frame finds room for it and a fresh number. -/
theorem frames_kept_iff (calls : List (Env × Call)) :
    Along step Kept State.zero calls ↔ Admitted step BeginOk State.zero calls := by
  refine Run.along_iff_admitted (fun s call s' ht hk hs => ?_) (fun s call s' ht hk hs hok => ?_)
    tracked_zero kept_zero calls
  · cases hs
    exact perform_kept_iff ht hk call.1 call.2
  · cases hs
    exact perform_tracked ht hk hok

/-! ### More frames than slots -/

/-- The table keeps no more frames than it has slots. -/
theorem Kept.length_le (h : Kept s) : (openFrames s.history).length ≤ maxFrames := by
  -- Each number is that of the slot it is found in.
  have hsub : ((openFrames s.history).map OpenFrame.id).toFinset ⊆
      Finset.univ.image fun i => (s.frames i).frameId := by
    intro id hid
    obtain ⟨f, hf, rfl⟩ := mem_map.mp (mem_toFinset.mp hid)
    obtain ⟨-, i, hi, -⟩ := h.found f hf
    exact Finset.mem_image.mpr ⟨i, Finset.mem_univ i, find_id hi⟩
  calc (openFrames s.history).length
      = ((openFrames s.history).map OpenFrame.id).toFinset.card := by
        rw [toFinset_card_of_nodup h.distinct, length_map]
    _ ≤ (Finset.univ.image fun i => (s.frames i).frameId).card := Finset.card_le_card hsub
    _ ≤ (Finset.univ : Finset Slot).card := Finset.card_image_le
    _ = maxFrames := Finset.card_fin _

theorem beginFrame_openFrames {context : Option Nat} {c : Nat} (h : enters env context = .ok c)
    (info : BeginInfo) (s : State) : openFrames (perform env s (.beginFrame context info)).history =
      ⟨s.ready.nextFrameId, c, 0, 0⟩ :: openFrames s.history := by
  have hperform : perform env s (.beginFrame context info) = s.ready.begin env c info := by
    simp [perform, beginFrame, prepare_ok h]
  have hhistory : s.ready.history = s.history := by
    unfold State.ready
    split
    · rfl
    · rfl
  rw [hperform, openFrames_begin, hhistory]

theorem run_beginFrames {context : Option Nat} {c : Nat} (h : enters env context = .ok c) (info : BeginInfo)
    (n : Nat) (s : State) :
    ∃ s', run step s (List.replicate n (env, .beginFrame context info)) = some s' ∧
      (openFrames s'.history).length = (openFrames s.history).length + n := by
  induction n generalizing s with
  | zero => exact ⟨s, rfl, rfl⟩
  | succ n ih =>
    obtain ⟨s', hrun, hlength⟩ := ih (perform env s (.beginFrame context info))
    refine ⟨s', hrun, ?_⟩
    rw [hlength, beginFrame_openFrames h, length_cons]
    omega

/-- The first of 65 frames is lost: all 65 calls succeed, and the table has 64 slots. -/
theorem frames_kept_sixtyfive :
    ¬ Along step Kept State.zero (List.replicate 65 (plainEnv, .beginFrame none plainFrame)) := by
  intro h
  have henters : enters plainEnv none = .ok 1 := rfl
  obtain ⟨s, hrun, hlength⟩ := run_beginFrames henters plainFrame 65 State.zero
  have hle := (h.final hrun).length_le
  have hzero : (openFrames State.zero.history).length = 0 := rfl
  rw [hlength, hzero] at hle
  exact nomatch hle

end Mvgal.Execution
