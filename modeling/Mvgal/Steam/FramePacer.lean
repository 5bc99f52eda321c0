import Mvgal.Lib.Ring
import Mvgal.Lib.Run

/-! The frame pacer (`mvgal_frame_pacer.c`).

Frames that are ready wait in a ring of eight and are taken out by one thread, which sleeps
until a frame is due, presents it and then counts it. It holds the lock while it takes a frame
and while it counts one, not in between, so submissions come at any of these points. The world
keeps beside the pacer what happened so far: the frames accepted, taken and presented, and how
many were refused. `frames_conserved` says that these agree with the ring and the counters
after every history. -/
namespace Mvgal.Steam
open List
open Run (Along)

abbrev maxFrames : Nat := 8

structure FrameEntry where
  frameId : UInt64
  readyNs : UInt64
  targetPresentNs : UInt64
  gpuIndex : UInt32
  valid : Bool
deriving DecidableEq, Repr

def FrameEntry.zero : FrameEntry := ⟨0, 0, 0, 0, false⟩

structure FramePacer where
  ring : Ring FrameEntry maxFrames
  refreshHz : UInt32
  frameIntervalNs : UInt64
  lastPresentNs : UInt64
  running : Bool
  enabled : Bool
  framesPaced : UInt64
  framesDropped : UInt64
  totalJitterNs : UInt64

/-- `1000000000ULL / hz`. -/
def intervalNs (hz : UInt32) : UInt64 := 1000000000 / hz.toUInt64

/-- `mvgal_fp_create`; no refresh rate means `MVGAL_FP_DEFAULT_HZ`. -/
def fpCreate (refreshHz : UInt32) : FramePacer :=
  let hz := if refreshHz ≠ 0 then refreshHz else 60
  { ring := Ring.empty FrameEntry.zero
    refreshHz := hz
    frameIntervalNs := intervalNs hz
    lastPresentNs := 0
    running := true
    enabled := true
    framesPaced := 0
    framesDropped := 0
    totalJitterNs := 0 }

/-- The next vertical blank, for a frame that is ready at `now`. -/
def FramePacer.nextVsync (fp : FramePacer) (now : UInt64) : UInt64 :=
  let last := if fp.lastPresentNs ≠ 0 then fp.lastPresentNs else now
  let next := last + fp.frameIntervalNs
  if next < now then now + fp.frameIntervalNs else next

def FramePacer.entry (fp : FramePacer) (frameId : UInt64) (gpuIndex : UInt32) (now : UInt64) : FrameEntry :=
  ⟨frameId, now, fp.nextVsync now, gpuIndex, true⟩

/-- `mvgal_fp_submit_frame`, at the time `now`. -/
def fpSubmitFrame (fp : FramePacer) (frameId : UInt64) (gpuIndex : UInt32) (now : UInt64) : Int × FramePacer :=
  if fp.enabled = false then (0, fp)
  else if h : fp.ring.count < maxFrames then
    (0, {fp with ring := fp.ring.push (fp.entry frameId gpuIndex now) h})
  else (-1, {fp with framesDropped := fp.framesDropped + 1})

/-- The distance of two times, as the source computes it in signed numbers. -/
def jitterNs (actual target : UInt64) : UInt64 :=
  let jitter := actual.toInt64 - target.toInt64
  (if jitter < 0 then -jitter else jitter).toUInt64

/-- The second critical section of `pacer_thread`. -/
def FramePacer.account (fp : FramePacer) (frame : FrameEntry) (actual : UInt64) : FramePacer :=
  { fp with
    framesPaced := fp.framesPaced + 1
    totalJitterNs := fp.totalJitterNs + jitterNs actual frame.targetPresentNs
    lastPresentNs := actual }

def fpSetRefreshHz (fp : FramePacer) (hz : UInt32) : FramePacer :=
  if hz = 0 then fp else {fp with refreshHz := hz, frameIntervalNs := intervalNs hz}

/-- Where the pacer thread is: before its first critical section, with a frame that it took out,
or at its end. -/
inductive PacerThread where
  | waiting
  | presenting (frame : FrameEntry)
  | finished

structure World where
  pacer : FramePacer
  thread : PacerThread
  accepted : List FrameEntry
  taken : List FrameEntry
  presented : List FrameEntry
  refused : Nat

def World.created (refreshHz : UInt32) : World := ⟨fpCreate refreshHz, .waiting, [], [], [], 0⟩

inductive PacerAction where
  | submit (frameId : UInt64) (gpuIndex : UInt32) (now : UInt64)
  | dequeue
  | account (actual : UInt64)
  | setRefreshHz (hz : UInt32)
  | stop
  | quit

def World.submit (w : World) (frameId : UInt64) (gpuIndex : UInt32) (now : UInt64) : World :=
  let r := fpSubmitFrame w.pacer frameId gpuIndex now
  if r.1 = 0 then
    { w with
      pacer := r.2
      accepted := if w.pacer.enabled then w.accepted ++ [w.pacer.entry frameId gpuIndex now] else w.accepted }
  else {w with pacer := r.2, refused := w.refused + 1}

/-- The frames that a step accepts. -/
def World.newFrames (w : World) : PacerAction → List FrameEntry
  | .submit frameId gpuIndex now =>
    if w.pacer.enabled = true ∧ w.pacer.ring.count < maxFrames then [w.pacer.entry frameId gpuIndex now] else []
  | _ => []

/-- One critical section of a submission, of the thread, or of the calls that change the rate
and stop the pacer. -/
def pacerStep (w : World) : PacerAction → Option World
  | .submit frameId gpuIndex now => some (w.submit frameId gpuIndex now)
  | .dequeue =>
    match w.thread with
    | .waiting =>
      if h : w.pacer.running = true ∧ 0 < w.pacer.ring.count then
        some { w with
          pacer := {w.pacer with ring := w.pacer.ring.pop h.2}
          thread := .presenting w.pacer.ring.front
          taken := w.taken ++ [w.pacer.ring.front] }
      else none
    | _ => none
  | .account actual =>
    match w.thread with
    | .presenting frame => some { w with
        pacer := w.pacer.account frame actual
        thread := .waiting
        presented := w.presented ++ [frame] }
    | _ => none
  | .setRefreshHz hz => some {w with pacer := fpSetRefreshHz w.pacer hz}
  | .stop => some {w with pacer := {w.pacer with running := false}}
  | .quit =>
    match w.thread with
    | .waiting => if w.pacer.running = false then some {w with thread := .finished} else none
    | _ => none

def World.waiting (w : World) : List FrameEntry := w.accepted.drop w.taken.length

def PacerThread.held : PacerThread → List FrameEntry
  | .presenting frame => [frame]
  | _ => []

/-- Frames are presented in the order they were accepted, none twice and none left out, and the
ring and the counters tell how many there are. The counters have 64 bits, so `framesPaced` is the
number of frames presented until that many were accepted, and its remainder afterwards. -/
structure Conserved (w : World) : Prop where
  order : w.presented <+: w.accepted
  refusal : ∀ frameId gpuIndex now, (fpSubmitFrame w.pacer frameId gpuIndex now).1 = -1 ↔ w.waiting.length = maxFrames
  balance : w.accepted.length = w.presented.length + w.pacer.ring.count + w.thread.held.length
  counted : w.accepted.length < 2 ^ 64 →
    w.accepted.length = w.pacer.framesPaced.toNat + w.pacer.ring.count + w.thread.held.length
  paced : w.pacer.framesPaced = UInt64.ofNat w.presented.length
  dropped : w.pacer.framesDropped = UInt64.ofNat w.refused

structure Accounted (w : World) : Prop where
  enabled : w.pacer.enabled = true
  queue : w.accepted = w.taken ++ w.pacer.ring.contents
  taken : w.taken = w.presented ++ w.thread.held
  paced : w.pacer.framesPaced = UInt64.ofNat w.presented.length
  dropped : w.pacer.framesDropped = UInt64.ofNat w.refused

variable {w w' : World}

theorem Accounted.waiting_eq (h : Accounted w) : w.waiting = w.pacer.ring.contents := by
  rw [World.waiting, h.queue, drop_left]

theorem submit_refused_iff {fp : FramePacer} (h : fp.enabled = true) (frameId : UInt64) (gpuIndex : UInt32)
    (now : UInt64) : (fpSubmitFrame fp frameId gpuIndex now).1 = -1 ↔ fp.ring.count = maxFrames := by
  have hbound := fp.ring.bounded
  unfold fpSubmitFrame
  rw [if_neg (by simp [h])]
  split_ifs with hroom
  · exact iff_of_false (by decide) (Nat.ne_of_lt hroom)
  · exact iff_of_true rfl (Nat.le_antisymm hbound (Nat.le_of_not_lt hroom))

theorem Accounted.balance (h : Accounted w) :
    w.accepted.length = w.presented.length + w.pacer.ring.count + w.thread.held.length := by
  rw [h.queue, h.taken, length_append, length_append, Ring.length_contents]
  omega

theorem Accounted.conserved (h : Accounted w) : Conserved w where
  order := by
    rw [h.queue, h.taken, append_assoc]
    exact List.prefix_append ..
  refusal frameId gpuIndex now := by
    rw [submit_refused_iff h.enabled, h.waiting_eq, Ring.length_contents]
  balance := h.balance
  counted hfew := by
    have hbalance := h.balance
    rw [h.paced, UInt64.toNat_ofNat', Nat.mod_eq_of_lt (by omega)]
    exact hbalance
  paced := h.paced
  dropped := h.dropped

theorem accounted_created (refreshHz : UInt32) : Accounted (World.created refreshHz) :=
  ⟨rfl, rfl, rfl, rfl, rfl⟩

theorem ofNat_length_concat {α : Type} (l : List α) (a : α) :
    UInt64.ofNat (l ++ [a]).length = UInt64.ofNat l.length + 1 := by
  rw [length_append, length_singleton, UInt64.ofNat_add]
  rfl

theorem accounted_submit (h : Accounted w) (frameId : UInt64) (gpuIndex : UInt32) (now : UInt64) :
    Accounted (w.submit frameId gpuIndex now) := by
  have henabled : ¬ w.pacer.enabled = false := by simp [h.enabled]
  unfold World.submit fpSubmitFrame
  rw [if_neg henabled]
  by_cases hroom : w.pacer.ring.count < maxFrames
  · rw [dif_pos hroom]
    rw [if_pos rfl, if_pos h.enabled]
    refine ⟨h.enabled, ?_, h.taken, h.paced, h.dropped⟩
    rw [Ring.contents_push, ← append_assoc, ← h.queue]
  · rw [dif_neg hroom]
    dsimp only
    rw [if_neg (by decide)]
    refine ⟨h.enabled, h.queue, h.taken, h.paced, ?_⟩
    rw [h.dropped, UInt64.ofNat_add]
    rfl

theorem accounted_step {a : PacerAction} (h : Accounted w) (hstep : pacerStep w a = some w') : Accounted w' := by
  cases a with
  | submit frameId gpuIndex now =>
    cases hstep
    exact accounted_submit h frameId gpuIndex now
  | dequeue =>
    cases hthread : w.thread <;> simp only [pacerStep, hthread, reduceCtorEq] at hstep
    split_ifs at hstep with hready
    cases hstep
    have htaken : w.taken = w.presented := by
      rw [h.taken, hthread]
      exact append_nil _
    refine ⟨h.enabled, ?_, ?_, h.paced, h.dropped⟩
    · rw [h.queue, Ring.contents_pop _ hready.2, append_assoc]
      rfl
    · rw [htaken]
      rfl
  | account actual =>
    cases hthread : w.thread <;> simp only [pacerStep, hthread, reduceCtorEq] at hstep
    rename_i frame
    cases hstep
    refine ⟨h.enabled, h.queue, ?_, ?_, h.dropped⟩
    · rw [h.taken, hthread]
      exact (append_nil _).symm
    · rw [ofNat_length_concat, ← h.paced]
      rfl
  | setRefreshHz hz =>
    cases hstep
    unfold fpSetRefreshHz
    split_ifs
    · exact h
    · exact ⟨h.enabled, h.queue, h.taken, h.paced, h.dropped⟩
  | stop =>
    cases hstep
    exact ⟨h.enabled, h.queue, h.taken, h.paced, h.dropped⟩
  | quit =>
    cases hthread : w.thread <;> simp only [pacerStep, hthread, reduceCtorEq] at hstep
    split_ifs at hstep
    cases hstep
    refine ⟨h.enabled, h.queue, ?_, h.paced, h.dropped⟩
    rw [h.taken, hthread]
    rfl

/-- After every history of submissions and steps of the thread, the frames presented begin the
sequence of those accepted, and ring, thread and counters account for all of them. -/
theorem frames_conserved (refreshHz : UInt32) (actions : List PacerAction) :
    Along pacerStep Conserved (World.created refreshHz) actions := by
  have hrun : Along pacerStep Accounted (World.created refreshHz) actions :=
    Run.along_of_preserved (fun _ _ _ h hs => accounted_step h hs) (accounted_created refreshHz) actions
  exact hrun.mono fun _ h => h.conserved

end Mvgal.Steam
