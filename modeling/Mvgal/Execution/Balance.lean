import Mvgal.Execution.Frames

/-! The frame counters.

`frames_submitted` counts the frames begun and `frames_completed` the presentations, and
the difference is meant to be the number of active frames. `Balanced` says so, and that
no frame is counted as completed twice, since a reset of the statistics at a time when no
frame was active.

Beginning a frame in the slot of an active one, and presenting a frame that is not active,
each move a counter and leave the number of active frames as it is. Over whole runs these
are the only ways to lose the balance: `frames_balanced_iff`. -/
namespace Mvgal.Execution
open Function (update)
open Table (tally tally_update)
open Run (Along Admitted)

def Event.begins (id : UInt64) : Event → Bool
  | .begun id' _ => id' == id
  | _ => false

def Event.completes (id : UInt64) : Event → Bool
  | .presented id' => id' == id
  | _ => false

def State.activeCount (s : State) : Nat := tally Frame.live s.frames

/-- The counters agree with each other, with the table and with the history. -/
structure Balanced (s : State) : Prop where
  once : ∀ id, s.history.countP (Event.completes id) ≤ s.history.countP (Event.begins id)
  le : s.stats.framesCompleted ≤ s.stats.framesSubmitted
  active : (s.stats.framesSubmitted - s.stats.framesCompleted).toNat = s.activeCount

/-- A call that begins a frame has room for it, and `frames_submitted` does not come round; a
call presents active frames only. -/
def CountOk (s : State) (call : Env × Call) : Prop :=
  (Begins call.1 call.2 → Room s.ready ∧ s.ready.stats.framesSubmitted.toNat + 1 < 2 ^ 64) ∧
    ∀ i id, Presents call.1 s call.2 i id → (s.ready.frames i).live = true

/-- The module at a time when no frame is active. -/
structure IdleState where
  state : State
  initialized : state.initialized = true
  idle : ∀ i, (state.frames i).live = false

def Frame.liveAs (id : UInt64) (frame : Frame) : Bool := frame.live && frame.frameId == id

/-- Of the frames begun under a number, those not completed are active. -/
structure Tallied (s : State) : Prop where
  initialized : s.initialized = true
  tally : ∀ id, s.history.countP (Event.begins id) =
    s.history.countP (Event.completes id) + tally (Frame.liveAs id) s.frames

variable {s : State} {env : Env} {id : UInt64} {i : Slot}

/-- The two counters as numbers. -/
def Even (s : State) : Prop :=
  s.stats.framesSubmitted.toNat = s.stats.framesCompleted.toNat + s.activeCount

theorem Balanced.even (h : Balanced s) : Even s := by
  have hactive := h.active
  have hle := UInt64.le_iff_toNat_le.mp h.le
  rw [UInt64.toNat_sub_of_le _ _ h.le] at hactive
  unfold Even
  omega

theorem Even.balanced (h : Even s) (ht : Tallied s) : Balanced s := by
  unfold Even at h
  have hle : s.stats.framesCompleted ≤ s.stats.framesSubmitted := UInt64.le_iff_toNat_le.mpr (by omega)
  refine ⟨fun id => ?_, hle, ?_⟩
  · rw [ht.tally id]
    exact Nat.le_add_right ..
  · rw [UInt64.toNat_sub_of_le _ _ hle]
    omega

variable {k : Slot}

theorem activeCount_count (hfind : findFrameState s id = some k) (api : Api) (plan : Plan) :
    (s.count id api plan).activeCount = s.activeCount :=
  Table.tally_congr Frame.live (count_live hfind api plan)

theorem activeCount_begin (s : State) (env : Env) (context : Nat) (info : BeginInfo) :
    (s.begin env context info).activeCount + (s.frames (allocateFrameState s)).live.toNat = s.activeCount + 1 :=
  tally_update Frame.live s.frames _ (newFrame env context info s.nextFrameId)

theorem activeCount_finish (s : State) (env : Env) (i : Slot) (id : UInt64) (plan : Plan) :
    (s.finish env i id plan).activeCount + (s.frames i).live.toNat = s.activeCount := by
  have hlive : ((s.frames i).finish env plan).live = false := by simp [Frame.finish, Frame.live]
  have h := tally_update Frame.live s.frames i ((s.frames i).finish env plan)
  rw [hlive] at h
  exact h

theorem countApi_frames (stats : Stats) (api : Api) :
    (stats.countApi api).framesSubmitted = stats.framesSubmitted ∧
      (stats.countApi api).framesCompleted = stats.framesCompleted := by
  unfold Stats.countApi
  repeat' split
  all_goals exact ⟨rfl, rfl⟩

theorem even_count_iff (hfind : findFrameState s id = some k) (api : Api) (plan : Plan) :
    Even (s.count id api plan) ↔ Even s := by
  have hstats := countApi_frames {s.stats with workloadsDistributed := s.stats.workloadsDistributed + 1} api
  have hsubmitted : (s.count id api plan).stats.framesSubmitted = s.stats.framesSubmitted := hstats.1
  have hcompleted : (s.count id api plan).stats.framesCompleted = s.stats.framesCompleted := hstats.2
  unfold Even
  rw [hsubmitted, hcompleted, activeCount_count hfind]

/-- A new frame keeps the balance exactly if it takes no active one's place. -/
theorem even_begin_iff (h : Even s) (env : Env) (context : Nat) (info : BeginInfo) :
    Even (s.begin env context info) ↔ Room s ∧ s.stats.framesSubmitted.toNat + 1 < 2 ^ 64 := by
  have hactive := activeCount_begin s env context info
  have hsubmitted : (s.begin env context info).stats.framesSubmitted.toNat =
      (s.stats.framesSubmitted.toNat + 1) % 2 ^ 64 := UInt64.toNat_add ..
  have hcompleted : (s.begin env context info).stats.framesCompleted = s.stats.framesCompleted := rfl
  unfold Even at h ⊢
  rw [hsubmitted, hcompleted]
  constructor
  · intro he
    by_cases hroom : Room s
    · rw [allocate_live hroom] at hactive
      simp only [Bool.toNat_false] at hactive
      exact ⟨hroom, by omega⟩
    · rw [not_room hroom] at hactive
      simp only [Bool.toNat_true] at hactive
      omega
  · rintro ⟨hroom, hwrap⟩
    rw [allocate_live hroom] at hactive
    simp only [Bool.toNat_false] at hactive
    omega

/-- A presentation keeps the balance exactly if the frame was active. -/
theorem even_finish_iff (h : Even s) (env : Env) (i : Slot) (id : UInt64) (plan : Plan) :
    Even (s.finish env i id plan) ↔ (s.frames i).live = true := by
  have hactive := activeCount_finish s env i id plan
  have hcompleted : (s.finish env i id plan).stats.framesCompleted.toNat =
      (s.stats.framesCompleted.toNat + 1) % 2 ^ 64 := UInt64.toNat_add ..
  have hsubmitted : (s.finish env i id plan).stats.framesSubmitted = s.stats.framesSubmitted := rfl
  have hlt := s.stats.framesSubmitted.toNat_lt
  unfold Even at h ⊢
  rw [hsubmitted, hcompleted]
  cases hlive : (s.frames i).live with
  | true =>
    rw [hlive] at hactive
    simp only [Bool.toNat_true] at hactive
    exact iff_of_true (by omega) rfl
  | false =>
    rw [hlive] at hactive
    simp only [Bool.toNat_false] at hactive
    exact iff_of_false (by omega) (by decide)

theorem countP_append_one (p : Event → Bool) (history : List Event) (e : Event) :
    (history ++ [e]).countP p = history.countP p + (p e).toNat := by
  rw [List.countP_append, List.countP_singleton]
  cases p e with
  | false => rfl
  | true => rfl

theorem tallied_count (hfind : findFrameState s id = some k) (api : Api) (plan : Plan)
    (h : Tallied s) : Tallied (s.count id api plan) := by
  refine ⟨h.initialized, fun id' => ?_⟩
  have hframes : tally (Frame.liveAs id') (s.count id api plan).frames = tally (Frame.liveAs id') s.frames := by
    apply Table.tally_congr
    intro i
    rw [count_frames hfind]
    refine Table.view_update (Frame.liveAs id') ?_ i
    rfl
  have hhistory : (s.count id api plan).history = s.history ++ [.submitted id plan.estimatedBytes] := rfl
  rw [hframes, hhistory, countP_append_one, countP_append_one]
  exact h.tally id'

theorem liveAs_of_not_live {frame : Frame} (h : frame.live = false) (id : UInt64) : frame.liveAs id = false := by
  simp [Frame.liveAs, h]

theorem tallied_begin (hroom : Room s) (env : Env) (context : Nat) (info : BeginInfo) (h : Tallied s) :
    Tallied (s.begin env context info) := by
  refine ⟨h.initialized, fun id => ?_⟩
  have htally := tally_update (Frame.liveAs id) s.frames (allocateFrameState s)
    (newFrame env context info s.nextFrameId)
  have hnew : (newFrame env context info s.nextFrameId).liveAs id = (s.nextFrameId == id) := rfl
  have hold := h.tally id
  have hhistory : (s.begin env context info).history = s.history ++ [.begun s.nextFrameId context] := rfl
  have hframes : (s.begin env context info).frames =
      update s.frames (allocateFrameState s) (newFrame env context info s.nextFrameId) := rfl
  rw [liveAs_of_not_live (allocate_live hroom), hnew] at htally
  rw [hhistory, hframes, countP_append_one, countP_append_one]
  simp only [Event.begins, Event.completes, Bool.toNat_false] at htally ⊢
  omega

theorem tallied_finish (hfind : findFrameState s id = some i) (hlive : (s.frames i).live = true) (env : Env)
    (plan : Plan) (h : Tallied s) : Tallied (s.finish env i id plan) := by
  refine ⟨h.initialized, fun id' => ?_⟩
  have htally := tally_update (Frame.liveAs id') s.frames i ((s.frames i).finish env plan)
  have hnew : ((s.frames i).finish env plan).liveAs id' = false :=
    liveAs_of_not_live (by simp [Frame.finish, Frame.live]) id'
  have hwas : (s.frames i).liveAs id' = (id == id') := by
    rw [Frame.liveAs, hlive, (named_iff.mp (find_some_iff.mp hfind).1).2, Bool.true_and]
  have hold := h.tally id'
  have hhistory : (s.finish env i id plan).history = s.history ++ [.presented id] := rfl
  have hframes : (s.finish env i id plan).frames = update s.frames i ((s.frames i).finish env plan) := rfl
  rw [hnew, hwas] at htally
  rw [hhistory, hframes, countP_append_one, countP_append_one]
  simp only [Event.begins, Event.completes, Bool.toNat_false] at htally ⊢
  omega

theorem perform_tallied (h : Tallied s) {env : Env} {call : Call} (hok : CountOk s (env, call)) :
    Tallied (perform env s call) := by
  have hready : s.ready = s := ready_of_initialized h.initialized
  have heffect := perform_effect env s call
  generalize perform env s call = s' at heffect ⊢
  unfold CountOk at hok
  rw [hready] at hok
  cases heffect with
  | none hs hb hp =>
    rw [hready, or_self] at hs
    rw [hs]
    exact h
  | begun context info hb =>
    rw [hready]
    exact tallied_begin (hok.1 hb).1 env context info h
  | begunCounted context info api plan i hb hfind =>
    apply tallied_count hfind
    rw [hready]
    exact tallied_begin (hok.1 hb).1 env context info h
  | counted id api plan i hb hp hfind =>
    rw [hready] at hfind ⊢
    exact tallied_count hfind api plan h
  | presented i id plan hp =>
    have hfind : findFrameState s.ready id = some i := by
      obtain ⟨_, _, _, _, _, _, hfind⟩ := hp
      exact hfind
    rw [hready] at hfind ⊢
    exact tallied_finish hfind (hok.2 i id hp) env plan h

theorem perform_even_iff (hi : s.initialized = true) (he : Even s) (env : Env) (call : Call) :
    Even (perform env s call) ↔ CountOk s (env, call) := by
  have hready : Even s.ready := by
    rw [ready_of_initialized hi]
    exact he
  exact (perform_effect env s call).holds_iff he hready
    (fun s id api plan i hfind => even_count_iff hfind api plan) (even_begin_iff hready env)
    fun i id plan _ => even_finish_iff hready env i id plan

theorem resetStats_eq (s : IdleState) :
    resetStats s.state = {s.state with stats := Stats.zero, history := []} :=
  if_pos s.initialized

theorem tallied_reset (s : IdleState) : Tallied (resetStats s.state) := by
  rw [resetStats_eq]
  refine ⟨s.initialized, fun id => ?_⟩
  have hzero : tally (Frame.liveAs id) s.state.frames = 0 :=
    Table.tally_eq_zero _ fun i => liveAs_of_not_live (s.idle i) id
  simp [hzero]

theorem even_reset (s : IdleState) : Even (resetStats s.state) := by
  have hzero : tally Frame.live s.state.frames = 0 := Table.tally_eq_zero _ s.idle
  rw [resetStats_eq]
  simp [Even, State.activeCount, hzero, Stats.zero]

/-- **The balance of the counters.** Since a reset that found no frame active, for every sequence
of calls: no frame is counted as completed twice, and the counters differ by the number of active
frames, exactly if no frame is begun in the place of an active one and no frame is presented that
is not active. -/
theorem frames_balanced_iff (s : IdleState) (calls : List (Env × Call)) :
    Along step Balanced (resetStats s.state) calls ↔ Admitted step CountOk (resetStats s.state) calls := by
  refine Run.along_iff_admitted (fun s call s' ht hb hs => ?_) (fun s call s' ht hb hs hok => ?_)
    (tallied_reset s) ((even_reset s).balanced (tallied_reset s)) calls
  · cases hs
    have heven := perform_even_iff ht.initialized hb.even call.1 call.2
    exact ⟨fun hb' => heven.mp hb'.even, fun hok => (heven.mpr hok).balanced (perform_tallied ht hok)⟩
  · cases hs
    exact perform_tallied ht hok

def newState : IdleState := ⟨State.zero.ready, rfl, fun _ => rfl⟩

/-- A frame that is presented twice is counted as completed twice. -/
theorem frames_balanced_presented_twice : ¬ Along step Balanced (resetStats newState.state)
      [(plainEnv, .beginFrame none plainFrame),
        (plainEnv, .present none 1 apiVulkan), (plainEnv, .present none 1 apiVulkan)] := by
  intro h
  exact absurd (h.final rfl).le (by decide +kernel)

end Mvgal.Execution
