import Mvgal.Daemon.Messages

/-! The loop that serves one client of the daemon (`handle_client` in `ipc.c`).

One round reads a request, answers it and releases its payload. The error exits of the answers
that have a body are `break`s of the `switch`, not of the loop: after a write that failed, the
code behind the `switch` writes the header once more and releases the payload a second time
(`Flow.leave`), and only the answers that were sent completely go on to the next request
(`Flow.next`). A workload that was submitted is not given up on any of these ways.
`requests_answered_iff` says for which rounds the client gets one answer and nothing leaks. -/
namespace Mvgal.Daemon
open List
open Run (Along Admitted)

inductive MessageType where
  | ping | pong | gpuEnumerate | gpuList | workloadSubmit | workloadResult
  | memoryAllocate | memoryFree | configGet | configSet | error
deriving DecidableEq, Repr

def MessageType.all : List MessageType :=
  [.ping, .pong, .gpuEnumerate, .gpuList, .workloadSubmit, .workloadResult,
    .memoryAllocate, .memoryFree, .configGet, .configSet, .error]

def MessageType.code : MessageType → UInt32
  | .ping => 0
  | .pong => 1
  | .gpuEnumerate => 2
  | .gpuList => 3
  | .workloadSubmit => 4
  | .workloadResult => 5
  | .memoryAllocate => 6
  | .memoryFree => 7
  | .configGet => 8
  | .configSet => 9
  | .error => 10

def MessageType.ofCode (code : UInt32) : Option MessageType :=
  MessageType.all.find? (fun t => t.code == code)

/-- Sizes of the structures that are sent or received as they are in memory. -/
structure Sizes where
  gpuDescriptor : Nat
  config : Nat
  submitInfo : Nat
deriving DecidableEq, Repr

/-- What a `write` did; `short` and `failed` are both failures to the source. -/
inductive WriteOutcome where
  | complete | short | failed
deriving DecidableEq, Repr

/-- What the payload of a request met: no buffer for it, not enough bytes, or all of them. -/
inductive PayloadOutcome where
  | noMemory | short | whole
deriving DecidableEq, Repr

inductive Received where
  | closed
  | shortHeader
  | header (h : IpcHeader) (payload : PayloadOutcome)
deriving DecidableEq, Repr

/-- What a round meets: the request, the number of devices, the workload that the scheduler hands
out if it accepts the submission, and the outcome of each `write`, in order. -/
structure Round where
  received : Received
  gpuCount : Int
  submitted : Option Nat
  writes : Nat → WriteOutcome

/-- What a round does, as far as the client, the heap and the scheduler see it. -/
inductive Event where
  | allocated
  | released
  | wroteHeader (h : IpcHeader) (outcome : WriteOutcome)
  | wroteBody (size : Nat) (outcome : WriteOutcome)
  | obtained (workload : Nat)
  | givenUp (workload : Nat)
deriving DecidableEq, Repr

/-- `malloc` of the payload, which a request without one does not need. -/
def allocate (h : IpcHeader) : List Event := if 0 < h.payloadSize then [.allocated] else []

/-- `free(payload)`, which does nothing for the `NULL` of a request without one. -/
def release (h : IpcHeader) : List Event := if 0 < h.payloadSize then [.released] else []

/-- Where the `switch` goes: behind it, or to the next round. -/
inductive Flow where
  | leave (response : IpcHeader) (events : List Event)
  | next (events : List Event)

def answer (h : IpcHeader) (t : MessageType) (size : Nat) : IpcHeader :=
  ⟨ipcMagic, ipcVersion, t.code, UInt32.ofNat size, h.requestId⟩

def answerWithBody (r : Round) (h response : IpcHeader) : Flow :=
  let header := .wroteHeader response (r.writes 0)
  let body := .wroteBody response.payloadSize.toNat (r.writes 1)
  if r.writes 0 ≠ .complete then .leave response (header :: release h)
  else if r.writes 1 ≠ .complete then .leave response (header :: body :: release h)
  else .next (header :: body :: release h)

def answerGpuEnumerate (sizes : Sizes) (r : Round) (h : IpcHeader) : Flow :=
  if 0 < r.gpuCount then answerWithBody r h (answer h .gpuList (sizes.gpuDescriptor * r.gpuCount.toNat))
  else .leave (answer h .error 0) []

def answerConfigGet (sizes : Sizes) (r : Round) (h : IpcHeader) : Flow :=
  answerWithBody r h (answer h .configGet sizes.config)

def answerWorkloadSubmit (sizes : Sizes) (r : Round) (h : IpcHeader) : Flow :=
  if h.payloadSize = 0 ∨ h.payloadSize.toNat < sizes.submitInfo then .leave (answer h .error 0) []
  else
    match r.submitted with
    | some workload =>
      let response := answer h .workloadResult 0
      let events := .obtained workload :: .wroteHeader response (r.writes 0) :: release h
      if r.writes 0 ≠ .complete then .leave response events else .next events
    | none => .leave (answer h .error 0) []

def process (sizes : Sizes) (r : Round) (h : IpcHeader) : Flow :=
  match MessageType.ofCode h.messageType with
  | some .ping => .leave (answer h .pong 0) []
  | some .gpuEnumerate => answerGpuEnumerate sizes r h
  | some .configGet => answerConfigGet sizes r h
  | some .workloadSubmit => answerWorkloadSubmit sizes r h
  | _ => .leave (answer h .error 0) []

def Event.written : Event → Option WriteOutcome
  | .wroteHeader _ outcome => some outcome
  | .wroteBody _ outcome => some outcome
  | _ => none

def finish (r : Round) (h : IpcHeader) : Flow → List Event
  | .leave response events =>
    events ++ .wroteHeader response (r.writes (events.filterMap Event.written).length) :: release h
  | .next events => events

def handleRequest (sizes : Sizes) (r : Round) (h : IpcHeader) : List Event :=
  allocate h ++ finish r h (process sizes r h)

/-- The request of a round, if it was received completely and its header is valid. -/
def Round.request (r : Round) : Option IpcHeader :=
  match r.received with
  | .header h payload =>
    if h.magic = ipcMagic ∧ h.version = ipcVersion ∧ (0 < h.payloadSize → payload = .whole) then some h
    else none
  | _ => none

/-- One round of `handle_client`: what it does, and whether the loop goes on. A server that is
stopped ends the loop between two rounds. -/
def handleRound (sizes : Sizes) (r : Round) : List Event × Bool :=
  match r.received with
  | .closed => ([], false)
  | .shortHeader => ([], false)
  | .header h payload =>
    if h.magic ≠ ipcMagic then ([], false)
    else if h.version ≠ ipcVersion then ([], false)
    else if 0 < h.payloadSize then
      match payload with
      | .noMemory => ([], false)
      | .short => (allocate h ++ release h, false)
      | .whole => (handleRequest sizes r h, true)
    else (handleRequest sizes r h, true)

/-- A connection that is served or closed, with the rounds so far and what each of them did. -/
structure Connection where
  isOpen : Bool
  served : List (Round × List Event)

def Connection.accepted : Connection := ⟨true, []⟩

def connectionStep (sizes : Sizes) (c : Connection) (r : Round) : Option Connection :=
  if c.isOpen then some ⟨(handleRound sizes r).2, c.served ++ [(r, (handleRound sizes r).1)]⟩ else none

def Event.header : Event → Option IpcHeader
  | .wroteHeader h _ => some h
  | _ => none

def Event.sent : Event → Option IpcHeader
  | .wroteHeader h .complete => some h
  | _ => none

/-- What a round owes the client, the heap and the scheduler. -/
structure Clean (r : Round) (events : List Event) : Prop where
  atMostOne : (events.filterMap Event.sent).length ≤ 1
  answered : ∀ h, r.request = some h → (∀ o ∈ events.filterMap Event.written, o = .complete) →
    (events.filterMap Event.sent).length = 1
  requestId : ∀ h ∈ events.filterMap Event.header, ∃ q, r.request = some q ∧ h.requestId = q.requestId
  quiet : (events.filterMap Event.written).Pairwise (fun first _ => first = .complete)
  payload : events.count .allocated = events.count .released
  workloads : ∀ w, events.count (.obtained w) = events.count (.givenUp w)

def AllClean (c : Connection) : Prop := ∀ entry ∈ c.served, Clean entry.1 entry.2

/-- Both writes of an answer with a body succeed, and no workload is handed out. -/
def RequestOk (sizes : Sizes) (r : Round) (h : IpcHeader) : Prop :=
  match MessageType.ofCode h.messageType with
  | some .gpuEnumerate => 0 < r.gpuCount → r.writes 0 = .complete ∧ r.writes 1 = .complete
  | some .configGet => r.writes 0 = .complete ∧ r.writes 1 = .complete
  | some .workloadSubmit => h.payloadSize ≠ 0 → sizes.submitInfo ≤ h.payloadSize.toNat → r.submitted = none
  | _ => True

def RoundOk (sizes : Sizes) (_ : Connection) (r : Round) : Prop :=
  ∀ h, r.request = some h → RequestOk sizes r h

def payloadBlocks (h : IpcHeader) : Nat := if 0 < h.payloadSize then 1 else 0

theorem allocate_eq (h : IpcHeader) : allocate h = List.replicate (payloadBlocks h) .allocated := by
  unfold allocate payloadBlocks
  split <;> rfl

theorem release_eq (h : IpcHeader) : release h = List.replicate (payloadBlocks h) .released := by
  unfold release payloadBlocks
  split <;> rfl

theorem filterMap_around {β : Type} {f : Event → Option β} (hallocated : f .allocated = none)
    (hreleased : f .released = none) (h : IpcHeader) (events : List Event) :
    (allocate h ++ (events ++ release h)).filterMap f = events.filterMap f := by
  rw [allocate_eq, release_eq, filterMap_append, filterMap_append,
    filterMap_replicate_of_none hallocated, filterMap_replicate_of_none hreleased,
    nil_append, append_nil]

variable {r : Round} {h : IpcHeader}

/-- A payload that is released once, after the writes. -/
theorem clean_around (hr : r.request = some h) {writes : List Event}
    (hwrites : ∀ e ∈ writes, e.written.isSome) (hone : (writes.filterMap Event.sent).length ≤ 1)
    (hsent : (∀ o ∈ writes.filterMap Event.written, o = .complete) → (writes.filterMap Event.sent).length = 1)
    (hid : ∀ a ∈ writes.filterMap Event.header, a.requestId = h.requestId)
    (hquiet : (writes.filterMap Event.written).Pairwise (fun first _ => first = .complete)) :
    Clean r (allocate h ++ (writes ++ release h)) := by
  have hnot {e : Event} (he : e.written = none) : writes.count e = 0 := by
    refine count_eq_zero_of_not_mem fun hmem => ?_
    have hsome := hwrites e hmem
    rw [he] at hsome
    exact nomatch hsome
  refine ⟨?_, fun _ _ => ?_, fun a ha => ?_, ?_, ?_, fun w => ?_⟩
  · rwa [filterMap_around rfl rfl]
  · rwa [filterMap_around rfl rfl, filterMap_around rfl rfl]
  · rw [filterMap_around rfl rfl] at ha
    exact ⟨h, hr, hid a ha⟩
  · rwa [filterMap_around rfl rfl]
  -- the writes themselves neither allocate nor release
  · have ha := hnot (e := .allocated) rfl
    have hr := hnot (e := .released) rfl
    simp [allocate_eq, release_eq, count_replicate, ha, hr]
  · have ho := hnot (e := .obtained w) rfl
    have hg := hnot (e := .givenUp w) rfl
    simp [allocate_eq, release_eq, count_replicate, ho, hg]

/-- An answer that is a header only is written once, whatever comes of it. -/
theorem clean_header (hr : r.request = some h) (t : MessageType) (size : Nat) :
    Clean r (allocate h ++ finish r h (.leave (answer h t size) [])) := by
  have hevents : finish r h (.leave (answer h t size) []) =
      [.wroteHeader (answer h t size) (r.writes 0)] ++ release h := rfl
  rw [hevents]
  refine clean_around hr ?_ ?_ ?_ ?_ ?_
  · simp [Event.written]
  · exact length_filterMap_le _ _
  · intro hall
    have hcomplete : r.writes 0 = .complete := hall _ (mem_singleton.mpr rfl)
    rw [hcomplete]
    rfl
  · simp [Event.header, answer]
  · exact pairwise_singleton _ _

variable {events : List Event}

/-- After a write that failed, the header is written once more. -/
theorem not_clean_leave {response : IpcHeader} {o : WriteOutcome}
    (hwrite : o ∈ events.filterMap Event.written) (hfailed : o ≠ .complete) :
    ¬ Clean r (allocate h ++ finish r h (.leave response events)) := by
  intro hclean
  have hquiet := hclean.quiet
  rw [finish, filterMap_append, filterMap_append] at hquiet
  have hrest := (pairwise_append.mp (pairwise_append.mp hquiet).2.1).2.2
  exact hfailed (hrest o hwrite _ mem_cons_self)

/-- An answer with a body is clean exactly if both of its writes succeed. -/
theorem clean_answerWithBody_iff (hr : r.request = some h) (t : MessageType) (size : Nat) :
    Clean r (allocate h ++ finish r h (answerWithBody r h (answer h t size))) ↔
      r.writes 0 = .complete ∧ r.writes 1 = .complete := by
  unfold answerWithBody
  split_ifs with hheader hbody
  · refine ⟨fun hclean => ?_, fun hok => absurd hok.1 hheader⟩
    exact absurd hclean (not_clean_leave mem_cons_self hheader)
  · refine ⟨fun hclean => ?_, fun hok => absurd hok.2 hbody⟩
    exact absurd hclean (not_clean_leave (mem_cons_of_mem _ mem_cons_self) hbody)
  · rw [not_not] at hheader hbody
    refine ⟨fun _ => ⟨hheader, hbody⟩, fun _ => ?_⟩
    rw [hheader, hbody]
    change Clean r (allocate h ++ ([_, _] ++ release h))
    refine clean_around hr ?_ ?_ ?_ ?_ ?_
    · simp [Event.written]
    · exact Nat.le_refl _
    · exact fun _ => rfl
    · simp [Event.header, answer]
    · simp [Event.written]

/-- A workload that was handed out stays with the daemon. -/
theorem not_clean_of_obtained {w : Nat} (hmem : .obtained w ∈ events)
    (hnot : .givenUp w ∉ events) : ¬ Clean r events := by
  intro hclean
  have hsame := hclean.workloads w
  rw [count_eq_zero_of_not_mem hnot] at hsame
  exact count_eq_zero.mp hsame hmem

variable (sizes : Sizes)

section
variable (hr : r.request = some h)
include hr

theorem clean_answerWorkloadSubmit_iff :
    Clean r (allocate h ++ finish r h (answerWorkloadSubmit sizes r h)) ↔
      (h.payloadSize ≠ 0 → sizes.submitInfo ≤ h.payloadSize.toNat → r.submitted = none) := by
  unfold answerWorkloadSubmit
  by_cases hsmall : h.payloadSize = 0 ∨ h.payloadSize.toNat < sizes.submitInfo
  · rw [if_pos hsmall]
    refine ⟨fun _ hpayload hsize => ?_, fun _ => clean_header hr _ _⟩
    exact (hsmall.elim hpayload (Nat.not_lt.mpr hsize)).elim
  · rw [if_neg hsmall]
    obtain ⟨hpayload, hsize⟩ := not_or.mp hsmall
    cases r.submitted with
    | none => exact ⟨fun _ _ _ => rfl, fun _ => clean_header hr _ _⟩
    | some w =>
      refine ⟨fun hclean => ?_, fun hok => nomatch hok hpayload (Nat.not_lt.mp hsize)⟩
      refine absurd hclean (not_clean_of_obtained (w := w) ?_ ?_)
      · dsimp only
        split_ifs <;> simp [finish]
      · dsimp only
        split_ifs <;> simp [finish, allocate_eq, release_eq]

/-- A request that was received completely is answered as it should exactly under the condition. -/
theorem clean_handleRequest_iff :
    Clean r (handleRequest sizes r h) ↔ RequestOk sizes r h := by
  unfold handleRequest process RequestOk
  cases MessageType.ofCode h.messageType with
  | none => exact ⟨fun _ => trivial, fun _ => clean_header hr _ _⟩
  | some t =>
    cases t with
    | gpuEnumerate =>
      unfold answerGpuEnumerate
      split_ifs with hcount
      · exact (clean_answerWithBody_iff hr _ _).trans ⟨fun hok _ => hok, fun hok => hok hcount⟩
      · exact ⟨fun _ hpos => absurd hpos hcount, fun _ => clean_header hr _ _⟩
    | configGet => exact clean_answerWithBody_iff hr _ _
    | workloadSubmit => exact clean_answerWorkloadSubmit_iff sizes hr
    | _ => exact ⟨fun _ => trivial, fun _ => clean_header hr _ _⟩

theorem handleRound_of_request :
    handleRound sizes r = (handleRequest sizes r h, true) := by
  unfold Round.request at hr
  unfold handleRound
  cases hreceived : r.received with
  | closed | shortHeader => rw [hreceived] at hr; exact nomatch hr
  | header h' payload =>
    rw [hreceived] at hr
    obtain ⟨⟨hmagic, hversion, hpayload⟩, hh⟩ := Option.ite_none_right_eq_some.mp hr
    cases hh
    dsimp only
    rw [if_neg (not_not_intro hmagic), if_neg (not_not_intro hversion)]
    split_ifs with hpos
    · rw [hpayload hpos]
    · rfl

end

section
variable (hr : r.request = none)
include hr

/-- A round that receives no request does nothing, but for a payload that comes short. -/
theorem handleRound_of_no_request :
    (handleRound sizes r).1 = [] ∨ ∃ h, (handleRound sizes r).1 = allocate h ++ release h := by
  unfold Round.request at hr
  unfold handleRound
  cases hreceived : r.received with
  | closed => exact Or.inl rfl
  | shortHeader => exact Or.inl rfl
  | header h payload =>
    rw [hreceived] at hr
    have hinvalid : ¬ (h.magic = ipcMagic ∧ h.version = ipcVersion ∧ (0 < h.payloadSize → payload = .whole)) :=
      fun hvalid => nomatch (if_pos hvalid).symm.trans hr
    dsimp only
    split_ifs with hmagic hversion hpos
    · exact Or.inl rfl
    · exact Or.inl rfl
    · cases payload with
      | noMemory => exact Or.inl rfl
      | short => exact Or.inr ⟨h, rfl⟩
      | whole => exact absurd ⟨not_not.mp hmagic, not_not.mp hversion, fun _ => rfl⟩ hinvalid
    · exact absurd ⟨not_not.mp hmagic, not_not.mp hversion, fun hsome => absurd hsome hpos⟩ hinvalid

theorem clean_nil : Clean r [] where
  atMostOne := Nat.zero_le _
  answered _ hsome := nomatch hr.symm.trans hsome
  requestId _ hmem := nomatch hmem
  quiet := Pairwise.nil
  payload := rfl
  workloads _ := rfl

theorem clean_short (h : IpcHeader) : Clean r (allocate h ++ release h) := by
  have hempty {β : Type} {f : Event → Option β} (ha : f .allocated = none) (hr : f .released = none) :
      (allocate h ++ release h).filterMap f = [] := filterMap_around ha hr h []
  refine ⟨?_, fun _ hsome => (nomatch hr.symm.trans hsome), fun a ha => ?_, ?_, ?_, fun w => ?_⟩
  · rw [hempty rfl rfl]
    exact Nat.zero_le _
  · rw [hempty rfl rfl] at ha
    exact nomatch ha
  · rw [hempty rfl rfl]
    exact Pairwise.nil
  · simp [allocate_eq, release_eq, count_replicate]
  · simp [allocate_eq, release_eq, count_replicate]

end

theorem clean_handleRound_iff (c : Connection) (r : Round) :
    Clean r (handleRound sizes r).1 ↔ RoundOk sizes c r := by
  cases hr : r.request with
  | none =>
    refine ⟨fun _ h hsome => (nomatch hr.symm.trans hsome), fun _ => ?_⟩
    cases handleRound_of_no_request sizes hr with
    | inl hnil => exact hnil ▸ clean_nil hr
    | inr hshort =>
      obtain ⟨h, hevents⟩ := hshort
      exact hevents ▸ clean_short hr h
  | some h =>
    rw [handleRound_of_request sizes hr, clean_handleRequest_iff sizes hr]
    refine ⟨fun hok q hq => ?_, fun hok => hok h hr⟩
    cases hr.symm.trans hq
    exact hok

/-- Each request gets one answer, and nothing leaks or is released twice, exactly if both writes
of every answer with a body succeed and the scheduler hands out no workload. -/
theorem requests_answered_iff (sizes : Sizes) (rounds : List Round) :
    Along (connectionStep sizes) AllClean Connection.accepted rounds ↔
      Admitted (connectionStep sizes) (RoundOk sizes) Connection.accepted rounds := by
  refine Run.along_iff_of_exact (fun c r c' hclean hstep => ?_) nofun rounds
  obtain ⟨_, rfl⟩ := Run.guarded hstep
  rw [← clean_handleRound_iff sizes c r]
  exact ⟨fun h => h _ (mem_append_right _ (mem_singleton.mpr rfl)),
    fun h => forall_mem_append.mpr ⟨hclean, forall_mem_singleton.mpr h⟩⟩

/-- A client asks for the configuration with a payload of one byte, and the write of the
configuration fails after that of the header. -/
def configLost : Round where
  received := .header ⟨ipcMagic, ipcVersion, MessageType.configGet.code, 1, 7⟩ .whole
  gpuCount := 0
  submitted := none
  writes k := if k = 1 then .failed else .complete

/-- The client gets two headers for one request, and the payload is released twice. -/
theorem requests_answered_config_lost :
    ¬ Along (connectionStep ⟨512, 256, 40⟩) AllClean Connection.accepted [configLost] := by
  intro h
  have hclean : Clean configLost (handleRound ⟨512, 256, 40⟩ configLost).1 :=
    h.final rfl (configLost, _) (mem_singleton.mpr rfl)
  have hpayload : 1 = 2 := hclean.payload
  exact nomatch hpayload

end Mvgal.Daemon
