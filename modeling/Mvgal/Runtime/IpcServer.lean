import Mvgal.Lib.Run
import Mvgal.Runtime.IpcConnection

/-! The clients of the daemon (`IpcServer::processEvents`).

Each call polls every client once, and drops those whose `processMessages` said `false`,
for whatever reason. `stream_handled_iff` says which polls leave the messages of every
client those of its stream. -/
namespace Mvgal.Runtime.Ipc
open Wire (Line)
open Function (update)

inductive Status where
  | absent
  | connected
  | dropped
deriving DecidableEq

/-- A client: its connection, the messages of it that were handled, and where it stands. -/
structure Client where
  connection : IpcClientConnection
  handled : List Message
  status : Status

def Client.new (status : Status) : Client := ⟨.new, [], status⟩

def Client.after (c : Client) : Outcome × IpcClientConnection → Client
  | (.unread _, connection) => ⟨connection, c.handled, .dropped⟩
  | (.refused, connection) => ⟨connection, c.handled, .dropped⟩
  | (.handled m stays, connection) => ⟨connection, c.handled ++ [m], if stays then .connected else .dropped⟩

def Client.poll (c : Client) (p : Poll) : Client :=
  if c.status = .connected then c.after (processMessages c.connection p) else c

abbrev Server := Nat → Client

def initial : Server := fun _ => .new .absent

inductive Action where
  | connect (id : Nat)
  | write (id : Nat) (bytes : List UInt8)
  | close (id : Nat)
  | fail (id : Nat)
  | processEvents (polls : Nat → Poll)

def Client.withLine (c : Client) (line : Line UInt8) : Client := {c with connection.line := line}

def step (s : Server) : Action → Option Server
  | .connect id => if (s id).status = .absent then some (update s id (.new .connected)) else none
  | .write id bytes =>
    if (s id).status = .connected then
      some (update s id ((s id).withLine ((s id).connection.line.write bytes)))
    else none
  | .close id =>
    if (s id).status = .connected then
      some (update s id ((s id).withLine {(s id).connection.line with closed := true}))
    else none
  | .fail id =>
    if (s id).status = .connected then
      some (update s id ((s id).withLine {(s id).connection.line with failed := true}))
    else none
  | .processEvents polls => some fun id => (s id).poll (polls id)

/-- The messages handled are those of the whole stream: of a connected client all but those
still to be read, of a dropped one all there are. It was dropped at the end of its stream
or at a malformed header; or its socket was broken, and then no message was skipped. -/
def Client.Faithful (c : Client) : Prop :=
  let line := c.connection.line
  match c.status with
  | .absent => True
  | .connected => (parse line.stream).1 = c.handled ++ (parse line.pending).1
  | .dropped =>
    (line.failed = true ∧ c.handled <+: (parse line.stream).1) ∨
      ((line.closed = true ∨ (parse line.stream).2 = true) ∧ c.handled = (parse line.stream).1)

/-- A message that is all there is handled by the next poll. -/
def Client.Responsive (c : Client) : Prop :=
  ∀ p m rest, c.status = .connected → c.connection.line.failed = false →
    (∀ moment ∈ p.moments, moment.fails = false) → p.authenticated = true →
    front c.connection.line.pending = .message m rest →
    ∃ payload, ∃ stays, (processMessages c.connection p).1 = .handled ⟨m.header, payload⟩ stays

def Faithful (s : Server) : Prop := ∀ id, (s id).Faithful ∧ (s id).Responsive

/-- A poll does no harm where it does not run out of bytes, does not refuse the message, and
handles one with its own payload; one that says goodbye (or whose answer did not fit the
socket) is the last of a stream that has ended. -/
def PollOk (outcome : Outcome) (line : Line UInt8) : Prop :=
  match outcome with
  | .unread (.stopped stop) => stop ≠ .wouldBlock
  | .unread (.malformed _) => True
  | .refused => False
  | .handled m stays =>
    OwnPayload m.header ∧ (stays = false → line.failed = true ∨
          ((line.closed = true ∨ (parse line.pending).2 = true) ∧ (parse line.pending).1 = []))

def StepOk (s : Server) : Action → Prop
  | .processEvents polls =>
    ∀ id, (s id).status = .connected → PollOk (processMessages (s id).connection (polls id)).1
        (processMessages (s id).connection (polls id)).2.line
  | _ => True

/-- Where a connected client stands in its stream. -/
structure Client.Tracked (c : Client) : Prop where
  read : ∃ before, c.connection.line.stream = before ++ c.connection.line.pending ∧ Wire.Parsed front before c.handled
  buffer : c.connection.receiveBuffer ≠ []

def Inv (s : Server) : Prop := ∀ id, (s id).status = .connected → (s id).Tracked

section Runs
variable {c : Client}

theorem Client.Tracked.faithful (h : c.Tracked) (hstatus : c.status = .connected) : c.Faithful := by
  obtain ⟨before, hstream, hparsed⟩ := h.read
  unfold Client.Faithful
  rw [hstatus]
  show (Wire.parse front _).1 = _
  rw [hstream, hparsed]
  rfl

theorem Client.Tracked.responsive (h : c.Tracked) : c.Responsive := by
  intro p m tail _ hfailed hfails hauthenticated hfront
  obtain ⟨before, hstream, -⟩ := h.read
  exact processMessages_front p hstream hfailed hfails hauthenticated hfront

/-- What a poll that read `bytes` leaves of the stream to be parsed. -/
theorem parse_read {l : Line UInt8} {before bytes : List UInt8} {messages : List Message}
    (hparsed : Wire.Parsed front before messages) (hstream : l.stream = before ++ bytes ++ l.pending) :
    parse l.stream = (messages ++ (parse (bytes ++ l.pending)).1, (parse (bytes ++ l.pending)).2) := by
  rw [hstream, List.append_assoc]
  exact hparsed (bytes ++ l.pending)

section After
variable {connection : IpcClientConnection} {before bytes : List UInt8}
  (hparsed : Wire.Parsed front before c.handled)
  (hstream : connection.line.stream = before ++ bytes ++ connection.line.pending)
include hparsed hstream

/-- A poll that read no message drops the client, and rightly so unless it only had to wait. -/
theorem unread_faithful_iff {e : ReadError} (hexplains : Explains connection.line bytes (.unread e)) :
    (c.after (.unread e, connection)).Faithful ↔ PollOk (.unread e) connection.line := by
  have hparse := parse_read hparsed hstream
  cases e with
  | malformed e =>
    have hrest : parse (bytes ++ connection.line.pending) = ([], true) := Wire.parse_malformed (hexplains _)
    rw [hrest] at hparse
    simp [Client.after, Client.Faithful, PollOk, hparse]
  | stopped stop =>
    obtain ⟨hfront, hstopped⟩ := hexplains
    have hdry : connection.line.pending = [] → parse (bytes ++ connection.line.pending) = ([], false) := by
      intro hpending
      rw [hpending, List.append_nil]
      exact Wire.parse_incomplete hfront
    cases stop with
    | failed =>
      have hfailed : connection.line.failed = true := hstopped
      simp [Client.after, Client.Faithful, PollOk, hparse, hfailed]
    | closed =>
      obtain ⟨hpending, hclosed⟩ := hstopped
      rw [hdry hpending] at hparse
      simp [Client.after, Client.Faithful, PollOk, hparse, hclosed]
    | wouldBlock =>
      obtain ⟨hpending, hclosed, hfailed⟩ := hstopped
      rw [hdry hpending] at hparse
      simp [Client.after, Client.Faithful, PollOk, hparse, hclosed, hfailed]

/-- A refused message is one that the stream has and the server has not handled. -/
theorem refused_faithful_iff (hexplains : Explains connection.line bytes .refused) :
    (c.after (.refused, connection)).Faithful ↔ PollOk .refused connection.line := by
  have hparse := parse_read hparsed hstream
  obtain ⟨hfailed, m, hfront⟩ := hexplains
  rw [parse_message (hfront _)] at hparse
  simp [Client.after, Client.Faithful, PollOk, hparse, hfailed]

theorem handled_faithful_iff {m : Message} (stays : Bool)
    (hexplains : Explains connection.line bytes (.handled m stays)) :
    (c.after (.handled m stays, connection)).Faithful ↔ PollOk (.handled m stays) connection.line := by
  have hparse := parse_read hparsed hstream
  obtain ⟨payload, hfront, hown⟩ := hexplains
  rw [parse_message (hfront _)] at hparse
  have hm : m = ⟨m.header, payload⟩ ↔ OwnPayload m.header := by
    rw [← hown]
    exact ⟨congrArg Message.payload, fun h => by rw [← h]⟩
  rw [PollOk, ← hm]
  cases stays with
  | true =>
    -- what is still to be read is the same on both sides
    simp only [Client.after, Client.Faithful, hparse, if_true, List.append_assoc, List.append_cancel_left_eq,
      List.singleton_append, List.cons.injEq, and_true, Bool.true_eq_false, false_implies]
    exact eq_comm
  | false =>
    simp only [Client.after, Client.Faithful, hparse, Bool.false_eq_true, if_false, forall_const,
      List.prefix_append_right_inj, List.cons_prefix_cons, List.nil_prefix, and_true,
      List.append_cancel_left_eq, List.cons.injEq, eq_comm]
    tauto

end After

/-- A poll keeps the client faithful exactly if it does no harm. -/
theorem after_faithful_iff (p : Poll) (h : c.Tracked) :
    (c.after (processMessages c.connection p)).Faithful ↔
      PollOk (processMessages c.connection p).1 (processMessages c.connection p).2.line := by
  obtain ⟨before, hstream, hparsed⟩ := h.read
  cases hpoll : processMessages c.connection p with
  | mk outcome connection =>
    obtain ⟨bytes, hstream', hexplains⟩ := processMessages_explains p hstream h.buffer hpoll
    cases outcome with
    | unread e => exact unread_faithful_iff hparsed hstream' hexplains
    | refused => exact refused_faithful_iff hparsed hstream' hexplains
    | handled m stays => exact handled_faithful_iff hparsed hstream' stays hexplains

/-- After a poll that does no harm, a client that is still there has one more message behind it. -/
theorem after_tracked (p : Poll) (h : c.Tracked)
    (hok : PollOk (processMessages c.connection p).1 (processMessages c.connection p).2.line)
    (hstays : (c.after (processMessages c.connection p)).status = .connected) :
    (c.after (processMessages c.connection p)).Tracked := by
  obtain ⟨before, hstream, hparsed⟩ := h.read
  cases hpoll : processMessages c.connection p with
  | mk outcome connection =>
    rw [hpoll] at hok hstays
    obtain ⟨bytes, hstream', hexplains⟩ := processMessages_explains p hstream h.buffer hpoll
    cases outcome with
    | unread e | refused => exact absurd hstays (by simp [Client.after])
    | handled m stays =>
      obtain ⟨payload, hfront, hown⟩ := hexplains
      obtain rfl := hown.mpr hok.1
      exact ⟨⟨before ++ bytes, hstream', hparsed.message front_shrinks hfront⟩,
        processMessages_buffer hstream h.buffer hpoll⟩

theorem poll_connected (p : Poll) (hstatus : c.status = .connected) :
    c.poll p = c.after (processMessages c.connection p) :=
  if_pos hstatus

theorem poll_other (p : Poll) (hstatus : c.status ≠ .connected) : c.poll p = c :=
  if_neg hstatus

theorem Client.Tracked.withLine {line : Line UInt8} (h : c.Tracked)
    (hline : ∀ before, c.connection.line.stream = before ++ c.connection.line.pending →
      line.stream = before ++ line.pending) : (c.withLine line).Tracked := by
  obtain ⟨before, hstream, hparsed⟩ := h.read
  exact ⟨⟨before, hline before hstream, hparsed⟩, h.buffer⟩

theorem tracked_new : (Client.new .connected).Tracked :=
  ⟨⟨[], rfl, Wire.parsed_nil⟩, List.cons_ne_nil _ _⟩

end Runs

variable {a : Action}

section Servers
variable {s s' : Server}

/-- A step other than `processEvents` concerns one client that is connected after it. -/
theorem step_client (hstep : step s a = some s') (hi : Inv s) :
    (∃ polls, a = .processEvents polls ∧ s' = fun id => (s id).poll (polls id)) ∨
      ((∀ polls, a ≠ .processEvents polls) ∧
        ∃ id c, s' = update s id c ∧ c.status = .connected ∧ c.Tracked) := by
  cases a with
  | connect id =>
    obtain ⟨-, rfl⟩ := Run.guarded hstep
    exact .inr ⟨nofun, id, _, rfl, rfl, tracked_new⟩
  | write id bytes =>
    obtain ⟨hstatus, rfl⟩ := Run.guarded hstep
    exact .inr ⟨nofun, id, _, rfl, hstatus, (hi id hstatus).withLine fun _ h => Wire.write_stream h bytes⟩
  | close id | fail id =>
    obtain ⟨hstatus, rfl⟩ := Run.guarded hstep
    exact .inr ⟨nofun, id, _, rfl, hstatus, (hi id hstatus).withLine fun _ h => h⟩
  | processEvents polls => exact .inl ⟨polls, rfl, (Option.some.inj hstep).symm⟩

theorem step_inv (hi : Inv s) (hstep : step s a = some s') (hok : StepOk s a) : Inv s' := by
  obtain ⟨polls, rfl, rfl⟩ | ⟨-, id, c, rfl, hstatus, htracked⟩ := step_client hstep hi
  · intro id (hstays : ((s id).poll (polls id)).status = .connected)
    by_cases hstatus : (s id).status = .connected
    · rw [poll_connected (polls id) hstatus] at hstays
      show ((s id).poll (polls id)).Tracked
      rw [poll_connected (polls id) hstatus]
      exact after_tracked (polls id) (hi id hstatus) (hok id hstatus) hstays
    · rw [poll_other (polls id) hstatus] at hstays
      exact absurd hstays hstatus
  · intro other hother
    by_cases hid : other = id
    · rw [hid, Function.update_self]
      exact htracked
    · rw [Function.update_of_ne hid] at hother ⊢
      exact hi other hother

theorem Inv.responsive (hi : Inv s) (id : Nat) : (s id).Responsive := by
  intro p m tail hstatus
  exact (hi id hstatus).responsive p m tail hstatus

theorem polled_faithful_iff (polls : Nat → Poll) (hi : Inv s) (hp : Faithful s) :
    (∀ id, ((s id).poll (polls id)).Faithful) ↔ StepOk s (.processEvents polls) := by
  apply forall_congr'
  intro id
  by_cases hstatus : (s id).status = .connected
  · rw [poll_connected (polls id) hstatus, after_faithful_iff (polls id) (hi id hstatus)]
    exact ⟨fun h _ => h, fun h => h hstatus⟩
  · rw [poll_other (polls id) hstatus]
    exact ⟨fun _ h => absurd h hstatus, fun _ => (hp id).1⟩

theorem step_faithful_iff (hi : Inv s) (hp : Faithful s) (hstep : step s a = some s') :
    Faithful s' ↔ StepOk s a := by
  obtain ⟨polls, rfl, rfl⟩ | ⟨hother, id, c, rfl, hstatus, htracked⟩ := step_client hstep hi
  · constructor
    · intro h
      exact (polled_faithful_iff polls hi hp).mp fun id => (h id).1
    · intro hok id
      exact ⟨(polled_faithful_iff polls hi hp).mpr hok id, (step_inv hi hstep hok).responsive id⟩
  · have hok : StepOk s a := by
      cases a with
      | processEvents polls => exact absurd rfl (hother polls)
      | _ => trivial
    refine ⟨fun _ => hok, fun _ other => ⟨?_, (step_inv hi hstep hok).responsive other⟩⟩
    by_cases hid : other = id
    · rw [hid, Function.update_self]
      exact htracked.faithful hstatus
    · rw [Function.update_of_ne hid]
      exact (hp other).1

def halfHello : List UInt8 := [0x4D, 0x56, 0x47, 0x4C, 0, 0, 0, 1, 0, 0, 0, 0, 0, 0]

end Servers

end Mvgal.Runtime.Ipc
