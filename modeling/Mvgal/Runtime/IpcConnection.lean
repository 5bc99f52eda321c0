import Mvgal.Lib.Wire

/-! One connection to the daemon (`ipc_server.cpp`).

A client writes messages, a header of seven words and a payload, to a non-blocking socket,
and each call to `processMessages` reads one of them. A read that finds nothing gives up
with the same `false` that stands for the end of the stream and for a broken header, and
what it has read of the message by then is gone. `processMessages_explains` says of every
outcome which part of the stream it used up, and `processMessages_front` that a call does
not run out of bytes where a message is there.

The buffer of a connection is filled only for a message that has a payload, so a request
without one is answered from what an earlier message left there. -/
namespace Mvgal.Runtime.Ipc
open List
open Wire (Line Moment Stop Front readExactly)

inductive IpcMessageType where
  | hello
  | goodbye
  | queryDevices
  | queryDeviceCapabilities
  | queryUnifiedCapabilities
  | allocMemory
  | freeMemory
  | importDmabuf
  | exportDmabuf
  | submitWorkload
  | waitWorkload
  | setSchedulingMode
  | setGpuPriority
  | setGpuEnabled
  | getStatistics
  | subscribeTelemetry
  | unsubscribeTelemetry
  | getConfig
  | setConfig
  | loadConfig
  | saveConfig
  | error
deriving DecidableEq

def IpcMessageType.ofCode (code : UInt32) : Option IpcMessageType :=
  match code.toNat with
  | 0 => some .hello
  | 1 => some .goodbye
  | 10 => some .queryDevices
  | 11 => some .queryDeviceCapabilities
  | 12 => some .queryUnifiedCapabilities
  | 20 => some .allocMemory
  | 21 => some .freeMemory
  | 22 => some .importDmabuf
  | 23 => some .exportDmabuf
  | 30 => some .submitWorkload
  | 31 => some .waitWorkload
  | 40 => some .setSchedulingMode
  | 41 => some .setGpuPriority
  | 42 => some .setGpuEnabled
  | 50 => some .getStatistics
  | 51 => some .subscribeTelemetry
  | 52 => some .unsubscribeTelemetry
  | 60 => some .getConfig
  | 61 => some .setConfig
  | 62 => some .loadConfig
  | 63 => some .saveConfig
  | 0xFFFFFFFF => some .error
  | _ => none

structure IpcMessageHeader where
  magic : UInt32
  version : UInt32
  messageType : UInt32
  requestId : UInt32
  payloadSize : UInt32
  flags : UInt32
  reserved : UInt32
deriving DecidableEq

/-- `static_cast<IpcMessageType>(header.messageType)`. -/
def IpcMessageHeader.type (h : IpcMessageHeader) : Option IpcMessageType := IpcMessageType.ofCode h.messageType

structure Message where
  header : IpcMessageHeader
  payload : List UInt8
deriving DecidableEq

def ipcMagic : UInt32 := 0x4D56474C

def ipcVersion : UInt32 := 1

/-- `sizeof(IpcMessageHeader)`. -/
def headerSize : Nat := 28

def ntohl (bytes : List UInt8) : UInt32 := bytes.foldl (fun n byte => n * 256 + byte.toUInt32) 0

def IpcMessageHeader.ofBytes (bytes : List UInt8) : IpcMessageHeader :=
  let word i := ntohl ((bytes.drop (4 * i)).take 4)
  ⟨word 0, word 1, word 2, word 3, word 4, word 5, word 6⟩

inductive HeaderError where
  | invalidMagic
  | unsupportedVersion
deriving DecidableEq

def IpcMessageHeader.validate (h : IpcMessageHeader) : Except HeaderError Unit :=
  if h.magic ≠ ipcMagic then .error .invalidMagic
  else if h.version ≠ ipcVersion then .error .unsupportedVersion
  else .ok ()

def front (bytes : List UInt8) : Front UInt8 Message :=
  if bytes.length < headerSize then .incomplete
  else
    let header := IpcMessageHeader.ofBytes (bytes.take headerSize)
    let rest := bytes.drop headerSize
    match header.validate with
    | .error _ => .malformed
    | .ok _ =>
      if rest.length < header.payloadSize.toNat then .incomplete
      else .message ⟨header, rest.take header.payloadSize.toNat⟩ (rest.drop header.payloadSize.toNat)

def parse (bytes : List UInt8) : List Message × Bool := Wire.parse front bytes

inductive ReadError where
  | stopped (stop : Stop)
  | malformed (e : HeaderError)

/-- How `processMessages` ended. -/
inductive Outcome where
  | unread (e : ReadError)
  | refused
  | handled (m : Message) (stays : Bool)

/-- What became of the answer to HELLO: it is sent, the socket takes less than all of it,
or the socket is broken. -/
inductive Reply where
  | sent
  | short
  | broken
deriving DecidableEq

structure Poll where
  moments : List (Moment UInt8)
  authenticated : Bool
  reply : Reply

structure IpcClientConnection where
  line : Line UInt8
  receiveBuffer : List UInt8

def IpcClientConnection.new : IpcClientConnection := ⟨.new, List.replicate 4096 0⟩

def readMessageHeader (l : Line UInt8) (moments : List (Moment UInt8)) :
    Except ReadError IpcMessageHeader × Line UInt8 × List (Moment UInt8) :=
  match readExactly headerSize l moments with
  | (.error stop, l, moments) => (.error (.stopped stop), l, moments)
  | (.ok bytes, l, moments) =>
    let header := IpcMessageHeader.ofBytes bytes
    match header.validate with
    | .error e => (.error (.malformed e), l, moments)
    | .ok _ => (.ok header, l, moments)

def readPayload (size : Nat) (l : Line UInt8) (moments : List (Moment UInt8)) :
    Except Stop (List UInt8) × Line UInt8 × List (Moment UInt8) :=
  readExactly size l moments

/-- The handlers that look at the receive buffer. -/
def readsPayload : Option IpcMessageType → Bool
  | some .queryDeviceCapabilities => true
  | some .allocMemory => true
  | some .freeMemory => true
  | some .waitWorkload => true
  | some .setSchedulingMode => true
  | some .setGpuPriority => true
  | some .setGpuEnabled => true
  | _ => false

def IpcClientConnection.payloadOf (c : IpcClientConnection) (h : IpcMessageHeader) : List UInt8 :=
  if h.payloadSize = 0 ∧ readsPayload h.type = false then [] else c.receiveBuffer

/-- The result of the switch over the types of messages. -/
def stays (reply : Reply) : Option IpcMessageType → Bool
  | some .hello => reply == .sent
  | some .goodbye => false
  | _ => true

/-- The first half of `processMessages`: a header, and its payload where it has one. -/
def receive (c : IpcClientConnection) (moments : List (Moment UInt8)) :
    Except ReadError IpcMessageHeader × IpcClientConnection :=
  match readMessageHeader c.line moments with
  | (.error e, l, _) => (.error e, {c with line := l})
  | (.ok header, l, moments) =>
    if header.payloadSize = 0 then (.ok header, {c with line := l})
    else
      -- the source resizes the buffer before it reads; a client whose read fails takes it along
      match readPayload header.payloadSize.toNat l moments with
      | (.error stop, l, _) => (.error (.stopped stop), {c with line := l})
      | (.ok bytes, l, _) => (.ok header, ⟨l, bytes⟩)

/-- The second half: authentication and the handlers. -/
def handle (c : IpcClientConnection) (p : Poll) (header : IpcMessageHeader) : Outcome × IpcClientConnection :=
  if header.type ≠ some .hello ∧ p.authenticated = false then (.refused, c)
  else
    -- of all answers only the one to HELLO is looked at
    (.handled ⟨header, c.payloadOf header⟩ (stays p.reply header.type),
      {c with line.failed := c.line.failed || (header.type == some .hello && p.reply == .broken)})

def processMessages (c : IpcClientConnection) (p : Poll) : Outcome × IpcClientConnection :=
  match receive c p.moments with
  | (.error e, c) => (.unread e, c)
  | (.ok header, c) => handle c p header

def OwnPayload (h : IpcMessageHeader) : Prop :=
  h.payloadSize = 0 → readsPayload h.type = false

/-! ### Cutting a stream into messages -/

variable {m : Message}

section Format
variable {bytes header payload tail : List UInt8}

theorem front_short (h : bytes.length < headerSize) : front bytes = .incomplete := by
  unfold front
  rw [if_pos h]

section
variable (hheader : header.length = headerSize)
include hheader

/-- The front of a stream that begins with a whole header. -/
theorem front_header (tail : List UInt8) : front (header ++ tail) =
      match (IpcMessageHeader.ofBytes header).validate with
      | .error _ => .malformed
      | .ok _ =>
        if tail.length < (IpcMessageHeader.ofBytes header).payloadSize.toNat then .incomplete
        else .message ⟨.ofBytes header, tail.take (IpcMessageHeader.ofBytes header).payloadSize.toNat⟩
          (tail.drop (IpcMessageHeader.ofBytes header).payloadSize.toNat) := by
  unfold front
  rw [if_neg (by rw [length_append]; omega), ← hheader, take_left, drop_left]

theorem front_malformed {e : HeaderError}
    (hvalid : (IpcMessageHeader.ofBytes header).validate = .error e) (tail : List UInt8) :
    front (header ++ tail) = .malformed := by
  rw [front_header hheader, hvalid]

variable (hvalid : (IpcMessageHeader.ofBytes header).validate = .ok ())
include hvalid

theorem front_incomplete
    (hpayload : payload.length < (IpcMessageHeader.ofBytes header).payloadSize.toNat) :
    front (header ++ payload) = .incomplete := by
  rw [front_header hheader, hvalid]
  exact if_pos hpayload

theorem front_message
    (hpayload : payload.length = (IpcMessageHeader.ofBytes header).payloadSize.toNat) (tail : List UInt8) :
    front (header ++ payload ++ tail) = .message ⟨.ofBytes header, payload⟩ tail := by
  rw [append_assoc, front_header hheader, hvalid, ← hpayload, take_left, drop_left]
  exact if_neg (by rw [length_append]; omega)

end

variable {rest : List UInt8}

variable (h : front bytes = .message m rest)
include h

/-- A message at the front is a header and its payload. -/
theorem front_message_inv :
    ∃ header payload, bytes = header ++ payload ++ rest ∧ header.length = headerSize ∧
      ∀ tail, front (header ++ payload ++ tail) = .message m tail := by
  by_cases hshort : bytes.length < headerSize
  · rw [front_short hshort] at h
    cases h
  · have hheader : (bytes.take headerSize).length = headerSize := by
      rw [length_take]
      omega
    rw [← take_append_drop headerSize bytes, front_header hheader] at h
    cases hvalid : (IpcMessageHeader.ofBytes (bytes.take headerSize)).validate with
    | error e =>
      rw [hvalid] at h
      cases h
    | ok u =>
      rw [hvalid] at h
      dsimp only at h
      split at h
      · cases h
      · rename_i hlong
        cases h
        refine ⟨bytes.take headerSize, _, ?_, hheader, front_message hheader hvalid ?_⟩
        · rw [append_assoc, take_append_drop, take_append_drop]
        · rw [length_take]
          omega

omit h in
theorem front_shrinks : Wire.Shrinks front := by
  intro bytes m rest h
  obtain ⟨header, payload, rfl, hheader, -⟩ := front_message_inv h
  simp only [length_append, hheader, headerSize]
  omega

theorem parse_message :
    parse bytes = (m :: (parse rest).1, (parse rest).2) :=
  Wire.parse_message front_shrinks h

/-- More bytes do not change a message that is complete. -/
theorem front_append
    (more : List UInt8) : front (bytes ++ more) = .message m (rest ++ more) := by
  obtain ⟨header, payload, rfl, -, hfront⟩ := front_message_inv h
  rw [append_assoc, hfront]

end Format

/-- What of the stream a poll stands for that took `bytes` from the line. -/
def Explains (l : Line UInt8) (bytes : List UInt8) : Outcome → Prop
  | .unread (.stopped stop) => front bytes = .incomplete ∧ l.StoppedBy stop
  | .unread (.malformed _) => ∀ tail, front (bytes ++ tail) = .malformed
  | .refused => l.failed = false ∧ ∃ m, ∀ tail, front (bytes ++ tail) = .message m tail
  | .handled m _ =>
    ∃ payload, (∀ tail, front (bytes ++ tail) = .message ⟨m.header, payload⟩ tail) ∧
      (m.payload = payload ↔ OwnPayload m.header)

/-- `header` was read, as the first bytes of a message. -/
structure HeaderRead (bytes : List UInt8) (header : IpcMessageHeader) : Prop where
  length : bytes.length = headerSize
  decoded : header = .ofBytes bytes
  valid : header.validate = .ok ()

/-- A message was received: the buffer holds its payload, or is what it was. -/
structure Received (c c' : IpcClientConnection) (bytes payload : List UInt8) (header : IpcMessageHeader) : Prop where
  front : ∀ tail, front (bytes ++ tail) = .message ⟨header, payload⟩ tail
  intact : c'.line.failed = false
  size : payload.length = header.payloadSize.toNat
  buffer : c'.receiveBuffer = if header.payloadSize = 0 then c.receiveBuffer else payload

variable {tail bytes payload : List UInt8}

section Poll
variable {l l' : Line UInt8} {c c' : IpcClientConnection} {before : List UInt8} {moments rest : List (Moment UInt8)}
  {header : IpcMessageHeader} {result : Except ReadError IpcMessageHeader}

theorem readMessageHeader_spec (hline : l.stream = before ++ l.pending)
    (h : readMessageHeader l moments = (result, l', rest)) :
    l.Later moments l' rest ∧ ∃ bytes, l'.stream = before ++ bytes ++ l'.pending ∧ match result with
      | .ok header => HeaderRead bytes header ∧ l'.failed = false
      | .error e => Explains l' bytes (.unread e) := by
  unfold readMessageHeader at h
  split at h
  · rename_i stop l₁ rest₁ hread
    obtain ⟨rfl, rfl, rfl⟩ := by simpa only [Prod.mk.injEq] using h
    obtain ⟨bytes, hstream, hlength, hstopped⟩ := Wire.readExactly_stop hline hread
    exact ⟨Wire.readExactly_later hline hread, bytes, hstream, front_short hlength, hstopped⟩
  · rename_i bytes l₁ rest₁ hread
    obtain ⟨hlength, hstream, hfailed⟩ := Wire.readExactly_ok hline hread
    dsimp only at h
    split at h
    · rename_i e hinvalid
      obtain ⟨rfl, rfl, rfl⟩ := by simpa only [Prod.mk.injEq] using h
      exact ⟨Wire.readExactly_later hline hread, bytes, hstream, front_malformed hlength hinvalid⟩
    · rename_i hvalid
      obtain ⟨rfl, rfl, rfl⟩ := by simpa only [Prod.mk.injEq] using h
      exact ⟨Wire.readExactly_later hline hread, bytes, hstream, ⟨hlength, rfl, hvalid⟩,
        hfailed (.inl (by decide))⟩

theorem HeaderRead.received_none (h : HeaderRead bytes header) (hzero : header.payloadSize = 0)
    (hfailed : l'.failed = false) : Received c {c with line := l'} bytes [] header := by
  obtain ⟨hlength, rfl, hvalid⟩ := h
  have hnone : ([] : List UInt8).length = (IpcMessageHeader.ofBytes bytes).payloadSize.toNat := by
    rw [hzero]
    rfl
  refine ⟨fun tail => ?_, hfailed, hnone, (if_pos hzero).symm⟩
  simpa using front_message hlength hvalid hnone tail

/-- What `receive` took from the line, and what it has got. -/
theorem receive_spec (hline : c.line.stream = before ++ c.line.pending) (h : receive c moments = (result, c')) :
    (∃ rest, c.line.Later moments c'.line rest) ∧
      ∃ bytes, c'.line.stream = before ++ bytes ++ c'.line.pending ∧ match result with
        | .ok header => ∃ payload, Received c c' bytes payload header
        | .error e => Explains c'.line bytes (.unread e) := by
  unfold receive at h
  split at h
  · rename_i hread
    cases h
    obtain ⟨hlater, hread⟩ := readMessageHeader_spec hline hread
    exact ⟨⟨_, hlater⟩, hread⟩
  · rename_i header l₁ rest₁ hread
    obtain ⟨hlater, bytes, hstream, hheader, hfailed⟩ := readMessageHeader_spec hline hread
    split at h
    · rename_i hzero
      cases h
      exact ⟨⟨_, hlater⟩, bytes, hstream, [], hheader.received_none hzero hfailed⟩
    · rename_i hne
      obtain ⟨hlength, rfl, hvalid⟩ := hheader
      split at h
      · rename_i hpayload
        cases h
        obtain ⟨payload, hstream', hsize, hstopped⟩ := Wire.readExactly_stop hstream hpayload
        exact ⟨⟨_, hlater.trans (Wire.readExactly_later hstream hpayload)⟩, bytes ++ payload,
          by simpa using hstream', front_incomplete hlength hvalid hsize, hstopped⟩
      · rename_i payload l₂ rest₂ hpayload
        cases h
        obtain ⟨hsize, hstream', hfailed'⟩ := Wire.readExactly_ok hstream hpayload
        exact ⟨⟨_, hlater.trans (Wire.readExactly_later hstream hpayload)⟩, bytes ++ payload,
          by simpa using hstream', payload, front_message hlength hvalid hsize, hfailed' (.inr hfailed), hsize,
          (if_neg hne).symm⟩

/-- The buffer never becomes empty: it is only given the size of a payload there is. -/
theorem Received.buffer_ne_nil (h : Received c c' bytes payload header)
    (hbuffer : c.receiveBuffer ≠ []) : c'.receiveBuffer ≠ [] := by
  rw [h.buffer]
  split
  · exact hbuffer
  · rename_i hne
    intro hnil
    have hsize := h.size
    rw [hnil] at hsize
    exact hne (UInt32.toNat_inj.mp hsize.symm)

/-- So what a handler finds there is the payload of its message only where the message has one. -/
theorem Received.payloadOf_eq_iff (h : Received c c' bytes payload header)
    (hbuffer : c.receiveBuffer ≠ []) : c'.payloadOf header = payload ↔ OwnPayload header := by
  unfold IpcClientConnection.payloadOf OwnPayload
  by_cases hzero : header.payloadSize = 0
  · have hnil : payload = [] := length_eq_zero_iff.mp (by rw [h.size, hzero]; rfl)
    have hc' : c'.receiveBuffer = c.receiveBuffer := by rw [h.buffer, if_pos hzero]
    cases hreads : readsPayload header.type with
    | true => simpa [hzero, hc', hnil] using hbuffer
    | false => simp [hzero, hnil]
  · have hc' : c'.receiveBuffer = payload := by rw [h.buffer, if_neg hzero]
    simp [hzero, hc']

/-- The two ways a poll can go: no message was read, or one was, and went to the handlers. -/
theorem processMessages_cases (c : IpcClientConnection) (p : Poll) :
    (∃ e c', receive c p.moments = (.error e, c') ∧ processMessages c p = (.unread e, c')) ∨
      ∃ header c', receive c p.moments = (.ok header, c') ∧ processMessages c p = handle c' p header := by
  unfold processMessages
  cases hreceive : receive c p.moments with
  | mk result c' =>
    cases result with
    | error e => exact .inl ⟨e, c', rfl, rfl⟩
    | ok header => exact .inr ⟨header, c', rfl, rfl⟩

theorem handle_cases (c : IpcClientConnection) (p : Poll) (header : IpcMessageHeader) :
    (p.authenticated = false ∧ handle c p header = (.refused, c)) ∨ ∃ failed, handle c p header =
        (.handled ⟨header, c.payloadOf header⟩ (stays p.reply header.type), {c with line.failed := failed}) := by
  unfold handle
  split
  · rename_i hrefused
    exact .inl ⟨hrefused.2, rfl⟩
  · exact .inr ⟨_, rfl⟩

/-- **What a poll did.** The bytes it took are gone from the line. -/
theorem processMessages_explains (p : Poll) (hline : c.line.stream = before ++ c.line.pending)
    (hbuffer : c.receiveBuffer ≠ []) {outcome : Outcome} (h : processMessages c p = (outcome, c')) :
    ∃ bytes, c'.line.stream = before ++ bytes ++ c'.line.pending ∧ Explains c'.line bytes outcome := by
  obtain ⟨e, c₁, hreceive, hpoll⟩ | ⟨header, c₁, hreceive, hpoll⟩ := processMessages_cases c p
  · cases h.symm.trans hpoll
    exact (receive_spec hline hreceive).2
  · obtain ⟨-, bytes, hstream, payload, hreceived⟩ := receive_spec hline hreceive
    obtain ⟨-, hhandle⟩ | ⟨failed, hhandle⟩ := handle_cases c₁ p header
    · cases h.symm.trans (hpoll.trans hhandle)
      exact ⟨bytes, hstream, hreceived.intact, _, hreceived.front⟩
    · cases h.symm.trans (hpoll.trans hhandle)
      exact ⟨bytes, hstream, payload, hreceived.front, hreceived.payloadOf_eq_iff hbuffer⟩

section
variable (hline : c.line.stream = before ++ c.line.pending)
include hline

theorem processMessages_handled {p : Poll} {stays : Bool}
    (h : processMessages c p = (.handled m stays, c')) :
    ∃ c₁ bytes payload, Received c c₁ bytes payload m.header ∧ m.payload = c₁.payloadOf m.header ∧
      c'.receiveBuffer = c₁.receiveBuffer := by
  obtain ⟨e, c₁, hreceive, hpoll⟩ | ⟨header, c₁, hreceive, hpoll⟩ := processMessages_cases c p
  · cases congrArg Prod.fst (h.symm.trans hpoll)
  · obtain ⟨-, bytes, -, payload, hreceived⟩ := receive_spec hline hreceive
    obtain ⟨-, hhandle⟩ | ⟨failed, hhandle⟩ := handle_cases c₁ p header
    · cases congrArg Prod.fst (h.symm.trans (hpoll.trans hhandle))
    · obtain ⟨hm, rfl⟩ := Prod.mk.inj (h.symm.trans (hpoll.trans hhandle))
      cases hm
      exact ⟨c₁, bytes, payload, hreceived, rfl, rfl⟩

theorem processMessages_buffer {p : Poll} {stays : Bool}
    (hbuffer : c.receiveBuffer ≠ [])
    (h : processMessages c p = (.handled m stays, c')) : c'.receiveBuffer ≠ [] := by
  obtain ⟨c₁, bytes, payload, hreceived, -, hsame⟩ := processMessages_handled hline h
  rw [hsame]
  exact hreceived.buffer_ne_nil hbuffer

/-! ### No poll passes over a message that is there -/

omit hline in
/-- What is at the front of the line before a poll is at the front of what the poll reads. -/
theorem front_read (hline : l.stream = before ++ l.pending)
    (hline' : l'.stream = before ++ bytes ++ l'.pending) (hlater : l.Later moments l' rest)
    (hfront : front l.pending = .message m tail) : ∃ tail', front (bytes ++ l'.pending) = .message m tail' := by
  have hgrown : l.pending <+: bytes ++ l'.pending := by
    have h := hlater.grown
    rwa [hline, hline', append_assoc, List.prefix_append_right_inj] at h
  obtain ⟨more, hmore⟩ := hgrown
  rw [← hmore]
  exact ⟨tail ++ more, front_append hfront more⟩

theorem receive_front
    (hfailed : c.line.failed = false) (hfails : ∀ moment ∈ moments, moment.fails = false)
    (hfront : front c.line.pending = .message m tail) (h : receive c moments = (result, c')) :
    result = .ok m.header := by
  obtain ⟨⟨later, hlater⟩, bytes, hstream, hresult⟩ := receive_spec hline h
  obtain ⟨tail', hread⟩ := front_read hline hstream hlater hfront
  cases result with
  | error e =>
    cases e with
    | malformed e =>
      rw [hresult] at hread
      cases hread
    | stopped stop =>
      obtain ⟨hincomplete, hstopped⟩ := hresult
      have hintact : c'.line.failed = false := (hlater.intact hfails hfailed).1
      have hempty : c'.line.pending = [] := by
        cases stop with
        | closed => exact hstopped.1
        | wouldBlock => exact hstopped.1
        | failed => exact absurd (hstopped.symm.trans hintact) (by simp)
      rw [hempty, append_nil, hincomplete] at hread
      cases hread
  | ok header =>
    obtain ⟨payload, hreceived⟩ := hresult
    rw [hreceived.front] at hread
    cases hread
    rfl

end

theorem processMessages_front (p : Poll)
    (hline : c.line.stream = before ++ c.line.pending) (hfailed : c.line.failed = false)
    (hfails : ∀ moment ∈ p.moments, moment.fails = false) (hauthenticated : p.authenticated = true)
    (hfront : front c.line.pending = .message m tail) :
    ∃ payload, ∃ stays, (processMessages c p).1 = .handled ⟨m.header, payload⟩ stays := by
  obtain ⟨e, c₁, hreceive, -⟩ | ⟨header, c₁, hreceive, hpoll⟩ := processMessages_cases c p
  · cases receive_front hline hfailed hfails hfront hreceive
  · cases receive_front hline hfailed hfails hfront hreceive
    obtain ⟨hrefused, -⟩ | ⟨failed, hhandle⟩ := handle_cases c₁ p m.header
    · cases hauthenticated.symm.trans hrefused
    · rw [hpoll, hhandle]
      exact ⟨_, _, rfl⟩

end Poll

end Mvgal.Runtime.Ipc
