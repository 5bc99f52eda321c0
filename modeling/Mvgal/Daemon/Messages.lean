import Mathlib.Data.List.Forall2
import Mvgal.Lib.LittleEndian
import Mvgal.Lib.Run
import Mvgal.Types

/-! Messages of the daemon's clients (`mvgal_ipc_send`, `mvgal_ipc_receive` in `ipc.c`).

A message is a packed header of 24 bytes and its payload, written one after the other to a
stream of bytes. A read returns some part of what it asked for, as much as the stream has at
that moment. `mvgal_ipc_receive` reads the header once and the payload once: it does not ask
for what a read left out, and it reads no more of a payload than its buffer holds.
`messages_in_order_iff` says when the messages that are received are those that were sent. -/
namespace Mvgal.Daemon
open List
open Run (Along Admitted)
open LittleEndian (toBytes)

abbrev Bytes := List UInt8

def ipcMagic : UInt32 := 0x4D564741

def ipcVersion : UInt32 := 1

/-- `ipc_message_header_t`. -/
structure IpcHeader where
  magic : UInt32
  version : UInt32
  messageType : UInt32
  payloadSize : UInt32
  requestId : UInt64
deriving DecidableEq, Repr

/-- `sizeof(ipc_message_header_t)`. -/
def headerSize : Nat := 24

def IpcHeader.bytes (h : IpcHeader) : Bytes :=
  toBytes 4 h.magic.toNat ++ (toBytes 4 h.version.toNat ++ (toBytes 4 h.messageType.toNat ++
    (toBytes 4 h.payloadSize.toNat ++ toBytes 8 h.requestId.toNat)))

def IpcHeader.ofBytes (bytes : Bytes) : IpcHeader where
  magic := UInt32.ofNat (LittleEndian.ofBytes (bytes.take 4))
  version := UInt32.ofNat (LittleEndian.ofBytes ((bytes.drop 4).take 4))
  messageType := UInt32.ofNat (LittleEndian.ofBytes ((bytes.drop 8).take 4))
  payloadSize := UInt32.ofNat (LittleEndian.ofBytes ((bytes.drop 12).take 4))
  requestId := UInt64.ofNat (LittleEndian.ofBytes (bytes.drop 16))

structure Message where
  messageType : UInt32
  requestId : UInt64
  payload : Bytes
deriving DecidableEq, Repr

/-- The header of `mvgal_ipc_send`; the size of the payload is cut to 32 bits. -/
def Message.header (m : Message) : IpcHeader :=
  ⟨ipcMagic, ipcVersion, m.messageType, UInt32.ofNat m.payload.length, m.requestId⟩

/-- The bytes that `mvgal_ipc_send` writes. -/
def Message.bytes (m : Message) : Bytes := m.header.bytes ++ m.payload

/-- `read` of at most `size` bytes from a stream that has some; `wish` is how many it would get of
a longer request, at least one. -/
def readStream (size wish : Nat) (stream : Bytes) : Bytes × Bytes :=
  (stream.take (min size (max 1 wish)), stream.drop (min size (max 1 wish)))

/-- What `mvgal_ipc_receive` hands to its caller. -/
structure Reception where
  messageType : UInt32
  requestId : UInt64
  payloadSize : Nat
  payload : Bytes
deriving DecidableEq, Repr

/-- The second half of `mvgal_ipc_receive`. The buffer is `NULL` or has a size. -/
def receivePayload (h : IpcHeader) (buffer : Option Nat) (wish : Nat) (stream : Bytes) :
    Except Error Reception × Bytes :=
  match buffer with
  | some capacity =>
    if 0 < h.payloadSize then
      let size := if h.payloadSize.toNat < capacity then h.payloadSize.toNat else capacity
      let (payload, rest) := readStream size wish stream
      if payload.length ≠ size then (.error .ipc, rest)
      else (.ok ⟨h.messageType, h.requestId, h.payloadSize.toNat, payload⟩, rest)
    else (.ok ⟨h.messageType, h.requestId, h.payloadSize.toNat, []⟩, stream)
  | none => (.ok ⟨h.messageType, h.requestId, h.payloadSize.toNat, []⟩, stream)

/-- `mvgal_ipc_receive`, with what its two reads would get. -/
def ipcReceive (buffer : Option Nat) (wishes : Nat × Nat) (stream : Bytes) : Except Error Reception × Bytes :=
  let (bytes, rest) := readStream headerSize wishes.1 stream
  if bytes.length ≠ headerSize then (.error .ipc, rest)
  else
    let h := IpcHeader.ofBytes bytes
    if h.magic ≠ ipcMagic then (.error .invalidArgument, rest)
    else if h.version ≠ ipcVersion then (.error .notSupported, rest)
    else receivePayload h buffer wishes.2 rest

theorem length_header_bytes (h : IpcHeader) : h.bytes.length = headerSize := by
  simp [IpcHeader.bytes, headerSize]

theorem IpcHeader.ofBytes_bytes (h : IpcHeader) : IpcHeader.ofBytes h.bytes = h := by
  have word (x : UInt32) : UInt32.ofNat (LittleEndian.ofBytes (toBytes 4 x.toNat)) = x := by
    rw [LittleEndian.ofBytes_toBytes_of_lt x.toNat_lt, UInt32.ofNat_toNat]
  have long (x : UInt64) : UInt64.ofNat (LittleEndian.ofBytes (toBytes 8 x.toNat)) = x := by
    rw [LittleEndian.ofBytes_toBytes_of_lt x.toNat_lt, UInt64.ofNat_toNat]
  simp [IpcHeader.ofBytes, IpcHeader.bytes, drop_append, LittleEndian.drop_toBytes, word, long]

variable {wishes : Nat × Nat}

theorem ipcReceive_header (m : Message) (buffer : Option Nat) (rest : Bytes)
    (h : headerSize ≤ wishes.1) :
    ipcReceive buffer wishes (m.header.bytes ++ rest) = receivePayload m.header buffer wishes.2 rest := by
  have hread : readStream headerSize wishes.1 (m.header.bytes ++ rest) = (m.header.bytes, rest) := by
    rw [readStream, Nat.min_eq_left (by omega), ← length_header_bytes m.header, take_left, drop_left]
  rw [ipcReceive, hread]
  dsimp only
  rw [if_neg (not_not_intro (length_header_bytes m.header)), IpcHeader.ofBytes_bytes]
  exact (if_neg (not_not_intro rfl)).trans (if_neg (not_not_intro rfl))

/-- A header that comes in pieces ends the call with the rest of it in the stream. -/
theorem ipcReceive_split (buffer : Option Nat) (stream : Bytes)
    (h : ¬ headerSize ≤ wishes.1) :
    ipcReceive buffer wishes stream = (.error .ipc, stream.drop (max 1 wishes.1)) := by
  have hsize : headerSize = 24 := rfl
  have hmin : min headerSize (max 1 wishes.1) = max 1 wishes.1 := Nat.min_eq_right (by omega)
  have hshort : (stream.take (max 1 wishes.1)).length ≠ headerSize := by
    rw [length_take]
    omega
  rw [ipcReceive, readStream, hmin]
  exact if_pos hshort

def payloadRead (h : IpcHeader) (buffer : Option Nat) (wish : Nat) : Nat :=
  match buffer with
  | some capacity => min (min h.payloadSize.toNat capacity) (max 1 wish)
  | none => 0

theorem receivePayload_rest (h : IpcHeader) (buffer : Option Nat) (wish : Nat) (stream : Bytes) :
    (receivePayload h buffer wish stream).2 = stream.drop (payloadRead h buffer wish) := by
  cases buffer with
  | none => rfl
  | some capacity =>
    have hmin : (if h.payloadSize.toNat < capacity then h.payloadSize.toNat else capacity) =
        min h.payloadSize.toNat capacity := by
      split <;> omega
    unfold receivePayload readStream
    dsimp only
    rw [hmin]
    split_ifs with hpos hshort
    · rfl
    · rfl
    · have hzero : h.payloadSize.toNat = 0 := by
        exact Nat.eq_zero_of_not_pos hpos
      rw [payloadRead, hzero, Nat.zero_min, Nat.zero_min, drop_zero]

theorem payloadSize_le (m : Message) : m.header.payloadSize.toNat ≤ m.payload.length := by
  exact Nat.mod_le _ _

theorem payloadRead_le (m : Message) (buffer : Option Nat) (wish : Nat) :
    payloadRead m.header buffer wish ≤ m.payload.length := by
  have hsize := payloadSize_le m
  cases buffer with
  | none => exact Nat.zero_le _
  | some capacity =>
    rw [payloadRead]
    omega

/-- The boundary of the next message is not shifted exactly if the whole payload is read. -/
theorem receivePayload_rest_eq_iff (m : Message) (buffer : Option Nat) (wish : Nat) (rest : Bytes) :
    (receivePayload m.header buffer wish (m.payload ++ rest)).2 = rest ↔
      payloadRead m.header buffer wish = m.payload.length := by
  rw [receivePayload_rest]
  refine ⟨fun h => ?_, fun h => ?_⟩
  · have hle := payloadRead_le m buffer wish
    have hlen := congrArg length h
    rw [length_drop, length_append] at hlen
    omega
  · rw [h, drop_left]

/-- The header tells the size of the payload, and a payload fits the buffer and comes in one piece. -/
def PayloadOk (m : Message) (buffer : Option Nat) (wish : Nat) : Prop :=
  m.payload.length < 2 ^ 32 ∧
    (m.payload ≠ [] → ∃ capacity, buffer = some capacity ∧ m.payload.length ≤ capacity ∧
      m.payload.length ≤ max 1 wish)

theorem payloadRead_eq_iff (m : Message) (buffer : Option Nat) (wish : Nat) :
    payloadRead m.header buffer wish = m.payload.length ↔ PayloadOk m buffer wish := by
  have hsize : m.header.payloadSize.toNat = m.payload.length % 2 ^ 32 := UInt32.toNat_ofNat'
  by_cases hempty : m.payload = []
  · have hzero : m.payload.length = 0 := by rw [hempty]; rfl
    have hle := payloadRead_le m buffer wish
    refine ⟨fun _ => ⟨by omega, fun h => absurd hempty h⟩, fun _ => by omega⟩
  · have hpos : 0 < m.payload.length := length_pos_iff.mpr hempty
    cases buffer with
    | none =>
      refine ⟨fun h => ?_, fun h => ?_⟩
      · rw [payloadRead] at h
        omega
      · obtain ⟨capacity, hbuffer, _⟩ := h.2 hempty
        exact nomatch hbuffer
    | some capacity =>
      rw [payloadRead, hsize]
      refine ⟨fun h => ⟨by omega, fun _ => ⟨capacity, rfl, by omega, by omega⟩⟩, fun h => ?_⟩
      obtain ⟨_, hbuffer, hfits, hwhole⟩ := h.2 hempty
      cases hbuffer
      have hlt := h.1
      omega

variable {buffer : Option Nat} {m : Message}

/-- A payload that is read whole is returned as it was sent. -/
theorem receivePayload_ok {wish : Nat} (rest : Bytes) (h : PayloadOk m buffer wish) :
    (receivePayload m.header buffer wish (m.payload ++ rest)).1 =
      .ok ⟨m.messageType, m.requestId, m.payload.length, m.payload⟩ := by
  have hsize : m.header.payloadSize.toNat = m.payload.length :=
    UInt32.toNat_ofNat'.trans (Nat.mod_eq_of_lt h.1)
  have hpositive : 0 < m.header.payloadSize ↔ m.payload ≠ [] := by
    rw [UInt32.lt_iff_toNat_lt, hsize]
    exact length_pos_iff
  by_cases hempty : m.payload = []
  · have hnot : ¬ 0 < m.header.payloadSize := fun h => hpositive.mp h hempty
    cases buffer with
    | none => rw [receivePayload, hsize, hempty]; rfl
    | some capacity => rw [receivePayload, if_neg hnot, hsize, hempty]; rfl
  · obtain ⟨capacity, rfl, hfits, hwhole⟩ := h.2 hempty
    have hmin : (if m.payload.length < capacity then m.payload.length else capacity) = m.payload.length := by
      split <;> omega
    have hread : readStream m.payload.length wish (m.payload ++ rest) = (m.payload, rest) := by
      rw [readStream, Nat.min_eq_left hwhole, take_left, drop_left]
    rw [receivePayload, if_pos (hpositive.mpr hempty), hsize, hmin]
    dsimp only
    rw [hread]
    rw [if_neg (not_not_intro rfl)]
    rfl

/-- The messages sent, the bytes not yet read, and what the calls so far returned, each with the
buffer it was given. -/
structure Channel where
  sent : List Message
  stream : Bytes
  outcomes : List (Option Nat × Except Error Reception)

def Channel.new : Channel := ⟨[], [], []⟩

inductive ChannelAction where
  | send (m : Message)
  | receive (buffer : Option Nat) (wishes : Nat × Nat)

/-- On an empty stream a receiver waits. -/
def channelStep (c : Channel) : ChannelAction → Option Channel
  | .send m => some {c with sent := c.sent ++ [m], stream := c.stream ++ m.bytes}
  | .receive buffer wishes =>
    if c.stream = [] then none
    else
      let r := ipcReceive buffer wishes c.stream
      some {c with stream := r.2, outcomes := c.outcomes ++ [(buffer, r.1)]}

def Message.Fits (m : Message) (buffer : Option Nat) : Prop :=
  m.payload = [] ∨ ∃ capacity, buffer = some capacity ∧ m.payload.length ≤ capacity

/-- A message is returned as it was sent if it fits, and reported as an error otherwise. -/
structure Returned (m : Message) (outcome : Option Nat × Except Error Reception) : Prop where
  fits : m.Fits outcome.1 → outcome.2 = .ok ⟨m.messageType, m.requestId, m.payload.length, m.payload⟩
  tooLong : ¬ m.Fits outcome.1 → ∃ e, outcome.2 = .error e

/-- The calls so far returned the first messages that were sent, in order, and the stream stands
at the beginning of the next one. -/
def InOrder (c : Channel) : Prop :=
  ∃ received rest, c.sent = received ++ rest ∧ List.Forall₂ Returned received c.outcomes ∧
    c.stream = rest.flatMap Message.bytes

/-- The header comes in one piece, and so does a payload, which fits the buffer. -/
def ReceptionOk (m : Message) (buffer : Option Nat) (wishes : Nat × Nat) : Prop :=
  headerSize ≤ wishes.1 ∧ PayloadOk m buffer wishes.2

/-- The condition on the next message to be received. -/
def ChannelOk (c : Channel) : ChannelAction → Prop
  | .send _ => True
  | .receive buffer wishes => ∀ m, c.sent[c.outcomes.length]? = some m → ReceptionOk m buffer wishes

theorem length_message_bytes (m : Message) : m.bytes.length = headerSize + m.payload.length := by
  rw [Message.bytes, length_append, length_header_bytes]

theorem PayloadOk.fits {wish : Nat} (h : PayloadOk m buffer wish) :
    m.Fits buffer := by
  by_cases hempty : m.payload = []
  · exact Or.inl hempty
  · obtain ⟨capacity, hbuffer, hfits, _⟩ := h.2 hempty
    exact Or.inr ⟨capacity, hbuffer, hfits⟩

/-- One call, with a whole message at the front of the stream. -/
theorem ipcReceive_right_iff (m : Message) (buffer : Option Nat) (wishes : Nat × Nat) (rest : Bytes) :
    (Returned m (buffer, (ipcReceive buffer wishes (m.bytes ++ rest)).1) ∧
      (ipcReceive buffer wishes (m.bytes ++ rest)).2 = rest) ↔ ReceptionOk m buffer wishes := by
  by_cases hhead : headerSize ≤ wishes.1
  · rw [Message.bytes, append_assoc, ipcReceive_header m buffer _ hhead, receivePayload_rest_eq_iff,
      payloadRead_eq_iff]
    refine ⟨fun h => ⟨hhead, h.2⟩, fun h => ⟨⟨fun _ => receivePayload_ok rest h.2, fun hlong => ?_⟩, h.2⟩⟩
    exact absurd h.2.fits hlong
  · refine ⟨fun h => ?_, fun h => absurd h.1 hhead⟩
    -- a part of the header is left in front of the next message
    have hlen := congrArg length h.2
    rw [ipcReceive_split buffer _ hhead, length_drop, length_append, length_message_bytes] at hlen
    have hsize : headerSize = 24 := rfl
    omega

theorem forall₂_concat_iff {α β : Type} {R : α → β → Prop} {as : List α} {bs : List β} {a : α} {b : β} :
    List.Forall₂ R (as ++ [a]) (bs ++ [b]) ↔ R a b ∧ List.Forall₂ R as bs := by
  rw [← forall₂_reverse_iff, reverse_concat, reverse_concat, forall₂_cons,
    forall₂_reverse_iff]

/-- A call that returns answers for the first message that was not yet received. -/
theorem inOrder_receive_iff {c : Channel} {received rest : List Message}
    {result : Except Error Reception} {stream : Bytes}
    (hsent : c.sent = received ++ m :: rest) (hreturned : List.Forall₂ Returned received c.outcomes) :
    InOrder {c with stream := stream, outcomes := c.outcomes ++ [(buffer, result)]} ↔
      Returned m (buffer, result) ∧ stream = rest.flatMap Message.bytes := by
  refine ⟨fun h => ?_, fun h => ?_⟩
  · obtain ⟨received', rest', hsent', hreturned', hstream'⟩ := h
    have hsplit : (received ++ [m]) ++ rest = received' ++ rest' := by
      rw [append_assoc]
      exact hsent.symm.trans hsent'
    have hlength : (received ++ [m]).length = received'.length := by
      have h := hreturned'.length_eq
      rw [length_append, ← hreturned.length_eq] at h
      rw [h, length_append, length_singleton, length_singleton]
    obtain ⟨rfl, rfl⟩ := append_inj hsplit hlength
    exact ⟨(forall₂_concat_iff.mp hreturned').1, hstream'⟩
  · refine ⟨received ++ [m], rest, ?_, forall₂_concat_iff.mpr ⟨h.1, hreturned⟩, h.2⟩
    rw [append_assoc]
    exact hsent

theorem message_bytes_ne_nil (m : Message) : m.bytes ≠ [] := by
  intro h
  have hlen := congrArg length h
  rw [length_message_bytes] at hlen
  exact absurd hlen (by simp [headerSize])

theorem inOrder_step_iff {c c' : Channel} {action : ChannelAction} (h : InOrder c)
    (hstep : channelStep c action = some c') : InOrder c' ↔ ChannelOk c action := by
  obtain ⟨received, rest, hsent, hreturned, hstream⟩ := h
  cases action with
  | send m =>
    cases hstep
    refine ⟨fun _ => trivial, fun _ => ⟨received, rest ++ [m], ?_, hreturned, ?_⟩⟩
    · rw [hsent, append_assoc]
    · rw [flatMap_append, ← hstream, flatMap_singleton]
  | receive buffer wishes =>
    cases rest with
    | nil =>
      have hempty : c.stream = [] := hstream
      rw [channelStep, if_pos hempty] at hstep
      exact nomatch hstep
    | cons m rest =>
      rw [flatMap_cons] at hstream
      have hne : c.stream ≠ [] := by
        rw [hstream]
        exact append_ne_nil_of_left_ne_nil (message_bytes_ne_nil m) _
      rw [channelStep, if_neg hne] at hstep
      cases hstep
      have hnext : c.sent[c.outcomes.length]? = some m := by
        rw [hsent, ← hreturned.length_eq, getElem?_append_right (Nat.le_refl _), Nat.sub_self]
        rfl
      rw [inOrder_receive_iff hsent hreturned, hstream, ipcReceive_right_iff, ChannelOk, hnext]
      exact ⟨fun h _ hm => Option.some.inj hm ▸ h, fun h => h m rfl⟩

/-- The messages are received in order exactly if each call finds its message's header in one
piece, and its payload in one piece that fits the buffer. -/
theorem messages_in_order_iff (actions : List ChannelAction) :
    Along channelStep InOrder Channel.new actions ↔ Admitted channelStep ChannelOk Channel.new actions := by
  exact Run.along_iff_of_exact (fun _ _ _ h hstep => inOrder_step_iff h hstep) ⟨[], [], rfl, Forall₂.nil, rfl⟩ actions

/-- A message of two bytes is received into a buffer of one: the call succeeds, and the other
byte stays in front of the next message. -/
theorem messages_in_order_cut_payload :
    ¬ Along channelStep InOrder Channel.new [.send ⟨0, 1, [7, 8]⟩, .receive (some 1) (24, 2)] := by
  intro h
  have hsent : Along channelStep InOrder ⟨[⟨0, 1, [7, 8]⟩], Message.bytes ⟨0, 1, [7, 8]⟩, []⟩
    [.receive (some 1) (24, 2)] := h.2 _ rfl
  have hok : ∀ c', _ → ChannelOk _ _ := fun c' hs => (inOrder_step_iff hsent.head hs).mp (hsent.2 c' hs)
  obtain ⟨capacity, hbuffer, hfits, _⟩ := (hok _ rfl _ rfl).2.2 nofun
  cases hbuffer
  exact nomatch hfits

end Mvgal.Daemon
