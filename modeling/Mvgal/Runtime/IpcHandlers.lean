import Mathlib.Algebra.Group.Nat.Defs
import Mvgal.Runtime.IpcConnection

/-! The handlers of the daemon's messages (`IpcClientConnection::processMessages`).

Each handler takes its arguments from the receive buffer, asks a service of the daemon and
sends an answer. The services are arbitrary here (`Services`); what is observed of a handler
is the connection's fate, the calls it makes with their arguments, and what it sends
(`Reaction`).

The buffer is that of the connection and is written only by a message with a payload. So the
reaction to a message is its own unless the message has no payload and its handler looks for
one: then it is decided by the last payload that came before (`reaction_eq_iff`). -/
namespace Mvgal.Runtime.Ipc

/-- What a client asks for with arguments. -/
inductive Request where
  | getGpu (index : UInt32)
  | allocate (size : UInt64)
  | free (id : UInt64)
  | wait (id : UInt32)
  | setMode (mode : UInt32)
  | setGpuPriority (index : UInt32) (priority : Int32)
  | enableGpu (index : UInt32) (enabled : Bool)
deriving DecidableEq

inductive Call where
  | request (request : Request)
  | gpuCount
  | totalVRAM
  | freeVRAM
  | capabilityTier
  | submitGraphics
deriving DecidableEq

/-- The registry, the memory manager and the scheduler, as the handlers use them. A GPU is
seen through the descriptor that is sent for it. -/
structure Services (σ : Type) where
  gpuCount : σ → UInt32
  getGpu : UInt32 → σ → Option (List UInt8)
  totalVRAM : σ → UInt64
  freeVRAM : σ → UInt64
  capabilityTier : σ → UInt32
  /-- the record sent for all GPUs together: their count, the memory, and whether they differ -/
  logicalDevice : UInt32 → UInt64 → UInt64 → Bool → List UInt8
  allocate : UInt64 → σ → UInt64 × σ
  free : UInt64 → σ → Bool × σ
  submitGraphics : σ → UInt32 × σ
  wait : UInt32 → σ → Bool × σ
  setMode : UInt32 → σ → σ
  setGpuPriority : UInt32 → Int32 → σ → σ
  enableGpu : UInt32 → Bool → σ → σ

/-- A word in the order of the host, which is little-endian. -/
def le32 (bytes : List UInt8) : UInt32 := (bytes.take 4).foldr (fun byte n => n * 256 + byte.toUInt32) 0

def le64 (bytes : List UInt8) : UInt64 := (bytes.take 8).foldr (fun byte n => n * 256 + byte.toUInt64) 0

def bytesLe (count : Nat) (n : Nat) : List UInt8 := (List.range count).map fun i => UInt8.ofNat (n / 256 ^ i)

def bytesBe (count : Nat) (n : Nat) : List UInt8 := (bytesLe count n).reverse

inductive IpcErrorCode where
  | success
  | invalidRequest
  | notImplemented
  | outOfMemory
  | invalidArgument
  | notFound
  | accessDenied
  | timeout
deriving DecidableEq

def IpcErrorCode.code : IpcErrorCode → Nat
  | .success => 0
  | .invalidRequest => 1
  | .notImplemented => 2
  | .outOfMemory => 3
  | .invalidArgument => 4
  | .notFound => 5
  | .accessDenied => 6
  | .timeout => 7

/-- `IpcFlags::RESPONSE` and `IpcFlags::ERROR`. -/
def responseFlag : UInt32 := 2

def errorFlag : UInt32 := 4

/-- What is known of a message's treatment from outside: whether the connection stays, the
calls made, the answer, and the services afterwards. -/
structure Reaction (σ : Type) where
  stays : Bool
  calls : List Call
  response : Option Message
  services : σ

section Handlers
variable {σ : Type} (sv : Services σ) (s : σ) (header : IpcMessageHeader)

def sendMessage (payload : List UInt8) : Message :=
  ⟨⟨ipcMagic, ipcVersion, header.messageType, header.requestId, UInt32.ofNat payload.length, responseFlag, 0⟩, payload⟩

/-- The answer to a request that is refused carries the type ERROR. -/
def sendError (error : IpcErrorCode) : Message :=
  ⟨⟨ipcMagic, ipcVersion, 0xFFFFFFFF, header.requestId, 4, responseFlag ||| errorFlag, 0⟩, bytesBe 4 error.code⟩

def refuse (error : IpcErrorCode) : Reaction σ := ⟨true, [], some (sendError header error), s⟩

/-- What a handler answers once it has read its arguments. -/
def answer (request : Request) : Message × σ :=
  match request with
  | .getGpu index =>
    match sv.getGpu index s with
    | some descriptor => (sendMessage header descriptor, s)
    | none => (sendError header .notFound, s)
  | .allocate size =>
    let (id, s') := sv.allocate size s
    (if id = 0 then sendError header .outOfMemory else sendMessage header (bytesLe 8 id.toNat), s')
  | .free id =>
    let (freed, s') := sv.free id s
    (if freed then sendMessage header [] else sendError header .notFound, s')
  | .wait id =>
    let (completed, s') := sv.wait id s
    (sendMessage header [if completed then 1 else 0], s')
  | .setMode mode => (sendMessage header [], sv.setMode mode s)
  | .setGpuPriority index priority => (sendMessage header [], sv.setGpuPriority index priority s)
  | .enableGpu index enabled => (sendMessage header [], sv.enableGpu index enabled s)

def perform (request : Request) : Reaction σ :=
  ⟨true, [.request request], some (answer sv s header request).1, (answer sv s header request).2⟩

/-- All descriptors, one after the other. -/
def queryDevices : Reaction σ :=
  let indices := (List.range (sv.gpuCount s).toNat).map UInt32.ofNat
  let descriptors := indices.flatMap fun i => (sv.getGpu i s).getD []
  ⟨true, .gpuCount :: indices.map fun i => .request (.getGpu i), some (sendMessage header descriptors), s⟩

/-- Tier 2 stands for GPUs that differ. -/
def queryUnifiedCapabilities : Reaction σ :=
  let descriptor := sv.logicalDevice (sv.gpuCount s) (sv.totalVRAM s) (sv.freeVRAM s) (sv.capabilityTier s == 2)
  ⟨true, [.gpuCount, .totalVRAM, .freeVRAM, .capabilityTier], some (sendMessage header descriptor), s⟩

def submitWorkload : Reaction σ :=
  let (id, s') := sv.submitGraphics s
  ⟨true, [.submitGraphics], some (sendMessage header (bytesLe 4 id.toNat)), s'⟩

/-- What the handler of a type reads from the buffer: `none` if that is too short. -/
def arguments (buffer : List UInt8) : IpcMessageType → Option Request
  | .queryDeviceCapabilities => if buffer.length < 4 then none else some (.getGpu (le32 buffer))
  | .allocMemory => if buffer.length < 8 then none else some (.allocate (le64 buffer))
  | .freeMemory => if buffer.length < 8 then none else some (.free (le64 buffer))
  | .waitWorkload => if buffer.length < 4 then none else some (.wait (le32 buffer))
  | .setSchedulingMode => if buffer.length < 4 then none else some (.setMode (le32 buffer))
  | .setGpuPriority =>
    if buffer.length < 8 then none
    else some (.setGpuPriority (le32 buffer) (le32 (buffer.drop 4)).toInt32)
  | .setGpuEnabled =>
    -- the flag is the byte behind the index
    if buffer.length < 5 then none else some (.enableGpu (le32 buffer) (buffer.getD 4 0 ≠ 0))
  | _ => none

def fromBuffer (buffer : List UInt8) (type : IpcMessageType) : Reaction σ :=
  match arguments buffer type with
  | none => refuse s header .invalidArgument
  | some request => perform sv s header request

def dispatch (reply : Reply) (buffer : List UInt8) : Reaction σ :=
  match header.type with
  | some .hello => ⟨reply == .sent, [], some (sendMessage header []), s⟩
  | some .goodbye => ⟨false, [], none, s⟩
  | some .queryDevices => queryDevices sv s header
  | some .queryDeviceCapabilities => fromBuffer sv s header buffer .queryDeviceCapabilities
  | some .queryUnifiedCapabilities => queryUnifiedCapabilities sv s header
  | some .allocMemory => fromBuffer sv s header buffer .allocMemory
  | some .freeMemory => fromBuffer sv s header buffer .freeMemory
  | some .importDmabuf => refuse s header .notImplemented
  | some .exportDmabuf => refuse s header .notImplemented
  | some .submitWorkload => submitWorkload sv s header
  | some .waitWorkload => fromBuffer sv s header buffer .waitWorkload
  | some .setSchedulingMode => fromBuffer sv s header buffer .setSchedulingMode
  | some .setGpuPriority => fromBuffer sv s header buffer .setGpuPriority
  | some .setGpuEnabled => fromBuffer sv s header buffer .setGpuEnabled
  | some .getStatistics => refuse s header .notImplemented
  | some .subscribeTelemetry => refuse s header .notImplemented
  | some .unsubscribeTelemetry => refuse s header .notImplemented
  | some .getConfig => refuse s header .notImplemented
  | some .setConfig => refuse s header .notImplemented
  | some .loadConfig => refuse s header .notImplemented
  | some .saveConfig => refuse s header .notImplemented
  | some .error => refuse s header .invalidRequest
  | none => refuse s header .invalidRequest

/-- What follows the reading of a message in `processMessages`. -/
def react (authenticated : Bool) (reply : Reply) (buffer : List UInt8) : Reaction σ :=
  if header.type ≠ some .hello ∧ authenticated = false then ⟨false, [], some (sendError header .accessDenied), s⟩
  else dispatch sv s header reply buffer

end Handlers

def deliver (buffer : List UInt8) (m : Message) : List UInt8 :=
  if m.header.payloadSize = 0 then buffer else m.payload

/-- The buffer of a connection that has received the messages of a history. -/
def bufferAfter (history : List Message) : List UInt8 :=
  history.foldl deliver IpcClientConnection.new.receiveBuffer

/-- The connections a history can lead to. The line changes between the messages. -/
inductive Reached : List Message → IpcClientConnection → Prop
  | new : Reached [] .new
  | line {history : List Message} {c : IpcClientConnection} (line : Wire.Line UInt8) :
      Reached history c → Reached history {c with line}
  | message {history : List Message} {c c' : IpcClientConnection} {bytes payload : List UInt8} {header : IpcMessageHeader} :
      Reached history c → Received c c' bytes payload header → Reached (history ++ [⟨header, payload⟩]) c'

theorem Reached.buffer {history : List Message} {c : IpcClientConnection} (h : Reached history c) :
    c.receiveBuffer = bufferAfter history := by
  induction h with
  | new => rfl
  | line line _ ih => exact ih
  | message _ hreceived ih =>
    rw [hreceived.buffer, ih, bufferAfter, bufferAfter, List.foldl_append]
    rfl

section Dependence
variable {σ : Type} {sv : Services σ} {s : σ} {header : IpcMessageHeader} {buffer buffer' : List UInt8}

/-- A handler that reads nothing does the same whatever the buffer holds. -/
theorem dispatch_eq_of_not_reads (reply : Reply) (h : readsPayload header.type = false) :
    dispatch sv s header reply buffer = dispatch sv s header reply buffer' := by
  unfold dispatch
  split <;> first | rfl | (rename_i htype; rw [htype] at h; cases h)

theorem dispatch_eq_fromBuffer (sv : Services σ) (s : σ) (reply : Reply) (h : readsPayload header.type = true) :
    ∃ type, header.type = some type ∧
      ∀ buffer, dispatch sv s header reply buffer = fromBuffer sv s header buffer type := by
  unfold dispatch
  cases htype : header.type with
  | none => simp [htype, readsPayload] at h
  | some type =>
    refine ⟨type, rfl, fun buffer => ?_⟩
    cases type <;> first | rfl | simp [htype, readsPayload] at h

/-- The calls of a handler that reads show what it has read. -/
theorem fromBuffer_calls (type : IpcMessageType) :
    (fromBuffer sv s header buffer type).calls = ((arguments buffer type).map Call.request).toList := by
  unfold fromBuffer
  cases arguments buffer type with
  | none => rfl
  | some request => rfl

theorem fromBuffer_eq_iff (type : IpcMessageType) :
    fromBuffer sv s header buffer type = fromBuffer sv s header buffer' type ↔
      arguments buffer type = arguments buffer' type := by
  constructor
  · intro h
    have hcalls := congrArg Reaction.calls h
    rw [fromBuffer_calls, fromBuffer_calls] at hcalls
    have hread := congrArg List.head? hcalls
    rw [Option.head?_toList, Option.head?_toList] at hread
    exact Option.map_injective (fun _ _ => Call.request.inj) hread
  · intro h
    unfold fromBuffer
    rw [h]

def reads (type : Option IpcMessageType) (buffer : List UInt8) : Option Request :=
  type.bind (arguments buffer)

theorem arguments_eq_none {type : IpcMessageType} (h : readsPayload (some type) = false) :
    arguments buffer type = none := by
  cases type <;> first | rfl | cases h

theorem dispatch_eq_iff (reply : Reply) :
    dispatch sv s header reply buffer = dispatch sv s header reply buffer' ↔
      reads header.type buffer = reads header.type buffer' := by
  cases hreads : readsPayload header.type with
  | true =>
    obtain ⟨type, htype, hdispatch⟩ := dispatch_eq_fromBuffer sv s reply hreads
    rw [hdispatch, hdispatch, fromBuffer_eq_iff, htype]
    rfl
  | false =>
    refine iff_of_true (dispatch_eq_of_not_reads reply hreads) ?_
    cases htype : header.type with
    | none => rfl
    | some type =>
      rw [htype] at hreads
      exact (arguments_eq_none hreads).trans (arguments_eq_none hreads).symm

/-- A reaction depends on the buffer through the arguments of the request, unless it is
refused before they are looked at. -/
theorem react_eq_iff (authenticated : Bool) (reply : Reply) :
    react sv s header authenticated reply buffer = react sv s header authenticated reply buffer' ↔
      header.type ≠ some .hello ∧ authenticated = false ∨ reads header.type buffer = reads header.type buffer' := by
  unfold react
  by_cases hrefused : header.type ≠ some .hello ∧ authenticated = false
  · rw [if_pos hrefused, if_pos hrefused]
    exact iff_of_true rfl (.inl hrefused)
  · rw [if_neg hrefused, if_neg hrefused, dispatch_eq_iff, or_iff_right hrefused]

theorem fromBuffer_stays (type : IpcMessageType) : (fromBuffer sv s header buffer type).stays = true := by
  unfold fromBuffer
  cases arguments buffer type with
  | none => rfl
  | some request => rfl

theorem dispatch_stays (reply : Reply) : (dispatch sv s header reply buffer).stays = stays reply header.type := by
  cases hreads : readsPayload header.type with
  | true =>
    obtain ⟨type, htype, hdispatch⟩ := dispatch_eq_fromBuffer sv s reply hreads
    rw [hdispatch, fromBuffer_stays]
    rw [htype] at hreads ⊢
    cases type <;> first | rfl | cases hreads
  | false =>
    unfold dispatch
    cases htype : header.type with
    | none => rfl
    | some type =>
      rw [htype] at hreads
      cases type <;> first | rfl | cases hreads

/-- A connection stays or goes as in the model of its reading. -/
theorem handle_stays {c c' : IpcClientConnection} {p : Poll} {m : Message} {staying : Bool}
    (h : handle c p header = (.handled m staying, c')) :
    (react sv s header p.authenticated p.reply c.receiveBuffer).stays = staying := by
  unfold handle at h
  unfold react
  split at h
  · simp at h
  · next hauth =>
    rw [if_neg hauth, dispatch_stays]
    exact (Outcome.handled.inj (Prod.mk.inj h).1).2

end Dependence

/-- **Two connections** with any two histories react alike to the same next message exactly
if the message has a payload, is refused for want of authentication, or its handler takes the
same arguments from what the two histories left in the buffer. -/
theorem reaction_eq_iff {σ : Type} (sv : Services σ) (s : σ) (authenticated : Bool) (reply : Reply)
    (history history' : List Message) (m : Message) :
    react sv s m.header authenticated reply (bufferAfter (history ++ [m])) =
        react sv s m.header authenticated reply (bufferAfter (history' ++ [m])) ↔
      m.header.payloadSize ≠ 0 ∨ (m.header.type ≠ some .hello ∧ authenticated = false) ∨
        reads m.header.type (bufferAfter history) = reads m.header.type (bufferAfter history') := by
  have hlast (history : List Message) : bufferAfter (history ++ [m]) = deliver (bufferAfter history) m := by
    rw [bufferAfter, List.foldl_append]
    rfl
  rw [react_eq_iff, hlast, hlast]
  by_cases hzero : m.header.payloadSize = 0
  · simp [deliver, hzero]
  · simp [deliver, hzero]

def bareServices : Services Unit :=
  ⟨fun _ => 0, fun _ _ => none, fun _ => 0, fun _ => 0, fun _ => 0, fun _ _ _ _ => [], fun _ s => (1, s),
    fun _ s => (true, s), fun s => (1, s), fun _ s => (true, s), fun _ s => s, fun _ _ s => s, fun _ _ s => s⟩

def bareAllocation : Message := ⟨⟨ipcMagic, ipcVersion, 20, 2, 0, 1, 0⟩, []⟩

def allocation (pages : UInt8) : Message := ⟨⟨ipcMagic, ipcVersion, 20, 1, 8, 1, 0⟩, [0, pages, 0, 0, 0, 0, 0, 0]⟩

/-- A request without a size allocates what the request before it asked for. -/
theorem allocation_repeated :
    ¬ ∀ (sv : Services Unit) (authenticated : Bool) (reply : Reply) (history history' : List Message) (m : Message),
      react sv () m.header authenticated reply (bufferAfter (history ++ [m])) =
        react sv () m.header authenticated reply (bufferAfter (history' ++ [m])) := by
  intro h
  have hsame := h bareServices true .sent [allocation 1] [allocation 2] bareAllocation
  have hcalls := congrArg Reaction.calls hsame
  exact nomatch hcalls

end Mvgal.Runtime.Ipc
