import Mvgal.Lib.Guard
import Mvgal.Lib.Run
import Mvgal.Lib.Table
import Mvgal.Runtime.IpcConnection

/-! The discovery thread of the daemon (`IpcServer` in `ipc_server.cpp`).

One thread receives the datagrams of other nodes, accepts their TCP connections, counts
heartbeats and drops the peers that went silent. It keeps the table of peers under
`m_peerMutex` and tells the device registry, which has a mutex of its own, of the GPUs of a
new peer.

The handlers are written as programs under scoped locks (`Guarded`), so that a lock taken
twice by the thread stops it. `program_after` and `program_blocks` say what each event does
to the tables and which one stops the thread: the heartbeat of a node that is not in the
table is handed to `handlePeerAnnouncement` with the peer mutex held, and that takes it
again. Anyone can send one (`discovery_unblocked_iff`). -/
namespace Mvgal.Runtime.Discovery
open Guard
open Function (update)
open Runtime.Ipc (ntohl)

inductive PeerState where
  | discovered
  | connected
  | active
  | disconnected
deriving DecidableEq

inductive DiscoveryMessageType where
  | announce
  | announceReply
  | heartbeat
  | heartbeatAck
  | goodbye
  | gpuAnnounce
deriving DecidableEq

def DiscoveryMessageType.ofCode (code : UInt32) : Option DiscoveryMessageType :=
  match code.toNat with
  | 0 => some .announce
  | 1 => some .announceReply
  | 2 => some .heartbeat
  | 3 => some .heartbeatAck
  | 4 => some .goodbye
  | 5 => some .gpuAnnounce
  | _ => none

/-- The fields that are read, in host order. -/
structure DiscoveryMessageHeader where
  magic : UInt32
  messageType : UInt32
  senderNodeId : UInt64
  gpuCount : UInt32
  tcpPort : UInt16
deriving DecidableEq

def discoveryMagic : UInt32 := 0x4D564744

/-- `sizeof(DiscoveryMessageHeader)`, which is packed. -/
def headerSize : Nat := 40

def be64toh (bytes : List UInt8) : UInt64 := bytes.foldl (fun n byte => n * 256 + byte.toUInt64) 0

def ntohs (bytes : List UInt8) : UInt16 := bytes.foldl (fun n byte => n * 256 + byte.toUInt16) 0

/-- The version, at offset 4, is not looked at. The port is a word of four bytes of which
`ntohs` takes the first two. -/
def DiscoveryMessageHeader.ofBytes (bytes : List UInt8) : DiscoveryMessageHeader :=
  let field offset size := (bytes.drop offset).take size
  ⟨ntohl (field 0 4), ntohl (field 8 4), be64toh (field 12 8), ntohl (field 20 4), ntohs (field 24 2)⟩

def DiscoveryMessageHeader.type (msg : DiscoveryMessageHeader) : Option DiscoveryMessageType :=
  DiscoveryMessageType.ofCode msg.messageType

def accepted (bytes : List UInt8) : Option DiscoveryMessageHeader :=
  if bytes.length < headerSize then none
  else
    let msg := DiscoveryMessageHeader.ofBytes bytes
    if msg.magic = discoveryMagic then some msg else none

structure PeerInfo where
  nodeId : UInt64
  address : UInt32
  tcpPort : UInt16
  state : PeerState
  gpuCount : UInt32
  lastSeenNs : UInt64
  lastHeartbeatNs : UInt64
  missedHeartbeats : UInt32
  tcpSocketFd : Int32
deriving DecidableEq

structure RemoteGpu where
  peerNodeId : UInt64
  localGpuIndex : UInt32
  vendorId : UInt16
  deviceId : UInt16
  vramBytes : UInt64
  vramFree : UInt64
  computeUnits : UInt32
  apiFlags : UInt32
  supportsGraphics : Bool
  supportsCompute : Bool
  isOnline : Bool
  lastHealthState : UInt32
  latencyUs : UInt32
  peerAddress : UInt32
  peerState : UInt32
  lastSeenNs : UInt64
deriving DecidableEq

def netPeerActive : UInt32 := 3

/-- `m_nodeId` and `m_peers` of the server and `m_remoteGpus` of the registry. -/
structure State where
  nodeId : UInt64
  peers : UInt64 → Option PeerInfo
  remoteGpus : List RemoteGpu

def State.setPeer (s : State) (nodeId : UInt64) (peer : PeerInfo) : State :=
  {s with peers := update s.peers nodeId (some peer)}

inductive Mutex where
  /-- `m_peerMutex` of the server -/
  | peer
  /-- `m_mutex` of the registry -/
  | registry
deriving DecidableEq

def remoteGpu (peerNodeId : UInt64) (localGpuIndex : UInt32) (vendorId deviceId : UInt16)
    (vramBytes vramFree : UInt64) (computeUnits apiFlags : UInt32) (supportsGraphics supportsCompute : Bool)
    (peerAddress : UInt32) : RemoteGpu :=
  ⟨peerNodeId, localGpuIndex, vendorId, deviceId, vramBytes, vramFree, computeUnits, apiFlags,
    supportsGraphics, supportsCompute, true, 0, 0, peerAddress, netPeerActive, 0⟩

def addRemoteGpu (gpu : RemoteGpu) : Guarded Mutex State UInt32 :=
  locked .registry do
    change fun s => {s with remoteGpus := s.remoteGpus ++ [gpu]}
    let s ← read
    return UInt32.ofNat s.remoteGpus.length

/-- What the server knows of GPU `i` of a peer when it meets the peer. -/
def discoveredGpu (peer : PeerInfo) (i : Nat) : RemoteGpu :=
  remoteGpu peer.nodeId (UInt32.ofNat i) 0 0 0 0 0 0 true true peer.address

def notifyRemoteGpuDiscovered (peer : PeerInfo) : Guarded Mutex State Unit :=
  each (fun i => do let _ ← addRemoteGpu (discoveredGpu peer i)) (List.range peer.gpuCount.toNat)

def PeerInfo.discovered (nodeId : UInt64) (address : UInt32) (tcpPort : UInt16) (gpuCount : UInt32)
    (now : UInt64) : PeerInfo :=
  ⟨nodeId, address, tcpPort, .discovered, gpuCount, now, now, 0, -1⟩

def PeerInfo.announced (peer : PeerInfo) (address : UInt32) (tcpPort : UInt16) (gpuCount : UInt32)
    (now : UInt64) : PeerInfo :=
  {peer with
    address, tcpPort, gpuCount, lastSeenNs := now, missedHeartbeats := 0
    state := if peer.state = .discovered then .connected else peer.state}

def handlePeerAnnouncement (nodeId : UInt64) (address : UInt32) (tcpPort : UInt16) (gpuCount : UInt32)
    (now : UInt64) : Guarded Mutex State Unit := do
  let s ← read
  if nodeId = s.nodeId then pure ()
  else
    locked .peer do
      let s ← read
      match s.peers nodeId with
      | some peer => change (·.setPeer nodeId (peer.announced address tcpPort gpuCount now))
      | none =>
        let newPeer := PeerInfo.discovered nodeId address tcpPort gpuCount now
        change (·.setPeer nodeId newPeer)
        notifyRemoteGpuDiscovered newPeer

def PeerInfo.heard (peer : PeerInfo) (now : UInt64) : PeerInfo :=
  {peer with
    lastSeenNs := now, missedHeartbeats := 0
    state := if peer.state = .connected then .active else peer.state}

/-- An ANNOUNCE is also answered with a broadcast, which changes nothing here. -/
def processDiscoveryMessage (fromAddr : UInt32) (msg : DiscoveryMessageHeader) (now : UInt64) :
    Guarded Mutex State Unit :=
  match msg.type with
  | some .announce => handlePeerAnnouncement msg.senderNodeId fromAddr msg.tcpPort msg.gpuCount now
  | some .announceReply => handlePeerAnnouncement msg.senderNodeId fromAddr msg.tcpPort msg.gpuCount now
  | some .heartbeat => do
    let s ← read
    if msg.senderNodeId = s.nodeId then pure ()
    else
      locked .peer do
        let s ← read
        match s.peers msg.senderNodeId with
        | some peer => change (·.setPeer msg.senderNodeId (peer.heard now))
        | none => handlePeerAnnouncement msg.senderNodeId fromAddr msg.tcpPort msg.gpuCount now
  | some .heartbeatAck => do
    let s ← read
    if msg.senderNodeId = s.nodeId then pure ()
    else
      locked .peer do
        let s ← read
        match s.peers msg.senderNodeId with
        | some peer => change (·.setPeer msg.senderNodeId (peer.heard now))
        | none => pure ()
  | some .goodbye =>
    locked .peer do
      let s ← read
      match s.peers msg.senderNodeId with
      | some peer => change (·.setPeer msg.senderNodeId {peer with state := .disconnected})
      | none => pure ()
  | some .gpuAnnounce => handlePeerAnnouncement msg.senderNodeId fromAddr msg.tcpPort msg.gpuCount now
  | none => pure ()

/-- The peer a connection from `addr` is taken to come from. -/
def State.awaits (s : State) (addr : UInt32) (nodeId : UInt64) : Bool :=
  (s.peers nodeId).any fun peer => peer.address = addr ∧ peer.tcpSocketFd < 0

def PeerInfo.accepted (peer : PeerInfo) (peerFd : Int32) : PeerInfo :=
  {peer with tcpSocketFd := peerFd, state := if peer.state = .discovered then .connected else peer.state}

/-- `order` is the order in which the hash map is walked. -/
def acceptPeerTcpConnection (addr : UInt32) (peerFd : Int32) (order : List UInt64) : Guarded Mutex State Unit :=
  locked .peer do
    let s ← read
    match order.find? (s.awaits addr) with
    | some nodeId => change fun s => {s with peers := update s.peers nodeId ((s.peers nodeId).map (·.accepted peerFd))}
    | none => pure ()

/-- A heartbeat was sent to the peer. -/
def PeerInfo.beaten (peer : PeerInfo) (now : UInt64) : PeerInfo :=
  if peer.state = .active ∨ peer.state = .connected then
    {peer with lastHeartbeatNs := now, missedHeartbeats := peer.missedHeartbeats + 1}
  else peer

/-- `clock` is read once for each peer. -/
def sendHeartbeats (clock : UInt64 → UInt64) : Guarded Mutex State Unit :=
  locked .peer (change fun s => {s with peers := fun n => (s.peers n).map (·.beaten (clock n))})

def peerTimeoutNs : UInt64 := 120000000000

def PeerInfo.stale (peer : PeerInfo) (nowNs timeoutNs : UInt64) : Bool :=
  (if peer.lastSeenNs < nowNs then nowNs - peer.lastSeenNs else 0) > timeoutNs ∨ peer.missedHeartbeats > 24

def pruneStalePeers (timeoutNs nowNs : UInt64) : Guarded Mutex State Unit :=
  locked .peer (change fun s => {s with peers := fun n => (s.peers n).filter fun peer => !peer.stale nowNs timeoutNs})

/-- What a pass of `discoveryThreadLoop` meets. -/
inductive Event where
  | datagram (fromAddr : UInt32) (bytes : List UInt8) (now : UInt64)
  | connection (addr : UInt32) (peerFd : Int32) (order : List UInt64)
  | heartbeatTimer (clock : UInt64 → UInt64)
  | pruneTimer (nowNs : UInt64)

def Event.program : Event → Guarded Mutex State Unit
  | .datagram fromAddr bytes now =>
    match accepted bytes with
    | some msg => processDiscoveryMessage fromAddr msg now
    | none => pure ()
  | .connection addr peerFd order => acceptPeerTcpConnection addr peerFd order
  | .heartbeatTimer clock => sendHeartbeats clock
  | .pruneTimer nowNs => pruneStalePeers peerTimeoutNs nowNs

/-- The tables, and whether the thread waits for a mutex it holds. -/
structure World where
  tables : State
  blocked : Bool

def initial (nodeId : UInt64) : World := ⟨⟨nodeId, fun _ => none, []⟩, false⟩

def step (w : World) (e : Event) : Option World :=
  if w.blocked then none
  else
    match e.program.run [] w.tables with
    | .ok (_, s) => some ⟨s, false⟩
    | .error s => some ⟨s, true⟩

/-! ### What each event does to the tables -/

def State.announce (s : State) (nodeId : UInt64) (address : UInt32) (tcpPort : UInt16) (gpuCount : UInt32)
    (now : UInt64) : State :=
  if nodeId = s.nodeId then s
  else
    match s.peers nodeId with
    | some peer => s.setPeer nodeId (peer.announced address tcpPort gpuCount now)
    | none =>
      let newPeer := PeerInfo.discovered nodeId address tcpPort gpuCount now
      {s.setPeer nodeId newPeer with
        remoteGpus := s.remoteGpus ++ (List.range gpuCount.toNat).map (discoveredGpu newPeer)}

def State.modify (s : State) (nodeId : UInt64) (f : PeerInfo → PeerInfo) : State :=
  {s with peers := update s.peers nodeId ((s.peers nodeId).map f)}

/-- What an accepted message does where it does not stop the thread. -/
def State.receive (s : State) (fromAddr : UInt32) (msg : DiscoveryMessageHeader) (now : UInt64) : State :=
  match msg.type with
  | some .announce => s.announce msg.senderNodeId fromAddr msg.tcpPort msg.gpuCount now
  | some .announceReply => s.announce msg.senderNodeId fromAddr msg.tcpPort msg.gpuCount now
  | some .gpuAnnounce => s.announce msg.senderNodeId fromAddr msg.tcpPort msg.gpuCount now
  | some .heartbeat => if msg.senderNodeId = s.nodeId then s else s.modify msg.senderNodeId (·.heard now)
  | some .heartbeatAck => if msg.senderNodeId = s.nodeId then s else s.modify msg.senderNodeId (·.heard now)
  | some .goodbye => s.modify msg.senderNodeId ({· with state := .disconnected})
  | none => s

def State.after (s : State) : Event → State
  | .datagram fromAddr bytes now =>
    match accepted bytes with
    | some msg => s.receive fromAddr msg now
    | none => s
  | .connection addr peerFd order =>
    match order.find? (s.awaits addr) with
    | some nodeId => s.modify nodeId (·.accepted peerFd)
    | none => s
  | .heartbeatTimer clock => {s with peers := fun n => (s.peers n).map (·.beaten (clock n))}
  | .pruneTimer nowNs => {s with peers := fun n => (s.peers n).filter fun peer => !peer.stale nowNs peerTimeoutNs}

/-- The heartbeat of another node that is not in the table. -/
def UnknownHeartbeat (s : State) (msg : DiscoveryMessageHeader) : Prop :=
  msg.type = some .heartbeat ∧ msg.senderNodeId ≠ s.nodeId ∧ s.peers msg.senderNodeId = none

/-- An event that stops the thread. -/
def Blocks (s : State) : Event → Prop
  | .datagram _ bytes _ => ∃ msg, accepted bytes = some msg ∧ UnknownHeartbeat s msg
  | _ => False

section
variable {s : State} {held : List Mutex} {nodeId : UInt64}

theorem addRemoteGpu_eq (gpu : RemoteGpu) (hr : .registry ∉ held) : (addRemoteGpu gpu).run held s =
      .ok (UInt32.ofNat (s.remoteGpus ++ [gpu]).length, {s with remoteGpus := s.remoteGpus ++ [gpu]}) := by
  unfold addRemoteGpu
  rw [locked_of_notMem hr]
  rfl

theorem notifyRemoteGpuDiscovered_eq (peer : PeerInfo) (hr : .registry ∉ held) :
    (notifyRemoteGpuDiscovered peer).run held s =
      .ok ((), {s with remoteGpus := s.remoteGpus ++ (List.range peer.gpuCount.toNat).map (discoveredGpu peer)}) := by
  unfold notifyRemoteGpuDiscovered
  rw [each_of_ok
    (fun i s => bind_of_ok (addRemoteGpu_eq _ hr))]
  generalize List.range peer.gpuCount.toNat = indices
  induction indices generalizing s with
  | nil => simp
  | cons i rest ih =>
    rw [List.foldl_cons, ih]
    simp

/-- Called without the peer mutex, an announcement reaches the table. -/
theorem handlePeerAnnouncement_eq (address : UInt32) (tcpPort : UInt16) (gpuCount : UInt32) (now : UInt64)
    (hp : .peer ∉ held) (hr : .registry ∉ held) :
    (handlePeerAnnouncement nodeId address tcpPort gpuCount now).run held s =
      .ok ((), s.announce nodeId address tcpPort gpuCount now) := by
  unfold handlePeerAnnouncement State.announce
  rw [run_read_bind]
  by_cases hself : nodeId = s.nodeId
  · rw [if_pos hself, if_pos hself, run_pure]
  · rw [if_neg hself, if_neg hself, locked_of_notMem hp, run_read_bind]
    cases hpeer : s.peers nodeId with
    | some peer => rfl
    | none =>
      have hr' : Mutex.registry ∉ Mutex.peer :: held := by simp [hr]
      rw [run_change_bind, notifyRemoteGpuDiscovered_eq _ hr']
      rfl

/-- Called with it, the announcement of another node never returns. -/
theorem handlePeerAnnouncement_held (address : UInt32) (tcpPort : UInt16) (gpuCount : UInt32) (now : UInt64)
    (hp : .peer ∈ held) (hother : nodeId ≠ s.nodeId) :
    (handlePeerAnnouncement nodeId address tcpPort gpuCount now).run held s = .error s := by
  unfold handlePeerAnnouncement
  rw [run_read_bind, if_neg hother, locked_of_mem hp]

variable (f : PeerInfo → PeerInfo)

theorem modify_of_none (h : s.peers nodeId = none) : s.modify nodeId f = s := by
  unfold State.modify
  rw [h, Option.map_none, ← h, Function.update_eq_self]

theorem modify_of_some {peer : PeerInfo} (h : s.peers nodeId = some peer) :
    s.modify nodeId f = s.setPeer nodeId (f peer) := by
  unfold State.modify
  rw [h]
  rfl

/-- The peer is looked up under the lock, and changes if it is there. -/
theorem run_modify (fallback : Guarded Mutex State Unit) (hp : .peer ∉ held)
    (h : s.peers nodeId = none → fallback.run (.peer :: held) s = .ok ((), s)) : (locked .peer do
      let s ← read
      match s.peers nodeId with
      | some peer => change (·.setPeer nodeId (f peer))
      | none => fallback).run held s = .ok ((), s.modify nodeId f) := by
  rw [locked_of_notMem hp, run_read_bind]
  cases hpeer : s.peers nodeId with
  | none =>
    rw [modify_of_none f hpeer]
    exact h hpeer
  | some peer =>
    rw [modify_of_some f hpeer]
    rfl

theorem run_unless_self {s' : State} (m : Guarded Mutex State Unit)
    (h : nodeId ≠ s.nodeId → m.run held s = .ok ((), s')) :
    (do
      let s ← read
      if nodeId = s.nodeId then pure () else m : Guarded Mutex State Unit).run held s =
        .ok ((), if nodeId = s.nodeId then s else s') := by
  rw [run_read_bind]
  by_cases hself : nodeId = s.nodeId
  · rw [if_pos hself, if_pos hself, run_pure]
  · rw [if_neg hself, if_neg hself]
    exact h hself

theorem processDiscoveryMessage_eq (fromAddr : UInt32) (msg : DiscoveryMessageHeader) (now : UInt64)
    (h : ¬ UnknownHeartbeat s msg) :
    (processDiscoveryMessage fromAddr msg now).run [] s = .ok ((), s.receive fromAddr msg now) := by
  have hp : Mutex.peer ∉ [] := List.not_mem_nil
  have hr : Mutex.registry ∉ [] := List.not_mem_nil
  unfold processDiscoveryMessage State.receive
  cases htype : msg.type with
  | none => rfl
  | some type =>
    cases type with
    | announce | announceReply | gpuAnnounce => exact handlePeerAnnouncement_eq _ _ _ _ hp hr
    | goodbye => exact run_modify ({· with state := .disconnected}) _ hp fun _ => rfl
    | heartbeat =>
      refine run_unless_self _ fun hother => ?_
      exact run_modify (·.heard now) _ hp fun hpeer => absurd ⟨htype, hother, hpeer⟩ h
    | heartbeatAck => exact run_unless_self _ fun _ => run_modify (·.heard now) _ hp fun _ => rfl

theorem processDiscoveryMessage_blocks (fromAddr : UInt32) {msg : DiscoveryMessageHeader} (now : UInt64)
    (h : UnknownHeartbeat s msg) : (processDiscoveryMessage fromAddr msg now).run [] s = .error s := by
  obtain ⟨htype, hother, hpeer⟩ := h
  unfold processDiscoveryMessage
  rw [htype]
  rw [run_read_bind, if_neg hother, locked_of_notMem List.not_mem_nil, run_read_bind, hpeer]
  exact handlePeerAnnouncement_held _ _ _ _ List.mem_cons_self hother

theorem program_after (e : Event) (h : ¬ Blocks s e) : e.program.run [] s = .ok ((), s.after e) := by
  cases e with
  | datagram fromAddr bytes now =>
    simp only [Event.program, State.after]
    cases hmsg : accepted bytes with
    | none => rfl
    | some msg => exact processDiscoveryMessage_eq _ _ _ fun hunknown => h ⟨msg, hmsg, hunknown⟩
  | connection addr peerFd order =>
    simp only [Event.program, State.after, acceptPeerTcpConnection]
    rw [locked_of_notMem List.not_mem_nil, run_read_bind]
    cases order.find? (s.awaits addr) with
    | none => rfl
    | some nodeId => rfl
  | heartbeatTimer clock => rfl
  | pruneTimer nowNs => rfl

theorem program_blocks {e : Event} (h : Blocks s e) : e.program.run [] s = .error s := by
  cases e with
  | datagram fromAddr bytes now =>
    obtain ⟨msg, hmsg, hunknown⟩ := h
    simp only [Event.program, hmsg]
    exact processDiscoveryMessage_blocks _ _ hunknown
  | connection addr peerFd order | heartbeatTimer clock | pruneTimer nowNs => exact h.elim

end

/-- **A step of the thread.** It was not blocked before, and is after it exactly if the
event is one that stops it; the tables are then left as they are. -/
theorem step_cases {w w' : World} {e : Event} (h : step w e = some w') :
    w.blocked = false ∧ (Blocks w.tables e ∧ w' = ⟨w.tables, true⟩ ∨
      ¬ Blocks w.tables e ∧ w' = ⟨w.tables.after e, false⟩) := by
  unfold step at h
  split at h
  · cases h
  · next hrunning =>
    refine ⟨by simpa using hrunning, ?_⟩
    by_cases hblocks : Blocks w.tables e
    · rw [program_blocks hblocks] at h
      exact .inl ⟨hblocks, (Option.some.inj h).symm⟩
    · rw [program_after e hblocks] at h
      exact .inr ⟨hblocks, (Option.some.inj h).symm⟩

/-- **The discovery thread** never waits for the mutex it holds exactly if no node that is
missing in its table sends it a heartbeat. -/
theorem discovery_unblocked_iff (nodeId : UInt64) (events : List Event) :
    Run.Along step (fun w => w.blocked = false) (initial nodeId) events ↔
      Run.Admitted step (fun w e => ¬ Blocks w.tables e) (initial nodeId) events := by
  apply Run.along_iff_of_exact
  · intro w e w' _ hstep
    obtain ⟨-, ⟨hblocks, rfl⟩ | ⟨hblocks, rfl⟩⟩ := step_cases hstep
    · simp [hblocks]
    · simp [hblocks]
  · rfl

def strangersHeartbeat : List UInt8 :=
  [0x4D, 0x56, 0x47, 0x44, 0, 0, 0, 1, 0, 0, 0, 2, 0, 0, 0, 0, 0, 0, 0, 7, 0, 0, 0, 0, 0, 0, 0, 0,
    0, 0, 0, 0, 0, 0, 0, 0, 0, 0, 0, 0]

/-- One datagram is enough. -/
theorem heartbeat_blocks_thread :
    ¬ ∀ nodeId events, Run.Along step (fun w => w.blocked = false) (initial nodeId) events := by
  intro h
  have hbad := (h 1 [.datagram 0 strangersHeartbeat 0]).2 ⟨(initial 1).tables, true⟩ rfl
  cases hbad.head

end Mvgal.Runtime.Discovery
