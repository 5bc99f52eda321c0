import Mvgal.Runtime.Discovery

/-! The remote GPUs of the device registry, against the table of peers.

The registry should list one GPU for each index that a peer advertises, as long as the peer
is known and has not left. It is told of the GPUs of a peer when the peer is met and never
after that, so the two agree only as long as no peer changes its count, leaves or is
dropped (`remote_gpus_exact_iff`). A peer that left stays `DISCONNECTED` when it announces
itself again. -/
namespace Mvgal.Runtime.Discovery
open List State
open Function (update)

def State.listed (s : State) (nodeId : UInt64) (index : UInt32) : Nat :=
  s.remoteGpus.countP fun gpu => gpu.peerNodeId = nodeId ∧ gpu.localGpuIndex = index

/-- How often it should: once for each index a peer advertises that has not left. -/
def share : Option PeerInfo → UInt32 → Nat
  | some peer, index => if peer.state ≠ .disconnected ∧ index < peer.gpuCount then 1 else 0
  | none, _ => 0

def Exact (s : State) : Prop := ∀ nodeId, s.listed nodeId = share (s.peers nodeId)

/-- The world, and which nodes announced themselves since they last said goodbye. -/
structure History where
  world : World
  announced : UInt64 → Bool

def History.initial (nodeId : UInt64) : History := ⟨Discovery.initial nodeId, fun _ => false⟩

/-- A node that announces itself, its own messages apart. -/
def announcer (s : State) (msg : DiscoveryMessageHeader) : Option UInt64 :=
  match msg.type with
  | some .announce | some .announceReply | some .gpuAnnounce =>
    if msg.senderNodeId = s.nodeId then none else some msg.senderNodeId
  | _ => none

def leaver (msg : DiscoveryMessageHeader) : Option UInt64 :=
  if msg.type = some .goodbye then some msg.senderNodeId else none

def History.hear (h : History) (msg : DiscoveryMessageHeader) (nodeId : UInt64) : Bool :=
  if announcer h.world.tables msg = some nodeId then true
  else if leaver msg = some nodeId then false
  else h.announced nodeId

def History.announcedAfter (h : History) : Event → UInt64 → Bool
  | .datagram _ bytes _ =>
    match accepted bytes with
    | some msg => h.hear msg
    | none => h.announced
  | _ => h.announced

def History.step (h : History) (e : Event) : Option History :=
  (Discovery.step h.world e).map fun world => ⟨world, h.announcedAfter e⟩

/-- A peer that announced itself and has not left is not taken for one that has. -/
def Rejoined (announced : UInt64 → Bool) (s : State) : Prop :=
  ∀ nodeId peer, announced nodeId = true → s.peers nodeId = some peer → peer.state ≠ .disconnected

/-- The registry agrees with the table, and the table with the announcements. -/
def History.Agrees (h : History) : Prop := Exact h.world.tables ∧ Rejoined h.announced h.world.tables

/-- A peer of which the registry should list nothing. -/
def PeerInfo.Bare (peer : PeerInfo) : Prop := peer.state = .disconnected ∨ peer.gpuCount = 0

def MessageOk (s : State) (msg : DiscoveryMessageHeader) : Prop :=
  match msg.type with
  | some .announce | some .announceReply | some .gpuAnnounce =>
    msg.senderNodeId ≠ s.nodeId → ∀ peer, s.peers msg.senderNodeId = some peer →
      peer.state ≠ .disconnected ∧ msg.gpuCount = peer.gpuCount
  | some .goodbye => ∀ peer, s.peers msg.senderNodeId = some peer → peer.Bare
  | _ => True

/-- The events that keep the agreement. -/
def EventOk (s : State) : Event → Prop
  | .datagram _ bytes _ => ∀ msg, accepted bytes = some msg → MessageOk s msg
  | .pruneTimer nowNs => ∀ nodeId peer, s.peers nodeId = some peer → peer.stale nowNs peerTimeoutNs = true → peer.Bare
  | _ => True

/-! ### What a change of the table asks of the list -/

section
variable {s s' : State} {nodeId : UInt64} {peer peer' : PeerInfo}

theorem share_congr (hstate : peer'.state = .disconnected ↔ peer.state = .disconnected)
    (hcount : peer'.gpuCount = peer.gpuCount) : share (some peer') = share (some peer) := by
  funext index
  simp only [share, ne_eq, hstate, hcount]

/-- Two peers that have not left and are to be listed alike. -/
theorem share_eq_iff (h : peer.state ≠ .disconnected) (h' : peer'.state ≠ .disconnected) :
    share (some peer') = share (some peer) ↔ peer'.gpuCount = peer.gpuCount := by
  constructor
  · intro heq
    by_contra hne
    -- the smaller of the two counts is an index that only one of them advertises
    have hindex (index : UInt32) : index < peer'.gpuCount ↔ index < peer.gpuCount := by
      have hshare := congrFun heq index
      simp only [share, ne_eq, h, h', not_false_eq_true, true_and] at hshare
      constructor
      · intro hlt
        by_contra hnot
        rw [if_pos hlt, if_neg hnot] at hshare
        cases hshare
      · intro hlt
        by_contra hnot
        rw [if_neg hnot, if_pos hlt] at hshare
        cases hshare
    rcases UInt32.lt_or_lt_of_ne hne with hlt | hlt
    · exact absurd ((hindex _).mpr hlt) (UInt32.lt_irrefl _)
    · exact absurd ((hindex _).mp hlt) (UInt32.lt_irrefl _)
  · exact share_congr (iff_of_false h' h)

theorem share_eq_none_iff : share none = share (some peer) ↔ peer.Bare := by
  constructor
  · intro heq
    have hzero := congrFun heq 0
    simp only [share] at hzero
    split at hzero
    · cases hzero
    · next h =>
      by_cases hstate : peer.state = .disconnected
      · exact .inl hstate
      · have hcount : ¬ 0 < peer.gpuCount := fun hlt => h ⟨hstate, hlt⟩
        exact .inr (UInt32.le_zero_iff.mp (UInt32.not_lt.mp hcount))
  · rintro (hstate | hcount)
    · funext index
      simp [share, hstate]
    · funext index
      simp [share, hcount]

/-- A list that stays is right for another table exactly if every peer has the same share. -/
theorem exact_iff_of_list_eq (s' : State) (h : Exact s) (hlist : s'.remoteGpus = s.remoteGpus) :
    Exact s' ↔ ∀ nodeId, share (s'.peers nodeId) = share (s.peers nodeId) := by
  apply forall_congr'
  intro nodeId
  have hlisted : s'.listed nodeId = s.listed nodeId := by
    funext index
    simp only [listed, hlist]
  rw [hlisted, h nodeId]
  exact eq_comm

theorem exact_setPeer_iff (h : Exact s) (hpeer : s.peers nodeId = some peer) :
    Exact (s.setPeer nodeId peer') ↔ share (some peer') = share (some peer) := by
  rw [exact_iff_of_list_eq (s.setPeer nodeId peer') h rfl]
  constructor
  · intro hall
    simpa [setPeer, hpeer] using hall nodeId
  · intro hone other
    by_cases hother : other = nodeId
    · subst hother
      simpa [setPeer, hpeer] using hone
    · simp [setPeer, hother]

variable (peer : PeerInfo)

theorem countP_discovered (nodeId : UInt64) (index : UInt32) :
    ((List.range peer.gpuCount.toNat).map (discoveredGpu peer)).countP
        (fun gpu => gpu.peerNodeId = nodeId ∧ gpu.localGpuIndex = index) =
      if peer.nodeId = nodeId ∧ index < peer.gpuCount then 1 else 0 := by
  rw [countP_map]
  by_cases hnode : peer.nodeId = nodeId
  · have hsame : ∀ i ∈ range peer.gpuCount.toNat,
        (((fun gpu : RemoteGpu => decide (gpu.peerNodeId = nodeId ∧ gpu.localGpuIndex = index)) ∘ discoveredGpu peer) i
          = true ↔ (i == index.toNat) = true) := by
      intro i hi
      have hlt : i < UInt32.size := Nat.lt_trans (mem_range.mp hi) peer.gpuCount.toNat_lt
      simp [discoveredGpu, remoteGpu, hnode, ← UInt32.toNat_inj, UInt32.toNat_ofNat_of_lt' hlt]
    have hcount := Nodup.count (a := index.toNat) (nodup_range (n := peer.gpuCount.toNat))
    rw [countP_congr hsame]
    simpa [count, hnode, UInt32.lt_iff_toNat_lt] using hcount
  · have hnone : ∀ i ∈ range peer.gpuCount.toNat,
        ¬ ((fun gpu : RemoteGpu => decide (gpu.peerNodeId = nodeId ∧ gpu.localGpuIndex = index)) ∘ discoveredGpu peer) i
          = true := by
      intro i _
      simp [discoveredGpu, remoteGpu, hnode]
    rw [countP_eq_zero.mpr hnone, if_neg fun h => hnode h.1]

/-- A node that was not known brings exactly what it advertises. -/
theorem exact_discovered (h : Exact s) (hpeer : s.peers nodeId = none) (peer : PeerInfo) (hid : peer.nodeId = nodeId)
    (hstate : peer.state ≠ .disconnected) :
    Exact {s.setPeer nodeId peer with
      remoteGpus := s.remoteGpus ++ (List.range peer.gpuCount.toNat).map (discoveredGpu peer)} := by
  intro other
  funext index
  have hbefore : s.remoteGpus.countP (fun gpu => gpu.peerNodeId = other ∧ gpu.localGpuIndex = index) =
      share (s.peers other) index := congrFun (h other) index
  simp only [listed, setPeer, countP_append, hbefore, countP_discovered, hid]
  by_cases hother : other = nodeId
  · subst hother
    simp [hpeer, share, hstate]
  · simp [hother, Ne.symm hother]

/-! ### Events that touch neither the count of a peer nor whether it has left -/

structure PeerInfo.Alike (peer peer' : PeerInfo) : Prop where
  state : peer'.state = .disconnected ↔ peer.state = .disconnected
  gpuCount : peer'.gpuCount = peer.gpuCount

theorem alike_heard (now : UInt64) : peer.Alike (peer.heard now) := by
  refine ⟨?_, rfl⟩
  unfold PeerInfo.heard
  cases peer.state <;> simp

theorem alike_accepted (peerFd : Int32) : peer.Alike (peer.accepted peerFd) := by
  refine ⟨?_, rfl⟩
  unfold PeerInfo.accepted
  cases peer.state <;> simp

theorem alike_beaten (now : UInt64) : peer.Alike (peer.beaten now) := by
  unfold PeerInfo.beaten
  split
  · exact ⟨Iff.rfl, rfl⟩
  · exact ⟨Iff.rfl, rfl⟩

variable {announced : UInt64 → Bool}

theorem map_agrees (h : Exact s) (hrejoined : Rejoined announced s) (f : UInt64 → PeerInfo → PeerInfo)
    (hf : ∀ nodeId (peer : PeerInfo), peer.Alike (f nodeId peer)) (hlist : s'.remoteGpus = s.remoteGpus)
    (hpeers : ∀ nodeId, s'.peers nodeId = (s.peers nodeId).map (f nodeId)) : Exact s' ∧ Rejoined announced s' := by
  constructor
  · rw [exact_iff_of_list_eq _ h hlist]
    intro nodeId
    rw [hpeers]
    cases s.peers nodeId with
    | none => rfl
    | some peer => exact share_congr (hf nodeId peer).state (hf nodeId peer).gpuCount
  · intro nodeId peer' hannounced hpeer'
    rw [hpeers] at hpeer'
    obtain ⟨peer, hpeer, rfl⟩ := Option.map_eq_some_iff.mp hpeer'
    exact fun hstate => hrejoined nodeId peer hannounced hpeer ((hf nodeId peer).state.mp hstate)

theorem modify_agrees (h : Exact s) (hrejoined : Rejoined announced s) {f : PeerInfo → PeerInfo}
    (hf : ∀ peer : PeerInfo, peer.Alike (f peer)) : Exact (s.modify nodeId f) ∧ Rejoined announced (s.modify nodeId f) := by
  apply map_agrees h hrejoined (fun other peer => if other = nodeId then f peer else peer)
  · intro other peer
    split
    · exact hf peer
    · exact ⟨Iff.rfl, rfl⟩
  · rfl
  · intro other
    by_cases hother : other = nodeId
    · subst hother
      simp [State.modify]
    · simp [State.modify, hother]

/-! ### Announcements, departures and the pruning of peers -/

theorem rejoined_setPeer (nodeId : UInt64) (peer : PeerInfo) (hrejoined : Rejoined announced s)
    (gpus : List RemoteGpu) :
    Rejoined (update announced nodeId true) {s.setPeer nodeId peer with remoteGpus := gpus} ↔
      peer.state ≠ .disconnected := by
  constructor
  · intro h
    exact h nodeId peer (Function.update_self ..) (Function.update_self ..)
  · intro hstate other peer' hannounced hpeer'
    obtain ⟨rfl, rfl⟩ | ⟨hother, hpeer'⟩ := Table.update_some hpeer'
    · exact hstate
    · rw [Function.update_of_ne hother] at hannounced
      exact hrejoined other peer' hannounced hpeer'

theorem announced_state (address : UInt32) (tcpPort : UInt16) (gpuCount : UInt32) (now : UInt64) :
    (peer.announced address tcpPort gpuCount now).state = .disconnected ↔ peer.state = .disconnected := by
  unfold PeerInfo.announced
  cases peer.state <;> simp

/-- **An announcement.** A node that is not known is entered with all it advertises; one that
is known must have as many GPUs as before and not have left. -/
theorem announce_agrees_iff (h : Exact s) (hrejoined : Rejoined announced s) (hother : nodeId ≠ s.nodeId)
    (address : UInt32) (tcpPort : UInt16) (gpuCount : UInt32) (now : UInt64) :
    Exact (s.announce nodeId address tcpPort gpuCount now) ∧
        Rejoined (update announced nodeId true) (s.announce nodeId address tcpPort gpuCount now) ↔
      ∀ peer, s.peers nodeId = some peer → peer.state ≠ .disconnected ∧ gpuCount = peer.gpuCount := by
  unfold announce
  rw [if_neg hother]
  cases hpeer : s.peers nodeId with
  | none =>
    have hstate : (PeerInfo.discovered nodeId address tcpPort gpuCount now).state ≠ .disconnected := by
      simp [PeerInfo.discovered]
    refine iff_of_true ⟨?_, ?_⟩ (by simp)
    · exact exact_discovered h hpeer _ rfl hstate
    · exact (rejoined_setPeer nodeId _ hrejoined _).mpr hstate
  | some peer =>
    have hstate := not_congr (announced_state peer address tcpPort gpuCount now)
    have hre := rejoined_setPeer nodeId (peer.announced address tcpPort gpuCount now) hrejoined
      s.remoteGpus
    simp only [Option.some.injEq, forall_eq']
    rw [exact_setPeer_iff h hpeer, and_comm]
    refine (and_congr_left' (hre.trans hstate)).trans ?_
    exact and_congr_right fun hpresent => share_eq_iff hpresent (hstate.mpr hpresent)

/-- **A departure.** Only a peer of which nothing is listed can leave. -/
theorem goodbye_agrees_iff (h : Exact s) (hrejoined : Rejoined announced s) :
    Exact (s.modify nodeId ({· with state := .disconnected})) ∧
        Rejoined (update announced nodeId false) (s.modify nodeId ({· with state := .disconnected})) ↔
      ∀ peer, s.peers nodeId = some peer → peer.Bare := by
  have hre : Rejoined (update announced nodeId false) (s.modify nodeId ({· with state := .disconnected})) := by
    intro other peer hannounced hpeer
    by_cases hother : other = nodeId
    · subst hother
      simp at hannounced
    · rw [Function.update_of_ne hother] at hannounced
      exact hrejoined other peer hannounced (by simpa [State.modify, hother] using hpeer)
  rw [and_iff_left hre]
  cases hpeer : s.peers nodeId with
  | none =>
    rw [modify_of_none _ hpeer]
    exact iff_of_true h (by simp)
  | some peer =>
    have hgone : share (some {peer with state := .disconnected}) = share none := by
      funext index
      simp [share]
    rw [modify_of_some _ hpeer, exact_setPeer_iff h hpeer, hgone, share_eq_none_iff]
    simp

/-- **Pruning.** So it is with the peers that are dropped. -/
theorem prune_agrees_iff (h : Exact s) (hrejoined : Rejoined announced s) (keep : PeerInfo → Bool) :
    Exact {s with peers := fun n => (s.peers n).filter keep} ∧
        Rejoined announced {s with peers := fun n => (s.peers n).filter keep} ↔
      ∀ nodeId peer, s.peers nodeId = some peer → keep peer = false → peer.Bare := by
  have hre : Rejoined announced {s with peers := fun n => (s.peers n).filter keep} := by
    intro nodeId peer hannounced hpeer
    exact hrejoined nodeId peer hannounced (Option.filter_eq_some_iff.mp hpeer).1
  rw [and_iff_left hre, exact_iff_of_list_eq {s with peers := fun n => (s.peers n).filter keep} h rfl]
  apply forall_congr'
  intro nodeId
  cases hpeer : s.peers nodeId with
  | none => simp [hpeer]
  | some peer =>
    cases hkeep : keep peer with
    | true => simp [hpeer, hkeep, Option.filter]
    | false => simp [hpeer, hkeep, Option.filter, share_eq_none_iff]

end

section
variable {h h' : History} {msg : DiscoveryMessageHeader} {nodeId : UInt64}

theorem hear_of_announcer (ha : announcer h.world.tables msg = some nodeId) :
    h.hear msg = update h.announced nodeId true := by
  funext other
  by_cases hother : other = nodeId
  · simp [History.hear, ha, hother]
  · have hleaver : leaver msg = none := by
      unfold leaver
      rw [if_neg]
      intro htype
      simp [announcer, htype] at ha
    simp [History.hear, ha, hother, Ne.symm hother, hleaver]

theorem hear_of_leaver (nodeId : UInt64) (hl : leaver msg = some nodeId) (ha : announcer h.world.tables msg = none) :
    h.hear msg = update h.announced nodeId false := by
  funext other
  by_cases hother : other = nodeId
  · simp [History.hear, ha, hl, hother]
  · simp [History.hear, ha, hl, hother, Ne.symm hother]

theorem hear_of_neither (ha : announcer h.world.tables msg = none) (hl : leaver msg = none) :
    h.hear msg = h.announced := by
  funext other
  simp [History.hear, ha, hl]

variable (hi : h.Agrees)
include hi

/-- What an announcement asks, of this node itself or of another. -/
theorem announcement_agrees_iff (fromAddr : UInt32) (now : UInt64)
    (ha : announcer h.world.tables msg =
      if msg.senderNodeId = h.world.tables.nodeId then none else some msg.senderNodeId) (hl : leaver msg = none) :
    Exact (h.world.tables.announce msg.senderNodeId fromAddr msg.tcpPort msg.gpuCount now) ∧
        Rejoined (h.hear msg) (h.world.tables.announce msg.senderNodeId fromAddr msg.tcpPort msg.gpuCount now) ↔
      (msg.senderNodeId ≠ h.world.tables.nodeId → ∀ peer, h.world.tables.peers msg.senderNodeId = some peer →
        peer.state ≠ .disconnected ∧ msg.gpuCount = peer.gpuCount) := by
  by_cases hself : msg.senderNodeId = h.world.tables.nodeId
  · rw [if_pos hself] at ha
    rw [hear_of_neither ha hl, announce, if_pos hself]
    exact iff_of_true hi fun hother => absurd hself hother
  · rw [if_neg hself] at ha
    rw [hear_of_announcer ha, announce_agrees_iff hi.1 hi.2 hself]
    exact ⟨fun hall _ => hall, fun hall => hall hself⟩

theorem heartbeat_agrees (now : UInt64) (ha : announcer h.world.tables msg = none)
    (hl : leaver msg = none) {tables : State}
    (heq : tables = if msg.senderNodeId = h.world.tables.nodeId then h.world.tables
      else h.world.tables.modify msg.senderNodeId (·.heard now)) :
    Exact tables ∧ Rejoined (h.hear msg) tables := by
  rw [hear_of_neither ha hl, heq]
  split
  · exact hi
  · exact modify_agrees hi.1 hi.2 fun peer => alike_heard peer now

theorem receive_agrees_iff (fromAddr : UInt32) (msg : DiscoveryMessageHeader) (now : UInt64) :
    Exact (h.world.tables.receive fromAddr msg now) ∧ Rejoined (h.hear msg) (h.world.tables.receive fromAddr msg now) ↔
      MessageOk h.world.tables msg := by
  unfold receive MessageOk
  cases htype : msg.type with
  | none =>
    rw [hear_of_neither (by simp [announcer, htype]) (by simp [leaver, htype])]
    exact iff_of_true hi trivial
  | some type =>
    cases type with
    | announce | announceReply | gpuAnnounce =>
      exact announcement_agrees_iff hi _ _ (by simp [announcer, htype]) (by simp [leaver, htype])
    | goodbye =>
      rw [hear_of_leaver msg.senderNodeId (by simp [leaver, htype]) (by simp [announcer, htype])]
      exact goodbye_agrees_iff hi.1 hi.2
    | heartbeat | heartbeatAck =>
      exact iff_of_true (heartbeat_agrees hi now (by simp [announcer, htype]) (by simp [leaver, htype]) rfl) trivial

/-- What an event asks where it does not stop the thread. -/
theorem after_agrees_iff (e : Event) :
    Exact (h.world.tables.after e) ∧ Rejoined (h.announcedAfter e) (h.world.tables.after e) ↔
      EventOk h.world.tables e := by
  cases e with
  | datagram fromAddr bytes now =>
    simp only [State.after, History.announcedAfter, EventOk]
    cases hmsg : accepted bytes with
    | none => exact iff_of_true hi (by simp)
    | some msg =>
      rw [receive_agrees_iff hi]
      simp
  | connection addr peerFd order =>
    refine iff_of_true ?_ trivial
    simp only [State.after]
    split
    · exact modify_agrees hi.1 hi.2 fun peer => alike_accepted peer peerFd
    · exact hi
  | heartbeatTimer clock =>
    refine iff_of_true ?_ trivial
    exact map_agrees hi.1 hi.2 (fun n peer => peer.beaten (clock n)) (fun n peer => alike_beaten peer _) rfl fun _ => rfl
  | pruneTimer nowNs =>
    refine (prune_agrees_iff hi.1 hi.2 _).trans ?_
    simp only [EventOk, Bool.not_eq_false']

/-- The heartbeat that stops the thread changes neither table. -/
theorem blocks_agrees_iff {e : Event} (hblocks : Blocks h.world.tables e) :
    (⟨⟨h.world.tables, true⟩, h.announcedAfter e⟩ : History).Agrees ↔ EventOk h.world.tables e := by
  cases e with
  | datagram fromAddr bytes now =>
    obtain ⟨msg, hmsg, htype, -⟩ := hblocks
    have hheard : h.announcedAfter (.datagram fromAddr bytes now) = h.announced := by
      simp only [History.announcedAfter, hmsg]
      exact hear_of_neither (by simp [announcer, htype]) (by simp [leaver, htype])
    rw [hheard]
    refine iff_of_true hi ?_
    simp [EventOk, hmsg, MessageOk, htype]
  | connection addr peerFd order | heartbeatTimer clock | pruneTimer nowNs => exact hblocks.elim

theorem step_agrees_iff {e : Event} (hstep : h.step e = some h') :
    h'.Agrees ↔ EventOk h.world.tables e := by
  obtain ⟨world, hworld, rfl⟩ := Option.map_eq_some_iff.mp hstep
  obtain ⟨-, ⟨hblocks, rfl⟩ | ⟨-, rfl⟩⟩ := step_cases hworld
  · exact blocks_agrees_iff hi hblocks
  · exact after_agrees_iff hi e

end

/-- **The remote GPUs listed** are those of the peers that are there, after every sequence of
events, exactly if no known peer announces another number of GPUs or announces itself after
it left, and no peer with GPUs leaves or is pruned. -/
theorem remote_gpus_exact_iff (nodeId : UInt64) (events : List Event) :
    Run.Along History.step History.Agrees (.initial nodeId) events ↔
      Run.Admitted History.step (fun h e => EventOk h.world.tables e) (.initial nodeId) events := by
  apply Run.along_iff_of_exact
  · intro h e h' hi hstep
    exact step_agrees_iff hi hstep
  · refine ⟨fun n => rfl, ?_⟩
    intro n peer hannounced
    cases hannounced

def announcement : List UInt8 :=
  [0x4D, 0x56, 0x47, 0x44, 0, 0, 0, 1, 0, 0, 0, 0, 0, 0, 0, 0, 0, 0, 0, 7, 0, 0, 0, 1, 0, 0, 0, 0,
    0, 0, 0, 0, 0, 0, 0, 0, 0, 0, 0, 0]

def farewell : List UInt8 :=
  [0x4D, 0x56, 0x47, 0x44, 0, 0, 0, 1, 0, 0, 0, 4, 0, 0, 0, 0, 0, 0, 0, 7, 0, 0, 0, 0, 0, 0, 0, 0,
    0, 0, 0, 0, 0, 0, 0, 0, 0, 0, 0, 0]

/-- The GPU of a peer that left stays in the registry. -/
theorem farewell_leaves_gpu : ¬ ∀ nodeId events, Run.Along History.step History.Agrees (.initial nodeId) events := by
  intro h
  have hbad := (h 1 [.datagram 0 announcement 0, .datagram 0 farewell 0]).final rfl
  exact absurd (congrFun (hbad.1 7) 0) (by decide)

end Mvgal.Runtime.Discovery
