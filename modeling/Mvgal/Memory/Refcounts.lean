import Mvgal.Lib.Run
import Mvgal.Memory.Capacity
import Mvgal.Memory.Ownership

/-! Reference counts and aliases over whole runs.

Clients allocate buffers, make aliases of them and of aliases, detach aliases, and
free each handle once. `Accounted` says what the counts, the alias lists and the
blocks of memory then are; it follows from the ledger, which every call keeps as
long as no alias that has aliases of its own is detached
(`refcounts_along`). Detaching such an alias gives up its reference to the memory
that its own aliases still point into. -/
namespace Mvgal.Memory
open Arena Option
open Blocks (Ptr Space Fault)
open Function (update update_self update_of_ne)

/-! ### What is accounted for -/

/-- The memory manager, and the handles that their owners have not freed yet. -/
structure Owners where
  memory : State
  held : Nat → Bool

/-- The destruction of the buffer releases this block of memory. -/
def Buffer.Owns (x : Buffer) (i : Nat) : Prop :=
  x.dmabufOwner = true ∧ x.dmabufFd.isSome = true ∧ x.hostPtr.map Ptr.block = some i ∨
    x.shouldFree = true ∧ x.originalPtr.map Ptr.block = some i

/-- Counts, lists, structures and blocks are as the live handles and aliases demand:
what is referred to is there, with one owner for each block, and what is not
referred to any more is gone. -/
structure Accounted (w : Owners) : Prop where
  refcount : ∀ b x, w.memory.store.cells b = some x →
    x.refcount.toNat = (w.held b).toNat + x.aliases.length
  nodup : ∀ b x, w.memory.store.cells b = some x → x.aliases.Nodup
  aliases : ∀ b x, w.memory.store.cells b = some x →
    ∀ c, c ∈ x.aliases ↔ ∃ y, w.memory.store.cells c = some y ∧ y.parent? = some b
  held_live : ∀ b, w.held b = true → (w.memory.store.cells b).isSome
  parent_live : ∀ b x p, w.memory.store.cells b = some x → x.parent? = some p →
    (w.memory.store.cells p).isSome
  block_live : ∀ b x p q, w.memory.store.cells b = some x → x.parent? = some p → x.hostPtr = some q →
    (w.memory.space.blocks.cells q.block).isSome
  referred : ∀ b x, w.memory.store.cells b = some x → 0 < x.refcount.toNat
  owner : ∀ i, (w.memory.space.blocks.cells i).isSome ↔
    ∃ b x, w.memory.store.cells b = some x ∧ x.Owns i
  owner_unique : ∀ b b' x x' i, w.memory.store.cells b = some x → w.memory.store.cells b' = some x' →
    x.Owns i → x'.Owns i → b = b'

variable {m : State} {held : Nat → Bool} {x y : Buffer} {b p : Nat} {V : Nat → Option Buffer} {s : Space}

theorem ledger_owns_iff {extra : Nat → Nat}
    (h : Ledger held extra V s) (hx : V b = some x) (i : Nat) :
    x.Owns i ↔ x.parent? = none ∧ x.grip.block? = some i := by
  cases hp : x.parent? with
  | none =>
    obtain ⟨j, hj⟩ := h.owned.root b x.grip (h.grip hx) hp
    have hblock := hj.block?_eq
    obtain ⟨hhost, k, -, ⟨hsf, hop, -, hown⟩ | ⟨hsf, hown, hfd⟩⟩ := hj
    · change x.shouldFree = true at hsf
      change x.originalPtr = some ⟨j, 0⟩ at hop
      change x.dmabufOwner = false at hown
      simp [Buffer.Owns, hsf, hop, hown, hblock]
    · change x.shouldFree = false at hsf
      change x.dmabufOwner = true at hown
      change x.dmabufFd.isSome = true at hfd
      change x.hostPtr = some ⟨j, 0⟩ at hhost
      simp [Buffer.Owns, hsf, hown, hfd, hhost, hblock]
  | some q =>
    obtain ⟨n, hn⟩ := isSome_iff_exists.mp
      ((h.forest.ok b x.node (h.node hx)).parent_live q hp)
    obtain ⟨y, hy, -⟩ := map_eq_some_iff.mp hn
    have hbor := (h.owned.shared b _ q _ (h.grip hx) hp (h.grip hy)).1
    have hsf : x.shouldFree = false := hbor.1
    have hown : x.dmabufOwner = false := hbor.2
    simp [Buffer.Owns, hsf, hown]

/-- Every buffer points into a live block: its own, or that of its oldest ancestor. -/
theorem Ledger.block_live {extra : Nat → Nat}
    (h : Ledger held extra V s) (hx : V b = some x) :
    ∃ q, x.hostPtr = some q ∧ (s.blocks.cells q.block).isSome := by
  induction b using Nat.strong_induction_on generalizing x with
  | _ b ih =>
    cases hp : x.parent? with
    | none =>
      obtain ⟨i, hi⟩ := h.owned.root b x.grip (h.grip hx) hp
      exact ⟨⟨i, 0⟩, hi.1, hi.live⟩
    | some p =>
      have hok := h.forest.ok b x.node (h.node hx)
      obtain ⟨n, hn⟩ := isSome_iff_exists.mp (hok.parent_live p hp)
      obtain ⟨y, hy, -⟩ := map_eq_some_iff.mp hn
      obtain ⟨q, hq, hlive⟩ := ih p (hok.parent_lt p hp) hy
      have hshared : x.hostPtr.map Ptr.block = y.hostPtr.map Ptr.block :=
        (h.owned.shared b _ p _ (h.grip hx) hp (h.grip hy)).2
      rw [hq, map_some, map_eq_some_iff] at hshared
      obtain ⟨q', hq', heq⟩ := hshared
      exact ⟨q', hq', heq ▸ hlive⟩

def Booked (w : Owners) : Prop :=
  Ledger w.held (fun _ => 0) w.memory.store.cells w.memory.space

variable {w : Owners}

theorem accounted_of_booked (h : Booked w) : Accounted w := by
  have hok (b : Nat) (x : Buffer) (hx : w.memory.store.cells b = some x) :=
    h.forest.ok b x.node (h.node hx)
  have hlive (b : Nat) (hb : (nodesOf w.memory.store.cells b).isSome) :
      (w.memory.store.cells b).isSome := by rwa [nodesOf, Option.isSome_map] at hb
  refine ⟨fun b x hx => (hok b x hx).count_eq, fun b x hx => (hok b x hx).nodup,
    fun b x hx c => ((hok b x hx).mem_children c).trans ?_, fun b hb => hlive b (h.forest.held_live b hb),
    fun b x p hx hp => hlive p ((hok b x hx).parent_live p hp), fun b x p q hx _ hq => ?_,
    fun b x hx => (hok b x hx).count_pos, fun i => ⟨fun hi => ?_, ?_⟩, fun b b' x x' i hx hx' ho ho' => ?_⟩
  · show (nodesOf w.memory.store.cells c).bind Node.parent = some b ↔ _
    unfold nodesOf
    cases w.memory.store.cells c with
    | none => simp
    | some y => simp [Buffer.node]
  · obtain ⟨q', hq', hbl⟩ := h.block_live hx
    exact Option.some.inj (hq'.symm.trans hq) ▸ hbl
  · obtain ⟨b, g, hb, hroot, hbl⟩ := h.owned.covered i hi
    obtain ⟨x, hx, rfl⟩ := Option.map_eq_some_iff.mp hb
    exact ⟨b, x, hx, (ledger_owns_iff h hx i).mpr ⟨hroot, hbl⟩⟩
  · rintro ⟨b, x, hx, ho⟩
    obtain ⟨-, hbl⟩ := (ledger_owns_iff h hx i).mp ho
    obtain ⟨q, hq, hqb⟩ := h.block_live hx
    have heq : some q.block = some i := by
      rw [← hbl]
      exact (congrArg (Option.map Ptr.block) hq).symm
    exact Option.some.inj heq ▸ hqb
  · obtain ⟨hr, hbl⟩ := (ledger_owns_iff h hx i).mp ho
    obtain ⟨hr', hbl'⟩ := (ledger_owns_iff h hx' i).mp ho'
    exact h.owned.unique b b' _ _ (h.grip hx) (h.grip hx') hr hr' (hbl.trans hbl'.symm)

inductive OwnerCall where
  | allocate (sys : System) (mgr : GpuManager) (info : AllocInfo)
  | createAlias (sys : System) (p : Nat) (offset size : UInt64) (flags : UInt32)
  | aliasDetach (sys : System) (b : Nat)
  | free (b : Nat)

def Owners.take (w : Owners) (r : Except Error Nat × State) : Owners where
  memory := r.2
  held :=
    match r.1 with
    | .ok b => update w.held b true
    | .error _ => w.held

/-- Calls on structures that are live; a handle is freed while it is held. -/
def ownerCall (w : Owners) : OwnerCall → Option (Except Fault Owners)
  | .allocate sys mgr info => some (.ok (w.take (memoryAllocate sys mgr w.memory info)))
  | .createAlias sys p offset size flags =>
    if (w.memory.store.cells p).isSome then
      some ((memoryCreateAlias sys w.memory p offset size flags).map w.take)
    else none
  | .aliasDetach sys b =>
    if (w.memory.store.cells b).isSome then
      some ((memoryAliasDetach sys w.memory b).map fun r => ⟨r.2, w.held⟩)
    else none
  | .free b =>
    if w.held b then some ((memoryFree w.memory b).map fun m => ⟨m, update w.held b false⟩) else none

/-- An alias that has aliases of its own is not detached. -/
def OwnerOk (w : Owners) : OwnerCall → Prop
  | .aliasDetach _ b => ∀ x, w.memory.store.cells b = some x → x.parent? ≠ none → x.aliases = []
  | _ => True

/-- No structure or block was used or freed after it was freed. (The copy of a detach can
still be too long for the parent's memory, which ends the run before anything is
released.) -/
def NothingLost (P : Owners → Prop) : Except Fault Owners → Prop
  | .ok w => P w
  | .error f => f = .outOfBounds

theorem nodesOf_next (m : State) : nodesOf m.store.cells m.store.next = none := by
  rw [nodesOf, cells_next]
  rfl

theorem gripsOf_next (m : State) : gripsOf m.store.cells m.store.next = none := by
  rw [gripsOf, cells_next]
  rfl

theorem push_cells_eq (A : Arena Buffer) (x : Buffer) :
    (A.push x).cells = update A.cells A.next (some x) := rfl

/-- No one is a child of a structure that is not there yet. -/
theorem lone_next (h : Ledger held (fun _ => 0) m.store.cells m.space) (c : Nat) (g : Grip)
    (hc : gripsOf m.store.cells c = some g) : g.parent ≠ some m.store.next := by
  obtain ⟨y, hy, rfl⟩ := map_eq_some_iff.mp hc
  intro hp
  exact h.forest.parentOf_ne (nodesOf_next m) c ((parentOf_eq (h.node hy)).trans hp)

theorem booked_allocate (h : Booked w) (sys : System) (mgr : GpuManager) (info : AllocInfo) :
    Booked (w.take (memoryAllocate sys mgr w.memory info)) := by
  obtain ⟨-, e, he⟩ | ⟨x, s, hyes, he⟩ := memoryAllocate_cases sys mgr w.memory info
  · rw [he]
    show Ledger w.held _ (ensureInitialized sys mgr w.memory).store.cells
      (ensureInitialized sys mgr w.memory).space
    rw [ensureInitialized_store, ensureInitialized_space]
    exact h
  · rw [he]
    obtain ⟨hnode, -⟩ := node_of_granted hyes
    obtain ⟨kind, byte, hn, rfl, hx⟩ := allocateMemory_cases hyes.2.2
    rw [ensureInitialized_space] at hx
    show Ledger (update w.held (ensureInitialized sys mgr w.memory).store.next true) _
      ((ensureInitialized sys mgr w.memory).store.push x).cells
      ((ensureInitialized sys mgr w.memory).space.create kind _ hn byte).2
    rw [ensureInitialized_store, ensureInitialized_space, push_cells_eq]
    refine ⟨?_, ?_⟩
    · rw [nodesOf_update, map_some, hnode]
      exact h.forest.create (nodesOf_next w.memory) rfl
    · rw [gripsOf_update, map_some]
      refine h.owned.addRoot
        (fun g hg => absurd ((gripsOf_next w.memory).symm.trans hg) (by simp)) (lone_next h)
        (cells_next _) (fun j hj => ?_) (congrArg Node.parent hnode) ?_
      · exact (push_cells ..).trans (if_neg hj)
      · obtain ⟨rfl, -, -, rfl⟩ | ⟨rfl, rfl⟩ := hx
        · exact ⟨rfl, _, push_self .., .inr ⟨rfl, rfl, rfl⟩⟩
        · exact ⟨rfl, _, push_self .., .inl ⟨rfl, rfl, rfl, rfl⟩⟩

theorem booked_createAlias (h : Booked w) (hx : w.memory.store.cells p = some x)
    (sys : System) (offset size : UInt64) (flags : UInt32) :
    ∃ r, memoryCreateAlias sys w.memory p offset size flags = .ok r ∧ Booked (w.take r) := by
  obtain ⟨-, e, he⟩ | ⟨hyes, he⟩ := memoryCreateAlias_cases sys hx offset size flags
  · exact ⟨_, he, h⟩
  · refine ⟨_, he, ?_⟩
    obtain ⟨v, a, hr⟩ := restrict_eq (x.alias p offset (aliasExtent x offset size)) flags
    rw [hr]
    have hlt := lt_next hx
    have hcount : x.refcount.toNat = (w.held p).toNat + x.aliases.length :=
      (h.forest.ok p x.node (h.node hx)).count_eq
    have hroom := hyes.room
    have hheld : (w.held p).toNat ≤ 1 := Bool.toNat_le _
    have hwrap : x.refcount.toNat + 1 < 2 ^ 32 := by
      unfold maxAliases at hroom
      omega
    show Ledger (update w.held w.memory.store.next true) _ (w.memory.addAlias p _).store.cells
      w.memory.space
    rw [addAlias_cells hx]
    refine ⟨?_, ?_⟩
    · rw [nodesOf_update, nodesOf_update, map_some, map_some,
        node_addAlias w.memory.store.next hwrap]
      exact h.forest.attach (h.node hx) (nodesOf_next w.memory) hlt rfl
    · rw [gripsOf_update_eq (x := x) (y := x.addAlias w.memory.store.next)
        (by rw [update_of_ne (Nat.ne_of_lt hlt), hx]) rfl, gripsOf_update, map_some]
      refine h.owned.addAlias (gripsOf_next w.memory) (lone_next h) (h.grip hx) rfl ⟨rfl, rfl⟩ ?_
      show (x.hostPtr.map (·.add offset.toNat)).map Ptr.block = x.hostPtr.map Ptr.block
      rw [map_map]
      rfl

theorem update_zero_self (p : Nat) :
    update (update (fun _ => 0) p (0 + 1)) p (update (fun _ => 0) p (0 + 1) p - 1) = fun _ : Nat => 0 := by
  funext i
  by_cases hi : i = p
  · rw [hi, update_self, update_self]
  · rw [update_of_ne hi, update_of_ne hi]

theorem booked_free (h : Booked w) (hb : w.held b = true) :
    ∃ m', memoryFree w.memory b = .ok m' ∧ Booked ⟨m', update w.held b false⟩ := by
  obtain ⟨n, hn⟩ := isSome_iff_exists.mp (h.forest.held_live b hb)
  obtain ⟨x, hx, -⟩ := map_eq_some_iff.mp hn
  have hl : Ledger (update w.held b false) (update (fun _ => 0) b (0 + 1)) w.memory.store.cells
      w.memory.space := ⟨h.forest.unhold hb, h.owned⟩
  obtain ⟨m', V', hrun, hl', hag, hab⟩ := release_spec w.memory.store.next (lt_next hx)
    (fun _ _ => rfl) hx hl (by rw [update_self]; omega)
  refine ⟨m', hrun, ?_⟩
  have hcells : m'.store.cells = V' := by
    funext i
    by_cases hi : i ≤ b
    · exact hag i hi
    · rw [(hab i (by omega)).1, (hab i (by omega)).2]
  rw [update_zero_self] at hl'
  show Ledger (update w.held b false) _ m'.store.cells m'.space
  rw [hcells]
  exact hl'

/-- The ledger after an alias without aliases got memory of its own; its reference to the
parent is left to be dropped. -/
theorem Ledger.detach {s' : Space} {i : Nat}
    (h : Ledger held (fun _ => 0) V s) (hx : V b = some x) (hp : x.parent? = some p) (hy : V p = some y)
    (hal : x.aliases = []) (hi : s.blocks.cells i = none)
    (hs : ∀ j, j ≠ i → s'.blocks.cells j = s.blocks.cells j)
    (hnew : ∃ k, s'.blocks.cells i = some k ∧ k.kind = .heap) :
    Ledger held (update (fun _ => 0) p (0 + 1))
      (update (update V b (some (x.detach ⟨i, 0⟩))) p (some (y.removeAlias b))) s' := by
  have hlt : p < b := (h.forest.ok b x.node (h.node hx)).parent_lt p hp
  have hbor := (h.owned.shared b _ p _ (h.grip hx) hp (h.grip hy)).1
  obtain ⟨k, hk, hheap⟩ := hnew
  refine ⟨?_, ?_⟩
  · rw [nodesOf_update, nodesOf_update]
    exact h.forest.sever (h.node hx) hp (h.node hy)
  · rw [gripsOf_update_eq (x := y) (y := y.removeAlias b)
      (by rw [update_of_ne (Nat.ne_of_lt hlt), hy]) rfl, gripsOf_update, map_some]
    refine h.owned.addRoot (fun g hg => ?_) (h.childless hx hal) hi hs rfl
      ⟨rfl, k, hk, .inl ⟨rfl, rfl, hheap, hbor.2⟩⟩
    cases (h.grip hx).symm.trans hg
    show x.parent? ≠ none
    rw [hp]
    simp

/-- A new heap block is the next one, and the others stay. -/
theorem malloc_new {sys : System} {s' : Space} {n : UInt64} {byte : Nat → UInt8} {q : Ptr}
    (h : malloc sys s n byte = some (q, s')) :
    q = ⟨s.blocks.next, 0⟩ ∧ (∀ j, j ≠ s.blocks.next → s'.blocks.cells j = s.blocks.cells j) ∧
      ∃ k, s'.blocks.cells s.blocks.next = some k ∧ k.kind = .heap := by
  obtain ⟨hn, heq⟩ := malloc_cases h
  cases heq
  exact ⟨rfl, fun j hj => (push_cells ..).trans (if_neg hj), _, push_self .., rfl⟩

/-- After the private copy was made, the release of the parent and the last assignments
complete the ledger. -/
theorem booked_detached {i : Nat} (hx : w.memory.store.cells b = some x)
    (hlt : p < b) (hy : w.memory.store.cells p = some y)
    (hl : Ledger w.held (update (fun _ => 0) p (0 + 1))
      (update (update w.memory.store.cells b (some (x.detach ⟨i, 0⟩))) p (some (y.removeAlias b))) s) :
    ∃ m', bufferRelease ({w.memory with space := s}.modify p (·.removeAlias b)) p = .ok m' ∧
      Booked ⟨m'.modify b (·.detach ⟨i, 0⟩), w.held⟩ := by
  have hrem (j : Nat) (hj : j ≠ p) :
      (w.memory.store.modify p (·.removeAlias b)).cells j = w.memory.store.cells j :=
    modify_of_ne _ _ hj
  have hag : AgreesTo ({w.memory with space := s}.modify p (·.removeAlias b))
      (update (update w.memory.store.cells b (some (x.detach ⟨i, 0⟩))) p (some (y.removeAlias b))) p := by
    intro j hj
    show (w.memory.store.modify p (·.removeAlias b)).cells j = _
    by_cases hjp : j = p
    · rw [hjp, modify_self, update_self, hy]
      rfl
    · rw [hrem j hjp, update_of_ne hjp, update_of_ne (by omega)]
  obtain ⟨m', V', hrun, hl', hag', hab⟩ := release_spec w.memory.store.next (lt_next hy) hag
    (update_self ..) hl (by rw [update_self]; omega)
  refine ⟨m', hrun, ?_⟩
  have hcells : (m'.store.modify b (·.detach ⟨i, 0⟩)).cells = V' := by
    funext j
    by_cases hjb : j = b
    · rw [hjb, modify_self, (hab b hlt).1, (hab b hlt).2, update_of_ne (by omega),
        update_self]
      show Option.map _ ((w.memory.store.modify p (·.removeAlias b)).cells b) = _
      rw [hrem b (by omega), hx]
      rfl
    · rw [modify_of_ne _ _ hjb]
      by_cases hjp : j ≤ p
      · exact hag' j hjp
      · rw [(hab j (by omega)).1, (hab j (by omega)).2, update_of_ne (by omega), update_of_ne hjb]
        exact hrem j (by omega)
  rw [update_zero_self] at hl'
  show Ledger w.held _ (m'.store.modify b (·.detach ⟨i, 0⟩)).cells m'.space
  rw [hcells]
  exact hl'

theorem booked_detach (h : Booked w) (hx : w.memory.store.cells b = some x) (sys : System)
    (hok : x.parent? ≠ none → x.aliases = []) :
    NothingLost Booked ((memoryAliasDetach sys w.memory b).map fun r => ⟨r.2, w.held⟩) := by
  unfold memoryAliasDetach
  rw [read_of_live hx]
  simp only [Except.bind]
  cases hp : x.parent? with
  | none => exact h
  | some p =>
    have hnode := h.forest.ok b x.node (h.node hx)
    have hlt : p < b := hnode.parent_lt p hp
    obtain ⟨n, hn⟩ := isSome_iff_exists.mp (hnode.parent_live p hp)
    obtain ⟨y, hy, -⟩ := map_eq_some_iff.mp hn
    obtain ⟨q', hq', hlive⟩ := h.block_live hy
    cases hm : malloc sys w.memory.space x.aliasSize sys.garbage with
    | none => exact h
    | some r =>
      obtain ⟨q, s⟩ := r
      obtain ⟨rfl, hold, hnew⟩ := malloc_new hm
      have hfresh : w.memory.space.blocks.cells w.memory.space.blocks.next = none := cells_next _
      have hne : q'.block ≠ w.memory.space.blocks.next := fun he => by
        rw [he, hfresh] at hlive
        cases hlive
      simp only [read_of_live hy, hq', privateCopy]
      cases hcopy : s.copy (some ⟨w.memory.space.blocks.next, 0⟩) (some q') x.aliasSize.toNat with
      | error f =>
        refine Space.copy_error ?_ (hold q'.block hne ▸ hlive) hcopy
        obtain ⟨k, hk, -⟩ := hnew
        rw [hk]
        rfl
      | ok s₂ =>
        have hblocks := Space.copy_blocks hcopy
        have hl := h.detach hx hp hy (hok (by rw [hp]; simp)) hfresh
          (fun j hj => (congrArg (cells · j) hblocks).trans (hold j hj)) (hblocks ▸ hnew)
        obtain ⟨m', hrun, hbooked⟩ := booked_detached hx hlt hy hl
        simp only [hrun]
        exact hbooked

theorem ownerCall_booked {a : OwnerCall} {r : Except Fault Owners} (h : Booked w)
    (hrun : ownerCall w a = some r) (hok : OwnerOk w a) : NothingLost Booked r := by
  cases a with
  | allocate sys mgr info =>
    cases hrun
    exact booked_allocate h sys mgr info
  | createAlias sys p offset size flags =>
    obtain ⟨hlive, rfl⟩ := Run.guarded hrun
    obtain ⟨x, hx⟩ := isSome_iff_exists.mp hlive
    obtain ⟨r, hr, hbooked⟩ := booked_createAlias h hx sys offset size flags
    rw [hr]
    exact hbooked
  | aliasDetach sys b =>
    obtain ⟨hlive, rfl⟩ := Run.guarded hrun
    obtain ⟨x, hx⟩ := isSome_iff_exists.mp hlive
    exact booked_detach h hx sys (hok x hx)
  | free b =>
    obtain ⟨hheld, rfl⟩ := Run.guarded hrun
    obtain ⟨m', hm, hbooked⟩ := booked_free h hheld
    rw [hm]
    exact hbooked

def Owners.zero : Owners := ⟨State.zero, fun _ => false⟩

theorem booked_zero : Booked Owners.zero :=
  ⟨Forest.empty, fun _ _ h => absurd h (by simp [gripsOf, Owners.zero, State.zero]),
    fun _ _ _ _ h => absurd h (by simp [gripsOf, Owners.zero, State.zero]),
    fun _ _ _ _ h => absurd h (by simp [gripsOf, Owners.zero, State.zero]),
    fun _ h => absurd h (by simp [Owners.zero, State.zero, Space.empty])⟩

/-- **Reference counts and aliases.** Along every run in which no alias with aliases of
its own is detached, counts, alias lists, structures and blocks are accounted for,
and nothing is freed early or twice. -/
theorem refcounts_along {calls : List OwnerCall}
    (h : Run.Admitted (Run.faulting ownerCall) (Run.Allowed OwnerOk) (.ok Owners.zero) calls) :
    Run.Along (Run.faulting ownerCall) (NothingLost Accounted) (.ok Owners.zero) calls := by
  refine Run.along_of_admitted (fun r a r' hb hrun hok => ?_)
    (fun r hb => ?_) (show NothingLost Booked (.ok Owners.zero) from booked_zero) h
  · cases r with
    | error f => exact absurd hrun (by simp [Run.faulting])
    | ok w => exact ownerCall_booked hb hrun hok
  · cases r with
    | error f => exact hb
    | ok w => exact accounted_of_booked hb

/-- A buffer of 64 bytes with one alias, which is detached. -/
theorem refcounts_of_detached_alias :
    Run.Along (Run.faulting ownerCall) (NothingLost Accounted) (.ok Owners.zero)
      [.allocate willing noGpus ⟨64, 0, flagHostValid, .other, accessReadWrite, 0⟩,
        .createAlias willing 0 0 64 0, .aliasDetach willing 1] := by
  apply refcounts_along
  intro r₁ h₁
  cases h₁
  refine ⟨trivial, fun r₂ h₂ => ?_⟩
  cases h₂
  refine ⟨trivial, fun r₃ h₃ => ⟨fun x hx _ => ?_, trivial⟩⟩
  cases hx
  rfl

/-- The alias of an alias keeps pointing into the first buffer after the alias between
them was detached, and that buffer is freed. -/
theorem detach_strands_alias :
    ¬ Run.Along (Run.faulting ownerCall) (NothingLost Accounted) (.ok Owners.zero)
      [.allocate willing noGpus ⟨64, 0, flagHostValid, .other, accessReadWrite, 0⟩,
        .createAlias willing 0 0 64 0, .createAlias willing 1 0 64 0, .aliasDetach willing 1,
        .free 0] := by
  intro h
  have hrun : ∃ w x, Run.run (Run.faulting ownerCall) (.ok Owners.zero)
      [.allocate willing noGpus ⟨64, 0, flagHostValid, .other, accessReadWrite, 0⟩,
        .createAlias willing 0 0 64 0, .createAlias willing 1 0 64 0, .aliasDetach willing 1,
        .free 0] = some (.ok w) ∧ w.memory.store.cells 2 = some x ∧ x.parent? = some 1 ∧
        x.hostPtr = some ⟨0, 0⟩ ∧ w.memory.space.blocks.cells 0 = none :=
    ⟨_, _, rfl, rfl, rfl, rfl, rfl⟩
  obtain ⟨w, x, hw, hx, hpar, hhost, hgone⟩ := hrun
  have hacc : Accounted w := h.final hw
  have hlive := hacc.block_live 2 x 1 ⟨0, 0⟩ hx hpar hhost
  rw [hgone] at hlive
  cases hlive

end Mvgal.Memory
