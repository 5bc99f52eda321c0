import Mvgal.Kernel.Uva

/-! The entries of the unified virtual address space: `mvgal_uva_lookup` and what
`mvgal_uva_release` frees (`mvgal_memory.c`).

A lookup walks the tree in order. A release searches it by address and hands to
`kfree` whatever node the search looked at last, also when that is not the node it
looked for. But nothing ever hangs in the tree, since an allocation does not link its
node. So neither call finds what was allocated: `uva_entries_iff`. -/
namespace Mvgal.Kernel.Uva

def Tree.entries : Tree → List Entry
  | .nil => []
  | .node l e r => l.entries ++ e :: r.entries

def Tree.lastVisited (addr : UInt64) : Tree → Option Entry → Option Entry
  | .nil, entry => entry
  | .node l e r, _ =>
    if addr < e.addr then l.lastVisited addr (some e)
    else if e.addr < addr then r.lastVisited addr (some e)
    else some e

def uvaLookup (s : Space) (memoryId : UInt64) : UInt64 :=
  match s.tree.entries.find? (·.memoryId = memoryId) with
  | some e => e.addr
  | none => 0

/-- What `mvgal_uva_release` hands to `kfree`, if anything. -/
def uvaReleaseFrees (s : Space) (addr : UInt64) : Option Entry := s.tree.lastVisited addr none

variable (live : List Entry) (s : Space)

/-- A lookup gives the address of a live allocation with this id, or 0 if there is none. -/
def LookupExact (memoryId : UInt64) : Prop :=
  (∃ e ∈ live, e.memoryId = memoryId ∧ uvaLookup s memoryId = e.addr) ∨
    (∀ e ∈ live, e.memoryId ≠ memoryId) ∧ uvaLookup s memoryId = 0

/-- A release takes the live entry that starts at the address out of the tree and frees
it, or does nothing if there is none. -/
def ReleaseExact (addr : UInt64) : Prop :=
  (∃ e ∈ live, e.addr = addr ∧ uvaReleaseFrees s addr = some e ∧
    ∃ before after, s.tree.entries = before ++ e :: after ∧
      (uvaRelease s addr).tree.entries = before ++ after) ∨
    (∀ e ∈ live, e.addr ≠ addr) ∧ uvaReleaseFrees s addr = none ∧ uvaRelease s addr = s

variable {live s}

theorem release_of_nil (h : s.tree = .nil) (addr : UInt64) :
    uvaReleaseFrees s addr = none ∧ uvaRelease s addr = s := by
  rw [uvaReleaseFrees, uvaRelease, h]
  refine ⟨rfl, ?_⟩
  show {s with tree := Tree.nil} = s
  rw [← h]

/-- The space, and the allocations that their users have not released. -/
structure Users where
  space : Space
  live : List Entry

def Users.initial : Users := ⟨.initial, []⟩

def userCall (w : Users) : Call → Users
  | .allocate kzalloc size memoryId =>
    let r := uvaAllocate kzalloc w.space size memoryId
    if r.1 = 0 then {w with space := r.2} else ⟨r.2, ⟨r.1, pageAlign size, memoryId⟩ :: w.live⟩
  | .release addr => ⟨uvaRelease w.space addr, w.live.filter fun e => e.addr ≠ addr⟩

/-- No node is ever linked, and no allocation is at address 0. -/
structure Unlinked (w : Users) : Prop where
  tree : w.space.tree = .nil
  addr : ∀ e ∈ w.live, e.addr ≠ 0

theorem uvaAllocate_tree (kzalloc : Bool) (s : Space) (size memoryId : UInt64) :
    (uvaAllocate kzalloc s size memoryId).2.tree = s.tree := by
  unfold uvaAllocate
  dsimp only
  split
  · rfl
  · split
    · rfl
    · split
      · rfl
      · rfl

theorem Unlinked.userCall {w : Users} (h : Unlinked w) (a : Call) : Unlinked (userCall w a) := by
  cases a with
  | allocate kzalloc size memoryId =>
    have htree : (uvaAllocate kzalloc w.space size memoryId).2.tree = .nil :=
      (uvaAllocate_tree kzalloc w.space size memoryId).trans h.tree
    unfold Uva.userCall
    dsimp only
    split
    · exact ⟨htree, h.addr⟩
    · next hne => exact ⟨htree, List.forall_mem_cons.mpr ⟨hne, h.addr⟩⟩
  | release addr =>
    refine ⟨?_, fun e he => h.addr e (List.mem_of_mem_filter he)⟩
    show w.space.tree.erase addr = .nil
    rw [h.tree]
    rfl

theorem Unlinked.lookupExact_iff {w : Users} (h : Unlinked w) (memoryId : UInt64) :
    LookupExact w.live w.space memoryId ↔ ∀ e ∈ w.live, e.memoryId ≠ memoryId := by
  have hzero : uvaLookup w.space memoryId = 0 := by
    rw [uvaLookup, h.tree]
    rfl
  constructor
  · rintro (⟨e, he, -, haddr⟩ | ⟨hnone, -⟩)
    · exact absurd (haddr.symm.trans hzero) (h.addr e he)
    · exact hnone
  · exact fun hnone => .inr ⟨hnone, hzero⟩

theorem Unlinked.releaseExact_iff {w : Users} (h : Unlinked w) (addr : UInt64) :
    ReleaseExact w.live w.space addr ↔ ∀ e ∈ w.live, e.addr ≠ addr := by
  have hnothing := release_of_nil h.tree addr
  constructor
  · rintro (⟨e, -, -, hsome, -⟩ | ⟨hnone, -⟩)
    · cases hnothing.1.symm.trans hsome
    · exact hnone
  · exact fun hnone => .inr ⟨hnone, hnothing⟩

/-- **The entries.** In every state that allocations and releases lead to, a lookup is
right exactly for the ids that no live allocation has, and a release exactly at the
addresses where none starts. -/
theorem uva_entries_iff (calls : List Call) : Run.Along (fun w a => some (userCall w a))
      (fun w => (∀ memoryId, LookupExact w.live w.space memoryId ↔ ∀ e ∈ w.live, e.memoryId ≠ memoryId) ∧
        ∀ addr, ReleaseExact w.live w.space addr ↔ ∀ e ∈ w.live, e.addr ≠ addr)
      Users.initial calls := by
  have hinit : Unlinked Users.initial := ⟨rfl, fun e he => absurd he List.not_mem_nil⟩
  have hrun : Run.Along (fun w a => some (userCall w a)) Unlinked Users.initial calls := by
    refine Run.along_of_preserved (fun w a w' h hs => ?_) hinit calls
    cases hs
    exact h.userCall a
  exact hrun.mono fun w h => ⟨h.lookupExact_iff, h.releaseExact_iff⟩

/-- One page for memory 7: a lookup of 7 gives 0, and a release of the page frees nothing. -/
theorem allocation_not_found :
    ∃ w, Run.run (fun w a => some (userCall w a)) Users.initial [.allocate true 4096 7] = some w ∧
      w.live = [⟨spaceBase, 4096, 7⟩] ∧ uvaLookup w.space 7 = 0 ∧ uvaReleaseFrees w.space spaceBase = none ∧
      ¬ LookupExact w.live w.space 7 ∧ ¬ ReleaseExact w.live w.space spaceBase := by
  refine ⟨_, rfl, by decide, by decide, by decide, ?_, ?_⟩
  · rintro (⟨e, he, -, haddr⟩ | ⟨hnone, -⟩)
    · obtain rfl := List.mem_singleton.mp he
      exact nomatch haddr
    · exact absurd rfl (hnone _ List.mem_cons_self)
  · rintro (⟨e, -, -, hsome, -⟩ | ⟨hnone, -⟩)
    · exact absurd hsome nofun
    · exact absurd (by decide) (hnone _ List.mem_cons_self)

end Mvgal.Kernel.Uva
