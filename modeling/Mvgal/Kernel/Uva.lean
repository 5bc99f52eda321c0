import Mathlib.Algebra.Group.Nat.Defs
import Mathlib.Data.List.Basic
import Mvgal.Lib.Run

/-! The unified virtual address space of the kernel module (`mvgal_memory.c`).

Addresses are handed out from a bump offset that is a 32-bit `atomic_t`: a size is
cut to 32 bits when it is added, and the old value is sign-extended when it is read.
The limit check compares the offset with the absolute end of the space. A release
finds nothing, because `rb_insert_color` is called on a node that was never linked,
so the root of the tree stays null.

`uva_layout_iff` says when the live ranges are inside the space and apart. -/
namespace Mvgal.Kernel.Uva

/-- `MVGAL_UVA_SPACE_BASE` and `MVGAL_UVA_SPACE_SIZE`. -/
def spaceBase : UInt64 := 0x100000000000
def spaceSize : UInt64 := 0x800000000000

/-- `PAGE_ALIGN`, for pages of 4096 bytes. -/
def pageAlign (size : UInt64) : UInt64 := (size + 4095) &&& ~~~4095

/-- `struct mvgal_uva_entry`. -/
structure Entry where
  addr : UInt64
  size : UInt64
  memoryId : UInt64
deriving DecidableEq

/-- What hangs below the root of a red-black tree. -/
inductive Tree where
  | nil
  | node (left : Tree) (entry : Entry) (right : Tree)

/-- `struct mvgal_uva_space`. -/
structure Space where
  tree : Tree
  baseAddr : UInt64
  size : UInt64
  nextAddr : BitVec 32

/-- `global_uva_space`. -/
def Space.initial : Space := ⟨.nil, spaceBase, spaceSize, 0⟩

/-- An `int` read into a `uint64_t`. -/
def widen (n : BitVec 32) : UInt64 := ⟨n.signExtend 64⟩

/-- A `uint64_t` passed as an `int`. -/
def narrow (n : UInt64) : BitVec 32 := n.toBitVec.setWidth 32

/-- `rb_insert_color` of a node whose parent is null: it becomes black, and the root is
not touched. -/
def Tree.insertColor (t : Tree) (_ : Entry) : Tree := t

/-- The subtrees of a node that is taken out, put together. -/
def Tree.merge : Tree → Tree → Tree
  | .nil, r => r
  | .node l e m, r => .node l e (m.merge r)

/-- The search loop, with `rb_erase` where it finds the address. -/
def Tree.erase (addr : UInt64) : Tree → Tree
  | .nil => .nil
  | .node l e r =>
    if addr < e.addr then .node (l.erase addr) e r
    else if e.addr < addr then .node l e (r.erase addr)
    else l.merge r

/-- `mvgal_uva_allocate`, given whether `kzalloc` succeeds; 0 is failure. -/
def uvaAllocate (kzalloc : Bool) (s : Space) (size memoryId : UInt64) : UInt64 × Space :=
  let alignedSize := pageAlign size
  if alignedSize = 0 then (0, s)
  else if !kzalloc then (0, s)
  else
    let addr := widen s.nextAddr
    let next := s.nextAddr + narrow alignedSize
    if s.baseAddr + s.size < addr + alignedSize then (0, {s with nextAddr := next - narrow alignedSize})
    else
      (s.baseAddr + addr,
        {s with
          nextAddr := next
          tree := s.tree.insertColor ⟨s.baseAddr + addr, alignedSize, memoryId⟩})

def uvaRelease (s : Space) (addr : UInt64) : Space := {s with tree := s.tree.erase addr}

/-- An address range that was returned and not released. -/
structure Range where
  addr : UInt64
  size : UInt64
deriving DecidableEq

/-- The space, the ranges its users have, and the sum of all sizes granted. -/
structure World where
  space : Space
  live : List Range
  total : Nat

inductive Call where
  | allocate (kzalloc : Bool) (size memoryId : UInt64)
  | release (addr : UInt64)

def World.initial : World := ⟨.initial, [], 0⟩

def call (w : World) : Call → World
  | .allocate kzalloc size memoryId =>
    let r := uvaAllocate kzalloc w.space size memoryId
    if r.1 = 0 then {w with space := r.2}
    else ⟨r.2, ⟨r.1, pageAlign size⟩ :: w.live, w.total + (pageAlign size).toNat⟩
  | .release addr => {w with space := uvaRelease w.space addr, live := w.live.filter fun e => e.addr ≠ addr}

def Range.Apart (e f : Range) : Prop :=
  e.addr.toNat + e.size.toNat ≤ f.addr.toNat ∨ f.addr.toNat + f.size.toNat ≤ e.addr.toNat

def Range.Inside (e : Range) : Prop :=
  spaceBase.toNat ≤ e.addr.toNat ∧ e.addr.toNat + e.size.toNat ≤ spaceBase.toNat + spaceSize.toNat

/-- Live ranges are inside the space and pairwise apart. -/
structure Layout (w : World) : Prop where
  inside : ∀ e ∈ w.live, e.Inside
  apart : w.live.Pairwise Range.Apart

/-- The request fails: nothing is asked for, `kzalloc` fails, or the check does. -/
def Refused (kzalloc : Bool) (s : Space) (size : UInt64) : Prop :=
  pageAlign size = 0 ∨ kzalloc = false ∨ s.baseAddr + s.size < widen s.nextAddr + pageAlign size

/-- An allocation is refused; or the offset is not negative as a 32-bit integer, the
space does not end before the range, and the offset has not wrapped around or no live
range lies where it points now. -/
def CallOk (w : World) : Call → Prop
  | .allocate kzalloc size _ =>
    Refused kzalloc w.space size ∨
      (w.space.nextAddr.toNat < 2 ^ 31 ∧ w.space.nextAddr.toNat + (pageAlign size).toNat ≤ spaceSize.toNat ∧
        (w.total < 2 ^ 32 ∨
          ∀ e ∈ w.live, Range.Apart ⟨spaceBase + widen w.space.nextAddr, pageAlign size⟩ e))
  | .release _ => True

/-- What every state has: the offset is the total in 32 bits, and before it wraps all
live ranges lie below it. -/
structure Counted (w : World) : Prop where
  baseAddr : w.space.baseAddr = spaceBase
  size : w.space.size = spaceSize
  nextAddr : w.space.nextAddr.toNat = w.total % 2 ^ 32
  below : w.total < 2 ^ 32 → ∀ e ∈ w.live, e.addr.toNat + e.size.toNat ≤ spaceBase.toNat + w.total

theorem widen_toNat (n : BitVec 32) :
    (widen n).toNat = if n.toNat < 2 ^ 31 then n.toNat else 2 ^ 64 - 2 ^ 32 + n.toNat := by
  have hwide : (widen n).toNat = (n.signExtend 64).toNat := rfl
  rw [hwide, BitVec.toNat_signExtend, BitVec.toNat_setWidth, BitVec.msb_eq_decide]
  by_cases h : n.toNat < 2 ^ 31
  · have hmsb : ¬ 2 ^ (32 - 1) ≤ n.toNat := by omega
    rw [if_pos h, if_neg (by simpa using hmsb)]
    omega
  · have hmsb : 2 ^ (32 - 1) ≤ n.toNat := by omega
    rw [if_neg h, if_pos (by simpa using hmsb)]
    omega

theorem narrow_toNat (n : UInt64) : (narrow n).toNat = n.toNat % 2 ^ 32 := BitVec.toNat_setWidth 32 n.toBitVec

theorem spaceBase_toNat : spaceBase.toNat = 2 ^ 44 := rfl

/-- The address that is handed out: above the base, or below it once the offset is
negative. -/
theorem address_toNat (n : BitVec 32) : (spaceBase + widen n).toNat =
    if n.toNat < 2 ^ 31 then 2 ^ 44 + n.toNat else 2 ^ 44 - 2 ^ 32 + n.toNat := by
  rw [UInt64.toNat_add, widen_toNat, spaceBase_toNat]
  split <;> omega

theorem uvaAllocate_cases (kzalloc : Bool) (s : Space) (size memoryId : UInt64) :
    (Refused kzalloc s size ∧ uvaAllocate kzalloc s size memoryId = (0, s)) ∨
    (¬ Refused kzalloc s size ∧ ∃ t, uvaAllocate kzalloc s size memoryId = (s.baseAddr + widen s.nextAddr,
      {s with nextAddr := s.nextAddr + narrow (pageAlign size), tree := t})) := by
  unfold uvaAllocate Refused
  by_cases h0 : pageAlign size = 0
  · exact .inl ⟨.inl h0, if_pos h0⟩
  · cases kzalloc with
    | false => exact .inl ⟨.inr (.inl rfl), by simp [h0]⟩
    | true =>
      by_cases hc : s.baseAddr + s.size < widen s.nextAddr + pageAlign size
      · refine .inl ⟨.inr (.inr hc), ?_⟩
        simp [h0, hc, BitVec.add_sub_cancel]
      · refine .inr ⟨by simp [h0, hc], s.tree, ?_⟩
        simp only [if_neg h0, if_neg hc]
        rfl

theorem address_ne_zero (n : BitVec 32) : spaceBase + widen n ≠ 0 := by
  intro h
  have hzero := address_toNat n
  rw [h] at hzero
  rw [UInt64.toNat_zero] at hzero
  split at hzero <;> omega

variable {w : World}

theorem call_allocate {kzalloc : Bool} {size : UInt64} (memoryId : UInt64) (h : Counted w)
    (hgrant : ¬ Refused kzalloc w.space size) : ∃ t, call w (.allocate kzalloc size memoryId) =
      ⟨{w.space with nextAddr := w.space.nextAddr + narrow (pageAlign size), tree := t},
        ⟨spaceBase + widen w.space.nextAddr, pageAlign size⟩ :: w.live,
        w.total + (pageAlign size).toNat⟩ := by
  obtain ⟨hr, -⟩ | ⟨-, t, ht⟩ :=
    uvaAllocate_cases kzalloc w.space size memoryId
  · exact absurd hr hgrant
  · refine ⟨t, ?_⟩
    simp only [call, ht, h.baseAddr, if_neg (address_ne_zero _)]

theorem call_refused {kzalloc : Bool} {size memoryId : UInt64}
    (hr : Refused kzalloc w.space size) : call w (.allocate kzalloc size memoryId) = w := by
  obtain ⟨-, ht⟩ | ⟨hgrant, -⟩ :=
    uvaAllocate_cases kzalloc w.space size memoryId
  · simp only [call, ht, if_true]
  · exact absurd hr hgrant

theorem Counted.call (h : Counted w) (a : Call) : Counted (call w a) := by
  cases a with
  | release addr =>
    refine ⟨h.baseAddr, h.size, h.nextAddr, fun htotal e he => ?_⟩
    exact h.below htotal e (List.mem_of_mem_filter he)
  | allocate kzalloc size memoryId =>
    by_cases hr : Refused kzalloc w.space size
    · rw [call_refused hr]
      exact h
    · obtain ⟨t, ht⟩ := call_allocate memoryId h hr
      rw [ht]
      refine ⟨h.baseAddr, h.size, ?_, fun htotal e he => ?_⟩
      · show (w.space.nextAddr + narrow (pageAlign size)).toNat = _
        rw [BitVec.toNat_add, h.nextAddr, narrow_toNat, ← Nat.add_mod]
      · have hsmall : w.total < 2 ^ 32 := Nat.lt_of_le_of_lt (Nat.le_add_right _ _) htotal
        obtain rfl | he := List.mem_cons.mp he
        · -- a grant that ends before the offset wraps started at the total
          show (spaceBase + widen w.space.nextAddr).toNat + (pageAlign size).toNat ≤ _ + (w.total + _)
          have hn := h.nextAddr
          rw [address_toNat, hn, spaceBase_toNat]
          split <;> omega
        · have := h.below hsmall e he
          show _ ≤ _ + (w.total + _)
          omega

/-- Before the offset wraps around, a new range starts above all live ranges. -/
theorem apart_of_small (h : Counted w) (hn : w.space.nextAddr.toNat < 2 ^ 31)
    (hsmall : w.total < 2 ^ 32) (size : UInt64) (e : Range) (he : e ∈ w.live) :
    Range.Apart ⟨spaceBase + widen w.space.nextAddr, size⟩ e := by
  have htotal := h.nextAddr
  rw [Nat.mod_eq_of_lt hsmall] at htotal
  have hbelow := h.below hsmall e he
  refine .inr ?_
  rw [address_toNat, if_pos hn, htotal]
  exact hbelow

theorem layout_call_iff (h : Counted w) (hl : Layout w) (a : Call) :
    Layout (call w a) ↔ CallOk w a := by
  cases a with
  | release addr =>
    have hsub : (w.live.filter fun e => e.addr ≠ addr).Sublist w.live := List.filter_sublist
    exact ⟨fun _ => trivial, fun _ => ⟨fun e he => hl.inside e (hsub.subset he), hl.apart.sublist hsub⟩⟩
  | allocate kzalloc size memoryId =>
    by_cases hr : Refused kzalloc w.space size
    · rw [call_refused hr]
      exact ⟨fun _ => .inl hr, fun _ => hl⟩
    · obtain ⟨t, ht⟩ := call_allocate memoryId h hr
      rw [ht]
      have haddr := address_toNat w.space.nextAddr
      constructor
      · intro hnew
        have hinside := hnew.inside _ (List.mem_cons_self ..)
        have hapart := (List.pairwise_cons.mp hnew.apart).1
        unfold Range.Inside at hinside
        rw [spaceBase_toNat, haddr] at hinside
        refine .inr ?_
        by_cases hpos : w.space.nextAddr.toNat < 2 ^ 31
        · rw [if_pos hpos] at hinside
          refine ⟨hpos, ?_, .inr hapart⟩
          have := hinside.2
          simp only at this
          omega
        · rw [if_neg hpos] at hinside
          have := hinside.1
          omega
      · intro hok
        obtain ⟨hpos, hend, hfree⟩ := hok.resolve_left hr
        rw [if_pos hpos] at haddr
        refine ⟨fun e he => ?_, List.pairwise_cons.mpr ⟨fun e he => ?_, hl.apart⟩⟩
        · obtain rfl | he := List.mem_cons.mp he
          · unfold Range.Inside
            rw [spaceBase_toNat, haddr]
            simp only
            omega
          · exact hl.inside e he
        · obtain hsmall | hfree := hfree
          · exact apart_of_small h hpos hsmall _ e he
          · exact hfree e he

theorem counted_initial : Counted World.initial :=
  ⟨rfl, rfl, rfl, fun _ e he => absurd he (by simp [World.initial])⟩

theorem layout_initial : Layout World.initial :=
  ⟨fun e he => absurd he (by simp [World.initial]), .nil⟩

/-- **The address space.** Along any sequence of allocations and releases, the live
ranges lie inside the space and apart exactly when every allocation is refused, or
is made at an offset that is not negative, with room left, and that has not wrapped
around or points to no live range. -/
theorem uva_layout_iff (calls : List Call) :
    Run.Along (fun w a => some (call w a)) Layout World.initial calls ↔
      Run.Admitted (fun w a => some (call w a)) CallOk World.initial calls := by
  refine Run.along_iff_admitted (fun w a w' h hl hrun => ?_) (fun w a w' h hl hrun _ => ?_)
    counted_initial layout_initial calls
  · cases hrun
    exact layout_call_iff h hl a
  · cases hrun
    exact h.call a

/-- Adding 4 GiB to a 32-bit offset changes nothing, so two such ranges are the same. -/
theorem allocations_of_4GiB_overlap : ¬ Run.Along (fun w a => some (call w a)) Layout World.initial
      [.allocate true 0x100000000 1, .allocate true 0x100000000 2] := by
  intro h
  have hrun : ∃ w, Run.run (fun w a => some (call w a)) World.initial
      [.allocate true 0x100000000 1, .allocate true 0x100000000 2] = some w ∧
        w.live = [⟨spaceBase, 0x100000000⟩, ⟨spaceBase, 0x100000000⟩] :=
    ⟨_, rfl, by decide⟩
  obtain ⟨w, hw, hlive⟩ := hrun
  have hapart := (h.final hw).apart
  rw [hlive] at hapart
  have hsame := (List.pairwise_cons.mp hapart).1 _ (List.mem_singleton.mpr rfl)
  exact absurd hsame (by unfold Range.Apart; decide)

end Mvgal.Kernel.Uva
