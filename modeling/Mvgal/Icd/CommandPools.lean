import Mathlib.Data.List.ReduceOption
import Mvgal.Lib.Arena
import Mvgal.Lib.Run

/-! Command pools and command buffers (`icd_entry.c`).

A pool has a list of the command buffers allocated from it. An allocation of several
buffers links each into the list as soon as it is there; when a later one fails, the
earlier ones are freed but stay in the list. A free unlinks a buffer from the pool that
the caller names, not from the one it belongs to. Everything else keeps the lists, so
they are right along a run exactly when allocations fail at their first buffer if at all,
and buffers are freed with their own pool (`pools_right_iff`).

A record that is used or freed after it was freed is a fault. -/
namespace Mvgal.Icd
open List Function Arena Option

inductive CmdbufState where
  | initial
  | recording
  | executable
  | invalid
deriving DecidableEq, Repr

/-- `mvgal_icd_command_buffer_t`, less its tag, which is right while it is live, and its
level, which nothing reads. -/
structure CommandBuffer where
  state : CmdbufState
  pool : Nat

/-- Pools, each with its list of handles, and command buffers. -/
structure Pools where
  pools : Arena (List Nat)
  buffers : Arena CommandBuffer

def freeMade (B : Arena CommandBuffer) (made : List Nat) : Arena CommandBuffer := made.foldl Arena.erase B

def Pools.link (w : Pools) (p : Nat) : Pools where
  pools := w.pools.modify p (w.buffers.next :: ·)
  buffers := w.buffers.push ⟨.initial, p⟩

/-- The loop of `mvgal_vkAllocateCommandBuffers`, with the handles made so far. For each
buffer it is given whether memory for the record and for the list node is found. -/
def allocateLoop (p : Nat) (w : Pools) (made : List Nat) : List (Bool × Bool) → Bool × Pools
  | [] => (true, w)
  | (record, node) :: rest =>
    if record = false then (false, {w with buffers := freeMade w.buffers made})
    else if node = false then
      (false, {w with buffers := freeMade ((w.buffers.push ⟨.initial, p⟩).erase w.buffers.next) made})
    else allocateLoop p (w.link p) (made ++ [w.buffers.next]) rest

def Pools.unlink (w : Pools) (p c : Nat) : Pools where
  pools := w.pools.modify p (·.erase c)
  buffers := w.buffers.erase c

/-- The loop of `mvgal_vkFreeCommandBuffers`. A null handle is skipped. -/
def freeLoop (p : Nat) (w : Pools) : List (Option Nat) → Except Unit Pools
  | [] => .ok w
  | none :: rest => freeLoop p w rest
  | some c :: rest =>
    match w.buffers.cells c with
    | none => .error ()
    | some _ => freeLoop p (w.unlink p c) rest

def CommandBuffer.reset (x : CommandBuffer) : CommandBuffer := {x with state := .initial}

/-- The loop of `mvgal_vkResetCommandPool`. -/
def resetListed (B : Arena CommandBuffer) : List Nat → Except Unit (Arena CommandBuffer)
  | [] => .ok B
  | c :: rest =>
    match B.cells c with
    | none => .error ()
    | some _ => resetListed (B.modify c CommandBuffer.reset) rest

/-- The loop of `mvgal_vkDestroyCommandPool`. -/
def freeListed (B : Arena CommandBuffer) : List Nat → Except Unit (Arena CommandBuffer)
  | [] => .ok B
  | c :: rest =>
    match B.cells c with
    | none => .error ()
    | some _ => freeListed (B.erase c) rest

/-- The pools, and whether every allocation that failed left the lists as they were. -/
structure PoolRun extends Pools where
  restored : Bool

inductive PoolCall where
  | createCommandPool (calloc : Bool)
  | allocateCommandBuffers (p : Nat) (found : List (Bool × Bool))
  | freeCommandBuffers (p : Nat) (handles : List (Option Nat))
  | resetCommandPool (p : Nat)
  | destroyCommandPool (p : Nat)

def Pools.Freeable (w : Pools) (handles : List (Option Nat)) : Prop :=
  handles.reduceOption.Nodup ∧ ∀ c ∈ handles.reduceOption, (w.buffers.cells c).isSome

instance (w : Pools) (handles : List (Option Nat)) : Decidable (w.Freeable handles) :=
  inferInstanceAs (Decidable (_ ∧ _))

def PoolRun.allocated (w : PoolRun) (p : Nat) (r : Bool × Pools) : PoolRun where
  toPools := r.2
  restored := w.restored && (r.1 || decide (r.2.pools.cells p = w.pools.cells p))

/-- Calls on live pools; command buffers of any pool are freed while they are live. -/
def poolCall (w : PoolRun) : PoolCall → Option (Except Unit PoolRun)
  | .createCommandPool calloc =>
    some (.ok (if calloc then {w with pools := w.pools.push []} else w))
  | .allocateCommandBuffers p found =>
    if (w.pools.cells p).isSome then some (.ok (w.allocated p (allocateLoop p w.toPools [] found))) else none
  | .freeCommandBuffers p handles =>
    if (w.pools.cells p).isSome ∧ w.Freeable handles then
      some ((freeLoop p w.toPools handles).map fun v => {w with toPools := v})
    else none
  | .resetCommandPool p =>
    (w.pools.cells p).map fun l => (resetListed w.buffers l).map fun B => {w with buffers := B}
  | .destroyCommandPool p =>
    (w.pools.cells p).map fun l => (freeListed w.buffers l).map fun B =>
      {w with pools := w.pools.erase p, buffers := B}

def Pools.owner (w : Pools) (c : Nat) : Option Nat := (w.buffers.cells c).map CommandBuffer.pool

/-- The lists have exactly the live command buffers of their pools, each once, and no live
command buffer is left without its pool. -/
structure Matched (w : Pools) : Prop where
  nodup : ∀ p l, w.pools.cells p = some l → l.Nodup
  listed : ∀ p l c, w.pools.cells p = some l → (c ∈ l ↔ w.owner c = some p)
  owned : ∀ c p, w.owner c = some p → (w.pools.cells p).isSome

/-- The lists match, and every failed allocation left them as they were. -/
def PoolRun.Right (w : PoolRun) : Prop := Matched w.toPools ∧ w.restored = true

/-- Memory is found for every buffer, or not for the first one. -/
def AllocationOk (found : List (Bool × Bool)) : Prop :=
  (∀ f ∈ found, f = (true, true)) ∨ ∃ f rest, found = f :: rest ∧ f ≠ (true, true)

def PoolOk (w : PoolRun) : PoolCall → Prop
  | .allocateCommandBuffers _ found => AllocationOk found
  | .freeCommandBuffers p handles => ∀ c, some c ∈ handles → w.owner c = some p
  | _ => True

variable {w w' : Pools} {p c : Nat}

theorem Matched.congr (h : Matched w) (hp : w'.pools.cells = w.pools.cells) (ho : w'.owner = w.owner) :
    Matched w' := by
  obtain ⟨nodup, listed, owned⟩ := h
  refine ⟨?_, ?_, ?_⟩
  · rw [hp]
    exact nodup
  · rw [hp, ho]
    exact listed
  · rw [hp, ho]
    exact owned

theorem Matched.create (h : Matched w) : Matched {w with pools := w.pools.push []} := by
  refine ⟨fun q l hl => ?_, fun q l c hl => ?_, fun c q hc => ?_⟩
  · obtain ⟨-, rfl⟩ | hl := of_push hl
    · exact nodup_nil
    · exact h.nodup q l hl
  · obtain ⟨rfl, rfl⟩ | hl := of_push hl
    · refine iff_of_false not_mem_nil fun hc => ?_
      exact absurd (h.owned c _ hc) (by simp)
    · exact h.listed q l c hl
  · obtain ⟨l, hl⟩ := isSome_iff_exists.mp (h.owned c q hc)
    rw [push_of_some hl]
    rfl

theorem owner_link (w : Pools) (p : Nat) : (w.link p).owner = Function.update w.owner w.buffers.next (some p) := by
  funext c
  unfold Pools.owner Pools.link
  rw [push_cells, update_apply]
  split
  · rfl
  · rfl

theorem owner_next (w : Pools) : w.owner w.buffers.next = none := by
  rw [Pools.owner, cells_next]
  rfl

variable {l : List Nat}

theorem modify_list {A : Arena (List Nat)} {f : List Nat → List Nat} {q : Nat}
    (h : (A.modify p f).cells q = some l) : ∃ l', A.cells q = some l' ∧ l = if q = p then f l' else l' := by
  obtain ⟨rfl, l', hl', rfl⟩ | ⟨hq, h⟩ := of_modify h
  · exact ⟨l', hl', (if_pos rfl).symm⟩
  · exact ⟨l, h, (if_neg hq).symm⟩

theorem isSome_modify {A : Arena (List Nat)} {f : List Nat → List Nat} {q : Nat} :
    ((A.modify p f).cells q).isSome = (A.cells q).isSome := by
  rw [modify_cells]
  split
  · next hq => rw [isSome_map, hq]
  · rfl

theorem Matched.link (h : Matched w) (hp : (w.pools.cells p).isSome) : Matched (w.link p) := by
  refine ⟨fun q l hl => ?_, fun q l c hl => ?_, fun c q hc => ?_⟩
  · obtain ⟨l', hl', rfl⟩ := modify_list hl
    split
    · refine nodup_cons.mpr ⟨fun hmem => ?_, h.nodup q l' hl'⟩
      have howner := (h.listed q l' _ hl').mp hmem
      rw [owner_next] at howner
      cases howner
    · exact h.nodup q l' hl'
  · obtain ⟨l', hl', rfl⟩ := modify_list hl
    have hold := h.listed q l' c hl'
    rw [owner_link]
    by_cases hc : c = w.buffers.next
    · subst hc
      have hno : w.buffers.next ∉ l' := fun hmem => by
        have howner := hold.mp hmem
        rw [owner_next] at howner
        cases howner
      rw [update_self]
      split
      · next hq => exact iff_of_true mem_cons_self (congrArg some hq.symm)
      · next hq => exact iff_of_false hno fun heq => hq (some.inj heq).symm
    · rw [update_of_ne hc]
      split
      · rw [mem_cons, or_iff_right hc]
        exact hold
      · exact hold
  · show ((w.pools.modify p _).cells q).isSome = true
    rw [isSome_modify]
    rw [owner_link, update_apply] at hc
    split at hc
    · cases hc
      exact hp
    · exact h.owned c q hc

theorem owner_unlink (w : Pools) (p c : Nat) : (w.unlink p c).owner = Function.update w.owner c none := by
  funext d
  unfold Pools.owner Pools.unlink
  rw [erase_cells, update_apply]
  split
  · rfl
  · rfl

theorem Matched.unlink (h : Matched w) (hc : w.owner c = some p) : Matched (w.unlink p c) := by
  refine ⟨fun q l hl => ?_, fun q l d hl => ?_, fun d q hd => ?_⟩
  · obtain ⟨l', hl', rfl⟩ := modify_list hl
    split
    · exact (h.nodup q l' hl').erase c
    · exact h.nodup q l' hl'
  · obtain ⟨l', hl', rfl⟩ := modify_list hl
    have hold := h.listed q l' d hl'
    rw [owner_unlink]
    by_cases hd : d = c
    · subst hd
      refine iff_of_false (fun hmem => ?_) (by simp)
      split at hmem
      · exact ((h.nodup q l' hl').mem_erase_iff.mp hmem).1 rfl
      · next hq => exact hq (some.inj ((hold.mp hmem).symm.trans hc))
    · rw [update_of_ne hd, ← hold]
      split
      · exact mem_erase_of_ne hd
      · exact Iff.rfl
  · show ((w.pools.modify p _).cells q).isSome = true
    rw [isSome_modify]
    rw [owner_unlink, update_apply] at hd
    split at hd
    · cases hd
    · exact h.owned d q hd

theorem freeMade_cells (B : Arena CommandBuffer) (made : List Nat) (c : Nat) :
    (freeMade B made).cells c = if c ∈ made then none else B.cells c := by
  induction made generalizing B with
  | nil => rfl
  | cons d rest ih =>
    show (freeMade (B.erase d) rest).cells c = _
    rw [ih, erase_cells]
    by_cases hr : c ∈ rest
    · rw [if_pos hr, if_pos (mem_cons_of_mem d hr)]
    · rw [if_neg hr]
      by_cases hd : c = d
      · rw [if_pos hd, if_pos (hd ▸ mem_cons_self)]
      · rw [if_neg hd, if_neg (by simp [hd, hr])]

/-- A list that keeps a handle of a freed command buffer does not match. -/
theorem not_matched_of_stale (hp : w.pools.cells p = some l) (hc : c ∈ l)
    (hgone : w.buffers.cells c = none) : ¬ Matched w := by
  intro h
  have howner := (h.listed p l c hp).mp hc
  rw [Pools.owner, hgone] at howner
  cases howner

/-- Once a command buffer is linked, the lists match in the end exactly when memory is
found for all others. -/
theorem allocateLoop_linked (found : List (Bool × Bool)) {made : List Nat} (h : Matched w)
    (hp : w.pools.cells p = some l) (hmade : c ∈ made) (hlinked : c ∈ l) :
    (Matched (allocateLoop p w made found).2 ↔ ∀ f ∈ found, f = (true, true)) ∧
      ((∀ f ∈ found, f = (true, true)) → (allocateLoop p w made found).1 = true) := by
  -- After a failure the list still has the handle, and the record is freed.
  have hstale (B : Arena CommandBuffer) : ¬ Matched {w with buffers := freeMade B made} := by
    refine not_matched_of_stale hp hlinked ?_
    rw [freeMade_cells, if_pos hmade]
  induction found generalizing w made l with
  | nil => exact ⟨iff_of_true h (by simp), fun _ => rfl⟩
  | cons f rest ih =>
    obtain ⟨record, node⟩ := f
    rw [allocateLoop]
    cases record with
    | false => exact ⟨iff_of_false (hstale _) (by simp), fun hall => absurd (hall _ mem_cons_self) (by simp)⟩
    | true =>
      cases node with
      | false => exact ⟨iff_of_false (hstale _) (by simp), fun hall => absurd (hall _ mem_cons_self) (by simp)⟩
      | true =>
        have hlink : (w.link p).pools.cells p = some (w.buffers.next :: l) := by
          show (w.pools.modify p _).cells p = _
          rw [modify_self, hp]
          rfl
        have hmade' : c ∈ made ++ [w.buffers.next] := mem_append_left _ hmade
        have hlinked' : c ∈ w.buffers.next :: l := mem_cons_of_mem _ hlinked
        have hnext := ih (h.link (by rw [hp]; rfl)) hlink hmade' hlinked' fun B => by
          refine not_matched_of_stale hlink hlinked' ?_
          rw [freeMade_cells, if_pos hmade']
        simpa using hnext

/-- **Allocating command buffers** keeps the lists right exactly when it fails at the first
buffer if at all. -/
theorem allocate_right_iff {w : PoolRun} {found : List (Bool × Bool)} (h : w.Right)
    (hp : (w.pools.cells p).isSome) :
    (w.allocated p (allocateLoop p w.toPools [] found)).Right ↔ AllocationOk found := by
  obtain ⟨hmatched, hrestored⟩ := h
  have hright {r : Bool × Pools} (hm : Matched r.2) (hr : r.1 = true ∨ r.2.pools = w.pools) :
      (w.allocated p r).Right := by
    refine ⟨hm, ?_⟩
    obtain hr | hr := hr
    · simp [PoolRun.allocated, hrestored, hr]
    · simp [PoolRun.allocated, hrestored, hr]
  cases found with
  | nil => exact iff_of_true (hright hmatched (.inl rfl)) (.inl (by simp))
  | cons f rest =>
    obtain ⟨record, node⟩ := f
    cases record with
    | false => exact iff_of_true (hright hmatched (.inr rfl)) (.inr ⟨_, rest, rfl, by simp⟩)
    | true =>
      cases node with
      | false =>
        refine iff_of_true (hright (hmatched.congr rfl ?_) (.inr rfl)) (.inr ⟨_, rest, rfl, by simp⟩)
        funext c
        show (((w.buffers.push _).erase w.buffers.next).cells c).map CommandBuffer.pool = _
        rw [push_erase_cells]
        rfl
      | true =>
        obtain ⟨l, hl⟩ := isSome_iff_exists.mp hp
        have hlink : (w.toPools.link p).pools.cells p = some (w.buffers.next :: l) := by
          show (w.pools.modify p _).cells p = _
          rw [modify_self, hl]
          rfl
        have hmade : w.buffers.next ∈ [w.buffers.next] := mem_singleton_self _
        obtain ⟨hiff, hdone⟩ :=
          allocateLoop_linked rest (hmatched.link hp) hlink hmade mem_cons_self
        have hall : AllocationOk ((true, true) :: rest) ↔ ∀ f ∈ rest, f = (true, true) := by
          refine ⟨fun hok => ?_, fun hall => .inl (by simpa using hall)⟩
          obtain hok | ⟨f, rest', heq, hne⟩ := hok
          · exact fun f hf => hok f (mem_cons_of_mem _ hf)
          · exact absurd (cons.inj heq).1.symm hne
        rw [hall]
        exact ⟨fun hr => hiff.mp hr.1, fun hok => hright (hiff.mpr hok) (.inl (hdone hok))⟩

variable {handles : List (Option Nat)}

theorem Pools.Freeable.tail (h : w.Freeable (some c :: handles)) :
    (w.unlink p c).Freeable handles := by
  obtain ⟨hnodup, hlive⟩ := h
  obtain ⟨hc, hnodup⟩ := nodup_cons.mp hnodup
  refine ⟨hnodup, fun d hd => ?_⟩
  show ((w.buffers.erase c).cells d).isSome = true
  rw [erase_of_ne _ fun heq : d = c => hc (heq ▸ hd)]
  exact hlive d (mem_cons_of_mem c hd)

theorem Pools.Freeable.head (h : w.Freeable (some c :: handles)) :
    ∃ x, w.buffers.cells c = some x := by
  refine isSome_iff_exists.mp (h.2 c ?_)
  exact mem_cons_self

/-- Freeing different live command buffers does not fault. They are gone, and only the
list of the named pool changes. -/
theorem freeLoop_spec (h : w.Freeable handles) :
    ∃ w', freeLoop p w handles = .ok w' ∧ (∀ q, q ≠ p → w'.pools.cells q = w.pools.cells q) ∧
      ∀ c, some c ∈ handles ∨ w.buffers.cells c = none → w'.buffers.cells c = none := by
  induction handles generalizing w with
  | nil => exact ⟨w, rfl, fun _ _ => rfl, fun c hc => hc.resolve_left not_mem_nil⟩
  | cons handle rest ih =>
    cases handle with
    | none =>
      obtain ⟨w', hrun, hpools, hgone⟩ := ih h
      exact ⟨w', hrun, hpools, fun c hc => hgone c (hc.imp_left fun hmem => by simpa using hmem)⟩
    | some d =>
      obtain ⟨x, hx⟩ := h.head
      obtain ⟨w', hrun, hpools, hgone⟩ := ih (h.tail (p := p))
      refine ⟨w', ?_, fun q hq => ?_, fun c hc => hgone c ?_⟩
      · simp only [freeLoop, hx, hrun]
      · rw [hpools q hq]
        exact modify_of_ne _ _ hq
      · show some c ∈ rest ∨ (w.buffers.erase d).cells c = none
        rw [erase_cells]
        by_cases hcd : c = d
        · exact .inr (if_pos hcd)
        · rw [if_neg hcd]
          exact hc.imp_left fun hmem => (mem_cons.mp hmem).resolve_left fun heq => hcd (some.inj heq)

theorem freeLoop_matched (h : Matched w) (hfree : w.Freeable handles)
    (hown : ∀ c, some c ∈ handles → w.owner c = some p) (hrun : freeLoop p w handles = .ok w') : Matched w' := by
  induction handles generalizing w with
  | nil =>
    cases hrun
    exact h
  | cons handle rest ih =>
    cases handle with
    | none => exact ih h hfree (fun c hc => hown c (mem_cons_of_mem _ hc)) hrun
    | some d =>
      obtain ⟨x, hx⟩ := hfree.head
      simp only [freeLoop, hx] at hrun
      refine ih (h.unlink (hown d mem_cons_self)) hfree.tail (fun c hc => ?_) hrun
      have hcd : c ≠ d := by
        rintro rfl
        have hnodup := hfree.1
        exact (nodup_cons.mp hnodup).1 (reduceOption_mem_iff.mpr hc)
      rw [owner_unlink, update_of_ne hcd]
      exact hown c (mem_cons_of_mem _ hc)

/-- **Freeing command buffers** keeps the lists right exactly when all belong to the pool
that is named. -/
theorem free_right_iff {w : PoolRun} (h : w.Right) (hfree : w.Freeable handles) :
    Run.Safe PoolRun.Right ((freeLoop p w.toPools handles).map fun v => {w with toPools := v}) ↔
      ∀ c, some c ∈ handles → w.owner c = some p := by
  obtain ⟨w', hrun, hpools, hgone⟩ := freeLoop_spec hfree
  rw [hrun]
  constructor
  · intro hw c hc
    have hmatched : Matched w' := hw.1
    obtain ⟨x, hx⟩ := isSome_iff_exists.mp (hfree.2 c (reduceOption_mem_iff.mpr hc))
    have howner : w.owner c = some x.pool := by rw [Pools.owner, hx]; rfl
    rw [howner]
    by_contra hne
    have hq : x.pool ≠ p := fun heq => hne (congrArg some heq)
    obtain ⟨l, hl⟩ := isSome_iff_exists.mp (h.1.owned c x.pool howner)
    exact not_matched_of_stale ((hpools x.pool hq).trans hl) ((h.1.listed x.pool l c hl).mpr howner)
      (hgone c (.inl hc)) hmatched
  · intro hown
    exact ⟨freeLoop_matched h.1 hfree hown hrun, h.2⟩

variable {B : Arena CommandBuffer}

theorem resetListed_spec (h : ∀ c ∈ l, (B.cells c).isSome) : ∃ B', resetListed B l = .ok B' ∧
      ∀ c, (B'.cells c).map CommandBuffer.pool = (B.cells c).map CommandBuffer.pool := by
  induction l generalizing B with
  | nil => exact ⟨B, rfl, fun _ => rfl⟩
  | cons d rest ih =>
    obtain ⟨x, hx⟩ := isSome_iff_exists.mp (h d mem_cons_self)
    have hpool (c : Nat) : ((B.modify d CommandBuffer.reset).cells c).map CommandBuffer.pool =
        (B.cells c).map CommandBuffer.pool :=
      modify_map (f := CommandBuffer.reset) B d (fun _ _ => rfl) c
    obtain ⟨B', hrun, hsame⟩ := ih fun c hc => by
      rw [← isSome_map, hpool, isSome_map]
      exact h c (mem_cons_of_mem d hc)
    refine ⟨B', ?_, fun c => (hsame c).trans (hpool c)⟩
    simp only [resetListed, hx, hrun]

theorem freeListed_spec (hnodup : l.Nodup) (h : ∀ c ∈ l, (B.cells c).isSome) :
    ∃ B', freeListed B l = .ok B' ∧ ∀ c, B'.cells c = if c ∈ l then none else B.cells c := by
  induction l generalizing B with
  | nil => exact ⟨B, rfl, fun _ => rfl⟩
  | cons d rest ih =>
    obtain ⟨x, hx⟩ := isSome_iff_exists.mp (h d mem_cons_self)
    obtain ⟨hd, hnodup⟩ := nodup_cons.mp hnodup
    obtain ⟨B', hrun, hcells⟩ := ih hnodup fun c hc => by
      rw [erase_of_ne _ fun heq : c = d => hd (heq ▸ hc)]
      exact h c (mem_cons_of_mem d hc)
    refine ⟨B', by simp only [freeListed, hx, hrun], fun c => ?_⟩
    rw [hcells, erase_cells]
    by_cases hc : c = d
    · subst hc
      rw [if_pos rfl, if_pos mem_cons_self, ite_self]
    · simp [hc]

theorem Matched.live (h : Matched w) (hp : w.pools.cells p = some l) (hc : c ∈ l) :
    (w.buffers.cells c).isSome := by
  have howner := (h.listed p l c hp).mp hc
  rw [Pools.owner] at howner
  rw [← isSome_map, howner]
  rfl

/-- A destroyed pool takes its command buffers with it, and no others. -/
theorem Matched.destroy (h : Matched w)
    (hp : w.pools.cells p = some l) (hB : ∀ c, B.cells c = if c ∈ l then none else w.buffers.cells c) :
    Matched {w with pools := w.pools.erase p, buffers := B} := by
  have howner (c q : Nat) : (B.cells c).map CommandBuffer.pool = some q ↔ q ≠ p ∧ w.owner c = some q := by
    rw [hB]
    split
    · next hc =>
      refine iff_of_false (by simp) fun hq => hq.1 ?_
      exact some.inj (hq.2.symm.trans ((h.listed p l c hp).mp hc))
    · next hc =>
      refine ⟨fun hq => ⟨?_, hq⟩, fun hq => hq.2⟩
      rintro rfl
      exact hc ((h.listed q l c hp).mpr hq)
  refine ⟨fun q l' hl => h.nodup q l' (of_erase hl).2, fun q l' c hl => ?_, fun c q hc => ?_⟩
  · obtain ⟨hq, hl⟩ := of_erase hl
    exact (h.listed q l' c hl).trans ((howner c q).trans (and_iff_right hq)).symm
  · obtain ⟨hq, hc⟩ := (howner c q).mp hc
    rw [erase_of_ne _ hq]
    exact h.owned c q hc

theorem poolCall_right_iff {w : PoolRun} {a : PoolCall} {r : Except Unit PoolRun} (h : w.Right)
    (hrun : poolCall w a = some r) : Run.Safe PoolRun.Right r ↔ PoolOk w a := by
  cases a with
  | createCommandPool calloc =>
    cases hrun
    refine iff_of_true ?_ trivial
    cases calloc with
    | false => exact h
    | true => exact ⟨h.1.create, h.2⟩
  | allocateCommandBuffers p found =>
    obtain ⟨hp, rfl⟩ := Run.guarded hrun
    exact allocate_right_iff h hp
  | freeCommandBuffers p handles =>
    obtain ⟨⟨-, hfree⟩, rfl⟩ := Run.guarded hrun
    exact free_right_iff h hfree
  | resetCommandPool p =>
    obtain ⟨l, hl, rfl⟩ := map_eq_some_iff.mp hrun
    obtain ⟨B, hB, hsame⟩ := resetListed_spec fun c hc => h.1.live hl hc
    rw [hB]
    exact iff_of_true ⟨h.1.congr rfl (funext hsame), h.2⟩ trivial
  | destroyCommandPool p =>
    obtain ⟨l, hl, rfl⟩ := map_eq_some_iff.mp hrun
    obtain ⟨B, hB, hcells⟩ := freeListed_spec (h.1.nodup p l hl) fun c hc => h.1.live hl hc
    rw [hB]
    exact iff_of_true ⟨h.1.destroy hl hcells, h.2⟩ trivial

def PoolRun.zero : PoolRun := ⟨⟨.empty, .empty⟩, true⟩

theorem right_zero : PoolRun.zero.Right :=
  ⟨⟨fun _ _ h => absurd h (by simp [PoolRun.zero]), fun _ _ _ h => absurd h (by simp [PoolRun.zero]),
    fun _ _ h => absurd h (by simp [PoolRun.zero, Pools.owner])⟩, rfl⟩

/-- **Command pools.** Along a run the lists have exactly the live command buffers of their
pools, failed allocations leave them as they were, and every record is freed once, exactly
when no allocation fails after its first buffer and every command buffer is freed with its
own pool. -/
theorem pools_right_iff (calls : List PoolCall) :
    Run.Along (Run.faulting poolCall) (Run.Safe PoolRun.Right) (.ok PoolRun.zero) calls ↔
      Run.Admitted (Run.faulting poolCall) (Run.Allowed PoolOk) (.ok PoolRun.zero) calls :=
  Run.safe_along_iff_of_exact (fun _ _ _ hp hrun => poolCall_right_iff hp hrun) right_zero calls

/-- One pool, and two command buffers of which only the first is found memory for. -/
theorem failed_allocation_stays_listed :
    ¬ Run.Along (Run.faulting poolCall) (Run.Safe PoolRun.Right) (.ok PoolRun.zero)
      [.createCommandPool true, .allocateCommandBuffers 0 [(true, true), (false, true)]] := by
  intro h
  have hrun : ∃ w : PoolRun, Run.run (Run.faulting poolCall) (.ok PoolRun.zero)
      [.createCommandPool true, .allocateCommandBuffers 0 [(true, true), (false, true)]] = some (.ok w) ∧
      w.restored = false :=
    ⟨_, rfl, rfl⟩
  obtain ⟨w, hw, hlost⟩ := hrun
  have hright : w.Right := h.final hw
  exact absurd (hlost.symm.trans hright.2) (by decide)

end Mvgal.Icd
