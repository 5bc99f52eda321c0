import Mvgal.Memory.CopyBounds

/-! The bounds of memory accesses, over every sequence of calls of the module in
which no handle is freed (`memory_bounds_iff`). -/
namespace Mvgal.Memory
open Option
open Blocks (Fault limit)

variable {m : State} {x y : Buffer}

theorem exact_callerBlock {n : Nat} (hn : n < limit) (byte : Nat → UInt8) (hs : Sound m)
    (hc : Capacity m) : Exact (.ok {m with space := (m.space.create .foreign n hn byte).2}) True := by
  refine .ok (iff_true_intro fun b x hx => ?_) fun _ => hs.congr (fun _ => rfl) hs.plain
  exact (hc b x hx).keeps (m.space.keeps_create .foreign hn byte)

/-- A condition on the structure behind a live handle. -/
theorem forall_cell_iff {i : Nat} {p : Buffer → Prop} (h : m.store.cells i = some x) :
    (∀ z, m.store.cells i = some z → p z) ↔ p x :=
  ⟨fun hp => hp x h, fun hp _ hz => some.inj (h.symm.trans hz) ▸ hp⟩

variable {R : Except Fault State}

theorem exact_two {r : CopyRegion} {a : Call}
    {f : Buffer → Buffer → Except Fault State} {ok : Buffer → Buffer → Prop}
    (h : ((m.store.cells r.src).bind fun x => (m.store.cells r.dst).map fun y => f x y) = some R)
    (hok : CallOk m a = ∀ x y, m.store.cells r.src = some x → m.store.cells r.dst = some y → ok x y)
    (hf : ∀ x y, m.store.cells r.src = some x → m.store.cells r.dst = some y → Exact (f x y) (ok x y)) :
    Exact R (CallOk m a) := by
  obtain ⟨x, hx, h⟩ := bind_eq_some_iff.mp h
  obtain ⟨y, hy, rfl⟩ := map_eq_some_iff.mp h
  refine (hf x y hx hy).congr ?_
  rw [hok]
  constructor
  · intro hxy x' y' hx' hy'
    cases hx.symm.trans hx'
    cases hy.symm.trans hy'
    exact hxy
  · intro h
    exact h x y hx hy

theorem exact_one {i : Nat} {a : Call} {f : Buffer → Except Fault State}
    {ok : Buffer → Prop} (h : (m.store.cells i).map f = some R)
    (hok : CallOk m a = ∀ x, m.store.cells i = some x → ok x)
    (hf : ∀ x, m.store.cells i = some x → Exact (f x) (ok x)) : Exact R (CallOk m a) := by
  obtain ⟨x, hx, rfl⟩ := map_eq_some_iff.mp h
  refine (hf x hx).congr ?_
  rw [hok, forall_cell_iff hx]

theorem exact_call (hs : Sound m) (hc : Capacity m) (a : Call)
    (h : call m a = some R) : Exact R (CallOk m a) := by
  cases a with
  | callerBlock n hn byte =>
    cases h
    exact exact_callerBlock hn byte hs hc
  | allocate sys mgr info =>
    cases h
    exact exact_allocate hs hc info
  | allocateSimple sys mgr size flags =>
    cases h
    exact exact_allocateSimple hs hc size flags
  | createShared sys mgr size gpus =>
    cases h
    exact exact_createShared hs hc size gpus
  | wrap sys mgr p size flags =>
    cases h
    exact exact_wrap hs hc p size flags
  | createAlias sys p offset size flags => exact exact_one h rfl fun x hx => exact_createAlias hs hc hx
  | aliasDetach sys b =>
    obtain ⟨x, hx, rfl⟩ := map_eq_some_iff.mp h
    exact exact_aliasDetach hs hc hx
  | map sys b offset size => exact exact_one h rfl fun x hx => exact_map hs hc hx
  | unmap b => exact exact_one h rfl fun x hx => exact_unmap hs hc hx
  | write sys b offset size data => exact exact_one h rfl fun x hx => exact_write hs hc hx
  | read sys b offset size => exact exact_one h rfl fun x hx => exact_read hs hc hx
  | copyRegion sys sys' r => exact exact_two h rfl fun x y hx hy => exact_copyRegion hs hc hx hy
  | copyGpu sys sys' mgr r srcGpu dstGpu => exact exact_two h rfl fun x y hx hy => exact_copyGpu hs hc hx hy

theorem sound_zero : Sound State.zero where
  forest := Forest.empty
  plain := fun _ _ h => absurd h (by simp [State.zero])
  alias_le := fun _ _ _ _ h => absurd h (by simp [State.zero])

theorem capacity_zero : Capacity State.zero := fun _ _ h => absurd h (by simp [State.zero])

/-- **Bounds of memory accesses.** Along a run from the zero state no call leaves the
memory behind its buffers, and every buffer has the memory its size says, exactly
when every call meets its condition. -/
theorem memory_bounds_iff (calls : List Call) :
    Run.Along (Run.faulting call) (Run.Safe Capacity) (.ok State.zero) calls ↔
      Run.Admitted (Run.faulting call) (Run.Allowed CallOk) (.ok State.zero) calls :=
  Run.safe_along_iff (fun _ a _ hs hc h => (exact_call hs hc a h).safe_iff)
    (fun _ a _ hs hc h hok => (exact_call hs hc a h).sound _ rfl hok) sound_zero capacity_zero calls

/-- A write of 16 bytes at offset 2⁶⁴ - 8 of a buffer of 64 bytes passes the bounds
check, and leaves the buffer. -/
theorem write_wraps_out_of_bounds :
    ¬ Run.Along (Run.faulting call) (Run.Safe Capacity) (.ok State.zero)
      [.allocateSimple willing noGpus 64 0, .write willing 0 0xFFFFFFFFFFFFFFF8 16 fun _ => 0] := by
  intro h
  have hrun : Run.run (Run.faulting call) (.ok State.zero)
      [.allocateSimple willing noGpus 64 0, .write willing 0 0xFFFFFFFFFFFFFFF8 16 fun _ => 0] =
        some (.error .outOfBounds) := by
    rfl
  exact h.final hrun

/-- A call of `mvgal_memory_copy` is the run of its regions: where they end without a
fault, it ends in the same state. -/
theorem copyRegions_run (regions : List (System × System × CopyRegion)) {m m' : State} (e : Error)
    (h : Run.run (Run.faulting call) (.ok m) (regions.map fun r => Call.copyRegion r.1 r.2.1 r.2.2) =
      some (.ok m')) : ∃ e', copyRegions m e regions = .ok (e', m') := by
  induction regions generalizing m e with
  | nil =>
    cases h
    exact ⟨e, rfl⟩
  | cons r rest ih =>
    obtain ⟨R, hR, hrest⟩ := bind_eq_some_iff.mp h
    obtain ⟨x, -, hR⟩ := bind_eq_some_iff.mp hR
    obtain ⟨y, -, rfl⟩ := map_eq_some_iff.mp hR
    cases hc : copyRegion r.1 r.2.1 m r.2.2 with
    | error f =>
      rw [hc] at hrest
      cases rest with
      | nil => exact absurd (some.inj hrest) (by simp [Except.bind])
      | cons r' rest' => exact absurd hrest (by simp [Except.bind, Run.run, Run.faulting])
    | ok q =>
      obtain ⟨e₁, m₁⟩ := q
      rw [hc] at hrest
      simp only [Except.bind, accept] at hrest
      split at hrest
      · cases rest with
        | nil => exact absurd (some.inj hrest) (by simp)
        | cons r' rest' => exact absurd hrest (by simp [Run.run, Run.faulting])
      · rw [copyRegions, hc]
        exact ih _ hrest

end Mvgal.Memory
