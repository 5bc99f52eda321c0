import Mvgal.Memory.BufferList

/-! The totals `total_allocated` and `total_freed`.

The destructor always adds a buffer's size to `total_freed`. Of the constructors
only allocation adds it to `total_allocated`: wrapping and aliasing add nothing,
and an import adds it twice, or not at all when it fails after the allocation.
`totals_iff` says that the totals account for the live buffers exactly as long as
none of those succeeds and the sum of all allocations fits in 64 bits. -/
namespace Mvgal.Memory
open Arena Buffer
open Blocks (Ptr)

def State.liveSize (m : State) : Nat := m.store.total fun x => x.size.toNat

/-- The totals account for the live buffers. -/
def Balanced (m : State) : Prop :=
  m.totalFreed.toNat ≤ m.totalAllocated.toNat ∧
    m.totalAllocated.toNat - m.totalFreed.toNat = m.liveSize

instance (m : State) : Decidable (Balanced m) := inferInstanceAs (Decidable (_ ∧ _))

variable {m m' : State} {b : Nat} {x : Buffer}

theorem balanced_iff : Balanced m ↔ m.totalAllocated.toNat = m.totalFreed.toNat + m.liveSize := by
  unfold Balanced
  omega

/-- There are no aliases, and before the module is initialized nothing is live. -/
structure Single (m : State) : Prop where
  node : ∀ b x, m.store.cells b = some x → x.node = ⟨1, [], none⟩
  idle : m.initialized = false → ∀ i, m.store.cells i = none

/-- Nothing is created except by an allocation, and the allocations fit in 64 bits. -/
def CountOk (m : State) : BufferCall → Prop
  | .allocate sys mgr info =>
    ∀ x s, AllocGranted sys (ensureInitialized sys mgr m) info x s →
      (ensureInitialized sys mgr m).totalAllocated.toNat + info.size.toNat < 2 ^ 64
  | .wrap sys _ p size _ => p = none ∨ size = 0 ∨ sys.calloc = false
  | .createAlias sys p offset size _ =>
    ∀ x, m.store.cells p = some x → ¬ AliasAccepted sys x offset size
  | .importDmabuf sys fd => ∀ size, ¬ ImportStarts sys m fd size
  | _ => True

theorem liveSize_push (h : m'.store = m.store.push x) :
    m'.liveSize = m.liveSize + x.size.toNat := by
  unfold State.liveSize
  rw [h, total_push]

theorem Balanced.ensureInitialized (h : Balanced m) (hs : Single m) (sys : System) (mgr : GpuManager) :
    Balanced (ensureInitialized sys mgr m) ∧ Single (ensureInitialized sys mgr m) := by
  unfold Memory.ensureInitialized
  by_cases hi : m.initialized = true
  · rw [if_pos hi]
    exact ⟨h, hs⟩
  · rw [if_neg hi]
    have hnone := hs.idle (by simpa using hi)
    have hzero : (moduleInit sys mgr m).liveSize = 0 := total_of_none _ hnone
    exact ⟨balanced_iff.mpr (by rw [hzero]; rfl), hs.node, fun hf => absurd hf (by simp [moduleInit])⟩

theorem Single.push (h : Single m) (hinit : m'.initialized = true) (hst : m'.store = m.store.push x)
    (hx : x.node = ⟨1, [], none⟩) : Single m' := by
  refine ⟨fun c y hy => ?_, fun hf => absurd (hf.symm.trans hinit) (by simp)⟩
  rw [hst] at hy
  obtain ⟨-, rfl⟩ | hy := of_push hy
  · exact hx
  · exact h.node c y hy

/-- A call keeps the accounts exactly under its condition, and under it creates no
alias. -/
structure Counts (m m' : State) (ok : Prop) : Prop where
  balanced_iff : Balanced m' ↔ ok
  single : ok → Single m'

theorem Counts.kept {ok : Prop} (h : Balanced m') (hs : Single m') (hok : ok) : Counts m m' ok :=
  ⟨iff_of_true h hok, fun _ => hs⟩

theorem Counts.broken {ok : Prop} (h : ¬ Balanced m') (hok : ¬ ok) : Counts m m' ok :=
  ⟨iff_of_false h hok, fun h => absurd h hok⟩

theorem counts_allocate (h : Balanced m) (hs : Single m) (sys : System) (mgr : GpuManager)
    (info : AllocInfo) :
    Counts m (memoryAllocate sys mgr m info).2 (CountOk m (.allocate sys mgr info)) := by
  obtain ⟨hb, hs'⟩ := h.ensureInitialized hs sys mgr
  obtain ⟨hno, e, he⟩ | ⟨x, s, hyes, he⟩ := memoryAllocate_cases sys mgr m info
  · rw [he]
    exact .kept hb hs' fun x s hg => absurd hg (hno x s)
  · rw [he]
    obtain ⟨hnode, hsize⟩ := node_of_granted hyes
    refine ⟨?_, fun _ => hs'.push (by simp [State.addBuffer, State.newBuffer, State.insert]) rfl hnode⟩
    have hok : CountOk m (.allocate sys mgr info) ↔
        (ensureInitialized sys mgr m).totalAllocated.toNat + info.size.toNat < 2 ^ 64 :=
      ⟨fun hok => hok x s hyes, fun hlt _ _ _ => hlt⟩
    rw [hok]
    rw [balanced_iff] at hb
    -- The sum of 64-bit numbers is the sum exactly if it does not wrap.
    have hadd := UInt64.toNat_add (ensureInitialized sys mgr m).totalAllocated info.size
    rw [balanced_iff, liveSize_push rfl, hsize]
    show ((ensureInitialized sys mgr m).totalAllocated + info.size).toNat =
      (ensureInitialized sys mgr m).totalFreed.toNat +
        ((ensureInitialized sys mgr m).liveSize + info.size.toNat) ↔ _
    omega

theorem not_balanced_of_liveSize (h : Balanced m) {n : UInt64} (hn : n ≠ 0)
    (hl : m'.liveSize = m.liveSize + n.toNat) (ha : m'.totalAllocated = m.totalAllocated)
    (hf : m'.totalFreed = m.totalFreed) : ¬ Balanced m' := by
  have hpos : n.toNat ≠ 0 := fun h0 => hn (UInt64.toNat_inj.mp h0)
  rw [balanced_iff] at h ⊢
  rw [hl, ha, hf]
  omega

theorem counts_wrap (h : Balanced m) (hs : Single m) (sys : System) (mgr : GpuManager) (p : Option Ptr)
    (size : UInt64) (flags : UInt32) :
    Counts m (memoryWrap sys mgr m p size flags).2 (CountOk m (.wrap sys mgr p size flags)) := by
  obtain ⟨hb, hs'⟩ := h.ensureInitialized hs sys mgr
  obtain ⟨e, m', he, hm, hwhy⟩ | ⟨q, rfl, h0, hcal, he⟩ := memoryWrap_cases sys mgr m p size flags
  · rw [he]
    rcases hm with rfl | rfl
    · exact .kept h hs hwhy
    · exact .kept hb hs' hwhy
  · rw [he]
    refine .broken ?_ (by simp [CountOk, h0, hcal])
    exact not_balanced_of_liveSize hb h0 (liveSize_push (x := wrappedBuffer q size flags) rfl) rfl rfl

variable {sys : System}

theorem aliasExtent_ne_zero {offset size : UInt64} (h : AliasAccepted sys x offset size) :
    aliasExtent x offset size ≠ 0 := by
  unfold aliasExtent
  split
  · intro h0
    have hlt := UInt64.lt_iff_toNat_lt.mp h.offset_lt
    have hsub := UInt64.toNat_sub_of_le x.size offset (UInt64.le_iff_toNat_le.mpr (by omega))
    rw [h0] at hsub
    simp at hsub
    omega
  · assumption

theorem counts_createAlias (h : Balanced m) (hs : Single m) {p : Nat}
    {offset size : UInt64} {flags : UInt32} {r : Except Error Nat}
    (hrun : memoryCreateAlias sys m p offset size flags = .ok (r, m')) :
    Counts m m' (CountOk m (.createAlias sys p offset size flags)) := by
  obtain ⟨x, hx, -⟩ := bind_eq_ok hrun
  have hx := read_ok_iff.mp hx
  obtain ⟨hno, e, he⟩ | ⟨hyes, he⟩ := memoryCreateAlias_cases sys hx offset size flags
  · cases hrun.symm.trans he
    exact .kept h hs fun y hy => Option.some.inj (hx.symm.trans hy) ▸ hno
  · cases hrun.symm.trans he
    refine .broken ?_ fun hok => hok x hx hyes
    refine not_balanced_of_liveSize h (aliasExtent_ne_zero hyes) ?_ rfl rfl
    have hpush := total_push (fun x : Buffer => x.size.toNat) m.store
      ((x.alias p offset (aliasExtent x offset size)).restrict flags)
    obtain ⟨v, access, hr⟩ := restrict_eq (x.alias p offset (aliasExtent x offset size)) flags
    have hsize : ((x.alias p offset (aliasExtent x offset size)).restrict flags).size =
        aliasExtent x offset size := by
      rw [hr]
      rfl
    rw [hsize] at hpush
    refine Eq.trans ?_ hpush
    exact total_congr fun i => modify_map _ p
      (f := fun y : Buffer => y.addAlias m.store.next) (fun _ _ => rfl) i

theorem counts_import (h : Balanced m) (hs : Single m) {fd : Option Nat}
    {r : Except Error Nat} (hrun : memoryImportDmabuf sys m fd = .ok (r, m')) :
    Counts m m' (CountOk m (.importDmabuf sys fd)) := by
  obtain ⟨rfl, hno⟩ | ⟨size, hstart, hcase⟩ := memoryImportDmabuf_cases hrun
  · exact .kept h hs hno
  · have hpos : size.toNat ≠ 0 := fun h0 => hstart.2.choose_spec.choose_spec.1 (UInt64.toNat_inj.mp h0)
    have hlt := size.toNat_lt
    refine .broken (fun hb => ?_) fun hok => hok size hstart
    rw [balanced_iff] at h hb
    rcases hcase with ⟨-, hf⟩ | ⟨-, hd⟩
    · have hlive : m'.liveSize = m.liveSize := total_congr fun i => by rw [hf.cells]
      have hadd := UInt64.toNat_add m.totalFreed size
      rw [hf.totalAllocated, hf.totalFreed, hlive] at hb
      have := m.totalAllocated.toNat_lt
      omega
    · obtain ⟨y, hy, hst⟩ := hd.store
      have hadd := UInt64.toNat_add m.totalAllocated size
      have hadd' := UInt64.toNat_add (m.totalAllocated + size) size
      rw [hd.totalAllocated, hd.totalFreed, liveSize_push hst, hy] at hb
      have := m.totalAllocated.toNat_lt
      omega

/-- Without aliases the first release destroys the buffer. -/
theorem memoryFree_single (hs : Single m) (hrun : memoryFree m b = .ok m') :
    ∃ x s, m.store.cells b = some x ∧
      m' = {(m.modify b Buffer.decref).modify b Buffer.clearAliases with space := s}.discard b x.size := by
  obtain ⟨x, hx, hcase⟩ := releaseWith_cases hrun
  have hnode := hs.node b x hx
  have hone : x.refcount = 1 := UInt32.toNat_inj.mp (congrArg Node.count hnode)
  obtain ⟨-, hd⟩ | ⟨hne, -⟩ := hcase
  · have hlt := lt_next hx
    obtain ⟨k, hk⟩ : ∃ k, m.store.next = k + 1 := ⟨m.store.next - 1, by omega⟩
    have hdec : (m.modify b decref).store.cells b = some x.decref := by
      show (m.store.modify b decref).cells b = _
      rw [modify_self, hx]
      rfl
    rw [hk, freeInternal_root hdec (congrArg Node.children hnode) (congrArg Node.parent hnode)] at hd
    obtain ⟨s, -, rfl⟩ := map_eq_ok hd
    exact ⟨x, s, hx, rfl⟩
  · exact absurd hone hne

theorem counts_free (h : Balanced m) (hs : Single m) (hrun : memoryFree m b = .ok m') :
    Counts m m' True := by
  obtain ⟨x, s, hx, rfl⟩ := memoryFree_single hs hrun
  have hsize (f : Buffer → Buffer) (hf : ∀ y, (f y).size = y.size) (A : Arena Buffer) :
      (A.modify b f).total (fun y => y.size.toNat) = A.total fun y => y.size.toNat :=
    total_congr fun i => modify_map A b (fun y _ => by rw [hf y]) i
  have hcell : ((m.store.modify b decref).modify b clearAliases).cells b =
      some x.decref.clearAliases := by
    rw [modify_self, modify_self, hx]
    rfl
  have herase := total_erase (fun y : Buffer => y.size.toNat) hcell
  rw [hsize clearAliases fun _ => rfl, hsize decref fun _ => rfl] at herase
  have hother (i : Nat) (hi : i ≠ b) :
      (((m.store.modify b decref).modify b clearAliases).erase b).cells i =
        m.store.cells i := by
    rw [erase_of_ne _ hi, modify_of_ne _ _ hi, modify_of_ne _ _ hi]
  refine .kept ?_ ⟨fun c y hy => ?_, fun hi i => ?_⟩ trivial
  · rw [balanced_iff] at h ⊢
    have hadd := UInt64.toNat_add m.totalFreed x.size
    have hlt := m.totalAllocated.toNat_lt
    change m.totalAllocated.toNat = (m.totalFreed + x.size).toNat + _
    change _ + x.size.toNat = m.liveSize at herase
    show _ = _ + total _ (((m.store.modify b decref).modify b clearAliases).erase b)
    omega
  · by_cases hc : c = b
    · exact absurd hy (by simp [State.discard, hc])
    · exact hs.node c y ((hother c hc).symm.trans hy)
  · by_cases hc : i = b
    · simp [State.discard, hc]
    · exact (hother i hc).trans (hs.idle hi i)

theorem memoryAliasDetach_single (hs : Single m) {e : Error}
    (hrun : memoryAliasDetach sys m b = .ok (e, m')) : m' = m := by
  obtain ⟨-, h⟩ | ⟨-, x, p, q, y, s, s', m₁, hx, hp, -⟩ := memoryAliasDetach_inv hrun
  · exact h
  · have hroot : x.parent? = none := congrArg Node.parent (hs.node b x hx)
    cases hroot.symm.trans hp

theorem bufferCall_counts {a : BufferCall} (h : Balanced m) (hs : Single m)
    (hrun : bufferCall m a = some m') : Counts m m' (CountOk m a) := by
  cases a with
  | allocate sys mgr info =>
    cases hrun
    exact counts_allocate h hs sys mgr info
  | wrap sys mgr p size flags =>
    cases hrun
    exact counts_wrap h hs sys mgr p size flags
  | createAlias sys p offset size flags =>
    obtain ⟨⟨r, m₁⟩, hr, rfl⟩ := Option.map_eq_some_iff.mp hrun
    exact counts_createAlias h hs (toOption_eq_some hr)
  | aliasDetach sys b =>
    obtain ⟨⟨e, m₁⟩, hr, rfl⟩ := Option.map_eq_some_iff.mp hrun
    obtain rfl := memoryAliasDetach_single hs (toOption_eq_some hr)
    exact .kept h hs trivial
  | importDmabuf sys fd =>
    obtain ⟨⟨r, m₁⟩, hr, rfl⟩ := Option.map_eq_some_iff.mp hrun
    exact counts_import h hs (toOption_eq_some hr)
  | free b => exact counts_free h hs (toOption_eq_some hrun)
  | openFile length hlt =>
    cases hrun
    exact .kept h ⟨hs.node, hs.idle⟩ trivial

theorem single_zero : Single State.zero :=
  ⟨fun _ _ h => absurd h (by simp [State.zero]), fun _ _ => rfl⟩

/-- **The totals.** Along a run from the zero state `total_freed` is at most
`total_allocated`, and their difference is the size of all live buffers, exactly
when no wrap, no alias and no import gets past its checks and the allocations
together fit in 64 bits. -/
theorem totals_iff (calls : List BufferCall) :
    Run.Along bufferCall Balanced State.zero calls ↔ Run.Admitted bufferCall CountOk State.zero calls :=
  Run.along_iff_admitted (fun _ _ _ hs hb hrun => (bufferCall_counts hb hs hrun).balanced_iff)
    (fun _ _ _ hs hb hrun hok => (bufferCall_counts hb hs hrun).single hok) single_zero
    ⟨Nat.le_refl 0, rfl⟩ calls

/-- An alias of the whole of a buffer of 64 bytes counts as live, not as allocated. -/
theorem alias_unbalances_totals : ¬ Run.Along bufferCall Balanced State.zero
      [.allocate willing noGpus ⟨64, 0, flagHostValid, .other, accessReadWrite, 0⟩,
        .createAlias willing 0 0 64 0] := by
  intro h
  have hrun : ∃ m, Run.run bufferCall State.zero
      [.allocate willing noGpus ⟨64, 0, flagHostValid, .other, accessReadWrite, 0⟩,
        .createAlias willing 0 0 64 0] = some m ∧ ¬ Balanced m := ⟨_, rfl, by decide⟩
  obtain ⟨m, hm, hno⟩ := hrun
  exact hno (h.final hm)

end Mvgal.Memory
