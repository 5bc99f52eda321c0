import Mvgal.Lib.Run
import Mvgal.Memory.Release

/-! The global list of buffers (`memory.c`, `allocator.c`, `dmabuf.c`).

Every creating call pushes its structure onto the list headed by `buffers`, and a
destroyed buffer is taken out by its own pointers. `Listed` says that the list,
linked both ways, holds every live structure once and no other. Destruction keeps
it through the recursion from alias to parent, because parents are older than
their aliases (`freeInternal_tidy`). An import breaks it: on success it inserts
the structure twice, and when the mapping fails it takes out a structure that was
never inserted, which empties the list. `buffer_list_iff` says that nothing else
does. -/
namespace Mvgal.Memory
open Arena Option Buffer
open Blocks (Ptr Space limit)

def Listed (m : State) : Prop :=
  Chain.Holds m.links m.buffers fun i => (m.store.cells i).isSome

/-- What the calls keep besides: parents are older than their aliases, and before the
module is initialized nothing is live. -/
structure Kept (m : State) : Prop where
  rising : ∀ b x p, m.store.cells b = some x → x.parent? = some p → p < b
  idle : m.initialized = false → ∀ i, m.store.cells i = none

/-- The list and what goes with it. -/
def Tidy (m : State) : Prop := Listed m ∧ Kept m

variable {m m' : State} {b : Nat} {x : Buffer}

def SameLive (m m' : State) : Prop :=
  ∀ i, (m'.store.cells i).isSome = (m.store.cells i).isSome

theorem sameLive_modify (m : State) (b : Nat) (f : Buffer → Buffer) : SameLive m (m.modify b f) := by
  intro i
  show ((m.store.modify b f).cells i).isSome = _
  rw [modify_cells]
  by_cases h : i = b
  · rw [if_pos h, h, isSome_map]
  · rw [if_neg h]

theorem Tidy.modify (h : Tidy m) {f : Buffer → Buffer}
    (hf : ∀ x, (f x).parent? = x.parent? ∨ (f x).parent? = none) : Tidy (m.modify b f) := by
  refine ⟨h.1.congr fun i => by rw [sameLive_modify m b f i], fun c y p hy hp => ?_, fun hi i => ?_⟩
  · obtain ⟨rfl, z, hz, rfl⟩ | ⟨-, hy⟩ := of_modify hy
    · rcases hf z with he | he
      · exact h.2.rising c z p hz (he ▸ hp)
      · cases he.symm.trans hp
    · exact h.2.rising c y p hy hp
  · have hnone := sameLive_modify m b f i
    rw [h.2.idle hi i] at hnone
    exact isNone_iff_eq_none.mp (by simpa using hnone)

theorem parent?_orphan (x : Buffer) : x.orphan.parent? = none := rfl

theorem orphanAll_tidy {as : List Nat} (hrun : orphanAll m as = .ok m') (h : Tidy m) :
    Tidy m' ∧ SameLive m m' ∧ m'.initialized = m.initialized := by
  induction as generalizing m with
  | nil =>
    cases hrun
    exact ⟨h, fun _ => rfl, rfl⟩
  | cons a rest ih =>
    obtain ⟨x, -, hrest⟩ := bind_eq_ok hrun
    obtain ⟨ht, hl, hi⟩ := ih hrest (h.modify fun y => .inr (parent?_orphan y))
    exact ⟨ht, fun i => (hl i).trans (sameLive_modify m a _ i), hi⟩

section
variable (h : Tidy m)
include h

theorem Tidy.create (hinit : m.initialized = true) (s : Space)
    (hp : ∀ p, x.parent? = some p → (m.store.cells p).isSome) : Tidy (m.addBuffer x s) := by
  have hlive (i : Nat) : ((m.store.push x).cells i).isSome ↔
      i = m.store.next ∨ (m.store.cells i).isSome := by
    rw [push_cells]
    by_cases hi : i = m.store.next
    · simp [hi]
    · simp [hi]
  refine ⟨(h.1.pushFront (by simp)).congr hlive, fun c y p hy hyp => ?_,
    fun hno => absurd (hno.symm.trans hinit) (by simp)⟩
  obtain ⟨rfl, rfl⟩ | hy := of_push hy
  · obtain ⟨z, hz⟩ := isSome_iff_exists.mp (hp p hyp)
    exact lt_next hz
  · exact h.2.rising c y p hy hyp

theorem Tidy.discard (hb : (m.store.cells b).isSome) (s : Space) (size : UInt64) :
    Tidy ({m with space := s}.discard b size) := by
  have hlive (i : Nat) : ((m.store.erase b).cells i).isSome ↔ i ≠ b ∧ (m.store.cells i).isSome := by
    rw [erase_cells]
    by_cases hi : i = b
    · simp [hi]
    · simp [hi]
  refine ⟨(h.1.bypass hb).congr hlive, fun c y p hy hp => h.2.rising c y p (of_erase hy).2 hp, ?_⟩
  intro hi i
  show (m.store.erase b).cells i = none
  rw [erase_cells, h.2.idle hi i, ite_self]

omit h in
/-- A destroyed buffer takes only itself and its ancestors with it, which are older,
so that it is still in the list when it is taken out. -/
theorem freeInternal_tidy (fuel : Nat) {m m' : State} {b : Nat}
    (hrun : freeInternal fuel m b = .ok m') (h : Tidy m) :
    Tidy m' ∧ (∀ i, b < i → (m'.store.cells i).isSome = (m.store.cells i).isSome) ∧
      m'.initialized = m.initialized := by
  induction fuel generalizing m m' b with
  | zero => exact absurd hrun (by simp [freeInternal])
  | succ k ih =>
    obtain ⟨k', x, m₁, m₂, s, hk, hx, h₁, h₂, -, rfl⟩ := freeInternal_cases hrun
    obtain rfl : k = k' := by omega
    obtain ⟨ht₁, hl₁, hi₁⟩ := orphanAll_tidy h₁ h
    have ht₁' : Tidy (m₁.modify b clearAliases) := ht₁.modify fun _ => .inl rfl
    have hl₁' (i : Nat) : ((m₁.modify b clearAliases).store.cells i).isSome =
        (m.store.cells i).isSome := (sameLive_modify m₁ b _ i).trans (hl₁ i)
    -- The parent and its ancestors are older than `b`.
    have hmid : Tidy m₂ ∧ (∀ i, b ≤ i → (m₂.store.cells i).isSome = (m.store.cells i).isSome) ∧
        m₂.initialized = m.initialized := by
      cases hp : x.parent? with
      | none =>
        rw [hp] at h₂
        cases h₂
        exact ⟨ht₁', fun i _ => hl₁' i, hi₁⟩
      | some p =>
        rw [hp] at h₂
        have hlt : p < b := h.2.rising b x p hx hp
        have hrem : Tidy ((m₁.modify b clearAliases).modify p (·.removeAlias b)) :=
          ht₁'.modify fun _ => .inl rfl
        have hdec : Tidy (((m₁.modify b clearAliases).modify p (·.removeAlias b)).modify p
            decref) := hrem.modify fun _ => .inl rfl
        have hl (i : Nat) := (sameLive_modify _ p decref i).trans
          ((sameLive_modify (m₁.modify b clearAliases) p (·.removeAlias b) i).trans (hl₁' i))
        obtain ⟨y, -, ⟨-, hd⟩ | ⟨-, rfl⟩⟩ := releaseWith_cases h₂
        · obtain ⟨ht, hsame, hi⟩ := ih hd hdec
          exact ⟨ht, fun i hle => (hsame i (by omega)).trans (hl i), hi.trans hi₁⟩
        · exact ⟨hdec, fun i _ => hl i, hi₁⟩
    obtain ⟨ht₂, hl₂, hi₂⟩ := hmid
    have hb : (m₂.store.cells b).isSome := by rw [hl₂ b (Nat.le_refl b), hx]; rfl
    refine ⟨ht₂.discard hb s x.size, fun i hlt => ?_, hi₂⟩
    show ((m₂.store.erase b).cells i).isSome = _
    rw [erase_of_ne _ (by omega), hl₂ i (by omega)]

omit h in
theorem bufferRelease_tidy (hrun : bufferRelease m b = .ok m') (h : Tidy m) : Tidy m' := by
  have hdec : Tidy (m.modify b decref) := h.modify fun _ => .inl rfl
  obtain ⟨x, -, ⟨-, hd⟩ | ⟨-, rfl⟩⟩ := releaseWith_cases hrun
  · exact (freeInternal_tidy _ hd hdec).1
  · exact hdec

/-- The calls that create and destroy buffers, with what the operating system and the GPU manager
answer, and the opening of a file by the rest of the program. -/
inductive BufferCall where
  | allocate (sys : System) (mgr : GpuManager) (info : AllocInfo)
  | wrap (sys : System) (mgr : GpuManager) (p : Option Ptr) (size : UInt64) (flags : UInt32)
  | createAlias (sys : System) (p : Nat) (offset size : UInt64) (flags : UInt32)
  | aliasDetach (sys : System) (b : Nat)
  | importDmabuf (sys : System) (fd : Option Nat)
  | free (b : Nat)
  | openFile (length : Nat) (hlt : length < limit)

def State.openFile (m : State) (length : Nat) (hlt : length < limit) : State :=
  {m with space := {m.space with objects := m.space.objects.push ⟨length, hlt⟩}}

/-- A call that misuses memory ends the run. -/
def bufferCall (m : State) : BufferCall → Option State
  | .allocate sys mgr info => some (memoryAllocate sys mgr m info).2
  | .wrap sys mgr p size flags => some (memoryWrap sys mgr m p size flags).2
  | .createAlias sys p offset size flags =>
    (memoryCreateAlias sys m p offset size flags).toOption.map (·.2)
  | .aliasDetach sys b => (memoryAliasDetach sys m b).toOption.map (·.2)
  | .importDmabuf sys fd => (memoryImportDmabuf sys m fd).toOption.map (·.2)
  | .free b => (memoryFree m b).toOption
  | .openFile length hlt => some (m.openFile length hlt)

/-- An import that finds an open file and memory fails to map it, and no buffer is
live. -/
def ListOk (m : State) : BufferCall → Prop
  | .importDmabuf sys fd =>
    ∀ size, ImportStarts sys m fd size → sys.mmap = false ∧ ∀ i, m.store.cells i = none
  | _ => True

variable {sys : System}

theorem Tidy.ensureInitialized {mgr : GpuManager} :
    Tidy (ensureInitialized sys mgr m) := by
  unfold Memory.ensureInitialized
  by_cases hi : m.initialized = true
  · rw [if_pos hi]
    exact h
  · rw [if_neg hi]
    have hnone := h.2.idle (by simpa using hi)
    refine ⟨(Chain.holds_nil m.links).congr fun i => ?_, h.2.rising, fun hf => absurd hf (by simp [moduleInit])⟩
    show (m.store.cells i).isSome ↔ False
    simp [hnone i]

theorem memoryAllocate_tidy (sys : System) (mgr : GpuManager) (info : AllocInfo) :
    Tidy (memoryAllocate sys mgr m info).2 := by
  have ht : Tidy (ensureInitialized sys mgr m) := h.ensureInitialized
  obtain ⟨-, e, he⟩ | ⟨x, s, hyes, he⟩ := memoryAllocate_cases sys mgr m info
  · rw [he]
    exact ht
  · rw [he]
    have hroot : x.parent? = none := congrArg Node.parent (node_of_granted hyes).1
    have hnew : Tidy ((ensureInitialized sys mgr m).addBuffer x s) :=
      ht.create (by simp) s fun p hp => absurd (hroot.symm.trans hp) (by simp)
    exact ⟨hnew.1, hnew.2.rising, hnew.2.idle⟩

theorem memoryWrap_tidy (sys : System) (mgr : GpuManager) (p : Option Ptr) (size : UInt64)
    (flags : UInt32) : Tidy (memoryWrap sys mgr m p size flags).2 := by
  have ht : Tidy (ensureInitialized sys mgr m) := h.ensureInitialized
  obtain ⟨e, m', he, hm, -⟩ | ⟨q, -, -, -, he⟩ := memoryWrap_cases sys mgr m p size flags
  · rw [he]
    rcases hm with rfl | rfl
    · exact h
    · exact ht
  · rw [he]
    exact ht.create (by simp) _ fun p hp => absurd hp (by simp [wrappedBuffer, blank, parent?])

theorem memoryCreateAlias_tidy {p : Nat} {offset size : UInt64}
    {flags : UInt32} {r : Except Error Nat}
    (hrun : memoryCreateAlias sys m p offset size flags = .ok (r, m')) : Tidy m' := by
  obtain ⟨x, hx, -⟩ := bind_eq_ok hrun
  have hx := read_ok_iff.mp hx
  obtain ⟨-, e, he⟩ | ⟨-, he⟩ := memoryCreateAlias_cases sys hx offset size flags
  · cases hrun.symm.trans he
    exact h
  · cases hrun.symm.trans he
    have hinit : m.initialized = true := by
      by_contra hno
      cases (h.2.idle (by simpa using hno) p).symm.trans hx
    have hpar : ((x.alias p offset (aliasExtent x offset size)).restrict flags).parent? = some p := by
      unfold restrict
      split <;> split <;> rfl
    have hnew := h.create hinit m.space
      fun q hq => by
        cases hpar.symm.trans hq
        rw [hx]
        rfl
    exact hnew.modify fun _ => .inl rfl

theorem memoryAliasDetach_tidy {e : Error}
    (hrun : memoryAliasDetach sys m b = .ok (e, m')) : Tidy m' := by
  obtain ⟨-, rfl⟩ | ⟨-, x, p, q, y, s, s', m₁, -, -, -, -, -, h₁, rfl⟩ := memoryAliasDetach_inv hrun
  · exact h
  · have hspace : Tidy {m with space := s'} := ⟨h.1, h.2.rising, h.2.idle⟩
    exact (bufferRelease_tidy h₁ (hspace.modify fun _ => .inl rfl)).modify fun _ => .inr rfl

/-- An import keeps the list exactly under its condition. -/
theorem memoryImportDmabuf_listed_iff {fd : Option Nat} {r : Except Error Nat}
    (hrun : memoryImportDmabuf sys m fd = .ok (r, m')) :
    (Listed m' ↔ ListOk m (.importDmabuf sys fd)) ∧
      (ListOk m (.importDmabuf sys fd) → Kept m') := by
  obtain ⟨rfl, hno⟩ | ⟨size, hstart, ⟨hmm, hf⟩ | ⟨hmm, hd⟩⟩ := memoryImportDmabuf_cases hrun
  · exact ⟨iff_of_true h.1 fun size hs => absurd hs (hno size), fun _ => h.2⟩
  · have hkept : Kept m' := by
      refine ⟨fun b x p hx => h.2.rising b x p (hf.cells ▸ hx), fun hi => ?_⟩
      rw [hf.cells]
      exact h.2.idle (hf.initialized ▸ hi)
    refine ⟨⟨fun hl _ _ => ⟨hmm, fun i => ?_⟩, fun hok => ?_⟩, fun _ => hkept⟩
    · -- The head is null, so nothing may be live.
      unfold Listed at hl
      rw [hf.buffers, hf.cells] at hl
      have hdead := hl.of_none i
      simpa using hdead
    · unfold Listed
      rw [hf.buffers, hf.cells]
      exact (Chain.holds_nil m'.links).congr fun i => by simp [(hok size hstart).2 i]
  · have hbad : ¬ ListOk m (.importDmabuf sys fd) := fun hok =>
      absurd (hmm.symm.trans (hok size hstart).1) (by simp)
    refine ⟨iff_of_false (fun hl => ?_) hbad, fun hok => absurd hok hbad⟩
    -- The structure is its own predecessor.
    unfold Listed at hl
    rw [hd.buffers] at hl
    cases hl.head_prev.symm.trans hd.prev

/-- One call keeps the list exactly under its condition. -/
theorem bufferCall_listed {a : BufferCall} (hrun : bufferCall m a = some m') :
    (Listed m' ↔ ListOk m a) ∧ (ListOk m a → Kept m') := by
  have hkeep (ht : Tidy m') (hok : ListOk m a) :
      (Listed m' ↔ ListOk m a) ∧ (ListOk m a → Kept m') :=
    ⟨iff_of_true ht.1 hok, fun _ => ht.2⟩
  cases a with
  | allocate sys mgr info =>
    cases hrun
    exact hkeep (memoryAllocate_tidy h sys mgr info) trivial
  | wrap sys mgr p size flags =>
    cases hrun
    exact hkeep (memoryWrap_tidy h sys mgr p size flags) trivial
  | createAlias sys p offset size flags =>
    obtain ⟨⟨r, m₁⟩, hr, rfl⟩ := map_eq_some_iff.mp hrun
    exact hkeep (memoryCreateAlias_tidy h (toOption_eq_some hr)) trivial
  | aliasDetach sys b =>
    obtain ⟨⟨e, m₁⟩, hr, rfl⟩ := map_eq_some_iff.mp hrun
    exact hkeep (memoryAliasDetach_tidy h (toOption_eq_some hr)) trivial
  | importDmabuf sys fd =>
    obtain ⟨⟨r, m₁⟩, hr, rfl⟩ := map_eq_some_iff.mp hrun
    exact memoryImportDmabuf_listed_iff h (toOption_eq_some hr)
  | free b => exact hkeep (bufferRelease_tidy (toOption_eq_some hrun) h) trivial
  | openFile length hlt =>
    cases hrun
    exact hkeep ⟨h.1, h.2.rising, h.2.idle⟩ trivial

end

theorem listed_zero : Listed State.zero :=
  (Chain.holds_nil _).congr fun i => by simp [State.zero]

theorem kept_zero : Kept State.zero :=
  ⟨fun _ _ _ h => absurd h (by simp [State.zero]), fun _ _ => rfl⟩

/-- **The global list.** Along a run from the zero state the list holds every live
buffer once and no other, exactly when every import that gets as far as mapping
fails there while no buffer is live. -/
theorem buffer_list_iff (calls : List BufferCall) :
    Run.Along bufferCall Listed State.zero calls ↔ Run.Admitted bufferCall ListOk State.zero calls :=
  Run.along_iff_admitted (fun _ _ _ hk hl hrun => (bufferCall_listed ⟨hl, hk⟩ hrun).1)
    (fun _ _ _ hk hl hrun hok => (bufferCall_listed ⟨hl, hk⟩ hrun).2 hok) kept_zero listed_zero calls

/-- Importing a file of 16 bytes leaves a buffer that is its own neighbour. -/
theorem import_breaks_list : ¬ Run.Along bufferCall Listed State.zero
      [.openFile 16 (by decide), .importDmabuf willing (some 0)] := by
  intro h
  obtain ⟨m, hrun, hhead, hprev⟩ : ∃ m, Run.run bufferCall State.zero
      [.openFile 16 (by decide), .importDmabuf willing (some 0)] = some m ∧
        m.buffers = some 0 ∧ m.links.prev 0 = some 0 := ⟨_, rfl, rfl, rfl⟩
  have hl : Listed m := h.final hrun
  unfold Listed at hl
  rw [hhead] at hl
  cases hl.head_prev.symm.trans hprev

end Mvgal.Memory
