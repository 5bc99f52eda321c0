import Mvgal.Lib.Run
import Mvgal.Memory.Capacity

/-! The calls of the memory module as a system, and the conditions under which each
of them is safe.

`call` is one call on live handles, `CallOk` what has to be true of it in the state
before it. For each call a lemma `exact_…` says that it is safe exactly under its
condition, and that it then keeps `Sound`; here those for creating, mapping, reading
and writing. -/
namespace Mvgal.Memory
open Option Buffer
open Blocks (Ptr Space Fault limit)

variable {sys sys' : System} {m : State} {b : Nat} {x y : Buffer} {s : Space} {offset size : UInt64}

/-- `mmap` of so many bytes succeeds. -/
def Mappable (sys : System) (n : UInt64) : Prop := sys.mmap = true ∧ n ≠ 0 ∧ n.toNat < limit

variable {n : UInt64}

theorem mmap_of_mappable (h : Mappable sys n) (fd : Nat) :
    mmap sys s fd n offset = some (s.map fd offset.toNat n.toNat h.2.2) := dif_pos h

theorem mmap_of_not_mappable (h : ¬ Mappable sys n) (fd : Nat) :
    mmap sys s fd n offset = none := dif_neg h

/-- How many bytes of a descriptor a mapping call maps. -/
def Buffer.mapExtent (x : Buffer) (size : UInt64) : UInt64 := if size = 0 then x.size else size

/-- A mapping call maps the descriptor anew. -/
def Buffer.Remaps (x : Buffer) : Prop := x.mapped = false ∧ x.dmabufFd.isSome

instance (x : Buffer) : Decidable x.Remaps := inferInstanceAs (Decidable (_ ∧ _))

/-- A mapping call fails. -/
def Buffer.Refused (sys : System) (x : Buffer) (size : UInt64) : Prop :=
  x.mapped = false ∧ (x.dmabufFd.isSome ∧ ¬ Mappable sys (x.mapExtent size) ∨
      x.dmabufFd = none ∧ hasAny x.flags flagHostValid = false)

/-- So many bytes of the descriptor, from the offset on, hold the buffer. -/
def Buffer.Covered (s : Space) (x : Buffer) (offset n : UInt64) : Prop :=
  x.size.toNat ≤ n.toNat ∧ ∀ fd, x.dmabufFd = some fd → x.size.toNat ≤ s.behind fd offset.toNat

/-- The block at `p` has the bytes of the descriptor from the offset on, `n` at most. -/
def Buffer.Backed (x : Buffer) (s s' : Space) (offset n : UInt64) (p : Ptr) : Prop :=
  ∀ k, s'.InBounds p k ↔ k ≤ n.toNat ∧ ∀ fd, x.dmabufFd = some fd → k ≤ s.behind fd offset.toNat

/-- A mapping call fails, or returns the pointer that is there, or maps the
descriptor at a new block, which holds the buffer exactly if it is covered. -/
theorem map_cases (sys : System) (s : Space) (x : Buffer) (offset size : UInt64) :
    (x.Refused sys size ∧ ∃ e, e ≠ .success ∧ x.map sys s offset size = (.error e, x, s)) ∨
    (¬ x.Refused sys size ∧ ¬ x.Remaps ∧
      x.map sys s offset size = (.ok (x.hostPtr.map (·.add offset.toNat)), x, s)) ∨
    (¬ x.Refused sys size ∧ x.Remaps ∧ ∃ p s',
      x.map sys s offset size = (.ok (some p), x.mapAt p, s') ∧
      s.Keeps s' ∧ s'.objects = s.objects ∧ s.blocks.cells p.block = none ∧
      x.Backed s s' offset (x.mapExtent size) p) := by
  cases hm : x.mapped with
  | true =>
    have hre : ¬ x.Remaps := fun h => absurd h.1 (by simp [hm])
    have hno : ¬ x.Refused sys size := fun h => absurd h.1 (by simp [hm])
    exact .inr (.inl ⟨hno, hre, by simp [map, hm]⟩)
  | false =>
    cases hfd : x.dmabufFd with
    | none =>
      have hre : ¬ x.Remaps := fun h => absurd h.2 (by simp [hfd])
      cases hv : hasAny x.flags flagHostValid with
      | false => exact .inl ⟨⟨hm, .inr ⟨hfd, hv⟩⟩, .notSupported, by simp,
          by simp [map, hm, hfd, hv]⟩
      | true =>
        have hno : ¬ x.Refused sys size := fun h => h.2.elim
          (fun h => absurd h.1 (by simp [hfd])) (fun h => absurd h.2 (by simp [hv]))
        exact .inr (.inl ⟨hno, hre, by simp [map, hm, hfd, hv]⟩)
    | some fd =>
      have hre : x.Remaps := ⟨hm, by simp [hfd]⟩
      by_cases hok : Mappable sys (x.mapExtent size)
      · have hno : ¬ x.Refused sys size := fun h => h.2.elim
          (fun h => h.2 hok) (fun h => absurd h.1 (by simp [hfd]))
        have hmap : mmap sys s fd (if size = 0 then x.size else size) offset = some _ :=
          mmap_of_mappable hok fd
        refine .inr (.inr ⟨hno, hre, (s.map fd offset.toNat _ hok.2.2).1,
          (s.map fd offset.toNat _ hok.2.2).2, ?_, s.keeps_map fd offset.toNat hok.2.2,
          rfl, Arena.cells_next _, fun n => ?_⟩)
        · simp [map, hm, hfd, hmap]
        · rw [Space.map_inBounds, hfd]
          simp
      · have hmap : mmap sys s fd (if size = 0 then x.size else size) offset = none :=
          mmap_of_not_mappable hok fd
        exact .inl ⟨⟨hm, .inl ⟨by simp [hfd], hok⟩⟩, .memory, by simp,
          by simp [map, hm, hfd, hmap]⟩

/-! ### The system of calls -/

/-- The calls, with what the operating system and the GPU manager answer. A call of
`mvgal_memory_copy` is the sequence of its regions. `callerBlock` is memory that the
program gets for itself. -/
inductive Call where
  | callerBlock (n : Nat) (hn : n < limit) (byte : Nat → UInt8)
  | allocate (sys : System) (mgr : GpuManager) (info : AllocInfo)
  | allocateSimple (sys : System) (mgr : GpuManager) (size : UInt64) (flags : UInt32)
  | createShared (sys : System) (mgr : GpuManager) (size : UInt64) (gpuIndices : List Nat)
  | wrap (sys : System) (mgr : GpuManager) (p : Option Ptr) (size : UInt64) (flags : UInt32)
  | createAlias (sys : System) (p : Nat) (offset size : UInt64) (flags : UInt32)
  | aliasDetach (sys : System) (b : Nat)
  | map (sys : System) (b : Nat) (offset size : UInt64)
  | unmap (b : Nat)
  | write (sys : System) (b : Nat) (offset size : UInt64) (data : Nat → UInt8)
  | read (sys : System) (b : Nat) (offset size : UInt64)
  | copyRegion (sys sys' : System) (r : CopyRegion)
  | copyGpu (sys sys' : System) (mgr : GpuManager) (r : CopyRegion) (srcGpu dstGpu : Nat)

/-- A call that is accepted although its range ends beyond the buffer counts as an
access out of bounds, even if it touches no byte. -/
def accept (granted inRange : Prop) [Decidable granted] [Decidable inRange] (m : State) :
    Except Fault State :=
  if granted ∧ ¬ inRange then .error .outOfBounds else .ok m

def CopyRegion.InRange (r : CopyRegion) (x y : Buffer) : Prop :=
  x.InRange r.srcOffset r.size ∧ y.InRange r.dstOffset r.size

instance (r : CopyRegion) (x y : Buffer) : Decidable (r.InRange x y) :=
  inferInstanceAs (Decidable (_ ∧ _))

/-- One call, on live handles. A region of no bytes is skipped whatever its offsets. -/
def call (m : State) : Call → Option (Except Fault State)
  | .callerBlock n hn byte => some (.ok {m with space := (m.space.create .foreign n hn byte).2})
  | .allocate sys mgr info => some (.ok (memoryAllocate sys mgr m info).2)
  | .allocateSimple sys mgr size flags => some (.ok (memoryAllocateSimple sys mgr m size flags).2)
  | .createShared sys mgr size gpus => some (.ok (memoryCreateShared sys mgr m size gpus).2)
  | .wrap sys mgr p size flags => some (.ok (memoryWrap sys mgr m p size flags).2)
  | .createAlias sys p offset size flags =>
    (m.store.cells p).map fun x => (memoryCreateAlias sys m p offset size flags).bind fun r =>
      accept (r.1.isOk = true) (x.InRange offset size) r.2
  | .aliasDetach sys b => (m.store.cells b).map fun _ => (memoryAliasDetach sys m b).map Prod.snd
  | .map sys b offset size =>
    (m.store.cells b).map fun x => (memoryMap sys m b offset size).bind fun r =>
      accept (r.1.isOk = true) (x.InRange offset size) r.2
  | .unmap b => (m.store.cells b).map fun _ => memoryUnmap m b
  | .write sys b offset size data =>
    (m.store.cells b).map fun x => (memoryWrite sys m b offset size data).bind fun r =>
      accept (r.1 = .success) (x.InRange offset size) r.2
  | .read sys b offset size =>
    (m.store.cells b).map fun x => (memoryRead sys m b offset size).bind fun r =>
      accept (r.1.isOk = true) (x.InRange offset size) r.2
  | .copyRegion sys sys' r =>
    (m.store.cells r.src).bind fun x => (m.store.cells r.dst).map fun y =>
      (copyRegion sys sys' m r).bind fun q =>
        accept (q.1 = .success ∧ r.size ≠ 0) (r.InRange x y) q.2
  | .copyGpu sys sys' mgr r srcGpu dstGpu =>
    (m.store.cells r.src).bind fun x => (m.store.cells r.dst).map fun y =>
      (memoryCopyGpu sys sys' mgr m r srcGpu dstGpu).bind fun q =>
        accept (q.1 = .success ∧ r.size ≠ 0) (r.InRange x y) q.2

/-- An allocation that is granted does not wrap when it is rounded up. -/
def AllocOk (sys : System) (mgr : GpuManager) (m : State) (info : AllocInfo) : Prop :=
  (∃ x s, AllocGranted sys (ensureInitialized sys mgr m) info x s) →
    info.alignment = 0 ∨ info.size.toNat + info.alignment.toNat ≤ 2 ^ 64

def WrapOk (sys : System) (m : State) (p : Option Ptr) (size : UInt64) : Prop :=
  ∀ q, p = some q → size ≠ 0 → sys.calloc = true → m.space.InBounds q size.toNat

/-- The descriptor is mapped from an offset and in a length that hold the buffer. -/
def MapOk (sys : System) (s : Space) (x : Buffer) (offset size : UInt64) : Prop :=
  ¬ x.Refused sys size → x.InRange offset size ∧ (x.Remaps → x.Covered s offset (x.mapExtent size))

/-- No other buffer points into the block behind this one. -/
def Unshared (m : State) (b : Nat) (x : Buffer) : Prop :=
  ∀ p c y q, x.hostPtr = some p → c ≠ b → m.store.cells c = some y → y.hostPtr = some q →
    q.block ≠ p.block

/-- Unmapping takes away memory that only this buffer uses. -/
def UnmapOk (m : State) (b : Nat) (x : Buffer) : Prop :=
  x.mapped = true → x.dmabufOwner = true → x.dmabufFd.isSome → Unshared m b x

/-- A read or a write that passes the bounds check does not wrap; one that has to
map the buffer first maps all of it, and starts at its beginning. -/
def AccessOk (sys : System) (s : Space) (x : Buffer) (offset size : UInt64) : Prop :=
  if x.mapped = true ∨ x.hostPtr ≠ none then x.size < offset + size ∨ x.InRange offset size
  else
    ¬ x.Refused sys size →
      (x.Remaps → x.Covered s offset size) ∧ (x.size < offset + size ∨ x.Remaps ∧ offset = 0)

/-- One side of a region: the offset counts twice, unless the buffer has to be mapped
first; then it has to be mapped whole. -/
def SideOk (s : Space) (x : Buffer) (offset size : UInt64) : Prop :=
  (x.Remaps → offset = 0 ∧ x.Covered s offset size) ∧
  (¬ x.Remaps → ∃ p, x.hostPtr = some p ∧ s.InBounds p (2 * offset.toNat + size.toNat))

/-- The destination is refused, after the source was mapped. -/
def CopyRegion.DstRefused (sys' : System) (r : CopyRegion) (y : Buffer) : Prop :=
  r.src ≠ r.dst ∧ y.Refused sys' r.size

def RegionOk (sys sys' : System) (m : State) (r : CopyRegion) (x y : Buffer) : Prop :=
  r.size ≠ 0 → ¬ r.rejected x y → ¬ x.Refused sys r.size →
    (r.DstRefused sys' y → UnmapOk m r.src x) ∧
    (¬ r.DstRefused sys' y → SideOk m.space x r.srcOffset r.size ∧
      if r.src = r.dst ∧ x.Remaps then r.dstOffset = 0 else SideOk m.space y r.dstOffset r.size)

def CopyGpuOk (sys sys' : System) (mgr : GpuManager) (m : State) (r : CopyRegion) (srcGpu dstGpu : Nat)
    (x y : Buffer) : Prop :=
  if getCopyMethod mgr srcGpu dstGpu = .cpu then RegionOk sys sys' m r x y
  else r.size ≠ 0 → ¬ r.rejected x y → x.hostPtr ≠ none ∧ y.hostPtr ≠ none ∧ r.InRange x y

/-- What has to be true of a call, in the state before it. -/
def CallOk (m : State) : Call → Prop
  | .allocate sys mgr info => AllocOk sys mgr m info
  | .wrap sys _ p size _ => WrapOk sys m p size
  | .createAlias sys p offset size _ =>
    ∀ x, m.store.cells p = some x → AliasAccepted sys x offset size →
      offset.toNat + size.toNat < 2 ^ 64
  | .map sys b offset size => ∀ x, m.store.cells b = some x → MapOk sys m.space x offset size
  | .unmap b => ∀ x, m.store.cells b = some x → UnmapOk m b x
  | .write sys b offset size _ =>
    ∀ x, m.store.cells b = some x → size ≠ 0 → AccessOk sys m.space x offset size
  | .read sys b offset size =>
    ∀ x, m.store.cells b = some x → size ≠ 0 → AccessOk sys m.space x offset size
  | .copyRegion sys sys' r =>
    ∀ x y, m.store.cells r.src = some x → m.store.cells r.dst = some y → RegionOk sys sys' m r x y
  | .copyGpu sys sys' mgr r srcGpu dstGpu =>
    ∀ x y, m.store.cells r.src = some x → m.store.cells r.dst = some y →
      CopyGpuOk sys sys' mgr m r srcGpu dstGpu x y
  | _ => True

/-! ### Each call meets its condition exactly when it is safe -/

/-- The call is safe exactly under the condition, and then keeps what the module keeps. -/
structure Exact (r : Except Fault State) (ok : Prop) : Prop where
  safe_iff : Run.Safe Capacity r ↔ ok
  sound : ∀ m', r = .ok m' → ok → Sound m'

theorem Exact.ok {m' : State} {ok : Prop} (h : Capacity m' ↔ ok) (hs : ok → Sound m') :
    Exact (.ok m') ok :=
  ⟨h, fun _ he hok => Except.ok.inj he ▸ hs hok⟩

theorem Exact.fault {e : Fault} {ok : Prop} (h : ¬ ok) : Exact (.error e) ok :=
  ⟨⟨fun hf => absurd hf id, fun hok => absurd hok h⟩, fun _ he _ => nomatch he⟩

theorem Exact.congr {r : Except Fault State} {ok ok' : Prop} (h : Exact r ok) (he : ok ↔ ok') :
    Exact r ok' :=
  ⟨h.safe_iff.trans he, fun m' hr hok => h.sound m' hr (he.mpr hok)⟩

theorem Exact.same {ok : Prop} (hs : Sound m) (hc : Capacity m) (hok : ok) : Exact (.ok m) ok :=
  .ok ⟨fun _ => hok, fun _ => hc⟩ fun _ => hs

theorem exact_accept {granted inRange ok : Prop} [Decidable granted] [Decidable inRange] {m' : State}
    (hg : granted) (h : Capacity m' ∧ inRange ↔ ok) (hs : ok → Sound m') :
    Exact (accept granted inRange m') ok := by
  unfold accept
  by_cases hr : inRange
  · rw [if_neg fun hn => hn.2 hr]
    exact .ok (by simpa [hr] using h) hs
  · rw [if_pos ⟨hg, hr⟩]
    exact .fault fun hok => hr (h.mpr hok).2

theorem accept_not {granted inRange : Prop} [Decidable granted] [Decidable inRange]
    (hg : ¬ granted) (m : State) : accept granted inRange m = .ok m := if_neg fun h => hg h.1

variable {mgr : GpuManager}

theorem sound_ensureInitialized (hs : Sound m) : Sound (ensureInitialized sys mgr m) :=
  hs.congr (fun i => by rw [ensureInitialized_store]) fun b x hx => hs.plain b x (by simpa using hx)

theorem capacity_ensureInitialized (hc : Capacity m) : Capacity (ensureInitialized sys mgr m) := by
  intro b x hx
  rw [ensureInitialized_space]
  exact hc b x (by simpa using hx)

theorem capacity_totals : Capacity {m with totalAllocated := n} ↔ Capacity m := Iff.rfl

theorem sound_totals (hs : Sound m) : Sound {m with totalAllocated := n} :=
  hs.congr (fun _ => rfl) hs.plain

/-- The structure of a new buffer: a root whose block has the aligned size. -/
theorem granted_spec {info : AllocInfo} (h : AllocGranted sys m info x s) :
    m.space.Keeps s ∧ x.node = ⟨1, [], none⟩ ∧ x.Plain ∧
      (Fits s x ↔ info.size.toNat ≤ (alignedSize info.size info.alignment).toNat) := by
  obtain ⟨kind, byte, hn, rfl, hx⟩ := allocateMemory_cases h.2.2
  refine ⟨m.space.keeps_create kind hn byte, ?_⟩
  have hfits : ∀ y : Buffer, y.hostPtr = some ⟨m.space.blocks.next, 0⟩ → y.size = info.size →
      (Fits (m.space.create kind _ hn byte).2 y ↔
        info.size.toNat ≤ (alignedSize info.size info.alignment).toNat) := by
    intro y hp hsz
    rw [← m.space.create_inBounds kind hn byte, Fits, hp, hsz]
    exact ⟨fun h => h _ rfl, fun h p hp => some.inj hp ▸ h⟩
  obtain ⟨-, -, -, rfl⟩ | ⟨-, rfl⟩ := hx
  · exact ⟨rfl, ⟨fun _ => by simp [dmaBuffer], fun h => absurd h (by simp [dmaBuffer])⟩,
      hfits _ rfl rfl⟩
  · exact ⟨rfl, ⟨fun _ => by simp [systemBuffer],
      fun _ => by simp [systemBuffer, ofInfo, blank]⟩, hfits _ rfl rfl⟩

theorem exact_allocate (hs : Sound m) (hc : Capacity m) (info : AllocInfo) :
    Exact (.ok (memoryAllocate sys mgr m info).2) (AllocOk sys mgr m info) := by
  have hs' : Sound (ensureInitialized sys mgr m) := sound_ensureInitialized hs
  have hc' : Capacity (ensureInitialized sys mgr m) := capacity_ensureInitialized hc
  obtain ⟨hno, e, he⟩ | ⟨x, s, hyes, he⟩ := memoryAllocate_cases sys mgr m info
  · rw [he]
    exact .same hs' hc' fun ⟨x, s, h⟩ => absurd h (hno x s)
  · rw [he]
    obtain ⟨hk, hnode, hplain, hfits⟩ := granted_spec hyes
    refine .ok ?_ fun _ => sound_totals (hs'.addBuffer hnode hplain)
    rw [capacity_totals, capacity_addBuffer hc' hk, hfits, le_alignedSize_iff]
    exact ⟨fun h _ => h, fun h => h ⟨x, s, hyes⟩⟩

theorem allocOk_of_alignment {info : AllocInfo} (h : info.alignment = 0) :
    AllocOk sys mgr m info := fun _ => .inl h

theorem exact_allocateSimple (hs : Sound m) (hc : Capacity m) (size : UInt64)
    (flags : UInt32) : Exact (.ok (memoryAllocateSimple sys mgr m size flags).2) True := by
  unfold memoryAllocateSimple
  by_cases h0 : size = 0
  · rw [if_pos h0]
    exact .same hs hc trivial
  · rw [if_neg h0]
    exact (exact_allocate hs hc _).congr (iff_true_intro (allocOk_of_alignment rfl))

theorem exact_createShared (hs : Sound m) (hc : Capacity m) (size : UInt64)
    (gpus : List Nat) : Exact (.ok (memoryCreateShared sys mgr m size gpus).2) True := by
  unfold memoryCreateShared
  by_cases h0 : size = 0 ∨ gpus = []
  · rw [if_pos h0]
    exact .same hs hc trivial
  · rw [if_neg h0]
    exact (exact_allocate hs hc _).congr (iff_true_intro (allocOk_of_alignment rfl))

theorem exact_wrap (hs : Sound m) (hc : Capacity m) (p : Option Ptr) (size : UInt64)
    (flags : UInt32) : Exact (.ok (memoryWrap sys mgr m p size flags).2) (WrapOk sys m p size) := by
  have hs' : Sound (ensureInitialized sys mgr m) := sound_ensureInitialized hs
  have hc' : Capacity (ensureInitialized sys mgr m) := capacity_ensureInitialized hc
  obtain ⟨e, m', he, hm, hwhy⟩ | ⟨q, rfl, h0, hcal, he⟩ := memoryWrap_cases sys mgr m p size flags
  · rw [he]
    have hok : WrapOk sys m p size := by
      intro q hq h0 hcal
      rcases hwhy with h | h | h
      · exact absurd hq (by simp [h])
      · exact absurd h h0
      · exact absurd hcal (by simp [h])
    rcases hm with rfl | rfl
    · exact .same hs hc hok
    · exact .same hs' hc' hok
  · rw [he]
    have hplain : (wrappedBuffer q size flags).Plain :=
      ⟨fun _ => by simp [wrappedBuffer], fun _ => by simp [wrappedBuffer, blank]⟩
    refine .ok ?_ fun _ => hs'.addBuffer rfl hplain
    rw [capacity_addBuffer hc' (Space.Keeps.refl _), ensureInitialized_space]
    constructor
    · intro h q' hq _ _
      exact h q' hq
    · intro h q' hq
      exact h q' hq h0 hcal

/-- The range of an alias lies inside its parent exactly when it does not wrap. -/
theorem aliasExtent_le_iff (h : AliasAccepted sys x offset size) :
    offset.toNat + (aliasExtent x offset size).toNat ≤ x.size.toNat ↔
      offset.toNat + size.toNat < 2 ^ 64 := by
  have h1 := UInt64.lt_iff_toNat_lt.mp h.offset_lt
  have h2 := UInt64.le_iff_toNat_le.mp h.end_le
  have h3 := x.size.toNat_lt
  rw [UInt64.toNat_add] at h2
  unfold aliasExtent at *
  by_cases h0 : size = 0
  · have hz : size.toNat = 0 := by rw [h0]; rfl
    rw [if_pos h0, UInt64.toNat_sub] at *
    omega
  · rw [if_neg h0] at *
    omega

theorem exact_createAlias {p : Nat} {flags : UInt32} (hs : Sound m) (hc : Capacity m)
    (hp : m.store.cells p = some x) :
    Exact ((memoryCreateAlias sys m p offset size flags).bind fun r =>
        accept (r.1.isOk = true) (x.InRange offset size) r.2)
      (AliasAccepted sys x offset size → offset.toNat + size.toNat < 2 ^ 64) := by
  obtain ⟨hno, e, he⟩ | ⟨hyes, he⟩ := memoryCreateAlias_cases sys hp offset size flags
  · rw [he]
    exact .same hs hc fun h => absurd h hno
  · rw [he]
    have hext := aliasExtent_le_iff hyes
    obtain ⟨v, a, hr⟩ := restrict_eq (x.alias p offset (aliasExtent x offset size)) flags
    rw [hr]
    have hfits : offset.toNat + size.toNat < 2 ^ 64 → Fits m.space
        {x.alias p offset (aliasExtent x offset size) with gpuBindings := v, access := a} := by
      intro hlt q hq
      obtain ⟨q', hq', rfl⟩ := map_eq_some_iff.mp hq
      exact Space.InBounds.add ((hc p x hp q' hq').mono (hext.mpr hlt))
    refine exact_accept rfl ?_ fun hok => ?_
    · rw [capacity_addAlias hc hp]
      constructor
      · intro h _
        have := h.2
        have h3 := x.size.toNat_lt
        rw [InRange] at this
        omega
      · intro h
        refine ⟨hfits (h hyes), ?_⟩
        have h1 := hext.mpr (h hyes)
        rw [InRange]
        unfold aliasExtent at h1
        by_cases h0 : size = 0
        · have hz : size.toNat = 0 := by rw [h0]; rfl
          omega
        · rw [if_neg h0] at h1
          exact h1
    · have hpl := hs.plain p x hp
      refine hs.addAlias hp hyes.room rfl ⟨fun hmap hnone => ?_, hpl.descriptor⟩ ⟨rfl, ?_⟩
      · exact hpl.mapped hmap (map_eq_none_iff.mp hnone)
      · have := hext.mpr (hok hyes)
        show (aliasExtent x offset size).toNat ≤ x.size.toNat
        omega

theorem exact_aliasDetach (hs : Sound m) (hc : Capacity m) (hb : m.store.cells b = some x) :
    Exact ((memoryAliasDetach sys m b).map Prod.snd) True := by
  obtain ⟨e, he⟩ | ⟨p, y, q, s, hp, hy, he, hk, hq⟩ := memoryAliasDetach_cases sys hs hc hb
  · rw [he]
    exact .same hs hc trivial
  · rw [he]
    exact .ok (iff_true_intro (capacity_detached hs hc hb hp hk hq)) fun _ => hs.detached hb hp hy

theorem put_self (hb : m.store.cells b = some x) : m.put b x m.space = m := by
  have hstore : m.store.modify b (fun _ => x) = m.store :=
    Arena.modify_eq_self fun y hy => some.inj (hb.symm.trans hy)
  unfold State.put
  rw [hstore]

theorem memoryMap_eq (hb : m.store.cells b = some x) :
    memoryMap sys m b offset size = .ok ((x.map sys m.space offset size).1,
      m.put b (x.map sys m.space offset size).2.1 (x.map sys m.space offset size).2.2) := by
  rw [memoryMap, State.read, hb]
  rfl

variable {p : Ptr} {s' : Space}

/-- A new mapping holds the buffer exactly if it covers it. -/
theorem fits_mapAt (hb : x.Backed s s' offset n p) :
    Fits s' (x.mapAt p) ↔ x.Covered s offset n := by
  rw [Covered, ← hb x.size.toNat]
  exact ⟨fun h => h p rfl, fun h q hq => some.inj hq ▸ h⟩

theorem Buffer.Plain.mapAt (h : x.Plain) (p : Ptr) : (x.mapAt p).Plain :=
  ⟨fun _ => by simp [Buffer.mapAt], h.descriptor⟩

theorem exact_map (hs : Sound m) (hc : Capacity m) (hb : m.store.cells b = some x) :
    Exact ((memoryMap sys m b offset size).bind fun r =>
        accept (r.1.isOk = true) (x.InRange offset size) r.2) (MapOk sys m.space x offset size) := by
  rw [memoryMap_eq hb]
  simp only [Except.bind]
  obtain ⟨href, e, hne, he⟩ | ⟨hno, hre, he⟩ | ⟨hno, hre, p, s', he, hk, -, -, hbound⟩ :=
    map_cases sys m.space x offset size
  · rw [he, put_self hb, accept_not (by simp [Except.isOk, Except.toBool])]
    exact .same hs hc fun h => absurd href h
  · rw [he, put_self hb]
    refine exact_accept rfl ?_ fun _ => hs
    exact ⟨fun h _ => ⟨h.2, fun h' => absurd h' hre⟩, fun h => ⟨hc, (h hno).1⟩⟩
  · rw [he]
    refine exact_accept rfl ?_ fun _ => hs.put hb rfl ((hs.plain b x hb).mapAt p)
    rw [capacity_put hc hb hk, fits_mapAt hbound]
    exact ⟨fun h _ => ⟨h.2, fun _ => h.1⟩, fun h => ⟨(h hno).2 hre, (h hno).1⟩⟩

theorem plain_unmapped (h : x.Plain) : x.unmapped.Plain :=
  ⟨fun h' => absurd h' (by simp [unmapped]), h.descriptor⟩

/-- Taking away the memory a buffer owns is safe for the others exactly if none of
them uses it. -/
theorem capacity_drop (hc : Capacity m) (hp : x.hostPtr = some p) :
    Capacity (m.put b x.unmapped (m.space.drop p)) ↔ Unshared m b x := by
  constructor
  · intro h p' c y q hp' hcb hy hq heq
    obtain rfl : p = p' := some.inj (hp.symm.trans hp')
    exact Space.not_inBounds_drop heq (h c y ((Arena.modify_of_ne _ _ hcb).trans hy) q hq)
  · intro h c y hy q hq
    obtain ⟨-, -, -, rfl⟩ | ⟨hcb, hy⟩ := Arena.of_modify hy
    · exact absurd hq (by simp [unmapped])
    · exact (hc c y hy q hq).drop (h p c y q hp hcb hy hq)

theorem memoryUnmap_eq (hb : m.store.cells b = some x) :
    memoryUnmap m b = .ok (m.put b (x.unmap m.space).1 (x.unmap m.space).2) := by
  rw [memoryUnmap, State.read, hb]
  rfl

theorem exact_unmap (hs : Sound m) (hc : Capacity m) (hb : m.store.cells b = some x) :
    Exact (memoryUnmap m b) (UnmapOk m b x) := by
  rw [memoryUnmap_eq hb]
  unfold unmap
  by_cases hm : x.mapped = true
  · rw [if_pos hm]
    refine .ok ?_ fun _ => hs.put hb rfl (plain_unmapped (hs.plain b x hb))
    simp only [unmapOwned]
    by_cases hown : (x.dmabufOwner && x.dmabufFd.isSome) = true
    · obtain ⟨p, hp⟩ := ne_none_iff_exists'.mp ((hs.plain b x hb).mapped hm)
      rw [if_pos hown, hp]
      rw [Bool.and_eq_true] at hown
      exact (capacity_drop hc hp).trans ⟨fun h _ _ _ => h, fun h => h hm hown.1 hown.2⟩
    · rw [if_neg hown, capacity_put hc hb (Space.Keeps.refl _)]
      refine iff_of_true (fun p hp => absurd hp (by simp [unmapped])) fun _ h1 h2 => ?_
      exact absurd (by simp [h1, h2]) hown
  · rw [if_neg hm, put_self hb]
    exact .same hs hc fun h => absurd h hm

def Reaches (s : Space) (x : Buffer) (offset size : UInt64) : Prop :=
  ∃ p, x.hostPtr = some p ∧ s.InBounds (p.add offset.toNat) size.toNat

/-- A range that the memory reaches and that passes the check lies inside the buffer:
no block is so large that the sum could wrap. -/
theorem Reaches.inRange (h : Reaches s x offset size) (hcheck : ¬ x.size < offset + size) :
    x.InRange offset size := by
  obtain ⟨p, -, hin⟩ := h
  have hlt := (Space.inBounds_add_iff.mp hin).lt_limit
  rcases (check_iff x offset size).mp hcheck with h | ⟨h, -⟩
  · exact h
  · unfold limit at hlt
    omega

theorem reaches_of_inRange (hf : Fits s x) (hp : x.hostPtr = some p)
    (h : x.InRange offset size) : Reaches s x offset size :=
  ⟨p, hp, Space.InBounds.add ((hf p hp).mono h)⟩

/-- Through a pointer that is there an access is right if its bounds check does not wrap. -/
theorem access_pointer_iff (hf : Fits s x) (hp : x.hostPtr = some p) :
    (Fits s x ∧ (¬ x.size < offset + size → Reaches s x offset size)) ↔
      (x.size < offset + size ∨ x.InRange offset size) := by
  constructor
  · intro h
    by_cases hcheck : x.size < offset + size
    · exact .inl hcheck
    · exact .inr ((h.2 hcheck).inRange hcheck)
  · intro h
    exact ⟨hf, fun hcheck => reaches_of_inRange hf hp (h.resolve_left hcheck)⟩

theorem size_le_of_check (h : ¬ x.size < 0 + size) : size.toNat ≤ x.size.toNat := by
  rw [UInt64.zero_add] at h
  exact UInt64.le_iff_toNat_le.mp (UInt64.not_lt.mp h)

/-- A block that was just mapped begins at the offset, to which the access adds it again. -/
theorem Buffer.Backed.reach_iff (hb : x.Backed s s' offset size p)
    (hcovered : x.Covered s offset size) (hcheck : ¬ x.size < offset + size) :
    s'.InBounds (p.add offset.toNat) size.toNat ↔ offset = 0 := by
  rw [Space.inBounds_add_iff, hb (offset.toNat + size.toNat)]
  constructor
  · intro h
    have := h.1
    exact UInt64.toNat_inj.mp (by rw [UInt64.toNat_zero]; omega)
  · rintro rfl
    have hle := size_le_of_check hcheck
    rw [UInt64.toNat_zero, Nat.zero_add]
    exact ⟨Nat.le_refl _, fun fd hfd => hle.trans (hcovered.2 fd hfd)⟩

theorem access_mapAt_iff (hb : x.Backed s s' offset size p) :
    (Fits s' (x.mapAt p) ∧ (¬ (x.mapAt p).size < offset + size → Reaches s' (x.mapAt p) offset size)) ↔
      x.Covered s offset size ∧ (x.size < offset + size ∨ offset = 0) := by
  have hreach : Reaches s' (x.mapAt p) offset size ↔ s'.InBounds (p.add offset.toNat) size.toNat :=
    ⟨fun ⟨q, hq, h⟩ => some.inj hq ▸ h, fun h => ⟨p, rfl, h⟩⟩
  rw [fits_mapAt hb, hreach]
  refine and_congr_right fun hcovered => ?_
  show (¬ x.size < offset + size → _) ↔ _
  by_cases hcheck : x.size < offset + size
  · simp [hcheck]
  · rw [hb.reach_iff hcovered hcheck]
    simp [hcheck]

variable (sys offset) in
/-- What a read or a write finds: an error and no change, or a structure and an
address space on which the condition decides. -/
theorem access_cases (hpl : x.Plain) (hf : Fits s x) (h0 : size ≠ 0) :
    (∃ e, e ≠ .success ∧ x.ensureMapped sys s offset size = (.error e, x, s) ∧
      AccessOk sys s x offset size) ∨
    ∃ x' s', x.ensureMapped sys s offset size = (.ok (), x', s') ∧ s.Keeps s' ∧
      x'.shape = x.shape ∧ x'.Plain ∧
      (Fits s' x' ∧ (¬ x'.size < offset + size → Reaches s' x' offset size) ↔
        AccessOk sys s x offset size) := by
  by_cases hptr : x.mapped = true ∨ x.hostPtr ≠ none
  · obtain ⟨p, hp⟩ := ne_none_iff_exists'.mp (hptr.elim hpl.mapped id)
    refine .inr ⟨x, s, ?_, Space.Keeps.refl s, rfl, hpl, ?_⟩
    · simp [ensureMapped, hp]
    · rw [AccessOk, if_pos hptr]
      exact access_pointer_iff hf hp
  · have hmapped : x.mapped = false := by simpa using fun h => hptr (.inl h)
    have hnone : x.hostPtr = none := by simpa using fun h => hptr (.inr h)
    have hens : x.ensureMapped sys s offset size =
        ((x.map sys s offset size).1.map fun _ => (), (x.map sys s offset size).2) := by
      simp [ensureMapped, hmapped, hnone]
    have hext : x.mapExtent size = size := if_neg h0
    rw [hens, AccessOk, if_neg hptr]
    obtain ⟨href, e, hne, he⟩ | ⟨hno, hre, he⟩ | ⟨hno, hre, p, s', he, hk, -, -, hbound⟩ :=
      map_cases sys s x offset size
    · exact .inl ⟨e, hne, by rw [he]; rfl, fun h => absurd href h⟩
    · refine .inr ⟨x, s, by rw [he]; rfl, Space.Keeps.refl s, rfl, hpl, ?_⟩
      constructor
      · intro h _
        refine ⟨fun h' => absurd h' hre, .inl ?_⟩
        by_contra hcheck
        obtain ⟨p, hp, -⟩ := h.2 hcheck
        rw [hnone] at hp
        cases hp
      · intro h
        refine ⟨hf, fun hcheck => ?_⟩
        rcases (h hno).2 with h | h
        · exact absurd h hcheck
        · exact absurd h.1 hre
    · refine .inr ⟨x.mapAt p, s', by rw [he]; rfl, hk, rfl, hpl.mapAt p, ?_⟩
      rw [hext] at hbound
      rw [access_mapAt_iff hbound]
      exact ⟨fun h _ => ⟨fun _ => h.1, h.2.imp_right fun h0 => ⟨hre, h0⟩⟩,
        fun h => ⟨(h hno).1 hre, (h hno).2.imp_right And.right⟩⟩

/-- An access that reached memory ends in a structure that differs in its
statistics only. -/
theorem exact_done {granted : Prop} [Decidable granted] {x' x'' : Buffer} {s'' : Space}
    (hs : Sound m) (hc : Capacity m) (hb : m.store.cells b = some x) (hk : m.space.Keeps s')
    (hshape : x'.shape = x.shape) (hcheck : ¬ x'.size < offset + size)
    (hreach : Reaches s' x' offset size) (hblocks : s''.blocks = s'.blocks)
    (hptr : x''.hostPtr = x'.hostPtr) (hshape' : x''.shape = x'.shape) (hpl : x''.Plain)
    (hg : granted) : Exact (accept granted (x.InRange offset size) (m.put b x'' s''))
      (Fits s' x' ∧ (¬ x'.size < offset + size → Reaches s' x' offset size)) := by
  have hsize : x'.size = x.size := congrArg (·.2.1) hshape
  have hsize' : x''.size = x'.size := congrArg (·.2.1) hshape'
  have hrange : x.InRange offset size := by
    have := hreach.inRange hcheck
    rwa [InRange, hsize] at this
  refine exact_accept hg ?_ fun _ => hs.put hb (hshape'.trans hshape) hpl
  rw [capacity_put hc hb (hk.trans (Space.keeps_of_blocks hblocks))]
  constructor
  · intro h
    exact ⟨(h.1.keeps (Space.keeps_of_blocks hblocks.symm)).congr hptr.symm hsize'.symm, fun _ => hreach⟩
  · intro h
    exact ⟨(h.1.keeps (Space.keeps_of_blocks hblocks)).congr hptr hsize', hrange⟩

/-- An access that is rejected, after the buffer may have been mapped for it. -/
theorem exact_rejected {x' : Buffer} (hs : Sound m) (hc : Capacity m)
    (hb : m.store.cells b = some x) (hk : m.space.Keeps s') (hshape : x'.shape = x.shape)
    (hpl : x'.Plain) (hcheck : x'.size < offset + size) : Exact (.ok (m.put b x' s'))
      (Fits s' x' ∧ (¬ x'.size < offset + size → Reaches s' x' offset size)) := by
  refine .ok ?_ fun _ => hs.put hb hshape hpl
  rw [capacity_put hc hb hk]
  exact ⟨fun h => ⟨h, fun h' => absurd hcheck h'⟩, fun h => h.1⟩

/-- What an access does once the buffer is mapped and the range is checked: it fails
where the range is not in memory, else it changes statistics and bytes only. -/
def Touches {ρ : Type} (good : ρ → Prop) (R : Except Fault (ρ × State)) (m : State) (b : Nat) (x : Buffer)
    (s : Space) (offset size : UInt64) : Prop :=
  (¬ Reaches s x offset size ∧ ∃ f, R = .error f) ∨
  (Reaches s x offset size ∧ ∃ v x' s', good v ∧ R = .ok (v, m.put b x' s') ∧ s'.blocks = s.blocks ∧
    x'.hostPtr = x.hostPtr ∧ x'.shape = x.shape ∧ (x.Plain → x'.Plain))

section
variable (hs : Sound m) (hc : Capacity m) (hb : m.store.cells b = some x)
include hs hc hb

/-- Reads and writes map the buffer, check the range and then touch the memory. -/
theorem exact_access {ρ : Type} {g : ρ → Prop} [DecidablePred g] {R : Except Fault (ρ × State)}
    (h0 : size ≠ 0)
    (hfail : ∀ e x' s', e ≠ .success → x.ensureMapped sys m.space offset size = (.error e, x', s') →
      ∃ v, ¬ g v ∧ R = .ok (v, m.put b x' s'))
    (hreject : ∀ x' s', x.ensureMapped sys m.space offset size = (.ok (), x', s') →
      x'.size < offset + size → ∃ v, ¬ g v ∧ R = .ok (v, m.put b x' s'))
    (htouch : ∀ x' s', x.ensureMapped sys m.space offset size = (.ok (), x', s') →
      ¬ x'.size < offset + size → Touches g R m b x' s' offset size) :
    Exact (R.bind fun r => accept (g r.1) (x.InRange offset size) r.2)
      (AccessOk sys m.space x offset size) := by
  obtain ⟨e, hne, he, hok⟩ | ⟨x', s', he, hk, hshape, hpl, hiff⟩ :=
    access_cases sys offset (hs.plain b x hb) (hc b x hb) h0
  · obtain ⟨v, hv, rfl⟩ := hfail e x m.space hne he
    simp only [Except.bind]
    rw [accept_not hv, put_self hb]
    exact .same hs hc hok
  · refine Exact.congr ?_ hiff
    by_cases hcheck : x'.size < offset + size
    · obtain ⟨v, hv, rfl⟩ := hreject x' s' he hcheck
      simp only [Except.bind]
      rw [accept_not hv]
      exact exact_rejected hs hc hb hk hshape hpl hcheck
    · obtain ⟨hno, f, rfl⟩ | ⟨hreach, v, x'', s'', hv, rfl, hblocks, hptr, hshape', hpl'⟩ :=
        htouch x' s' he hcheck
      · exact .fault fun h => hno (h.2 hcheck)
      · exact exact_done hs hc hb hk hshape hcheck hreach hblocks hptr hshape' (hpl' hpl) hv

theorem exact_write {data : Nat → UInt8} :
    Exact ((memoryWrite sys m b offset size data).bind fun r =>
        accept (r.1 = .success) (x.InRange offset size) r.2)
      (size ≠ 0 → AccessOk sys m.space x offset size) := by
  unfold memoryWrite
  by_cases h0 : size = 0
  · rw [if_pos h0]
    exact .same hs hc fun h => absurd h0 h
  rw [if_neg h0, read_of_live hb]
  refine (exact_access (g := fun e : Error => e = .success) hs hc hb h0 (fun e x' s' hne he => ?_)
    (fun x' s' he hcheck => ?_) fun x' s' he hcheck => ?_).congr ⟨fun h _ => h, fun h => h h0⟩
  · exact ⟨e, hne, by simp only [Except.bind, he]⟩
  · exact ⟨.invalidArgument, by simp, by simp only [Except.bind, he, if_pos hcheck]⟩
  · simp only [Except.bind, he, if_neg hcheck]
    cases hst : s'.store (x'.hostPtr.map (·.add offset.toNat)) size.toNat data with
    | error f =>
      refine .inl ⟨fun ⟨p, hp, hin⟩ => ?_, f, rfl⟩
      obtain ⟨s'', hs''⟩ := Space.store_of_inBounds hin data
      rw [hp, map_some, hs''] at hst
      cases hst
    | ok s'' =>
      obtain ⟨q, hq, hin⟩ := Space.inBounds_of_store hst
      obtain ⟨p, hp, rfl⟩ := map_eq_some_iff.mp hq
      exact .inr ⟨⟨p, hp, hin⟩, _, _, s'', rfl, rfl, Space.store_blocks hst, rfl, rfl,
        fun hpl => ⟨hpl.mapped, hpl.descriptor⟩⟩

theorem exact_read : Exact ((memoryRead sys m b offset size).bind fun r =>
        accept (r.1.isOk = true) (x.InRange offset size) r.2)
      (size ≠ 0 → AccessOk sys m.space x offset size) := by
  unfold memoryRead
  by_cases h0 : size = 0
  · rw [if_pos h0]
    exact .same hs hc fun h => absurd h0 h
  rw [if_neg h0, read_of_live hb]
  refine (exact_access (g := fun v : Except Error (Nat → UInt8) => v.isOk = true) hs hc hb h0
    (fun e x' s' hne he => ?_) (fun x' s' he hcheck => ?_) fun x' s' he hcheck => ?_).congr
    ⟨fun h _ => h, fun h => h h0⟩
  · exact ⟨.error e, by simp [Except.isOk, Except.toBool], by simp only [Except.bind, he]⟩
  · exact ⟨.error .invalidArgument, by simp [Except.isOk, Except.toBool],
      by simp only [Except.bind, he, if_pos hcheck]⟩
  · simp only [Except.bind, he, if_neg hcheck]
    cases hld : s'.load (x'.hostPtr.map (·.add offset.toNat)) size.toNat with
    | error f =>
      refine .inl ⟨fun ⟨p, hp, hin⟩ => ?_, f, rfl⟩
      obtain ⟨v, hv⟩ := Space.load_of_inBounds hin
      rw [hp, map_some, hv] at hld
      cases hld
    | ok v =>
      obtain ⟨q, hq, hin⟩ := Space.inBounds_of_load hld
      obtain ⟨p, hp, rfl⟩ := map_eq_some_iff.mp hq
      exact .inr ⟨⟨p, hp, hin⟩, .ok v, _, s', rfl, rfl, rfl, rfl, rfl,
        fun hpl => ⟨hpl.mapped, hpl.descriptor⟩⟩

end

end Mvgal.Memory
