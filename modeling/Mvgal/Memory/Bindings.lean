import Mvgal.Lib.Run
import Mvgal.Memory.Capacity
import Mvgal.Memory.Grants

/-! The bindings of a buffer are those it was given, over whole runs.

What each GPU was given is kept beside the memory state (`Bound.given`). In a state
that is `Registered`, every buffer stores it, and the searches over the first
`gpu_binding_count` places find exactly the bound GPUs. `bindings_iff` says which
steps keep that. -/
namespace Mvgal.Memory
open Function Option
open Blocks (Space)
open Function (update)

/-- The memory state, and what the GPUs were given of each buffer. -/
structure Bound where
  memory : State
  given : Nat → Grants

/-- Every buffer stores what was given, and a search finds it. -/
structure Registered (w : Bound) : Prop where
  stored : ∀ b x, w.memory.store.cells b = some x → x.Binds (w.given b)
  found : ∀ b x gpu, w.memory.store.cells b = some x → (x.findBinding gpu).map x.binding = w.given b gpu

/-- The other places of every buffer are as `calloc` left them. -/
def Tight (w : Bound) : Prop := ∀ b x, w.memory.store.cells b = some x → x.Slots

inductive BindCall where
  | allocate (sys : System) (mgr : GpuManager) (info : AllocInfo)
  | bindToGpu (b gpu : Nat) (writable : Bool)
  | dmabufBindToGpu (mgr : GpuManager) (b gpu : Nat)
  | setAccess (b gpu : Nat) (access : UInt32)
  | replicate (b : Nat) (gpus : List Nat)
  | createAlias (sys : System) (p : Nat) (offset size : UInt64) (flags : UInt32)

def Bound.create (w : Bound) (r : Except Error Nat × State) (M : Buffer → Grants) : Bound where
  memory := r.2
  given :=
    match r.1 with
    | .ok b => update w.given b ((r.2.store.cells b).elim (fun _ => none) M)
    | .error _ => w.given

def Bound.assign (w : Bound) (b : Nat) (x : Buffer) (M : Grants) : Bound where
  memory := w.memory.modify b fun _ => x
  given := update w.given b M

def bindCall (w : Bound) : BindCall → Option Bound
  | .allocate sys mgr info => some (w.create (memoryAllocate sys mgr w.memory info) (grantMask info))
  | .bindToGpu b gpu writable =>
    (w.memory.store.cells b).map fun x =>
      w.assign b (x.bindToGpu gpu w.memory.gpuCount writable).2
        (grantBind w.memory.gpuCount x.hostPtr gpu writable (w.given b))
  | .dmabufBindToGpu mgr b gpu =>
    (w.memory.store.cells b).map fun x =>
      w.assign b (x.dmabufBindToGpu gpu mgr).2 (grantDmabuf mgr x gpu (w.given b))
  | .setAccess b gpu access =>
    (w.memory.store.cells b).map fun x =>
      w.assign b (x.setAccess gpu w.memory.gpuCount access).2
        (grantAccess w.memory.gpuCount x.hostPtr gpu access (w.given b))
  | .replicate b gpus =>
    (w.memory.store.cells b).map fun x =>
      w.assign b (x.replicate w.memory.gpuCount gpus).2
        (grantReplicas w.memory.gpuCount x.hostPtr gpus (w.given b))
  | .createAlias sys p offset size flags =>
    match memoryCreateAlias sys w.memory p offset size flags with
    | .ok r => some (w.create r fun _ => grantAlias flags (w.given p))
    | .error _ => none

/-- The request is granted from DMA-BUF memory. -/
structure FromDmabuf (sys : System) (m : State) (info : AllocInfo) : Prop where
  size_ne : info.size ≠ 0
  calloc : sys.calloc = true
  requested : dmabufRequested info = true
  supported : dmabufIsSupported m info.gpuMask = true
  memory : (dmabufAllocate sys m (alignedSize info.size info.alignment)).isSome = true

/-- The mask of DMA-BUF memory has no gap, and `mvgal_memory_set_access` is asked for
an access it can express. -/
def BindOk (w : Bound) : BindCall → Prop
  | .allocate sys mgr info =>
    FromDmabuf sys (ensureInitialized sys mgr w.memory) info → MaskDense info.gpuMask
  | .setAccess b gpu access =>
    ∀ x, w.memory.store.cells b = some x → AccessFits x gpu w.memory.gpuCount access
  | _ => True

variable {w w' : Bound} {b : Nat} {x y : Buffer}

theorem registered_iff : Registered w ↔ ∀ b x, w.memory.store.cells b = some x → x.Binds (w.given b) :=
  ⟨Registered.stored, fun h => ⟨h, fun b x gpu hx => Roster.Holds.search_eq (h b x hx) gpu⟩⟩

/-- The step keeps what was given exactly when it is `ok`. -/
structure BindStep (w' : Bound) (ok : Prop) : Prop where
  exact : Registered w' ↔ ok
  tight : ok → Tight w'

theorem BindStep.congr {ok ok' : Prop} (h : BindStep w' ok) (hok : ok ↔ ok') : BindStep w' ok' :=
  ⟨h.exact.trans hok, fun h' => h.tight (hok.mpr h')⟩

/-- A step that writes the bindings of one structure only. -/
theorem bindStep_at {n : Nat} {ok : Prop} (h : Registered w) (ht : Tight w)
    (hcell : w'.memory.store.cells n = some y)
    (hrest : ∀ i z, i ≠ n → w'.memory.store.cells i = some z →
      ∃ x, w.memory.store.cells i = some x ∧ z.gpuBindings = x.gpuBindings ∧
        z.gpuBindingCount = x.gpuBindingCount) (hgiven : ∀ i, i ≠ n → w'.given i = w.given i)
    (hbinds : y.Binds (w'.given n) ↔ ok) (hslots : ok → y.Slots) : BindStep w' ok where
  exact := by
    rw [registered_iff, ← hbinds]
    constructor
    · intro hreg
      exact hreg n y hcell
    · intro hy i z hz
      by_cases hi : i = n
      · subst hi
        cases hcell.symm.trans hz
        exact hy
      · obtain ⟨x, hx, hb, hc⟩ := hrest i z hi hz
        rw [hgiven i hi]
        exact (h.stored i x hx).congr hb hc
  tight := by
    intro hok i z hz
    by_cases hi : i = n
    · subst hi
      cases hcell.symm.trans hz
      exact hslots hok
    · obtain ⟨x, hx, hb, hc⟩ := hrest i z hi hz
      exact (ht i x hx).congr hb hc

theorem bindStep_assign {ok : Prop} {M : Grants} (h : Registered w) (ht : Tight w)
    (hx : w.memory.store.cells b = some x) (hbinds : y.Binds M ↔ ok) (hslots : ok → y.Slots) :
    BindStep (w.assign b y M) ok := by
  have hcell (i : Nat) : (w.assign b y M).memory.store.cells i =
      if i = b then some y else w.memory.store.cells i := by
    show (w.memory.store.modify b fun _ => y).cells i = _
    rw [Arena.modify_cells, hx]
    rfl
  refine bindStep_at h ht (by rw [hcell, if_pos rfl]) (fun i z hi hz => ?_)
    (fun i hi => update_of_ne hi ..) ?_ hslots
  · rw [hcell, if_neg hi] at hz
    exact ⟨z, hz, rfl, rfl⟩
  · show y.Binds (update w.given b M b) ↔ ok
    rw [update_self]
    exact hbinds

theorem bindStep_kept {M : Grants} (h : Registered w) (ht : Tight w) (hx : w.memory.store.cells b = some x)
    (hkept : y.Binds M ∧ y.Slots) : BindStep (w.assign b y M) True :=
  bindStep_assign h ht hx ⟨fun _ => trivial, fun _ => hkept.1⟩ fun _ => hkept.2

variable {sys : System}

theorem allocGranted_branch {m : State} {info : AllocInfo} {s : Space}
    (h : AllocGranted sys m info x s) : FromDmabuf sys m info ∧ (∃ fd p, x = dmaBuffer info fd p) ∨
      ¬ FromDmabuf sys m info ∧ ∃ p, x = systemBuffer info p := by
  obtain ⟨h0, hc, hm⟩ := h
  unfold allocateMemory at hm
  by_cases hreq : (dmabufRequested info && dmabufIsSupported m info.gpuMask) = true
  · have hboth := Bool.and_eq_true_iff.mp hreq
    rw [if_pos hreq] at hm
    cases hdma : dmabufAllocate sys m (alignedSize info.size info.alignment) with
    | some r =>
      rw [hdma] at hm
      cases hm
      exact .inl ⟨⟨h0, hc, hboth.1, hboth.2, by rw [hdma]; rfl⟩, _, _, rfl⟩
    | none =>
      rw [hdma] at hm
      obtain ⟨r, -, hr⟩ := map_eq_some_iff.mp hm
      cases hr
      exact .inr ⟨fun hd => absurd hd.memory (by simp [hdma]), _, rfl⟩
  · rw [if_neg hreq] at hm
    obtain ⟨r, -, hr⟩ := map_eq_some_iff.mp hm
    cases hr
    exact .inr ⟨fun hd => hreq (Bool.and_eq_true_iff.mpr ⟨hd.requested, hd.supported⟩), _, rfl⟩

theorem not_fromDmabuf {m : State} {info : AllocInfo}
    (h : ∀ x s, ¬ AllocGranted sys m info x s) : ¬ FromDmabuf sys m info := by
  intro hd
  obtain ⟨r, hr⟩ := isSome_iff_exists.mp hd.memory
  apply h (dmaBuffer info r.1 r.2.1) r.2.2
  refine ⟨hd.size_ne, hd.calloc, ?_⟩
  unfold allocateMemory
  rw [if_pos (Bool.and_eq_true_iff.mpr ⟨hd.requested, hd.supported⟩), hr]

theorem bindStep_allocate (h : Registered w) (ht : Tight w) (sys : System) (mgr : GpuManager)
    (info : AllocInfo) : BindStep (w.create (memoryAllocate sys mgr w.memory info) (grantMask info))
      (BindOk w (.allocate sys mgr info)) := by
  obtain ⟨hno, e, he⟩ | ⟨y, s, hyes, he⟩ := memoryAllocate_cases sys mgr w.memory info
  · rw [he]
    have hok : BindOk w (.allocate sys mgr info) := fun hd => absurd hd (not_fromDmabuf hno)
    have hstore : (ensureInitialized sys mgr w.memory).store = w.memory.store := ensureInitialized_store
    refine ⟨⟨fun _ => hok, fun _ => registered_iff.mpr fun i z hz => ?_⟩, fun _ i z hz => ?_⟩
    · exact h.stored i z (hstore ▸ hz)
    · exact ht i z (hstore ▸ hz)
  · rw [he]
    have hcell (i : Nat) : ((ensureInitialized sys mgr w.memory).store.push y).cells i =
        if i = w.memory.store.next then some y else w.memory.store.cells i := by
      rw [ensureInitialized_store, Arena.push_cells]
    refine bindStep_at h ht ((hcell _).trans (if_pos rfl)) (fun i z hi hz => ?_)
      (fun i hi => ?_) ?_ ?_
    · exact ⟨z, ((hcell i).trans (if_neg hi)).symm.trans hz, rfl, rfl⟩
    · show update w.given (ensureInitialized sys mgr w.memory).store.next _ i = _
      rw [ensureInitialized_store, update_of_ne hi]
    · show y.Binds (update w.given (ensureInitialized sys mgr w.memory).store.next
        ((((ensureInitialized sys mgr w.memory).store.push y).cells _).elim _ _) w.memory.store.next) ↔ _
      rw [Arena.push_self, ensureInitialized_store, update_self]
      obtain ⟨hd, fd, p, rfl⟩ | ⟨hd, p, rfl⟩ := allocGranted_branch hyes
      · exact (binds_dmaBuffer_iff info fd p).trans ⟨fun hm _ => hm, fun hm => hm hd⟩
      · exact ⟨fun _ hd' => absurd hd' hd, fun _ => (binds_systemBuffer info p).1⟩
    · intro hok
      obtain ⟨hd, fd, p, rfl⟩ | ⟨hd, p, rfl⟩ := allocGranted_branch hyes
      · exact slots_dmaBuffer info fd p (hok hd)
      · exact (binds_systemBuffer info p).2

theorem bindStep_createAlias {p : Nat} {offset size : UInt64} {flags : UInt32}
    {r : Except Error Nat × State} (h : Registered w) (ht : Tight w)
    (hrun : memoryCreateAlias sys w.memory p offset size flags = .ok r) :
    BindStep (w.create r fun _ => grantAlias flags (w.given p)) True := by
  obtain ⟨x, hx, -⟩ := bind_eq_ok hrun
  rw [read_ok_iff] at hx
  obtain ⟨-, e, he⟩ | ⟨-, he⟩ := memoryCreateAlias_cases sys hx offset size flags
  · cases he.symm.trans hrun
    exact ⟨⟨fun _ => trivial, fun _ => registered_iff.mpr h.stored⟩, fun _ => ht⟩
  · cases he.symm.trans hrun
    have hself := addAlias_next hx ((x.alias p offset (aliasExtent x offset size)).restrict flags)
    obtain ⟨hbinds, hslots⟩ := binds_alias (h.stored p x hx) (ht p x hx) p offset
      (aliasExtent x offset size) flags
    refine bindStep_at h ht hself (fun i z hi hz => ?_)
      (fun i hi => update_of_ne hi ..) ?_ fun _ => hslots
    · obtain ⟨hn, -⟩ | ⟨hi, rfl⟩ | hz := of_addAlias hx hz
      · exact absurd hn hi
      · exact ⟨x, hi, rfl, rfl⟩
      · exact ⟨z, hz, rfl, rfl⟩
    · show Buffer.Binds _ (update w.given w.memory.store.next
        (((w.memory.addAlias p _).store.cells w.memory.store.next).elim _ _) w.memory.store.next) ↔ True
      rw [hself, update_self]
      exact ⟨fun _ => trivial, fun _ => hbinds⟩

theorem bindCall_step {a : BindCall} (h : Registered w) (ht : Tight w) (hrun : bindCall w a = some w') :
    BindStep w' (BindOk w a) := by
  cases a with
  | allocate sys mgr info =>
    cases hrun
    exact bindStep_allocate h ht sys mgr info
  | bindToGpu b gpu writable =>
    obtain ⟨x, hx, rfl⟩ := map_eq_some_iff.mp hrun
    exact bindStep_kept h ht hx (binds_bindToGpu (h.stored b x hx) (ht b x hx) gpu _ _)
  | dmabufBindToGpu mgr b gpu =>
    obtain ⟨x, hx, rfl⟩ := map_eq_some_iff.mp hrun
    exact bindStep_kept h ht hx (binds_dmabufBindToGpu (h.stored b x hx) (ht b x hx) gpu mgr)
  | setAccess b gpu access =>
    obtain ⟨x, hx, rfl⟩ := map_eq_some_iff.mp hrun
    have hslots := binds_setAccess (h.stored b x hx) (ht b x hx) gpu w.memory.gpuCount access
    have hexact := setAccess_exact (h.stored b x hx) (ht b x hx) gpu w.memory.gpuCount access
    refine (bindStep_assign h ht hx hexact fun _ => hslots.2).congr ⟨fun hfit y hy => ?_, fun hok => hok x hx⟩
    cases hx.symm.trans hy
    exact hfit
  | replicate b gpus =>
    obtain ⟨x, hx, rfl⟩ := map_eq_some_iff.mp hrun
    exact bindStep_kept h ht hx (binds_replicate _ gpus (h.stored b x hx) (ht b x hx))
  | createAlias sys p offset size flags =>
    simp only [bindCall] at hrun
    split at hrun
    · next r hr =>
      cases hrun
      exact bindStep_createAlias h ht hr
    · cases hrun

def Bound.zero : Bound := ⟨State.zero, fun _ _ => none⟩

/-- **Bindings.** Along a run, every buffer stores for each GPU what it was given
last, and the searches find it, exactly when no DMA-BUF memory has a mask with a gap
and every change of access is one that can be expressed. -/
theorem bindings_iff (calls : List BindCall) :
    Run.Along bindCall Registered Bound.zero calls ↔ Run.Admitted bindCall BindOk Bound.zero calls := by
  have hzero (b : Nat) : Bound.zero.memory.store.cells b = none := rfl
  refine Run.along_iff_admitted (fun w a w' ht h hrun => (bindCall_step h ht hrun).exact)
    (fun w a w' ht h hrun => (bindCall_step h ht hrun).tight) (fun b x hx => ?_)
    (registered_iff.mpr fun b x hx => ?_) calls
  · cases (hzero b).symm.trans hx
  · cases (hzero b).symm.trans hx

def dmaGpus : GpuManager := ⟨2, two_le_maxGpus, fun _ => featureDmaBuf, fun _ => true⟩

/-- Memory for GPU 1 alone: its binding is at place 1 and the count is 1, so the search
for it fails, and the search for GPU 0 finds a binding that no one made. -/
theorem mask_gap_hides_binding : ¬ Run.Along bindCall Registered Bound.zero
      [.allocate willing dmaGpus ⟨64, 0, flagDmaBuf, .dmaBuf, accessReadWrite, 2⟩] := by
  intro h
  have hrun : ∃ w x, Run.run bindCall Bound.zero
      [.allocate willing dmaGpus ⟨64, 0, flagDmaBuf, .dmaBuf, accessReadWrite, 2⟩] = some w ∧
        w.memory.store.cells 0 = some x ∧ x.findBinding 1 = none ∧ x.findBinding 0 = some 0 ∧
        w.given 0 1 = some ⟨1, none, some ⟨0, 0⟩, true, true⟩ :=
    ⟨_, _, rfl, rfl, by decide, by decide, rfl⟩
  obtain ⟨w, x, hw, hx, hnone, -, hgiven⟩ := hrun
  have hfound := (h.final hw).found 0 x 1 hx
  rw [hnone, hgiven] at hfound
  cases hfound

end Mvgal.Memory
