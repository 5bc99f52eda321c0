import Mvgal.Lib.Forest
import Mvgal.Memory.Allocate

/-! Reference counts, destruction and aliases: `mvgal_buffer_release`,
`mvgal_buffer_free_internal`, `mvgal_memory_create_alias`,
`mvgal_memory_alias_detach`, and `mvgal_memory_import_dmabuf`, whose error path
destroys a buffer.

A structure that is read after it was freed, and memory that is freed twice or
from its middle, are faults. Destroying an alias releases its parent, which may
destroy the parent in turn; `fuel` bounds that recursion. -/
namespace Mvgal.Memory
open Blocks (Ptr Space Fault limit)

def State.read (m : State) (b : Nat) : Except Fault Buffer :=
  match m.store.cells b with
  | none => .error .useAfterFree
  | some x => .ok x

/-- The parent of an alias that is still attached: `is_alias`, not `alias_detached`,
and `alias_parent` not null. -/
def Buffer.parent? (x : Buffer) : Option Nat :=
  if x.isAlias && !x.aliasDetached then x.aliasParent else none

def Buffer.node (x : Buffer) : Node := ⟨x.refcount.toNat, x.aliases, x.parent?⟩

def State.nodes (m : State) (i : Nat) : Option Node := (m.store.cells i).map Buffer.node

/-- What the destruction of a parent writes into each of its aliases. -/
def Buffer.orphan (x : Buffer) : Buffer :=
  {x with aliasParent := none, aliasDetached := true, isAlias := false, shouldFree := true}

def Buffer.removeAlias (x : Buffer) (a : Nat) : Buffer := {x with aliases := swapRemove x.aliases a}

def Buffer.decref (x : Buffer) : Buffer := {x with refcount := x.refcount - 1}

/-- Register an alias: it goes to the end of the list and holds a reference. -/
def Buffer.addAlias (x : Buffer) (a : Nat) : Buffer :=
  {x with aliases := x.aliases ++ [a], refcount := x.refcount + 1}

/-- The loop over the aliases of a buffer that is destroyed. -/
def orphanAll (m : State) : List Nat → Except Fault State
  | [] => .ok m
  | a :: rest => (m.read a).bind fun _ => orphanAll (m.modify a Buffer.orphan) rest

/-- `mvgal_dmabuf_free` of memory the buffer owns. -/
def Buffer.unmapOwned (x : Buffer) (s : Space) : Space :=
  if x.dmabufOwner && x.dmabufFd.isSome then
    match x.hostPtr with
    | some p => s.drop p
    | none => s
  else s

/-- `free` of memory the buffer owns. -/
def Buffer.freeOwned (x : Buffer) (s : Space) : Except Fault Space :=
  if x.shouldFree then
    match x.originalPtr with
    | some p => s.free p
    | none => .ok s
  else .ok s

/-- Take a structure out of the global list by its own pointers, count its size
as freed, and free it. -/
def State.discard (m : State) (b : Nat) (size : UInt64) : State :=
  {m with
    buffers := if m.links.prev b = none then m.links.next b else m.buffers
    links := Chain.bypass m.links b
    totalFreed := m.totalFreed + size
    store := m.store.erase b}

/-- `mvgal_buffer_release`, given how a buffer is destroyed. -/
def releaseWith (destroy : State → Nat → Except Fault State) (m : State) (b : Nat) :
    Except Fault State :=
  (m.read b).bind fun x =>
    let m := m.modify b Buffer.decref
    if x.refcount = 1 then destroy m b else .ok m

/-- Take an alias off its parent's list and drop the reference it holds. -/
def releaseParent (destroy : State → Nat → Except Fault State) (m : State) (b : Nat)
    (parent : Option Nat) : Except Fault State :=
  match parent with
  | none => .ok m
  | some p => releaseWith destroy (m.modify p (·.removeAlias b)) p

def Buffer.clearAliases (x : Buffer) : Buffer := {x with aliases := []}

def freeInternal : Nat → State → Nat → Except Fault State
  | 0, _, _ => .error .endlessRecursion
  | fuel + 1, m, b =>
    (m.read b).bind fun x =>
    (orphanAll m x.aliases).bind fun m =>
    (releaseParent (freeInternal fuel) (m.modify b Buffer.clearAliases) b x.parent?).bind fun m =>
    (x.freeOwned (x.unmapOwned m.space)).map fun s => {m with space := s}.discard b x.size

/-- `mvgal_buffer_release`. A chain of parents is shorter than the number of
structures ever created. -/
def bufferRelease (m : State) (b : Nat) : Except Fault State :=
  releaseWith (freeInternal m.store.next) m b

def memoryFree (m : State) (b : Nat) : Except Fault State := bufferRelease m b

/-- The structure of a new alias of `x`, before its access is restricted. -/
def Buffer.alias (x : Buffer) (parent : Nat) (offset size : UInt64) : Buffer :=
  {Buffer.blank with
    size := size
    flags := x.flags
    access := x.access
    gpuMask := x.gpuMask
    backend := x.backend
    hostPtr := x.hostPtr.map (·.add offset.toNat)
    dmabufFd := x.dmabufFd
    mapped := x.mapped
    exported := x.exported
    originalPtr := x.hostPtr.map (·.add offset.toNat)
    aliasParent := some parent
    aliasSize := size
    isAlias := true
    gpuBindings := Vector.ofFn fun i : Fin maxGpus =>
      if i.val < x.gpuBindingCount then x.gpuBindings[i] else .zero
    gpuBindingCount := x.gpuBindingCount}

/-- The restrictions of a read-only and of a write-only alias. -/
def Buffer.restrict (x : Buffer) (flags : UInt32) : Buffer :=
  let x :=
    if hasAny flags aliasReadOnly then
      {x with
        gpuBindings := Vector.ofFn fun i : Fin maxGpus =>
          if i.val < x.gpuBindingCount then {x.gpuBindings[i] with writable := false}
          else x.gpuBindings[i]
        access := x.access &&& ~~~accessWrite}
    else x
  if hasAny flags aliasWriteOnly then {x with access := x.access &&& ~~~accessRead} else x

theorem restrict_eq (x : Buffer) (flags : UInt32) :
    ∃ v a, x.restrict flags = {x with gpuBindings := v, access := a} := by
  unfold Buffer.restrict
  split <;> split <;> exact ⟨_, _, rfl⟩

/-- The size an alias gets: a size of 0 asks for the rest of the parent. -/
def aliasExtent (x : Buffer) (offset size : UInt64) : UInt64 :=
  if size = 0 then x.size - offset else size

def memoryCreateAlias (sys : System) (m : State) (p : Nat) (offset size : UInt64) (flags : UInt32) :
    Except Fault (Except Error Nat × State) :=
  (m.read p).bind fun x =>
  let size := aliasExtent x offset size
  if x.size ≤ offset then .ok (.error .invalidArgument, m)
  else if x.size < offset + size then .ok (.error .invalidArgument, m)
  else if maxAliases ≤ x.aliases.length then .ok (.error .memory, m)
  else if !sys.calloc then .ok (.error .outOfMemory, m)
  else
    let a := m.store.next
    let m := m.newBuffer ((x.alias p offset size).restrict flags)
    let m := m.modify p (·.addAlias a)
    .ok (.ok a, m.insert a)

/-- What detaching writes into the alias, given its private copy. -/
def Buffer.detach (x : Buffer) (p : Ptr) : Buffer :=
  {x with
    aliasParent := none
    aliasDetached := true
    isAlias := false
    hostPtr := some p
    originalPtr := some p
    shouldFree := true
    aliasSize := 0}

/-- The private copy is read from the start of the parent's memory, if that is mapped. -/
def privateCopy (s : Space) (dst : Ptr) (src : Option Ptr) (n : Nat) : Except Fault Space :=
  match src with
  | none => .ok s
  | some p => s.copy (some dst) (some p) n

def memoryAliasDetach (sys : System) (m : State) (b : Nat) : Except Fault (Error × State) :=
  (m.read b).bind fun x =>
  match x.parent? with
  | none => .ok (.invalidArgument, m)
  | some p =>
    match malloc sys m.space x.aliasSize sys.garbage with
    | none => .ok (.outOfMemory, m)
    | some (q, s) =>
      (m.read p).bind fun y =>
      (privateCopy s q y.hostPtr x.aliasSize.toNat).bind fun s =>
      (bufferRelease ({m with space := s}.modify p (·.removeAlias b)) p).map fun m =>
        (.success, m.modify b (·.detach q))

/-! ### What creating an alias can do -/

/-- The state with a new alias `x` of `p`. -/
def State.addAlias (m : State) (p : Nat) (x : Buffer) : State :=
  ((m.newBuffer x).modify p (·.addAlias m.store.next)).insert m.store.next

/-- `mvgal_memory_create_alias` passes its checks. -/
structure AliasAccepted (sys : System) (x : Buffer) (offset size : UInt64) : Prop where
  offset_lt : offset < x.size
  end_le : offset + aliasExtent x offset size ≤ x.size
  room : x.aliases.length < maxAliases
  calloc : sys.calloc = true

variable {x : Buffer}

theorem memoryCreateAlias_cases (sys : System) {m : State} {p : Nat}
    (hx : m.store.cells p = some x) (offset size : UInt64) (flags : UInt32) :
    (¬ AliasAccepted sys x offset size ∧
      ∃ e, memoryCreateAlias sys m p offset size flags = .ok (.error e, m)) ∨
    (AliasAccepted sys x offset size ∧
      memoryCreateAlias sys m p offset size flags = .ok (.ok m.store.next,
        m.addAlias p ((x.alias p offset (aliasExtent x offset size)).restrict flags))) := by
  have hread : m.read p = .ok x := by rw [State.read, hx]
  unfold memoryCreateAlias
  rw [hread]
  simp only [Except.bind]
  by_cases h1 : x.size ≤ offset
  · rw [if_pos h1]
    exact .inl ⟨fun h => absurd h.offset_lt (UInt64.not_lt.mpr h1), _, rfl⟩
  rw [if_neg h1]
  by_cases h2 : x.size < offset + aliasExtent x offset size
  · rw [if_pos h2]
    exact .inl ⟨fun h => absurd h.end_le (UInt64.not_le.mpr h2), _, rfl⟩
  rw [if_neg h2]
  by_cases h3 : maxAliases ≤ x.aliases.length
  · rw [if_pos h3]
    exact .inl ⟨fun h => absurd h.room (Nat.not_lt.mpr h3), _, rfl⟩
  rw [if_neg h3]
  cases h4 : sys.calloc with
  | false => exact .inl ⟨fun h => absurd h.calloc (by simp [h4]), _, rfl⟩
  | true =>
    exact .inr ⟨⟨UInt64.not_le.mp h1, UInt64.not_lt.mp h2, Nat.not_le.mp h3, h4⟩, rfl⟩

/-- The request that an import makes for a file of this size. -/
def importInfo (size : UInt64) : AllocInfo where
  size := size
  alignment := 0
  flags := flagDmaBuf
  sharingMode := .dmaBuf
  access := accessReadWrite
  gpuMask := 0xFFFFFFFF

/-- The structure becomes one of an imported descriptor. -/
def Buffer.imported (x : Buffer) (fd : Nat) : Buffer :=
  {x with dmabufFd := some fd, dmabufOwner := false, backend := .dmaBufImported}

def Buffer.importedAt (x : Buffer) (p : Ptr) : Buffer :=
  {x with hostPtr := some p, originalPtr := some p, mapped := true}

def State.insertCounted (m : State) (b : Nat) (size : UInt64) : State :=
  {m.insert b with totalAllocated := m.totalAllocated + size}

/-- `mvgal_dmabuf_import`. The memory the allocation finds is replaced by a
mapping of the descriptor. -/
def dmabufImport (sys : System) (m : State) (fd : Nat) (size : UInt64) :
    Except Fault (Except Error Nat × State) :=
  match allocateInternal sys m (importInfo size) with
  | (.error e, m) => .ok (.error e, m)
  | (.ok b, m) =>
    let m := m.modify b (·.imported fd)
    match mmap sys m.space fd size 0 with
    | none => (freeInternal m.store.next m b).map fun m => (.error .memory, m)
    | some (p, s) =>
      .ok (.ok b, ({m with space := s}.modify b (·.importedAt p)).insertCounted b size)

/-- `mvgal_memory_import_dmabuf`. It inserts the buffer that `mvgal_dmabuf_import`
has inserted already, and counts its size again. A descriptor that is not open
fails in `fstat`. -/
def memoryImportDmabuf (sys : System) (m : State) (fd : Option Nat) :
    Except Fault (Except Error Nat × State) :=
  match fd.bind fun fd => (m.space.objects.cells fd).map fun o => (fd, o.length) with
  | none => .ok (.error .invalidArgument, m)
  | some (fd, length) =>
    (dmabufImport sys m fd (UInt64.ofNat length)).map fun
      | (.error e, m) => (.error e, m)
      | (.ok b, m) =>
        (.ok b, m.insertCounted b (UInt64.ofNat length))

/-! ### What a release can do -/

variable {m m' : State} {b : Nat}

theorem read_ok_iff : m.read b = .ok x ↔ m.store.cells b = some x := by
  unfold State.read
  cases m.store.cells b with
  | none => simp
  | some y => simp

theorem read_of_live (h : m.store.cells b = some x) : m.read b = .ok x :=
  read_ok_iff.mpr h

theorem toOption_eq_some {ε α : Type} {r : Except ε α} {a : α} (h : r.toOption = some a) : r = .ok a := by
  cases r with
  | error e => exact absurd h (by simp [Except.toOption])
  | ok x => exact congrArg Except.ok (Option.some.inj h)

theorem bind_eq_ok {ε α β : Type} {r : Except ε α} {f : α → Except ε β} {y : β}
    (h : r.bind f = .ok y) : ∃ x, r = .ok x ∧ f x = .ok y := by
  cases r with
  | error e => exact absurd h (by simp [Except.bind])
  | ok x => exact ⟨x, rfl, h⟩

theorem map_eq_ok {ε α β : Type} {r : Except ε α} {f : α → β} {y : β} (h : r.map f = .ok y) :
    ∃ x, r = .ok x ∧ f x = y := by
  cases r with
  | error e => exact absurd h (by simp [Except.map])
  | ok x => exact ⟨x, rfl, Except.ok.inj h⟩

/-- A release drops a reference, and destroys the buffer with the last one. -/
theorem releaseWith_cases {destroy : State → Nat → Except Fault State}
    (h : releaseWith destroy m b = .ok m') : ∃ x, m.store.cells b = some x ∧
      (x.refcount = 1 ∧ destroy (m.modify b Buffer.decref) b = .ok m' ∨
        x.refcount ≠ 1 ∧ m' = m.modify b Buffer.decref) := by
  obtain ⟨x, hx, h⟩ := bind_eq_ok h
  refine ⟨x, read_ok_iff.mp hx, ?_⟩
  by_cases h1 : x.refcount = 1
  · simp only [h1, if_true] at h
    exact .inl ⟨h1, h⟩
  · simp only [h1, if_false] at h
    exact .inr ⟨h1, (Except.ok.inj h).symm⟩

theorem freeInternal_cases {fuel : Nat} (h : freeInternal fuel m b = .ok m') :
    ∃ k x m₁ m₂ s, fuel = k + 1 ∧ m.store.cells b = some x ∧ orphanAll m x.aliases = .ok m₁ ∧
      releaseParent (freeInternal k) (m₁.modify b Buffer.clearAliases) b x.parent? = .ok m₂ ∧
      x.freeOwned (x.unmapOwned m₂.space) = .ok s ∧ m' = {m₂ with space := s}.discard b x.size := by
  cases fuel with
  | zero => exact absurd h (by simp [freeInternal])
  | succ k =>
    obtain ⟨x, hx, h⟩ := bind_eq_ok h
    obtain ⟨m₁, h₁, h⟩ := bind_eq_ok h
    obtain ⟨m₂, h₂, h⟩ := bind_eq_ok h
    obtain ⟨s, hs, rfl⟩ := map_eq_ok h
    exact ⟨k, x, m₁, m₂, s, rfl, read_ok_iff.mp hx, h₁, h₂, hs, rfl⟩

theorem freeInternal_root {k : Nat} (hx : m.store.cells b = some x) (hal : x.aliases = [])
    (hpar : x.parent? = none) :
    freeInternal (k + 1) m b = (x.freeOwned (x.unmapOwned m.space)).map fun s =>
      {m.modify b Buffer.clearAliases with space := s}.discard b x.size := by
  rw [freeInternal, read_of_live hx]
  simp only [Except.bind, hal, orphanAll, hpar, releaseParent]
  rfl

/-- The destruction of an alias without aliases of its own. -/
theorem freeInternal_alias {k q : Nat} (hx : m.store.cells b = some x) (hal : x.aliases = [])
    (hpar : x.parent? = some q) : freeInternal (k + 1) m b =
      (releaseWith (freeInternal k) ((m.modify b Buffer.clearAliases).modify q (·.removeAlias b)) q).bind
        fun m => (x.freeOwned (x.unmapOwned m.space)).map fun s =>
          {m with space := s}.discard b x.size := by
  rw [freeInternal, read_of_live hx]
  simp only [Except.bind, hal, orphanAll, hpar, releaseParent]

variable {sys : System}

/-- Detaching changes nothing, or makes the private copy, releases the parent without
the alias on its list and then makes the alias a buffer of its own. -/
theorem memoryAliasDetach_inv {e : Error} (h : memoryAliasDetach sys m b = .ok (e, m')) :
    e ≠ .success ∧ m' = m ∨ e = .success ∧ ∃ x p q y s s' m₁, m.store.cells b = some x ∧
      x.parent? = some p ∧ malloc sys m.space x.aliasSize sys.garbage = some (q, s) ∧
      m.store.cells p = some y ∧ privateCopy s q y.hostPtr x.aliasSize.toNat = .ok s' ∧
      bufferRelease ({m with space := s'}.modify p (·.removeAlias b)) p = .ok m₁ ∧
      m' = m₁.modify b (·.detach q) := by
  obtain ⟨x, hx, h⟩ := bind_eq_ok h
  cases hp : x.parent? with
  | none =>
    simp only [hp] at h
    cases h
    exact .inl ⟨by decide, rfl⟩
  | some p =>
    simp only [hp] at h
    cases hm : malloc sys m.space x.aliasSize sys.garbage with
    | none =>
      simp only [hm] at h
      cases h
      exact .inl ⟨by decide, rfl⟩
    | some r =>
      obtain ⟨q, s⟩ := r
      simp only [hm] at h
      obtain ⟨y, hy, h⟩ := bind_eq_ok h
      obtain ⟨s', hs', h⟩ := bind_eq_ok h
      obtain ⟨m₁, h₁, h⟩ := map_eq_ok h
      cases h
      exact .inr ⟨rfl, x, p, q, y, s, s', m₁, read_ok_iff.mp hx, hp, hm, read_ok_iff.mp hy, hs', h₁, rfl⟩

/-! ### What an import can do -/

/-- The descriptor is open on a file of this size, and memory for a buffer of that
size is found. -/
def ImportStarts (sys : System) (m : State) (fd : Option Nat) (size : UInt64) : Prop :=
  (∃ i o, fd = some i ∧ m.space.objects.cells i = some o ∧ size = UInt64.ofNat o.length) ∧
    ∃ x s, AllocGranted sys m (importInfo size) x s

/-- After a failed mapping: the structure was never in the list, and being taken out of
it empties it. -/
structure ImportFailed (m m' : State) (size : UInt64) : Prop where
  buffers : m'.buffers = none
  initialized : m'.initialized = m.initialized
  cells : m'.store.cells = m.store.cells
  totalAllocated : m'.totalAllocated = m.totalAllocated
  totalFreed : m'.totalFreed = m.totalFreed + size

/-- After a successful import: the structure was inserted twice and counted twice. -/
structure ImportDone (m m' : State) (size : UInt64) : Prop where
  store : ∃ x, x.size = size ∧ m'.store = m.store.push x
  buffers : m'.buffers = some m.store.next
  prev : m'.links.prev m.store.next = some m.store.next
  totalAllocated : m'.totalAllocated = m.totalAllocated + size + size
  totalFreed : m'.totalFreed = m.totalFreed

theorem node_of_granted {info : AllocInfo} {s : Space}
    (h : AllocGranted sys m info x s) : x.node = ⟨1, [], none⟩ ∧ x.size = info.size := by
  obtain ⟨kind, byte, hn, -, ⟨-, -, -, rfl⟩ | ⟨-, rfl⟩⟩ := allocateMemory_cases h.2.2
  · exact ⟨rfl, rfl⟩
  · exact ⟨rfl, rfl⟩

theorem newBuffer_modify (m : State) (x : Buffer) (f : Buffer → Buffer) :
    (m.newBuffer x).modify m.store.next f = m.newBuffer (f x) := by
  unfold State.newBuffer State.modify
  simp only [Arena.push_modify]

/-- The destruction of a structure that is in no list. -/
theorem importFailed_of_free {s : Space} {y : Buffer} (hnode : y.node = ⟨1, [], none⟩)
    (h : freeInternal (m.store.next + 1) ({m with space := s}.newBuffer y) m.store.next = .ok m') :
    ImportFailed m m' y.size := by
  have hy : ({m with space := s}.newBuffer y).store.cells m.store.next = some y := Arena.push_self ..
  have hal : y.aliases = [] := congrArg Node.children hnode
  have hpar : y.parent? = none := congrArg Node.parent hnode
  rw [freeInternal_root hy hal hpar] at h
  obtain ⟨s', -, rfl⟩ := map_eq_ok h
  rw [newBuffer_modify {m with space := s} y Buffer.clearAliases]
  refine ⟨?_, rfl, Arena.push_erase_cells .., rfl, rfl⟩
  simp [State.discard, State.newBuffer]

theorem dmabufImport_cases {fd : Nat} {size : UInt64} {r : Except Error Nat}
    (hsize : size.toNat < limit) (h : dmabufImport sys m fd size = .ok (r, m')) :
    (∃ e, r = .error e) ∧ m' = m ∧ (∀ x s, ¬ AllocGranted sys m (importInfo size) x s) ∨
    (∃ x s, AllocGranted sys m (importInfo size) x s) ∧
      ((∃ e, r = .error e) ∧ sys.mmap = false ∧ ImportFailed m m' size ∨
        r = .ok m.store.next ∧ sys.mmap = true ∧ ∃ y s, y.size = size ∧
          m' = ({m with space := s}.newBuffer y).insertCounted m.store.next size) := by
  unfold dmabufImport at h
  obtain ⟨hno, e, he⟩ | ⟨x, s, hyes, he⟩ := allocateInternal_cases sys m (importInfo size)
  · rw [he] at h
    cases h
    exact .inl ⟨⟨e, rfl⟩, rfl, hno⟩
  · rw [he] at h
    obtain ⟨hnode, hxs⟩ := node_of_granted hyes
    refine .inr ⟨⟨x, s, hyes⟩, ?_⟩
    simp only [newBuffer_modify {m with space := s} x (·.imported fd)] at h
    cases hmm : sys.mmap with
    | false =>
      have hnone : mmap sys ({m with space := s}.newBuffer (x.imported fd)).space fd size 0 = none :=
        dif_neg (by simp [hmm])
      simp only [hnone] at h
      obtain ⟨m₁, h₁, h₂⟩ := map_eq_ok h
      cases h₂
      have hy : (x.imported fd).size = size := hxs
      exact .inl ⟨⟨_, rfl⟩, rfl, hy ▸ importFailed_of_free hnode h₁⟩
    | true =>
      have hmap : ∃ r, mmap sys ({m with space := s}.newBuffer (x.imported fd)).space fd size 0 =
          some r := ⟨s.map fd 0 size.toNat hsize, dif_pos ⟨hmm, hyes.1, hsize⟩⟩
      obtain ⟨⟨p, s₂⟩, hsome⟩ := hmap
      simp only [hsome] at h
      cases h
      refine .inr ⟨rfl, rfl, (x.imported fd).importedAt p, s₂, hxs, ?_⟩
      exact congrArg (State.insertCounted · m.store.next size)
        (newBuffer_modify {m with space := s₂} (x.imported fd) (·.importedAt p))

theorem memoryImportDmabuf_cases {fd : Option Nat} {r : Except Error Nat}
    (h : memoryImportDmabuf sys m fd = .ok (r, m')) :
    m' = m ∧ (∀ size, ¬ ImportStarts sys m fd size) ∨ ∃ size, ImportStarts sys m fd size ∧
      (sys.mmap = false ∧ ImportFailed m m' size ∨ sys.mmap = true ∧ ImportDone m m' size) := by
  unfold memoryImportDmabuf at h
  cases fd with
  | none =>
    cases h
    exact .inl ⟨rfl, fun size hs => by obtain ⟨⟨i, o, hi, -⟩, -⟩ := hs; exact nomatch hi⟩
  | some i =>
    cases ho : m.space.objects.cells i with
    | none =>
      simp only [Option.bind_some, ho, Option.map_none] at h
      cases h
      refine .inl ⟨rfl, fun size hs => ?_⟩
      obtain ⟨⟨j, o, hj, hoj, -⟩, -⟩ := hs
      cases hj
      cases ho.symm.trans hoj
    | some o =>
      simp only [Option.bind_some, ho, Option.map_some] at h
      obtain ⟨⟨r₁, m₁⟩, h₁, h₂⟩ := map_eq_ok h
      have hsize : (UInt64.ofNat o.length).toNat < limit :=
        Nat.lt_of_le_of_lt (Nat.mod_le _ _) o.length_lt
      have hfile : ∃ i' o', some i = some i' ∧ m.space.objects.cells i' = some o' ∧
          UInt64.ofNat o.length = UInt64.ofNat o'.length := ⟨i, o, rfl, ho, rfl⟩
      obtain ⟨⟨e, rfl⟩, rfl, hno⟩ | ⟨hyes, ⟨⟨e, rfl⟩, hmm, hf⟩ | ⟨rfl, hmm, y, s, hy, rfl⟩⟩ :=
        dmabufImport_cases hsize h₁
      · cases h₂
        refine .inl ⟨rfl, fun size hs => ?_⟩
        obtain ⟨⟨j, o', hj, hoj, rfl⟩, x, s, hg⟩ := hs
        cases hj
        cases ho.symm.trans hoj
        exact hno x s hg
      · cases h₂
        exact .inr ⟨_, ⟨hfile, hyes⟩, .inl ⟨hmm, hf⟩⟩
      · cases h₂
        refine .inr ⟨_, ⟨hfile, hyes⟩, .inr ⟨hmm, ⟨y, hy, rfl⟩, rfl, ?_, rfl, rfl⟩⟩
        simp [State.insertCounted, State.insert, Chain.pushFront]

end Mvgal.Memory
