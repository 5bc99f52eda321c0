import Mvgal.Memory.Release

/-! Shutting the memory module down (`mvgal_memory_module_shutdown`).

The shutdown holds the lock of the module while it walks the list of buffers, and the
destructor takes that lock to take a buffer out of the list. The lock is an ordinary
mutex, so a thread that holds it and asks for it again waits for ever. `freeUnder` is
the destructor with that lock: without it held it is `freeInternal`
(`freeUnder_unlocked`), and with it held it never comes through (`freeUnder_held`).
`shutdown_right_iff` says what is left of the shutdown. -/
namespace Mvgal.Memory
open Blocks (Fault)

inductive Stop where
  | fault (f : Fault)
  | deadlock
deriving DecidableEq

/-- A part of a call that takes no lock. -/
def unlocked {α : Type} : Except Fault α → Except Stop α
  | .ok a => .ok a
  | .error f => .error (.fault f)

/-- `mvgal_buffer_release`, given how a buffer is destroyed. -/
def releaseUnder (destroy : State → Nat → Except Stop State) (m : State) (b : Nat) : Except Stop State :=
  (unlocked (m.read b)).bind fun x =>
    let m := m.modify b Buffer.decref
    if x.refcount = 1 then destroy m b else .ok m

/-- Take an alias off its parent's list and drop the reference it holds. -/
def releaseParentUnder (destroy : State → Nat → Except Stop State) (m : State) (b : Nat)
    (parent : Option Nat) : Except Stop State :=
  match parent with
  | none => .ok m
  | some p => releaseUnder destroy (m.modify p (·.removeAlias b)) p

/-- `mvgal_buffer_free_internal`, in a thread that holds the lock or does not. -/
def freeUnder (held : Bool) : Nat → State → Nat → Except Stop State
  | 0, _, _ => .error (.fault .endlessRecursion)
  | fuel + 1, m, b =>
    (unlocked (m.read b)).bind fun x =>
    (unlocked (orphanAll m x.aliases)).bind fun m =>
    (releaseParentUnder (freeUnder held fuel) (m.modify b Buffer.clearAliases) b x.parent?).bind fun m =>
    (unlocked (x.freeOwned (x.unmapOwned m.space))).bind fun s =>
    if held then .error .deadlock else .ok ({m with space := s}.discard b x.size)

def freeBuffers : Nat → State → Option Nat → Except Stop State
  | _, m, none => .ok m
  | 0, _, some _ => .error (.fault .endlessRecursion)
  | fuel + 1, m, some b =>
    (unlocked (m.read b)).bind fun _ =>
    (freeUnder true m.store.next m b).bind fun m' => freeBuffers fuel m' (m.links.next b)

def State.closeHeap (m : State) : State := {m with systemHeap := false}

/-- `mvgal_memory_module_shutdown`. No GPU heap is ever opened, so only the system heap
is closed. -/
def moduleShutdown (m : State) : Except Stop State :=
  if !m.initialized then .ok m
  else
    (freeBuffers m.store.next m.closeHeap m.buffers).map fun m =>
      {m with buffers := none, initialized := false}

variable {m m' : State} {b : Nat}

theorem unlocked_bind {α β : Type} (r : Except Fault α) (f : α → Except Fault β) :
    unlocked (r.bind f) = (unlocked r).bind fun a => unlocked (f a) := by
  cases r with
  | error e => rfl
  | ok a => rfl

theorem releaseUnder_unlocked {destroy : State → Nat → Except Stop State}
    {destroy' : State → Nat → Except Fault State} (h : ∀ m b, destroy m b = unlocked (destroy' m b))
    (m : State) (b : Nat) : releaseUnder destroy m b = unlocked (releaseWith destroy' m b) := by
  rw [releaseUnder, releaseWith, unlocked_bind]
  congr 1
  funext x
  split
  · exact h _ _
  · rfl

theorem releaseParentUnder_unlocked {destroy : State → Nat → Except Stop State}
    {destroy' : State → Nat → Except Fault State} (h : ∀ m b, destroy m b = unlocked (destroy' m b))
    (m : State) (b : Nat) (parent : Option Nat) :
    releaseParentUnder destroy m b parent = unlocked (releaseParent destroy' m b parent) := by
  cases parent with
  | none => rfl
  | some p => exact releaseUnder_unlocked h _ p

/-- In a thread that does not hold the lock it is the destructor of the other calls. -/
theorem freeUnder_unlocked (fuel : Nat) (m : State) (b : Nat) :
    freeUnder false fuel m b = unlocked (freeInternal fuel m b) := by
  induction fuel generalizing m b with
  | zero => rfl
  | succ fuel ih =>
    rw [freeUnder, freeInternal, unlocked_bind]
    congr 1
    funext x
    rw [unlocked_bind]
    congr 1
    funext m₁
    rw [unlocked_bind, releaseParentUnder_unlocked ih]
    congr 1
    funext m₂
    cases x.freeOwned (x.unmapOwned m₂.space) with
    | error e => rfl
    | ok s => rfl

/-- In a thread that holds it, no buffer is ever freed. -/
theorem freeUnder_held (fuel : Nat) (m m' : State) (b : Nat) : freeUnder true fuel m b ≠ .ok m' := by
  intro h
  cases fuel with
  | zero => exact absurd h (by simp [freeUnder])
  | succ fuel =>
    obtain ⟨x, -, h⟩ := bind_eq_ok h
    obtain ⟨m₁, -, h⟩ := bind_eq_ok h
    obtain ⟨m₂, -, h⟩ := bind_eq_ok h
    obtain ⟨s, -, h⟩ := bind_eq_ok h
    cases h

/-- The shutdown comes to its end, no structure is left, and no block that a buffer owned. -/
def ShutdownRight (m : State) : Prop :=
  ∃ m', moduleShutdown m = .ok m' ∧ (∀ b, m'.store.cells b = none) ∧
    ∀ b x p, m.store.cells b = some x → x.shouldFree = true → x.originalPtr = some p →
      m'.space.blocks.cells p.block = none

theorem freeBuffers_eq_ok {fuel : Nat} {list : Option Nat} (h : freeBuffers fuel m list = .ok m') :
    list = none ∧ m' = m := by
  cases list with
  | none =>
    cases fuel with
    | zero | succ fuel => exact ⟨rfl, (Except.ok.inj h).symm⟩
  | some b =>
    cases fuel with
    | zero => exact absurd h (by simp [freeBuffers])
    | succ fuel =>
      obtain ⟨x, -, h⟩ := bind_eq_ok h
      obtain ⟨m₁, hfree, -⟩ := bind_eq_ok h
      exact absurd hfree (freeUnder_held _ _ _ _)

/-- **Shutdown.** The shutdown comes to its end and leaves nothing behind exactly when
there is nothing to free: no live structure, and no list of an initialized module. -/
theorem shutdown_right_iff (m : State) :
    ShutdownRight m ↔ (m.initialized = true → m.buffers = none) ∧ ∀ b, m.store.cells b = none := by
  constructor
  · rintro ⟨m', h, hnone, -⟩
    unfold moduleShutdown at h
    cases hinit : m.initialized with
    | false =>
      rw [hinit] at h
      cases h
      exact ⟨nofun, hnone⟩
    | true =>
      rw [hinit] at h
      obtain ⟨m₁, hfree, rfl⟩ := map_eq_ok h
      obtain ⟨hlist, rfl⟩ := freeBuffers_eq_ok hfree
      exact ⟨fun _ => hlist, hnone⟩
  · rintro ⟨hlist, hnone⟩
    have hdone : ∃ m', moduleShutdown m = .ok m' ∧ m'.store = m.store := by
      unfold moduleShutdown
      cases hinit : m.initialized with
      | false => exact ⟨m, rfl, rfl⟩
      | true =>
        rw [hlist hinit]
        cases m.store.next with
        | zero => exact ⟨_, rfl, rfl⟩
        | succ n => exact ⟨_, rfl, rfl⟩
    obtain ⟨m', he, hstore⟩ := hdone
    refine ⟨m', he, fun b => by rw [hstore]; exact hnone b, fun b x p hx => ?_⟩
    rw [hnone b] at hx
    cases hx

/-- One allocated buffer: the shutdown waits for the lock it holds. -/
theorem shutdown_with_one_buffer :
    moduleShutdown (memoryAllocateSimple willing noGpus State.zero 64 flagHostValid).2 = .error .deadlock ∧
      ¬ ShutdownRight (memoryAllocateSimple willing noGpus State.zero 64 flagHostValid).2 := by
  have hstop : moduleShutdown (memoryAllocateSimple willing noGpus State.zero 64 flagHostValid).2 =
      .error .deadlock := rfl
  refine ⟨hstop, ?_⟩
  rintro ⟨m', h, -⟩
  cases h

end Mvgal.Memory
