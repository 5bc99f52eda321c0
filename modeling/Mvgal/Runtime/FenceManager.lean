import Mvgal.Lib.Arena
import Mvgal.Runtime.Fence
import Mvgal.Types

/-! The fence manager of the Rust runtime (`fence_manager.rs`).

Any number of threads call the manager, and the fences they hold. A call stops before
each mutex it takes, so one step is what it does under a mutex: `create_fence` takes a
number and then the lock of the registry; `signal_fence`, `test_fence` and `wait_fence`
take the lock of the registry and, still holding it, that of the fence. A wait goes to
sleep inside that second lock, and the condition variable gives back the second one only.

The fence that `create_fence` returned and the one registered under its id are copies.
They agree only until one of them changes: `one_fence_iff`. -/
namespace Mvgal.Runtime.Manager
open Arena Option Table
open Function (update)

/-- The fences by address; which is registered under which id, and which `create_fence` has
returned with which id. -/
structure Registry where
  fences : Arena CrossDeviceFence
  fenceMap : UInt64 → Option Nat
  returned : List (UInt64 × Nat)

/-- `CrossDeviceFence::is_signaled`, by address. -/
def Registry.isSignaled (r : Registry) (a : Nat) : Bool := (r.fences.cells a).any CrossDeviceFence.isSignaled

/-- What a step does to fences and registry. -/
inductive Effect where
  | quiet
  | signal (a : Nat) (now : Nat)
  | reset (a : Nat)
  | insert (id : UInt64)
  | remove (id : UInt64)

/-- `create_fence` registers a clone of the fence that it returns. -/
def Effect.apply (r : Registry) : Effect → Registry
  | .quiet => r
  | .signal a now => {r with fences := r.fences.modify a (·.signal now)}
  | .reset a => {r with fences := r.fences.modify a (·.reset)}
  | .insert id =>
    { fences := (r.fences.push (.withId id)).push (.withId id)
      fenceMap := update r.fenceMap id (some (r.fences.next + 1))
      returned := r.returned ++ [(id, r.fences.next)] }
  | .remove id => {r with fenceMap := update r.fenceMap id none}

/-- The calls of `FenceManager`. -/
inductive Call where
  | createFence
  | signalFence (id : UInt64)
  | waitFence (id : UInt64) (timeoutMs : UInt32)
  | testFence (id : UInt64)
  | getFence (id : UInt64)
  | destroyFence (id : UInt64)

inductive Result where
  | unit
  | fence (a : Nat)
  | flag (b : Bool)
  | found (a : Option Nat)
  | waited (r : Except MvgalError Bool)
  | state (s : FenceState)

/-- A wait was called on the manager, or on a fence. -/
inductive Via where
  | manager
  | fence
deriving DecidableEq

/-- Where a thread is. `called` and `numbered` are before a lock of the registry, `signalling`,
`testing` and `waiting` hold it and are before the lock of the fence. -/
inductive Pc where
  | ready (last : Option Result)
  | called (c : Call)
  | numbered (id : UInt64)
  | signalling (a : Nat)
  | testing (a : Nat)
  | waiting (a : Nat) (timeout : Option Nat)
  | asleep (via : Via) (a : Nat) (timeout : Option Nat)
  | woken (via : Via) (a : Nat) (timeout : Option Nat) (timedOut : Bool)

def Pc.notified (a : Nat) : Pc → Pc
  | .asleep via b timeout => if b = a then .woken via b timeout false else .asleep via b timeout
  | p => p

def Pc.expired? : Pc → Option Pc
  | .asleep via a (some timeout) => some (.woken via a (some timeout) true)
  | _ => none

def Pc.stirred? : Pc → Option Pc
  | .asleep via a timeout => some (.woken via a timeout false)
  | _ => none

/-- The manager and its threads: who holds the lock of the registry, and the fences that
`get_fence` has returned. -/
structure World (ι : Type) extends Registry where
  nextFenceId : UInt64
  owner : Option ι
  pc : ι → Pc
  obtained : List Nat

variable {ι : Type}

def World.initial : World ι := ⟨⟨.empty, fun _ => none, []⟩, 1, none, fun _ => .ready none, []⟩

section Code
variable [DecidableEq ι] (w : World ι) (t : ι)

def World.goto (p : Pc) : World ι := {w with pc := update w.pc t p}

def World.ret (result : Result) : World ι := w.goto t (.ready (some result))

/-- The thread returns and drops the lock of the registry. -/
def World.unlock (result : Result) : World ι := {w.ret t result with owner := none}

/-- Take the lock of the registry and look the id up: keep the lock if it is there. -/
def World.lookup (id : UInt64) (next : Nat → Pc) (missing : Result) : Option (World ι) :=
  if w.owner = none then
    match w.fenceMap id with
    | none => some (w.ret t missing)
    | some a => some {w.goto t (next a) with owner := some t}
  else none

/-- `CrossDeviceFence::signal`. -/
def World.signalFence (a : Nat) (now : Nat) : World ι :=
  { w with
    toRegistry := (Effect.signal a now).apply w.toRegistry
    pc := if w.isSignaled a then w.pc else fun u => (w.pc u).notified a }

def World.waited (via : Via) (state : FenceState) : World ι :=
  match via with
  | .manager => w.unlock t (.waited (.ok (state = .signaled)))
  | .fence => w.ret t (.state state)

/-- A look at the flag: the wait ends, or the thread sleeps. -/
def World.look (via : Via) (a : Nat) (timeout : Option Nat) : World ι :=
  if w.isSignaled a then w.waited t via .signaled else w.goto t (.asleep via a timeout)

/-- `CrossDeviceFence::wait`, back from the condition variable: a wait with a timeout looks
once, and not at all if it has timed out. -/
def World.resume (via : Via) (a : Nat) (timeout : Option Nat) (timedOut : Bool) : World ι :=
  match timeout with
  | none => w.look t via a none
  | some _ => w.waited t via (if !timedOut && w.isSignaled a then .signaled else .unsignaled)

/-- `wait_fence` takes a timeout of 0 as none. -/
def waitTimeout (timeoutMs : UInt32) : Option Nat := if timeoutMs > 0 then some timeoutMs.toNat else none

/-- The next step of a thread that is in a call. -/
def World.advance (now : Nat) : Pc → Option (World ι)
  | .ready _ => none
  | .called .createFence => some {w.goto t (.numbered w.nextFenceId) with nextFenceId := w.nextFenceId + 1}
  | .called (.signalFence id) => w.lookup t id .signalling (.flag false)
  | .called (.waitFence id timeoutMs) =>
    w.lookup t id (.waiting · (waitTimeout timeoutMs)) (.waited (.error .notFound))
  | .called (.testFence id) => w.lookup t id .testing (.flag false)
  | .called (.getFence id) =>
    if w.owner = none then
      some {w.ret t (.found (w.fenceMap id)) with obtained := w.obtained ++ (w.fenceMap id).toList}
    else none
  | .called (.destroyFence id) =>
    if w.owner = none then
      some {w.ret t (.flag (w.fenceMap id).isSome) with toRegistry := (Effect.remove id).apply w.toRegistry}
    else none
  | .numbered id =>
    if w.owner = none then
      some {w.ret t (.fence w.fences.next) with toRegistry := (Effect.insert id).apply w.toRegistry}
    else none
  | .signalling a => some ((w.signalFence a now).unlock t (.flag true))
  | .testing a => some (w.unlock t (.flag (w.isSignaled a)))
  | .waiting a timeout => some (w.look t .manager a timeout)
  | .asleep _ _ _ => none
  | .woken via a timeout timedOut => some (w.resume t via a timeout timedOut)

def World.holds (a : Nat) : Prop := a ∈ w.returned.map Prod.snd ∨ a ∈ w.obtained

instance (a : Nat) : Decidable (w.holds a) := inferInstanceAs (Decidable (_ ∨ _))

def Pc.isReady : Pc → Bool
  | .ready _ => true
  | _ => false

end Code

/-- The steps. `call` begins a call on the manager and `advance` continues it; a sleeper may
time out or wake up by itself; the rest are calls on a fence. -/
inductive Action (ι : Type) where
  | call (t : ι) (c : Call)
  | advance (t : ι) (now : Nat)
  | expire (t : ι)
  | spurious (t : ι)
  | signal (t : ι) (a : Nat) (now : Nat)
  | reset (t : ι) (a : Nat)
  | isSignaled (t : ι) (a : Nat)
  | wait (t : ι) (a : Nat) (timeout : Option Nat)

def step [DecidableEq ι] (w : World ι) : Action ι → Option (World ι)
  | .call t c => if (w.pc t).isReady then some (w.goto t (.called c)) else none
  | .advance t now => w.advance t now (w.pc t)
  | .expire t => (w.pc t).expired?.map (w.goto t)
  | .spurious t => (w.pc t).stirred?.map (w.goto t)
  | .signal t a now =>
    if (w.pc t).isReady ∧ w.holds a then some ((w.signalFence a now).ret t .unit) else none
  | .reset t a =>
    if (w.pc t).isReady ∧ w.holds a then
      some {w.ret t .unit with toRegistry := (Effect.reset a).apply w.toRegistry}
    else none
  | .isSignaled t a =>
    if (w.pc t).isReady ∧ w.holds a then some (w.ret t (.flag (w.isSignaled a))) else none
  | .wait t a timeout => if (w.pc t).isReady ∧ w.holds a then some (w.look t .fence a timeout) else none

/-! ### What a step does to the registry -/

def Pc.effect (now : Nat) : Pc → Effect
  | .called (.destroyFence id) => .remove id
  | .numbered id => .insert id
  | .signalling a => .signal a now
  | _ => .quiet

/-- The effect of a step, read off the thread that takes it. -/
def effect (w : World ι) : Action ι → Effect
  | .advance t now => (w.pc t).effect now
  | .signal _ a now => .signal a now
  | .reset _ a => .reset a
  | _ => .quiet

section Registry
variable [DecidableEq ι] {w w' : World ι} {t : ι}

theorem lookup_registry {id : UInt64} {next : Nat → Pc} {missing : Result}
    (h : w.lookup t id next missing = some w') : w'.toRegistry = w.toRegistry := by
  unfold World.lookup at h
  split at h
  · split at h <;> exact (some.inj h) ▸ rfl
  · cases h

theorem waited_registry (via : Via) (state : FenceState) : (w.waited t via state).toRegistry = w.toRegistry := by
  cases via <;> rfl

theorem look_registry (via : Via) (a : Nat) (timeout : Option Nat) :
    (w.look t via a timeout).toRegistry = w.toRegistry := by
  unfold World.look
  split
  · exact waited_registry via _
  · rfl

theorem resume_registry (via : Via) (a : Nat) (timeout : Option Nat) (timedOut : Bool) :
    (w.resume t via a timeout timedOut).toRegistry = w.toRegistry := by
  cases timeout with
  | none => exact look_registry via a none
  | some _ => exact waited_registry via _

theorem advance_registry {now : Nat} {p : Pc} (h : w.advance t now p = some w') :
    w'.toRegistry = (p.effect now).apply w.toRegistry := by
  cases p with
  | ready last | asleep via a timeout => exact absurd h (by simp [World.advance])
  | called c =>
    cases c with
    | createFence => exact (some.inj h) ▸ rfl
    | signalFence id | waitFence id timeoutMs | testFence id => exact lookup_registry h
    | getFence id | destroyFence id =>
      obtain ⟨-, rfl⟩ := Run.guarded h
      rfl
  | numbered id =>
    obtain ⟨-, rfl⟩ := Run.guarded h
    rfl
  | signalling a | testing a => exact (some.inj h) ▸ rfl
  | waiting a timeout => exact (some.inj h) ▸ look_registry .manager a timeout
  | woken via a timeout timedOut => exact (some.inj h) ▸ resume_registry via a timeout timedOut

/-- **Every step** changes fences and registry by its effect only. -/
theorem step_registry {a : Action ι} (h : step w a = some w') :
    w'.toRegistry = (effect w a).apply w.toRegistry := by
  cases a with
  | call t c | signal t a now | reset t a | isSignaled t a =>
    obtain ⟨-, rfl⟩ := Run.guarded h
    rfl
  | advance t now => exact advance_registry h
  | expire t | spurious t =>
    obtain ⟨p, -, rfl⟩ := map_eq_some_iff.mp h
    rfl
  | wait t a timeout =>
    obtain ⟨-, rfl⟩ := Run.guarded h
    exact look_registry .fence a timeout

end Registry

/-! ### The two copies of a fence -/

/-- The fence that was returned with an id and the one registered under it are as one: what
one of them reports, so does the other. -/
def Registry.OneFence (r : Registry) : Prop :=
  ∀ p ∈ r.returned, ∀ e, r.fenceMap p.1 = some e → r.isSignaled p.2 = r.isSignaled e

/-- The fence is one of two copies that can both be reached. -/
def Registry.Paired (r : Registry) (a : Nat) : Prop :=
  ∃ p ∈ r.returned, ∃ e, r.fenceMap p.1 = some e ∧ (a = p.2 ∨ a = e)

/-- No copy changes, and an id that comes again was returned with no signalled fence. -/
def EffectOk (r : Registry) : Effect → Prop
  | .signal a _ => r.isSignaled a = true ∨ ¬ r.Paired a
  | .reset a => r.isSignaled a = false ∨ ¬ r.Paired a
  | .insert id => ∀ p ∈ r.returned, p.1 = id → r.isSignaled p.2 = false
  | _ => True

/-- The fences returned and registered exist, and none is both. -/
structure Registry.Apart (r : Registry) : Prop where
  returned : ∀ p ∈ r.returned, (r.fences.cells p.2).isSome
  registered : ∀ id e, r.fenceMap id = some e → (r.fences.cells e).isSome
  apart : ∀ p ∈ r.returned, ∀ id, r.fenceMap id ≠ some p.2

variable {r : Registry}

section
variable (hr : r.Apart)
include hr

theorem Registry.Apart.exists_of_paired {a : Nat} (h : r.Paired a) : (r.fences.cells a).isSome := by
  obtain ⟨p, hp, e, he, rfl | rfl⟩ := h
  · exact hr.returned p hp
  · exact hr.registered _ _ he

/-- A change of one fence keeps the copies as one exactly if its flag stays or it has no
second copy. -/
theorem oneFence_modify_iff (h : r.OneFence) (a : Nat) (f : CrossDeviceFence → CrossDeviceFence) :
    Registry.OneFence {r with fences := r.fences.modify a f} ↔
      Registry.isSignaled {r with fences := r.fences.modify a f} a = r.isSignaled a ∨ ¬ r.Paired a := by
  have hother (b : Nat) (hb : b ≠ a) :
      Registry.isSignaled {r with fences := r.fences.modify a f} b = r.isSignaled b := by
    simp [Registry.isSignaled, modify_of_ne _ f hb]
  constructor
  · intro h'
    by_contra hbad
    obtain ⟨hflag, hpaired⟩ := not_or.mp hbad
    obtain ⟨p, hp, e, he, hcopy⟩ := not_not.mp hpaired
    -- One of the two copies is `a`, the other one kept its flag.
    have hne : p.2 ≠ e := fun heq => hr.apart p hp p.1 (heq ▸ he)
    have hold := h p hp e he
    have hnew := h' p hp e he
    obtain rfl | rfl := hcopy
    · rw [hother e hne.symm, ← hold] at hnew
      exact hflag hnew
    · rw [hother p.2 hne, hold] at hnew
      exact hflag hnew.symm
  · intro hok p hp e he
    obtain hsame | hfree := hok
    · have hall (b : Nat) : Registry.isSignaled {r with fences := r.fences.modify a f} b = r.isSignaled b := by
        by_cases hb : b = a
        · rw [hb, hsame]
        · exact hother b hb
      rw [hall, hall]
      exact h p hp e he
    · rw [hother p.2 fun heq => hfree ⟨p, hp, e, he, .inl heq.symm⟩,
        hother e fun heq => hfree ⟨p, hp, e, he, .inr heq.symm⟩]
      exact h p hp e he

/-- After a write that gives an existing fence the flag `b`, the two agree if it had it. -/
theorem oneFence_set_iff (h : r.OneFence) (a : Nat) {f : CrossDeviceFence → CrossDeviceFence}
    {b : Bool} (hf : ∀ x, (f x).isSignaled = b) :
    Registry.OneFence {r with fences := r.fences.modify a f} ↔ r.isSignaled a = b ∨ ¬ r.Paired a := by
  rw [oneFence_modify_iff hr h a f]
  by_cases hpaired : r.Paired a
  · obtain ⟨x, hx⟩ := isSome_iff_exists.mp (hr.exists_of_paired hpaired)
    have hnew : Registry.isSignaled {r with fences := r.fences.modify a f} a = b := by
      simp [Registry.isSignaled, hx, hf]
    rw [hnew, eq_comm]
  · simp [hpaired]

omit hr in
theorem isSignaled_insert (id : UInt64) {a : Nat} (ha : (r.fences.cells a).isSome) :
    ((Effect.insert id).apply r).isSignaled a = r.isSignaled a := by
  obtain ⟨x, hx⟩ := isSome_iff_exists.mp ha
  simp [Registry.isSignaled, Effect.apply, hx, push_of_some (push_of_some hx)]

omit hr in
theorem isSignaled_inserted (id : UInt64) :
    ((Effect.insert id).apply r).isSignaled r.fences.next = false ∧
      ((Effect.insert id).apply r).isSignaled (r.fences.next + 1) = false := by
  simp [Registry.isSignaled, Effect.apply, push_cells, CrossDeviceFence.isSignaled_withId]

theorem oneFence_insert_iff (h : r.OneFence) (id : UInt64) :
    ((Effect.insert id).apply r).OneFence ↔ ∀ p ∈ r.returned, p.1 = id → r.isSignaled p.2 = false := by
  constructor
  · intro h' p hp hid
    have hnew := h' p (List.mem_append_left _ hp) (r.fences.next + 1) (by simp [Effect.apply, hid])
    rwa [isSignaled_insert id (hr.returned p hp), (isSignaled_inserted id).2] at hnew
  · intro hok p hp e he
    obtain ⟨hid, rfl⟩ | ⟨hid, he⟩ := update_some he
    · rw [(isSignaled_inserted id).2]
      obtain hp | hp := List.mem_append.mp hp
      · rw [isSignaled_insert id (hr.returned p hp)]
        exact hok p hp hid
      · rw [List.mem_singleton.mp hp]
        exact (isSignaled_inserted id).1
    · obtain hp | hp := List.mem_append.mp hp
      · rw [isSignaled_insert id (hr.returned p hp), isSignaled_insert id (hr.registered _ e he)]
        exact h p hp e he
      · rw [List.mem_singleton.mp hp] at hid
        exact absurd rfl hid

theorem oneFence_apply_iff (h : r.OneFence) (e : Effect) :
    (e.apply r).OneFence ↔ EffectOk r e := by
  cases e with
  | quiet => exact iff_of_true h trivial
  | signal a now => exact oneFence_set_iff hr h a (CrossDeviceFence.isSignaled_signal now)
  | reset a => exact oneFence_set_iff hr h a CrossDeviceFence.isSignaled_reset
  | insert id => exact oneFence_insert_iff hr h id
  | remove id => exact iff_of_true (fun p hp e he => h p hp e (update_none he).2) trivial

theorem apart_modify (a : Nat) (f : CrossDeviceFence → CrossDeviceFence) :
    Registry.Apart {r with fences := r.fences.modify a f} := by
  have hsome (b : Nat) (hb : (r.fences.cells b).isSome) : ((r.fences.modify a f).cells b).isSome := by
    rw [modify_cells]
    split
    · rename_i heq
      rw [isSome_map, ← heq]
      exact hb
    · exact hb
  exact ⟨fun p hp => hsome _ (hr.returned p hp), fun id e he => hsome _ (hr.registered id e he), hr.apart⟩

theorem apart_insert (id : UInt64) : ((Effect.insert id).apply r).Apart := by
  have hsome (b : Nat) (hb : (r.fences.cells b).isSome) : (((Effect.insert id).apply r).fences.cells b).isSome := by
    obtain ⟨x, hx⟩ := isSome_iff_exists.mp hb
    rw [show ((Effect.insert id).apply r).fences.cells b = some x from push_of_some (push_of_some hx)]
    rfl
  have hfresh (a : Nat) (ha : (r.fences.cells a).isSome) : a < r.fences.next := by
    obtain ⟨x, hx⟩ := isSome_iff_exists.mp ha
    exact lt_next hx
  refine ⟨fun p hp => ?_, fun i e he => ?_, fun p hp i he => ?_⟩
  · obtain hp | hp := List.mem_append.mp hp
    · exact hsome _ (hr.returned p hp)
    · rw [List.mem_singleton.mp hp]
      simp [Effect.apply, push_cells]
  · obtain ⟨-, rfl⟩ | ⟨-, he⟩ := update_some he
    · simp [Effect.apply, push_cells]
    · exact hsome _ (hr.registered i e he)
  · obtain hp | hp := List.mem_append.mp hp
    · obtain ⟨-, heq⟩ | ⟨-, he⟩ := update_some he
      · have := hfresh _ (hr.returned p hp)
        omega
      · exact hr.apart p hp i he
    · rw [List.mem_singleton.mp hp] at he
      obtain ⟨-, heq⟩ | ⟨-, he⟩ := update_some he
      · exact absurd heq (Nat.succ_ne_self _)
      · exact absurd (hfresh _ (hr.registered i _ he)) (Nat.lt_irrefl _)

theorem apart_apply (e : Effect) : (e.apply r).Apart := by
  cases e with
  | quiet => exact hr
  | signal a now | reset a => exact apart_modify hr a _
  | insert id => exact apart_insert hr id
  | remove id =>
    exact ⟨hr.returned, fun i e he => hr.registered i e (update_none he).2,
      fun p hp i he => hr.apart p hp i (update_none he).2⟩

end

/-- **One fence.** Along any run of any threads, the fence that `create_fence` returned and the
one registered under its id report the same exactly when no signal and no reset changes
either of them while the id is registered, and no id comes again while a fence returned
with it is signalled. -/
theorem one_fence_iff [DecidableEq ι] (actions : List (Action ι)) :
    Run.Along step (fun w => w.OneFence) (.initial : World ι) actions ↔
      Run.Admitted step (fun w a => EffectOk w.toRegistry (effect w a)) (.initial : World ι) actions := by
  refine Run.along_iff_admitted (I := fun w => w.Apart) (fun w a w' hr h hstep => ?_)
    (fun w a w' hr _ hstep _ => ?_) ?_ ?_ actions
  · rw [step_registry hstep]
    exact oneFence_apply_iff hr h (effect w a)
  · rw [step_registry hstep]
    exact apart_apply hr (effect w a)
  · exact ⟨fun p hp => absurd hp (by simp [World.initial]), fun id e he => absurd he (by simp [World.initial]),
      fun p hp => absurd hp (by simp [World.initial])⟩
  · exact fun p hp => absurd hp (by simp [World.initial])

/-- `signal_fence(1)` leaves the fence that was returned with the id 1 unsignalled. -/
theorem signal_misses_returned_fence :
    ¬ Run.Along step (fun w => w.OneFence) (.initial : World Unit)
      [.call () .createFence, .advance () 0, .advance () 0, .call () (.signalFence 1), .advance () 0, .advance () 0] := by
  intro h
  exact absurd (h.final rfl (1, 0) (by decide) 1 rfl) (by decide)

end Mvgal.Runtime.Manager
