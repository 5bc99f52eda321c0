import Mvgal.Compat.NtSync
import Mvgal.Lib.Run
import Mvgal.Lib.Table

/-! One NT mutex between any number of threads (`mvgal_nt_mutex_lock`,
`mvgal_nt_mutex_unlock`, `mvgal_nt_wait_multiple_any`).

A thread takes the mutex by a compare-and-swap of `state`, outside the internal lock (a try or
a multi-wait), or by a load and a store of it in the lock (a blocking wait). It enters itself
as the owner afterwards, and reads those fields without the lock when it locks again.

A step is one atomic operation, one access to a field without the lock, or what is done in the
lock between two atomic operations. `exclusive_iff` says which runs keep the mutex with one
thread until that thread has unlocked as often as it locked: those in which a blocking wait
still finds the mutex free when it stores, and whoever frees the mutex is the last to hold it.
`mvgal_nt_mutex_unlock` does not ask who calls it. -/
namespace Mvgal.Compat.Mutexes
open Option Nat
open Function (update update_self update_of_ne)

/-- How a thread came to claim the mutex. -/
inductive Path where
  | trylock
  | blocking
  | multiWait
deriving DecidableEq

inductive PC where
  | idle
  /-- It has read its own name in `owner_thread`. -/
  | sawOwner (timeout : Timeout)
  /-- It has found a `recursion_count` above 0. -/
  | recursing
  /-- It has read the count it is to increment. -/
  | bumping (count : UInt32)
  | trying
  /-- At the loop of the blocking wait. -/
  | arriving (timeout : Timeout)
  | asleep (timeout : Timeout)
  /-- In the lock; it has loaded a state of 0. -/
  | storing
  /-- The state is 1 by its doing; it is not the owner yet. -/
  | claimed (path : Path)
  | unlocking
  /-- In the lock; the owner is cleared. -/
  | freeing
  | polling
deriving DecidableEq

/-- The mutex, who is in its internal lock between two steps, where the threads are, and how
many of its acquisitions each has not released. -/
structure System (ι : Type) where
  mutex : Mutex ι
  lock : Option ι
  pc : ι → PC
  held : ι → Nat

inductive Call where
  | lock (timeout : Timeout)
  | unlock
  /-- A look of `mvgal_nt_wait_multiple_any`. -/
  | poll

inductive Action (ι : Type) where
  | call (t : ι) (c : Call)
  /-- The next step of a call, a wake-up included. -/
  | advance (t : ι)
  /-- `ETIMEDOUT`. -/
  | expire (t : ι)

section
variable {ι : Type} [DecidableEq ι]

namespace System

def start (initialOwner : Option ι) : System ι :=
  ⟨.create initialOwner, none, fun _ => .idle, fun t => if initialOwner = some t then 1 else 0⟩

def goto (s : System ι) (t : ι) (pc : PC) : System ι := {s with pc := update s.pc t pc}

def acquire (s : System ι) (t : ι) (mutex : Mutex ι) (pc : PC) : System ι :=
  {s with mutex, pc := update s.pc t pc, held := update s.held t (s.held t + 1)}

def release (s : System ι) (t : ι) (mutex : Mutex ι) : System ι :=
  {s with mutex, pc := update s.pc t .idle, held := update s.held t (s.held t - 1)}

def entry : Timeout → PC
  | .zero => .trying
  | timeout => .arriving timeout

/-- The first step of a call: a lock reads `owner_thread`. -/
def call (s : System ι) (t : ι) : Call → System ι
  | .lock timeout => s.goto t (if s.mutex.ownerThread = some t then .sawOwner timeout else entry timeout)
  | .unlock => s.goto t .unlocking
  | .poll => s.goto t .polling

/-- The compare-and-swap; if it fails, the call returns or the multi-wait sleeps. -/
def swap (s : System ι) (t : ι) (path : Path) : System ι :=
  match s.mutex.claim with
  | some mutex => s.acquire t mutex (.claimed path)
  | none => s.goto t .idle

/-- The test of the blocking loop, in the lock. -/
def load (s : System ι) (t : ι) (timeout : Timeout) : Option (System ι) :=
  if s.lock = none then
    some (if s.mutex.state = 0 then {s.goto t .storing with lock := some t} else s.goto t (.asleep timeout))
  else none

/-- The new owner enters itself; a multi-wait leaves `abandoned` alone. -/
def owned (m : Mutex ι) (t : ι) : Path → Mutex ι
  | .multiWait => m.own t
  | _ => {m.own t with abandoned := false}

/-- A thread that is in the lock already leaves it; any other takes it first. -/
def enter (s : System ι) (t : ι) (path : Path) : Option (System ι) :=
  if path = .blocking ∨ s.lock = none then
    some {s.goto t .idle with mutex := owned s.mutex t path, lock := none}
  else none

def leave (s : System ι) (t : ι) : Option (System ι) :=
  if s.lock = none then
    some (if s.mutex.leave.1 then {s.goto t .freeing with mutex := s.mutex.leave.2, lock := some t}
      else s.release t s.mutex.leave.2)
  else none

def advance (s : System ι) (t : ι) : Option (System ι) :=
  match s.pc t with
  | .idle => none
  | .sawOwner timeout => some (s.goto t (if s.mutex.recursionCount > 0 then .recursing else entry timeout))
  | .recursing => some (s.goto t (.bumping s.mutex.recursionCount))
  | .bumping count => some (s.acquire t {s.mutex with recursionCount := count + 1} .idle)
  | .trying => some (s.swap t .trylock)
  | .polling => some (s.swap t .multiWait)
  | .arriving timeout => s.load t timeout
  | .asleep timeout => s.load t timeout
  | .storing => some (s.acquire t {s.mutex with state := 1} (.claimed .blocking))
  | .claimed path => s.enter t path
  | .unlocking => s.leave t
  | .freeing => some {s.release t s.mutex.free with lock := none}

def step (s : System ι) : Action ι → Option (System ι)
  | .call t c => if s.pc t = .idle then some (s.call t c) else none
  | .advance t => s.advance t
  | .expire t => if s.pc t = .asleep .finite ∧ s.lock = none then some (s.goto t .idle) else none

end System

end

variable {ι : Type}

/-- At most one thread has acquired the mutex more often than released it, and it still has
the mutex. -/
structure Exclusive (s : System ι) : Prop where
  one : ∀ t u, 0 < s.held t → 0 < s.held u → t = u
  kept : ∀ t, 0 < s.held t → s.mutex.state ≠ 0

/-- A store of 1 finds the mutex free, and a store of 0 is the last release of the last
holder. -/
def StepOk (s : System ι) : Action ι → Prop
  | .advance t =>
    match s.pc t with
    | .storing => s.mutex.state = 0
    | .freeing => s.held t ≤ 1 ∧ ∀ u, u ≠ t → s.held u = 0
    | _ => True
  | _ => True

def PC.locking : PC → Bool
  | .storing | .claimed .blocking | .freeing => true
  | _ => false

def PC.recursive : PC → Bool
  | .sawOwner _ | .recursing | .bumping _ => true
  | _ => false

/-- What a thread holds at each place. -/
def PC.Fits (held : Nat) : PC → Prop
  | .sawOwner _ | .recursing | .claimed _ => 0 < held
  | .bumping count => 0 < held ∧ count.toNat ≤ held
  | .storing => held = 0
  | _ => True

/-- While a thread is on the recursive path, another may have cleared the owner but not freed
the mutex. The count may then be that thread's, with no owner. -/
structure Inv (s : System ι) : Prop where
  fits : ∀ t, (s.pc t).Fits (s.held t)
  lock : ∀ t, (s.pc t).locking = true ↔ s.lock = some t
  recursive : ∀ t, (s.pc t).recursive = true → s.mutex.ownerThread = some t ∨ ∃ u, u ≠ t ∧ s.pc u = .freeing
  freeing : ∀ t, s.pc t = .freeing → s.mutex.ownerThread = none
  owner : ∀ t, s.mutex.ownerThread = some t → 0 < s.held t ∧ s.mutex.recursionCount.toNat ≤ s.held t
  ownerless : s.mutex.ownerThread = none → s.mutex.recursionCount = 0 ∨
    ∃ u t, s.pc u = .freeing ∧ t ≠ u ∧ 0 < s.held t ∧ s.mutex.recursionCount.toNat ≤ s.held t
  locked : s.mutex.state ≠ 0 → ∃ t, 0 < s.held t

/-- A step of `t`, which leaves it at `pc` with `held` acquisitions. -/
structure Moves (t : ι) (s s' : System ι) (pc : PC) (held : Nat) : Prop where
  here : s'.pc t = pc
  holds : s'.held t = held
  pc : ∀ u, u ≠ t → s'.pc u = s.pc u
  held : ∀ u, u ≠ t → s'.held u = s.held u

variable {path : Path}

section Frame
variable {s s' : System ι} {t u v : ι} {pc : PC} {held : Nat}

section
variable (hm : Moves t s s' pc held)
include hm

theorem Moves.still_freeing (ht : s.pc t ≠ .freeing) (h : s.pc v = .freeing) :
    s'.pc v = .freeing := by
  have hne : v ≠ t := fun hvt => ht (hvt ▸ h)
  rw [hm.pc v hne, h]

theorem Moves.was_freeing (ht : pc ≠ .freeing) (h : s'.pc v = .freeing) :
    v ≠ t ∧ s.pc v = .freeing := by
  have hne : v ≠ t := fun hvt => ht (by rw [← hm.here, ← hvt, h])
  exact ⟨hne, hm.pc v hne ▸ h⟩

theorem Moves.fits (h : Inv s) (ht : pc.Fits held) (u : ι) :
    (s'.pc u).Fits (s'.held u) := by
  by_cases hu : u = t
  · rw [hu, hm.here, hm.holds]
    exact ht
  · rw [hm.pc u hu, hm.held u hu]
    exact h.fits u

omit hm in
theorem Moves.held_eq (hm : Moves t s s' pc (s.held t)) : s'.held = s.held := by
  funext u
  by_cases hu : u = t
  · rw [hu, hm.holds]
  · exact hm.held u hu

/-- The internal lock stays where it is, or `t` takes or leaves it. -/
theorem Moves.lock (h : Inv s) (ht : pc.locking = true ↔ s'.lock = some t)
    (hothers : ∀ u, u ≠ t → (s'.lock = some u ↔ s.lock = some u)) (u : ι) :
    (s'.pc u).locking = true ↔ s'.lock = some u := by
  by_cases hu : u = t
  · rw [hu, hm.here]
    exact ht
  · rw [hm.pc u hu, hothers u hu]
    exact h.lock u

theorem Moves.unlocked (h : Inv s) (hpc : pc.locking = false)
    (hbefore : s.lock = none ∨ s.lock = some t) (hnone : s'.lock = none) (u : ι) :
    (s'.pc u).locking = true ↔ s'.lock = some u := by
  refine hm.lock h ?_ (fun v hv => ?_) u
  · rw [hpc, hnone]
    exact iff_of_false nofun nofun
  · rw [hnone]
    refine iff_of_false nofun fun hv' => ?_
    obtain hfree | hself := hbefore
    · cases hfree.symm.trans hv'
    · exact hv (some.inj (hv'.symm.trans hself))

/-- The other threads on the recursive path, if the owner stays. -/
theorem Moves.recursive (h : Inv s) (hpc : s.pc t ≠ .freeing)
    (howner : s'.mutex.ownerThread = s.mutex.ownerThread)
    (ht : pc.recursive = true → s.mutex.ownerThread = some t ∨ ∃ v, v ≠ t ∧ s.pc v = .freeing)
    (u : ι) (hu : (s'.pc u).recursive = true) :
    s'.mutex.ownerThread = some u ∨ ∃ v, v ≠ u ∧ s'.pc v = .freeing := by
  have hbefore : s.mutex.ownerThread = some u ∨ ∃ v, v ≠ u ∧ s.pc v = .freeing := by
    by_cases hut : u = t
    · subst hut
      exact ht (hm.here ▸ hu)
    · exact h.recursive u (hm.pc u hut ▸ hu)
  rw [howner]
  refine hbefore.imp_right fun ⟨v, hne, hv⟩ => ?_
  exact ⟨v, hne, hm.still_freeing hpc hv⟩

end

section
variable (h : Inv s)
include h

theorem Inv.fits_at (hpc : s.pc t = pc) : pc.Fits (s.held t) := hpc ▸ h.fits t

theorem recursive_held (hu : (s.pc u).recursive = true) : 0 < s.held u := by
  have hfits := h.fits u
  cases hpc : s.pc u <;> rw [hpc] at hu hfits
  case sawOwner => exact hfits
  case recursing => exact hfits
  case bumping => exact hfits.1
  all_goals cases hu

theorem freeing_lock (hv : s.pc v = .freeing) : s.lock = some v := (h.lock v).mp (by rw [hv]; rfl)

/-- With the internal lock free, a count means an owner. -/
theorem owner_of_count (hlock : s.lock = none) (hcount : s.mutex.recursionCount ≠ 0) :
    ∃ v, s.mutex.ownerThread = some v := by
  cases howner : s.mutex.ownerThread with
  | some v => exact ⟨v, rfl⟩
  | none =>
    obtain hzero | ⟨u, -, hu, -⟩ := h.ownerless howner
    · exact absurd hzero hcount
    · rw [freeing_lock h hu] at hlock
      cases hlock

theorem count_le (hx : Exclusive s) (ht : 0 < s.held t) :
    s.mutex.recursionCount.toNat ≤ s.held t := by
  cases howner : s.mutex.ownerThread with
  | some v =>
    obtain ⟨hv, hle⟩ := h.owner v howner
    rwa [hx.one v t hv ht] at hle
  | none =>
    obtain hzero | ⟨-, v, -, -, hv, hle⟩ := h.ownerless howner
    · rw [hzero]
      exact zero_le _
    · rwa [hx.one v t hv ht] at hle

omit h in
theorem held_zero (hx : Exclusive s) (hfree : s.mutex.state = 0) (u : ι) : s.held u = 0 :=
  Nat.eq_zero_of_not_pos fun hu => hx.kept u hu hfree

/-- A step that only goes on to another place, perhaps into the internal lock. -/
theorem Inv.goto (hm : Moves t s s' pc (s.held t)) (hmutex : s'.mutex = s.mutex)
    (hpc : s.pc t ≠ .freeing) (hpc' : pc ≠ .freeing) (hfits : pc.Fits (s.held t))
    (hlock : pc.locking = true ↔ s'.lock = some t) (hothers : ∀ u, u ≠ t → (s'.lock = some u ↔ s.lock = some u))
    (hrecursive : pc.recursive = true → s.mutex.ownerThread = some t ∨ ∃ u, u ≠ t ∧ s.pc u = .freeing) : Inv s' := by
  have hheld := hm.held_eq
  constructor
  case fits => exact hm.fits h hfits
  case lock => exact hm.lock h hlock hothers
  case recursive => exact hm.recursive h hpc (by rw [hmutex]) hrecursive
  case freeing => exact fun v hv => hmutex ▸ h.freeing v (hm.was_freeing hpc' hv).2
  case owner =>
    rw [hmutex, hheld]
    exact h.owner
  case ownerless =>
    rw [hmutex, hheld]
    intro hnone
    refine (h.ownerless hnone).imp_right fun ⟨u, v, hu, hrest⟩ => ?_
    exact ⟨u, v, hm.still_freeing hpc hu, hrest⟩
  case locked =>
    rw [hmutex, hheld]
    exact h.locked

theorem Inv.bump (hx : Exclusive s) {count : UInt32} (hpc : s.pc t = .bumping count)
    (hm : Moves t s s' .idle (s.held t + 1)) (hmutex : s'.mutex = {s.mutex with recursionCount := count + 1})
    (hlock : s'.lock = s.lock) : Inv s' := by
  have hpos : 0 < s.held t ∧ count.toNat ≤ s.held t := h.fits_at hpc
  have hsucc : (count + 1).toNat ≤ s.held t + 1 := by
    exact le_trans (mod_le _ _) (succ_le_succ hpos.2)
  have hne : s.pc t ≠ .freeing := by rw [hpc]; nofun
  have houtside : s'.lock ≠ some t := by
    rw [hlock, Ne, ← h.lock t, hpc]
    nofun
  constructor
  case fits => exact hm.fits h trivial
  case lock => exact hm.lock h (iff_of_false nofun houtside) fun _ _ => by rw [hlock]
  case recursive => exact hm.recursive h hne (by rw [hmutex]) nofun
  case freeing => exact fun v hv => hmutex ▸ h.freeing v (hm.was_freeing nofun hv).2
  case owner =>
    rw [hmutex]
    intro v hv
    have hvt : v = t := hx.one v t (h.owner v hv).1 hpos.1
    rw [hvt, hm.holds]
    exact ⟨succ_pos _, hsucc⟩
  case ownerless =>
    rw [hmutex]
    intro hnone
    -- the owner was cleared after this thread read it
    obtain howner | ⟨u, hut, hu⟩ := h.recursive t (by rw [hpc]; rfl)
    · cases hnone.symm.trans howner
    · refine .inr ⟨u, t, hm.still_freeing hne hu, Ne.symm hut, ?_⟩
      rw [hm.holds]
      exact ⟨succ_pos _, hsucc⟩
  case locked => exact fun _ => ⟨t, hm.holds ▸ succ_pos _⟩

/-- A free mutex is claimed, by a compare-and-swap or by a store. -/
theorem Inv.claim (hx : Exclusive s) (hfree : s.mutex.state = 0)
    (hm : Moves t s s' (.claimed path) (s.held t + 1)) (hmutex : s'.mutex = {s.mutex with state := 1})
    (hpc : s.pc t ≠ .freeing) (hlocking : (PC.claimed path).locking = (s.pc t).locking)
    (hlock : s'.lock = s.lock) : Inv s' := by
  have hzero := held_zero hx hfree
  constructor
  case fits => exact hm.fits h (succ_pos _)
  case lock => exact hm.lock h (by rw [hlocking, hlock, h.lock t]) fun _ _ => by rw [hlock]
  case recursive => exact hm.recursive h hpc (by rw [hmutex]) nofun
  case freeing => exact fun v hv => hmutex ▸ h.freeing v (hm.was_freeing nofun hv).2
  case owner =>
    rw [hmutex]
    intro v hv
    exact absurd (h.owner v hv).1 (by rw [hzero v]; exact lt_irrefl 0)
  case ownerless =>
    rw [hmutex]
    intro hnone
    obtain hcount | ⟨-, v, -, -, hv, -⟩ := h.ownerless hnone
    · exact .inl hcount
    · exact absurd hv (by rw [hzero v]; exact lt_irrefl 0)
  case locked => exact fun _ => ⟨t, hm.holds ▸ succ_pos _⟩

theorem Inv.enter (hx : Exclusive s) (hpc : s.pc t = .claimed path)
    (hlock : s.lock = none ∨ s.lock = some t) (hm : Moves t s s' .idle (s.held t)) (hfree : s'.lock = none)
    (howner : s'.mutex.ownerThread = some t) (hcount : s'.mutex.recursionCount = 1) : Inv s' := by
  have hpos : 0 < s.held t := h.fits_at hpc
  constructor
  case fits => exact hm.fits h trivial
  case lock => exact hm.unlocked h rfl hlock hfree
  case recursive =>
    intro u hu
    by_cases hut : u = t
    · rw [hut, hm.here] at hu
      cases hu
    · rw [hm.pc u hut] at hu
      exact absurd (hx.one u t (recursive_held h hu) hpos) hut
  case freeing =>
    intro v hv
    obtain ⟨hne, hv⟩ := hm.was_freeing nofun hv
    have hlocked := freeing_lock h hv
    obtain hnone | hself := hlock
    · cases hnone.symm.trans hlocked
    · exact absurd (some.inj (hlocked.symm.trans hself)) hne
  case owner =>
    rw [howner, hcount]
    intro v hv
    cases hv
    rw [hm.holds]
    exact ⟨hpos, hpos⟩
  case ownerless =>
    rw [howner]
    exact nofun
  case locked =>
    exact fun _ => ⟨t, hm.holds ▸ hpos⟩

theorem Inv.countDown (hpc : s.pc t = .unlocking) (hfree : s.lock = none)
    (hcount : 1 < s.mutex.recursionCount) (hm : Moves t s s' .idle (s.held t - 1))
    (hmutex : s'.mutex = {s.mutex with recursionCount := s.mutex.recursionCount - 1}) (hlock : s'.lock = none) :
    Inv s' := by
  have hne : s.pc t ≠ .freeing := by rw [hpc]; nofun
  have hone : 1 < s.mutex.recursionCount.toNat := hcount
  have hless : (s.mutex.recursionCount - 1).toNat = s.mutex.recursionCount.toNat - 1 :=
    UInt32.toNat_sub_of_le _ _ (UInt32.le_of_lt hcount)
  obtain ⟨v, hv⟩ := owner_of_count h hfree fun hzero => by rw [hzero] at hone; cases hone
  obtain ⟨-, hle⟩ := h.owner v hv
  have hleft : 0 < s'.held v ∧ (s.mutex.recursionCount - 1).toNat ≤ s'.held v := by
    by_cases hvt : v = t
    · rw [hvt] at hle ⊢
      rw [hm.holds]
      omega
    · rw [hm.held v hvt]
      omega
  constructor
  case fits => exact hm.fits h trivial
  case lock => exact hm.unlocked h rfl (.inl hfree) hlock
  case recursive => exact hm.recursive h hne (by rw [hmutex]) nofun
  case freeing => exact fun w hw => hmutex ▸ h.freeing w (hm.was_freeing nofun hw).2
  case owner =>
    rw [hmutex]
    intro w hw
    cases hv.symm.trans hw
    exact hleft
  case ownerless =>
    rw [hmutex]
    intro hnone
    cases hv.symm.trans hnone
  case locked => exact fun _ => ⟨v, hleft.1⟩

theorem Inv.clear (hfree : s.lock = none) (hm : Moves t s s' .freeing (s.held t))
    (hmutex : s'.mutex = {s.mutex with ownerThread := none, recursionCount := 0}) (hlock : s'.lock = some t) :
    Inv s' := by
  constructor
  case fits => exact hm.fits h trivial
  case lock =>
    refine hm.lock h (iff_of_true rfl hlock) fun u hu => ?_
    rw [hlock, hfree]
    exact iff_of_false (fun heq => hu (some.inj heq).symm) nofun
  case recursive =>
    intro u hu
    refine .inr ⟨t, fun htu => ?_, hm.here⟩
    rw [← htu, hm.here] at hu
    cases hu
  case freeing => exact fun _ _ => hmutex ▸ rfl
  case owner =>
    rw [hmutex]
    exact nofun
  case ownerless =>
    rw [hmutex]
    exact fun _ => .inl rfl
  case locked =>
    rw [hmutex]
    intro hstate
    rw [hm.held_eq]
    exact h.locked hstate

theorem Inv.free (hpc : s.pc t = .freeing) (hothers : ∀ u, u ≠ t → s.held u = 0)
    (hm : Moves t s s' .idle (s.held t - 1)) (hmutex : s'.mutex = s.mutex.free) (hlock : s'.lock = none) : Inv s' := by
  have hlocked := freeing_lock h hpc
  have hnone := h.freeing t hpc
  have hself : ∀ u, s.pc u = .freeing → u = t := fun u hu =>
    some.inj ((freeing_lock h hu).symm.trans hlocked)
  have hcount : s.mutex.recursionCount = 0 := by
    obtain hzero | ⟨u, v, hu, hvu, hv, -⟩ := h.ownerless hnone
    · exact hzero
    · rw [hself u hu] at hvu
      exact absurd (hothers v hvu) (Nat.pos_iff_ne_zero.mp hv)
  constructor
  case fits => exact hm.fits h trivial
  case lock => exact hm.unlocked h rfl (.inr hlocked) hlock
  case recursive =>
    intro u hu
    by_cases hut : u = t
    · rw [hut, hm.here] at hu
      cases hu
    · rw [hm.pc u hut] at hu
      exact absurd (hothers u hut) (Nat.pos_iff_ne_zero.mp (recursive_held h hu))
  case freeing =>
    intro v hv
    obtain ⟨hne, hv⟩ := hm.was_freeing nofun hv
    exact absurd (hself v hv) hne
  case owner =>
    rw [hmutex]
    intro v hv
    cases hnone.symm.trans hv
  case ownerless =>
    rw [hmutex]
    exact fun _ => .inl hcount
  case locked =>
    rw [hmutex]
    exact fun hstate => absurd rfl hstate

end

theorem Exclusive.of_le (hx : Exclusive s) (hheld : ∀ u, s'.held u ≤ s.held u)
    (hstate : s'.mutex.state = s.mutex.state) : Exclusive s' := by
  constructor
  · intro u v hu hv
    exact hx.one u v (lt_of_lt_of_le hu (hheld u)) (lt_of_lt_of_le hv (hheld v))
  · intro u hu
    rw [hstate]
    exact hx.kept u (lt_of_lt_of_le hu (hheld u))

theorem Exclusive.goto (hx : Exclusive s) (hm : Moves t s s' pc (s.held t))
    (hstate : s'.mutex.state = s.mutex.state) : Exclusive s' :=
  hx.of_le (fun u => le_of_eq (congrFun hm.held_eq u)) hstate

/-- If `t` is the only one to hold the mutex, it may acquire it. -/
theorem Exclusive.acquire (hothers : ∀ u, u ≠ t → s.held u = 0) (hm : Moves t s s' pc held)
    (hstate : s'.mutex.state ≠ 0) : Exclusive s' := by
  have honly : ∀ u, 0 < s'.held u → u = t := by
    intro u hu
    by_cases hut : u = t
    · exact hut
    · rw [hm.held u hut, hothers u hut] at hu
      cases hu
  exact ⟨fun u v hu hv => (honly u hu).trans (honly v hv).symm, fun _ _ => hstate⟩

theorem Exclusive.others (hx : Exclusive s) (ht : 0 < s.held t) {u : ι} (hu : u ≠ t) : s.held u = 0 :=
  Nat.eq_zero_of_not_pos fun hpos => hu (hx.one u t hpos ht)

theorem release_le (hm : Moves t s s' pc (s.held t - 1)) (u : ι) : s'.held u ≤ s.held u := by
  by_cases hu : u = t
  · rw [hu, hm.holds]
    exact sub_le _ _
  · exact le_of_eq (hm.held u hu)

theorem store_exclusive_iff (h : Inv s) (hx : Exclusive s) (hpc : s.pc t = .storing)
    (hm : Moves t s s' pc (s.held t + 1)) (hstate : s'.mutex.state ≠ 0) : Exclusive s' ↔ s.mutex.state = 0 := by
  constructor
  · intro hx'
    refine Decidable.by_contra fun hlocked => ?_
    -- somebody else holds the mutex
    obtain ⟨v, hv⟩ := h.locked hlocked
    have hzero : s.held t = 0 := h.fits_at hpc
    have hvt : v ≠ t := fun hvt => Nat.pos_iff_ne_zero.mp hv (hvt ▸ hzero)
    exact hvt (hx'.one v t (by rw [hm.held v hvt]; exact hv) (by rw [hm.holds]; exact Nat.succ_pos _))
  · intro hfree
    exact .acquire (fun u _ => held_zero hx hfree u) hm hstate

theorem free_exclusive_iff (hm : Moves t s s' pc (s.held t - 1)) (hstate : s'.mutex.state = 0) :
    Exclusive s' ↔ s.held t ≤ 1 ∧ ∀ u, u ≠ t → s.held u = 0 := by
  constructor
  · intro hx'
    have hzero := held_zero hx' hstate
    constructor
    · have ht := hzero t
      rw [hm.holds] at ht
      omega
    · intro u hu
      rw [← hm.held u hu, hzero u]
  · intro hok
    have hzero : ∀ u, s'.held u = 0 := by
      intro u
      by_cases hu : u = t
      · rw [hu, hm.holds]
        omega
      · rw [hm.held u hu, hok.2 u hu]
    have hnone : ∀ u, ¬ 0 < s'.held u := fun u hu => Nat.pos_iff_ne_zero.mp hu (hzero u)
    exact ⟨fun u _ hu => absurd hu (hnone u), fun u hu => absurd hu (hnone u)⟩

end Frame

section Steps
variable [DecidableEq ι] {s s' : System ι} {t : ι}

theorem one_ne_free : (1 : UInt32) ≠ 0 := by decide

theorem moves_goto (s : System ι) (t : ι) (pc : PC) (mutex : Mutex ι) (lock : Option ι) :
    Moves t s {s.goto t pc with mutex, lock} pc (s.held t) :=
  ⟨update_self .., rfl, fun _ hu => update_of_ne hu .., fun _ _ => rfl⟩

theorem moves_acquire (s : System ι) (t : ι) (mutex : Mutex ι) (pc : PC) :
    Moves t s (s.acquire t mutex pc) pc (s.held t + 1) :=
  ⟨update_self .., update_self .., fun _ hu => update_of_ne hu .., fun _ hu => update_of_ne hu ..⟩

theorem moves_release (s : System ι) (t : ι) (mutex : Mutex ι) (lock : Option ι) :
    Moves t s {s.release t mutex with lock} .idle (s.held t - 1) :=
  ⟨update_self .., update_self .., fun _ hu => update_of_ne hu .., fun _ hu => update_of_ne hu ..⟩

/-- What every step that is always right keeps. -/
structure Kept (s : System ι) : Prop where
  inv : Inv s
  exclusive : Exclusive s

theorem ne_freeing {pc : PC} (h : pc.locking = false) : pc ≠ .freeing := by
  intro heq
  rw [heq] at h
  cases h

section
variable (hk : Kept s)
include hk

/-- A step outside the internal lock that only goes on. -/
theorem Kept.goto {pc : PC} (hbefore : (s.pc t).locking = false) (hafter : pc.locking = false)
    (hfits : pc.Fits (s.held t))
    (hrecursive : pc.recursive = true → s.mutex.ownerThread = some t ∨ ∃ u, u ≠ t ∧ s.pc u = .freeing) :
    Kept (s.goto t pc) := by
  have hm := moves_goto s t pc s.mutex s.lock
  have houtside : s.lock ≠ some t := by
    rw [Ne, ← hk.inv.lock t, hbefore]
    nofun
  refine ⟨hk.inv.goto hm rfl (ne_freeing hbefore) (ne_freeing hafter) hfits ?_ (fun _ _ => Iff.rfl) hrecursive,
    hk.exclusive.goto hm rfl⟩
  rw [hafter]
  exact iff_of_false nofun houtside

/-- A lock that is not recursive goes on to its try or its wait. -/
theorem Kept.entry (hbefore : (s.pc t).locking = false) (timeout : Timeout) :
    Kept (s.goto t (System.entry timeout)) := by
  cases timeout with
  | zero | finite | infinite => exact hk.goto hbefore rfl trivial nofun

theorem Kept.swap (hpath : path ≠ .blocking) (hbefore : (s.pc t).locking = false) :
    Kept (s.swap t path) := by
  unfold System.swap Mutex.claim
  by_cases hfree : s.mutex.state = 0
  · rw [if_pos hfree]
    have hm := moves_acquire s t {s.mutex with state := 1} (.claimed path)
    have hlocking : (PC.claimed path).locking = (s.pc t).locking := by
      rw [hbefore]
      cases path with
      | trylock | multiWait => rfl
      | blocking => exact absurd rfl hpath
    exact ⟨hk.inv.claim hk.exclusive hfree hm rfl (ne_freeing hbefore) hlocking rfl,
      .acquire (fun u _ => held_zero hk.exclusive hfree u) hm one_ne_free⟩
  · rw [if_neg hfree]
    exact hk.goto hbefore rfl trivial nofun

theorem Kept.load {timeout : Timeout} (hbefore : (s.pc t).locking = false)
    (hs : s.load t timeout = some s') : Kept s' := by
  obtain ⟨hlock, rfl⟩ := Run.guarded hs
  split
  · next hfree =>
    have hm := moves_goto s t .storing s.mutex (some t)
    refine ⟨hk.inv.goto hm rfl (ne_freeing hbefore) nofun (held_zero hk.exclusive hfree t) (iff_of_true rfl rfl) ?_ nofun,
      hk.exclusive.goto hm rfl⟩
    intro u hu
    rw [hlock]
    exact iff_of_false (fun heq => hu (some.inj heq).symm) nofun
  · exact hk.goto hbefore rfl trivial nofun

theorem Kept.enter (hpc : s.pc t = .claimed path) (hs : s.enter t path = some s') :
    Kept s' := by
  obtain ⟨hguard, rfl⟩ := Run.guarded hs
  have hlock : s.lock = none ∨ s.lock = some t := by
    refine hguard.symm.imp_right fun hpath => ?_
    rw [hpath] at hpc
    exact (hk.inv.lock t).mp (by rw [hpc]; rfl)
  have hm := moves_goto s t .idle (System.owned s.mutex t path) none
  have howned : (System.owned s.mutex t path).state = s.mutex.state ∧
      (System.owned s.mutex t path).ownerThread = some t ∧ (System.owned s.mutex t path).recursionCount = 1 := by
    cases path <;> exact ⟨rfl, rfl, rfl⟩
  exact ⟨hk.inv.enter hk.exclusive hpc hlock hm rfl howned.2.1 howned.2.2,
    hk.exclusive.goto hm howned.1⟩

theorem Kept.leave (hpc : s.pc t = .unlocking) (hs : s.leave t = some s') : Kept s' := by
  obtain ⟨hlock, rfl⟩ := Run.guarded hs
  unfold Mutex.leave
  by_cases hcount : 1 < s.mutex.recursionCount
  · simp only [if_pos hcount, Bool.false_eq_true, if_false]
    have hm := moves_release s t {s.mutex with recursionCount := s.mutex.recursionCount - 1} s.lock
    exact ⟨hk.inv.countDown hpc hlock hcount hm rfl hlock, hk.exclusive.of_le (release_le hm) rfl⟩
  · simp only [if_neg hcount, if_true]
    have hm := moves_goto s t .freeing {s.mutex with ownerThread := none, recursionCount := 0} (some t)
    exact ⟨hk.inv.clear hlock hm rfl rfl, hk.exclusive.goto hm rfl⟩

/-- **One step of a thread.** -/
theorem advance_spec (hs : s.advance t = some s') :
    (Exclusive s' ↔ StepOk s (.advance t)) ∧ (StepOk s (.advance t) → Inv s') := by
  have hkept : Kept s' → StepOk s (.advance t) →
      (Exclusive s' ↔ StepOk s (.advance t)) ∧ (StepOk s (.advance t) → Inv s') := fun hk' hok =>
    ⟨iff_of_true hk'.exclusive hok, fun _ => hk'.inv⟩
  unfold System.advance at hs
  cases hpc : s.pc t <;> simp only [hpc] at hs <;> simp only [StepOk, hpc] at hkept ⊢
  case idle => cases hs
  case sawOwner timeout =>
    have hrecursive : (s.pc t).recursive = true := by rw [hpc]; rfl
    have hbefore : (s.pc t).locking = false := by rw [hpc]; rfl
    by_cases hcount : s.mutex.recursionCount > 0
    · rw [if_pos hcount] at hs
      cases hs
      exact hkept (hk.goto hbefore rfl (recursive_held hk.inv hrecursive) fun _ => hk.inv.recursive t hrecursive) trivial
    · rw [if_neg hcount] at hs
      cases hs
      exact hkept (hk.entry hbefore timeout) trivial
  case recursing =>
    cases hs
    have hrecursive : (s.pc t).recursive = true := by rw [hpc]; rfl
    have hpos := recursive_held hk.inv hrecursive
    exact hkept (hk.goto (by rw [hpc]; rfl) rfl ⟨hpos, count_le hk.inv hk.exclusive hpos⟩
      fun _ => hk.inv.recursive t hrecursive) trivial
  case bumping count =>
    cases hs
    have hpos : 0 < s.held t := recursive_held hk.inv (by rw [hpc]; rfl)
    have hm := moves_acquire s t {s.mutex with recursionCount := count + 1} .idle
    exact hkept ⟨hk.inv.bump hk.exclusive hpc hm rfl rfl,
      .acquire (fun _ hu => hk.exclusive.others hpos hu) hm (hk.exclusive.kept t hpos)⟩ trivial
  case trying =>
    cases hs
    exact hkept (hk.swap nofun (by rw [hpc]; rfl)) trivial
  case arriving timeout => exact hkept (hk.load (by rw [hpc]; rfl) hs) trivial
  case asleep timeout => exact hkept (hk.load (by rw [hpc]; rfl) hs) trivial
  case storing =>
    cases hs
    have hm := moves_acquire s t {s.mutex with state := 1} (.claimed .blocking)
    refine ⟨store_exclusive_iff hk.inv hk.exclusive hpc hm one_ne_free, fun hfree => ?_⟩
    exact hk.inv.claim hk.exclusive hfree hm rfl (by rw [hpc]; nofun) (by rw [hpc]; rfl) rfl
  case claimed path => exact hkept (hk.enter hpc hs) trivial
  case unlocking => exact hkept (hk.leave hpc hs) trivial
  case freeing =>
    cases hs
    have hm := moves_release s t s.mutex.free none
    exact ⟨free_exclusive_iff hm rfl, fun hok => hk.inv.free hpc hok.2 hm rfl rfl⟩
  case polling =>
    cases hs
    exact hkept (hk.swap nofun (by rw [hpc]; rfl)) trivial

theorem step_spec {a : Action ι} (hs : s.step a = some s') :
    (Exclusive s' ↔ StepOk s a) ∧ (StepOk s a → Inv s') := by
  cases a with
  | advance t => exact advance_spec hk hs
  | call t c =>
    obtain ⟨hpc, rfl⟩ := Run.guarded hs
    have hbefore : (s.pc t).locking = false := by rw [hpc]; rfl
    have hkept : Kept (s.call t c) := by
      cases c with
      | unlock | poll => exact hk.goto hbefore rfl trivial nofun
      | lock timeout =>
        simp only [System.call]
        by_cases howner : s.mutex.ownerThread = some t
        · rw [if_pos howner]
          exact hk.goto hbefore rfl (hk.inv.owner t howner).1 fun _ => .inl howner
        · rw [if_neg howner]
          exact hk.entry hbefore timeout
    exact ⟨iff_of_true hkept.exclusive trivial, fun _ => hkept.inv⟩
  | expire t =>
    obtain ⟨⟨hpc, -⟩, rfl⟩ := Run.guarded hs
    have hkept : Kept (s.goto t .idle) := hk.goto (by rw [hpc]; rfl) rfl trivial nofun
    exact ⟨iff_of_true hkept.exclusive trivial, fun _ => hkept.inv⟩

end

theorem start_kept (initialOwner : Option ι) : Kept (System.start initialOwner) := by
  have hheld : ∀ t, 0 < (System.start initialOwner).held t ↔ initialOwner = some t := by
    intro t
    by_cases howner : initialOwner = some t
    · simp [System.start, howner]
    · simp [System.start, howner]
  refine ⟨?_, fun t u ht hu => ?_, fun t ht => ?_⟩
  · constructor
    case fits => exact fun _ => trivial
    case lock => exact fun _ => iff_of_false nofun nofun
    case recursive => exact nofun
    case freeing => exact nofun
    case owner =>
      intro t ht
      cases initialOwner with
      | none => cases ht
      | some u => exact ⟨(hheld t).mpr ht, (hheld t).mpr ht⟩
    case ownerless =>
      cases initialOwner with
      | none => exact fun _ => .inl rfl
      | some u => exact nofun
    case locked =>
      cases initialOwner with
      | none => exact fun hstate => absurd rfl hstate
      | some u => exact fun _ => ⟨u, (hheld u).mpr rfl⟩
  · exact some.inj (((hheld t).mp ht).symm.trans ((hheld u).mp hu))
  · cases initialOwner with
    | none => cases (hheld t).mp ht
    | some u => exact one_ne_free

end Steps

/-- **Ownership is exclusive and recursive** along a run exactly as long as no blocking wait
stores over a claim that came in between, and no thread frees a mutex that it or another still
holds. -/
theorem exclusive_iff [DecidableEq ι] (initialOwner : Option ι) (actions : List (Action ι)) :
    Run.Along System.step Exclusive (.start initialOwner) actions ↔
      Run.Admitted System.step StepOk (.start initialOwner) actions :=
  Run.along_iff_admitted (fun _ _ _ hi hx hs => (step_spec ⟨hi, hx⟩ hs).1)
    (fun _ _ _ hi hx hs hok => (step_spec ⟨hi, hx⟩ hs).2 hok) (start_kept initialOwner).inv
    (start_kept initialOwner).exclusive actions

/-- One thread locks the mutex and another unlocks it: it is free while the first holds it. -/
theorem foreign_unlock_frees : ¬ Run.Along System.step Exclusive (.start (none : Option Bool))
      [.call true (.lock .zero), .advance true, .advance true, .call false .unlock, .advance false, .advance false] := by
  intro h
  have hstate := (h.final rfl).kept true (by decide)
  exact hstate rfl

end Mvgal.Compat.Mutexes
