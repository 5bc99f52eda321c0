import Mathlib.Logic.Function.Basic

/-! The objects of `mvgal_ntsync.c`: NT events, mutexes, semaphores and timers.

Each function here is what one thread does to one object between taking the object's lock and
giving it back (or one atomic operation), with the condition variable left out: a waiter may
also wake up for no reason, so a signal decides nothing that a wake-up does not. The calls
that take several such steps are put together where they are used. -/
namespace Mvgal.Compat

inductive WaitResult where
  /-- `MVGAL_NT_WAIT_OBJECT_0` plus an index. -/
  | object (index : UInt32)
  | timeout
  | abandoned
  | failed
deriving DecidableEq

/-- `timeout_ns` as the waits read it. -/
inductive Timeout where
  | zero
  | finite
  | infinite
deriving DecidableEq

def Timeout.ofNs (timeoutNs : UInt64) : Timeout :=
  if timeoutNs = 0 then .zero else if timeoutNs = 0xFFFFFFFFFFFFFFFF then .infinite else .finite

inductive EventType where
  /-- Manual reset. -/
  | notification
  /-- Automatic reset. -/
  | synchronization
deriving DecidableEq

structure Event where
  type : EventType
  signaled : Bool
deriving DecidableEq

namespace Event

def set (e : Event) : Event := {e with signaled := true}

def reset (e : Event) : Event := {e with signaled := false}

def poll (e : Event) : Option Event :=
  if e.signaled then some (if e.type = .synchronization then {e with signaled := false} else e) else none

end Event

/-- `owner_thread` is 0 where no thread owns the mutex. -/
structure Mutex (ι : Type) where
  state : UInt32
  ownerThread : Option ι
  recursionCount : UInt32
  abandoned : Bool
deriving DecidableEq

namespace Mutex
variable {ι : Type}

def create (initialOwner : Option ι) : Mutex ι :=
  match initialOwner with
  | some tid => ⟨1, some tid, 1, false⟩
  | none => ⟨0, none, 0, false⟩

def claim (m : Mutex ι) : Option (Mutex ι) := if m.state = 0 then some {m with state := 1} else none

def own (m : Mutex ι) (tid : ι) : Mutex ι := {m with ownerThread := some tid, recursionCount := 1}

/-- The first part of `mvgal_nt_mutex_unlock` in the lock: true if the mutex is to be freed. -/
def leave (m : Mutex ι) : Bool × Mutex ι :=
  if 1 < m.recursionCount then (false, {m with recursionCount := m.recursionCount - 1})
  else (true, {m with ownerThread := none, recursionCount := 0})

def free (m : Mutex ι) : Mutex ι := {m with state := 0}

/-- `mvgal_nt_mutex_unlock` as a whole. -/
def unlock (m : Mutex ι) : Mutex ι := if m.leave.1 then m.leave.2.free else m.leave.2

def poll (tid : ι) (m : Mutex ι) : Option (Mutex ι) := m.claim.map (·.own tid)

end Mutex

structure Semaphore where
  count : UInt32
  maxCount : UInt32
deriving DecidableEq

namespace Semaphore

def create (initialCount maxCount : UInt32) : Option Semaphore :=
  if initialCount > maxCount ∨ maxCount = 0 then none else some ⟨initialCount, maxCount⟩

theorem toNat_sub_one {count : UInt32} (h : count > 0) : (count - 1).toNat + 1 = count.toNat := by
  have hpos : 0 < count.toNat := h
  have hone : 1 ≤ count := UInt32.le_iff_toNat_le.mpr hpos
  have hsub : (count - 1).toNat = count.toNat - 1 := UInt32.toNat_sub_of_le _ _ hone
  rw [hsub, Nat.sub_add_cancel hpos]

/-- What `mvgal_nt_semaphore_release` returns and leaves. -/
structure Release where
  code : Int
  previousCount : Option UInt32
  semaphore : Semaphore

def release (s : Semaphore) (releaseCount : UInt32) : Release :=
  if releaseCount = 0 then ⟨-1, none, s⟩
  else
    let newCount := s.count + releaseCount
    if newCount > s.maxCount then ⟨-1, some s.count, s⟩ else ⟨0, some s.count, {s with count := newCount}⟩

/-- `mvgal_nt_semaphore_wait` up to its return, or to its sleep if there is no result. -/
def wait (s : Semaphore) (timeout : Timeout) : Option WaitResult × Semaphore :=
  if s.count > 0 then (some (.object 0), {s with count := s.count - 1})
  else if timeout = .zero then (some .timeout, s)
  else (none, s)

def wake (s : Semaphore) : Option WaitResult × Semaphore :=
  if s.count = 0 then (none, s)
  else (some (if s.count > 0 then .object 0 else .timeout), {s with count := s.count - 1})

def poll (s : Semaphore) : Option Semaphore := if s.count > 0 then some {s with count := s.count - 1} else none

end Semaphore

inductive TimerType where
  | notification
  | synchronization
deriving DecidableEq

/-- `expirations` are those the timer descriptor has for its next reader. -/
structure Timer where
  type : TimerType
  expirations : Nat
  signaled : Bool
  periodic : Bool
  periodMs : UInt32
deriving DecidableEq

namespace Timer

/-- `mvgal_nt_timer_set`; `armed` is whether `timerfd_settime` succeeded. -/
def set (t : Timer) (periodMs : UInt32) (armed : Bool) : Timer :=
  let t := {t with periodic := decide (periodMs > 0), periodMs}
  if armed then {t with expirations := 0, signaled := false} else t

def expire (t : Timer) (times : Nat) : Timer := {t with expirations := t.expirations + times}

def poll (t : Timer) : Option Timer := if t.expirations > 0 then some {t with expirations := 0} else none

end Timer

end Mvgal.Compat
