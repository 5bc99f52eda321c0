import Mvgal.Compat.NtSync
import Mvgal.Lib.Polling

/-! Waiting for all of several NT objects (`mvgal_nt_wait_multiple` and
`mvgal_nt_wait_multiple_any` with `MVGAL_NT_WAIT_TYPE_ALL`).

Both functions look at the objects one after the other and consume each that is signalled, at
once and for good, whether or not the others are; they differ in the kinds of object they
know. `wait_all_iff` says what follows: such a wait takes all or nothing exactly as long as no
pass that fails meets a signalled object it consumes, or, if it waits for ever, as long as
nothing was consumed before the pass that succeeds. -/
namespace Mvgal.Compat.WaitAll
open Polling

inductive EventCall where
  | set
  | reset
deriving DecidableEq

def EventCall.apply (e : Event) : EventCall → Event
  | .set => e.set
  | .reset => e.reset

theorem poll_event {e e' : Event} (h : e.poll = some e') :
    e.signaled = true ∧ e'.type = e.type ∧ (e.type = .synchronization → e'.signaled = false) ∧
      (e.type ≠ .synchronization → e' = e) := by
  unfold Event.poll at h
  split at h
  · next hsignaled =>
    cases h
    by_cases htype : e.type = .synchronization
    · rw [if_pos htype]
      exact ⟨hsignaled, rfl, fun _ => rfl, fun hne => absurd htype hne⟩
    · rw [if_neg htype]
      exact ⟨hsignaled, rfl, fun heq => absurd heq htype, fun _ => rfl⟩
  · cases h

def eventKind : Kind Event where
  poll := Event.poll
  consumable e := e.type = .synchronization
  units e := e.signaled.toNat
  poll_consumable h := by rw [(poll_event h).2.1]
  poll_units h hconsumable := by
    obtain ⟨hsignaled, -, hreset, -⟩ := poll_event h
    rw [hsignaled, hreset (of_decide_eq_true hconsumable)]
    decide
  poll_eq h hnot := (poll_event h).2.2.2 (of_decide_eq_false hnot)

inductive Object (ι : Type) where
  | event (e : Event)
  | mutex (m : Mutex ι)
  | semaphore (s : Semaphore)
  | timer (t : Timer)

/-- The calls of others on an object, and the time that passes for a timer. -/
inductive ObjectCall where
  | event (call : EventCall)
  | unlock
  | release (releaseCount : UInt32)
  | setTimer (periodMs : UInt32) (armed : Bool)
  | expire (times : Nat)

/-- A call is made on an object of its own type. -/
def ObjectCall.apply {ι : Type} : ObjectCall → Object ι → Object ι
  | .event call, .event e => .event (call.apply e)
  | .unlock, .mutex m => .mutex m.unlock
  | .release releaseCount, .semaphore s => .semaphore (s.release releaseCount).semaphore
  | .setTimer periodMs armed, .timer t => .timer (t.set periodMs armed)
  | .expire times, .timer t => .timer (t.expire times)
  | _, o => o

namespace Object
variable {ι : Type}

def poll (tid : ι) : Object ι → Option (Object ι)
  | .event e => e.poll.map .event
  | .mutex m => (m.poll tid).map .mutex
  | .semaphore s => s.poll.map .semaphore
  | .timer t => t.poll.map .timer

/-- Only a manual-reset event stays as it is. -/
def consumable : Object ι → Bool
  | .event e => e.type = .synchronization
  | _ => true

/-- How often it can be consumed. -/
def units : Object ι → Nat
  | .event e => e.signaled.toNat
  | .mutex m => if m.state = 0 then 1 else 0
  | .semaphore s => s.count.toNat
  | .timer t => t.expirations

theorem poll_cases {tid : ι} {o o' : Object ι} (h : o.poll tid = some o') :
    o'.consumable = o.consumable ∧ (o.consumable = true → o'.units < o.units) ∧ (o.consumable = false → o' = o) := by
  cases o with
  | event e =>
    obtain ⟨e', he, rfl⟩ := Option.map_eq_some_iff.mp h
    exact ⟨eventKind.poll_consumable he, eventKind.poll_units he, fun hnot => congrArg _ (eventKind.poll_eq he hnot)⟩
  | mutex m =>
    obtain ⟨m', hm, rfl⟩ := Option.map_eq_some_iff.mp h
    refine ⟨rfl, fun _ => ?_, nofun⟩
    unfold Mutex.poll Mutex.claim at hm
    split at hm
    · next hfree =>
      cases hm
      simp [units, Mutex.own, hfree]
    · cases hm
  | semaphore s =>
    obtain ⟨s', hs, rfl⟩ := Option.map_eq_some_iff.mp h
    refine ⟨rfl, fun _ => ?_, nofun⟩
    unfold Semaphore.poll at hs
    split at hs
    · next hpos =>
      cases hs
      exact Nat.lt_of_succ_le (Nat.le_of_eq (Semaphore.toNat_sub_one hpos))
    · cases hs
  | timer t =>
    obtain ⟨t', ht, rfl⟩ := Option.map_eq_some_iff.mp h
    refine ⟨rfl, fun _ => ?_, nofun⟩
    unfold Timer.poll at ht
    split at ht
    · next hpos =>
      cases ht
      exact hpos
    · cases ht

end Object

def objectKind {ι : Type} (tid : ι) : Kind (Object ι) where
  poll := Object.poll tid
  consumable := Object.consumable
  units := Object.units
  poll_consumable h := (Object.poll_cases h).1
  poll_units h := (Object.poll_cases h).2.1
  poll_eq h := (Object.poll_cases h).2.2

def limit (timeoutNs : UInt64) : Limit :=
  match Timeout.ofNs timeoutNs with
  | .zero => .none
  | .finite => .finite
  | .infinite => .infinite

section Waits
variable {κ ι : Type} [DecidableEq κ]

def waitMultiple (events : List (Option κ)) (timeoutNs : UInt64) :
    Waiting κ Event → Move κ EventCall → Option (Waiting κ Event) :=
  Waiting.step eventKind (fun call e => call.apply e) events (limit timeoutNs)

def waitMultipleAny (tid : ι) (objects : List (Option κ)) (timeoutNs : UInt64) :
    Waiting κ (Object ι) → Move κ ObjectCall → Option (Waiting κ (Object ι)) :=
  Waiting.step (objectKind tid) ObjectCall.apply objects (limit timeoutNs)

end Waits

/-- **Both waits take all or nothing** along a run exactly as long as each pass is one of
`MoveOk`. -/
theorem wait_all_iff {κ ι : Type} [DecidableEq κ] (entries : List (Option κ)) (timeoutNs : UInt64) :
    (∀ (events : κ → Event) (moves : List (Move κ EventCall)),
      Run.Along (waitMultiple entries timeoutNs) (Waiting.AllOrNothing eventKind entries (limit timeoutNs))
          (.start entries events) moves ↔
        Run.Admitted (waitMultiple entries timeoutNs) (Waiting.MoveOk eventKind entries (limit timeoutNs))
          (.start entries events) moves) ∧
    ∀ (tid : ι) (objects : κ → Object ι) (moves : List (Move κ ObjectCall)),
      Run.Along (waitMultipleAny tid entries timeoutNs) (Waiting.AllOrNothing (objectKind tid) entries (limit timeoutNs))
          (.start entries objects) moves ↔
        Run.Admitted (waitMultipleAny tid entries timeoutNs) (Waiting.MoveOk (objectKind tid) entries (limit timeoutNs))
          (.start entries objects) moves :=
  ⟨fun events moves => Waiting.along_iff events moves, fun _ objects moves => Waiting.along_iff objects moves⟩

/-- Of two auto-reset events one is signalled: the wait with timeout 0 fails, and the event is
no longer signalled. -/
theorem timeout_consumes : ¬ Run.Along (waitMultiple [some true, some false] 0)
      (Waiting.AllOrNothing eventKind [some true, some false] (limit 0))
      (.start [some true, some false] fun k => ⟨.synchronization, k⟩) [.pass] := by
  intro h
  have hsame := (h.final rfl).timedOut false (by decide)
  have hsignaled := congrArg Event.signaled (congrFun hsame true)
  revert hsignaled
  decide

end Mvgal.Compat.WaitAll
