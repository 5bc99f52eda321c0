import Mvgal.Compat.NtSync
import Mvgal.Lib.Run

/-! What the polls of `mvgal_ntsync.c` see of a pulse and of a timer.

A pulse raises the flag of the event and lowers it in one section of its lock, so
`pulse_right_iff` says that it releases nobody who polls. A timer keeps an expiry in its
descriptor and in a flag, but a wait reads the descriptor only; `timer_right_iff` says which
queries and waits see what they should. -/
namespace Mvgal.Compat
open Run

/-- `mvgal_nt_event_pulse`. -/
def Event.pulse (e : Event) : Event := e.set.reset

/-- The threads inside `mvgal_nt_wait_multiple`, and those the event has released. -/
structure Waiters (ι : Type) where
  event : Event
  inside : List ι
  released : List ι

/-- A thread begins to wait, or looks at the event in a pass of its loop. -/
inductive Turn (ι : Type) where
  | enter (t : ι)
  | poll (t : ι)

variable {ι : Type} [DecidableEq ι]

def Waiters.turn (w : Waiters ι) : Turn ι → Waiters ι
  | .enter t => {w with inside := t :: w.inside}
  | .poll t =>
    if t ∈ w.inside then
      match w.event.poll with
      | some event => ⟨event, w.inside.erase t, t :: w.released⟩
      | none => w
    else w

theorem turn_unsignaled {w : Waiters ι} (h : w.event.signaled = false) (a : Turn ι) :
    (w.turn a).event = w.event ∧ (w.turn a).released = w.released := by
  cases a with
  | enter t => exact ⟨rfl, rfl⟩
  | poll t =>
    by_cases ht : t ∈ w.inside
    · simp [Waiters.turn, ht, Event.poll, h]
    · simp [Waiters.turn, ht]

theorem turns_unsignaled {w : Waiters ι} (h : w.event.signaled = false) (turns : List (Turn ι)) :
    (turns.foldl Waiters.turn w).released = w.released := by
  induction turns generalizing w with
  | nil => rfl
  | cons a turns ih =>
    obtain ⟨hevent, hreleased⟩ := turn_unsignaled h a
    rw [List.foldl_cons, ih (hevent ▸ h), hreleased]

/-- **A pulse** releases all that wait for a notification event, one that waits for a
synchronization event, and none that comes later, exactly when nobody waits. -/
theorem pulse_right_iff (e : Event) (inside : List ι) (turns : List (Turn ι)) :
    let released := (turns.foldl Waiters.turn ⟨e.pulse, inside, []⟩).released
    ((if e.type = .notification then ∀ t ∈ inside, t ∈ released
      else inside ≠ [] → ∃ t, released = [t]) ∧ ∀ t ∈ released, t ∈ inside) ↔ inside = [] := by
  intro released
  have hnone : released = [] := turns_unsignaled rfl turns
  rw [hnone]
  split
  · simp [List.eq_nil_iff_forall_not_mem]
  · simp

/-- One thread waits and looks after the pulse. -/
theorem pulse_missed :
    ([Turn.poll 0].foldl Waiters.turn ⟨(Event.mk .notification false).pulse, [0], []⟩).released = [] := rfl

/-- `mvgal_nt_timer_cancel`. -/
def Timer.cancel (t : Timer) : Timer := {t with expirations := 0, signaled := false, periodic := false}

/-- `mvgal_nt_timer_query`. -/
def Timer.query (t : Timer) : Bool × Timer :=
  let t := if t.expirations > 0 then {t with expirations := 0, signaled := true} else t
  (t.signaled, if t.signaled ∧ t.type = .synchronization then {t with signaled := false} else t)

/-- The timer, whether an expiry is there to be seen, and whether all calls saw what was. -/
structure Watch where
  timer : Timer
  due : Bool
  right : Bool

inductive TimerCall where
  | set (periodMs : UInt32) (armed : Bool)
  | cancel
  | expire
  | query
  | wait

/-- A query or a wait should see what is due; then it is no longer, if the timer synchronizes. -/
def Watch.observed (w : Watch) (seen : Bool) (timer : Timer) : Watch :=
  ⟨timer, w.due && decide (timer.type = .notification), w.right && seen == w.due⟩

def Watch.call (w : Watch) : TimerCall → Option Watch
  | .set periodMs armed => some ⟨w.timer.set periodMs armed, w.due && !armed, w.right⟩
  | .cancel => some ⟨w.timer.cancel, false, w.right⟩
  | .expire => some ⟨w.timer.expire 1, true, w.right⟩
  | .query => some (w.observed w.timer.query.1 w.timer.query.2)
  | .wait => some (w.observed w.timer.poll.isSome (w.timer.poll.getD w.timer))

/-- The expirations of a notification timer are still unread, or a query has read them and
this is one too. -/
def Watch.Sees (w : Watch) (a : TimerCall) : Prop :=
  w.timer.type = .notification → w.due = true →
    match a with
    | .query => 0 < w.timer.expirations ∨ w.timer.signaled = true
    | .wait => 0 < w.timer.expirations
    | _ => True

/-- What is there to be read is due, and for a timer that synchronizes the other way round. -/
def Watch.Inv (w : Watch) : Prop :=
  (w.due = false → w.timer.expirations = 0 ∧ w.timer.signaled = false) ∧
    (w.timer.type = .synchronization → w.timer.signaled = false ∧ (w.due = true → 0 < w.timer.expirations))

theorem call_spec (w : Watch) (a : TimerCall) (w' : Watch) (hi : w.Inv) (hw : w.right = true)
    (hs : w.call a = some w') : (w'.right = true ↔ w.Sees a) ∧ (w'.right = true → w'.Inv) := by
  obtain ⟨⟨type, n, signaled, periodic, periodMs⟩, due, right⟩ := w
  obtain ⟨hquiet, hsync⟩ := hi
  cases a <;> cases hs
  case set periodMs armed =>
    cases armed <;> simp_all [Watch.Sees, Watch.Inv, Timer.set]
  case cancel => simp_all [Watch.Sees, Watch.Inv, Timer.cancel]
  case expire => simp_all [Watch.Sees, Watch.Inv, Timer.expire]
  case query =>
    rcases n.eq_zero_or_pos with h0 | hpos <;> cases type <;> cases signaled <;> cases due <;>
      simp_all [Watch.Sees, Watch.Inv, Watch.observed, Timer.query]
  case wait =>
    rcases n.eq_zero_or_pos with h0 | hpos <;> cases type <;> cases due <;>
      simp_all [Watch.Sees, Watch.Inv, Watch.observed, Timer.poll]

/-- The timer as it is created. -/
def Watch.create (type : TimerType) : Watch := ⟨⟨type, 0, false, false, 0⟩, false, true⟩

/-- **The timer's calls** see what is due exactly when no wait looks at a notification timer
whose expirations are read, and no query at one whose expirations only a wait has read. -/
theorem timer_right_iff (type : TimerType) (calls : List TimerCall) :
    Along Watch.call (·.right = true) (.create type) calls ↔
      Admitted Watch.call Watch.Sees (.create type) calls :=
  along_iff_of_step call_spec ⟨fun _ => ⟨rfl, rfl⟩, fun _ => ⟨rfl, Bool.noConfusion⟩⟩ rfl calls

/-- The second wait misses what the first has seen. -/
theorem second_wait_misses :
    (run Watch.call (.create .notification) [.set 0 true, .expire, .wait, .wait]).map (·.right) = some false :=
  rfl

end Mvgal.Compat
