import Mvgal.Lib.Table

/-! Threads at a condition variable.

A thread that waits is asleep until it is signalled; then it is woken, and it has to
take the mutex and check its condition again. A signal wakes one sleeper, whichever
it is, and none when no one sleeps, so the choices are an argument of `signals`. -/
namespace Mvgal.CondVar
open Function Finset
open Function (update)

/-- Where a thread is; `α` is what a waiting thread waits for. -/
inductive Phase (α : Type) where
  | running
  | asleep (a : α)
  | woken (a : α)
deriving DecidableEq

variable {ι α : Type}

def Phase.isAsleep : Phase α → Bool
  | .asleep _ => true
  | _ => false

/-- The condition of a thread that waits, asleep or woken. -/
def Phase.waiting? : Phase α → Option α
  | .running => none
  | .asleep a => some a
  | .woken a => some a

def Phase.wake : Phase α → Phase α
  | .asleep a => .woken a
  | p => p

def Phase.weight : Phase α → Nat
  | .woken _ => 1
  | _ => 0

theorem wake_asleep {p : Phase α} (h : p.isAsleep = true) : ∃ a, p = .asleep a ∧ p.wake = .woken a := by
  cases p with
  | running | woken a => exact absurd h (by simp [Phase.isAsleep])
  | asleep a => exact ⟨a, rfl, rfl⟩

theorem wake_of_not_asleep {p : Phase α} (h : ¬ p.isAsleep = true) : p.wake = p := by
  cases p with
  | running => rfl
  | asleep a => exact absurd rfl h
  | woken a => rfl

abbrev Threads (ι α : Type) : Type := ι → Phase α

section
variable [Fintype ι] [DecidableEq ι]

def pending (T : Threads ι α) : Nat := ∑ t, (T t).weight

/-- `k` signals in a row, with the threads they wake. -/
def signals : Nat → List ι → Threads ι α → Option (Threads ι α)
  | 0, [], T => some T
  | 0, _ :: _, _ => none
  | _ + 1, [], T => if ∀ t, (T t).isAsleep = false then some T else none
  | k + 1, t :: rest, T =>
    if (T t).isAsleep then signals k rest (update T t (T t).wake) else none

theorem pending_update (T : Threads ι α) (t : ι) (p : Phase α) :
    pending (update T t p) + (T t).weight = pending T + p.weight :=
  Table.sum_update Phase.weight T t p

/-- What signals do: who sleeps after them slept before and was not chosen, no one
waits for anything else, and while someone sleeps each signal is a wake-up more. -/
structure Signalled (k : Nat) (chosen : List ι) (T T' : Threads ι α) : Prop where
  asleep : ∀ t a, T' t = .asleep a → T t = .asleep a ∧ t ∉ chosen
  waiting : ∀ t, (T' t).waiting? = (T t).waiting?
  pending : ∀ t a, T' t = .asleep a → pending T' = pending T + k

theorem Signalled.cons {k : Nat} {u : ι} {rest : List ι} {T T' : Threads ι α}
    (hu : (T u).isAsleep = true) (h : Signalled k rest (update T u (T u).wake) T') :
    Signalled (k + 1) (u :: rest) T T' := by
  obtain ⟨b, hasleep, hwoken⟩ := wake_asleep hu
  rw [hwoken] at h
  refine ⟨fun t a ht => ?_, fun t => ?_, fun t a ht => ?_⟩
  · obtain ⟨hslept, hnot⟩ := h.asleep t a ht
    have htu : t ≠ u := by
      rintro rfl
      rw [update_self] at hslept
      cases hslept
    rw [update_of_ne htu] at hslept
    exact ⟨hslept, by simp [htu, hnot]⟩
  · rw [h.waiting]
    by_cases htu : t = u
    · rw [htu, update_self, hasleep]
      rfl
    · rw [update_of_ne htu]
  · have hstep := pending_update T u (.woken b)
    rw [hasleep] at hstep
    rw [h.pending t a ht]
    simp only [Phase.weight] at hstep
    omega

theorem signals_spec {k : Nat} {chosen : List ι} {T T' : Threads ι α}
    (h : signals k chosen T = some T') : Signalled k chosen T T' := by
  induction chosen generalizing k T with
  | nil =>
    cases k with
    | zero =>
      cases h
      exact ⟨fun t a ht => ⟨ht, by simp⟩, fun t => rfl, fun t a ht => rfl⟩
    | succ k =>
      obtain ⟨hnone, h⟩ := Option.ite_none_right_eq_some.mp h
      obtain rfl := Option.some.inj h
      have hawake (t : ι) (a : α) (ht : T t = .asleep a) : False := by
        have := hnone t
        rw [ht] at this
        exact absurd this (by simp [Phase.isAsleep])
      exact ⟨fun t a ht => (hawake t a ht).elim, fun t => rfl, fun t a ht => (hawake t a ht).elim⟩
  | cons u rest ih =>
    cases k with
    | zero => exact absurd h (by simp [signals])
    | succ k =>
      obtain ⟨hu, h⟩ := Option.ite_none_right_eq_some.mp h
      exact .cons hu (ih h)

end

theorem pending_of_quiet [Fintype ι] {T : Threads ι α} (h : ∀ t a, T t ≠ .woken a) : pending T = 0 := by
  apply sum_eq_zero
  intro t _
  cases ht : T t with
  | running => rfl
  | asleep a => rfl
  | woken a => exact absurd ht (h t a)

end Mvgal.CondVar
