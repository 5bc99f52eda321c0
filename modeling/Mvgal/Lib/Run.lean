import Mathlib.Logic.Basic

/-! Runs of a guarded step function.

A system is a step function `σ → α → Option σ`: `none` is an action that is not
enabled. A statement about every run says that a property holds in every state
reached (`Along`). A system that keeps the property only while its steps meet a
condition is described by asking the condition of each step, in the state before
it (`Admitted`). When one step preserves the property exactly if it meets the
condition, so does a run: `along_iff_admitted`, proved once and used at every
step function of the development. -/
namespace Mvgal.Run

variable {σ α : Type} (step : σ → α → Option σ)

/-- The state the actions end in, when each is enabled. -/
def run (s : σ) : List α → Option σ
  | [] => some s
  | a :: rest => (step s a).bind (fun s' => run s' rest)

/-- `P` holds in `s` and in every state the actions reach from it. -/
def Along (P : σ → Prop) (s : σ) : List α → Prop
  | [] => P s
  | a :: rest => P s ∧ ∀ s', step s a = some s' → Along P s' rest

/-- Every step taken meets `ok`, asked of the state before it. -/
def Admitted (ok : σ → α → Prop) (s : σ) : List α → Prop
  | [] => True
  | a :: rest => ∀ s', step s a = some s' → ok s a ∧ Admitted ok s' rest

variable {step} {P I : σ → Prop} {ok : σ → α → Prop} {s : σ}

theorem guarded {p : Prop} [Decidable p] {s' : σ} (h : (if p then some s else none) = some s') :
    p ∧ s = s' := by
  obtain ⟨hp, hs⟩ := Option.ite_none_right_eq_some.mp h
  exact ⟨hp, Option.some.inj hs⟩

variable {as : List α}

theorem Along.head (h : Along step P s as) : P s := by
  cases as with
  | nil => exact h
  | cons a rest => exact h.1

/-- A property that holds along a run holds in the state it ends in. -/
theorem Along.final {s' : σ} (h : Along step P s as) (hrun : run step s as = some s') : P s' := by
  induction as generalizing s with
  | nil =>
    cases hrun
    exact h
  | cons a rest ih =>
    obtain ⟨t, ht, hrest⟩ := Option.bind_eq_some_iff.mp hrun
    exact ih (h.2 t ht) hrest

/-- What follows from a property that holds along a run holds along it. -/
theorem Along.mono {Q : σ → Prop} (hPQ : ∀ s, P s → Q s) (h : Along step P s as) :
    Along step Q s as := by
  induction as generalizing s with
  | nil => exact hPQ s h
  | cons a rest ih => exact ⟨hPQ s h.1, fun s' hs => ih (h.2 s' hs)⟩

/-- An invariant every step preserves holds along every run. -/
theorem along_of_preserved (hstep : ∀ s a s', P s → step s a = some s' → P s') (hs : P s)
    (as : List α) : Along step P s as := by
  induction as generalizing s with
  | nil => exact hs
  | cons a rest ih => exact ⟨hs, fun s' h => ih (hstep s a s' hs h)⟩

/-- What the admitted steps keep holds along every admitted run, and so does all that
follows from it. -/
theorem along_of_admitted (hstep : ∀ s a s', I s → step s a = some s' → ok s a → I s')
    (hP : ∀ s, I s → P s) (hi : I s) (h : Admitted step ok s as) : Along step P s as := by
  induction as generalizing s with
  | nil => exact hP s hi
  | cons a rest ih =>
    refine ⟨hP s hi, fun s' hs => ?_⟩
    obtain ⟨hok, hrest⟩ := h s' hs
    exact ih (hstep s a s' hi hs hok) hrest

/-- **The run rule.** `I` is what the admitted steps keep besides `P`. If under `I`
a step preserves `P` exactly when it is admitted, then `P` holds along a run
exactly when every step of the run is admitted. -/
theorem along_iff_admitted (hexact : ∀ s a s', I s → P s → step s a = some s' → (P s' ↔ ok s a))
    (hkeep : ∀ s a s', I s → P s → step s a = some s' → ok s a → I s')
    (hi : I s) (hp : P s) (as : List α) : Along step P s as ↔ Admitted step ok s as := by
  induction as generalizing s with
  | nil => exact ⟨fun _ => trivial, fun _ => hp⟩
  | cons a rest ih =>
    constructor
    · intro h s' hs
      have hok : ok s a := (hexact s a s' hi hp hs).mp (h.2 s' hs).head
      exact ⟨hok, (ih (hkeep s a s' hi hp hs hok) (h.2 s' hs).head).mp (h.2 s' hs)⟩
    · intro h
      refine ⟨hp, fun s' hs => ?_⟩
      obtain ⟨hok, hrest⟩ := h s' hs
      exact (ih (hkeep s a s' hi hp hs hok) ((hexact s a s' hi hp hs).mpr hok)).mpr hrest

/-- The run rule, for a step function of which both are proved together. -/
theorem along_iff_of_step
    (hstep : ∀ s a s', I s → P s → step s a = some s' → (P s' ↔ ok s a) ∧ (P s' → I s'))
    (hi : I s) (hp : P s) (as : List α) : Along step P s as ↔ Admitted step ok s as :=
  along_iff_admitted (fun s a s' hi hp hs => (hstep s a s' hi hp hs).1)
    (fun s a s' hi hp hs hok => (hstep s a s' hi hp hs).2 ((hstep s a s' hi hp hs).1.mpr hok)) hi hp as

/-- The run rule, for a `P` that needs no invariant besides. -/
theorem along_iff_of_exact (hexact : ∀ s a s', P s → step s a = some s' → (P s' ↔ ok s a))
    (hp : P s) (as : List α) : Along step P s as ↔ Admitted step ok s as :=
  along_iff_admitted (fun s a s' _ => hexact s a s') (fun _ _ _ _ _ _ _ => trivial)
    trivial hp as

variable {ε : Type}

/-- The system of calls that end in a state or in a fault; nothing follows a fault. -/
def faulting (call : σ → α → Option (Except ε σ)) : Except ε σ → α → Option (Except ε σ)
  | .error _, _ => none
  | .ok s, a => call s a

/-- There was no fault, and `P` holds. -/
def Safe (P : σ → Prop) : Except ε σ → Prop
  | .error _ => False
  | .ok s => P s

/-- A condition on calls, as one on the steps of the system. -/
def Allowed (ok : σ → α → Prop) : Except ε σ → α → Prop
  | .error _, _ => True
  | .ok s, a => ok s a

theorem safe_along_iff {call : σ → α → Option (Except ε σ)}
    (hexact : ∀ s a r, I s → P s → call s a = some r → (Safe P r ↔ ok s a))
    (hkeep : ∀ s a s', I s → P s → call s a = some (.ok s') → ok s a → I s')
    (hi : I s) (hp : P s) (as : List α) :
    Along (faulting call) (Safe P) (.ok s) as ↔ Admitted (faulting call) (Allowed ok) (.ok s) as := by
  have hi' : Safe I (.ok s : Except ε σ) := hi
  refine along_iff_admitted (fun r a r' hi hp hs => ?_) (fun r a r' hi hp hs hok => ?_) hi' hp as
  · cases r with
    | error e => exact absurd hi id
    | ok s => exact hexact s a r' hi hp hs
  · cases r with
    | error e => exact absurd hi id
    | ok s =>
      cases r' with
      | error e => exact (hexact s a _ hi hp hs).mpr hok
      | ok s' => exact hkeep s a s' hi hp hs hok

theorem safe_along_iff_of_exact {call : σ → α → Option (Except ε σ)}
    (hexact : ∀ s a r, P s → call s a = some r → (Safe P r ↔ ok s a)) (hp : P s) (as : List α) :
    Along (faulting call) (Safe P) (.ok s) as ↔ Admitted (faulting call) (Allowed ok) (.ok s) as :=
  safe_along_iff (fun s a r _ => hexact s a r) (fun _ _ _ _ _ _ _ => trivial) trivial hp as

end Mvgal.Run
