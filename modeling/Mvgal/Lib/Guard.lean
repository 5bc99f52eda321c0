import Mathlib.Logic.Basic

/-! Programs under scoped locks.

A thread runs a program over a state `σ` and takes mutexes `κ` for the extent of a block
(`locked`). A mutex is not recursive: a thread that comes to one it holds already waits for
itself, and the program ends there (`.error`, with the state it leaves behind).

`Passes` says of a program when it comes through, and that it then leaves a part of the
state (`view`) as it was. There is a rule for each way to build a program, so that the lock
discipline of a call graph is read off its text. -/
namespace Mvgal.Guard

/-- A program of a thread that holds the mutexes of the list. -/
structure Guarded (κ σ α : Type) where
  run : List κ → σ → Except σ (α × σ)

variable {κ σ α β γ : Type}

instance : Monad (Guarded κ σ) where
  pure a := ⟨fun _ s => .ok (a, s)⟩
  bind m f := ⟨fun held s =>
    match m.run held s with
    | .ok (a, s') => (f a).run held s'
    | .error s' => .error s'⟩

def read : Guarded κ σ σ := ⟨fun _ s => .ok (s, s)⟩

def change (f : σ → σ) : Guarded κ σ Unit := ⟨fun _ s => .ok ((), f s)⟩

/-- The block of a scoped lock. -/
def locked [DecidableEq κ] (k : κ) (m : Guarded κ σ α) : Guarded κ σ α :=
  ⟨fun held s => if k ∈ held then .error s else m.run (k :: held) s⟩

def each (body : β → Guarded κ σ Unit) : List β → Guarded κ σ Unit
  | [] => pure ()
  | x :: xs => do
    body x
    each body xs

variable {f : α → Guarded κ σ β}

section Run
variable {held : List κ} {s s' : σ}

@[simp] theorem run_pure (a : α) : (pure a : Guarded κ σ α).run held s = .ok (a, s) := rfl

@[simp] theorem run_change (f : σ → σ) : (change f : Guarded κ σ Unit).run held s = .ok ((), f s) := rfl

@[simp] theorem run_read_bind (f : σ → Guarded κ σ α) : (read >>= f).run held s = (f s).run held s := rfl

@[simp] theorem run_change_bind (f : σ → σ) (m : Unit → Guarded κ σ α) :
    (change f >>= m).run held s = (m ()).run held (f s) := rfl

variable {m : Guarded κ σ α}

theorem bind_of_ok {a : α} (h : m.run held s = .ok (a, s')) :
    (m >>= f).run held s = (f a).run held s' := by
  show (match m.run held s with | .ok (a, s') => (f a).run held s' | .error s' => .error s') = _
  rw [h]

theorem bind_of_error (h : m.run held s = .error s') :
    (m >>= f).run held s = .error s' := by
  show (match m.run held s with | .ok (a, s') => (f a).run held s' | .error s' => .error s') = _
  rw [h]

theorem each_of_ok {body : β → Guarded κ σ Unit} {f : σ → β → σ} (h : ∀ x s, (body x).run held s = .ok ((), f s x))
    (xs : List β) : (each body xs).run held s = .ok ((), xs.foldl f s) := by
  induction xs generalizing s with
  | nil => rfl
  | cons x rest ih => exact (bind_of_ok (h x s)).trans ih

variable [DecidableEq κ] {k : κ}

theorem locked_of_notMem (hk : k ∉ held) : (locked k m).run held s = m.run (k :: held) s :=
  if_neg hk

theorem locked_of_mem (hk : k ∈ held) : (locked k m).run held s = .error s := if_pos hk

end Run

/-- The program comes through exactly if `q` holds, and keeps the view. -/
structure Passes (view : σ → γ) (held : List κ) (s : σ) (q : Prop) (m : Guarded κ σ α) : Prop where
  through : q → ∃ a s', m.run held s = .ok (a, s') ∧ view s' = view s
  stuck : ¬ q → ∃ s', m.run held s = .error s'

/-- It comes through in any case. -/
abbrev Free (view : σ → γ) (held : List κ) (s : σ) (m : Guarded κ σ α) : Prop := Passes view held s True m

variable {view : σ → γ} {held : List κ} {s : σ} {p q : Prop} {m : Guarded κ σ α}

theorem Passes.congr (h : Passes view held s p m) (hpq : p ↔ q) : Passes view held s q m := by
  rw [← propext hpq]
  exact h

theorem passes_of_through {a : α} {s' : σ} (h : m.run held s = .ok (a, s'))
    (hview : view s' = view s) : Free view held s m :=
  ⟨fun _ => ⟨a, s', h, hview⟩, fun hq => absurd trivial hq⟩

theorem passes_pure (a : α) : Free view held s (pure a : Guarded κ σ α) := passes_of_through rfl rfl

theorem passes_change {f : σ → σ} (h : view (f s) = view s) : Free view held s (change f : Guarded κ σ Unit) :=
  passes_of_through rfl h

theorem passes_read {f : σ → Guarded κ σ α} (h : Passes view held s q (f s)) :
    Passes view held s q (read >>= f) := ⟨h.through, h.stuck⟩

/-- One program after another, seen through a view that the first keeps as well. -/
theorem passes_seq {δ : Type} {view' : σ → δ}
    (hm : Passes view held s p m) (hf : ∀ a s', view s' = view s → Passes view' held s' q (f a))
    (hview : ∀ s', view s' = view s → view' s' = view' s) : Passes view' held s (p ∧ q) (m >>= f) := by
  constructor
  · rintro ⟨hp, hq⟩
    obtain ⟨a, s₁, hrun, hkept⟩ := hm.through hp
    obtain ⟨b, s₂, hrun', hkept'⟩ := (hf a s₁ hkept).through hq
    refine ⟨b, s₂, ?_, hkept'.trans (hview s₁ hkept)⟩
    rw [bind_of_ok hrun]
    exact hrun'
  · intro hpq
    by_cases hp : p
    · obtain ⟨a, s₁, hrun, hkept⟩ := hm.through hp
      obtain ⟨s₂, hstuck⟩ := (hf a s₁ hkept).stuck fun hq => hpq ⟨hp, hq⟩
      rw [bind_of_ok hrun]
      exact ⟨s₂, hstuck⟩
    · obtain ⟨s₁, hstuck⟩ := hm.stuck hp
      exact ⟨s₁, bind_of_error hstuck⟩

theorem passes_bind (hm : Passes view held s p m)
    (hf : ∀ a s', view s' = view s → Passes view held s' q (f a)) : Passes view held s (p ∧ q) (m >>= f) :=
  passes_seq hm hf fun _ hkept => hkept

/-- After a program that comes through in any case, the rest decides. -/
theorem passes_then (hm : Free view held s m)
    (hf : ∀ a s', view s' = view s → Passes view held s' q (f a)) : Passes view held s q (m >>= f) :=
  (passes_bind hm hf).congr (iff_of_eq (true_and q))

theorem passes_map (f : α → β) (h : Passes view held s q m) : Passes view held s q (f <$> m) :=
  (passes_bind h fun a _ _ => passes_pure (f a)).congr (iff_of_eq (and_true q))

/-- After a program that never comes through, nothing follows. -/
theorem stuck_bind (hm : Passes view held s False m) :
    Passes view held s False (m >>= f) := by
  refine ⟨fun h => h.elim, fun h => ?_⟩
  obtain ⟨s', hstuck⟩ := hm.stuck h
  exact ⟨s', bind_of_error hstuck⟩

theorem passes_if {c : Prop} [Decidable c] {m' : Guarded κ σ α} (h : c → Passes view held s p m)
    (h' : ¬ c → Passes view held s q m') : Passes view held s ((c → p) ∧ (¬ c → q)) (if c then m else m') := by
  by_cases hc : c
  · rw [if_pos hc]
    exact (h hc).congr ⟨fun hp => ⟨fun _ => hp, fun hn => absurd hc hn⟩, fun hpq => hpq.1 hc⟩
  · rw [if_neg hc]
    exact (h' hc).congr ⟨fun hq => ⟨fun hn => absurd hn hc, fun _ => hq⟩, fun hpq => hpq.2 hc⟩

theorem free_if {c : Prop} [Decidable c] {m' : Guarded κ σ α} (h : c → Free view held s m)
    (h' : ¬ c → Free view held s m') : Free view held s (if c then m else m') := by
  by_cases hc : c
  · rw [if_pos hc]
    exact h hc
  · rw [if_neg hc]
    exact h' hc

/-- A call that may return early. -/
theorem free_unless {c : Prop} [Decidable c] {a : α} (h : Free view held s m) :
    Free view held s (if c then pure a else m) :=
  free_if (fun _ => passes_pure a) fun _ => h

theorem free_when {c : Prop} [Decidable c] {a : α} (h : Free view held s m) :
    Free view held s (if c then m else pure a) :=
  free_if (fun _ => h) fun _ => passes_pure a

theorem free_each {body : β → Guarded κ σ Unit} {xs : List β}
    (h : ∀ x s', view s' = view s → Free view held s' (body x)) : Free view held s (each body xs) := by
  induction xs generalizing s with
  | nil => exact passes_pure ()
  | cons x rest ih =>
    apply passes_then (h x s rfl)
    intro _ s' hview
    apply ih
    intro x s'' hview'
    exact h x s'' (hview'.trans hview)

section Locked
variable [DecidableEq κ] {k : κ} {m : Guarded κ σ α}

theorem passes_locked (hk : k ∉ held) (h : Passes view (k :: held) s q m) : Passes view held s q (locked k m) := by
  constructor
  · intro hq
    rw [locked_of_notMem hk]
    exact h.through hq
  · intro hq
    rw [locked_of_notMem hk]
    exact h.stuck hq

theorem stuck_locked (hk : k ∈ held) : Passes view held s False (locked k m) :=
  ⟨fun h => h.elim, fun _ => ⟨s, locked_of_mem hk⟩⟩

end Locked

end Mvgal.Guard
