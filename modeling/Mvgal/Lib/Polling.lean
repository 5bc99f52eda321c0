import Mvgal.Lib.Run
import Mvgal.Lib.Table

/-! Waiting for all of several objects by looking at one after the other.

A pass looks at each listed object in turn. An object that is signalled may be consumed by
the look, whether or not the rest of the pass succeeds; a pass in which every object was
signalled ends the wait. Between the passes others may change the objects.

`Waiting.along_iff` says when such a wait takes all or nothing. -/
namespace Mvgal.Polling
open Function Nat
open Function (update)

/-- A kind of object. `poll` is a look: what is left of a signalled object, or nothing. A look
that consumes makes `units` less, and one that does not changes nothing. -/
structure Kind (O : Type) where
  poll : O → Option O
  consumable : O → Bool
  units : O → Nat
  poll_consumable : ∀ {o o'}, poll o = some o' → consumable o' = consumable o
  poll_units : ∀ {o o'}, poll o = some o' → consumable o = true → units o' < units o
  poll_eq : ∀ {o o'}, poll o = some o' → consumable o = false → o' = o

inductive Limit where
  | none
  | finite
  | infinite
deriving DecidableEq

inductive Answer where
  | acquired
  | timedOut
  | rejected
deriving DecidableEq

section
variable {κ O : Type} [DecidableEq κ] (K : Kind O)

/-- What a pass has made of the objects, how often each entry has been consumed since the
wait began, and how many entries of this pass were signalled. -/
structure Pass (κ O : Type) where
  objects : κ → O
  taken : Nat → Nat
  signaled : Nat

/-- One entry; an empty one is passed over. -/
def look (i : Nat) (p : Pass κ O) : Option κ → Pass κ O
  | none => p
  | some k =>
    match K.poll (p.objects k) with
    | none => p
    | some o =>
      { objects := update p.objects k o
        taken := if K.consumable (p.objects k) then update p.taken i (p.taken i + 1) else p.taken
        signaled := p.signaled + 1 }

/-- The entries from the `i`th on. -/
def pass (p : Pass κ O) (i : Nat) : List (Option κ) → Pass κ O
  | [] => p
  | entry :: rest => pass (look K i p entry) (i + 1) rest

/-- A look at this object takes nothing. -/
def Quiet (o : O) : Prop := K.poll o = none ∨ K.consumable o = false

section Pass
variable {K} {p : Pass κ O} {i : Nat}

theorem look_cases (K : Kind O) (i : Nat) (p : Pass κ O) (entry : Option κ) :
    (look K i p entry = p ∧ ∀ k, entry = some k → K.poll (p.objects k) = none) ∨
      (∃ k, entry = some k ∧ K.consumable (p.objects k) = false ∧
        look K i p entry = {p with signaled := p.signaled + 1}) ∨
      ∃ k o, entry = some k ∧ K.consumable (p.objects k) = true ∧ K.poll (p.objects k) = some o ∧
        look K i p entry = ⟨update p.objects k o, update p.taken i (p.taken i + 1), p.signaled + 1⟩ := by
  cases entry with
  | none => exact .inl ⟨rfl, nofun⟩
  | some k =>
    cases hpoll : K.poll (p.objects k) with
    | none =>
      refine .inl ⟨by simp only [look, hpoll], fun k' hk => ?_⟩
      cases hk
      exact hpoll
    | some o =>
      cases hconsumable : K.consumable (p.objects k) with
      | false =>
        refine .inr (.inl ⟨k, rfl, hconsumable, ?_⟩)
        rw [K.poll_eq hpoll hconsumable] at hpoll
        simp [look, hpoll, hconsumable]
      | true => exact .inr (.inr ⟨k, o, rfl, hconsumable, hpoll, by simp [look, hpoll, hconsumable]⟩)

theorem look_objects (K : Kind O) (i : Nat) (p : Pass κ O) (entry : Option κ) (k : κ) :
    (look K i p entry).objects k = p.objects k ∨
      ∃ o, K.poll (p.objects k) = some o ∧ K.consumable (p.objects k) = true ∧ (look K i p entry).objects k = o := by
  obtain ⟨h, -⟩ | ⟨_, -, -, h⟩ | ⟨k', o, -, hconsumable, hpoll, h⟩ := look_cases K i p entry
  · rw [h]
    exact .inl rfl
  · rw [h]
    exact .inl rfl
  · rw [h]
    by_cases hk : k = k'
    · subst hk
      exact .inr ⟨o, hpoll, hconsumable, update_self ..⟩
    · exact .inl (update_of_ne hk ..)

theorem look_signaled_le (entry : Option κ) : (look K i p entry).signaled ≤ p.signaled + 1 := by
  obtain ⟨h, -⟩ | ⟨_, -, -, h⟩ | ⟨_, _, -, -, -, h⟩ := look_cases K i p entry
  · rw [h]
    exact le_succ _
  · exact le_of_eq (congrArg Pass.signaled h)
  · exact le_of_eq (congrArg Pass.signaled h)

theorem look_taken_of_ne {j : Nat} (hj : j ≠ i) (entry : Option κ) : (look K i p entry).taken j = p.taken j := by
  obtain ⟨h, -⟩ | ⟨_, -, -, h⟩ | ⟨_, _, -, -, -, h⟩ := look_cases K i p entry
  · rw [h]
  · rw [h]
  · rw [h]
    exact update_of_ne hj ..

theorem look_consumable (entry : Option κ) (k : κ) :
    K.consumable ((look K i p entry).objects k) = K.consumable (p.objects k) := by
  obtain h | ⟨o, hpoll, -, h⟩ := look_objects K i p entry k
  · rw [h]
  · rw [h, K.poll_consumable hpoll]

variable (entries : List (Option κ))

theorem pass_consumable (k : κ) :
    K.consumable ((pass K p i entries).objects k) = K.consumable (p.objects k) := by
  induction entries generalizing p i with
  | nil => rfl
  | cons entry rest ih => exact ih.trans (look_consumable entry k)

theorem pass_units_le (k : κ) :
    K.units ((pass K p i entries).objects k) ≤ K.units (p.objects k) := by
  induction entries generalizing p i with
  | nil => exact le_refl _
  | cons entry rest ih =>
    refine le_trans ih ?_
    obtain h | ⟨o, hpoll, hconsumable, h⟩ := look_objects K i p entry k
    · exact le_of_eq (congrArg K.units h)
    · rw [h]
      exact le_of_lt (K.poll_units hpoll hconsumable)

theorem pass_quiet {entries : List (Option κ)} (h : ∀ k, some k ∈ entries → Quiet K (p.objects k)) :
    (pass K p i entries).objects = p.objects ∧ (pass K p i entries).taken = p.taken := by
  induction entries generalizing p i with
  | nil => exact ⟨rfl, rfl⟩
  | cons entry rest ih =>
    have hrest : ∀ k, some k ∈ rest → Quiet K (p.objects k) := fun k hk => h k (List.mem_cons_of_mem entry hk)
    unfold pass
    obtain ⟨hlook, -⟩ | ⟨-, -, -, hlook⟩ | ⟨k, o, rfl, hconsumable, hpoll, -⟩ := look_cases K i p entry
    · rw [hlook]
      exact ih hrest
    · rw [hlook]
      exact ih hrest
    · -- such an entry is not quiet
      obtain hnone | hnot := h k List.mem_cons_self
      · rw [hpoll] at hnone
        cases hnone
      · rw [hconsumable] at hnot
        cases hnot

/-- A pass leaves the objects alone exactly if all are quiet. -/
theorem pass_objects_eq_iff (p : Pass κ O) (i : Nat) (entries : List (Option κ)) :
    (pass K p i entries).objects = p.objects ↔ ∀ k, some k ∈ entries → Quiet K (p.objects k) := by
  refine ⟨fun hsame => ?_, fun h => (pass_quiet h).1⟩
  induction entries generalizing p i with
  | nil => exact nofun
  | cons entry rest ih =>
    unfold pass at hsame
    intro k hk
    obtain ⟨hlook, hnone⟩ | ⟨k', rfl, hnot, hlook⟩ | ⟨k', o, rfl, hconsumable, hpoll, hlook⟩ := look_cases K i p entry
    · rw [hlook] at hsame
      obtain rfl | hk := List.mem_cons.mp hk
      · exact .inl (hnone k rfl)
      · exact ih p _ hsame k hk
    · rw [hlook] at hsame
      obtain hk | hk := List.mem_cons.mp hk
      · cases hk
        exact .inr hnot
      · exact ih _ _ hsame k hk
    · -- what was taken does not come back
      have hless := K.poll_units hpoll hconsumable
      have hle := pass_units_le (K := K) (p := look K i p (some k')) (i := i + 1) rest k'
      rw [hsame, hlook] at hle
      simp only [update_self] at hle
      omega

theorem pass_signaled_le : (pass K p i entries).signaled ≤ p.signaled + entries.length := by
  induction entries generalizing p i with
  | nil => exact le_refl _
  | cons entry rest ih =>
    have hrest := ih (p := look K i p entry) (i := i + 1)
    have hlook := look_signaled_le (K := K) (p := p) (i := i) entry
    rw [pass, List.length_cons]
    omega

/-- The entries before the `i`th are not counted again. -/
theorem pass_taken_of_lt {j : Nat} (hj : j < i) (entries : List (Option κ)) :
    (pass K p i entries).taken j = p.taken j := by
  induction entries generalizing p i with
  | nil => rfl
  | cons entry rest ih => exact (ih (Nat.lt_succ_of_lt hj)).trans (look_taken_of_ne (Nat.ne_of_lt hj) entry)

/-- A pass in which every entry was signalled takes each that can be consumed. -/
theorem pass_taken {entries : List (Option κ)} (h : (pass K p i entries).signaled = p.signaled + entries.length)
    {j : Nat} {k : κ} (hj : entries[j]? = some (some k)) (hconsumable : K.consumable (p.objects k) = true) :
    (pass K p i entries).taken (i + j) = p.taken (i + j) + 1 := by
  induction entries generalizing p i j with
  | nil => cases hj
  | cons entry rest ih =>
    -- neither this entry nor the rest can have missed a signal
    have hrest := pass_signaled_le (K := K) (p := look K i p entry) (i := i + 1) rest
    have hlook := look_signaled_le (K := K) (p := p) (i := i) entry
    rw [pass, List.length_cons] at h
    rw [pass]
    cases j with
    | zero =>
      cases hj
      refine (pass_taken_of_lt (lt_succ_self i) rest).trans ?_
      obtain ⟨hmissed, -⟩ | ⟨k', hk, hnot, -⟩ | ⟨k', o, -, -, -, htaken⟩ := look_cases K i p (some k)
      · rw [hmissed] at hrest h
        omega
      · cases hk
        rw [hconsumable] at hnot
        cases hnot
      · rw [htaken]
        exact update_self ..
    | succ j =>
      have hstep := ih (p := look K i p entry) (i := i + 1) (by omega) hj ((look_consumable entry k).trans hconsumable)
      rw [add_right_comm] at hstep
      rw [← add_assoc, hstep, look_taken_of_ne (by omega)]

end Pass

end

inductive Status where
  /-- Between two passes. -/
  | waiting
  /-- Right after a pass that failed. -/
  | failed
  | acquired
  | rejected
deriving DecidableEq

/-- The objects as they are, and as they would be if the wait were not there. -/
structure Waiting (κ O : Type) where
  objects : κ → O
  ideal : κ → O
  taken : Nat → Nat
  status : Status

/-- Another party acts on an object, or the wait makes a pass. -/
inductive Move (κ E : Type) where
  | act (k : κ) (e : E)
  | pass

namespace Waiting
variable {κ O E : Type} (K : Kind O) (act : E → O → O) (entries : List (Option κ)) (limit : Limit)

def start (objects : κ → O) : Waiting κ O := ⟨objects, objects, fun _ => 0, if entries = [] then .rejected else .waiting⟩

/-- What the wait answers if it looks at the clock now; `late` is whether its time is over. -/
def answer (s : Waiting κ O) (late : Bool) : Option Answer :=
  match s.status with
  | .waiting => none
  | .failed => if limit = .none ∨ (limit = .finite ∧ late = true) then some .timedOut else none
  | .acquired => some .acquired
  | .rejected => some .rejected

/-- **All or nothing.** A wait that may answer that its time is over has changed nothing, and
one that has acquired the objects has taken each once that can be taken. -/
structure AllOrNothing (s : Waiting κ O) : Prop where
  timedOut : ∀ late, s.answer limit late = some .timedOut → s.objects = s.ideal
  acquired : ∀ late, s.answer limit late = some .acquired → ∀ (i : Nat) (k : κ), entries[i]? = some (some k) →
    K.consumable (s.objects k) = true → s.taken i = 1

section Answers
variable {K entries limit} {s : Waiting κ O}

theorem not_acquired (h : s.answer limit false = none) : s.status ≠ .acquired := by
  intro hacquired
  rw [answer, hacquired] at h
  cases h

theorem answer_failed (h : s.status = .failed) :
    (∃ late, s.answer limit late = some .timedOut) ↔ limit ≠ .infinite := by
  simp only [answer, h]
  cases limit <;> simp

theorem allOrNothing_failed (h : s.status = .failed) :
    s.AllOrNothing K entries limit ↔ (limit ≠ .infinite → s.objects = s.ideal) := by
  constructor
  · intro hs hlimit
    obtain ⟨late, hlate⟩ := (answer_failed h).mpr hlimit
    exact hs.timedOut late hlate
  · intro hs
    refine ⟨fun late hlate => hs ((answer_failed h).mp ⟨late, hlate⟩), fun late hlate => ?_⟩
    simp only [answer, h] at hlate
    split at hlate <;> cases hlate

theorem allOrNothing_acquired (h : s.status = .acquired) :
    s.AllOrNothing K entries limit ↔ ∀ (i : Nat) (k : κ), entries[i]? = some (some k) →
      K.consumable (s.objects k) = true → s.taken i = 1 := by
  have hanswer : ∀ late, s.answer limit late = some .acquired := fun late => by rw [answer, h]
  constructor
  · intro hs
    exact hs.acquired false (hanswer false)
  · intro hs
    refine ⟨fun late hlate => ?_, fun _ _ => hs⟩
    rw [hanswer] at hlate
    cases hlate

theorem allOrNothing_waiting (h : s.status = .waiting) : s.AllOrNothing K entries limit := by
  have hanswer : ∀ late, s.answer limit late = none := fun late => by rw [answer, h]
  refine ⟨fun late hlate => ?_, fun late hlate => ?_⟩
  · rw [hanswer] at hlate
    cases hlate
  · rw [hanswer] at hlate
    cases hlate

end Answers

variable [DecidableEq κ]

def next (s : Waiting κ O) : Pass κ O := pass K ⟨s.objects, s.taken, 0⟩ 0 entries

def acted (s : Waiting κ O) (k : κ) (e : E) : Waiting κ O :=
  {s with
    objects := update s.objects k (act e (s.objects k))
    ideal := update s.ideal k (act e (s.ideal k))
    status := .waiting}

def passed (s : Waiting κ O) : Waiting κ O :=
  {s with
    objects := (s.next K entries).objects
    taken := (s.next K entries).taken
    status := if (s.next K entries).signaled = entries.length then .acquired else .failed}

/-- A wait that has to answer makes no further move. -/
def step (s : Waiting κ O) : Move κ E → Option (Waiting κ O)
  | .act k e => if s.answer limit false = none then some (s.acted act k e) else none
  | .pass => if s.answer limit false = none then some (s.passed K entries) else none

/-- A pass that fails takes nothing, unless the time is never over, and before a pass that
succeeds nothing has been taken. -/
def MoveOk (s : Waiting κ O) : Move κ E → Prop
  | .act _ _ => True
  | .pass =>
    if (s.next K entries).signaled = entries.length then
      ∀ (i : Nat) (k : κ), entries[i]? = some (some k) → K.consumable (s.objects k) = true → s.taken i = 0
    else limit ≠ .infinite → ∀ k, some k ∈ entries → Quiet K (s.objects k)

/-- What then holds as long as the wait goes on. -/
def Untouched (s : Waiting κ O) : Prop :=
  limit ≠ .infinite → s.status ≠ .acquired → s.objects = s.ideal ∧ s.taken = fun _ => 0

section Runs
variable {K act entries limit} {s s' : Waiting κ O}

theorem passed_acquired_iff (h : (s.next K entries).signaled = entries.length) :
    (s.passed K entries).AllOrNothing K entries limit ↔ ∀ (i : Nat) (k : κ), entries[i]? = some (some k) →
      K.consumable (s.objects k) = true → s.taken i = 0 := by
  have hstatus : (s.passed K entries).status = .acquired := if_pos h
  have hall : (pass K ⟨s.objects, s.taken, 0⟩ 0 entries).signaled = 0 + entries.length := by rw [zero_add]; exact h
  refine (allOrNothing_acquired hstatus).trans (forall₂_congr fun i k => forall_congr' fun hik => ?_)
  have hkind : K.consumable ((s.passed K entries).objects k) = K.consumable (s.objects k) := pass_consumable entries k
  rw [hkind]
  refine forall_congr' fun hconsumable => ?_
  have htaken := pass_taken hall hik hconsumable
  rw [zero_add] at htaken
  have hcount : (s.passed K entries).taken i = s.taken i + 1 := htaken
  omega

section
variable (hi : s.Untouched limit)
include hi

theorem passed_failed_iff (hopen : s.status ≠ .acquired)
    (h : (s.next K entries).signaled ≠ entries.length) :
    (s.passed K entries).AllOrNothing K entries limit ↔
      (limit ≠ .infinite → ∀ k, some k ∈ entries → Quiet K (s.objects k)) := by
  have hstatus : (s.passed K entries).status = .failed := if_neg h
  refine (allOrNothing_failed hstatus).trans (forall_congr' fun hlimit => ?_)
  rw [← pass_objects_eq_iff ⟨s.objects, s.taken, 0⟩ 0 entries, passed, next, ← (hi hlimit hopen).1]

theorem step_exact_iff {m : Move κ E} (hs : s.step K act entries limit m = some s') :
    s'.AllOrNothing K entries limit ↔ s.MoveOk K entries limit m := by
  cases m with
  | act k e =>
    obtain ⟨-, rfl⟩ := Run.guarded hs
    exact iff_of_true (allOrNothing_waiting rfl) trivial
  | pass =>
    obtain ⟨hopen, rfl⟩ := Run.guarded hs
    simp only [MoveOk]
    split
    · next hall => exact passed_acquired_iff hall
    · next hsome => exact passed_failed_iff hi (not_acquired hopen) hsome

theorem Untouched.step {m : Move κ E} (hs : s.step K act entries limit m = some s')
    (hok : s.MoveOk K entries limit m) : s'.Untouched limit := by
  cases m with
  | act k e =>
    obtain ⟨hopen, rfl⟩ := Run.guarded hs
    intro hlimit _
    obtain ⟨hobjects, htaken⟩ := hi hlimit (not_acquired hopen)
    refine ⟨?_, htaken⟩
    simp only [acted, hobjects]
  | pass =>
    obtain ⟨hopen, rfl⟩ := Run.guarded hs
    intro hlimit hstatus
    obtain ⟨hobjects, htaken⟩ := hi hlimit (not_acquired hopen)
    have hsome : (s.next K entries).signaled ≠ entries.length := fun hall => hstatus (if_pos hall)
    simp only [MoveOk, if_neg hsome] at hok
    obtain ⟨hkept, hnone⟩ := pass_quiet (p := ⟨s.objects, s.taken, 0⟩) (hok hlimit)
    exact ⟨hkept.trans hobjects, hnone.trans htaken⟩

end

/-- **The rule.** A wait takes all or nothing along a run exactly as long as each of its
passes is one of `MoveOk`. -/
theorem along_iff (objects : κ → O) (moves : List (Move κ E)) :
    Run.Along (step K act entries limit) (AllOrNothing K entries limit) (start entries objects) moves ↔
      Run.Admitted (step K act entries limit) (MoveOk K entries limit) (start entries objects) moves := by
  refine Run.along_iff_admitted (fun s m s' hi _ hs => step_exact_iff hi hs)
    (fun s m s' hi _ hs hok => hi.step hs hok) (fun _ _ => ⟨rfl, rfl⟩) ?_ moves
  by_cases hempty : entries = []
  · refine ⟨fun _ hlate => ?_, fun _ hlate => ?_⟩
    all_goals
      simp only [answer, start, if_pos hempty] at hlate
      cases hlate
  · exact allOrNothing_waiting (if_neg hempty)

end Runs

end Waiting

end Mvgal.Polling
