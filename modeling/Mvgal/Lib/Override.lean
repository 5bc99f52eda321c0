import Mvgal.Lib.Run
import Mvgal.Lib.Table

/-! A shared setting that is overwritten for one use and put back.

Each thread reads the setting, writes its own value, makes its use of it and writes back
what it had read; the four are separate steps. From outside the setting is changed by
`choose`. What one hopes for is `Right`: between uses the setting is the one chosen last,
and each use finds the value its thread wrote.

`step_right_iff` says which steps keep that. Under the discipline that the setting is
chosen, and a use is begun, only while no use is under way (`Serial`), all of them do:
`step_exclusive` and `Exclusive.right`. -/
namespace Mvgal.Override
open Function
open Function (update)

variable {ι α : Type}

/-- Where a thread is: its own value, and the one it read. -/
inductive Phase (α : Type) where
  | idle
  | saved (own previous : α)
  | installed (own previous : α)
  | used (own previous : α)

/-- The setting, what was chosen last, the threads, and of each use the value of its thread
with the value it found. -/
structure Cell (ι α : Type) where
  value : α
  chosen : α
  phase : ι → Phase α
  uses : List (α × α)

/-- A use may fail before it looks at the setting. -/
inductive Action (ι α : Type) where
  | save (i : ι) (own : α)
  | install (i : ι)
  | use (i : ι) (happens : Bool)
  | restore (i : ι)
  | choose (a : α)

def step [DecidableEq ι] (c : Cell ι α) : Action ι α → Option (Cell ι α)
  | .save i own =>
    match c.phase i with
    | .idle => some {c with phase := update c.phase i (.saved own c.value)}
    | _ => none
  | .install i =>
    match c.phase i with
    | .saved own previous => some {c with value := own, phase := update c.phase i (.installed own previous)}
    | _ => none
  | .use i happens =>
    match c.phase i with
    | .installed own previous => some { c with
        phase := update c.phase i (.used own previous)
        uses := if happens then c.uses ++ [(own, c.value)] else c.uses }
    | _ => none
  | .restore i =>
    match c.phase i with
    | .used _ previous => some {c with value := previous, phase := update c.phase i .idle}
    | _ => none
  | .choose a => some {c with value := a, chosen := a}

def AtRest (c : Cell ι α) : Prop := ∀ i, c.phase i = .idle

structure Right (c : Cell ι α) : Prop where
  rest : AtRest c → c.value = c.chosen
  owned : ∀ u ∈ c.uses, u.1 = u.2

def Sound (c : Cell ι α) : Action ι α → Prop
  | .use i happens => ∀ own previous, c.phase i = .installed own previous → happens = true → own = c.value
  | .restore i => ∀ own previous, c.phase i = .used own previous → (∀ j, j ≠ i → c.phase j = .idle) →
      previous = c.chosen
  | _ => True

/-- A use is begun, and the setting chosen, at rest only. -/
def Serial (c : Cell ι α) : Action ι α → Prop
  | .save _ _ => AtRest c
  | .choose _ => AtRest c
  | _ => True

variable [DecidableEq ι] {c c' : Cell ι α} {a : Action ι α} {i : ι}

/-- **What a step can do.** -/
theorem step_cases (h : step c a = some c') :
    (∃ i own, a = .save i own ∧ c.phase i = .idle ∧ c' = {c with phase := update c.phase i (.saved own c.value)}) ∨
    (∃ i own previous, a = .install i ∧ c.phase i = .saved own previous ∧
      c' = {c with value := own, phase := update c.phase i (.installed own previous)}) ∨
    (∃ i happens own previous, a = .use i happens ∧ c.phase i = .installed own previous ∧
      c' = { c with
        phase := update c.phase i (.used own previous)
        uses := if happens then c.uses ++ [(own, c.value)] else c.uses }) ∨
    (∃ i own previous, a = .restore i ∧ c.phase i = .used own previous ∧
      c' = {c with value := previous, phase := update c.phase i .idle}) ∨
    ∃ v, a = .choose v ∧ c' = {c with value := v, chosen := v} := by
  cases a with
  | save i own =>
    cases hp : c.phase i <;> simp only [step, hp, reduceCtorEq] at h
    exact .inl ⟨i, own, rfl, hp, (Option.some.inj h).symm⟩
  | install i =>
    cases hp : c.phase i <;> simp only [step, hp, reduceCtorEq] at h
    exact .inr (.inl ⟨i, _, _, rfl, hp, (Option.some.inj h).symm⟩)
  | use i happens =>
    cases hp : c.phase i <;> simp only [step, hp, reduceCtorEq] at h
    exact .inr (.inr (.inl ⟨i, happens, _, _, rfl, hp, (Option.some.inj h).symm⟩))
  | restore i =>
    cases hp : c.phase i <;> simp only [step, hp, reduceCtorEq] at h
    exact .inr (.inr (.inr (.inl ⟨i, _, _, rfl, hp, (Option.some.inj h).symm⟩)))
  | choose v => exact .inr (.inr (.inr (.inr ⟨v, rfl, (Option.some.inj h).symm⟩)))

variable {p : Phase α}

/-- A thread that is not idle is still there after another one moved. -/
theorem not_atRest_of_update (hp : p ≠ .idle) (value chosen : α) (uses : List (α × α)) :
    ¬ AtRest (⟨value, chosen, update c.phase i p, uses⟩ : Cell ι α) := by
  intro h
  have hi : update c.phase i p i = .idle := h i
  rw [update_self] at hi
  exact hp hi

theorem atRest_update_iff (value chosen : α) (uses : List (α × α)) :
    AtRest (⟨value, chosen, update c.phase i .idle, uses⟩ : Cell ι α) ↔ ∀ j, j ≠ i → c.phase j = .idle := by
  constructor
  · intro h j hj
    have hphase : update c.phase i .idle j = .idle := h j
    rwa [update_of_ne hj] at hphase
  · intro h j
    show update c.phase i .idle j = .idle
    by_cases hj : j = i
    · rw [hj, update_self]
    · rw [update_of_ne hj]
      exact h j hj

omit [DecidableEq ι] in
theorem owned_use {own : α} {happens : Bool} (howned : ∀ u ∈ c.uses, u.1 = u.2) (hv : happens = true → own = c.value) :
    ∀ u ∈ if happens then c.uses ++ [(own, c.value)] else c.uses, u.1 = u.2 := by
  cases happens with
  | false => exact howned
  | true => exact List.forall_mem_append.mpr ⟨howned, List.forall_mem_singleton.mpr (hv rfl)⟩

/-- One step keeps things right exactly if it is sound. -/
theorem step_right_iff (hr : Right c) (h : step c a = some c') : Right c' ↔ Sound c a := by
  obtain ⟨i, own, rfl, hp, rfl⟩ | ⟨i, own, previous, rfl, hp, rfl⟩ | ⟨i, happens, own, previous, rfl, hp, rfl⟩ |
    ⟨i, own, previous, rfl, hp, rfl⟩ | ⟨v, rfl, rfl⟩ := step_cases h
  · exact iff_of_true ⟨fun h => absurd h (not_atRest_of_update (by simp) _ _ _), hr.owned⟩ trivial
  · exact iff_of_true ⟨fun h => absurd h (not_atRest_of_update (by simp) _ _ _), hr.owned⟩ trivial
  · constructor
    · intro hr' own' previous' hp' hhappens
      cases hp.symm.trans hp'
      apply hr'.owned (own, c.value)
      simp [hhappens]
    · intro hs
      exact ⟨fun h => absurd h (not_atRest_of_update (by simp) _ _ _), owned_use hr.owned (hs own previous hp)⟩
  · constructor
    · intro hr' own' previous' hp' hothers
      cases hp.symm.trans hp'
      exact hr'.rest ((atRest_update_iff ..).mpr hothers)
    · intro hs
      exact ⟨fun h => hs own previous hp ((atRest_update_iff ..).mp h), hr.owned⟩
  · exact iff_of_true ⟨fun _ => rfl, hr.owned⟩ trivial

/-- The values around the one use that is under way. -/
def Phase.Agrees (value chosen : α) : Phase α → Prop
  | .idle => value = chosen
  | .saved _ previous => value = chosen ∧ previous = chosen
  | .installed own previous => value = own ∧ previous = chosen
  | .used _ previous => previous = chosen

/-- At most one use is under way, and the setting is as it left it. -/
structure Exclusive (c : Cell ι α) : Prop where
  one : ∃ i, (∀ j, j ≠ i → c.phase j = .idle) ∧ (c.phase i).Agrees c.value c.chosen
  owned : ∀ u ∈ c.uses, u.1 = u.2

omit [DecidableEq ι] in
theorem Exclusive.right (h : Exclusive c) : Right c := by
  obtain ⟨i, -, hagrees⟩ := h.one
  refine ⟨fun hrest => ?_, h.owned⟩
  rw [hrest i] at hagrees
  exact hagrees

theorem Exclusive.of_phase (h : Exclusive c) (hi : c.phase i = p) (hp : p ≠ .idle) :
    (∀ j, j ≠ i → c.phase j = .idle) ∧ p.Agrees c.value c.chosen := by
  obtain ⟨k, hothers, hagrees⟩ := h.one
  have hk : i = k := by
    by_contra hne
    exact hp (hi.symm.trans (hothers i hne))
  subst hk
  rw [hi] at hagrees
  exact ⟨hothers, hagrees⟩

theorem exclusive_update {value chosen : α} {uses : List (α × α)}
    (hothers : ∀ j, j ≠ i → c.phase j = .idle) (hp : p.Agrees value chosen) (howned : ∀ u ∈ uses, u.1 = u.2) :
    Exclusive (⟨value, chosen, update c.phase i p, uses⟩ : Cell ι α) := by
  refine ⟨⟨i, fun j hj => ?_, ?_⟩, howned⟩
  · show update c.phase i p j = .idle
    rw [update_of_ne hj]
    exact hothers j hj
  · show (update c.phase i p i).Agrees value chosen
    rw [update_self]
    exact hp

theorem step_exclusive (he : Exclusive c) (h : step c a = some c') (hs : Serial c a) : Exclusive c' := by
  obtain ⟨i, own, rfl, hp, rfl⟩ | ⟨i, own, previous, rfl, hp, rfl⟩ | ⟨i, happens, own, previous, rfl, hp, rfl⟩ |
    ⟨i, own, previous, rfl, hp, rfl⟩ | ⟨v, rfl, rfl⟩ := step_cases h
  · have hvalue := he.right.rest hs
    exact exclusive_update (fun j _ => hs j) ⟨hvalue, hvalue⟩ he.owned
  · obtain ⟨hothers, hagrees⟩ := he.of_phase hp (by simp)
    exact exclusive_update hothers ⟨rfl, hagrees.2⟩ he.owned
  · obtain ⟨hothers, hagrees⟩ := he.of_phase hp (by simp)
    exact exclusive_update hothers hagrees.2 (owned_use he.owned fun _ => hagrees.1.symm)
  · obtain ⟨hothers, hagrees⟩ := he.of_phase hp (by simp)
    exact exclusive_update hothers hagrees he.owned
  · obtain ⟨i, hothers, -⟩ := he.one
    refine ⟨⟨i, hothers, ?_⟩, he.owned⟩
    rw [hs i]
    rfl

end Mvgal.Override
