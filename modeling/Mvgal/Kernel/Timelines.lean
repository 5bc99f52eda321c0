import Mvgal.Lib.Run
import Mvgal.Lib.Table

/-! Timelines of the kernel module (`mvgal_sync.c`).

`mvgal_timeline_create` looks for a timeline whose value is 0 and does not mark it, so
a timeline is taken only once it was signalled. A signal stores its 64-bit value a
second time in an `atomic_t`, and a fence keeps the number of its timeline in 32 bits.

`timelines_ordered_iff` says which calls keep the timelines apart and their numbers in
order. -/
namespace Mvgal.Kernel.Timelines
open List Option
open Function (update)
open Table (forall_update_iff)

def maxTimelines : Nat := 64

/-- `struct mvgal_timeline`. -/
structure Timeline where
  currentValue : UInt64
  nextValue : UInt64
  signaledValue : BitVec 32

/-- `struct mvgal_fence`, as far as a timeline numbers it. -/
structure Fence where
  seq : UInt32
  timelineValue : UInt64
deriving DecidableEq

def syncInit : Nat → Timeline := fun _ => ⟨0, 1, 0⟩

def timelineCreate (timelines : Nat → Timeline) : Option Nat :=
  (List.range maxTimelines).find? fun i => (timelines i).currentValue = 0

/-- `mvgal_fence_alloc` on a timeline. -/
def fenceAlloc (t : Timeline) : Fence × Timeline :=
  let next := t.nextValue + 1
  (⟨t.nextValue.toUInt32, next⟩, {t with nextValue := next})

def timelineSignal (t : Timeline) (value : UInt64) : Timeline :=
  if t.currentValue < value then
    {t with currentValue := value, signaledValue := value.toBitVec.setWidth 32}
  else t

inductive Call where
  | create
  | fence (timeline : Nat) (allocated : Bool)
  | signal (timeline : Nat) (value : UInt64)
  | wait (timeline : Nat) (value : UInt64)

/-- The timelines; which were handed out, and for each what was signalled, the fences, and
the value before the last call. -/
structure World where
  timelines : Nat → Timeline
  handed : List Nat
  signalled : Nat → List UInt64
  fences : Nat → List Fence
  before : Nat → UInt64

def World.initial : World := ⟨syncInit, [], fun _ => [], fun _ => [], fun _ => 0⟩

/-- One call, on a timeline that was handed out. A wait only reads. -/
def call (w : World) (a : Call) : Option World :=
  let w' := {w with before := fun t => (w.timelines t).currentValue}
  match a with
  | .create =>
    match timelineCreate w.timelines with
    | none => some w'
    | some t => some {w' with handed := w.handed ++ [t]}
  | .fence t allocated =>
    if t ∈ w.handed then
      if allocated then
        let r := fenceAlloc (w.timelines t)
        some {w' with
          timelines := update w.timelines t r.2
          fences := update w.fences t (w.fences t ++ [r.1])}
      else some w'
    else none
  | .signal t value =>
    if t ∈ w.handed then
      some {w' with
        timelines := update w.timelines t (timelineSignal (w.timelines t) value)
        signalled := update w.signalled t (w.signalled t ++ [value])}
    else none
  | .wait t _ => if t ∈ w.handed then some w' else none

/-- A timeline has the greatest value signalled on it, here and in the second place. -/
structure Peak (t : Timeline) (signalled : List UInt64) : Prop where
  greatest : ∀ v ∈ signalled, v ≤ t.currentValue
  attained : signalled = [] ∧ t.currentValue = 0 ∨ t.currentValue ∈ signalled
  published : t.signaledValue.toInt = t.currentValue.toNat

def Fence.Before (f g : Fence) : Prop := f.seq < g.seq ∧ f.timelineValue < g.timelineValue

/-- The timelines handed out until all are out are distinct, no value goes down, each is
the greatest signalled, and the fences of a timeline are in order. -/
structure Ordered (w : World) : Prop where
  distinct : (w.handed.take maxTimelines).Nodup
  rising : ∀ t, w.before t ≤ (w.timelines t).currentValue
  peak : ∀ t, Peak (w.timelines t) (w.signalled t)
  increasing : ∀ t, (w.fences t).Pairwise Fence.Before

/-- A timeline is created while all those handed out have been signalled, or after the last;
a new value is below 2^31, and a fence gets one of the first 2^32 - 1 numbers. -/
def CallOk (w : World) : Call → Prop
  | .create => w.handed.length < maxTimelines → ∀ t ∈ w.handed, (w.timelines t).currentValue ≠ 0
  | .fence t allocated => allocated = true → (w.timelines t).nextValue.toNat < 2 ^ 32
  | .signal t value => (w.timelines t).currentValue < value → value.toNat < 2 ^ 31
  | .wait _ _ => True

theorem published_iff (value : UInt64) :
    (value.toBitVec.setWidth 32).toInt = value.toNat ↔ value.toNat < 2 ^ 31 := by
  rw [BitVec.toInt_eq_toNat_bmod, BitVec.toNat_setWidth, UInt64.toNat_toBitVec]
  have := value.toNat_lt
  constructor
  · intro h
    have := Int.bmod_lt (x := ((value.toNat % 2 ^ 32 : Nat) : Int)) (m := 2 ^ 32) (by decide)
    omega
  · intro h
    rw [Nat.mod_eq_of_lt (by omega)]
    exact Int.bmod_eq_of_le (by omega) (by omega)

theorem timelineSignal_rising (t : Timeline) (value : UInt64) :
    t.currentValue ≤ (timelineSignal t value).currentValue := by
  unfold timelineSignal
  split
  · exact UInt64.le_of_lt ‹_›
  · exact UInt64.le_refl _

theorem timelineSignal_next (t : Timeline) (value : UInt64) :
    (timelineSignal t value).nextValue = t.nextValue := by
  unfold timelineSignal
  split <;> rfl

theorem peak_signal_iff {t : Timeline} {signalled : List UInt64} (h : Peak t signalled) (value : UInt64) :
    Peak (timelineSignal t value) (signalled ++ [value]) ↔ (t.currentValue < value → value.toNat < 2 ^ 31) := by
  unfold timelineSignal
  by_cases hlt : t.currentValue < value
  · rw [if_pos hlt]
    constructor
    · exact fun h' _ => (published_iff value).mp h'.published
    · intro hok
      refine ⟨fun v hv => ?_, .inr (by simp), (published_iff value).mpr (hok hlt)⟩
      obtain hv | hv := mem_append.mp hv
      · exact UInt64.le_trans (h.greatest v hv) (UInt64.le_of_lt hlt)
      · exact mem_singleton.mp hv ▸ UInt64.le_refl _
  · rw [if_neg hlt]
    refine ⟨fun _ hc => absurd hc hlt, fun _ => ⟨fun v hv => ?_, .inr ?_, h.published⟩⟩
    · obtain hv | hv := mem_append.mp hv
      · exact h.greatest v hv
      · exact mem_singleton.mp hv ▸ UInt64.not_lt.mp hlt
    · obtain ⟨-, hzero⟩ | hmem := h.attained
      · -- Nothing was signalled, so the value is 0 too.
        have hval : value = 0 := by
          have := UInt64.le_iff_toNat_le.mp (UInt64.not_lt.mp hlt)
          rw [hzero] at this
          exact UInt64.toNat_inj.mp (Nat.le_zero.mp this)
        simp [hzero, hval]
      · exact mem_append_left _ hmem

/-- The numbers given out so far are those below the next. -/
structure Numbered (t : Timeline) (fences : List Fence) : Prop where
  next_pos : 0 < t.nextValue.toNat
  next_le : t.nextValue.toNat ≤ 2 ^ 32
  below : ∀ f ∈ fences, f.seq.toNat < t.nextValue.toNat ∧ f.timelineValue.toNat ≤ t.nextValue.toNat
  last : 1 < t.nextValue.toNat → ∃ f ∈ fences, f.seq.toNat + 1 = t.nextValue.toNat

variable {t : Timeline} {fences : List Fence}

theorem numbered_init : Numbered ⟨0, 1, 0⟩ [] :=
  ⟨by decide, by decide, fun f hf => absurd hf (by simp), fun h => absurd h (by decide)⟩

theorem Numbered.congr {t' : Timeline} (h : Numbered t fences) (heq : t'.nextValue = t.nextValue) :
    Numbered t' fences :=
  ⟨heq ▸ h.next_pos, heq ▸ h.next_le, heq ▸ h.below, heq ▸ h.last⟩

theorem fenceAlloc_next (h : Numbered t fences) : (t.nextValue + 1).toNat = t.nextValue.toNat + 1 := by
  have := h.next_le
  show (t.nextValue.toNat + 1) % 2 ^ 64 = _
  omega

theorem increasing_fence_iff (hn : Numbered t fences) (h : fences.Pairwise Fence.Before) :
    (fences ++ [(fenceAlloc t).1]).Pairwise Fence.Before ↔ t.nextValue.toNat < 2 ^ 32 := by
  have hseq : (fenceAlloc t).1.seq.toNat = t.nextValue.toNat % 2 ^ 32 := UInt64.toNat_toUInt32 _
  rw [pairwise_append]
  constructor
  · rintro ⟨-, -, hall⟩
    by_contra hge
    -- The number before 2^32 was the last that fits, and the new one is 0.
    obtain ⟨f, hf, hlast⟩ := hn.last (by omega)
    have hlt := UInt32.lt_iff_toNat_lt.mp (hall f hf _ (mem_singleton.mpr rfl)).1
    have := hn.next_le
    omega
  · intro hlt
    refine ⟨h, pairwise_singleton .., fun f hf g hg => ?_⟩
    obtain rfl := mem_singleton.mp hg
    obtain ⟨hs, ht⟩ := hn.below f hf
    refine ⟨UInt32.lt_iff_toNat_lt.mpr (by omega), UInt64.lt_iff_toNat_lt.mpr ?_⟩
    show f.timelineValue.toNat < (t.nextValue + 1).toNat
    rw [fenceAlloc_next hn]
    omega

theorem numbered_fence (h : Numbered t fences) (hlt : t.nextValue.toNat < 2 ^ 32) :
    Numbered (fenceAlloc t).2 (fences ++ [(fenceAlloc t).1]) := by
  have hseq : (fenceAlloc t).1.seq.toNat = t.nextValue.toNat % 2 ^ 32 := UInt64.toNat_toUInt32 _
  have hnext : (fenceAlloc t).2.nextValue.toNat = t.nextValue.toNat + 1 := fenceAlloc_next h
  refine ⟨by omega, by omega, fun f hf => ?_, fun _ => ⟨_, mem_append_right _ (mem_singleton.mpr rfl), ?_⟩⟩
  · obtain hf | hf := mem_append.mp hf
    · have := h.below f hf
      omega
    · obtain rfl := mem_singleton.mp hf
      exact ⟨by omega, Nat.le_refl _⟩
  · omega

/-- The timelines are handed out in order, and the others were not signalled. -/
structure Kept (w : World) : Prop where
  inOrder : w.handed.take maxTimelines = List.range (min w.handed.length maxTimelines)
  untouched : ∀ t, t ∉ w.handed → (w.timelines t).currentValue = 0
  numbered : ∀ t, Numbered (w.timelines t) (w.fences t)

variable {w : World}

theorem Kept.handed_eq (h : Kept w) (hlt : w.handed.length < maxTimelines) :
    w.handed = List.range w.handed.length := by
  have := h.inOrder
  rwa [take_of_length_le (by omega), Nat.min_eq_left (by omega)] at this

theorem Kept.mem_handed (h : Kept w) (hlt : w.handed.length < maxTimelines) (t : Nat) :
    t ∈ w.handed ↔ t < w.handed.length := by
  rw [h.handed_eq hlt, mem_range, length_range]

variable {i : Nat}

theorem timelineCreate_eq_some {timelines : Nat → Timeline} (h : timelineCreate timelines = some i) :
    i < maxTimelines ∧ (timelines i).currentValue = 0 ∧ ∀ j, j < i → (timelines j).currentValue ≠ 0 := by
  obtain ⟨hzero, hmem, hfirst⟩ := find?_range_eq_some.mp h
  exact ⟨mem_range.mp hmem, by simpa using hzero, fun j hj => by simpa using hfirst j hj⟩

/-- While timelines are left, the next one is new exactly when all others were signalled. -/
theorem create_new_iff (h : Kept w) (hlt : w.handed.length < maxTimelines)
    (hi : timelineCreate w.timelines = some i) :
    i ∉ w.handed ↔ ∀ t ∈ w.handed, (w.timelines t).currentValue ≠ 0 := by
  obtain ⟨-, hzero, hfirst⟩ := timelineCreate_eq_some hi
  constructor
  · intro hnew t ht
    rw [h.mem_handed hlt] at hnew ht
    exact hfirst t (by omega)
  · exact fun hall hmem => hall i hmem hzero

theorem create_next (h : Kept w) (hlt : w.handed.length < maxTimelines)
    (hi : timelineCreate w.timelines = some i) (hnew : i ∉ w.handed) : i = w.handed.length := by
  obtain ⟨-, -, hfirst⟩ := timelineCreate_eq_some hi
  rw [h.mem_handed hlt] at hnew
  by_contra hne
  refine hfirst w.handed.length (by omega) (h.untouched _ ?_)
  rw [h.mem_handed hlt]
  exact Nat.lt_irrefl _

theorem distinct_create_iff (h : Kept w) (hd : (w.handed.take maxTimelines).Nodup)
    (hi : timelineCreate w.timelines = some i) :
    ((w.handed ++ [i]).take maxTimelines).Nodup ↔ CallOk w .create := by
  by_cases hlt : w.handed.length < maxTimelines
  · have hd : w.handed.Nodup := by rwa [take_of_length_le (by omega)] at hd
    rw [take_of_length_le (by simp; omega), nodup_append]
    constructor
    · rintro ⟨-, -, hne⟩ _
      exact (create_new_iff h hlt hi).mp fun hmem => hne i hmem i (mem_singleton.mpr rfl) rfl
    · intro hok
      refine ⟨hd, by simp, fun a ha b hb => ?_⟩
      obtain rfl := mem_singleton.mp hb
      exact fun heq => (create_new_iff h hlt hi).mpr (hok hlt) (heq ▸ ha)
  · rw [take_append_of_le_length (by omega)]
    exact ⟨fun _ hc => absurd hc hlt, fun _ => hd⟩

theorem kept_create (h : Kept w) (hi : timelineCreate w.timelines = some i)
    (hok : CallOk w .create) (before : Nat → UInt64) :
    Kept {w with before, handed := w.handed ++ [i]} := by
  refine ⟨?_, fun t ht => h.untouched t fun hmem => ht (mem_append_left _ hmem), h.numbered⟩
  by_cases hlt : w.handed.length < maxTimelines
  · have hnext := create_next h hlt hi ((create_new_iff h hlt hi).mpr (hok hlt))
    have hlen : (w.handed ++ [i]).length = w.handed.length + 1 := length_append
    simp only [hlen]
    rw [take_of_length_le (by omega), Nat.min_eq_left (by omega), range_succ, ← h.handed_eq hlt, hnext]
  · have hlen : (w.handed ++ [i]).length = w.handed.length + 1 := length_append
    simp only [hlen]
    rw [take_append_of_le_length (by omega), h.inOrder, Nat.min_eq_right (by omega),
      Nat.min_eq_right (by omega)]

theorem ordered_read (h : Ordered w) : Ordered {w with before := fun t => (w.timelines t).currentValue} :=
  ⟨h.distinct, fun _ => UInt64.le_refl _, h.peak, h.increasing⟩

theorem update_fenceAlloc (timelines : Nat → Timeline) (t j : Nat) :
    (update timelines t (fenceAlloc (timelines t)).2 j).currentValue = (timelines j).currentValue ∧
      (update timelines t (fenceAlloc (timelines t)).2 j).signaledValue = (timelines j).signaledValue := by
  by_cases hj : j = t
  · subst hj
    simp [fenceAlloc]
  · simp [hj]

theorem ordered_call_iff {w' : World} {a : Call} (hk : Kept w) (h : Ordered w) (hrun : call w a = some w') :
    Ordered w' ↔ CallOk w a := by
  cases a with
  | create =>
    unfold call at hrun
    cases hi : timelineCreate w.timelines with
    | none =>
      simp only [hi, some.injEq] at hrun
      subst hrun
      refine ⟨fun _ hlt t ht => ?_, fun _ => ordered_read h⟩
      have hnone := find?_range_eq_none.mp hi t (Nat.lt_trans ((hk.mem_handed hlt t).mp ht) hlt)
      simpa using hnone
    | some i =>
      simp only [hi, some.injEq] at hrun
      subst hrun
      refine ⟨fun h' => (distinct_create_iff hk h.distinct hi).mp h'.distinct, fun hok => ?_⟩
      exact ⟨(distinct_create_iff hk h.distinct hi).mpr hok, fun _ => UInt64.le_refl _, h.peak, h.increasing⟩
  | fence t allocated =>
    obtain ⟨-, hrun⟩ := ite_none_right_eq_some.mp hrun
    cases allocated with
    | false =>
      cases hrun
      exact ⟨fun _ hc => absurd hc (by simp), fun _ => ordered_read h⟩
    | true =>
      cases hrun
      have hvalue := update_fenceAlloc w.timelines t
      have hiff := (forall_update_iff (R := fun _ fs => fs.Pairwise Fence.Before) (f := w.timelines) h.increasing t
        (fenceAlloc (w.timelines t)).2 (w.fences t ++ [(fenceAlloc (w.timelines t)).1])).trans
          (increasing_fence_iff (hk.numbered t) (h.increasing t))
      refine ⟨fun h' _ => hiff.mp h'.increasing, fun hok => ⟨h.distinct, fun j => ?_, fun j => ?_, hiff.mpr (hok rfl)⟩⟩
      · exact (hvalue j).1 ▸ UInt64.le_refl _
      · refine ⟨?_, ?_, ?_⟩
        · simp only [(hvalue j).1]
          exact (h.peak j).greatest
        · simp only [(hvalue j).1]
          exact (h.peak j).attained
        · simp only [(hvalue j).1, (hvalue j).2]
          exact (h.peak j).published
  | signal t value =>
    obtain ⟨-, rfl⟩ := Run.guarded hrun
    refine Iff.trans ⟨fun h' => h'.peak, fun hpeak => ⟨h.distinct, fun j => ?_, hpeak, h.increasing⟩⟩
      ((forall_update_iff h.peak t _ _).trans (peak_signal_iff (h.peak t) value))
    by_cases hj : j = t
    · subst hj
      simpa using timelineSignal_rising (w.timelines j) value
    · simp [hj]
  | wait t value =>
    obtain ⟨-, rfl⟩ := Run.guarded hrun
    exact ⟨fun _ => trivial, fun _ => ordered_read h⟩

theorem kept_call {w' : World} {a : Call} (h : Kept w) (hrun : call w a = some w') (hok : CallOk w a) :
    Kept w' := by
  cases a with
  | create =>
    unfold call at hrun
    cases hi : timelineCreate w.timelines with
    | none =>
      simp only [hi, some.injEq] at hrun
      subst hrun
      exact ⟨h.inOrder, h.untouched, h.numbered⟩
    | some i =>
      simp only [hi, some.injEq] at hrun
      subst hrun
      exact kept_create h hi hok _
  | fence t allocated =>
    obtain ⟨-, hrun⟩ := ite_none_right_eq_some.mp hrun
    cases allocated with
    | false =>
      cases hrun
      exact ⟨h.inOrder, h.untouched, h.numbered⟩
    | true =>
      cases hrun
      refine ⟨h.inOrder, fun j hj => ?_, ?_⟩
      · exact (update_fenceAlloc w.timelines t j).1.trans (h.untouched j hj)
      · exact (forall_update_iff h.numbered t _ _).mpr (numbered_fence (h.numbered t) (hok rfl))
  | signal t value =>
    obtain ⟨hmem, rfl⟩ := Run.guarded hrun
    refine ⟨h.inOrder, fun j hj => ?_, fun j => ?_⟩
    · have hne : j ≠ t := fun heq => hj (heq ▸ hmem)
      simpa [hne] using h.untouched j hj
    · refine (h.numbered j).congr ?_
      by_cases hj : j = t
      · subst hj
        simpa using timelineSignal_next (w.timelines j) value
      · simp [hj]
  | wait t value =>
    obtain ⟨-, rfl⟩ := Run.guarded hrun
    exact ⟨h.inOrder, h.untouched, h.numbered⟩

/-- **The timelines.** Along any sequence of calls on the timelines handed out, these are
distinct until all are out, their values do not go down and are the greatest signalled,
also as an `int`, and the fences of each are in order, exactly when each is signalled
before the next is created, with values below 2^31, and has less than 2^32 fences. -/
theorem timelines_ordered_iff (calls : List Call) :
    Run.Along call Ordered .initial calls ↔ Run.Admitted call CallOk .initial calls := by
  refine Run.along_iff_admitted (I := Kept) (fun w a w' hk h hrun => ordered_call_iff hk h hrun)
    (fun w a w' hk _ hrun hok => kept_call hk hrun hok) ?_ ?_ calls
  · exact ⟨rfl, fun _ _ => rfl, fun _ => numbered_init⟩
  · exact ⟨.nil, fun _ => UInt64.le_refl _,
      fun _ => ⟨fun v hv => absurd hv (by simp [World.initial]), .inl ⟨rfl, rfl⟩, rfl⟩, fun _ => .nil⟩

/-- Two timelines created in a row are one; and a value of 2^32 is published as 0. -/
theorem timeline_created_twice : ¬ Run.Along call Ordered .initial [.create, .create] ∧
    ¬ Run.Along call Ordered .initial [.create, .signal 0 0x100000000] := by
  refine ⟨fun h => ?_, fun h => ?_⟩
  · exact absurd (h.final rfl).distinct (by decide)
  · exact absurd ((h.final rfl).peak 0).published (by decide)

end Mvgal.Kernel.Timelines
