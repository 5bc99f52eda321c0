import Mvgal.Lib.Run
import Mvgal.Lib.Table

/-! The per-GPU kobjects of the kernel module (`mvgal_main.c`).

A rescan zeroes the slots of the device and then refreshes sysfs, which drops the
kobjects that the slots name and creates new ones. By then the slots name none: the
kobjects of the scan before stay, and keep their names taken.

`kobjects_tracked_iff` says that the slots name the live kobjects exactly as long as
each rescan starts with none. -/
namespace Mvgal.Kernel.Sysfs
open List
open Function (update)
open Table (update_eq_iff)

/-- `MVGAL_UAPI_MAX_GPUS`. -/
def maxSlots : Nat := 32

/-- A `struct mvgal_gpu_sysfs`, by its address; its name is `gpuN` for its index. -/
structure Kobject where
  id : Nat
  index : Nat
deriving DecidableEq

/-- How the creation of a kobject ends, if its name is free. -/
inductive Outcome where
  | noMemory
  | addFails
  | groupFails
  | created
deriving DecidableEq

/-- How far the module is: loaded, with the kobjects dropped on the way out, and gone. -/
inductive Phase where
  | loaded
  | dropped
  | unloaded
deriving DecidableEq

/-- The `sysfs` fields of the slots, the count, and the kobjects that have not been released. -/
structure State where
  sysfs : Nat → Option Kobject
  gpuCount : Nat
  classDev : Bool
  live : List Kobject
  nextId : Nat
  phase : Phase

/-- `mvgal_sysfs_gpu_remove_locked`. The put drops the only reference. -/
def gpuRemove (s : State) (index : Nat) : State :=
  if maxSlots ≤ index then s
  else {s with
    sysfs := update s.sysfs index none
    live := (s.sysfs index).elim s.live fun k => s.live.erase k}

def gpusRemoveAll (s : State) : State := (List.range maxSlots).foldl gpuRemove s

/-- `mvgal_sysfs_gpu_create_locked`. Only a creation that succeeds leaves something. -/
def gpuCreate (outcome : Nat → Outcome) (s : State) (index : Nat) : State :=
  if !s.classDev || s.gpuCount ≤ index then s
  else if (s.sysfs index).isSome then s
  -- The parent has an entry of this name.
  else if s.live.any fun k => k.index = index then s
  else if outcome index = .created then
    let k : Kobject := ⟨s.nextId, index⟩
    {s with sysfs := update s.sysfs index (some k), live := s.live ++ [k], nextId := s.nextId + 1}
  else s

def gpusRefresh (outcome : Nat → Outcome) (s : State) : State :=
  let s := gpusRemoveAll s
  (List.range s.gpuCount).foldl (gpuCreate outcome) s

def countDisplays : List Bool → Nat → Nat
  | [], index => index
  | false :: rest, index => countDisplays rest index
  | true :: rest, index => if maxSlots ≤ index then index else countDisplays rest (index + 1)

def rescan (s : State) (devices : List Bool) : State :=
  {s with sysfs := fun _ => none, gpuCount := countDisplays devices 0}

inductive Source where
  | ioctl
  | attribute
  | hotplug
deriving DecidableEq

inductive Call where
  | rescan (source : Source) (devices : List Bool) (outcome : Nat → Outcome)
  | drop
  | unload

/-- One call. `mvgal_module_exit` drops the kobjects first and removes the class device
later; in between, only the attribute is still there. -/
def call (s : State) : Call → Option State
  | .rescan source devices outcome =>
    if s.phase = .loaded ∨ s.phase = .dropped ∧ source = .attribute then
      some (gpusRefresh outcome (rescan s devices))
    else none
  | .drop => if s.phase = .loaded then some {gpusRemoveAll s with phase := .dropped} else none
  | .unload => if s.phase = .dropped then some {s with classDev := false, phase := .unloaded} else none

def State.initial : State := ⟨fun _ => none, 0, true, [], 0, .loaded⟩

/-- The live kobjects are those of the slots, one for each name, and none is left when the
module is gone. -/
structure Tracked (s : State) : Prop where
  live_iff : ∀ k, k ∈ s.live ↔ ∃ i, i < s.gpuCount ∧ s.sysfs i = some k
  once : (s.live.map Kobject.index).Nodup
  gone : s.phase = .unloaded → s.live = []

/-- A rescan and the end of the unloading start with no kobject in a slot. -/
def CallOk (s : State) : Call → Prop
  | .drop => True
  | .rescan _ _ _ | .unload => ∀ i, s.sysfs i = none

/-! ### What the slots name -/

/-- The kobject of a slot has its name, and a number that was given out. -/
structure Named (s : State) : Prop where
  slot : ∀ i k, s.sysfs i = some k → i < s.gpuCount ∧ k.index = i
  count : s.gpuCount ≤ maxSlots
  fresh : ∀ k ∈ s.live, k.id < s.nextId

/-- The parts of `Tracked` that hold within a call. -/
structure Linked (s : State) : Prop extends Named s where
  live_iff : ∀ k, k ∈ s.live ↔ ∃ i, s.sysfs i = some k
  once : (s.live.map Kobject.index).Nodup

variable {s : State}

theorem Tracked.linked (h : Tracked s) (hn : Named s) : Linked s where
  toNamed := hn
  live_iff k := by
    rw [h.live_iff]
    exact ⟨fun ⟨i, _, hi⟩ => ⟨i, hi⟩, fun ⟨i, hi⟩ => ⟨i, (hn.slot i k hi).1, hi⟩⟩
  once := h.once

theorem Linked.tracked (h : Linked s) (hg : s.phase = .unloaded → s.live = []) : Tracked s where
  live_iff k := by
    rw [h.live_iff]
    exact ⟨fun ⟨i, hi⟩ => ⟨i, (h.slot i k hi).1, hi⟩, fun ⟨i, _, hi⟩ => ⟨i, hi⟩⟩
  once := h.once
  gone := hg

theorem Linked.live_eq_nil_iff (h : Linked s) : s.live = [] ↔ ∀ i, s.sysfs i = none := by
  rw [eq_nil_iff_forall_not_mem]
  constructor
  · intro hnone i
    cases hk : s.sysfs i with
    | none => rfl
    | some k => exact absurd ((h.live_iff k).mpr ⟨i, hk⟩) (hnone k)
  · intro hnone k hk
    obtain ⟨i, hi⟩ := (h.live_iff k).mp hk
    exact absurd hi (by simp [hnone i])

theorem Linked.gpuRemove (h : Linked s) (index : Nat) : Linked (gpuRemove s index) := by
  unfold Sysfs.gpuRemove
  split
  · exact h
  · cases hk : s.sysfs index with
    | none =>
      have hsame : update s.sysfs index none = s.sysfs := Function.update_eq_self_iff.mpr hk.symm
      simp only [hsame, Option.elim_none]
      exact h
    | some k =>
      have hmem : ∀ x, x ∈ s.live.erase k ↔ x ≠ k ∧ x ∈ s.live := fun x => h.once.of_map.mem_erase_iff
      refine ⟨⟨fun i x hx => ?_, h.count, fun x hx => h.fresh x ((hmem x).mp hx).2⟩, fun x => ?_,
        h.once.sublist (erase_sublist.map _)⟩
      · obtain ⟨-, hnone⟩ | ⟨-, hx⟩ := update_eq_iff.mp hx
        · cases hnone
        · exact h.slot i x hx
      · simp only [Option.elim_some, update_eq_iff]
        rw [hmem, h.live_iff]
        constructor
        · rintro ⟨hne, i, hi⟩
          exact ⟨i, .inr ⟨fun heq => hne (Option.some.inj (hi.symm.trans (heq ▸ hk))), hi⟩⟩
        · rintro ⟨i, ⟨-, hnone⟩ | ⟨hindex, hi⟩⟩
          · cases hnone
          · refine ⟨fun heq => hindex ?_, i, hi⟩
            rw [← (h.slot i x hi).2, heq, (h.slot index k hk).2]

theorem gpuRemove_sysfs (s : State) (index i : Nat) :
    (gpuRemove s index).sysfs i = if i = index ∧ index < maxSlots then none else s.sysfs i := by
  unfold gpuRemove
  split
  · rw [if_neg (by omega)]
  · by_cases hi : i = index
    · subst hi
      rw [if_pos ⟨rfl, by omega⟩]
      exact Function.update_self ..
    · rw [if_neg fun h => hi h.1]
      exact Function.update_of_ne hi ..

theorem removeSlots_spec (h : Linked s) (n : Nat) : Linked ((List.range n).foldl gpuRemove s) ∧
      ∀ i, i < n → i < maxSlots → ((List.range n).foldl gpuRemove s).sysfs i = none := by
  induction n with
  | zero => exact ⟨h, fun i hi => absurd hi (by omega)⟩
  | succ n ih =>
    rw [range_succ, foldl_append]
    refine ⟨ih.1.gpuRemove n, fun i hi hmax => ?_⟩
    show (gpuRemove _ n).sysfs i = none
    rw [gpuRemove_sysfs]
    split
    · rfl
    · exact ih.2 i (by omega) hmax

theorem gpusRemoveAll_spec (h : Linked s) :
    Linked (gpusRemoveAll s) ∧ (gpusRemoveAll s).live = [] := by
  obtain ⟨hl, hnone⟩ := removeSlots_spec h maxSlots
  refine ⟨hl, hl.live_eq_nil_iff.mpr fun i => ?_⟩
  cases hk : (gpusRemoveAll s).sysfs i with
  | none => exact hk
  | some k =>
    have hi : i < maxSlots := Nat.lt_of_lt_of_le (hl.slot i k hk).1 hl.count
    exact absurd hk (by simp [gpusRemoveAll, hnone i hi hi])

/-- Nothing is dropped through slots that were zeroed. -/
theorem gpusRemoveAll_of_none (h : ∀ i, s.sysfs i = none) : gpusRemoveAll s = s := by
  unfold gpusRemoveAll
  induction range maxSlots with
  | nil => rfl
  | cons i rest ih =>
    have hsame : gpuRemove s i = s := by
      unfold gpuRemove
      rw [h i, Function.update_eq_self_iff.mpr (h i).symm]
      simp
    rw [foldl_cons, hsame, ih]

variable {outcome : Nat → Outcome}

/-- What a creation does: nothing, or a new kobject under a free name. -/
theorem gpuCreate_cases (outcome : Nat → Outcome) (s : State) (index : Nat) :
    gpuCreate outcome s index = s ∨
      index < s.gpuCount ∧ (∀ k ∈ s.live, k.index ≠ index) ∧ s.sysfs index = none ∧
        gpuCreate outcome s index =
          {s with
            sysfs := update s.sysfs index (some ⟨s.nextId, index⟩)
            live := s.live ++ [⟨s.nextId, index⟩]
            nextId := s.nextId + 1} := by
  unfold gpuCreate
  split
  · exact .inl rfl
  · rename_i hguard
    split
    · exact .inl rfl
    · rename_i hslot
      split
      · exact .inl rfl
      · rename_i hname
        split
        · simp only [Bool.or_eq_true, decide_eq_true_eq, not_or] at hguard
          refine .inr ⟨by omega, fun k hk heq => hname (any_eq_true.mpr ⟨k, hk, ?_⟩), ?_, rfl⟩
          · exact decide_eq_true heq
          · simpa using hslot
        · exact .inl rfl

theorem Linked.gpuCreate (h : Linked s) (index : Nat) : Linked (gpuCreate outcome s index) := by
  obtain hsame | ⟨hlt, hname, hslot, hnew⟩ := gpuCreate_cases outcome s index
  · rwa [hsame]
  · rw [hnew]
    refine ⟨⟨fun i k hk => ?_, h.count, fun k hk => ?_⟩, fun k => ?_, ?_⟩
    · obtain ⟨rfl, hk⟩ | ⟨-, hk⟩ := update_eq_iff.mp hk
      · cases hk
        exact ⟨hlt, rfl⟩
      · exact h.slot i k hk
    · obtain hk | hk := mem_append.mp hk
      · exact Nat.lt_succ_of_lt (h.fresh k hk)
      · obtain rfl := mem_singleton.mp hk
        exact Nat.lt_succ_self _
    · simp only [update_eq_iff]
      rw [mem_append, mem_singleton, h.live_iff]
      constructor
      · rintro (⟨i, hi⟩ | rfl)
        · exact ⟨i, .inr ⟨fun heq => absurd hi (by simp [heq, hslot]), hi⟩⟩
        · exact ⟨index, .inl ⟨rfl, rfl⟩⟩
      · rintro ⟨i, ⟨-, hi⟩ | ⟨-, hi⟩⟩
        · exact .inr (Option.some.inj hi).symm
        · exact .inl ⟨i, hi⟩
    · rw [map_append, nodup_append]
      refine ⟨h.once, by simp, fun i hi j hj => ?_⟩
      obtain ⟨k, hk, rfl⟩ := mem_map.mp hi
      obtain rfl := mem_singleton.mp hj
      exact hname k hk

/-- What every creation preserves, the loop preserves. -/
theorem createAll_preserves {Q : State → Prop} (hstep : ∀ s index, Q s → Q (Sysfs.gpuCreate outcome s index))
    (h : Q s) (indices : List Nat) : Q (indices.foldl (Sysfs.gpuCreate outcome) s) := by
  induction indices generalizing s with
  | nil => exact h
  | cons index rest ih => exact ih (hstep s index h)

/-- The slots name only kobjects numbered from `n` on, while those of `old` are still live. -/
structure Leaked (old : List Kobject) (n : Nat) (s : State) : Prop where
  live : ∀ k ∈ old, k ∈ s.live
  slots : ∀ i k, s.sysfs i = some k → n ≤ k.id
  next : n ≤ s.nextId

theorem Leaked.gpuCreate {old : List Kobject} {n : Nat} (h : Leaked old n s) (index : Nat) :
    Leaked old n (gpuCreate outcome s index) := by
  obtain hsame | ⟨-, -, -, hnew⟩ := gpuCreate_cases outcome s index
  · rwa [hsame]
  · rw [hnew]
    refine ⟨fun k hk => mem_append_left _ (h.live k hk), fun i k hk => ?_, Nat.le_succ_of_le h.next⟩
    obtain ⟨-, hk⟩ | ⟨-, hk⟩ := update_eq_iff.mp hk
    · cases hk
      exact h.next
    · exact h.slots i k hk

theorem countDisplays_le (devices : List Bool) (index : Nat) (h : index ≤ maxSlots) :
    countDisplays devices index ≤ maxSlots := by
  induction devices generalizing index with
  | nil => exact h
  | cons display rest ih =>
    cases display with
    | false => exact ih index h
    | true =>
      unfold countDisplays
      split
      · exact h
      · exact ih (index + 1) (by omega)

theorem gpusRefresh_rescan (s : State) (devices : List Bool) (outcome : Nat → Outcome) :
    gpusRefresh outcome (rescan s devices) =
      (List.range (countDisplays devices 0)).foldl (gpuCreate outcome) (rescan s devices) := by
  unfold gpusRefresh
  rw [gpusRemoveAll_of_none fun _ => rfl]
  rfl

theorem gpuCreate_phase (s : State) (index : Nat) : (gpuCreate outcome s index).phase = s.phase := by
  obtain hsame | ⟨-, -, -, hnew⟩ := gpuCreate_cases outcome s index
  · rw [hsame]
  · rw [hnew]

/-- A rescan that starts with no kobject ends with those of the slots. -/
theorem linked_rescan (hn : Named s) (hlive : s.live = []) (devices : List Bool) :
    Linked (gpusRefresh outcome (rescan s devices)) := by
  have hzeroed : Linked (rescan s devices) := by
    refine ⟨⟨fun i k hk => absurd hk (by simp [rescan]), countDisplays_le devices 0 (by omega), hn.fresh⟩,
      fun k => ?_, ?_⟩
    · simp [rescan, hlive]
    · simp [rescan, hlive]
  rw [gpusRefresh_rescan]
  exact createAll_preserves (fun s index h => h.gpuCreate index) hzeroed _

/-- A kobject that was there is there after a rescan, in no slot. -/
theorem not_tracked_rescan (hn : Named s) {k : Kobject} (hk : k ∈ s.live) (devices : List Bool) :
    ¬ Tracked (gpusRefresh outcome (rescan s devices)) := by
  intro h
  have hzeroed : Leaked s.live s.nextId (rescan s devices) :=
    ⟨fun _ hk => hk, fun i x hx => absurd hx (by simp [rescan]), Nat.le_refl _⟩
  have hleak : Leaked s.live s.nextId (gpusRefresh outcome (rescan s devices)) := by
    rw [gpusRefresh_rescan]
    exact createAll_preserves (fun s index h => h.gpuCreate index) hzeroed _
  obtain ⟨i, -, hi⟩ := (h.live_iff k).mp (hleak.live k hk)
  exact absurd (hn.fresh k hk) (Nat.not_lt.mpr (hleak.slots i k hi))

theorem tracked_call_iff {s' : State} {a : Call} (hn : Named s) (h : Tracked s) (hrun : call s a = some s') :
    Tracked s' ↔ CallOk s a := by
  have hl := h.linked hn
  cases a with
  | rescan source devices outcome =>
    obtain ⟨hphase, rfl⟩ := Run.guarded hrun
    constructor
    · intro h'
      by_contra hsome
      obtain ⟨k, hk⟩ := exists_mem_of_ne_nil _ fun hnil => hsome (hl.live_eq_nil_iff.mp hnil)
      exact not_tracked_rescan hn hk devices h'
    · intro hnone
      refine (linked_rescan hn (hl.live_eq_nil_iff.mpr hnone) devices).tracked fun hgone => ?_
      have hsame : (gpusRefresh outcome (Sysfs.rescan s devices)).phase = s.phase := by
        exact createAll_preserves (fun s' index h => (gpuCreate_phase s' index).trans h) rfl _
      rw [hsame] at hgone
      obtain hp | ⟨hp, -⟩ := hphase
      · exact absurd (hp.symm.trans hgone) (by decide)
      · exact absurd (hp.symm.trans hgone) (by decide)
  | drop =>
    obtain ⟨-, rfl⟩ := Run.guarded hrun
    obtain ⟨hempty, hlive⟩ := gpusRemoveAll_spec hl
    have htracked := hempty.tracked fun _ => hlive
    exact ⟨fun _ => trivial, fun _ => ⟨htracked.live_iff, htracked.once, fun _ => hlive⟩⟩
  | unload =>
    obtain ⟨-, rfl⟩ := Run.guarded hrun
    constructor
    · exact fun h' => hl.live_eq_nil_iff.mp (h'.gone rfl)
    · exact fun hnone => ⟨h.live_iff, h.once, fun _ => hl.live_eq_nil_iff.mpr hnone⟩

theorem named_call {s' : State} {a : Call} (hn : Named s) (h : Tracked s) (hrun : call s a = some s')
    (hok : CallOk s a) : Named s' := by
  have hl := h.linked hn
  cases a with obtain ⟨-, rfl⟩ := Run.guarded hrun
  | rescan source devices outcome =>
    exact (linked_rescan hn (hl.live_eq_nil_iff.mpr hok) devices).toNamed
  | drop =>
    obtain ⟨hempty, -⟩ := gpusRemoveAll_spec hl
    exact ⟨hempty.slot, hempty.count, hempty.fresh⟩
  | unload =>
    exact ⟨hn.slot, hn.count, hn.fresh⟩

/-- **The kobjects of the GPUs.** Along any sequence of rescans and through the unloading
of the module, the live kobjects are those of the slots, each once, and none is left
at the end exactly when every rescan and the end start with no kobject in a slot. -/
theorem kobjects_tracked_iff (calls : List Call) :
    Run.Along call Tracked .initial calls ↔ Run.Admitted call CallOk .initial calls := by
  have hl : Linked .initial := by
    refine ⟨⟨fun i k hk => absurd hk (by simp [State.initial]), Nat.zero_le _, fun k hk => ?_⟩, fun k => ?_, ?_⟩
    · exact absurd hk (by simp [State.initial])
    · simp [State.initial]
    · simp [State.initial]
  exact Run.along_iff_admitted (I := Named) (fun s a s' hn h hrun => tracked_call_iff hn h hrun)
    (fun s a s' hn h hrun hok => named_call hn h hrun hok) hl.toNamed (hl.tracked fun _ => rfl) calls

/-- The second scan of one GPU loses the kobject of the first, and finds its name taken;
the module goes away and leaves it. -/
theorem rescan_leaks : ∃ s, Run.run call .initial
        [.rescan .ioctl [true] fun _ => .created, .rescan .hotplug [true] fun _ => .created] = some s ∧
      s.live = [⟨0, 0⟩] ∧ s.gpuCount = 1 ∧ s.sysfs 0 = none ∧ ¬ Tracked s ∧
      ∃ s', Run.run call s [.drop, .unload] = some s' ∧ s'.live = [⟨0, 0⟩] := by
  refine ⟨_, rfl, rfl, rfl, rfl, fun h => ?_, _, rfl, rfl⟩
  obtain ⟨i, hlt, hi⟩ := (h.live_iff ⟨0, 0⟩).mp (mem_singleton.mpr rfl)
  obtain rfl : i = 0 := Nat.lt_one_iff.mp hlt
  exact nomatch hi

end Mvgal.Kernel.Sysfs
