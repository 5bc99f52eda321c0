import Mathlib.Algebra.Order.BigOperators.Group.Finset
import Mvgal.Kernel.Gpu
import Mvgal.Lib.Run

/-! The power budget of the kernel module (`mvgal_power.c`).

`mvgal_power_budget_distribute` divides what is left of the total into equal shares.
A share is at least 50 W whatever is left, the number of shares is not the number of
GPUs it visits, and a share above the 300 W of a GPU becomes its minimum but not its
limit. The arithmetic is that of `uint32_t`.

`power_fits` says which calls promise what the budget has. -/
namespace Mvgal.Kernel.PowerBudget
open Function (update)

/-- `struct mvgal_gpu_power`. -/
structure GpuPower where
  minWatts : UInt32
  maxWatts : UInt32
  currentWatts : UInt32
  limitWatts : UInt32
deriving DecidableEq

/-- `struct mvgal_power_budget`; the array is a function of the index. -/
structure Budget where
  totalWatts : UInt32
  headroomWatts : UInt32
  allocatedWatts : UInt32
  gpuPower : Nat → GpuPower
  gpuCount : UInt32

structure State where
  budget : Budget
  initialized : Bool

def State.zero : State := ⟨⟨0, 0, 0, fun _ => ⟨0, 0, 0, 0⟩, 0⟩, false⟩

def init : State := ⟨{State.zero.budget with totalWatts := 500, headroomWatts := 50}, true⟩

def registerGpu (s : State) (index : Nat) : Int × State :=
  if !s.initialized || maxGpus ≤ index then (-22, s)
  else if maxGpus ≤ s.budget.gpuCount.toNat then (-28, s)
  else (0, {s with budget := {s.budget with
    gpuPower := update s.budget.gpuPower index ⟨50, 300, 0, 300⟩
    gpuCount := s.budget.gpuCount + 1}})

def unregisterGpu (s : State) (index : Nat) : Int × State :=
  if !s.initialized || maxGpus ≤ index then (-22, s)
  else (0, {s with budget := {s.budget with
    gpuPower := update s.budget.gpuPower index ⟨0, 0, 0, 0⟩
    gpuCount := if 0 < s.budget.gpuCount then s.budget.gpuCount - 1 else s.budget.gpuCount}})

def perGpu (b : Budget) (numGpus priority : UInt32) : UInt32 :=
  max (priority * (b.totalWatts - b.headroomWatts) / (15 * numGpus)) 50

def grant (watts : UInt32) (power : Nat → GpuPower) (idx : Nat) : Nat → GpuPower :=
  update power idx {power idx with
    minWatts := watts
    limitWatts := min (watts * 2) (power idx).maxWatts}

/-- `mvgal_power_budget_distribute`; `gpuIndices` is read up to `numGpus`. -/
def distribute (s : State) (gpuIndices : List Nat) (numGpus priority : UInt32) : Int × State :=
  if !s.initialized || numGpus = 0 then (-22, s)
  else
    let watts := perGpu s.budget numGpus priority
    (0, {s with budget := {s.budget with
      gpuPower := (gpuIndices.take (min numGpus.toNat maxGpus)).foldl (grant watts) s.budget.gpuPower
      allocatedWatts := watts * numGpus}})

def setTotal (s : State) (watts : UInt32) : Int × State :=
  if !s.initialized then (-22, s) else (0, {s with budget := {s.budget with totalWatts := watts}})

def setHeadroom (s : State) (watts : UInt32) : Int × State :=
  if !s.initialized then (-22, s) else (0, {s with budget := {s.budget with headroomWatts := watts}})

inductive Call where
  | init
  | register (index : Nat)
  | unregister (index : Nat)
  | setTotal (watts : UInt32)
  | setHeadroom (watts : UInt32)
  | distribute (gpuIndices : List Nat) (numGpus priority : UInt32)

/-- The state, which indices are registered, and what the last call has served if it
was a distribution that succeeded. -/
structure World where
  state : State
  registered : Finset Nat
  served : Option (List Nat)

def World.initial : World := ⟨.zero, ∅, none⟩

/-- One call. A distribution is given a list of registered indices and a priority up to 15. -/
def call (w : World) : Call → Option World
  | .init => some ⟨init, ∅, none⟩
  | .register index =>
    let r := registerGpu w.state index
    some ⟨r.2, if r.1 = 0 then insert index w.registered else w.registered, none⟩
  | .unregister index =>
    let r := unregisterGpu w.state index
    some ⟨r.2, if r.1 = 0 then w.registered.erase index else w.registered, none⟩
  | .setTotal watts => some ⟨(setTotal w.state watts).2, w.registered, none⟩
  | .setHeadroom watts => some ⟨(setHeadroom w.state watts).2, w.registered, none⟩
  | .distribute gpuIndices numGpus priority =>
    if gpuIndices.length = numGpus.toNat ∧ (∀ i ∈ gpuIndices, i ∈ w.registered) ∧ priority ≤ 15 then
      let r := distribute w.state gpuIndices numGpus priority
      some ⟨r.2, w.registered, if r.1 = 0 then some (gpuIndices.take maxGpus) else none⟩
    else none

/-- The minimum is within the limit, and the limit within what the GPU can take. -/
def GpuPower.Ordered (p : GpuPower) : Prop := p.minWatts ≤ p.limitWatts ∧ p.limitWatts ≤ p.maxWatts

instance (p : GpuPower) : Decidable p.Ordered := inferInstanceAs (Decidable (_ ∧ _))

/-- What a distribution to `served` has promised is in the budget. -/
structure Promised (w : World) (served : List Nat) : Prop where
  sum : w.state.budget.allocatedWatts.toNat =
    ∑ i ∈ served.toFinset, (w.state.budget.gpuPower i).minWatts.toNat
  fits : (w.state.budget.allocatedWatts.toNat : Int) ≤
    w.state.budget.totalWatts.toNat - w.state.budget.headroomWatts.toNat
  ordered : ∀ i ∈ w.registered, (w.state.budget.gpuPower i).Ordered

def Fits (w : World) : Prop := ∀ served, w.served = some served → Promised w served

/-- A distribution that is not refused visits each GPU of its list, once; 50 W for each
are left, and a share is not above 300 W. -/
def CallOk (w : World) : Call → Prop
  | .distribute gpuIndices numGpus priority => w.state.initialized = true → numGpus ≠ 0 →
    let b := w.state.budget
    let available := b.totalWatts.toNat - b.headroomWatts.toNat
    numGpus.toNat ≤ maxGpus ∧ gpuIndices.Nodup ∧
      b.headroomWatts.toNat + 50 * numGpus.toNat ≤ b.totalWatts.toNat ∧
      priority.toNat * available % 2 ^ 32 < 301 * (15 * numGpus.toNat)
  | _ => True

theorem grants_spec (watts : UInt32) (power : Nat → GpuPower) (idxs : List Nat) (i : Nat) :
    idxs.foldl (grant watts) power i =
      if i ∈ idxs then {power i with minWatts := watts, limitWatts := min (watts * 2) (power i).maxWatts}
      else power i := by
  induction idxs generalizing power with
  | nil => rfl
  | cons j rest ih =>
    rw [List.foldl_cons, ih]
    by_cases hij : i = j
    · subst hij
      simp [grant]
    · simp [grant, hij]

variable {numGpus priority : UInt32}

/-- The share, when neither the difference nor the divisor wraps around. -/
theorem perGpu_toNat {b : Budget} (hn : numGpus.toNat ≤ maxGpus)
    (hb : b.headroomWatts.toNat ≤ b.totalWatts.toNat) : (perGpu b numGpus priority).toNat =
      max (priority.toNat * (b.totalWatts.toNat - b.headroomWatts.toNat) % 2 ^ 32 / (15 * numGpus.toNat)) 50 := by
  have hle : b.headroomWatts ≤ b.totalWatts := UInt32.le_iff_toNat_le.mpr hb
  have hsmall : (15 : UInt32).toNat * numGpus.toNat < 2 ^ 32 := by
    have hn : numGpus.toNat ≤ 8 := hn
    show 15 * numGpus.toNat < 2 ^ 32
    omega
  rw [perGpu, UInt32.toNat_max, UInt32.toNat_div, UInt32.toNat_mul, UInt32.toNat_mul,
    UInt32.toNat_sub_of_le _ _ hle, Nat.mod_eq_of_lt hsmall]
  rfl

/-- Shares of what is left add up to no more than it. -/
theorem shares_le {x n p a : Nat} (hp : p ≤ 15) (hx : x ≤ p * a) : x / (15 * n) * n ≤ a := by
  have hdiv : x / (15 * n) * (15 * n) ≤ x := Nat.div_mul_le_self ..
  have hpa : p * a ≤ 15 * a := Nat.mul_le_mul_right a hp
  have h15 : 15 * (x / (15 * n) * n) ≤ 15 * a := by
    calc 15 * (x / (15 * n) * n) = x / (15 * n) * (15 * n) := Nat.mul_left_comm ..
      _ ≤ 15 * a := (hdiv.trans hx).trans hpa
  omega

theorem perGpu_bounds {b : Budget} (hn : numGpus.toNat ≤ maxGpus)
    (hp : priority ≤ 15) (hb : b.headroomWatts.toNat + 50 * numGpus.toNat ≤ b.totalWatts.toNat)
    (hs : priority.toNat * (b.totalWatts.toNat - b.headroomWatts.toNat) % 2 ^ 32 < 301 * (15 * numGpus.toNat)) :
    (perGpu b numGpus priority).toNat ≤ 300 ∧
      (perGpu b numGpus priority).toNat * numGpus.toNat ≤ b.totalWatts.toNat - b.headroomWatts.toNat := by
  have hshare := shares_le (n := numGpus.toNat) (UInt32.le_iff_toNat_le.mp hp)
    (Nat.mod_le (priority.toNat * (b.totalWatts.toNat - b.headroomWatts.toNat)) (2 ^ 32))
  have hlt := Nat.div_lt_of_lt_mul (hs.trans_eq (Nat.mul_comm ..))
  rw [perGpu_toNat hn (by omega)]
  refine ⟨by omega, ?_⟩
  obtain h | h := max_choice
    (priority.toNat * (b.totalWatts.toNat - b.headroomWatts.toNat) % 2 ^ 32 / (15 * numGpus.toNat)) 50
  · rwa [h]
  · rw [h]
    omega

/-- A GPU that is registered can take 300 W, and its limits are in order. -/
def Slots (w : World) : Prop :=
  ∀ i ∈ w.registered, (w.state.budget.gpuPower i).maxWatts = 300 ∧ (w.state.budget.gpuPower i).Ordered

variable {watts : UInt32}

theorem granted_ordered {p : GpuPower} (h : watts.toNat ≤ 300) (hmax : p.maxWatts = 300) :
    GpuPower.Ordered {p with minWatts := watts, limitWatts := min (watts * 2) p.maxWatts} := by
  have h300 : (300 : UInt32).toNat = 300 := rfl
  have h2 : (2 : UInt32).toNat = 2 := rfl
  simp only [GpuPower.Ordered, hmax, UInt32.le_iff_toNat_le, UInt32.toNat_min, UInt32.toNat_mul, h300, h2]
  omega

variable {w : World}

theorem Slots.update {i : Nat} {p : GpuPower} (h : Slots w) {registered : Finset Nat}
    (hsub : ∀ j ∈ registered, j = i ∧ p.maxWatts = 300 ∧ p.Ordered ∨ j ≠ i ∧ j ∈ w.registered) :
    ∀ j ∈ registered, (update w.state.budget.gpuPower i p j).maxWatts = 300 ∧
      (update w.state.budget.gpuPower i p j).Ordered := by
  intro j hj
  obtain ⟨rfl, hp⟩ | ⟨hne, hmem⟩ := hsub j hj
  · rwa [Function.update_self]
  · rw [Function.update_of_ne hne]
    exact h j hmem

theorem slots_register (h : Slots w) (index : Nat) : Slots ⟨(registerGpu w.state index).2,
      if (registerGpu w.state index).1 = 0 then insert index w.registered else w.registered, none⟩ := by
  unfold registerGpu
  split
  · exact h
  · split
    · exact h
    · refine h.update fun j hj => ?_
      by_cases hji : j = index
      · exact .inl ⟨hji, rfl, by decide⟩
      · exact .inr ⟨hji, Finset.mem_of_mem_insert_of_ne hj hji⟩

theorem slots_unregister (h : Slots w) (index : Nat) : Slots ⟨(unregisterGpu w.state index).2,
      if (unregisterGpu w.state index).1 = 0 then w.registered.erase index else w.registered, none⟩ := by
  unfold unregisterGpu
  split
  · exact h
  · exact h.update fun j hj => .inr (Finset.mem_erase.mp hj)

variable {gpuIndices : List Nat}

/-- A distribution that is refused leaves everything as it is. -/
theorem distribute_refused {s : State} (h : ¬ (s.initialized = true ∧ numGpus ≠ 0)) :
    distribute s gpuIndices numGpus priority = (-22, s) := by
  refine if_pos ?_
  by_cases hi : s.initialized = true
  · have h0 : numGpus = 0 := not_not.mp fun h0 => h ⟨hi, h0⟩
    simp [h0]
  · simp [hi]

def State.granted (s : State) (gpuIndices : List Nat) (watts : UInt32) (numGpus : UInt32) : State :=
  {s with budget := {s.budget with
    gpuPower := gpuIndices.foldl (grant watts) s.budget.gpuPower
    allocatedWatts := watts * numGpus}}

theorem distribute_granted {s : State} (priority : UInt32)
    (hi : s.initialized = true) (h0 : numGpus ≠ 0) (hlen : gpuIndices.length = numGpus.toNat)
    (hn : numGpus.toNat ≤ maxGpus) : distribute s gpuIndices numGpus priority =
      (0, s.granted gpuIndices (perGpu s.budget numGpus priority) numGpus) := by
  unfold distribute
  rw [if_neg (by simp [hi, h0]), List.take_of_length_le (by omega)]
  rfl

theorem slots_granted {served : Option (List Nat)} (h : Slots w) (h300 : watts.toNat ≤ 300) :
    Slots ⟨w.state.granted gpuIndices watts numGpus, w.registered, served⟩ := by
  intro i hmem
  obtain ⟨hmax, hord⟩ := h i hmem
  simp only [State.granted, grants_spec]
  split
  · exact ⟨hmax, granted_ordered h300 hmax⟩
  · exact ⟨hmax, hord⟩

/-- Each GPU of the list has the share as its minimum. -/
theorem sum_granted (s : State) (hnodup : gpuIndices.Nodup) :
    ∑ i ∈ gpuIndices.toFinset, ((s.granted gpuIndices watts numGpus).budget.gpuPower i).minWatts.toNat =
      watts.toNat * gpuIndices.length := by
  rw [← List.toFinset_card_of_nodup hnodup, mul_comm]
  refine Finset.sum_const_nat fun i hi => ?_
  simp only [State.granted, grants_spec]
  rw [if_pos (List.mem_toFinset.mp hi)]

theorem promised_granted (h : Slots w)
    (hnodup : gpuIndices.Nodup) (hlen : gpuIndices.length = numGpus.toNat) (h300 : watts.toNat ≤ 300)
    (hb : w.state.budget.headroomWatts.toNat ≤ w.state.budget.totalWatts.toNat)
    (hfits : watts.toNat * numGpus.toNat ≤
      w.state.budget.totalWatts.toNat - w.state.budget.headroomWatts.toNat) :
    Promised ⟨w.state.granted gpuIndices watts numGpus, w.registered, some gpuIndices⟩ gpuIndices := by
  have halloc : (watts * numGpus).toNat = watts.toNat * numGpus.toNat := by
    rw [UInt32.toNat_mul]
    have := w.state.budget.totalWatts.toNat_lt
    exact Nat.mod_eq_of_lt (by omega)
  refine ⟨?_, ?_, fun i hi => (slots_granted h h300 i hi).2⟩
  · rw [sum_granted w.state hnodup, hlen]
    exact halloc
  · simp only [State.granted, halloc]
    omega

/-- One call keeps the slots in order, and a distribution keeps its promise. -/
theorem slots_call {w' : World} {a : Call} (h : Slots w) (hrun : call w a = some w') (hok : CallOk w a) :
    Slots w' ∧ Fits w' := by
  cases a with
  | init =>
    cases hrun
    exact ⟨fun i hi => absurd hi (by simp), fun l hl => absurd hl (by simp)⟩
  | register index =>
    cases hrun
    exact ⟨slots_register h index, fun l hl => nomatch hl⟩
  | unregister index =>
    cases hrun
    exact ⟨slots_unregister h index, fun l hl => nomatch hl⟩
  | setTotal watts =>
    cases hrun
    refine ⟨?_, fun l hl => nomatch hl⟩
    unfold setTotal
    split <;> exact h
  | setHeadroom watts =>
    cases hrun
    refine ⟨?_, fun l hl => nomatch hl⟩
    unfold setHeadroom
    split <;> exact h
  | distribute gpuIndices numGpus priority =>
    obtain ⟨⟨hlen, hreg, hp⟩, rfl⟩ := Run.guarded hrun
    by_cases hset : w.state.initialized = true ∧ numGpus ≠ 0
    · obtain ⟨hn, hnodup, hleft, hshare⟩ := hok hset.1 hset.2
      obtain ⟨h300, hfits⟩ := perGpu_bounds hn hp hleft hshare
      have htake : gpuIndices.take maxGpus = gpuIndices := List.take_of_length_le (by omega)
      rw [distribute_granted priority hset.1 hset.2 hlen hn, htake]
      refine ⟨slots_granted h h300, fun l hl => ?_⟩
      cases hl
      exact promised_granted h hnodup hlen h300 (by omega) hfits
    · rw [distribute_refused hset]
      exact ⟨h, fun l hl => nomatch hl⟩

/-- **The power promised is there.** Along every run whose distributions meet the
condition, each distribution that succeeds promises the sum of the minima it has set,
which the budget has without the headroom, and leaves every registered GPU with a
minimum within its limit and a limit within its maximum. -/
theorem power_fits {calls : List Call} (h : Run.Admitted call CallOk World.initial calls) :
    Run.Along call Fits World.initial calls := by
  refine Run.along_of_admitted
    (fun w a w' hw hrun hok => slots_call hw.1 hrun hok) (fun w hw => hw.2) ⟨?_, ?_⟩ h
  · exact fun i hi => absurd hi (by simp [World.initial])
  · exact fun l hl => absurd hl (by simp [World.initial])

/-- Two GPUs share the default budget at a priority of 8. -/
theorem power_fits_of_two :
    Run.Along call Fits World.initial [.init, .register 0, .register 1, .distribute [0, 1] 2 8] := by
  refine power_fits fun w₁ h₁ => ⟨trivial, fun w₂ h₂ => ⟨trivial, fun w₃ h₃ => ⟨trivial, fun w₄ h₄ => ⟨?_, trivial⟩⟩⟩⟩
  cases h₁
  cases h₂
  cases h₃
  exact fun _ _ => by decide

/-- One GPU gets the 450 W of the default budget as its minimum, and a limit of 300 W; two
GPUs get 100 W of a budget that has none left. -/
theorem share_above_limit :
    ¬ Run.Along call Fits World.initial [.init, .register 0, .distribute [0] 1 15] ∧
    ¬ Run.Along call Fits World.initial
      [.init, .register 0, .register 1, .setTotal 50, .distribute [0, 1] 2 15] := by
  refine ⟨fun h => ?_, fun h => ?_⟩
  · exact absurd ((h.final rfl _ rfl).ordered 0 (by decide)) (by decide)
  · exact absurd (h.final rfl _ rfl).fits (by decide)

end Mvgal.Kernel.PowerBudget
