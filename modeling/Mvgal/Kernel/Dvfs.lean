import Mathlib.Data.List.Basic
import Mvgal.Lib.Run

/-! Frequency scaling and thermal throttling of one GPU (`mvgal_power.c`).

Two work handlers write the same two frequencies: the DVFS handler moves them by the
load and the mode, the thermal handler clamps them once for each reading. Every
handler and every call holds the lock of the frequencies, and is one step here.

`dvfs_in_range` says that no interleaving takes a frequency out of the range of the
policy, or wraps around on the way. `throttle_effective_iff` says which steps leave a
throttled GPU below its limit. -/
namespace Mvgal.Kernel.Dvfs

/-- `enum mvgal_dvfs_mode`. -/
inductive Mode where
  | performance
  | balanced
  | powersave
  | custom
deriving DecidableEq

/-- `struct mvgal_dvfs_policy`. -/
structure Policy where
  mode : Mode
  minFreqMhz : UInt32
  maxFreqMhz : UInt32
  upThreshold : UInt32
  downThreshold : UInt32
deriving DecidableEq

/-- `struct mvgal_gpu_dvfs` and `struct mvgal_thermal` of a GPU. -/
structure State where
  policy : Policy
  currentFreqMhz : UInt32
  targetFreqMhz : UInt32
  throttleTempC : Int32
  criticalTempC : Int32
  currentTempC : Int32
  throttleLevel : UInt32
deriving DecidableEq

def State.init : State :=
  ⟨⟨.balanced, 300, 2000, 80, 30⟩, 2000, 2000, 75, 95, 0, 0⟩

def State.applyTarget (s : State) : State :=
  if s.targetFreqMhz ≠ s.currentFreqMhz then {s with currentFreqMhz := s.targetFreqMhz} else s

def State.chooseTarget (s : State) (utilization : UInt32) : UInt32 :=
  match s.policy.mode with
  | .performance => s.policy.maxFreqMhz
  | .powersave => s.policy.minFreqMhz
  | .balanced =>
    if s.policy.upThreshold ≤ utilization then
      if s.currentFreqMhz < s.policy.maxFreqMhz then min (s.currentFreqMhz + 100) s.policy.maxFreqMhz
      else s.targetFreqMhz
    else if utilization ≤ s.policy.downThreshold then
      if s.policy.minFreqMhz < s.currentFreqMhz then max (s.currentFreqMhz - 100) s.policy.minFreqMhz
      else s.targetFreqMhz
    else s.targetFreqMhz
  | .custom => s.targetFreqMhz

def dvfsWorkHandler (s : State) (utilization : UInt32) : State :=
  State.applyTarget {s with targetFreqMhz := s.chooseTarget utilization}

def dvfsSetMode (s : State) (mode : Mode) : State :=
  State.applyTarget {s with
    policy := {s.policy with mode}
    targetFreqMhz := match mode with
      | .performance => s.policy.maxFreqMhz
      | .powersave => s.policy.minFreqMhz
      | _ => s.targetFreqMhz}

def Policy.limit (p : Policy) (throttlePercent : UInt32) : UInt32 :=
  if throttlePercent = 0 then p.maxFreqMhz
  else max (p.maxFreqMhz * (100 - throttlePercent) / 100) p.minFreqMhz

def setFreqLimit (s : State) (throttlePercent : UInt32) : State :=
  let maxFreq := s.policy.limit throttlePercent
  {s with
    targetFreqMhz := min s.targetFreqMhz maxFreq
    currentFreqMhz := if maxFreq < s.currentFreqMhz then maxFreq else s.currentFreqMhz}

/-- The share of the way from the throttling to the critical temperature, in `int32_t`. -/
def throttle (s : State) (temp : Int32) : UInt32 :=
  ((temp - s.throttleTempC) * 100 / (s.criticalTempC - s.throttleTempC)).toUInt32

def thermalWorkHandler (s : State) (temp : Int32) : State :=
  let s := {s with currentTempC := temp}
  if s.criticalTempC ≤ temp then {s with throttleLevel := 100}
  else if s.throttleTempC ≤ temp then
    let level := min (throttle s temp) 100
    setFreqLimit {s with throttleLevel := level} level
  else setFreqLimit {s with throttleLevel := 0} 0

def thermalStop (s : State) : State := setFreqLimit {s with throttleLevel := 0} 0

def thermalSetThresholds (s : State) (throttleTemp criticalTemp : Int32) : State :=
  if criticalTemp ≤ throttleTemp then s
  else {s with throttleTempC := throttleTemp, criticalTempC := criticalTemp}

inductive Event where
  | dvfsTick (utilization : UInt32)
  | setMode (mode : Mode)
  | thermalTick (temp : Int32)
  | setThresholds (throttleTemp criticalTemp : Int32)
  | thermalStop

def step (s : State) : Event → State
  | .dvfsTick utilization => dvfsWorkHandler s utilization
  | .setMode mode => dvfsSetMode s mode
  | .thermalTick temp => thermalWorkHandler s temp
  | .setThresholds throttleTemp criticalTemp => thermalSetThresholds s throttleTemp criticalTemp
  | .thermalStop => thermalStop s

/-- The frequencies are in the range of the policy and the level in percent; and no step
from here wraps around, nor the one that has scaled the limit. -/
structure InRange (s : State) : Prop where
  current : s.policy.minFreqMhz ≤ s.currentFreqMhz ∧ s.currentFreqMhz ≤ s.policy.maxFreqMhz
  target : s.policy.minFreqMhz ≤ s.targetFreqMhz ∧ s.targetFreqMhz ≤ s.policy.maxFreqMhz
  level : s.throttleLevel ≤ 100
  up : (s.currentFreqMhz + 100).toNat = s.currentFreqMhz.toNat + 100
  down : s.policy.minFreqMhz < s.currentFreqMhz →
    (s.currentFreqMhz - 100).toNat + 100 = s.currentFreqMhz.toNat
  scaled : (s.policy.maxFreqMhz * (100 - s.throttleLevel)).toNat =
    s.policy.maxFreqMhz.toNat * (100 - s.throttleLevel.toNat)

def Policy.cap (p : Policy) (level : Nat) : Nat :=
  max (p.maxFreqMhz.toNat * (100 - level) / 100) p.minFreqMhz.toNat

/-- While the GPU is throttled, its frequency is within the limit. -/
def Effective (s : State) : Prop :=
  0 < s.throttleLevel → s.currentFreqMhz.toNat ≤ s.policy.cap s.throttleLevel.toNat

/-- A throttled GPU is not in the mode for performance, and under load it is a step below
its limit; and a critical temperature finds it at the lowest frequency. -/
def EventOk (s : State) : Event → Prop
  | .dvfsTick utilization => 0 < s.throttleLevel → s.policy.mode ≠ .performance ∧
      (s.policy.mode = .balanced → s.policy.upThreshold ≤ utilization →
        s.currentFreqMhz.toNat + 100 ≤ s.policy.cap s.throttleLevel.toNat)
  | .setMode mode => mode = .performance → s.throttleLevel = 0
  | .thermalTick temp => s.criticalTempC ≤ temp → s.currentFreqMhz ≤ s.policy.minFreqMhz
  | .setThresholds _ _ | .thermalStop => True

/-- What every step keeps: the limits of the policy, one frequency as current and target,
in their range, and a level in percent. -/
structure Ready (s : State) : Prop where
  min : s.policy.minFreqMhz = 300
  max : s.policy.maxFreqMhz = 2000
  same : s.targetFreqMhz = s.currentFreqMhz
  low : 300 ≤ s.currentFreqMhz.toNat
  high : s.currentFreqMhz.toNat ≤ 2000
  level : s.throttleLevel.toNat ≤ 100

variable {s : State}

theorem Ready.cap (h : Ready s) (n : Nat) : s.policy.cap n = Max.max (2000 * (100 - n) / 100) 300 := by
  rw [Policy.cap, h.min, h.max]
  rfl

variable {t : UInt32}

theorem toNat_sub_level (ht : t.toNat ≤ 100) : (100 - t).toNat = 100 - t.toNat :=
  UInt32.toNat_sub_of_le _ _ (UInt32.le_iff_toNat_le.mpr ht)

theorem toNat_scaled (ht : t.toNat ≤ 100) : (2000 * (100 - t)).toNat = 2000 * (100 - t.toNat) := by
  rw [UInt32.toNat_mul, toNat_sub_level ht]
  show 2000 * (100 - t.toNat) % 2 ^ 32 = _
  omega

/-- The limit that is set is the one in integers, also without throttling. -/
theorem Ready.limit_toNat (h : Ready s) (ht : t.toNat ≤ 100) :
    (s.policy.limit t).toNat = s.policy.cap t.toNat := by
  rw [h.cap, Policy.limit, h.min, h.max]
  split
  · rename_i h0
    rw [h0]
    rfl
  · rw [UInt32.toNat_max, UInt32.toNat_div, toNat_scaled ht]
    rfl

theorem applyTarget_eq (s : State) : s.applyTarget = {s with currentFreqMhz := s.targetFreqMhz} := by
  unfold State.applyTarget
  split
  · rfl
  · rename_i h
    exact (congrArg (fun f => {s with currentFreqMhz := f}) (not_not.mp h)).symm

section
variable (h : Ready s)
include h

/-- The target in integers: the steps of 100 MHz stop at the ends of the range. -/
theorem Ready.chooseTarget_toNat (utilization : UInt32) :
    (s.chooseTarget utilization).toNat = match s.policy.mode with
      | .performance => 2000
      | .powersave => 300
      | .balanced =>
        if s.policy.upThreshold ≤ utilization then Min.min (s.currentFreqMhz.toNat + 100) 2000
        else if utilization ≤ s.policy.downThreshold then Max.max (s.currentFreqMhz.toNat - 100) 300
        else s.currentFreqMhz.toNat
      | .custom => s.currentFreqMhz.toNat := by
  have hlow := h.low
  have hhigh := h.high
  have hup : (s.currentFreqMhz + 100).toNat = s.currentFreqMhz.toNat + 100 := by
    show (s.currentFreqMhz.toNat + 100) % 2 ^ 32 = _
    omega
  have hdown : (s.currentFreqMhz - 100).toNat = s.currentFreqMhz.toNat - 100 :=
    UInt32.toNat_sub_of_le _ _ (UInt32.le_iff_toNat_le.mpr (by show 100 ≤ _; omega))
  have h300 : (300 : UInt32).toNat = 300 := rfl
  have h2000 : (2000 : UInt32).toNat = 2000 := rfl
  unfold State.chooseTarget
  rw [h.min, h.max, h.same]
  cases s.policy.mode with
  | performance => rfl
  | powersave => rfl
  | custom => rfl
  | balanced =>
    dsimp only
    split
    · split
      · rw [UInt32.toNat_min, hup, h2000]
      · rename_i hmax
        rw [UInt32.lt_iff_toNat_lt, h2000] at hmax
        omega
    · split
      · split
        · rw [UInt32.toNat_max, hdown, h300]
        · rename_i hmin
          rw [UInt32.lt_iff_toNat_lt, h300] at hmin
          omega
      · rfl

theorem Ready.chooseTarget_range (utilization : UInt32) :
    300 ≤ (s.chooseTarget utilization).toNat ∧ (s.chooseTarget utilization).toNat ≤ 2000 := by
  have hlow := h.low
  have hhigh := h.high
  rw [h.chooseTarget_toNat]
  cases s.policy.mode with
  | performance => exact ⟨show 300 ≤ 2000 by decide, Nat.le_refl _⟩
  | powersave => exact ⟨Nat.le_refl _, show 300 ≤ 2000 by decide⟩
  | custom => exact ⟨hlow, hhigh⟩
  | balanced =>
    dsimp only
    split
    · omega
    · split <;> omega

theorem Ready.moved (mode : Mode) {freq : UInt32} (hrange : 300 ≤ freq.toNat ∧ freq.toNat ≤ 2000) :
    Ready (State.applyTarget {s with policy := {s.policy with mode}, targetFreqMhz := freq}) := by
  rw [applyTarget_eq]
  exact ⟨h.min, h.max, rfl, hrange.1, hrange.2, h.level⟩

theorem setFreqLimit_current (ht : t.toNat ≤ 100) :
    (setFreqLimit s t).currentFreqMhz.toNat = Min.min s.currentFreqMhz.toNat (s.policy.cap t.toNat) := by
  have hlimit := h.limit_toNat ht
  unfold setFreqLimit
  dsimp only
  split <;> rename_i hlt <;> rw [UInt32.lt_iff_toNat_lt] at hlt <;> omega

theorem Ready.setFreqLimit (ht : t.toNat ≤ 100) : Ready (setFreqLimit s t) := by
  have hlimit := h.limit_toNat ht
  have hcurrent := setFreqLimit_current h ht
  have hcap := h.cap t.toNat
  have hlow := h.low
  refine ⟨h.min, h.max, UInt32.toNat_inj.mp ?_, by omega, by omega, h.level⟩
  rw [hcurrent, ← hlimit, ← h.same]
  exact UInt32.toNat_min ..

theorem Ready.leveled (temp : Int32) {level : UInt32} (hl : level.toNat ≤ 100) :
    Ready {s with currentTempC := temp, throttleLevel := level} :=
  ⟨h.min, h.max, h.same, h.low, h.high, hl⟩

end

theorem level_le (t : UInt32) : (min t 100).toNat ≤ 100 := by
  rw [UInt32.toNat_min]
  exact Nat.min_le_right ..

theorem Ready.thermalWorkHandler (h : Ready s) (temp : Int32) : Ready (thermalWorkHandler s temp) := by
  unfold Dvfs.thermalWorkHandler
  dsimp only
  split
  · exact h.leveled temp (Nat.le_refl _)
  · split
    · exact (h.leveled temp (level_le _)).setFreqLimit (level_le _)
    · exact (h.leveled temp (Nat.zero_le _)).setFreqLimit (Nat.zero_le _)

theorem Ready.step (h : Ready s) (e : Event) : Ready (step s e) := by
  cases e with
  | dvfsTick utilization => exact h.moved s.policy.mode (h.chooseTarget_range utilization)
  | setMode mode =>
    refine h.moved mode ?_
    cases mode with
    | performance =>
      show 300 ≤ s.policy.maxFreqMhz.toNat ∧ s.policy.maxFreqMhz.toNat ≤ 2000
      rw [h.max]
      decide
    | powersave =>
      show 300 ≤ s.policy.minFreqMhz.toNat ∧ s.policy.minFreqMhz.toNat ≤ 2000
      rw [h.min]
      decide
    | balanced | custom => exact ⟨h.same ▸ h.low, h.same ▸ h.high⟩
  | thermalTick temp => exact h.thermalWorkHandler temp
  | setThresholds throttleTemp criticalTemp =>
    unfold Dvfs.step thermalSetThresholds
    dsimp only
    split
    · exact h
    · exact ⟨h.min, h.max, h.same, h.low, h.high, h.level⟩
  | thermalStop => exact (h.leveled s.currentTempC (Nat.zero_le _)).setFreqLimit (Nat.zero_le _)

theorem Ready.init : Ready .init := ⟨rfl, rfl, rfl, by decide, by decide, by decide⟩

theorem Ready.inRange (h : Ready s) : InRange s := by
  have hlow := h.low
  have hhigh := h.high
  have hmin : s.policy.minFreqMhz ≤ s.currentFreqMhz := by
    rw [h.min]
    exact UInt32.le_iff_toNat_le.mpr hlow
  have hmax : s.currentFreqMhz ≤ s.policy.maxFreqMhz := by
    rw [h.max]
    exact UInt32.le_iff_toNat_le.mpr hhigh
  refine ⟨⟨hmin, hmax⟩, h.same ▸ ⟨hmin, hmax⟩, UInt32.le_iff_toNat_le.mpr h.level, ?_, fun _ => ?_, ?_⟩
  · rw [UInt32.toNat_add]
    show (s.currentFreqMhz.toNat + 100) % 2 ^ 32 = _
    omega
  · rw [UInt32.toNat_sub_of_le _ _ (UInt32.le_iff_toNat_le.mpr (by show 100 ≤ _; omega))]
    show s.currentFreqMhz.toNat - 100 + 100 = _
    omega
  · rw [h.max]
    exact toNat_scaled h.level

/-- **The frequencies stay in range.** Along every interleaving of ticks, mode changes and
changes of the thresholds, the current and the target frequency are in the range of
the policy, the level is in percent, and nothing wraps around. -/
theorem dvfs_in_range (events : List Event) :
    Run.Along (fun s e => some (step s e)) InRange .init events := by
  have hready : Run.Along (fun s e => some (step s e)) Ready .init events :=
    Run.along_of_preserved (fun s e s' h hrun => Option.some.inj hrun ▸ h.step e) .init events
  exact hready.mono fun s h => h.inRange

theorem pos_iff : 0 < t ↔ 0 < t.toNat := UInt32.lt_iff_toNat_lt

theorem Ready.cap_lt (h : Ready s) (hpos : 0 < s.throttleLevel) : s.policy.cap s.throttleLevel.toNat < 2000 := by
  have := pos_iff.mp hpos
  rw [h.cap]
  omega

theorem Ready.le_cap (h : Ready s) (n : Nat) : 300 ≤ s.policy.cap n := by
  rw [h.cap]
  exact Nat.le_max_right ..

theorem effective_moved_iff (mode : Mode) (freq : UInt32) :
    Effective (State.applyTarget {s with policy := {s.policy with mode}, targetFreqMhz := freq}) ↔
      (0 < s.throttleLevel → freq.toNat ≤ s.policy.cap s.throttleLevel.toNat) := by
  rw [applyTarget_eq]
  exact Iff.rfl

section
variable (h : Ready s)
include h

theorem effective_dvfsTick_iff (he : Effective s) (utilization : UInt32) :
    Effective (dvfsWorkHandler s utilization) ↔ EventOk s (.dvfsTick utilization) := by
  refine (effective_moved_iff s.policy.mode _).trans (forall_congr' fun hpos => ?_)
  have hlt := h.cap_lt hpos
  have hge := h.le_cap s.throttleLevel.toNat
  have hnow := he hpos
  rw [h.chooseTarget_toNat]
  cases hmode : s.policy.mode with
  | performance => exact ⟨fun hle => absurd hle (Nat.not_le.mpr hlt), fun hok => absurd rfl hok.1⟩
  | powersave => exact ⟨fun _ => ⟨by decide, nofun⟩, fun _ => hge⟩
  | custom => exact ⟨fun _ => ⟨by decide, nofun⟩, fun _ => hnow⟩
  | balanced =>
    dsimp only
    by_cases hload : s.policy.upThreshold ≤ utilization
    · rw [if_pos hload]
      refine ⟨fun hle => ⟨by decide, fun _ _ => by omega⟩, fun hok => ?_⟩
      have := hok.2 rfl hload
      omega
    · rw [if_neg hload]
      refine ⟨fun _ => ⟨by decide, fun _ hup => absurd hup hload⟩, fun _ => ?_⟩
      split <;> omega

theorem effective_setMode_iff (he : Effective s) (mode : Mode) :
    Effective (dvfsSetMode s mode) ↔ EventOk s (.setMode mode) := by
  refine (effective_moved_iff mode _).trans ?_
  have hstay : 0 < s.throttleLevel → s.targetFreqMhz.toNat ≤ s.policy.cap s.throttleLevel.toNat :=
    fun hpos => h.same ▸ he hpos
  cases mode with
  | performance =>
    constructor
    · intro hall _
      by_contra hne
      have hpos : 0 < s.throttleLevel := pos_iff.mpr (Nat.pos_of_ne_zero fun h0 => hne (UInt32.toNat_inj.mp h0))
      have hmax : s.policy.maxFreqMhz.toNat ≤ _ := hall hpos
      rw [h.max] at hmax
      exact absurd hmax (Nat.not_le.mpr (h.cap_lt hpos))
    · intro hok hpos
      exact absurd hpos (by rw [hok rfl]; decide)
  | powersave =>
    refine ⟨fun _ hm => absurd hm (by decide), fun _ _ => ?_⟩
    rw [h.min]
    exact h.le_cap _
  | balanced | custom => exact ⟨fun _ hm => absurd hm (by decide), fun _ => hstay⟩

/-- The limit of a level is kept from the moment it is set. -/
theorem effective_setFreqLimit : Effective (setFreqLimit s s.throttleLevel) := by
  intro _
  rw [setFreqLimit_current h h.level]
  exact Nat.min_le_right ..

theorem effective_thermalTick_iff (temp : Int32) :
    Effective (thermalWorkHandler s temp) ↔ EventOk s (.thermalTick temp) := by
  unfold thermalWorkHandler EventOk
  by_cases hcrit : s.criticalTempC ≤ temp
  · -- The critical branch sets no limit, so the frequency must be there already.
    rw [if_pos hcrit]
    have hcap : s.policy.cap 100 = s.policy.minFreqMhz.toNat := by
      rw [h.cap, h.min]
      rfl
    rw [UInt32.le_iff_toNat_le, ← hcap]
    exact ⟨fun he _ => he (show (0 : UInt32) < 100 by decide), fun hok _ => hok hcrit⟩
  · rw [if_neg hcrit]
    refine ⟨fun _ hc => absurd hc hcrit, fun _ => ?_⟩
    split
    · exact effective_setFreqLimit (h.leveled temp (level_le _))
    · exact effective_setFreqLimit (h.leveled temp (Nat.zero_le _))

theorem effective_step_iff (he : Effective s) (e : Event) :
    Effective (step s e) ↔ EventOk s e := by
  cases e with
  | dvfsTick utilization => exact effective_dvfsTick_iff h he utilization
  | setMode mode => exact effective_setMode_iff h he mode
  | thermalTick temp => exact effective_thermalTick_iff h temp
  | setThresholds throttleTemp criticalTemp =>
    refine ⟨fun _ => trivial, fun _ => ?_⟩
    unfold step thermalSetThresholds
    dsimp only
    split
    · exact he
    · exact he
  | thermalStop =>
    exact ⟨fun _ => trivial, fun _ => effective_setFreqLimit (h.leveled s.currentTempC (Nat.zero_le _))⟩

end

/-- **Throttling is effective**, from each thermal tick to the next or to the stop, exactly
when no step raises a throttled GPU past its limit (a tick or a change to the mode for
performance, or a tick under load less than 100 MHz below the limit) and a critical
temperature finds the GPU at its lowest frequency. -/
theorem throttle_effective_iff (events : List Event) :
    Run.Along (fun s e => some (step s e)) Effective .init events ↔
      Run.Admitted (fun s e => some (step s e)) EventOk .init events := by
  refine Run.along_iff_admitted (I := Ready) (fun s e s' h he hrun => ?_) (fun s e s' h _ hrun _ => ?_)
    .init (nofun) events
  · cases hrun
    exact effective_step_iff h he e
  · cases hrun
    exact h.step e

/-- At 85 degrees the limit is 1000 MHz, and the next tick under load sets 1100. At 95
degrees the level is 100, and the GPU runs on at 2000 MHz. -/
theorem throttled_gpu_raised :
    ¬ Run.Along (fun s e => some (step s e)) Effective .init [.thermalTick 85, .dvfsTick 100] ∧
    ¬ Run.Along (fun s e => some (step s e)) Effective .init [.thermalTick 95] := by
  refine ⟨fun h => ?_, fun h => ?_⟩
  · exact absurd (h.final rfl (by decide)) (by decide)
  · exact absurd (h.final rfl (by decide)) (by decide)

end Mvgal.Kernel.Dvfs
