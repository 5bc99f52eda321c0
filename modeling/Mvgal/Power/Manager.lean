import Mathlib.Data.Fintype.Basic
import Mvgal.Lib.Sweep

/-! The power manager (`power_manager.c`).

A GPU is suspended when it is parked, when it is too hot, when the system enters S0ix and on
request; it is switched on again when it is unparked and on request. Each of these reads and
writes flags of its own. The monitor thread does all of its work under the lock, so one pass over
the GPUs is one step, as is each call. The environment supplies what a step meets: readings that
may fail, the time at each place where the source reads the clock, and the outcome of each write
to `power/control`.

`monitorTick_gpu` says what a pass does to one GPU, and `monitorGpu_cases` what the turn of a GPU
can be. -/
namespace Mvgal.Power

inductive PowerState where
  | unknown
  | off
  | suspend
  | idle
  | on
  | performance
deriving DecidableEq, Repr

/-- The reasons of `mvgal_thermal_reason_t` that the power manager gives. -/
inductive ThermalReason where
  | none
  | highTemp
  | critical
deriving DecidableEq, Repr

/-- A callback and its `user_data`. -/
abbrev LazyInit : Type := UInt64 × UInt64

/-- What happened to a GPU: it was switched on, throttled or not; an unpark released it, in some
state; a callback was invoked. -/
inductive PmEvent where
  | switchedOn (throttled : Bool)
  | released (state : PowerState) (parked : Bool)
  | invoked (init : LazyInit)
deriving DecidableEq, Repr

/-- `mvgal_gpu_pm_state_t`. The source has no `trace`; it keeps what statements about histories
need. -/
structure GpuPm where
  currentState : PowerState
  requestedState : PowerState
  lastActivityNs : UInt64
  idleThresholdNs : UInt64
  isIdle : Bool
  autoPowerManage : Bool
  s0ixCapable : Bool
  s0ixEnabled : Bool
  s0ixTimeNs : UInt64
  isParked : Bool
  currentTemp : Float32
  isThrottled : Bool
  throttleReason : ThermalReason
  lazyInitPending : Bool
  lazyInitData : UInt64
  trace : List PmEvent

/-- `mvgal_power_manager_t`, without its statistics. -/
structure PowerManager (n : Nat) where
  idleThresholdMs : UInt32
  parkTimeoutMs : UInt32
  s0ixEnabled : Bool
  lazyInitEnabled : Bool
  thermalThrottlingEnabled : Bool
  s0ixActive : Bool
  s0ixEnterTimeNs : UInt64
  gpus : Fin n → GpuPm

def msToNs (ms : UInt32) : UInt64 := ms.toUInt64 * 1000000

structure PmConfig where
  idleThresholdMs : UInt32
  parkTimeoutMs : UInt32
  enableS0ix : Bool
  lazyInit : Bool
  thermalThrottling : Bool

def gpuInit (idleThresholdMs : UInt32) (s0ixEnabled primary : Bool) (now : UInt64) : GpuPm :=
  { currentState := .on
    requestedState := .off
    lastActivityNs := now
    idleThresholdNs := msToNs idleThresholdMs
    isIdle := false
    autoPowerManage := true
    s0ixCapable := !primary
    s0ixEnabled := s0ixEnabled && !primary
    s0ixTimeNs := 0
    isParked := false
    currentTemp := 0
    isThrottled := false
    throttleReason := .none
    lazyInitPending := false
    lazyInitData := 0
    trace := [] }

/-- `mvgal_pm_init`; `support` is what `check_s0ix_support` finds. -/
def pmInit {n : Nat} (config : Option PmConfig) (support : Bool) (now : Fin n → UInt64) : PowerManager n :=
  let c : PmConfig := config.getD ⟨0, 0, support, true, true⟩
  let idleThresholdMs := if 0 < c.idleThresholdMs then c.idleThresholdMs else 5000
  { idleThresholdMs
    parkTimeoutMs := if 0 < c.parkTimeoutMs then c.parkTimeoutMs else 30000
    s0ixEnabled := c.enableS0ix
    lazyInitEnabled := c.lazyInit
    thermalThrottlingEnabled := c.thermalThrottling
    s0ixActive := false
    s0ixEnterTimeNs := 0
    gpus := fun i => gpuInit idleThresholdMs c.enableS0ix (i.val == 0) (now i) }

/-- What a change of the power state meets: whether the write to `power/control` succeeds, and
the time afterwards. -/
structure Access where
  written : Bool
  now : UInt64

/-- `suspend_gpu`; the result says whether it returned 0. -/
def suspendGpu (g : GpuPm) (a : Access) : Bool × GpuPm :=
  if g.currentState = .suspend then (true, g)
  else
    let g := {g with isIdle := true}
    if a.written then (true, {g with currentState := .suspend, lastActivityNs := a.now}) else (false, g)

/-- `resume_gpu`; the result says whether it returned 0. -/
def resumeGpu (g : GpuPm) (a : Access) : Bool × GpuPm :=
  if g.currentState ≠ .suspend ∧ g.currentState ≠ .off then (true, g)
  else
    let g := {g with isIdle := false}
    if a.written then
      (true, { g with
        currentState := .on
        lastActivityNs := a.now
        trace := g.trace ++ [.switchedOn g.isThrottled] })
    else (false, g)

/-- `park_gpu`, which does not look at what `suspend_gpu` returns. -/
def parkGpu (g : GpuPm) (a : Access) : GpuPm :=
  if g.isParked = true then g else {(suspendGpu g a).2 with isParked := true}

/-- `unpark_gpu`, which does not look at what `resume_gpu` returns. A deferred initialisation is
taken off the GPU here and not carried out. -/
def unparkGpu (g : GpuPm) (a : Access) : GpuPm :=
  if g.isParked = false then g
  else
    let g := {(resumeGpu g a).2 with isParked := false}
    { g with
      lazyInitPending := if g.lazyInitPending = true then false else g.lazyInitPending
      trace := g.trace ++ [.released g.currentState g.isParked] }

def checkThermalState (enabled primary : Bool) (temperature : Option Float32) (a : Access) (g : GpuPm) : GpuPm :=
  if enabled = false then g
  else
    match temperature with
    | none => g
    | some temp =>
      let g := {g with currentTemp := temp}
      if Float32.le 95 temp then
        let g := {g with isThrottled := true, throttleReason := .critical}
        if primary = true then g else (suspendGpu g a).2
      else
        let g :=
          if Float32.le 85 temp = true ∧ g.isThrottled = false then
            let g := {g with isThrottled := true, throttleReason := .highTemp}
            if primary = true then g else (suspendGpu g a).2
          else g
        if Float32.le temp 75 = true ∧ g.isThrottled = true then
          {g with isThrottled := false, throttleReason := .none}
        else g

/-- `check_gpu_idle`. A failed reading counts as activity but leaves the flag as it is. -/
def checkGpuIdle (utilization : Option Float32) (now : UInt64) (g : GpuPm) : Bool × GpuPm :=
  match utilization with
  | none => (false, g)
  | some utilization =>
    let g :=
      if Float32.lt utilization 1 then
        if g.isIdle = false ∧ g.idleThresholdNs ≤ now - g.lastActivityNs then {g with isIdle := true} else g
      else {g with isIdle := false, lastActivityNs := now}
    (g.isIdle, g)

structure Readings where
  temperature : Option Float32
  utilization : Option Float32
  throttling : Access
  idleNow : UInt64
  parkNow : UInt64
  parking : Access

/-- What the monitor reads besides the GPU and its sensors. -/
structure Policy where
  thermalThrottlingEnabled : Bool
  parkTimeoutMs : UInt32
  primary : Bool

def checked (p : Policy) (r : Readings) (g : GpuPm) : Bool × GpuPm :=
  checkGpuIdle r.utilization r.idleNow
    (checkThermalState p.thermalThrottlingEnabled p.primary r.temperature r.throttling g)

/-- The part of the loop body of `power_monitor_thread` that is about one GPU, with the answer of
`check_gpu_idle`; a GPU that is not managed is passed over, and no S0ix entry follows. -/
def monitorGpu (p : Policy) (r : Readings) (g : GpuPm) : Bool × GpuPm :=
  if g.autoPowerManage = false then (false, g)
  else
    let (idle, g) := checked p r g
    if idle = true ∧ g.isParked = false ∧ p.primary = false then
      (idle, if msToNs p.parkTimeoutMs ≤ r.parkNow - g.lastActivityNs then parkGpu g r.parking else g)
    else if idle = false ∧ g.isParked = true then (idle, unparkGpu g r.parking)
    else (idle, g)

/-- `mvgal_pm_set_gpu_state`; the result says whether it was successful. -/
def setGpuState (g : GpuPm) (state : PowerState) (a : Access) : Bool × GpuPm :=
  let g := {g with requestedState := state}
  match state with
  | .off | .suspend => suspendGpu g a
  | .idle | .on | .performance => resumeGpu g a
  | .unknown => (false, g)

def signalActivity (g : GpuPm) (now : UInt64) (a : Access) : GpuPm :=
  let g : GpuPm := {g with lastActivityNs := now, isIdle := false}
  if g.isParked = true then unparkGpu g a else g

/-- `mvgal_pm_register_lazy_init` with a callback that is not null. The callback itself is kept
nowhere. -/
def registerLazyInit (lazyInitEnabled : Bool) (g : GpuPm) (init : LazyInit) : GpuPm :=
  if lazyInitEnabled = false then {g with trace := g.trace ++ [.invoked init]}
  else
    let g : GpuPm := {g with lazyInitPending := true, lazyInitData := init.2}
    if g.isParked = true then g
    else {g with lazyInitPending := false, trace := g.trace ++ [.invoked init]}

/-! ### What the checks lead to -/

section
variable (p : Policy) (r : Readings) (g : GpuPm)

def Parks : Prop :=
  g.autoPowerManage = true ∧ (checked p r g).1 = true ∧ g.isParked = false ∧ p.primary = false ∧
    msToNs p.parkTimeoutMs ≤ r.parkNow - (checked p r g).2.lastActivityNs

def Unparks : Prop := g.autoPowerManage = true ∧ (checked p r g).1 = false ∧ g.isParked = true

section
variable (a : Access)
include a

/-- A suspension touches the power state and the idle flag, with the time. -/
theorem suspendGpu_frame :
    (suspendGpu g a).2 = {g with
      currentState := (suspendGpu g a).2.currentState
      isIdle := (suspendGpu g a).2.isIdle
      lastActivityNs := (suspendGpu g a).2.lastActivityNs} := by
  unfold suspendGpu
  split_ifs <;> rfl

@[simp]
theorem suspendGpu_isParked : (suspendGpu g a).2.isParked = g.isParked := by
  rw [suspendGpu_frame]

@[simp]
theorem suspendGpu_autoPowerManage : (suspendGpu g a).2.autoPowerManage = g.autoPowerManage := by
  rw [suspendGpu_frame]

@[simp]
theorem suspendGpu_isThrottled : (suspendGpu g a).2.isThrottled = g.isThrottled := by
  rw [suspendGpu_frame]

@[simp]
theorem suspendGpu_trace : (suspendGpu g a).2.trace = g.trace := by
  rw [suspendGpu_frame]

theorem suspendGpu_state : (suspendGpu g a).2.currentState =
      if g.currentState = .suspend ∨ a.written = true then .suspend else g.currentState := by
  unfold suspendGpu
  split_ifs <;> simp_all

end

/-- What a check can do to a GPU: it is not parked or unparked, not switched on, and no callback
is invoked. -/
structure Observed (g' : GpuPm) : Prop where
  isParked : g'.isParked = g.isParked
  autoPowerManage : g'.autoPowerManage = g.autoPowerManage
  trace : g'.trace = g.trace
  state : g'.currentState = g.currentState ∨ g'.currentState = .suspend

variable {g} in
theorem Observed.suspended {g' : GpuPm} (h : Observed g g') (a : Access) : Observed g (suspendGpu g' a).2 := by
  refine ⟨?_, ?_, ?_, ?_⟩
  · rw [suspendGpu_isParked, h.isParked]
  · rw [suspendGpu_autoPowerManage, h.autoPowerManage]
  · rw [suspendGpu_trace, h.trace]
  · rw [suspendGpu_state]
    split_ifs
    · exact .inr rfl
    · exact h.state

theorem checkThermalState_observed (enabled primary : Bool) (temperature : Option Float32) (a : Access) :
    Observed g (checkThermalState enabled primary temperature a g) := by
  have hsame : Observed g g := ⟨rfl, rfl, rfl, .inl rfl⟩
  unfold checkThermalState
  cases temperature with
  | none => split_ifs <;> exact hsame
  | some temp =>
    -- the fields that the check writes itself are none of those observed
    have hwritten : ∀ {g' : GpuPm}, Observed g g' → ∀ (t : Float32) (b : Bool) (reason : ThermalReason),
        Observed g {g' with currentTemp := t, isThrottled := b, throttleReason := reason} :=
      fun h _ _ _ => ⟨h.isParked, h.autoPowerManage, h.trace, h.state⟩
    dsimp only
    split_ifs
    · exact hsame
    · exact hwritten hsame ..
    · exact (hwritten hsame ..).suspended a
    · exact hwritten hsame ..
    · exact hwritten hsame ..
    · exact hwritten ((hwritten hsame ..).suspended a) ..
    · exact (hwritten hsame ..).suspended a
    · exact hwritten hsame ..
    · exact hwritten hsame ..

variable {g} in
theorem Observed.idle {g' : GpuPm} (h : Observed g g') (utilization : Option Float32) (now : UInt64) :
    Observed g (checkGpuIdle utilization now g').2 := by
  unfold checkGpuIdle
  cases utilization with
  | none => exact h
  | some u =>
    dsimp only
    split_ifs <;> exact ⟨h.isParked, h.autoPowerManage, h.trace, h.state⟩

theorem checked_observed : Observed g (checked p r g).2 :=
  (checkThermalState_observed ..).idle ..

theorem monitorGpu_cases : (g.autoPowerManage = false ∧ (monitorGpu p r g).2 = g) ∨
    (Parks p r g ∧ (monitorGpu p r g).2 = parkGpu (checked p r g).2 r.parking) ∨
    (Unparks p r g ∧ (monitorGpu p r g).2 = unparkGpu (checked p r g).2 r.parking) ∨
    (g.autoPowerManage = true ∧ ¬ Parks p r g ∧ ¬ Unparks p r g ∧ (monitorGpu p r g).2 = (checked p r g).2) := by
  have hparked := (checked_observed p r g).isParked
  unfold monitorGpu Parks Unparks
  dsimp only
  split_ifs <;> simp_all

/-- `check_gpu_idle` answers with the flag, unless the reading failed. -/
theorem isIdle_of_checked (h : (checked p r g).1 = true) : (checked p r g).2.isIdle = true := by
  unfold checked checkGpuIdle at h ⊢
  cases hu : r.utilization with
  | none => simp [hu] at h
  | some u => simpa [hu] using h

end

variable {n : Nat}

/-- `enter_s0ix`: every GPU but the first is suspended, whatever `suspend_gpu` returns. The result
says whether it returned 0. -/
def enterS0ix (s : PowerManager n) (a : Fin n → Access) (now : UInt64) : Bool × PowerManager n :=
  if s.s0ixEnabled = false then (false, s)
  else if s.s0ixActive = true then (true, s)
  else
    (true, { s with
      gpus := fun i => if i.val ≠ 0 then (suspendGpu (s.gpus i) (a i)).2 else s.gpus i
      s0ixActive := true
      s0ixEnterTimeNs := now })

/-- `exit_s0ix`, which switches no GPU on. -/
def exitS0ix (s : PowerManager n) (now : UInt64) : PowerManager n :=
  if s.s0ixActive = false then s
  else
    { s with
      gpus := fun i =>
        let g := s.gpus i
        if g.s0ixEnabled = true then {g with s0ixTimeNs := g.s0ixTimeNs + (now - s.s0ixEnterTimeNs)} else g
      s0ixActive := false }

structure Tick (n : Nat) where
  readings : Fin n → Readings
  suspending : Fin n → Access
  enterNow : UInt64
  exitNow : UInt64

def PowerManager.policy (s : PowerManager n) (i : Fin n) : Policy :=
  ⟨s.thermalThrottlingEnabled, s.parkTimeoutMs, i.val == 0⟩

def AllIdle (gpus : Fin n → GpuPm) : Prop := ∀ i, (gpus i).isIdle = true

instance (gpus : Fin n → GpuPm) : Decidable (AllIdle gpus) := inferInstanceAs (Decidable (∀ _, _))

/-- The loop body of `power_monitor_thread`. -/
def monitorBody (t : Tick n) (s : PowerManager n) (i : Fin n) : PowerManager n :=
  let r := monitorGpu (s.policy i) (t.readings i) (s.gpus i)
  let s : PowerManager n := {s with gpus := Function.update s.gpus i r.2}
  if i.val = 0 ∧ r.1 = true ∧ s.s0ixEnabled = true then
    if AllIdle s.gpus ∧ s.s0ixActive = false then (enterS0ix s t.suspending t.enterNow).2 else s
  else s

def monitorTick (s : PowerManager n) (t : Tick n) : PowerManager n :=
  let s := (List.finRange n).foldl (monitorBody t) s
  if s.s0ixActive = true ∧ ¬ AllIdle s.gpus then exitS0ix s t.exitNow else s

def setS0ixEnabled (s : PowerManager n) (enable : Bool) : PowerManager n :=
  { s with
    s0ixEnabled := enable
    gpus := fun i => let g := s.gpus i; if g.s0ixCapable = true then {g with s0ixEnabled := enable} else g }

/-- The steps of the power manager: a pass of the monitor, a call, or one of the internal
operations that they are made of. -/
inductive PmAction (n : Nat) where
  | tick (t : Tick n)
  | signalActivity (i : Fin n) (now : UInt64) (a : Access)
  | park (i : Fin n) (a : Access)
  | unpark (i : Fin n) (a : Access)
  | setGpuState (i : Fin n) (state : PowerState) (a : Access)
  | setAutoPm (i : Fin n) (enable : Bool)
  | setS0ixEnabled (enable : Bool)
  | enterS0ix (a : Fin n → Access) (now : UInt64)
  | exitS0ix (now : UInt64)
  | registerLazyInit (i : Fin n) (init : LazyInit)

def PowerManager.modify (s : PowerManager n) (i : Fin n) (f : GpuPm → GpuPm) : PowerManager n :=
  {s with gpus := Function.update s.gpus i (f (s.gpus i))}

def perform (s : PowerManager n) : PmAction n → PowerManager n
  | .tick t => monitorTick s t
  | .signalActivity i now a => s.modify i (signalActivity · now a)
  | .park i a => s.modify i (parkGpu · a)
  | .unpark i a => s.modify i (unparkGpu · a)
  | .setGpuState i state a => s.modify i (fun g => (setGpuState g state a).2)
  | .setAutoPm i enable => s.modify i ({· with autoPowerManage := enable})
  | .setS0ixEnabled enable => setS0ixEnabled s enable
  | .enterS0ix a now => (enterS0ix s a now).2
  | .exitS0ix now => exitS0ix s now
  | .registerLazyInit i init => s.modify i (registerLazyInit s.lazyInitEnabled · init)

/-- Every step is possible at any time. -/
def pmStep (s : PowerManager n) (a : PmAction n) : Option (PowerManager n) := some (perform s a)

/-! ### What a pass does to one GPU -/

/-- The pass enters S0ix, at the turn of the first GPU. -/
def EntersS0ix (s : PowerManager n) (t : Tick n) : Prop :=
  ∃ i : Fin n, i.val = 0 ∧
    (monitorGpu (s.policy i) (t.readings i) (s.gpus i)).1 = true ∧ s.s0ixEnabled = true ∧
    AllIdle (Function.update s.gpus i (monitorGpu (s.policy i) (t.readings i) (s.gpus i)).2) ∧
    s.s0ixActive = false

instance (s : PowerManager n) (t : Tick n) : Decidable (EntersS0ix s t) := inferInstanceAs (Decidable (∃ _, _))

/-- A GPU when its turn comes: as it was before the pass, or suspended by the S0ix entry. -/
def atTurn (s : PowerManager n) (t : Tick n) (i : Fin n) : GpuPm :=
  if i.val ≠ 0 ∧ EntersS0ix s t then (suspendGpu (s.gpus i) (t.suspending i)).2 else s.gpus i

@[simp]
theorem modify_gpus_self (s : PowerManager n) (i : Fin n) (f : GpuPm → GpuPm) :
    (s.modify i f).gpus i = f (s.gpus i) :=
  Function.update_self ..

variable {i : Fin n}

theorem modify_gpus_of_ne (s : PowerManager n) {j : Fin n} (f : GpuPm → GpuPm) (h : j ≠ i) :
    (s.modify i f).gpus j = s.gpus j :=
  Function.update_of_ne h ..

variable {s : PowerManager n}

theorem forall_modify_iff {Q : Fin n → GpuPm → Prop} (h : ∀ j, Q j (s.gpus j)) (i : Fin n)
    (f : GpuPm → GpuPm) : (∀ j, Q j ((s.modify i f).gpus j)) ↔ Q i (f (s.gpus i)) := by
  constructor
  · intro hall
    have hi := hall i
    rwa [modify_gpus_self] at hi
  · intro hi j
    by_cases hj : j = i
    · subst hj
      rwa [modify_gpus_self]
    · rw [modify_gpus_of_ne s f hj]
      exact h j

/-! What the calls that concern all GPUs do to one. -/

theorem exitS0ix_gpu (s : PowerManager n) (now : UInt64) (i : Fin n) :
    ∃ time, (exitS0ix s now).gpus i = {s.gpus i with s0ixTimeNs := time} := by
  unfold exitS0ix
  split_ifs
  · exact ⟨_, rfl⟩
  · dsimp only
    split_ifs <;> exact ⟨_, rfl⟩

theorem setS0ixEnabled_gpu (s : PowerManager n) (enable : Bool) (i : Fin n) :
    ∃ e, (setS0ixEnabled s enable).gpus i = {s.gpus i with s0ixEnabled := e} := by
  unfold setS0ixEnabled
  dsimp only
  split_ifs <;> exact ⟨_, rfl⟩

theorem enterS0ix_gpu (s : PowerManager n) (a : Fin n → Access) (now : UInt64) (i : Fin n) :
    (enterS0ix s a now).2.gpus i = s.gpus i ∨
      (enterS0ix s a now).2.gpus i = (suspendGpu (s.gpus i) (a i)).2 := by
  unfold enterS0ix
  split_ifs
  · exact .inl rfl
  · exact .inl rfl
  · dsimp only
    split_ifs
    · exact .inr rfl
    · exact .inl rfl

theorem atTurn_gpu (s : PowerManager n) (t : Tick n) (i : Fin n) :
    atTurn s t i = s.gpus i ∨ atTurn s t i = (suspendGpu (s.gpus i) (t.suspending i)).2 := by
  unfold atTurn
  split_ifs
  · exact .inr rfl
  · exact .inl rfl

theorem enterS0ix_policy (s : PowerManager n) (a : Fin n → Access) (now : UInt64) :
    (enterS0ix s a now).2.policy = s.policy := by
  unfold enterS0ix
  split_ifs <;> rfl

theorem monitorBody_policy (t : Tick n) (s : PowerManager n) (i : Fin n) :
    (monitorBody t s i).policy = s.policy := by
  unfold monitorBody
  dsimp only
  split_ifs
  · exact enterS0ix_policy ..
  · rfl
  · rfl

/-- Only the turn of the first GPU reaches beyond its own GPU. -/
theorem monitorBody_of_secondary (t : Tick n) (s : PowerManager n) (hi : i.val ≠ 0) :
    monitorBody t s i = s.modify i (fun g => (monitorGpu (s.policy i) (t.readings i) g).2) := by
  unfold monitorBody
  rw [if_neg fun h => hi h.1]
  rfl

/-- At its turn the first GPU may bring S0ix about, for the others. -/
theorem monitorBody_of_primary (t : Tick n) (s : PowerManager n) (hi : i.val = 0) (j : Fin n) :
    (monitorBody t s i).gpus j =
      if j = i then (monitorGpu (s.policy i) (t.readings i) (s.gpus i)).2 else atTurn s t j := by
  have henters : EntersS0ix s t ↔
      (monitorGpu (s.policy i) (t.readings i) (s.gpus i)).1 = true ∧ s.s0ixEnabled = true ∧
        AllIdle (Function.update s.gpus i (monitorGpu (s.policy i) (t.readings i) (s.gpus i)).2) ∧
        s.s0ixActive = false := by
    constructor
    · intro ⟨k, hk, h⟩
      obtain rfl : k = i := Fin.ext (hk.trans hi.symm)
      exact h
    · intro h
      exact ⟨i, hi, h⟩
  have hval : ∀ k : Fin n, k.val ≠ 0 ↔ k ≠ i := fun k => by rw [ne_eq, ne_eq, Fin.ext_iff, hi]
  unfold monitorBody atTurn
  simp only [hval, henters]
  by_cases hj : j = i
  · subst hj
    split_ifs <;> simp_all [enterS0ix]
  · split_ifs <;> simp_all [enterS0ix]

/-- A pass lets every GPU have its turn, and then adds to its S0ix time at most. -/
theorem monitorTick_gpu (s : PowerManager n) (t : Tick n) (i : Fin n) :
    ∃ time, (monitorTick s t).gpus i =
      {(monitorGpu (s.policy i) (t.readings i) (atTurn s t i)).2 with s0ixTimeNs := time} := by
  have hloop : ((List.finRange n).foldl (monitorBody t) s).gpus i =
      (monitorGpu (s.policy i) (t.readings i) (atTurn s t i)).2 := by
    cases n with
    | zero => exact i.elim0
    | succ m =>
      rw [List.finRange_succ, List.foldl_cons]
      have hsecondary : ∀ k ∈ (List.finRange m).map Fin.succ, k.val ≠ 0 := by
        intro k hk
        obtain ⟨k', -, rfl⟩ := List.mem_map.mp hk
        exact Nat.succ_ne_zero _
      have hentry := Sweep.entry_foldl (monitorBody t) PowerManager.gpus
        (fun k g => (monitorGpu (s.policy k) (t.readings k) g).2)
        (fun s' k _ hs' => (monitorBody_policy t s' k).trans hs')
        (fun s' k hk hs' => by rw [monitorBody_of_secondary t s' (hsecondary k hk), modify_gpus_self, hs'])
        (fun s' k hk _ j hj => by rw [monitorBody_of_secondary t s' (hsecondary k hk), modify_gpus_of_ne _ _ hj])
        ((List.nodup_finRange m).map (Fin.succ_injective m)) (monitorBody_policy t s 0) i
      rw [hentry, monitorBody_of_primary t s (Fin.val_zero _)]
      cases i using Fin.cases with
      | zero => simp [atTurn]
      | succ k => simp [atTurn]
  unfold monitorTick
  dsimp only
  split_ifs
  · rw [← hloop]
    exact exitS0ix_gpu ..
  · exact ⟨_, hloop⟩

/-- What holds of a GPU holds when its turn comes, if it survives a suspension. -/
theorem atTurn_of {Q : GpuPm → Prop} (hg : Q (s.gpus i))
    (hsuspend : ∀ a, Q (suspendGpu (s.gpus i) a).2) (t : Tick n) : Q (atTurn s t i) := by
  rcases atTurn_gpu s t i with heq | heq <;> rw [heq]
  · exact hg
  · exact hsuspend _

/-! ### Calls that leave the GPUs to themselves -/

/-- The calls that set a switch or are about S0ix. -/
def PmAction.Background : PmAction n → Prop
  | .setAutoPm _ _ | .setS0ixEnabled _ | .enterS0ix _ _ | .exitS0ix _ => True
  | _ => False

/-- What does not depend on the switches and survives a suspension survives these calls. -/
theorem background_gpu {Q : GpuPm → Prop}
    (hswitch : ∀ g on e time, Q g → Q {g with autoPowerManage := on, s0ixEnabled := e, s0ixTimeNs := time})
    (hg : Q (s.gpus i)) (hsuspend : ∀ a, Q (suspendGpu (s.gpus i) a).2)
    {a : PmAction n} (ha : a.Background) : Q ((perform s a).gpus i) := by
  cases a with
  | setAutoPm j enable =>
    have hset : Q ((s.modify j ({· with autoPowerManage := enable})).gpus i) := by
      by_cases hij : i = j
      · subst hij
        rw [modify_gpus_self]
        exact hswitch (s.gpus i) enable _ _ hg
      · rwa [modify_gpus_of_ne _ _ hij]
    exact hset
  | setS0ixEnabled enable =>
    obtain ⟨e, hgpu⟩ := setS0ixEnabled_gpu s enable i
    exact (congrArg Q hgpu).mpr (hswitch (s.gpus i) _ e _ hg)
  | enterS0ix a now =>
    rcases enterS0ix_gpu s a now i with heq | heq
    · exact (congrArg Q heq).mpr hg
    · exact (congrArg Q heq).mpr (hsuspend _)
  | exitS0ix now =>
    obtain ⟨time, hgpu⟩ := exitS0ix_gpu s now i
    exact (congrArg Q hgpu).mpr (hswitch (s.gpus i) _ _ time hg)
  | _ => exact absurd ha id

def Access.made (now : UInt64) : Access := ⟨true, now⟩

def Readings.plain (now : UInt64) (temperature utilization : Float32) : Readings :=
  ⟨some temperature, some utilization, .made now, now, now, .made now⟩

def Tick.plain (now : UInt64) (readings : Fin n → Readings) : Tick n := ⟨readings, fun _ => .made now, now, now⟩

end Mvgal.Power
