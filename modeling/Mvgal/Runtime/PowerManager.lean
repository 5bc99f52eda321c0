import Mathlib.Logic.Basic

/-! The power manager of the daemon (`power_manager.cpp`): what it keeps for each GPU, and
the decisions it takes from that.

Its functions either run through the GPUs of its own tables, and are then functions of a
table here, or ask the device registry for each of them, and are then programs under locks
(in the module of the daemon's loop). Clock readings are nanoseconds; the clock may be set
back. Divisions of floating point numbers are read as exact ones. -/
namespace Mvgal.Runtime.Power

inductive PowerState where
  | active
  | sustained
  | idle
  | park
deriving DecidableEq

inductive ThermalState where
  | normal
  | warn
  | hot
  | throttling
  | critical
deriving DecidableEq

structure PowerConfig where
  idleTimeoutMs : UInt32
  sustainedTimeoutMs : UInt32
  parkTimeoutMs : UInt32
  thermalThreshold : UInt32
  criticalThreshold : UInt32
  thermalPollIntervalMs : UInt32
  powerLimitWatts : UInt32
  enablePowerCapping : Bool
  enableDvfs : Bool
  dvfsPollIntervalMs : UInt32
  enableAggressivePowerDown : Bool
deriving DecidableEq

/-- The configuration of the constructor. -/
def PowerConfig.initial : PowerConfig :=
  ⟨5000, 10000, 30000, 85, 95, 1000, 0, false, true, 2000, false⟩

structure PsuConfig where
  totalCapacityWatts : UInt32
  safetyMarginPercent : UInt32
  enableHeadroomTracking : Bool
deriving DecidableEq

def PsuConfig.initial : PsuConfig := ⟨0, 20, false⟩

structure PsuHeadroom where
  totalCapacityWatts : UInt32
  currentDrawWatts : UInt32
  headroomWatts : UInt32
  safetyMarginPercent : UInt32
deriving DecidableEq

structure GpuPowerStats where
  powerDrawMilliwatts : UInt64
  activeTimeUs : UInt64
  idleTimeUs : UInt64
  transitions : UInt64
  maxTemperature : Int32
deriving DecidableEq

structure GpuFanControl where
  enabled : Bool
  automatic : Bool
  manualSpeedPercent : UInt8
  currentSpeedPercent : UInt8
  currentRpm : UInt32
deriving DecidableEq

structure GpuPowerInfo where
  state : PowerState
  targetState : PowerState
  stats : GpuPowerStats
  lastActivityTime : Int
  lastStateChange : Int
  thermalState : ThermalState
  lastTemperature : Int32
  enabled : Bool
  inThermalThrottle : Bool
  fanControl : GpuFanControl
deriving DecidableEq

def GpuPowerInfo.initial (ts : Int) : GpuPowerInfo :=
  ⟨.active, .active, ⟨0, 0, 0, 0, 0⟩, ts, ts, .normal, 0, true, false, ⟨true, true, 0, 0, 0⟩⟩

structure DvfsState where
  lastUtilization : UInt32
  targetClockMhz : UInt32
  currentClockMhz : UInt32
deriving DecidableEq

structure FanCurvePoint where
  temperatureCelsius : Int32
  fanSpeedPercent : UInt8
deriving DecidableEq

structure PowerCurvePoint where
  utilizationPercent : UInt8
  powerLimitPercent : UInt8
deriving DecidableEq

/-- A curve: the array, with what lies behind it in memory, and how many points are in use. -/
structure Curve (Point : Type) where
  points : Nat → Point
  numPoints : UInt32

abbrev GpuFanCurve := Curve FanCurvePoint

abbrev GpuPowerCurve := Curve PowerCurvePoint

def Curve.ofList {Point : Type} (points : List Point) (rest : Point) : Curve Point :=
  ⟨fun i => points.getD i rest, UInt32.ofNat points.length⟩

def GpuFanCurve.initial : GpuFanCurve :=
  .ofList [⟨40, 20⟩, ⟨50, 30⟩, ⟨60, 45⟩, ⟨70, 60⟩, ⟨80, 75⟩, ⟨90, 90⟩, ⟨100, 100⟩] ⟨0, 0⟩

def GpuPowerCurve.initial : GpuPowerCurve :=
  .ofList [⟨0, 30⟩, ⟨25, 50⟩, ⟨50, 70⟩, ⟨75, 90⟩, ⟨100, 100⟩] ⟨0, 0⟩

structure PowerManager where
  config : PowerConfig
  gpuPowerInfo : List GpuPowerInfo
  lastThermalUpdate : Int
  lastDvfsUpdate : Int
  dvfsState : List DvfsState
  fanCurves : List GpuFanCurve
  powerCurves : List GpuPowerCurve
  psuConfig : PsuConfig

/-- After `init`, with `gpuCount` GPUs registered. -/
def PowerManager.initial (gpuCount : Nat) (ts : Int) : PowerManager where
  config := .initial
  gpuPowerInfo := List.replicate gpuCount (.initial ts)
  lastThermalUpdate := ts
  lastDvfsUpdate := ts
  dvfsState := List.replicate gpuCount ⟨0, 0, 0⟩
  fanCurves := List.replicate gpuCount .initial
  powerCurves := List.replicate gpuCount .initial
  psuConfig := .initial

/-- `duration_cast` to milliseconds, which cuts off towards zero. -/
def elapsedMs (now last : Int) : Int := (now - last).tdiv 1000000

/-- The state a GPU goes to after `elapsed` milliseconds without work. The sums of the
timeouts are taken in 32 bits. -/
def PowerConfig.idleState (c : PowerConfig) (elapsed : Int) : PowerState → PowerState
  | .active => if (c.idleTimeoutMs.toNat : Int) ≤ elapsed then .sustained else .active
  | .sustained =>
    if ((c.idleTimeoutMs + c.sustainedTimeoutMs).toNat : Int) ≤ elapsed then .idle
    else if elapsed < c.idleTimeoutMs.toNat then .active
    else .sustained
  | .idle =>
    if ((c.idleTimeoutMs + c.sustainedTimeoutMs + c.parkTimeoutMs).toNat : Int) ≤ elapsed then
      if c.enableAggressivePowerDown then .park else .idle
    else if elapsed < (c.idleTimeoutMs + c.sustainedTimeoutMs).toNat then .active
    else .idle
  | .park =>
    if elapsed < (c.idleTimeoutMs + c.sustainedTimeoutMs + c.parkTimeoutMs).toNat then .active else .park

def GpuPowerInfo.transitionGpuPower (info : GpuPowerInfo) (newState : PowerState) (now : Int) : GpuPowerInfo :=
  if info.state = newState then info
  else
    {info with
      state := newState, targetState := newState, lastStateChange := now
      stats.transitions := info.stats.transitions + 1}

/-- One pass of `checkIdleTimeouts`; `change` is the clock when the state changes. -/
def GpuPowerInfo.checkIdleTimeout (info : GpuPowerInfo) (c : PowerConfig) (now change : Int) : GpuPowerInfo :=
  if !info.enabled ∨ info.inThermalThrottle then info
  else info.transitionGpuPower (c.idleState (elapsedMs now info.lastActivityTime) info.state) change

def PowerManager.checkIdleTimeouts (p : PowerManager) (now : Int) (change : Nat → Int) : PowerManager :=
  {p with gpuPowerInfo := p.gpuPowerInfo.mapIdx fun i info => info.checkIdleTimeout p.config now (change i)}

/-- The thermal state a temperature stands for, and whether it throttles. -/
def PowerConfig.thermalState (c : PowerConfig) (temp : Int32) : ThermalState × Bool :=
  if c.criticalThreshold.toInt32 ≤ temp then (.critical, true)
  else if c.thermalThreshold.toInt32 ≤ temp then (.throttling, true)
  else if (c.thermalThreshold - 5).toInt32 ≤ temp then (.hot, false)
  else if (c.thermalThreshold - 15).toInt32 ≤ temp then (.warn, false)
  else (.normal, false)

def GpuPowerInfo.checkThermalState (info : GpuPowerInfo) (c : PowerConfig) (change : Int) : GpuPowerInfo :=
  let (thermalState, inThermalThrottle) := c.thermalState info.lastTemperature
  let info := {info with thermalState, inThermalThrottle}
  if inThermalThrottle then info.transitionGpuPower .active change else info

def PowerManager.checkThermalState (p : PowerManager) (change : Nat → Int) : PowerManager :=
  {p with gpuPowerInfo := p.gpuPowerInfo.mapIdx fun i info => info.checkThermalState p.config (change i)}

/-- What a pass of `updateThermalData` stores. `temp` is what the variable holds when it is
compared: the reading, or what was on the stack if there is no such GPU. -/
def GpuPowerInfo.updateThermalData (info : GpuPowerInfo) (present : Bool) (stack : Int32) : GpuPowerInfo :=
  let temp := if present then 50 else stack
  {info with
    lastTemperature := if present then 50 else info.lastTemperature
    stats.powerDrawMilliwatts := if present then 100 * 1000 else info.stats.powerDrawMilliwatts
    stats.maxTemperature := if info.stats.maxTemperature < temp then temp else info.stats.maxTemperature}

/-- The public calls that change the record of one GPU, with the clock as each reads it. -/
inductive GpuCall where
  | setPowerState (state : PowerState) (change : Int)
  | notifyActivity (activity change now : Int)
  | setEnabled (enabled : Bool)
  | setFanSpeed (speedPercent : UInt8)
  | setFanAutomatic (automatic : Bool)

/-- A GPU that is used wakes up, unless it is throttled. -/
def GpuPowerInfo.notifyActivity (info : GpuPowerInfo) (activity change now : Int) : GpuPowerInfo :=
  let info := {info with lastActivityTime := activity}
  let info := if info.inThermalThrottle then info else info.transitionGpuPower .active change
  let duration := UInt64.ofInt ((now - info.lastStateChange).tdiv 1000)
  if info.state = .active then
    {info with stats.activeTimeUs := info.stats.activeTimeUs + duration, lastStateChange := now}
  else {info with stats.idleTimeUs := info.stats.idleTimeUs + duration, lastStateChange := now}

def GpuPowerInfo.call (info : GpuPowerInfo) : GpuCall → GpuPowerInfo
  | .setPowerState state change => info.transitionGpuPower state change
  | .notifyActivity activity change now => info.notifyActivity activity change now
  | .setEnabled enabled => {info with enabled}
  | .setFanSpeed speedPercent =>
    let speed := min speedPercent 100
    {info with
      fanControl.automatic := false, fanControl.manualSpeedPercent := speed
      fanControl.currentSpeedPercent := speed}
  | .setFanAutomatic automatic => {info with fanControl.automatic := automatic}

/-- The first segment of a fan curve, from `i` on, that holds the temperature. -/
def interpolateFanSegment (curve : GpuFanCurve) (temperature : Int32) : Nat → Nat → UInt8
  | 0, _ => 0
  | left + 1, i =>
    let low := curve.points i
    let high := curve.points (i + 1)
    if low.temperatureCelsius ≤ temperature ∧ temperature < high.temperatureCelsius then
      let tLow := low.temperatureCelsius.toInt
      let tHigh := high.temperatureCelsius.toInt
      let sLow : Int := low.fanSpeedPercent.toNat
      let sHigh : Int := high.fanSpeedPercent.toNat
      let result := UInt8.ofInt ((sLow * (tHigh - tLow) + (temperature.toInt - tLow) * (sHigh - sLow)).tdiv (tHigh - tLow))
      min result 100
    else interpolateFanSegment curve temperature left (i + 1)

def interpolateFanSpeed (curve : GpuFanCurve) (temperature : Int32) : UInt8 :=
  if curve.numPoints = 0 then 0
  else
    let last := curve.points (curve.numPoints - 1).toNat
    if temperature ≤ (curve.points 0).temperatureCelsius then (curve.points 0).fanSpeedPercent
    else if last.temperatureCelsius ≤ temperature then last.fanSpeedPercent
    else interpolateFanSegment curve temperature (curve.numPoints - 1).toNat 0

/-- The first point of a power curve, from `i` on, at or above the utilization. -/
def interpolatePowerSegment (curve : GpuPowerCurve) (utilization : UInt8) : Nat → Nat → UInt8
  | 0, _ => (curve.points (curve.numPoints - 1).toNat).powerLimitPercent
  | left + 1, i =>
    let lo := curve.points (i - 1)
    let hi := curve.points i
    if utilization ≤ hi.utilizationPercent then
      let span : Int := hi.utilizationPercent.toNat - lo.utilizationPercent.toNat
      if span ≤ 0 then hi.powerLimitPercent
      else
        let t : Int := utilization.toNat - lo.utilizationPercent.toNat
        UInt8.ofInt (lo.powerLimitPercent.toNat +
          (((hi.powerLimitPercent.toNat : Int) - lo.powerLimitPercent.toNat) * t).tdiv span)
    else interpolatePowerSegment curve utilization left (i + 1)

def interpolatePowerLimit (curve : GpuPowerCurve) (utilization : UInt8) : UInt8 :=
  if curve.numPoints = 0 then 100
  else if utilization ≤ (curve.points 0).utilizationPercent then (curve.points 0).powerLimitPercent
  else interpolatePowerSegment curve utilization (curve.numPoints.toNat - 1) 1

def targetFanSpeed (curve : Option GpuFanCurve) (fan : GpuFanControl) (temperature : Int32) : UInt8 :=
  if fan.automatic then
    match curve with
    | some curve => if 0 < curve.numPoints then interpolateFanSpeed curve temperature else 0
    | none => 0
  else fan.manualSpeedPercent

/-- `writeFanSpeed` and `readFanSpeed` are stubs that always succeed. -/
def GpuPowerInfo.applyFanControl (info : GpuPowerInfo) (curve : Option GpuFanCurve) : GpuPowerInfo :=
  if !info.fanControl.enabled then info
  else
    let target := targetFanSpeed curve info.fanControl info.lastTemperature
    let current := info.fanControl.currentSpeedPercent
    let changed := current.toNat + 5 < target.toNat ∨ (target.toNat : Int) < current.toNat - 5
    {info with
      fanControl.currentSpeedPercent := if changed then target else current
      fanControl.currentRpm := 0}

def PowerManager.applyFanControl (p : PowerManager) : PowerManager :=
  {p with gpuPowerInfo := p.gpuPowerInfo.mapIdx fun i info => info.applyFanControl p.fanCurves[i]?}

/-- The clock `applyDvfs` wants at a utilization: between 500 and 2000 MHz. -/
def dvfsTarget (utilization : UInt32) : UInt32 := 500 + UInt32.ofNat (1500 * utilization.toNat / 100)

/-- The draw `applyPowerCurves` allows, in milliwatts. -/
def powerCap (powerLimitWatts : UInt32) (limitPct : UInt8) : UInt32 :=
  powerLimitWatts * 1000 * limitPct.toUInt32 / 100

/-- The clock it falls back to above that. -/
def reducedClock (d : DvfsState) : UInt32 :=
  let maxClock := if 0 < d.currentClockMhz then d.currentClockMhz else 2000
  max 500 (maxClock * 9 / 10)

def totalDraw (infos : List GpuPowerInfo) : UInt32 :=
  infos.foldl (fun total info => total + (info.stats.powerDrawMilliwatts / 1000).toUInt32) 0

def PowerManager.psuHeadroom (p : PowerManager) : PsuHeadroom :=
  let draw := totalDraw p.gpuPowerInfo
  let capacity := p.psuConfig.totalCapacityWatts
  ⟨capacity, draw, if draw < capacity then capacity - draw else 0, p.psuConfig.safetyMarginPercent⟩

/-- What is left of the capacity below the safety margin. -/
def PsuConfig.usableWatts (c : PsuConfig) : UInt32 :=
  c.totalCapacityWatts - c.totalCapacityWatts * c.safetyMarginPercent / 100

end Mvgal.Runtime.Power
