import Mvgal.Lib.Guard
import Mvgal.Lib.Run
import Mvgal.Runtime.IpcConnection
import Mvgal.Runtime.PowerManager

/-! The event loop of the daemon (`Daemon::run`) and the mutexes it takes.

One thread serves the clients, refreshes the registry, and runs the power manager, the
metrics collector and the D-Bus service, over and over. Each of these objects guards its
tables with a mutex of its own, which cannot be taken twice by one thread. The loop is
written out as programs under scoped locks, with the branches that elapsed time, the
configuration and the number of GPUs decide.

Two call paths take a mutex that is held (`iteration_passes`): the collector, when a
collection is due and there is a GPU to collect from, and the power manager, when it tracks
the headroom of a power supply of known capacity. -/
namespace Mvgal.Runtime.EventLoop
open Guard Runtime.Power
open Runtime.Ipc (IpcMessageType)

/-! ### The objects of the daemon -/

/-- What is read of a GPU in the registry. -/
structure GpuDevice where
  utilization : UInt32
  temperature : Int32
  powerDrawWatts : Int32
  currentClockMhz : UInt32
deriving DecidableEq

structure GpuMetrics where
  gpuUtilization : UInt32
  memoryUtilization : UInt32
  memoryBandwidthRead : UInt64
  memoryBandwidthWrite : UInt64
  temperature : Int32
  powerDraw : UInt32
  clockSpeed : UInt32
  queueDepth : UInt32
  totalExecutionTimeUs : UInt64
  totalWorkloads : UInt64
  lastUpdate : Int
deriving DecidableEq

structure TelemetrySubscription where
  updateIntervalMs : UInt32
  lastSent : Int
deriving DecidableEq

structure MetricsCollector where
  collectionIntervalMs : UInt32
  gpuMetrics : List GpuMetrics
  totalWorkloads : List UInt64
  totalExecutionTimeUs : List UInt64
  subscriptions : List TelemetrySubscription
  lastCollection : Int

/-- After `init`, with `gpuCount` GPUs registered. -/
def MetricsCollector.initial (gpuCount : Nat) (now : Int) : MetricsCollector where
  collectionIntervalMs := 1000
  gpuMetrics := List.replicate gpuCount ⟨0, 0, 0, 0, 0, 0, 0, 0, 0, 0, now⟩
  totalWorkloads := List.replicate gpuCount 0
  totalExecutionTimeUs := List.replicate gpuCount 0
  subscriptions := []
  lastCollection := now

structure Daemon where
  gpus : List GpuDevice
  power : PowerManager
  metrics : MetricsCollector

def Daemon.initial (gpus : List GpuDevice) (powerStart metricsStart : Int) : Daemon :=
  ⟨gpus, .initial gpus.length powerStart, .initial gpus.length metricsStart⟩

inductive Mutex where
  | server
  | registry
  | memory
  | workload
  | queue
  | power
  | metrics
deriving DecidableEq

/-- What the thread does in the daemon. -/
abbrev Program (α : Type) := Guarded Mutex Daemon α

def getGpu (index : Nat) : Program (Option GpuDevice) :=
  locked .registry do
    let d ← read
    return d.gpus[index]?

/-- `sysfs` is what `updateState` finds for each GPU. -/
def registryProcessEvents (sysfs : Nat → GpuDevice) : Program Unit :=
  locked .registry (change fun d => {d with gpus := d.gpus.mapIdx fun i _ => sysfs i})

structure Request where
  type : Option IpcMessageType
  index : Nat

def Request.handler (r : Request) : Program Unit :=
  match r.type with
  | some .queryDevices => do
    let d ← read
    each (fun i => do let _ ← getGpu i) (List.range d.gpus.length)
  | some .queryDeviceCapabilities => do let _ ← getGpu r.index
  | some .queryUnifiedCapabilities => do
    -- totalVRAM, then freeVRAM
    locked .registry (pure ())
    locked .registry (pure ())
  -- the default strategy does not ask the registry
  | some .allocMemory => locked .memory (pure ())
  | some .freeMemory => locked .memory (pure ())
  | some .submitWorkload => locked .workload (locked .queue (pure ()))
  | some .waitWorkload => locked .workload (pure ())
  | some .setGpuEnabled => locked .registry (pure ())
  | _ => pure ()

def serverProcessEvents (newClients : Nat) (requests : List Request) (dead : Bool) : Program Unit := do
  -- acceptConnections takes the mutex for the id and again for the table
  each (fun _ => do
    locked .server (pure ())
    locked .server (pure ())) (List.range newClients)
  locked .server (each Request.handler requests)
  if dead then locked .server (pure ()) else pure ()

/-- What an iteration reads of the clock, and the stack slots it compares uninitialised. -/
structure Readings where
  power : Int
  idle : Int
  idleChange : Nat → Int
  thermalChange : Nat → Int
  metrics : Int
  collection : Nat → Int
  telemetry : Int
  stackTemperature : Nat → Int32

def setInfo (i : Nat) (f : GpuPowerInfo → GpuPowerInfo) : Program Unit :=
  change fun d => {d with power.gpuPowerInfo := d.power.gpuPowerInfo.modify i f}

def setDvfs (i : Nat) (f : DvfsState → DvfsState) : Program Unit :=
  change fun d => {d with power.dvfsState := d.power.dvfsState.modify i f}

/-- `readTemperature` and `readPowerDraw` ask the registry once each. -/
def updateThermalData (stack : Nat → Int32) : Program Unit := do
  let d ← read
  each (fun i => do
    let _ ← getGpu i
    let gpu ← getGpu i
    setInfo i (·.updateThermalData gpu.isSome (stack i))) (List.range d.power.gpuPowerInfo.length)

/-- The write is a stub that succeeds where there is a GPU. -/
def writeFrequency (i : Nat) : Program Bool := do
  let gpu ← getGpu i
  return gpu.isSome

def applyDvfsTo (i : Nat) : Program Unit := do
  let gpu ← getGpu i
  match gpu with
  | none => pure ()
  | some gpu =>
    let target := dvfsTarget gpu.utilization
    setDvfs i ({· with lastUtilization := gpu.utilization, targetClockMhz := target})
    let d ← read
    if d.power.dvfsState[i]?.map (·.currentClockMhz) ≠ some target then
      let written ← writeFrequency i
      if written then setDvfs i ({· with currentClockMhz := target}) else pure ()
    else pure ()

def applyDvfs : Program Unit := do
  let d ← read
  if !d.power.config.enableDvfs then pure ()
  else each applyDvfsTo (List.range d.power.dvfsState.length)

def applyPowerCurveTo (i : Nat) (curve : GpuPowerCurve) : Program Unit := do
  let gpu ← getGpu i
  let d ← read
  match gpu, d.power.dvfsState[i]?, d.power.gpuPowerInfo[i]? with
  | some gpu, some dvfs, some info =>
    let limitPct := interpolatePowerLimit curve (min 100 gpu.utilization).toUInt8
    let capMw := powerCap d.power.config.powerLimitWatts limitPct
    if 0 < d.power.config.powerLimitWatts ∧ capMw.toUInt64 < info.stats.powerDrawMilliwatts ∧ 0 < capMw then
      setDvfs i ({· with targetClockMhz := reducedClock dvfs})
      let _ ← writeFrequency i
    else pure ()
  | _, _, _ => pure ()

def applyPowerCurves : Program Unit := do
  let d ← read
  if !d.power.config.enablePowerCapping ∧ d.power.psuConfig.totalCapacityWatts = 0 then pure ()
  else each (fun entry => applyPowerCurveTo entry.2 entry.1) d.power.powerCurves.zipIdx

def getPsuHeadroom : Program PsuHeadroom :=
  locked .power do
    let d ← read
    return d.power.psuHeadroom

/-- One GPU of `updatePsuHeadroom`, when the margin is exceeded by `excess` watts. -/
def lowerClock (excess : UInt32) (i : Nat) : Program Unit := do
  let d ← read
  match d.power.gpuPowerInfo[i]?, d.power.dvfsState[i]? with
  | some info, some dvfs =>
    if info.enabled ∧ d.power.config.enableDvfs ∧ excess * 10 < dvfs.targetClockMhz then
      setDvfs i ({· with targetClockMhz := dvfs.targetClockMhz - excess * 10})
      let _ ← writeFrequency i
    else pure ()
  | _, _ => pure ()

def updatePsuHeadroom : Program Unit := do
  let d ← read
  let psu := d.power.psuConfig
  if !psu.enableHeadroomTracking ∨ psu.totalCapacityWatts = 0 then pure ()
  else
    let hr ← getPsuHeadroom
    if psu.usableWatts < hr.currentDrawWatts then
      each (lowerClock (hr.currentDrawWatts - psu.usableWatts)) (List.range d.power.gpuPowerInfo.length)
    else pure ()

def pollThermal (r : Readings) : Program Unit := do
  let d ← read
  if (d.power.config.thermalPollIntervalMs.toNat : Int) ≤ elapsedMs r.power d.power.lastThermalUpdate then
    updateThermalData r.stackTemperature
    change fun d => {d with power := d.power.checkThermalState r.thermalChange}
    change fun d => {d with power.lastThermalUpdate := r.power}
  else pure ()

def pollDvfs (r : Readings) : Program Unit := do
  let d ← read
  if d.power.config.enableDvfs ∧
      (d.power.config.dvfsPollIntervalMs.toNat : Int) ≤ elapsedMs r.power d.power.lastDvfsUpdate then
    applyDvfs
    applyPowerCurves
    change fun d => {d with power.lastDvfsUpdate := r.power}
  else pure ()

def pollPsu : Program Unit := do
  let d ← read
  if d.power.psuConfig.enableHeadroomTracking then updatePsuHeadroom else pure ()

def powerProcessEvents (r : Readings) : Program Unit :=
  locked .power do
    change fun d => {d with power := d.power.checkIdleTimeouts r.idle r.idleChange}
    pollThermal r
    pollDvfs r
    pollPsu
    change fun d => {d with power := d.power.applyFanControl}

/-- What a `read` function of the collector finds, or leaves. -/
def readGpu {α : Type} (i : Nat) (f : GpuDevice → α) (stack : α) : Program α := do
  let gpu ← getGpu i
  return (gpu.map f).getD stack

/-- `stack` is what the record holds before it is filled. -/
def collectGpuMetrics (i : Nat) (now : Int) (stack : GpuMetrics) : Program Unit :=
  locked .metrics do
    let d ← read
    if d.metrics.gpuMetrics.length ≤ i then pure ()
    else
      let gpuUtilization ← readGpu i (·.utilization) stack.gpuUtilization
      let memoryUtilization ← readGpu i (fun _ => 50) stack.memoryUtilization
      let temperature ← readGpu i (·.temperature) stack.temperature
      let clockSpeed ← readGpu i (·.currentClockMhz) stack.clockSpeed
      let powerDraw ← readGpu i (fun gpu => (gpu.powerDrawWatts * 1000).toUInt32) stack.powerDraw
      let metrics : GpuMetrics :=
        ⟨gpuUtilization, memoryUtilization, 1024 * 1024 * 1024, 1024 * 1024 * 1024, temperature, powerDraw,
          clockSpeed, 0, d.metrics.totalExecutionTimeUs.getD i 0, d.metrics.totalWorkloads.getD i 0, now⟩
      change fun d => {d with metrics.gpuMetrics := d.metrics.gpuMetrics.set i metrics}

def collectAllMetrics (clock : Nat → Int) (stack : Nat → GpuMetrics) : Program Unit := do
  let d ← read
  each (fun i => collectGpuMetrics i (clock i) (stack i)) (List.range d.metrics.gpuMetrics.length)

/-- The sending itself is not written yet. -/
def MetricsCollector.checkTelemetryUpdates (m : MetricsCollector) (now : Int) : MetricsCollector :=
  {m with subscriptions := m.subscriptions.map fun sub =>
    if (sub.updateIntervalMs.toNat : Int) ≤ elapsedMs now sub.lastSent then {sub with lastSent := now} else sub}

def pollMetrics (r : Readings) (stack : Nat → GpuMetrics) : Program Unit := do
  let d ← read
  if (d.metrics.collectionIntervalMs.toNat : Int) ≤ elapsedMs r.metrics d.metrics.lastCollection then
    collectAllMetrics r.collection stack
    change fun d => {d with metrics.lastCollection := r.metrics}
  else pure ()

def metricsProcessEvents (r : Readings) (stack : Nat → GpuMetrics) : Program Unit :=
  locked .metrics do
    pollMetrics r stack
    change fun d => {d with metrics := d.metrics.checkTelemetryUpdates r.telemetry}

structure Iteration where
  newClients : Nat
  requests : List Request
  dead : Bool
  sysfs : Nat → GpuDevice
  readings : Readings
  stack : Nat → GpuMetrics

/-- The body of the loop. The D-Bus service takes no mutex of the daemon. -/
def Iteration.body (it : Iteration) : Program Unit := do
  serverProcessEvents it.newClients it.requests it.dead
  registryProcessEvents it.sysfs
  powerProcessEvents it.readings
  metricsProcessEvents it.readings it.stack

/-- What decides whether a mutex is taken twice. -/
def watched (d : Daemon) : PsuConfig × MetricsCollector := (d.power.psuConfig, d.metrics)

section
variable {held : List Mutex} {d : Daemon}

section
variable (hr : .registry ∉ held)
include hr

theorem getGpu_free (i : Nat) : Free watched held d (getGpu i) := by
  apply passes_locked hr
  apply passes_read
  exact passes_pure _

theorem writeFrequency_free (i : Nat) : Free watched held d (writeFrequency i) := by
  apply passes_then (getGpu_free hr i)
  intro gpu d' _
  exact passes_pure _

omit hr in
theorem setInfo_free (i : Nat) (f : GpuPowerInfo → GpuPowerInfo) : Free watched held d (setInfo i f) :=
  passes_change rfl

omit hr in
theorem setDvfs_free (i : Nat) (f : DvfsState → DvfsState) : Free watched held d (setDvfs i f) :=
  passes_change rfl

/-- The loop over the GPUs that only asks for each of them. -/
theorem each_getGpu_free (indices : List Nat) :
    Free watched held d (each (fun i => do let _ ← getGpu i) indices) := by
  apply free_each
  intro i d' _
  apply passes_then (getGpu_free hr i)
  intro gpu d'' _
  exact passes_pure ()

theorem updateThermalData_free (stack : Nat → Int32) :
    Free watched held d (updateThermalData stack) := by
  apply passes_read
  apply free_each
  intro i d' _
  apply passes_then (getGpu_free hr i)
  intro _ d'' _
  apply passes_then (getGpu_free hr i)
  intro gpu d'' _
  exact setInfo_free i _

theorem applyDvfs_free : Free watched held d applyDvfs := by
  apply passes_read
  apply free_unless
  apply free_each
  intro i d' _
  apply passes_then (getGpu_free hr i)
  intro gpu d'' _
  cases gpu with
  | none => exact passes_pure ()
  | some gpu =>
    apply passes_then (setDvfs_free i _)
    intro _ d'' _
    apply passes_read
    apply free_when
    apply passes_then (writeFrequency_free hr i)
    intro written d'' _
    exact free_when (setDvfs_free i _)

theorem applyPowerCurveTo_free (i : Nat) (curve : GpuPowerCurve) :
    Free watched held d (applyPowerCurveTo i curve) := by
  apply passes_then (getGpu_free hr i)
  intro gpu d' _
  apply passes_read
  split
  · apply free_when
    apply passes_then (setDvfs_free i _)
    intro _ d'' _
    apply passes_then (writeFrequency_free hr i)
    intro _ d'' _
    exact passes_pure ()
  · exact passes_pure ()

theorem applyPowerCurves_free : Free watched held d applyPowerCurves := by
  apply passes_read
  apply free_unless
  apply free_each
  intro entry d' _
  exact applyPowerCurveTo_free hr entry.2 entry.1

theorem pollThermal_free (r : Readings) : Free watched held d (pollThermal r) := by
  apply passes_read
  apply free_when
  apply passes_then (updateThermalData_free hr _)
  intro _ d' _
  apply passes_then (passes_change rfl)
  intro _ d' _
  exact passes_change rfl

theorem pollDvfs_free (r : Readings) : Free watched held d (pollDvfs r) := by
  apply passes_read
  apply free_when
  apply passes_then (applyDvfs_free hr)
  intro _ d' _
  apply passes_then (applyPowerCurves_free hr)
  intro _ d' _
  exact passes_change rfl

end

/-- The headroom of a supply of known capacity is tracked. -/
def Tracks (psu : PsuConfig) : Prop := psu.enableHeadroomTracking = true ∧ psu.totalCapacityWatts ≠ 0

instance (psu : PsuConfig) : Decidable (Tracks psu) := inferInstanceAs (Decidable (_ ∧ _))

/-- `updatePsuHeadroom` asks for the headroom through the public function, which locks. -/
theorem updatePsuHeadroom_passes (hp : .power ∈ held) :
    Passes watched held d (¬ Tracks d.power.psuConfig) updatePsuHeadroom := by
  apply passes_read
  apply (passes_if (p := True) (q := False) _ _).congr
  · unfold Tracks
    by_cases htrack : d.power.psuConfig.enableHeadroomTracking = true <;>
      by_cases hcap : d.power.psuConfig.totalCapacityWatts = 0 <;> simp [htrack, hcap]
  · exact fun _ => passes_pure ()
  · exact fun _ => stuck_bind (stuck_locked hp)

theorem pollPsu_passes (hp : .power ∈ held) : Passes watched held d (¬ Tracks d.power.psuConfig) pollPsu := by
  apply passes_read
  apply (passes_if (p := ¬ Tracks d.power.psuConfig) (q := True) _ _).congr
  · unfold Tracks
    by_cases htrack : d.power.psuConfig.enableHeadroomTracking = true <;> simp [htrack]
  · exact fun _ => updatePsuHeadroom_passes hp
  · exact fun _ => passes_pure ()

/-- **The power manager** comes through exactly if it does not track a known capacity. -/
theorem powerProcessEvents_passes (r : Readings) :
    Passes watched [] d (¬ Tracks d.power.psuConfig) (powerProcessEvents r) := by
  have hr : Mutex.registry ∉ [Mutex.power] := by decide
  apply passes_locked List.not_mem_nil
  apply passes_then (passes_change rfl)
  intro _ d₁ h₁
  apply passes_then (pollThermal_free hr r)
  intro _ d₂ h₂
  apply passes_then (pollDvfs_free hr r)
  intro _ d₃ h₃
  -- the configuration of the supply is still the one of the beginning
  have hpsu : d₃.power.psuConfig = d.power.psuConfig := congrArg Prod.fst (h₃.trans (h₂.trans h₁))
  rw [← hpsu]
  apply (passes_bind (pollPsu_passes List.mem_cons_self) _).congr (iff_of_eq (and_true _))
  exact fun _ d₄ _ => passes_change rfl

/-- A collection is due and there is a GPU to collect from. -/
def Collects (m : MetricsCollector) (now : Int) : Prop :=
  (m.collectionIntervalMs.toNat : Int) ≤ elapsedMs now m.lastCollection ∧ m.gpuMetrics ≠ []

instance (m : MetricsCollector) (now : Int) : Decidable (Collects m now) := inferInstanceAs (Decidable (_ ∧ _))

/-- The collector's mutex is taken again for the first GPU. -/
theorem collectAllMetrics_passes {γ : Type} {view : Daemon → γ} (hm : .metrics ∈ held) (clock : Nat → Int)
    (stack : Nat → GpuMetrics) : Passes view held d (d.metrics.gpuMetrics = []) (collectAllMetrics clock stack) := by
  apply passes_read
  cases hgpus : d.metrics.gpuMetrics with
  | nil => exact (passes_pure ()).congr (by simp)
  | cons first rest =>
    rw [List.length_cons, List.range_succ_eq_map]
    exact (stuck_bind (stuck_locked hm)).congr (by simp)

theorem pollMetrics_passes (hm : .metrics ∈ held) (r : Readings) (stack : Nat → GpuMetrics) :
    Passes (fun _ => ()) held d (¬ Collects d.metrics r.metrics) (pollMetrics r stack) := by
  apply passes_read
  apply (passes_if (p := d.metrics.gpuMetrics = []) (q := True) _ _).congr
  · unfold Collects
    by_cases hdue : (d.metrics.collectionIntervalMs.toNat : Int) ≤ elapsedMs r.metrics d.metrics.lastCollection <;>
      simp [hdue]
  · intro _
    apply (passes_bind (collectAllMetrics_passes hm _ _) _).congr (iff_of_eq (and_true _))
    exact fun _ d' _ => passes_change rfl
  · exact fun _ => passes_pure ()

/-- **The metrics collector** comes through exactly if it has nothing to collect. -/
theorem metricsProcessEvents_passes (r : Readings) (stack : Nat → GpuMetrics) :
    Passes (fun _ => ()) [] d (¬ Collects d.metrics r.metrics) (metricsProcessEvents r stack) := by
  apply passes_locked List.not_mem_nil
  apply (passes_bind (pollMetrics_passes List.mem_cons_self r stack) _).congr (iff_of_eq (and_true _))
  exact fun _ d' _ => passes_change rfl

theorem handler_free (r : Request) : Free watched [.server] d r.handler := by
  have hr : Mutex.registry ∉ [Mutex.server] := by decide
  unfold Request.handler
  split
  · apply passes_read
    exact each_getGpu_free hr _
  · apply passes_then (getGpu_free hr r.index)
    intro _ d' _
    exact passes_pure ()
  · apply passes_then (passes_locked hr (passes_pure ()))
    intro _ d' _
    exact passes_locked hr (passes_pure ())
  · exact passes_locked (by decide) (passes_pure ())
  · exact passes_locked (by decide) (passes_pure ())
  · exact passes_locked (by decide) (passes_locked (by decide) (passes_pure ()))
  · exact passes_locked (by decide) (passes_pure ())
  · exact passes_locked hr (passes_pure ())
  · exact passes_pure ()

theorem serverProcessEvents_free (newClients : Nat) (requests : List Request) (dead : Bool) :
    Free watched [] d (serverProcessEvents newClients requests dead) := by
  have hs : Mutex.server ∉ [] := List.not_mem_nil
  apply passes_then
  · apply free_each
    intro _ d' _
    apply passes_then (passes_locked hs (passes_pure ()))
    intro _ d'' _
    exact passes_locked hs (passes_pure ())
  · intro _ d' _
    apply passes_then
    · apply passes_locked hs
      apply free_each
      intro r d'' _
      exact handler_free r
    · intro _ d'' _
      exact free_when (passes_locked hs (passes_pure ()))

theorem registryProcessEvents_free (sysfs : Nat → GpuDevice) : Free watched [] d (registryProcessEvents sysfs) :=
  passes_locked List.not_mem_nil (passes_change rfl)

/-- **One iteration** comes through exactly if both do. -/
theorem iteration_passes (it : Iteration) :
    Passes (fun _ => ()) [] d (¬ Tracks d.power.psuConfig ∧ ¬ Collects d.metrics it.readings.metrics) it.body := by
  have hview (d d' : Daemon) (_ : watched d' = watched d) : () = () := rfl
  refine (passes_seq (serverProcessEvents_free _ _ _) (fun _ d₁ h₁ => ?_) (hview d)).congr (iff_of_eq (true_and _))
  refine (passes_seq (registryProcessEvents_free _) (fun _ d₂ h₂ => ?_) (hview d₁)).congr (iff_of_eq (true_and _))
  have hwatched : watched d₂ = watched d := h₂.trans h₁
  have hpsu : d₂.power.psuConfig = d.power.psuConfig := congrArg Prod.fst hwatched
  rw [← hpsu]
  refine passes_seq (powerProcessEvents_passes it.readings) (fun _ d₃ h₃ => ?_) (hview d₂)
  have hmetrics : d₃.metrics = d.metrics := congrArg Prod.snd (h₃.trans hwatched)
  rw [← hmetrics]
  exact metricsProcessEvents_passes it.readings it.stack

end

/-! ### Runs of the loop -/

/-- The daemon, and whether its thread waits for a mutex it holds. -/
structure World where
  daemon : Daemon
  blocked : Bool

/-- An iteration, or what others set between two of them. -/
inductive Action where
  | iterate (it : Iteration)
  | setConfig (config : PowerConfig)
  | setPsuConfig (config : PsuConfig)
  | setCollectionInterval (intervalMs : UInt32)
  | callGpu (index : Nat) (call : GpuCall)
  | setCurves (index : Nat) (fan : GpuFanCurve) (power : GpuPowerCurve)
  | subscribeTelemetry (updateIntervalMs : UInt32) (now : Int)

def Daemon.set (d : Daemon) : Action → Daemon
  | .iterate _ => d
  | .setConfig config => {d with power.config := config}
  | .setPsuConfig config => {d with power.psuConfig := config}
  | .setCollectionInterval intervalMs => {d with metrics.collectionIntervalMs := intervalMs}
  | .callGpu index call => {d with power.gpuPowerInfo := d.power.gpuPowerInfo.modify index (·.call call)}
  | .setCurves index fan power =>
    {d with power.fanCurves := d.power.fanCurves.set index fan, power.powerCurves := d.power.powerCurves.set index power}
  | .subscribeTelemetry updateIntervalMs now =>
    {d with metrics.subscriptions := d.metrics.subscriptions ++ [⟨updateIntervalMs, now⟩]}

def step (w : World) (a : Action) : Option World :=
  if w.blocked then none
  else
    match a with
    | .iterate it =>
      match it.body.run [] w.daemon with
      | .ok (_, d) => some ⟨d, false⟩
      | .error d => some ⟨d, true⟩
    | a => some ⟨w.daemon.set a, false⟩

/-- An iteration that neither tracks a power supply of known capacity nor collects metrics. -/
def StepOk (w : World) : Action → Prop
  | .iterate it => ¬ Tracks w.daemon.power.psuConfig ∧ ¬ Collects w.daemon.metrics it.readings.metrics
  | _ => True

theorem step_unblocked_iff {w w' : World} {a : Action} (hstep : step w a = some w') :
    w'.blocked = false ↔ StepOk w a := by
  unfold step at hstep
  split at hstep
  · cases hstep
  · cases a with
    | iterate it =>
      dsimp only at hstep
      by_cases hok : StepOk w (.iterate it)
      · obtain ⟨_, d, hrun, -⟩ := (iteration_passes it).through hok
        rw [hrun] at hstep
        cases hstep
        exact iff_of_true rfl hok
      · obtain ⟨d, hrun⟩ := (iteration_passes it).stuck hok
        rw [hrun] at hstep
        cases hstep
        exact iff_of_false (by simp) hok
    | setConfig config
    | setPsuConfig config
    | setCollectionInterval intervalMs
    | callGpu index call
    | setCurves index fan power
    | subscribeTelemetry updateIntervalMs now =>
      cases hstep
      exact iff_of_true rfl trivial

/-- **The event loop** never takes a mutex twice, whatever the GPUs, the configuration and
the clock, exactly if no iteration tracks the headroom of a power supply of known capacity
or collects metrics of a GPU. -/
theorem loop_unblocked_iff (gpus : List GpuDevice) (powerStart metricsStart : Int) (actions : List Action) :
    Run.Along step (fun w => w.blocked = false) ⟨.initial gpus powerStart metricsStart, false⟩ actions ↔
      Run.Admitted step StepOk ⟨.initial gpus powerStart metricsStart, false⟩ actions := by
  apply Run.along_iff_of_exact
  · intro w a w' _ hstep
    exact step_unblocked_iff hstep
  · rfl

def firstCollection : Iteration :=
  let idle : GpuDevice := ⟨0, 40, 0, 500⟩
  ⟨0, [], false, fun _ => idle, ⟨0, 0, fun _ => 0, fun _ => 0, 1000000000, fun _ => 0, 0, fun _ => 0⟩,
    fun _ => ⟨0, 0, 0, 0, 0, 0, 0, 0, 0, 0, 0⟩⟩

/-- With one GPU and all defaults the loop stops within its first second. -/
theorem collection_blocks_loop : ¬ ∀ gpus powerStart metricsStart actions,
      Run.Along step (fun w => w.blocked = false) ⟨.initial gpus powerStart metricsStart, false⟩ actions := by
  intro h
  have hbad := (h [⟨0, 40, 0, 500⟩] 0 0 [.iterate firstCollection]).final rfl
  exact nomatch hbad

end Mvgal.Runtime.EventLoop
