import Mvgal.Lib.Guard
import Mvgal.Rewrite.Tracking

/-! The configuration calls of the rewrite engine and the mutexes they take
(`command_buffer_rewrite.c`).

`g_rewrite_lock` guards the engine, `afr_lock` its frame states; neither can be taken twice by
one thread. Every return of a call gives up what the call took, so that the locks are scoped.
`mvgal_rewrite_trigger_rebalance` gives the lock up before it calls what takes it again;
`mvgal_rewrite_set_strategy` calls `mvgal_rewrite_afr_configure` with the lock held
(`config_calls_pass_iff`).

A call ends in `none` where the process does: a division by zero, a write behind `sfr_tiles`, or
an access to an array that was freed when `mvgal_rewrite_engine_init` failed. -/
namespace Mvgal.Rewrite
open Guard List
open Run (Along Admitted Allowed Safe faulting)

inductive RewriteStrategy where
  | afr
  | sfr
  | computeSplit
  | copyDistrib
deriving DecidableEq, Repr

structure SfrTile where
  x : UInt32
  y : UInt32
  width : UInt32
  height : UInt32
  gpuIndex : UInt32
deriving DecidableEq, Repr

/-- `afr_frame_state_t`, without the Vulkan objects. -/
structure AfrFrameState where
  frameNumber : UInt64
  gpuIndex : UInt32
  completed : Bool
deriving DecidableEq, Repr

/-- `SFR_TILE_COUNT`. -/
def maxSfrTiles : Nat := 4

/-- `rewrite_context_t`, without the table of command buffers. The arrays of a call that ran out
of memory are absent. -/
structure Engine where
  strategy : RewriteStrategy
  gpuCount : UInt32
  sfrTiles : List SfrTile
  sfrTileCount : UInt32
  framebufferWidth : UInt32
  framebufferHeight : UInt32
  afrFrames : Option (List AfrFrameState)
  afrFrameCount : UInt32
  currentFrame : UInt64
  currentGpu : UInt32
  gpuUtilization : Option (List Float32)
  gpuWorkloadCount : Option (List UInt64)
  loadBalanceThreshold : Float32
  dynamicRebalancing : Bool

def Engine.zero : Engine where
  strategy := .afr
  gpuCount := 0
  sfrTiles := List.replicate maxSfrTiles ⟨0, 0, 0, 0, 0⟩
  sfrTileCount := 0
  framebufferWidth := 0
  framebufferHeight := 0
  afrFrames := none
  afrFrameCount := 0
  currentFrame := 0
  currentGpu := 0
  gpuUtilization := none
  gpuWorkloadCount := none
  loadBalanceThreshold := 0
  dynamicRebalancing := false

inductive Lock where
  | rewrite
  | afr
deriving DecidableEq

abbrev Program := Guarded Lock Engine

/-- The first `count` tiles go to the GPUs in turn. -/
def Engine.dealTiles (s : Engine) (count : Nat) : Engine :=
  {s with sfrTiles := s.sfrTiles.mapIdx fun i tile =>
    if i < count then {tile with gpuIndex := UInt32.ofNat i % s.gpuCount} else tile}

/-- `mvgal_rewrite_engine_init`; `alloc` is the outcome of both allocations. -/
def engineInit (alloc : Bool) (gpuCount : UInt32) (strategy : RewriteStrategy) : Program (Option Result) :=
  locked .rewrite do
    let s ← read
    if s.strategy ≠ .afr ∨ 0 < s.gpuCount then
      pure (some .alreadyInitialized)
    else do
      change fun _ => { Engine.zero with
        gpuCount := gpuCount
        strategy := strategy
        sfrTileCount := 4
        loadBalanceThreshold := 0.15
        dynamicRebalancing := true
        gpuUtilization := if alloc then some (List.replicate gpuCount.toNat 0) else none
        gpuWorkloadCount := if alloc then some (List.replicate gpuCount.toNat 0) else none }
      if alloc = false then
        pure (some .outOfMemory)
      else if gpuCount = 0 then
        pure none
      else do
        change (·.dealTiles maxSfrTiles)
        pure (some .success)

/-- The tiles of a grid of `tileCountX` columns, behind which the tiles stay as they are. -/
def Engine.layTiles (s : Engine) (width height tileCountX tileCountY : UInt32) : Engine :=
  {s with sfrTiles := s.sfrTiles.mapIdx fun i tile =>
    if i < tileCountX.toNat * tileCountY.toNat then
      ⟨UInt32.ofNat (i % tileCountX.toNat) * (width / tileCountX),
        UInt32.ofNat (i / tileCountX.toNat) * (height / tileCountY),
        width / tileCountX, height / tileCountY, UInt32.ofNat i % s.gpuCount⟩
    else tile}

/-- `mvgal_rewrite_sfr_configure`. The number of tiles is computed in 32 bits. -/
def sfrConfigure (width height tileCountX tileCountY : UInt32) : Program (Option Result) :=
  locked .rewrite do
    let s ← read
    if s.gpuCount = 0 then
      pure (some .notInitialized)
    else if 4 < tileCountX * tileCountY then
      pure (some .invalidParameter)
    else do
      change fun s => { s with
        framebufferWidth := width
        framebufferHeight := height
        sfrTileCount := tileCountX * tileCountY }
      if tileCountX = 0 ∨ tileCountY = 0 ∨ maxSfrTiles < tileCountX.toNat * tileCountY.toNat then
        pure none
      else do
        change (·.layTiles width height tileCountX tileCountY)
        pure (some .success)

def afrConfigure (alloc : Bool) (frameLatency : UInt32) : Program Result :=
  locked .rewrite do
    let s ← read
    if s.gpuCount = 0 then
      pure .notInitialized
    else
      locked .afr do
        let count := frameLatency * s.gpuCount
        change fun s => {s with afrFrameCount := count, afrFrames := none}
        if alloc = false then
          pure .outOfMemory
        else do
          change fun s => { s with
            afrFrames := some ((List.range count.toNat).map fun i => ⟨0, UInt32.ofNat i % s.gpuCount, true⟩)
            currentFrame := 0
            currentGpu := 0 }
          pure .success

def setStrategy (alloc : Bool) (strategy : RewriteStrategy) : Program Result :=
  locked .rewrite do
    let s ← read
    change fun s => {s with strategy := strategy}
    if strategy = .afr ∧ s.strategy ≠ .afr then do
      let _ ← afrConfigure alloc 2
      pure .success
    else
      pure .success

def setTileCount (count : UInt32) : Program Result :=
  if count = 0 ∨ 4 < count then
    pure .invalidParameter
  else
    locked .rewrite do
      change fun s => {s with sfrTileCount := count}
      pure .success

/-- The share of the tiles that each GPU should get: more for a lower utilization. `none` if the
imbalance is below the threshold or no GPU has any capacity left. -/
def targetWorkload (threshold : Float32) (utilization : List Float32) : Option (List Float32) :=
  let least := utilization.foldl (fun least util => if util < least then util else least) 1
  let most := utilization.foldl (fun most util => if most < util then util else most) 0
  let target := utilization.map fun util => 1 - util
  let total := target.foldl (· + ·) 0
  if threshold < most - least ∧ 0 < total then some (target.map (· / total)) else none

/-- The greedy assignment: each GPU gets its share of the tiles and at least one, while there
are tiles. -/
def assignTiles (tileCount : UInt32) (shares : List Float32) (tiles : List SfrTile) : List SfrTile :=
  let owners := shares.zipIdx.flatMap fun (share, gpu) =>
    let wanted := (share * Float32.ofNat tileCount.toNat).toUInt32
    List.replicate (min (if wanted = 0 then 1 else wanted.toNat) tileCount.toNat) (UInt32.ofNat gpu)
  tiles.mapIdx fun i tile =>
    match (owners.take tileCount.toNat)[i]? with
    | some gpu => {tile with gpuIndex := gpu}
    | none => tile

def rebalanceSfrTiles : Program (Option Unit) :=
  locked .rewrite do
    let s ← read
    if s.dynamicRebalancing = false ∨ s.gpuCount < 2 then
      pure (some ())
    else
      match s.gpuUtilization with
      | none => pure none
      | some utilization => do
        change fun s =>
          match targetWorkload s.loadBalanceThreshold utilization with
          | some shares => {s with sfrTiles := assignTiles s.sfrTileCount shares s.sfrTiles}
          | none => s
        pure (some ())

/-- `rebalance_afr_frames`; it looks at the workload counts and changes nothing. -/
def rebalanceAfrFrames : Program (Option Unit) :=
  locked .rewrite do
    let s ← read
    if s.dynamicRebalancing = false ∨ s.gpuCount < 2 then
      pure (some ())
    else
      pure (s.gpuWorkloadCount.map fun _ => ())

def triggerRebalance : Program (Option Result) := do
  let strategy ← locked .rewrite do
    let s ← read
    pure (if s.gpuCount = 0 then none else some s.strategy)
  match strategy with
  | none => pure (some .notInitialized)
  | some .sfr => do
    let done ← rebalanceSfrTiles
    pure (done.map fun _ => .success)
  | some .afr => do
    let done ← rebalanceAfrFrames
    pure (done.map fun _ => .success)
  | some _ => pure (some .success)

def reset : Program (Option Result) :=
  locked .rewrite do
    let s ← read
    if 0 < s.gpuCount ∧ (s.gpuUtilization = none ∨ s.gpuWorkloadCount = none) then
      pure none
    else do
      change fun s => { s with
        gpuUtilization := s.gpuUtilization.map fun u => u.map fun _ => 0
        gpuWorkloadCount := s.gpuWorkloadCount.map fun n => n.map fun _ => 0 }
      locked .afr do
        change fun s => { s with
          afrFrames := s.afrFrames.map fun frames => frames.map fun frame => {frame with completed := true}
          currentFrame := 0
          currentGpu := 0 }
      if s.gpuCount = 0 ∧ 0 < s.sfrTileCount then
        pure none
      else do
        change fun s => s.dealTiles s.sfrTileCount.toNat
        pure (some .success)

/-- A configuration call with its arguments and the outcome of its allocations. -/
inductive ConfigCall where
  | engineInit (alloc : Bool) (gpuCount : UInt32) (strategy : RewriteStrategy)
  | setStrategy (alloc : Bool) (strategy : RewriteStrategy)
  | sfrConfigure (width height tileCountX tileCountY : UInt32)
  | afrConfigure (alloc : Bool) (frameLatency : UInt32)
  | setTileCount (count : UInt32)
  | triggerRebalance
  | reset

def ConfigCall.program : ConfigCall → Program (Option Result)
  | .engineInit alloc gpuCount strategy => Rewrite.engineInit alloc gpuCount strategy
  | .setStrategy alloc strategy => some <$> Rewrite.setStrategy alloc strategy
  | .sfrConfigure width height tileCountX tileCountY => Rewrite.sfrConfigure width height tileCountX tileCountY
  | .afrConfigure alloc frameLatency => some <$> Rewrite.afrConfigure alloc frameLatency
  | .setTileCount count => some <$> Rewrite.setTileCount count
  | .triggerRebalance => Rewrite.triggerRebalance
  | .reset => Rewrite.reset

/-- One call by a thread that holds no lock. A thread that waits for itself is an error; after
the end of the process nothing follows. -/
def configStep (s : Engine) (c : ConfigCall) : Option (Except Engine Engine) :=
  match c.program.run [] s with
  | .ok (some _, s') => some (.ok s')
  | .ok (none, _) => none
  | .error s' => some (.error s')

/-! ### Which calls come through -/

section Passes
variable {held : List Lock} {s : Engine}

def nothing (_ : Engine) : Unit := ()

theorem change_free (f : Engine → Engine) : Free nothing held s (change f : Program Unit) := passes_change rfl

theorem change_pure_free {α : Type} (f : Engine → Engine) (a : α) :
    Free nothing held s (do change f; pure a : Program α) :=
  passes_then (change_free f) fun _ _ _ => passes_pure a

theorem engineInit_free (alloc : Bool) (gpuCount : UInt32) (strategy : RewriteStrategy) :
    Free nothing [] s (engineInit alloc gpuCount strategy) := by
  apply passes_locked not_mem_nil
  apply passes_read
  apply free_unless
  refine passes_then (change_free _) fun _ s' _ => ?_
  apply free_unless
  exact free_unless (change_pure_free _ _)

theorem sfrConfigure_free (width height tileCountX tileCountY : UInt32) :
    Free nothing [] s (sfrConfigure width height tileCountX tileCountY) := by
  apply passes_locked not_mem_nil
  apply passes_read
  apply free_unless
  apply free_unless
  refine passes_then (change_free _) fun _ s' _ => ?_
  exact free_unless (change_pure_free _ _)

theorem afrConfigure_free (alloc : Bool) (frameLatency : UInt32) :
    Free nothing [] s (afrConfigure alloc frameLatency) := by
  apply passes_locked not_mem_nil
  apply passes_read
  apply free_unless
  apply passes_locked (by decide)
  refine passes_then (change_free _) fun _ s' _ => ?_
  exact free_unless (change_pure_free _ _)

/-- With the lock held, `mvgal_rewrite_afr_configure` waits for it. -/
theorem afrConfigure_stuck (hheld : .rewrite ∈ held) (alloc : Bool) (frameLatency : UInt32) :
    Passes nothing held s False (afrConfigure alloc frameLatency) := stuck_locked hheld

/-- **Setting the strategy** comes through unless it turns to alternate frames. -/
theorem setStrategy_passes (alloc : Bool) (strategy : RewriteStrategy) :
    Passes nothing [] s (strategy = .afr → s.strategy = .afr) (setStrategy alloc strategy) := by
  apply passes_locked not_mem_nil
  apply passes_read
  refine passes_then (change_free _) fun _ s' _ => ?_
  refine (passes_if (fun _ => stuck_bind (afrConfigure_stuck mem_cons_self alloc 2))
    fun _ => passes_pure Result.success).congr ?_
  constructor
  · intro h hafr
    by_contra hother
    exact h.1 ⟨hafr, hother⟩
  · intro h
    exact ⟨fun hturn => hturn.2 (h hturn.1), fun _ => trivial⟩

theorem setTileCount_free (count : UInt32) : Free nothing [] s (setTileCount count) := by
  apply free_unless
  exact passes_locked not_mem_nil (change_pure_free _ _)

theorem rebalanceSfrTiles_free : Free nothing [] s rebalanceSfrTiles := by
  apply passes_locked not_mem_nil
  apply passes_read
  apply free_unless
  cases s.gpuUtilization with
  | none => exact passes_pure _
  | some utilization => exact change_pure_free _ _

theorem rebalanceAfrFrames_free : Free nothing [] s rebalanceAfrFrames := by
  apply passes_locked not_mem_nil
  apply passes_read
  exact free_unless (passes_pure _)

theorem triggerRebalance_free : Free nothing [] s triggerRebalance := by
  refine passes_then (passes_locked not_mem_nil (passes_read (passes_pure _))) fun strategy s' _ => ?_
  match strategy with
  | none => exact passes_pure _
  | some .sfr => exact passes_then rebalanceSfrTiles_free fun _ _ _ => passes_pure _
  | some .afr => exact passes_then rebalanceAfrFrames_free fun _ _ _ => passes_pure _
  | some .computeSplit => exact passes_pure _
  | some .copyDistrib => exact passes_pure _

theorem reset_free : Free nothing [] s reset := by
  apply passes_locked not_mem_nil
  apply passes_read
  apply free_unless
  refine passes_then (change_free _) fun _ _ _ => ?_
  refine passes_then (passes_locked (by decide) (change_free _)) fun _ _ _ => ?_
  exact free_unless (change_pure_free _ _)

end Passes

/-- The strategy is not turned to alternate frames. -/
def ConfigOk (s : Engine) : ConfigCall → Prop
  | .setStrategy _ strategy => strategy = .afr → s.strategy = .afr
  | _ => True

/-- **One call**, in any state of the engine. -/
theorem configCall_passes (s : Engine) (c : ConfigCall) : Passes nothing [] s (ConfigOk s c) c.program := by
  cases c with
  | engineInit alloc gpuCount strategy => exact engineInit_free alloc gpuCount strategy
  | setStrategy alloc strategy => exact passes_map some (setStrategy_passes alloc strategy)
  | sfrConfigure width height tileCountX tileCountY => exact sfrConfigure_free width height tileCountX tileCountY
  | afrConfigure alloc frameLatency => exact passes_map some (afrConfigure_free alloc frameLatency)
  | setTileCount count => exact passes_map some (setTileCount_free count)
  | triggerRebalance => exact triggerRebalance_free
  | reset => exact reset_free

theorem configStep_safe_iff {s : Engine} {c : ConfigCall} {r : Except Engine Engine} (h : configStep s c = some r) :
    Safe (fun _ => True) r ↔ ConfigOk s c := by
  unfold configStep at h
  by_cases hok : ConfigOk s c
  · obtain ⟨a, s', hrun, -⟩ := (configCall_passes s c).through hok
    rw [hrun] at h
    cases a with
    | none => cases h
    | some result =>
      cases h
      exact iff_of_true trivial hok
  · obtain ⟨s', hrun⟩ := (configCall_passes s c).stuck hok
    rw [hrun] at h
    cases h
    exact iff_of_false id hok

/-- **The lock of the engine.** From every state and for every sequence of configuration calls
with any arguments, no call takes a mutex that its thread holds exactly if none of them turns
the strategy from another one to alternate frames. -/
theorem config_calls_pass_iff (s : Engine) (calls : List ConfigCall) :
    Along (faulting configStep) (Safe fun _ => True) (.ok s) calls ↔
      Admitted (faulting configStep) (Allowed ConfigOk) (.ok s) calls :=
  Run.safe_along_iff_of_exact (fun _ _ _ _ hstep => configStep_safe_iff hstep) trivial calls

/-- The engine is initialized for split frames and then set to alternate frames. -/
theorem config_calls_pass_to_afr :
    ¬ Along (faulting configStep) (Safe fun _ => True) (.ok Engine.zero)
      [.engineInit true 2 .sfr, .setStrategy true .afr] := by
  intro h
  exact h.final rfl

end Mvgal.Rewrite
