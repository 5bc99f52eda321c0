import Mathlib.Tactic.SplitIfs
import Mvgal.Daemon.Settings
import Mvgal.Lib.Run

/-! Start-up and shutdown of the library (`mvgal_api.c`).

`mvgal_init` brings up six subsystems in order, and a failure shuts down those it got to. Each of
them can also have been brought up by its own functions before, and then reports as much, or not.
A failed start-up should leave each subsystem as it was, and the subsystems should be up exactly
while more calls of `mvgal_init` than of `mvgal_shutdown` were made; `startup_counted_iff` says
when both hold. -/
namespace Mvgal.Api
open Daemon (Config defaultConfig)
open Function (update)
open Run (Along Admitted)

inductive Subsystem where
  | log
  | config
  | gpu
  | memory
  | scheduler
  | execution
deriving DecidableEq, Repr

/-- An error of an initialiser that is not a report of its earlier initialisation. -/
structure Failure where
  error : Error
  real : error ≠ .success ∧ error ≠ .alreadyInitialized

abbrev Failures : Type := Subsystem → Option Failure

/-- `mvgal_state_t`, whether each subsystem is initialised, and the configuration. -/
structure ApiState where
  initialized : Bool
  flags : UInt32
  refcount : UInt32
  up : Subsystem → Bool
  config : Config

def ApiState.start (a : ApiState) (sub : Subsystem) : ApiState := {a with up := update a.up sub true}

/-- The shutdowns of these subsystems, each of which does nothing to one that is down. -/
def ApiState.stop (a : ApiState) (subs : List Subsystem) : ApiState :=
  {a with up := fun sub => if sub ∈ subs then false else a.up sub}

def startLog (a : ApiState) : ApiState := a.start .log

def configInit (fails : Option Failure) (a : ApiState) : Error × ApiState :=
  if a.up .config = true then (.alreadyInitialized, a)
  else
    match fails with
    | some failure => (failure.error, a)
    | none => (.success, {a.start .config with config := defaultConfig})

/-- `mvgal_gpu_manager_init`, which does not tell a second call from the first. -/
def gpuManagerInit (fails : Option Failure) (a : ApiState) : Error × ApiState :=
  if a.up .gpu = true then (.success, a)
  else
    match fails with
    | some failure => (failure.error, a)
    | none => (.success, a.start .gpu)

/-- The initialisers that report an earlier initialisation. -/
def moduleInit (sub : Subsystem) (fails : Option Failure) (a : ApiState) : Error × ApiState :=
  if a.up sub = true then (.alreadyInitialized, a)
  else
    match fails with
    | some failure => (failure.error, a)
    | none => (.success, a.start sub)

def memoryModuleInit : Option Failure → ApiState → Error × ApiState := moduleInit .memory

def schedulerModuleInit : Option Failure → ApiState → Error × ApiState := moduleInit .scheduler

def executionModuleInit : Option Failure → ApiState → Error × ApiState := moduleInit .execution

/-- How `mvgal_init` goes on after an initialiser: an error that counts is returned after the
shutdown of these subsystems. -/
def orUnwind (counts : Error → Bool) (subs : List Subsystem) (r : Error × ApiState)
    (next : ApiState → Error × ApiState) : Error × ApiState :=
  if counts r.1 = true then (r.1, r.2.stop subs) else next r.2

/-- What counts of the answers of the configuration and of the GPU manager. -/
def isError (err : Error) : Bool := err ≠ .success

/-- What counts of the answers of the other modules. -/
def isFailure (err : Error) : Bool := err ≠ .success ∧ err ≠ .alreadyInitialized

def mvgalInit (flags : UInt32) (fails : Failures) (a : ApiState) : Error × ApiState :=
  if a.initialized = true then (.success, {a with refcount := a.refcount + 1})
  else
    orUnwind isError [] (configInit (fails .config) (startLog a)) fun a =>
    orUnwind isError [.config, .log] (gpuManagerInit (fails .gpu) a) fun a =>
    orUnwind isFailure [.gpu, .config, .log] (memoryModuleInit (fails .memory) a) fun a =>
    orUnwind isFailure [.memory, .gpu, .config, .log] (schedulerModuleInit (fails .scheduler) a) fun a =>
    orUnwind isFailure [.scheduler, .memory, .gpu, .config, .log] (executionModuleInit (fails .execution) a) fun a =>
    (.success, {a with flags, initialized := true, refcount := 1})

def mvgalShutdown (a : ApiState) : ApiState :=
  if a.initialized = false then a
  else
    let a := {a with refcount := a.refcount - 1}
    if 0 < a.refcount then a
    else {a.stop [.execution, .scheduler, .memory, .gpu, .config, .log] with initialized := false, flags := 0}

/-- `mvgal_context_create` with a place for the context; `allocated` is whether there is memory
for it. -/
def contextCreate (fails : Failures) (allocated : Bool) (a : ApiState) : Error × ApiState :=
  let (err, a) := if a.initialized = false then mvgalInit 0 fails a else (.success, a)
  if err ≠ .success then (err, a)
  else (if allocated = true then .success else .outOfMemory, a)

/-! ### What a start-up comes to -/

/-- What a start-up that got past the configuration shuts down again, if it fails. -/
def unwound (up : Subsystem → Bool) (fails : Failures) : Option (List Subsystem) :=
  if up .gpu = false ∧ (fails .gpu).isSome = true then some [.config, .log]
  else if up .memory = false ∧ (fails .memory).isSome = true then some [.gpu, .config, .log]
  else if up .scheduler = false ∧ (fails .scheduler).isSome = true then some [.memory, .gpu, .config, .log]
  else if up .execution = false ∧ (fails .execution).isSome = true then
    some [.scheduler, .memory, .gpu, .config, .log]
  else none

/-- The configuration keeps the start-up from going on. -/
def Refused (up : Subsystem → Bool) (fails : Failures) : Prop :=
  up .config = true ∨ (fails .config).isSome = true

instance (up : Subsystem → Bool) (fails : Failures) : Decidable (Refused up fails) :=
  inferInstanceAs (Decidable (_ ∨ _))

structure Failed (a : ApiState) (up : Subsystem → Bool) (r : Error × ApiState) : Prop where
  result : r.1 ≠ .success
  up : r.2.up = up
  initialized : r.2.initialized = a.initialized
  refcount : r.2.refcount = a.refcount

structure Started (r : Error × ApiState) : Prop where
  result : r.1 = .success
  up : ∀ sub, r.2.up sub = true
  initialized : r.2.initialized = true
  refcount : r.2.refcount = 1
  config : r.2.config = defaultConfig

/-- What a start-up comes to that shuts these subsystems down again, if it fails. -/
def Outcome (a : ApiState) (subs : Option (List Subsystem)) (r : Error × ApiState) : Prop :=
  match subs with
  | some subs => Failed a (fun sub => if sub ∈ subs then false else a.up sub) r
  | none => Started r

/-- A start-up on its way, past the configuration: these subsystems are up, and the rest is as it
was. -/
structure Reached (a : ApiState) (done : List Subsystem) (b : ApiState) : Prop where
  started : ∀ sub ∈ done, b.up sub = true
  rest : ∀ sub, sub ∉ done → b.up sub = a.up sub
  initialized : b.initialized = a.initialized
  refcount : b.refcount = a.refcount
  config : b.config = defaultConfig

variable {a b : ApiState} {done : List Subsystem} {sub : Subsystem}

section
variable (h : Reached a done b)
include h

theorem Reached.start (sub : Subsystem) : Reached a (sub :: done) (b.start sub) := by
  have hup : ∀ s, (b.start sub).up s = if s = sub then true else b.up s := fun s => Function.update_apply ..
  refine ⟨fun s hs => ?_, fun s hs => ?_, h.initialized, h.refcount, h.config⟩
  · rw [hup]
    split_ifs with heq
    · rfl
    · exact h.started s ((List.mem_cons.mp hs).resolve_left heq)
  · rw [List.mem_cons, not_or] at hs
    rw [hup, if_neg hs.1]
    exact h.rest s hs.2

theorem Reached.present (hup : b.up sub = true) : Reached a (sub :: done) b := by
  have hsame : b.start sub = b := by
    unfold ApiState.start
    rw [← hup, Function.update_eq_self]
  rw [← hsame]
  exact h.start sub

theorem Reached.failed {err : Error} (herr : err ≠ .success) :
    Outcome a (some done) (err, b.stop done) := by
  refine ⟨herr, ?_, h.initialized, h.refcount⟩
  funext sub
  show (if sub ∈ done then false else b.up sub) = if sub ∈ done then false else a.up sub
  split_ifs with hmem
  · rfl
  · exact h.rest sub hmem

variable {next : ApiState → Error × ApiState} {later : Option (List Subsystem)} {fails : Option Failure}

/-- A stage whose initialiser `r` fails exactly if its subsystem is down and meets a failure. -/
theorem outcome_stage {counts : Error → Bool} {r : Error × ApiState} (hnew : sub ∉ done)
    (hfail : b.up sub = false ∧ fails.isSome = true → counts r.1 = true ∧ r.1 ≠ .success ∧ r.2 = b)
    (hpass : ¬ (b.up sub = false ∧ fails.isSome = true) →
      counts r.1 = false ∧ (r.2 = b ∧ b.up sub = true ∨ r.2 = b.start sub))
    (hnext : ∀ b', Reached a (sub :: done) b' → Outcome a later (next b')) :
    Outcome a (if a.up sub = false ∧ fails.isSome = true then some done else later)
      (orUnwind counts done r next) := by
  rw [← h.rest sub hnew]
  unfold orUnwind
  split_ifs with hcond hcount hcount
  · obtain ⟨-, herr, hsame⟩ := hfail hcond
    rw [hsame]
    exact h.failed herr
  · exact absurd (hfail hcond).1 hcount
  · exact absurd hcount (by simp [(hpass hcond).1])
  · obtain ⟨hsame, hup⟩ | hstarted := (hpass hcond).2
    · rw [hsame]
      exact hnext b (h.present hup)
    · rw [hstarted]
      exact hnext _ (h.start sub)

theorem gpuManagerInit_stage (hnew : Subsystem.gpu ∉ done)
    (hnext : ∀ b', Reached a (.gpu :: done) b' → Outcome a later (next b')) :
    Outcome a (if a.up .gpu = false ∧ fails.isSome = true then some done else later)
      (orUnwind isError done (gpuManagerInit fails b) next) := by
  refine outcome_stage h hnew (fun hcond => ?_) (fun hcond => ?_) hnext
  · obtain ⟨failure, rfl⟩ := Option.isSome_iff_exists.mp hcond.2
    simpa [gpuManagerInit, hcond.1, isError] using failure.real.1
  · cases hup : b.up .gpu <;> cases fails <;> simp_all [gpuManagerInit, isError]

theorem moduleInit_stage (hnew : sub ∉ done)
    (hnext : ∀ b', Reached a (sub :: done) b' → Outcome a later (next b')) :
    Outcome a (if a.up sub = false ∧ fails.isSome = true then some done else later)
      (orUnwind isFailure done (moduleInit sub fails b) next) := by
  refine outcome_stage h hnew (fun hcond => ?_) (fun hcond => ?_) hnext
  · obtain ⟨failure, rfl⟩ := Option.isSome_iff_exists.mp hcond.2
    simpa [moduleInit, hcond.1, isFailure] using ⟨failure.real, failure.real.1⟩
  · cases hup : b.up sub <;> cases fails <;> simp_all [moduleInit, isFailure]

end

theorem orUnwind_success (subs : List Subsystem) (a : ApiState) (next : ApiState → Error × ApiState) :
    orUnwind isError subs (.success, a) next = next a := rfl

/-- Before the configuration only the log was brought up. -/
theorem startLog_config (a : ApiState) : (startLog a).up .config = a.up .config :=
  Function.update_of_ne (by decide : Subsystem.config ≠ .log) true a.up

theorem mvgalInit_refused (h : a.initialized = false) (flags : UInt32) (fails : Failures) (hr : Refused a.up fails) :
    Failed a (update a.up .log true) (mvgalInit flags fails a) := by
  have hconfig : (configInit (fails .config) (startLog a)).1 ≠ .success ∧
      (configInit (fails .config) (startLog a)).2 = startLog a := by
    unfold configInit
    split_ifs with hup
    · exact ⟨by simp, rfl⟩
    · obtain ⟨failure, heq⟩ := Option.isSome_iff_exists.mp (hr.resolve_left hup)
      rw [heq]
      exact ⟨failure.real.1, rfl⟩
  unfold mvgalInit
  rw [if_neg (by simp [h]), orUnwind, if_pos (by simpa [isError] using hconfig.1), hconfig.2]
  refine ⟨hconfig.1, ?_, rfl, rfl⟩
  funext sub
  rfl

/-- Past the configuration, each stage fails or hands a state to the next one in which its
subsystem is up as well. -/
theorem mvgalInit_accepted (h : a.initialized = false) (flags : UInt32) (fails : Failures)
    (hr : ¬ Refused a.up fails) : Outcome a (unwound a.up fails) (mvgalInit flags fails a) := by
  obtain ⟨hconfig, hnone⟩ := not_or.mp hr
  have hreached : Reached a [.config, .log] {(startLog a).start .config with config := defaultConfig} := by
    refine ⟨fun sub hsub => ?_, fun sub hsub => ?_, rfl, rfl, rfl⟩
    · cases sub <;> simp_all [startLog, ApiState.start]
    · cases sub <;> simp_all [startLog, ApiState.start]
  have hinit : configInit (fails .config) (startLog a) =
      (.success, {(startLog a).start .config with config := defaultConfig}) := by
    unfold configInit
    rw [startLog_config, if_neg hconfig, Option.not_isSome_iff_eq_none.mp hnone]
  unfold mvgalInit
  rw [if_neg (by simp [h] : ¬ a.initialized = true), hinit, orUnwind_success]
  refine gpuManagerInit_stage hreached (by decide) fun _ hgpu => ?_
  refine moduleInit_stage hgpu (by decide) fun _ hmemory => ?_
  refine moduleInit_stage hmemory (by decide) fun _ hscheduler => ?_
  refine moduleInit_stage hscheduler (by decide) fun _ hexecution => ?_
  refine ⟨rfl, fun sub => hexecution.started sub ?_, rfl, rfl, hexecution.config⟩
  cases sub <;> decide

/-- The library, the subsystems that were up before it was used, how many more start-ups were
successful than shutdowns were called, and the subsystems before and after each start-up that
failed. -/
structure Session where
  api : ApiState
  before : Subsystem → Bool
  balance : Nat
  failures : List ((Subsystem → Bool) × (Subsystem → Bool))

/-- Before the first call, with what other callers have brought up. -/
def Session.new (up : Subsystem → Bool) (config : Config) : Session := ⟨⟨false, 0, 0, up, config⟩, up, 0, []⟩

inductive SessionCall where
  | init (flags : UInt32) (fails : Failures)
  | contextCreate (fails : Failures) (allocated : Bool)
  | shutdown

def Session.afterStart (w : Session) (api : ApiState) (ok : Bool) : Session :=
  if ok = true then {w with api, balance := w.balance + 1}
  else {w with api, failures := w.failures ++ [(w.api.up, api.up)]}

/-- Calls are nested: there is no shutdown without its start-up. A context that is created starts
the library up if nothing else has. -/
def sessionStep (w : Session) : SessionCall → Option Session
  | .init flags fails =>
    let r := mvgalInit flags fails w.api
    some (w.afterStart r.2 (r.1 = .success))
  | .contextCreate fails allocated =>
    let r := contextCreate fails allocated w.api
    some (if w.api.initialized = true then {w with api := r.2} else w.afterStart r.2 r.2.initialized)
  | .shutdown => if 0 < w.balance then some {w with api := mvgalShutdown w.api, balance := w.balance - 1} else none

/-- A start-up that failed changed nothing, and the subsystems are up while there are start-ups
without their shutdown; otherwise none is up that was not before. -/
structure Counted (w : Session) : Prop where
  restored : ∀ f ∈ w.failures, f.2 = f.1
  up : 0 < w.balance → ∀ sub, w.api.up sub = true
  down : w.balance = 0 → ∀ sub, w.api.up sub = true → w.before sub = true

/-- A start-up that the configuration refuses finds the log up; one that fails later finds the log
and all that it reached down. -/
def StartsClean (up : Subsystem → Bool) (fails : Failures) : Prop :=
  if Refused up fails then up .log = true
  else ∀ subs, unwound up fails = some subs → ∀ sub ∈ subs, up sub = false

/-- The count is taken down to 0 by the last shutdown only. -/
def CallCounted (w : Session) : SessionCall → Prop
  | .init _ fails | .contextCreate fails _ => w.api.initialized = false → StartsClean w.api.up fails
  | .shutdown => w.api.refcount = 1 → w.balance = 1

structure InStep (w : Session) : Prop where
  initialized : w.api.initialized = true ↔ 0 < w.balance
  refcount : w.api.refcount = UInt32.ofNat w.balance

theorem update_true_eq_iff (up : Subsystem → Bool) : update up .log true = up ↔ up .log = true := by
  rw [Function.update_eq_iff]
  exact ⟨fun h => h.1.symm, fun h => ⟨h.symm, fun _ _ => rfl⟩⟩

theorem cleared_eq_iff (up : Subsystem → Bool) (subs : List Subsystem) :
    (fun sub => if sub ∈ subs then false else up sub) = up ↔ ∀ sub ∈ subs, up sub = false := by
  constructor
  · intro h sub hsub
    rw [← h]
    exact if_pos hsub
  · intro h
    funext sub
    split_ifs with hsub
    · exact (h sub hsub).symm
    · rfl

variable {w : Session}

theorem InStep.balance_eq_zero (hi : InStep w) (hdown : w.api.initialized = false) : w.balance = 0 := by
  by_contra hpos
  exact absurd (hi.initialized.mpr (Nat.pos_of_ne_zero hpos)) (by simp [hdown])

theorem counted_failed_iff (hc : Counted w) (hb : w.balance = 0) {api : ApiState} :
    Counted (w.afterStart api false) ↔ api.up = w.api.up := by
  constructor
  · intro h
    exact h.restored (w.api.up, api.up) (List.mem_append_right _ (List.mem_singleton_self _))
  · intro hsame
    refine ⟨fun f hf => ?_, fun hpos => ?_, fun _ sub hup => ?_⟩
    · rcases List.mem_append.mp hf with hold | hnew
      · exact hc.restored f hold
      · rw [List.mem_singleton.mp hnew]
        exact hsame
    · exact absurd hpos (by simp [Session.afterStart, hb])
    · have hup' : api.up sub = true := hup
      rw [hsame] at hup'
      exact hc.down hb sub hup'

theorem counted_start_iff (hc : Counted w) (hi : InStep w) (hdown : w.api.initialized = false) (flags : UInt32)
    (fails : Failures) :
    Counted (w.afterStart (mvgalInit flags fails w.api).2 ((mvgalInit flags fails w.api).1 = .success)) ↔
      StartsClean w.api.up fails := by
  have hb := hi.balance_eq_zero hdown
  unfold StartsClean
  split_ifs with hr
  · have hfailed := mvgalInit_refused hdown flags fails hr
    rw [decide_eq_false hfailed.result, counted_failed_iff hc hb, hfailed.up]
    exact update_true_eq_iff w.api.up
  · have houtcome := mvgalInit_accepted hdown flags fails hr
    cases hunwound : unwound w.api.up fails with
    | some subs =>
      rw [hunwound] at houtcome
      rw [decide_eq_false houtcome.result, counted_failed_iff hc hb, houtcome.up, cleared_eq_iff]
      simp
    | none =>
      rw [hunwound] at houtcome
      rw [decide_eq_true houtcome.result]
      exact iff_of_true ⟨hc.restored, fun _ => houtcome.up, fun h => absurd h (Nat.succ_ne_zero _)⟩ (by simp)

/-- A start-up fails and leaves the library down, or brings it and its subsystems up. -/
theorem mvgalInit_cases (h : a.initialized = false) (flags : UInt32) (fails : Failures) :
    (∃ up, Failed a up (mvgalInit flags fails a)) ∨ Started (mvgalInit flags fails a) := by
  by_cases hr : Refused a.up fails
  · exact .inl ⟨_, mvgalInit_refused h flags fails hr⟩
  · have houtcome := mvgalInit_accepted h flags fails hr
    cases hunwound : unwound a.up fails with
    | some subs =>
      rw [hunwound] at houtcome
      exact .inl ⟨_, houtcome⟩
    | none =>
      rw [hunwound] at houtcome
      exact .inr houtcome

theorem mvgalInit_initialized_eq (h : a.initialized = false) (flags : UInt32) (fails : Failures) :
    (mvgalInit flags fails a).2.initialized = decide ((mvgalInit flags fails a).1 = .success) := by
  rcases mvgalInit_cases h flags fails with ⟨up, hfailed⟩ | hstarted
  · rw [hfailed.initialized, h, decide_eq_false hfailed.result]
  · rw [hstarted.initialized, decide_eq_true hstarted.result]

theorem mvgalInit_of_initialized (h : a.initialized = true) (flags : UInt32) (fails : Failures) :
    mvgalInit flags fails a = (.success, {a with refcount := a.refcount + 1}) := if_pos h

/-- The last count of a shutdown is taken away, or the library goes down. -/
theorem mvgalShutdown_of_initialized (h : a.initialized = true) : mvgalShutdown a =
      if a.refcount = 1 then
        {a.stop [.execution, .scheduler, .memory, .gpu, .config, .log] with
          initialized := false, flags := 0, refcount := 0}
      else {a with refcount := a.refcount - 1} := by
  unfold mvgalShutdown
  rw [if_neg (by simp [h])]
  dsimp only
  by_cases hone : a.refcount = 1
  · have hzero : a.refcount - 1 = 0 := by rw [hone, UInt32.sub_self]
    rw [if_pos hone, hzero, if_neg (by decide)]
    rfl
  · have hpos : 0 < a.refcount - 1 := by
      refine UInt32.pos_iff_ne_zero.mpr fun hzero => hone ?_
      rw [← UInt32.sub_add_cancel a.refcount 1, hzero, UInt32.zero_add]
    rw [if_pos hpos, if_neg hone]

theorem contextCreate_state (fails : Failures) (allocated : Bool) (a : ApiState) :
    (contextCreate fails allocated a).2 = if a.initialized = true then a else (mvgalInit 0 fails a).2 := by
  unfold contextCreate
  dsimp only
  split_ifs <;> simp_all

theorem InStep.up (hi : InStep w) (hc : Counted w) (h : w.api.initialized = true) (sub : Subsystem) :
    w.api.up sub = true := hc.up (hi.initialized.mp h) sub

theorem counted_shutdown_iff (hc : Counted w) (hi : InStep w) (hb : 0 < w.balance) :
    Counted {w with api := mvgalShutdown w.api, balance := w.balance - 1} ↔ (w.api.refcount = 1 → w.balance = 1) := by
  rw [mvgalShutdown_of_initialized (hi.initialized.mpr hb)]
  split_ifs with hone
  · rw [imp_iff_right hone]
    constructor
    · intro h
      by_contra hmore
      have hpos : 0 < w.balance - 1 := by omega
      exact absurd (h.up hpos .log) (by simp [ApiState.stop])
    · intro hlast
      refine ⟨hc.restored, fun hpos => ?_, fun _ sub hup => ?_⟩
      · exact absurd hpos (by simp [hlast])
      · cases sub <;> simp [ApiState.stop] at hup
  · refine iff_of_true ⟨hc.restored, fun _ => hc.up hb, fun hlast => ?_⟩ fun h => absurd h hone
    -- the last shutdown finds the count at 1
    have hbalance : w.balance = 1 := by
      have hle : w.balance - 1 = 0 := hlast
      omega
    rw [hi.refcount, hbalance] at hone
    exact absurd rfl hone

theorem InStep.started (hi : InStep w) (hdown : w.api.initialized = false) (flags : UInt32) (fails : Failures) :
    InStep (w.afterStart (mvgalInit flags fails w.api).2 ((mvgalInit flags fails w.api).1 = .success)) := by
  rcases mvgalInit_cases hdown flags fails with ⟨up, hfailed⟩ | hstarted
  · rw [decide_eq_false hfailed.result]
    exact ⟨hfailed.initialized ▸ hi.initialized, hfailed.refcount.trans hi.refcount⟩
  · rw [decide_eq_true hstarted.result]
    refine ⟨iff_of_true hstarted.initialized (Nat.succ_pos _), ?_⟩
    show (mvgalInit flags fails w.api).2.refcount = UInt32.ofNat (w.balance + 1)
    rw [hstarted.refcount, hi.balance_eq_zero hdown]
    rfl

theorem InStep.again (hi : InStep w) (h : w.api.initialized = true) :
    InStep {w with api := {w.api with refcount := w.api.refcount + 1}, balance := w.balance + 1} := by
  refine ⟨iff_of_true h (Nat.succ_pos _), ?_⟩
  rw [hi.refcount, UInt32.ofNat_add]
  rfl

theorem InStep.down (hi : InStep w) (hb : 0 < w.balance) (hlast : w.api.refcount = 1 → w.balance = 1) :
    InStep {w with api := mvgalShutdown w.api, balance := w.balance - 1} := by
  have hup := hi.initialized.mpr hb
  rw [mvgalShutdown_of_initialized hup]
  split_ifs with hone
  · exact ⟨iff_of_false (by simp) (by simp [hlast hone]), by simp [hlast hone]⟩
  · have hmore : w.balance ≠ 1 := fun h => hone (by rw [hi.refcount, h]; rfl)
    refine ⟨iff_of_true hup (by show 0 < w.balance - 1; omega), ?_⟩
    have hsucc : w.balance = w.balance - 1 + 1 := by omega
    rw [hi.refcount, hsucc, UInt32.ofNat_add, Nat.add_sub_cancel]
    exact UInt32.add_sub_cancel ..

/-- What a call comes to: a start-up of the library while it is down, one more user of it or none,
or a shutdown. -/
theorem sessionStep_cases {c : SessionCall} {w' : Session} (h : sessionStep w c = some w') :
    (w.api.initialized = false ∧ ∃ flags fails,
      w' = w.afterStart (mvgalInit flags fails w.api).2 ((mvgalInit flags fails w.api).1 = .success) ∧
        (CallCounted w c ↔ StartsClean w.api.up fails)) ∨
    (w.api.initialized = true ∧ CallCounted w c ∧
      (w' = {w with api := {w.api with refcount := w.api.refcount + 1}, balance := w.balance + 1} ∨ w' = w)) ∨
    (c = .shutdown ∧ 0 < w.balance ∧ w' = {w with api := mvgalShutdown w.api, balance := w.balance - 1}) := by
  have hup : w.api.initialized = true → ∀ fails, w.api.initialized = false → StartsClean w.api.up fails :=
    fun hinit _ hdown => absurd hinit (by simp [hdown])
  cases c with
  | init flags fails =>
    cases h
    cases hinit : w.api.initialized with
    | false => exact .inl ⟨rfl, flags, fails, rfl, imp_iff_right hinit⟩
    | true =>
      rw [mvgalInit_of_initialized hinit]
      exact .inr (.inl ⟨rfl, hup hinit fails, .inl rfl⟩)
  | contextCreate fails allocated =>
    cases h
    rw [contextCreate_state]
    cases hinit : w.api.initialized with
    | false =>
      rw [if_neg (by decide), if_neg (by decide), mvgalInit_initialized_eq hinit]
      exact .inl ⟨rfl, 0, fails, rfl, imp_iff_right hinit⟩
    | true =>
      exact .inr (.inl ⟨rfl, hup hinit fails, .inr rfl⟩)
  | shutdown =>
    obtain ⟨hb, rfl⟩ := Run.guarded h
    exact .inr (.inr ⟨rfl, hb, rfl⟩)

/-- **Start-up is all or nothing and counted.** For every set of subsystems that are up before and
every nesting of calls with any failures: exactly if no start-up that is refused or fails finds
the wrong subsystems up, and the 32-bit count does not come to 1 early. -/
theorem startup_counted_iff (up : Subsystem → Bool) (config : Config) (calls : List SessionCall) :
    Along sessionStep Counted (Session.new up config) calls ↔
      Admitted sessionStep CallCounted (Session.new up config) calls := by
  refine Run.along_iff_admitted (I := InStep) (fun w c w' hi hc hstep => ?_) (fun w c w' hi hc hstep hok => ?_)
    ⟨by simp [Session.new], rfl⟩ ⟨fun _ h => (nomatch h), fun h => (nomatch h), fun _ _ h => h⟩ calls
  · obtain ⟨hinit, flags, fails, rfl, hclean⟩ | ⟨hinit, hok, rfl | rfl⟩ | ⟨rfl, hb, rfl⟩ := sessionStep_cases hstep
    · exact (counted_start_iff hc hi hinit flags fails).trans hclean.symm
    · exact iff_of_true ⟨hc.restored, fun _ => hi.up hc hinit, fun h => absurd h (Nat.succ_ne_zero _)⟩ hok
    · exact iff_of_true hc hok
    · exact counted_shutdown_iff hc hi hb
  · obtain ⟨hinit, flags, fails, rfl, _⟩ | ⟨hinit, _, rfl | rfl⟩ | ⟨rfl, hb, rfl⟩ := sessionStep_cases hstep
    · exact hi.started hinit flags fails
    · exact hi.again hinit
    · exact hi
    · exact hi.down hb hok

/-- The configuration was used before the library: the start-up is refused, and leaves the log
behind that it brought up. -/
theorem startup_leaves_log :
    ¬ Along sessionStep Counted (Session.new (fun sub => sub = .config) defaultConfig) [.init 0 fun _ => none] := by
  intro h
  have hsame := (h.final rfl).restored _ (List.mem_singleton_self _)
  exact absurd (congrFun hsame .log) (by decide)

end Mvgal.Api
