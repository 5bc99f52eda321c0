import Mvgal.Api.Startup
import Mvgal.Daemon.Ranges

/-! Start-up with a configuration (`mvgal_init_with_config`).

Every function of the configuration initialises it when it is first used, with the defaults, and
`mvgal_init` takes a configuration that is initialised already for a failure. So a library that is
down starts up only if the configuration was not used before, and `mvgal_init_with_config` has
just used it to load its file. `init_honoured_iff` says which start-ups succeed with the
configuration that they should. -/
namespace Mvgal.Api
open Daemon
open Run (Along Admitted)

/-- A public call of the configuration (`mvgal_config.h`): one that changes settings, one that
reads them, one that looks at neither (the path, the callbacks, the check of a value, and saving,
which refuses a configuration that is not initialised), or one of its own start and shutdown. -/
inductive ConfigCall where
  | settings (call : SettingsCall)
  | get
  | untouched
  | init
  | shutdown

/-- The first lines of the functions that use the configuration. -/
def ensureConfig (a : ApiState) : ApiState := (configInit none a).2

/-- A call that has nothing to do leaves the configuration down: a reset, and a command line
without an argument for the library. -/
def SettingsCall.idle : SettingsCall → Bool
  | .reset => true
  | .parseArgs _ args => arguments args = []
  | _ => false

def ConfigCall.apply (F : Floats) (a : ApiState) : ConfigCall → ApiState
  | .settings call =>
    if SettingsCall.idle call = true ∧ a.up .config = false then a
    else
      let a := ensureConfig a
      {a with config := call.apply F a.config}
  | .get => ensureConfig a
  | .untouched => a
  | .init => (configInit none a).2
  | .shutdown => a.stop [.config]

/-- The configuration that a function would find. -/
def ApiState.inForce (a : ApiState) : Config := if a.up .config = true then a.config else defaultConfig

/-- `mvgal_config_load`, with the contents of the file if there are any to read. -/
def configLoad (F : Floats) (contents : Option Text) (a : ApiState) : ApiState :=
  let a := ensureConfig a
  {a with config := load F contents a.config}

/-- `mvgal_init_with_config`; without a path there is no file. -/
def mvgalInitWithConfig (F : Floats) (file : Option (Option Text)) (flags : UInt32) (fails : Failures)
    (a : ApiState) : Error × ApiState :=
  match file with
  | none => mvgalInit flags fails a
  | some contents => mvgalInit flags fails (configLoad F contents a)

/-- The text that the start-up loads into a configuration. -/
def loaded (F : Floats) (file : Option (Option Text)) (c : Config) : Config :=
  match file with
  | none => c
  | some contents => load F contents c

/-- A start-up: the file that was given, the library before, and the answer with the library
afterwards. -/
structure Start where
  file : Option (Option Text)
  before : ApiState
  result : Error × ApiState

/-- It was successful, and the configuration in force is the one before with the text loaded into
it. -/
def Start.Honoured (F : Floats) (x : Start) : Prop :=
  x.result.1 = .success ∧ x.result.2.inForce = loaded F x.file x.before.inForce

/-- The library and its start-ups so far. -/
structure Configured where
  api : ApiState
  starts : List Start

def Configured.new (config : Config) : Configured := ⟨⟨false, 0, 0, fun _ => false, config⟩, []⟩

inductive ConfiguredCall where
  | config (call : ConfigCall)
  | init (flags : UInt32)
  | initWithConfig (file : Option (Option Text)) (flags : UInt32)
  | shutdown

def Configured.start (w : Configured) (file : Option (Option Text)) (r : Error × ApiState) : Configured :=
  ⟨r.2, w.starts ++ [⟨file, w.api, r⟩]⟩

/-- The other modules come up whenever they are asked to. -/
def configuredStep (F : Floats) (w : Configured) : ConfiguredCall → Option Configured
  | .config call => some {w with api := call.apply F w.api}
  | .init flags => some (w.start none (mvgalInit flags (fun _ => none) w.api))
  | .initWithConfig file flags => some (w.start file (mvgalInitWithConfig F file flags (fun _ => none) w.api))
  | .shutdown => some {w with api := mvgalShutdown w.api}

def AllHonoured (F : Floats) (w : Configured) : Prop := ∀ x ∈ w.starts, x.Honoured F

/-- The library is up, or the configuration is down and no file is given. -/
def Startable (a : ApiState) (file : Option (Option Text)) : Prop :=
  a.initialized = true ∨ file = none ∧ a.up .config = false

def CallStartable (w : Configured) : ConfiguredCall → Prop
  | .init _ => Startable w.api none
  | .initWithConfig file _ => Startable w.api file
  | _ => True

variable {a : ApiState}

theorem ensureConfig_up (a : ApiState) : (ensureConfig a).up .config = true := by
  unfold ensureConfig configInit
  split_ifs with hup
  · exact hup
  · exact Function.update_self Subsystem.config true a.up

theorem ensureConfig_config (a : ApiState) : (ensureConfig a).config = a.inForce := by
  unfold ensureConfig configInit ApiState.inForce
  split_ifs <;> rfl

theorem configLoad_inForce (F : Floats) (contents : Option Text) (a : ApiState) :
    (configLoad F contents a).inForce = load F contents a.inForce := by
  have hup : (configLoad F contents a).up .config = true := ensureConfig_up a
  rw [ApiState.inForce, if_pos hup, ← ensureConfig_config]
  rfl

theorem configLoad_initialized (F : Floats) (contents : Option Text) (a : ApiState) :
    (configLoad F contents a).initialized = a.initialized := by
  unfold configLoad ensureConfig configInit
  split_ifs <;> rfl

theorem mvgalInit_inForce_of_up (h : a.initialized = true) (flags : UInt32) (fails : Failures) :
    (mvgalInit flags fails a).1 = .success ∧ (mvgalInit flags fails a).2.inForce = a.inForce := by
  rw [mvgalInit_of_initialized h]
  exact ⟨rfl, rfl⟩

/-- A library that is down is refused if the configuration is up, and otherwise starts with the
defaults, which are in force. -/
theorem mvgalInit_inForce_iff (h : a.initialized = false) (flags : UInt32) :
    ((mvgalInit flags (fun _ => none) a).1 = .success ∧
      (mvgalInit flags (fun _ => none) a).2.inForce = a.inForce) ↔ a.up .config = false := by
  cases hup : a.up .config with
  | true =>
    have hfailed := mvgalInit_refused h flags (fun _ => none) (.inl hup)
    exact iff_of_false (fun hs => hfailed.result hs.1) (by simp)
  | false =>
    have hstarted := mvgalInit_accepted h flags (fun _ => none) (by simp [Refused, hup])
    have hunwound : unwound a.up (fun _ => none) = none := by simp [unwound]
    rw [hunwound] at hstarted
    refine iff_of_true ⟨hstarted.result, ?_⟩ rfl
    rw [ApiState.inForce, if_pos (hstarted.up .config), hstarted.config, ApiState.inForce, hup, if_neg (by decide)]

theorem init_honoured_call_iff (F : Floats) (a : ApiState) (flags : UInt32) :
    Start.Honoured F ⟨none, a, mvgalInit flags (fun _ => none) a⟩ ↔ Startable a none := by
  cases h : a.initialized with
  | true => exact iff_of_true (mvgalInit_inForce_of_up h flags _) (.inl h)
  | false =>
    refine (mvgalInit_inForce_iff h flags).trans ?_
    simp [Startable, h]

theorem initWithConfig_honoured_call_iff (F : Floats) (file : Option (Option Text)) (a : ApiState) (flags : UInt32) :
    Start.Honoured F ⟨file, a, mvgalInitWithConfig F file flags (fun _ => none) a⟩ ↔ Startable a file := by
  cases file with
  | none => exact init_honoured_call_iff F a flags
  | some contents =>
    have hload := configLoad_initialized F contents a
    cases h : a.initialized with
    | true =>
      obtain ⟨hresult, hforce⟩ := mvgalInit_inForce_of_up (hload.trans h) flags fun _ => none
      exact iff_of_true ⟨hresult, hforce.trans (configLoad_inForce F contents a)⟩ (.inl h)
    | false =>
      -- the file was loaded, so the configuration is up
      have hup : (configLoad F contents a).up .config = true := ensureConfig_up a
      have hfailed := mvgalInit_refused (hload.trans h) flags (fun _ => none) (.inl hup)
      refine iff_of_false (fun hs => hfailed.result hs.1) ?_
      simp [Startable, h]

theorem all_honoured_start_iff (F : Floats) {w : Configured} (h : AllHonoured F w) (file : Option (Option Text))
    (r : Error × ApiState) : AllHonoured F (w.start file r) ↔ Start.Honoured F ⟨file, w.api, r⟩ := by
  constructor
  · intro hall
    exact hall _ (List.mem_append_right _ (List.mem_singleton_self _))
  · intro hnew x hx
    rcases List.mem_append.mp hx with hold | hlast
    · exact h x hold
    · rw [List.mem_singleton.mp hlast]
      exact hnew

/-- Every start-up is successful, with the configuration it should have, exactly if each of them
finds the library up, or finds it down with a configuration that was not used and brings no
file. -/
theorem init_honoured_iff (F : Floats) (config : Config) (calls : List ConfiguredCall) :
    Along (configuredStep F) (AllHonoured F) (Configured.new config) calls ↔
      Admitted (configuredStep F) CallStartable (Configured.new config) calls := by
  refine Run.along_iff_of_exact (fun w c w' hp hstep => ?_) (fun _ h => nomatch h) calls
  cases c with obtain rfl := Option.some.inj hstep
  | config call | shutdown =>
    exact iff_of_true hp trivial
  | init flags =>
    exact (all_honoured_start_iff F hp none _).trans (init_honoured_call_iff F w.api flags)
  | initWithConfig file flags =>
    exact (all_honoured_start_iff F hp file _).trans (initWithConfig_honoured_call_iff F file w.api flags)

/-- The first call of the program starts the library up with a file. -/
theorem init_with_config_refused :
    ¬ Along (configuredStep coarseFloats) (AllHonoured coarseFloats) (Configured.new defaultConfig)
      [.initWithConfig (some (some "debug=true\n".toList)) 0] := by
  intro h
  have hfirst := (h.final rfl) _ (List.mem_singleton_self _)
  exact nomatch hfirst.1

end Mvgal.Api
