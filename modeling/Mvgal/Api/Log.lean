import Mvgal.Lib.Guard
import Mvgal.Lib.Run

/-! The logging calls and the mutex they take (`mvgal_log.c`).

`g_log_state.lock` is a default mutex: a thread that takes it twice waits for itself. Some public
functions call others with the lock held, which take it again; whether they do depends on what
earlier calls left: a log file that is open, `syslog` in use, a callback that logs.
`log_calls_return_iff` says for which sequences of calls every call returns.

The text of a message and the places it is written to play no part in this; of a logged message
the model has the callbacks that are called with it. -/
namespace Mvgal.Api
open Guard List
open Run (Along Admitted Allowed Safe faulting)

/-- A callback, and whether it calls a function of this module that takes the lock. -/
structure LogCallback where
  address : UInt64
  logs : Bool
deriving DecidableEq, Repr

/-- `log_state_t` and `g_log_initialized`; files are known by their descriptors. -/
structure LogState where
  initialized : Bool
  level : UInt32
  output : Option UInt32
  useColors : Bool
  fileEnabled : Bool
  fileHandle : Option UInt32
  syslogEnabled : Bool
  logPrefix : Option String
  callbacks : List (LogCallback × UInt64)

def LogState.zero : LogState := ⟨false, 0, none, false, false, none, false, none, []⟩

inductive LogLock where
  | state
deriving DecidableEq, Repr

abbrev LogProgram := Guarded LogLock LogState

def maxLogCallbacks : Nat := 8

def logRegisterCallback (callback : Option LogCallback) (userData : UInt64) : LogProgram Unit :=
  match callback with
  | none => pure ()
  | some callback => locked .state <| change fun s =>
      if s.callbacks.length < maxLogCallbacks then {s with callbacks := s.callbacks ++ [(callback, userData)]}
      else s

def logUnregisterCallback (callback : Option LogCallback) : LogProgram Unit :=
  match callback with
  | none => pure ()
  | some callback => locked .state <| change fun s =>
      {s with callbacks := s.callbacks.eraseP fun c => c.1 == callback}

def logDisableFile : LogProgram Unit :=
  locked .state <| change fun s => {s with fileHandle := none, fileEnabled := false}

/-- `mvgal_log_enable_file`; `opened` is what `fopen` returns. -/
def logEnableFile (filepath : Option String) (opened : Option UInt32) : LogProgram Bool :=
  match filepath with
  | none => pure false
  | some _ => locked .state do
    let s ← read
    if s.fileEnabled = true then logDisableFile else pure ()
    match opened with
    | none => pure false
    | some file => do
      change fun s => {s with fileHandle := some file, fileEnabled := true}
      pure true

def logDisableSyslog : LogProgram Unit :=
  locked .state <| change fun s => {s with syslogEnabled := false}

def logEnableSyslog (ident : Option String) : LogProgram Bool :=
  match ident with
  | none => pure false
  | some _ => locked .state do
    change fun s => {s with syslogEnabled := true}
    pure true

/-- What `mvgal_log_init` sets; `tty` is whether an output is a terminal. -/
def LogState.fresh (s : LogState) (level : UInt32) (tty : Bool) : LogState :=
  { s with
    level
    output := none
    useColors := tty
    fileEnabled := false
    fileHandle := none
    syslogEnabled := false
    logPrefix := none
    callbacks := [] }

def logInit (level : UInt32) (callback : Option LogCallback) (userData : UInt64) (tty : Bool) : LogProgram Unit :=
  locked .state do
    let s ← read
    if s.initialized = true then pure ()
    else do
      change fun s => s.fresh level tty
      if callback.isSome = true then logRegisterCallback callback userData else pure ()
      change fun s => {s with initialized := true}

def logShutdown : LogProgram Unit := do
  let s ← read
  if s.initialized = false then pure ()
  else locked .state do
    let s ← read
    if s.fileEnabled = true then logDisableFile else pure ()
    let s ← read
    if s.syslogEnabled = true then logDisableSyslog else pure ()
    change fun s => {s with logPrefix := none, initialized := false}

/-- A callback during a message: it takes the lock if it logs. -/
def runCallback (c : LogCallback × UInt64) : LogProgram Unit :=
  if c.1.logs = true then locked .state (pure ()) else pure ()

/-- `log_internal`. The callbacks run with the lock held. -/
def logInternal (level : UInt32) : LogProgram Unit := do
  let s ← read
  if s.initialized = false then pure ()
  else if s.level < level then pure ()
  else locked .state do
    let s ← read
    each runCallback s.callbacks

/-- The functions that do no more than read or set a field under the lock. -/
def logAccess (f : LogState → LogState) : LogProgram Unit := locked .state (change f)

def logSetLevel (level : UInt32) : LogProgram Unit := logAccess ({· with level})

def logEnableColors (enabled : Bool) : LogProgram Unit := logAccess ({· with useColors := enabled})

def logSetOutput (file : Option UInt32) : LogProgram Unit := logAccess ({· with output := file})

def logSetPrefix (text : Option String) : LogProgram Unit := logAccess ({· with logPrefix := text})

def logGetLevel : LogProgram UInt32 := locked .state do
  let s ← read
  pure s.level

def logEnabled (level : UInt32) : LogProgram Bool := locked .state do
  let s ← read
  pure (decide (level ≤ s.level))

/-- `mvgal_log_get_output`, with the descriptor of `stdout` for the default. -/
def logGetOutput : LogProgram UInt32 := locked .state do
  let s ← read
  pure (s.output.getD 1)

def logGetPrefix : LogProgram String := locked .state do
  let s ← read
  pure (s.logPrefix.getD "[MVGAL] ")

def logFlush : LogProgram Unit := logAccess id

inductive LogCall where
  | init (level : UInt32) (callback : Option LogCallback) (userData : UInt64) (tty : Bool)
  | shutdown
  | setLevel (level : UInt32)
  | getLevel
  | enabled (level : UInt32)
  | registerCallback (callback : Option LogCallback) (userData : UInt64)
  | unregisterCallback (callback : Option LogCallback)
  | enableFile (filepath : Option String) (opened : Option UInt32)
  | disableFile
  | enableSyslog (ident : Option String)
  | disableSyslog
  | enableColors (useColors : Bool)
  | setOutput (file : Option UInt32)
  | getOutput
  | flush
  | setPrefix (text : Option String)
  | getPrefix
  | log (level : UInt32)

def LogCall.program : LogCall → LogProgram Unit
  | .init level callback userData tty => logInit level callback userData tty
  | .shutdown => logShutdown
  | .setLevel level => logSetLevel level
  | .getLevel => (fun _ => ()) <$> logGetLevel
  | .enabled level => (fun _ => ()) <$> logEnabled level
  | .registerCallback callback userData => logRegisterCallback callback userData
  | .unregisterCallback callback => logUnregisterCallback callback
  | .enableFile filepath opened => (fun _ => ()) <$> logEnableFile filepath opened
  | .disableFile => logDisableFile
  | .enableSyslog ident => (fun _ => ()) <$> logEnableSyslog ident
  | .disableSyslog => logDisableSyslog
  | .enableColors useColors => logEnableColors useColors
  | .setOutput file => logSetOutput file
  | .getOutput => (fun _ => ()) <$> logGetOutput
  | .flush => logFlush
  | .setPrefix text => logSetPrefix text
  | .getPrefix => (fun _ => ()) <$> logGetPrefix
  | .log level => logInternal level

/-- A call returns or waits for a lock that its own thread holds. -/
def logStep (s : LogState) (c : LogCall) : Option (Except LogState LogState) :=
  some (match c.program.run [] s with
    | .ok (_, s') => .ok s'
    | .error s' => .error s')

/-- The first initialisation brings no callback, no log file is open when one is enabled, neither
file nor `syslog` is in use at a shutdown, and no callback of a logged message logs. -/
def LogReturns (s : LogState) : LogCall → Prop
  | .init _ callback _ _ => s.initialized = false → callback = none
  | .shutdown => s.initialized = true → s.fileEnabled = false ∧ s.syslogEnabled = false
  | .enableFile filepath _ => filepath ≠ none → s.fileEnabled = false
  | .log level => s.initialized = true → level ≤ s.level → ∀ c ∈ s.callbacks, c.1.logs = false
  | _ => True

section Passes
variable {held : List LogLock} {s : LogState}

/-- What a call changes of the state is no condition of another part of it. -/
abbrev unseen : LogState → Unit := fun _ => ()

theorem access_free (f : LogState → LogState) : Free unseen [] s (logAccess f) :=
  passes_locked not_mem_nil (passes_change rfl)

theorem get_free {α : Type} (f : LogState → α) :
    Free unseen [] s (locked .state (read >>= fun s => pure (f s)) : LogProgram α) :=
  passes_locked not_mem_nil (passes_read (passes_pure _))

theorem registerCallback_free (callback : Option LogCallback) (userData : UInt64) :
    Free unseen [] s (logRegisterCallback callback userData) := by
  cases callback with
  | none => exact passes_pure ()
  | some callback => exact access_free _

theorem unregisterCallback_free (callback : Option LogCallback) :
    Free unseen [] s (logUnregisterCallback callback) := by
  cases callback with
  | none => exact passes_pure ()
  | some callback => exact access_free _

theorem init_passes (level : UInt32) (callback : Option LogCallback) (userData : UInt64) (tty : Bool) :
    Passes unseen [] s (s.initialized = false → callback = none) (logInit level callback userData tty) := by
  apply passes_locked not_mem_nil
  apply passes_read
  cases hinit : s.initialized with
  | true =>
    exact (passes_pure ()).congr (iff_of_true trivial fun h => (nomatch h))
  | false =>
    cases callback with
    | none => exact (passes_then (passes_change rfl) fun _ _ _ => passes_change rfl).congr (by simp)
    | some callback =>
      refine (passes_then (passes_change rfl) fun _ _ _ => ?_).congr (p := False) (by simp)
      exact stuck_bind (stuck_locked mem_cons_self)

theorem enableFile_passes (filepath : Option String) (opened : Option UInt32) :
    Passes unseen [] s (filepath ≠ none → s.fileEnabled = false) (logEnableFile filepath opened) := by
  cases filepath with
  | none => exact (passes_pure false).congr (by simp)
  | some path =>
    apply passes_locked not_mem_nil
    apply passes_read
    refine (passes_if (q := True) (fun _ => stuck_bind (stuck_locked mem_cons_self)) fun _ => ?_).congr ?_
    · cases opened with
      | none => exact passes_pure false
      | some file => exact passes_then (passes_change rfl) fun _ _ _ => passes_pure true
    · simp

theorem enableSyslog_free (ident : Option String) : Free unseen [] s (logEnableSyslog ident) := by
  cases ident with
  | none => exact passes_pure false
  | some ident =>
    exact passes_locked not_mem_nil (passes_then (passes_change rfl) fun _ _ _ => passes_pure true)

theorem shutdown_passes :
    Passes unseen [] s (s.initialized = true → s.fileEnabled = false ∧ s.syslogEnabled = false) logShutdown := by
  apply passes_read
  cases hinit : s.initialized with
  | false =>
    exact (passes_pure ()).congr (by simp)
  | true =>
    apply passes_locked not_mem_nil
    apply passes_read
    cases hfile : s.fileEnabled with
    | true =>
      exact (stuck_bind (stuck_locked mem_cons_self)).congr (by simp)
    | false =>
      apply passes_read
      cases hsyslog : s.syslogEnabled with
      | true =>
        exact (stuck_bind (stuck_locked mem_cons_self)).congr (by simp)
      | false =>
        exact (passes_change rfl).congr (by simp)

/-- The callbacks of a message come through exactly if none of them logs. -/
theorem callbacks_pass (callbacks : List (LogCallback × UInt64)) :
    Passes unseen (.state :: held) s (∀ c ∈ callbacks, c.1.logs = false) (each runCallback callbacks) := by
  induction callbacks with
  | nil => exact (passes_pure ()).congr (by simp)
  | cons c rest ih =>
    have hfirst : Passes id (.state :: held) s (c.1.logs = false) (runCallback c) := by
      unfold runCallback
      cases c.1.logs with
      | true => exact (stuck_locked mem_cons_self).congr (by simp)
      | false => exact (passes_pure ()).congr (by simp)
    have hrest : ∀ (_ : Unit) s', s' = s → Passes unseen (.state :: held) s' (∀ c ∈ rest, c.1.logs = false)
        (each runCallback rest) := by
      intro _ s' hsame
      rw [hsame]
      exact ih
    apply (passes_seq hfirst hrest fun _ _ => rfl).congr
    rw [forall_mem_cons]

theorem log_passes (level : UInt32) :
    Passes unseen [] s (s.initialized = true → level ≤ s.level → ∀ c ∈ s.callbacks, c.1.logs = false)
      (logInternal level) := by
  apply passes_read
  cases hinit : s.initialized with
  | false =>
    exact (passes_pure ()).congr (by simp)
  | true =>
    by_cases hlevel : s.level < level
    · rw [if_pos hlevel]
      exact (passes_pure ()).congr (iff_of_true trivial fun _ h => absurd hlevel (UInt32.not_lt.mpr h))
    · rw [if_neg hlevel]
      apply passes_locked not_mem_nil
      apply passes_read
      exact (callbacks_pass s.callbacks).congr (by simp [UInt32.not_lt.mp hlevel])

end Passes

/-- **One call**, in any state of the log. -/
theorem logCall_passes (s : LogState) (c : LogCall) : Passes unseen [] s (LogReturns s c) c.program := by
  cases c with
  | init level callback userData tty => exact init_passes level callback userData tty
  | shutdown => exact shutdown_passes
  | setLevel level => exact access_free _
  | getLevel | enabled level | getOutput | getPrefix => exact passes_map _ (get_free _)
  | registerCallback callback userData => exact registerCallback_free callback userData
  | unregisterCallback callback => exact unregisterCallback_free callback
  | enableFile filepath opened => exact passes_map _ (enableFile_passes filepath opened)
  | disableFile => exact access_free _
  | enableSyslog ident => exact passes_map _ (enableSyslog_free ident)
  | disableSyslog | enableColors useColors | setOutput file => exact access_free _
  | flush => exact access_free _
  | setPrefix text => exact access_free _
  | log level => exact log_passes level

theorem logStep_safe_iff {s : LogState} {c : LogCall} {r : Except LogState LogState} (h : logStep s c = some r) :
    Safe (fun _ => True) r ↔ LogReturns s c := by
  cases h
  by_cases hok : LogReturns s c
  · obtain ⟨_, s', hrun, -⟩ := (logCall_passes s c).through hok
    rw [hrun]
    exact iff_of_true trivial hok
  · obtain ⟨s', hrun⟩ := (logCall_passes s c).stuck hok
    rw [hrun]
    exact iff_of_false id hok

/-- **The lock of the log.** For every sequence of public calls from the state the process starts
with, no call takes the lock twice, and every call returns, exactly if each of them meets its
condition. -/
theorem log_calls_return_iff (calls : List LogCall) :
    Along (faulting logStep) (Safe fun _ => True) (.ok LogState.zero) calls ↔
      Admitted (faulting logStep) (Allowed LogReturns) (.ok LogState.zero) calls :=
  Run.safe_along_iff_of_exact (fun _ _ _ _ hstep => logStep_safe_iff hstep) trivial calls

/-- Logging is initialised, a log file is opened, and logging is shut down. -/
theorem log_shutdown_waits : ¬ Along (faulting logStep) (Safe fun _ => True) (.ok LogState.zero)
      [.init 2 none 0 false, .enableFile (some "mvgal.log") (some 3), .shutdown] := by
  intro h
  exact h.final rfl

end Mvgal.Api
