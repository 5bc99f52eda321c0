import Mathlib.Algebra.GroupWithZero.Nat
import Mvgal.Daemon.Ini
import Mvgal.Lib.Run

/-! Settings outside their range.

`mvgal_config_set_value` checks a value against the range of its setting. The other ways to
change the configuration do not: `mvgal_config_set` stores any structure, and texts are
converted and stored as they come. `settings_in_range_iff` says which calls leave every
setting in its range. -/
namespace Mvgal.Daemon
open Function (update)
open Run (Along Admitted)

def getValue (F : Floats) (name : Text) (c : Config) : Option Value := (findConfigDescriptor name).map (c.value F)

/-- `mvgal_config_set_value`; `copied` is the outcome of the copies of strings. The callbacks are
told of a change and change nothing here. -/
def setValue (F : Floats) (copied : Bool) (name : Text) (v : Value) (c : Config) : Error × Config :=
  match findConfigDescriptor name with
  | none => (.notFound, c)
  | some s =>
    if validate name v = false then (.invalidArgument, c)
    else if s.isString ∧ (c.value F s).s ≠ none ∧ copied = false then (.outOfMemory, c)
    else if s.sameValue (c.value F s) v then (.success, c)
    else if s.isString ∧ v.s ≠ none ∧ copied = false then (.outOfMemory, c)
    else (.success, update c s (v.content F s))

def Config.text (c : Config) (t : StringSetting) : Option Text := c (.string t)

/-- `mvgal_config_set`; with strings to copy and no memory for them nothing is changed. -/
def setConfig (copied : Bool) (config : Config) (c : Config) : Error × Config :=
  let strings := [config.text .gpusDevices, config.text .vulkanLayerPath, config.text .openclLibraryPath,
    config.text .performanceProfileFile]
  if strings.any Option.isSome && !copied then (.outOfMemory, c) else (.success, config)

/-- `mvgal_config_load`, with the contents of the file if there are any to read. -/
def load (F : Floats) (contents : Option Text) (c : Config) : Config :=
  match contents with
  | some text => parseIniData F text c
  | none => c

/-- An argument of the command line with what follows it. -/
inductive Argument where
  | config (path : Text)
  | disable
  | debug
  | strategy (word : Text)
deriving DecidableEq, Repr

/-- The arguments that `mvgal_config_parse_args` knows, of those behind the name of the program.
The last argument has nothing that follows it. -/
def arguments : List Text → List Argument
  | [] => []
  | [arg] =>
    if arg = "--mvgal-disable".toList then [.disable]
    else if arg = "--mvgal-debug".toList then [.debug]
    else []
  | arg :: next :: rest =>
    if arg = "--mvgal-config".toList then .config next :: arguments rest
    else if arg = "--mvgal-disable".toList then .disable :: arguments (next :: rest)
    else if arg = "--mvgal-debug".toList then .debug :: arguments (next :: rest)
    else if arg = "--mvgal-strategy".toList then .strategy next :: arguments rest
    else arguments (next :: rest)

def Argument.width : Argument → Nat
  | .config _ => 2
  | .disable => 1
  | .debug => 1
  | .strategy _ => 2

def Argument.apply (F : Floats) (files : Text → Option Text) (c : Config) : Argument → Config
  | .config path => load F (if path = [] then none else files path) c
  | .disable => (setValue F true "enabled".toList ⟨false, 0, 0, none⟩ c).2
  | .debug => (setValue F true "debug".toList ⟨true, 0, 0, none⟩ c).2
  | .strategy word =>
    (setValue F true "scheduler.strategy".toList ⟨false, Int64.ofNat (parseStrategy word).toNat, 0, none⟩ c).2

/-- `mvgal_config_parse_args`, with what the files hold. It returns the number of strings it used. -/
def parseArgs (F : Floats) (files : Text → Option Text) (args : List Text) (c : Config) : Nat × Config :=
  (((arguments args).map Argument.width).sum, (arguments args).foldl (Argument.apply F files) c)

inductive SettingsCall where
  | load (contents : Option Text)
  | loadString (text : Text)
  | set (copied : Bool) (config : Config)
  | setValue (copied : Bool) (name : Text) (v : Value)
  | setByName (copied : Bool) (name : Text) (v : Value)
  | parseArgs (files : Text → Option Text) (args : List Text)
  | reset

/-- What a call makes of the configuration. -/
def SettingsCall.apply (F : Floats) (c : Config) : SettingsCall → Config
  | .load contents => Daemon.load F contents c
  | .loadString text => Daemon.loadString F text c
  | .set copied config => (setConfig copied config c).2
  | .setValue copied name v => (Daemon.setValue F copied name v c).2
  | .setByName copied name v => (Daemon.setValue F copied name v c).2
  | .parseArgs files args => (Daemon.parseArgs F files args c).2
  | .reset => defaultConfig

/-- One call. A configuration that was not initialized is the default one: every call sets it to
the defaults first, and `mvgal_config_reset` has nothing to do. -/
def settingsStep (F : Floats) (c : Config) (call : SettingsCall) : Option Config := some (call.apply F c)

/-- Every setting that `mvgal_config_get_value` reports is accepted by `mvgal_config_validate`. -/
def AllAccepted (F : Floats) (c : Config) : Prop := ∀ name v, getValue F name c = some v → validate name v = true

def Argument.assigned (files : Text → Option Text) : Argument → List (Setting × Text)
  | .config path => ((if path = [] then none else files path).map textAssignments).getD []
  | .disable => [(.bool .enabled, "false".toList)]
  | .debug => [(.bool .debug, "true".toList)]
  | .strategy word => [(.enum .schedulerStrategy, word)]

def SettingsCall.assigned : SettingsCall → List (Setting × Text)
  | .load contents => (contents.map textAssignments).getD []
  | .loadString text => textAssignments text
  | .parseArgs files args => (arguments args).flatMap (Argument.assigned files)
  | _ => []

/-- The last text assigned to each setting stands for a content in its range, and so is every
setting of a configuration that is set as a whole. -/
def SettingsOk (F : Floats) (c : Config) (call : SettingsCall) : Prop :=
  match call with
  | .set copied config => (setConfig copied config c).1 = .success → config.InRange F
  | call => ∀ s value, lastFor s call.assigned = some value → s.accepts (s.report F (convert F value s)) = true

variable {F : Floats} {c : Config}

theorem allAccepted_iff : AllAccepted F c ↔ c.InRange F := by
  constructor
  · intro h s
    have hget : getValue F s.name c = some (c.value F s) := by
      rw [getValue, find_name]
      rfl
    have haccepted := h s.name _ hget
    rwa [validate, find_name] at haccepted
  · intro h name v hget
    unfold getValue at hget
    unfold validate
    cases hfind : findConfigDescriptor name with
    | none =>
      rw [hfind] at hget
      cases hget
    | some s =>
      rw [hfind] at hget
      cases hget
      exact h s

theorem inRange_update (h : c.InRange F) {s : Setting} {x : s.Content} (hx : s.accepts (s.report F x) = true) :
    Config.InRange F (update c s x) := by
  intro t
  unfold Config.value
  by_cases ht : t = s
  · subst ht
    rw [Function.update_self]
    exact hx
  · rw [Function.update_of_ne ht]
    exact h t

theorem inRange_setValue (h : c.InRange F) (copied : Bool) (name : Text) (v : Value) :
    (setValue F copied name v c).2.InRange F := by
  unfold setValue validate
  cases hfind : findConfigDescriptor name with
  | none => exact h
  | some s =>
    dsimp only
    split_ifs with hbad
    · exact h
    · exact h
    · exact h
    · exact h
    · exact inRange_update h (accepts_content F (Bool.eq_true_of_not_eq_false hbad))

theorem load_eq_assign (contents : Option Text) :
    load F contents c = ((contents.map textAssignments).getD []).foldl (Config.assign F) c := by
  cases contents with
  | none => rfl
  | some text => exact loadString_eq_assign F text c

/-- An accepted value of a setting that is no string is stored. -/
theorem setValue_eq {s : Setting} {v : Value} (hs : s.isString = false) (hv : s.accepts v = true)
    (hsame : s.sameValue (c.value F s) v = true → v.content F s = c s) (copied : Bool) :
    (setValue F copied s.name v c).2 = update c s (v.content F s) := by
  have hnot : ¬ s.isString = true := Bool.eq_false_iff.mp hs
  unfold setValue validate
  rw [find_name]
  dsimp only
  rw [if_neg (by rw [hv]; decide), if_neg fun h => hnot h.1]
  split_ifs with heq hcopy
  · exact (Function.update_eq_self_iff.mpr (hsame heq)).symm
  · exact absurd hcopy.1 hnot
  · rfl

theorem wordLookup_mem {α : Type} {table : List (Text × α)} {word : Text} {x : α} (h : wordLookup table word = some x) :
    x ∈ table.map Prod.snd := by
  obtain ⟨entry, hentry, rfl⟩ := Option.map_eq_some_iff.mp h
  exact List.mem_map_of_mem (List.mem_of_find?_eq_some hentry)

theorem parseStrategy_le (word : Text) : (parseStrategy word).toNat ≤ 100 := by
  have hall : ∀ x ∈ strategyWords.map Prod.snd, x.toNat ≤ 100 := by decide
  unfold parseStrategy
  cases hword : wordLookup strategyWords (lowered 31 word) with
  | none => decide
  | some x => exact hall x (wordLookup_mem hword)

theorem Argument.apply_eq_assign (files : Text → Option Text) (a : Argument) :
    a.apply F files c = (a.assigned files).foldl (Config.assign F) c := by
  cases a with
  | config path => exact load_eq_assign _
  | disable => exact setValue_eq (s := .bool .enabled) rfl rfl (fun h => (eq_of_beq h).symm) true
  | debug => exact setValue_eq (s := .bool .debug) rfl rfl (fun h => (eq_of_beq h).symm) true
  | strategy word =>
    have hle := parseStrategy_le word
    have hi : (Int64.ofNat (parseStrategy word).toNat).toInt = (parseStrategy word).toNat := toInt_ofNat_toNat _
    have haccepts : (Setting.enum .schedulerStrategy).accepts
        ⟨false, Int64.ofNat (parseStrategy word).toNat, 0, none⟩ = true := by
      refine decide_eq_true ?_
      rw [hi]
      exact ⟨Int.natCast_nonneg _, Int.ofNat_le.mpr hle⟩
    refine (setValue_eq rfl haccepts (fun h => ?_) true).trans
      (congrArg (update c _) (ofInt_ofNat_toNat _))
    exact (congrArg (fun i : Int64 => UInt32.ofInt i.toInt) (eq_of_beq h)).symm.trans (ofInt_ofNat_toNat _)

theorem foldl_apply_eq_assign (files : Text → Option Text) (as : List Argument) :
    as.foldl (Argument.apply F files) c = (as.flatMap (Argument.assigned files)).foldl (Config.assign F) c := by
  induction as generalizing c with
  | nil => rfl
  | cons a as ih => rw [List.foldl_cons, ih, Argument.apply_eq_assign, List.flatMap_cons, List.foldl_append]

/-- Assignments leave all settings in range exactly if the last one to each setting does. -/
theorem inRange_assign_iff (h : c.InRange F) (as : List (Setting × Text)) :
    Config.InRange F (as.foldl (Config.assign F) c) ↔
      ∀ s value, lastFor s as = some value → s.accepts (s.report F (convert F value s)) = true := by
  constructor
  · intro h' s value hlast
    have hs := h' s
    rw [Config.value, foldl_assign, hlast] at hs
    exact hs
  · intro hok s
    rw [Config.value, foldl_assign]
    cases hlast : lastFor s as with
    | none => exact h s
    | some value => exact hok s value hlast

theorem settingsStep_inRange_iff (h : c.InRange F) (call : SettingsCall) :
    (call.apply F c).InRange F ↔ SettingsOk F c call := by
  cases call with
  | load contents =>
    rw [SettingsCall.apply, load_eq_assign]
    exact inRange_assign_iff h _
  | loadString text =>
    rw [SettingsCall.apply, loadString_eq_assign]
    exact inRange_assign_iff h _
  | set copied config =>
    simp only [SettingsCall.apply, SettingsOk, setConfig]
    split
    · exact iff_of_true h fun herror => nomatch herror
    · exact ⟨fun hconfig _ => hconfig, fun hok => hok rfl⟩
  | setValue copied name v | setByName copied name v =>
    exact iff_of_true (inRange_setValue h copied name v) fun _ _ hlast => nomatch hlast
  | parseArgs files args =>
    rw [SettingsCall.apply, parseArgs, foldl_apply_eq_assign]
    exact inRange_assign_iff h _
  | reset => exact iff_of_true (default_inRange F) fun _ _ hlast => nomatch hlast

/-- **Settings in range.** After every sequence of calls with any texts, files, arguments, structures
and values: all reported settings are accepted throughout exactly if each text, file and command
line assigns to each setting last a content in its range, and each structure that is set has all
its settings in range. -/
theorem settings_in_range_iff (F : Floats) (calls : List SettingsCall) :
    Along (settingsStep F) (AllAccepted F) defaultConfig calls ↔
      Admitted (settingsStep F) (SettingsOk F) defaultConfig calls := by
  refine Run.along_iff_of_exact (fun c call c' hc hstep => ?_) (allAccepted_iff.mpr (default_inRange F)) calls
  cases hstep
  rw [allAccepted_iff]
  exact settingsStep_inRange_iff (allAccepted_iff.mp hc) call

def noGpus : Text := "[gpus]\nmax_gpus=0\n".toList

theorem textAssignments_noGpus : textAssignments noGpus = [(.int .gpusMaxGpus, "0".toList)] := by
  have htext : cString noGpus = ["[gpus]".toList, "max_gpus=0".toList].flatMap (· ++ ['\n']) := by decide
  rw [textAssignments, htext, Lines.scan_unlines rfl (by decide)]
  decide

theorem settings_in_range_no_gpus :
    ¬ Along (settingsStep coarseFloats) (AllAccepted coarseFloats) defaultConfig [.loadString noGpus] := by
  intro h
  have hrange := allAccepted_iff.mp (h.final rfl)
  have hload : SettingsCall.apply coarseFloats defaultConfig (.loadString noGpus) =
      [(.int .gpusMaxGpus, "0".toList)].foldl (Config.assign coarseFloats) defaultConfig := by
    rw [SettingsCall.apply, loadString_eq_assign, textAssignments_noGpus]
  rw [hload] at hrange
  exact absurd (hrange (.int .gpusMaxGpus)) (by decide)

end Mvgal.Daemon
