import Mathlib.Data.List.DropRight
import Mathlib.Data.List.Find
import Mvgal.Daemon.Settings
import Mvgal.Lib.Lines

/-! Configuration texts (`parse_ini_data`).

A line is trimmed and is a comment, the head of a section, or a key and a value; the section
and the key name a setting, whose kind says how the value is read. The text is scanned
through a line buffer of 1023 characters, keys are compared through one of 63 and words
through one of 31. The short buffers make no difference, since no key and no word fills
them. A line that does not fit the line buffer is cut, and its pieces are read as lines of
their own: `load_string_lines`. -/
namespace Mvgal.Daemon
open List
open Function (update)

def isBlank (c : Char) : Bool := c ∈ [' ', '\t', '\r', '\n']

def trimWhitespace (t : Text) : Text := (t.dropWhile isBlank).rdropWhile isBlank

inductive Line where
  | skip
  | head (name : Text)
  | assign (key value : Text)
deriving DecidableEq, Repr

/-- What a line of `parse_ini_data` is. A `[` without a `]` does not begin a section. -/
def parseLine (raw : Text) : Line :=
  let trimmed := trimWhitespace raw
  match trimmed with
  | [] => .skip
  | c :: rest =>
    if c = ';' ∨ c = '#' then .skip
    else if c = '[' ∧ ']' ∈ trimmed then .head (rest.takeWhile (· ≠ ']'))
    else if '=' ∈ trimmed then
      let key := trimWhitespace (trimmed.takeWhile (· ≠ '='))
      let value := trimWhitespace ((trimmed.dropWhile (· ≠ '=')).tail)
      if key = [] then .skip else .assign key value
    else .skip

variable {c : Char}

theorem parseLine_of_trim {raw rest : Text} (h : trimWhitespace raw = c :: rest) : parseLine raw =
      if c = ';' ∨ c = '#' then .skip
      else if c = '[' ∧ ']' ∈ c :: rest then .head (rest.takeWhile (· ≠ ']'))
      else if '=' ∈ c :: rest then
        if trimWhitespace ((c :: rest).takeWhile (· ≠ '=')) = [] then .skip
        else .assign (trimWhitespace ((c :: rest).takeWhile (· ≠ '=')))
          (trimWhitespace ((c :: rest).dropWhile (· ≠ '=')).tail) else .skip := by
  unfold parseLine
  rw [h]

/-- `strncpy` into a buffer with room for `n` characters, then `tolower`. -/
def lowered (n : Nat) (t : Text) : Text := (t.take n).map Char.toLower

def wordLookup {α : Type} (table : List (Text × α)) (word : Text) : Option α :=
  (table.find? fun entry => entry.1 = word).map Prod.snd

def booleanWords : List (Text × Bool) :=
  [("true".toList, true), ("yes".toList, true), ("1".toList, true), ("on".toList, true)]

def logLevelWords : List (Text × UInt32) :=
  [("error".toList, 0), ("0".toList, 0), ("warn".toList, 1), ("warning".toList, 1), ("1".toList, 1),
    ("info".toList, 2), ("2".toList, 2), ("debug".toList, 3), ("3".toList, 3), ("trace".toList, 4), ("4".toList, 4)]

def strategyWords : List (Text × UInt32) :=
  [("afr".toList, 1), ("sfr".toList, 2), ("task".toList, 7), ("compute".toList, 4), ("compute_offload".toList, 4),
    ("hybrid".toList, 5), ("single".toList, 6)]

def parseBoolean (value : Text) : Bool := (wordLookup booleanWords (lowered 31 value)).getD false

def parseLogLevel (value : Text) : UInt32 := (wordLookup logLevelWords (lowered 31 value)).getD 2

def parseStrategy (value : Text) : UInt32 := (wordLookup strategyWords (lowered 31 value)).getD 5

def isSpace (c : Char) : Bool := isBlank c || c = '\x0b' || c = '\x0c'

/-- `strtoll` in base ten: the number that the text begins with, or the nearest that fits. -/
def strtoll (t : Text) : Int :=
  let number (digits : Text) : Nat := Nat.ofDigitChars 10 (digits.takeWhile Char.isDigit) 0
  match t.dropWhile isSpace with
  | '-' :: digits => max (-(number digits : Int)) (-2 ^ 63)
  | '+' :: digits => min (number digits) (2 ^ 63 - 1)
  | digits => min (number digits) (2 ^ 63 - 1)

/-- The content that a setting gets from the text of its value: `parse_boolean`,
`parse_log_level`, `parse_strategy`, `(uint32_t)atoi`, `(float)atof` or `(size_t)atoll`. No key
of a file names a string. -/
def convert (F : Floats) (value : Text) : (s : Setting) → s.Content
  | .bool _ => parseBoolean value
  | .enum .logLevel => parseLogLevel value
  | .enum .schedulerStrategy => parseStrategy value
  | .int _ => UInt32.ofInt (strtoll value)
  | .threshold => F.narrow (F.atof value)
  | .size _ => UInt64.ofInt (strtoll value)
  | .string _ => some value

inductive Group where
  | global
  | gpus
  | scheduler
  | memory
  | vulkan
  | opencl
  | performance
deriving DecidableEq, Repr

/-- The settings a section is about. Lines before the first section are global. -/
def sectionGroup : Option Text → Option Group
  | none => some .global
  | some name => wordLookup
      [("global".toList, .global), ("core".toList, .global), ("gpus".toList, .gpus), ("gpu".toList, .gpus),
        ("scheduler".toList, .scheduler), ("memory".toList, .memory), ("vulkan".toList, .vulkan),
        ("opencl".toList, .opencl), ("performance".toList, .performance)] name

def Group.keys : Group → List (Text × Setting)
  | .global =>
    [("enabled".toList, .bool .enabled), ("log_level".toList, .enum .logLevel), ("loglevel".toList, .enum .logLevel),
      ("debug".toList, .bool .debug)]
  | .gpus =>
    [("auto_detect".toList, .bool .gpusAutoDetect), ("max_gpus".toList, .int .gpusMaxGpus),
      ("enable_all".toList, .bool .gpusEnableAll)]
  | .scheduler =>
    [("strategy".toList, .enum .schedulerStrategy),
      ("dynamic_load_balance".toList, .bool .schedulerDynamicLoadBalance),
      ("thermal_aware".toList, .bool .schedulerThermalAware), ("power_aware".toList, .bool .schedulerPowerAware),
      ("load_balance_threshold".toList, .threshold),
      ("max_queued_workloads".toList, .int .schedulerMaxQueuedWorkloads)]
  | .memory =>
    [("use_dmabuf".toList, .bool .memoryUseDmabuf), ("use_p2p".toList, .bool .memoryUseP2p),
      ("replicate_small".toList, .bool .memoryReplicateSmall),
      ("replicate_threshold".toList, .size .memoryReplicateThreshold),
      ("max_buffer_size".toList, .size .memoryMaxBufferSize)]
  | .vulkan => [("enabled".toList, .bool .vulkanEnabled), ("intercept_all".toList, .bool .vulkanInterceptAll)]
  | .opencl => [("enabled".toList, .bool .openclEnabled), ("preload".toList, .bool .openclPreload)]
  | .performance =>
    [("profile".toList, .bool .performanceProfile), ("profile_interval_ms".toList, .int .performanceProfileIntervalMs)]

def iniSetting (sectionName : Option Text) (key : Text) : Option Setting :=
  (sectionGroup sectionName).bind fun group => wordLookup group.keys key

/-- The section reached and the configuration. -/
structure IniState where
  sectionName : Option Text
  config : Config

def IniState.line (F : Floats) (st : IniState) (raw : Text) : IniState :=
  match parseLine raw with
  | .skip => st
  | .head name => {st with sectionName := some name}
  | .assign key value =>
    match iniSetting st.sectionName (lowered 63 key) with
    | some s => {st with config := update st.config s (convert F value s)}
    | none => st

def isLineEnd (c : Char) : Bool := c = '\n' || c = '\r'

/-- The characters before the first NUL. -/
def cString (text : Text) : Text := text.takeWhile (· ≠ '\x00')

/-- `parse_ini_data`. The buffer `line` has room for 1023 characters. -/
def parseIniData (F : Floats) (text : Text) (c : Config) : Config :=
  ((Lines.scan isLineEnd 1022 (cString text)).foldl (IniState.line F) ⟨none, c⟩).config

def loadString (F : Floats) (text : Text) (c : Config) : Config := parseIniData F text c

def assignments : Option Text → List Text → List (Setting × Text)
  | _, [] => []
  | sectionName, raw :: rest =>
    match parseLine raw with
    | .skip => assignments sectionName rest
    | .head name => assignments (some name) rest
    | .assign key value =>
      match iniSetting sectionName (lowered 63 key) with
      | some s => (s, value) :: assignments sectionName rest
      | none => assignments sectionName rest

def Config.assign (F : Floats) (c : Config) (a : Setting × Text) : Config := update c a.1 (convert F a.2 a.1)

variable (F : Floats)

theorem foldl_line (lines : List Text) (st : IniState) :
    (lines.foldl (IniState.line F) st).config =
      (assignments st.sectionName lines).foldl (Config.assign F) st.config := by
  induction lines generalizing st with
  | nil => rfl
  | cons raw rest ih =>
    rw [foldl_cons, ih, assignments]
    unfold IniState.line
    cases parseLine raw with
    | skip => rfl
    | head name => rfl
    | assign key value =>
      dsimp only
      cases iniSetting st.sectionName (lowered 63 key) with
      | none => rfl
      | some s => rfl

def textAssignments (text : Text) : List (Setting × Text) :=
  assignments none (Lines.scan isLineEnd 1022 (cString text))

theorem loadString_eq_assign (text : Text) (c : Config) :
    loadString F text c = (textAssignments text).foldl (Config.assign F) c := foldl_line F _ _

def lastFor (s : Setting) : List (Setting × Text) → Option Text
  | [] => none
  | a :: rest =>
    match lastFor s rest with
    | some value => some value
    | none => if a.1 = s then some a.2 else none

/-- Of the assignments to a setting the last one counts. -/
theorem foldl_assign (as : List (Setting × Text)) (c : Config) (s : Setting) :
    as.foldl (Config.assign F) c s = match lastFor s as with
      | some value => convert F value s
      | none => c s := by
  induction as generalizing c with
  | nil => rfl
  | cons a rest ih =>
    rw [foldl_cons, ih, lastFor]
    cases lastFor s rest with
    | some value => rfl
    | none =>
      by_cases hs : a.1 = s
      · subst hs
        rw [if_pos rfl]
        exact Function.update_self ..
      · rw [if_neg hs]
        exact Function.update_of_ne (Ne.symm hs) ..

/-! ### Lines of any length -/

/-- What a line-by-line reader makes of a value: words are compared as a whole. -/
def referenceConvert (F : Floats) (value : Text) : (s : Setting) → s.Content
  | .bool _ => (wordLookup booleanWords (value.map Char.toLower)).getD false
  | .enum .logLevel => (wordLookup logLevelWords (value.map Char.toLower)).getD 2
  | .enum .schedulerStrategy => (wordLookup strategyWords (value.map Char.toLower)).getD 5
  | .int _ => UInt32.ofInt (strtoll value)
  | .threshold => F.narrow (F.atof value)
  | .size _ => UInt64.ofInt (strtoll value)
  | .string _ => some value

def IniState.referenceLine (F : Floats) (st : IniState) (raw : Text) : IniState :=
  match parseLine raw with
  | .skip => st
  | .head name => {st with sectionName := some name}
  | .assign key value =>
    match iniSetting st.sectionName (key.map Char.toLower) with
    | some s => {st with config := update st.config s (referenceConvert F value s)}
    | none => st

def referenceParse (F : Floats) (lines : List Text) (c : Config) : Config :=
  (lines.foldl (IniState.referenceLine F) ⟨none, c⟩).config

/-- A word that is longer than the buffer is none of the table, cut or not. -/
theorem wordLookup_lowered {α : Type} (n : Nat) (table : List (Text × α)) (h : ∀ entry ∈ table, entry.1.length < n)
    (t : Text) : wordLookup table (lowered n t) = wordLookup table (t.map Char.toLower) := by
  unfold wordLookup
  congr 1
  apply find?_congr
  intro entry hentry
  have hshort := h entry hentry
  by_cases ht : t.length ≤ n
  · rw [lowered, take_of_length_le ht]
  · have hcut : entry.1 ≠ lowered n t := by
      intro heq
      rw [heq, lowered, length_map, length_take] at hshort
      omega
    have hwhole : entry.1 ≠ t.map Char.toLower := by
      intro heq
      rw [heq, length_map] at hshort
      omega
    rw [decide_eq_false hcut, decide_eq_false hwhole]

theorem convert_eq_reference (value : Text) (s : Setting) :
    convert F value s = referenceConvert F value s := by
  cases s with
  | bool s => exact congrArg (·.getD false) (wordLookup_lowered 31 booleanWords (by decide) value)
  | int s => rfl
  | enum s =>
    cases s with
    | logLevel => exact congrArg (·.getD 2) (wordLookup_lowered 31 logLevelWords (by decide) value)
    | schedulerStrategy => exact congrArg (·.getD 5) (wordLookup_lowered 31 strategyWords (by decide) value)
  | threshold => rfl
  | size s => rfl
  | string s => rfl

theorem iniSetting_lowered (sectionName : Option Text) (key : Text) :
    iniSetting sectionName (lowered 63 key) = iniSetting sectionName (key.map Char.toLower) := by
  unfold iniSetting
  congr 1
  funext group
  apply wordLookup_lowered
  cases group <;> decide

theorem line_eq_reference : IniState.line F = IniState.referenceLine F := by
  funext st raw
  unfold IniState.line IniState.referenceLine
  cases parseLine raw with
  | skip => rfl
  | head name => rfl
  | assign key value =>
    dsimp only
    rw [iniSetting_lowered]
    cases iniSetting st.sectionName (key.map Char.toLower) with
    | none => rfl
    | some s =>
      dsimp only
      rw [convert_eq_reference]

/-! ### What a line can do -/

/-- A line that begins with a visible character still does when it is trimmed. -/
theorem trimWhitespace_cons (hc : isBlank c = false) (rest : Text) :
    ∃ rest', trimWhitespace (c :: rest) = c :: rest' := by
  have hdrop : (c :: rest).dropWhile isBlank = c :: rest := dropWhile_cons_of_neg (Bool.eq_false_iff.mp hc)
  rw [trimWhitespace, hdrop]
  have hpre : (c :: rest).rdropWhile isBlank <+: c :: rest := List.rdropWhile_prefix ..
  cases htrim : (c :: rest).rdropWhile isBlank with
  | nil =>
    have hblank := rdropWhile_eq_nil_iff.mp htrim c mem_cons_self
    rw [hc] at hblank
    cases hblank
  | cons d rest' =>
    rw [htrim, List.cons_prefix_cons] at hpre
    exact ⟨rest', by rw [hpre.1]⟩

theorem parseLine_comment (hc : c = ';' ∨ c = '#') (rest : Text) : parseLine (c :: rest) = .skip := by
  have hvisible : isBlank c = false := by
    obtain rfl | rfl := hc
    · rfl
    · rfl
  obtain ⟨rest', htrim⟩ := trimWhitespace_cons hvisible rest
  rw [parseLine_of_trim htrim, if_pos hc]

/-- A line changes at most the setting that its key names in the section reached. -/
theorem referenceLine_config (st : IniState) (raw : Text) {s : Setting}
    (h : (st.referenceLine F raw).config s ≠ st.config s) :
    ∃ key value, parseLine raw = .assign key value ∧ iniSetting st.sectionName (key.map Char.toLower) = some s := by
  unfold IniState.referenceLine at h
  cases hline : parseLine raw with
  | skip | head name =>
    rw [hline] at h
    exact absurd rfl h
  | assign key value =>
    rw [hline] at h
    dsimp only at h
    refine ⟨key, value, rfl, ?_⟩
    cases hset : iniSetting st.sectionName (key.map Char.toLower) with
    | none =>
      rw [hset] at h
      exact absurd rfl h
    | some s' =>
      rw [hset] at h
      by_cases hs : s = s'
      · rw [hs]
      · exact absurd (Function.update_of_ne hs _ _) h

theorem referenceLine_nil (st : IniState) : st.referenceLine F [] = st := rfl

theorem foldl_filter_ne_nil (lines : List Text) (st : IniState) :
    (lines.filter (· ≠ [])).foldl (IniState.referenceLine F) st = lines.foldl (IniState.referenceLine F) st := by
  induction lines generalizing st with
  | nil => rfl
  | cons l lines ih =>
    by_cases hl : l = []
    · rw [filter_cons_of_neg (by simp [hl]), foldl_cons, hl, referenceLine_nil]
      exact ih st
    · rw [filter_cons_of_pos (by simp [hl]), foldl_cons, foldl_cons]
      exact ih _

theorem referenceLine_comment (st : IniState) (hc : c = ';' ∨ c = '#') (rest : Text) :
    st.referenceLine F (c :: rest) = st := by
  rw [IniState.referenceLine, parseLine_comment hc]

def textLines (text : Text) : List Text := (cString text).splitOnP isLineEnd

theorem textLines_single {text : Text} (h : ∀ c ∈ text, c ≠ '\x00' ∧ isLineEnd c = false) : textLines text = [text] := by
  have htext : cString text = text ++ [] := by
    rw [append_nil]
    exact takeWhile_eq_self_iff.mpr fun c hc => decide_eq_true (h c hc).1
  rw [textLines, htext, Lines.splitOnP_append fun c hc => (h c hc).2]
  simp

theorem loadString_eq_pieces (text : Text) (c : Config) :
    loadString F text c = referenceParse F ((textLines text).flatMap (Lines.pieces 1022)) c := by
  unfold loadString parseIniData referenceParse textLines
  rw [line_eq_reference, Lines.scan_eq]

/-- A comment of more than 1023 characters. -/
def longComment : Text := '#' :: (List.replicate 1022 'x' ++ "debug=true".toList)

theorem textLines_longComment : textLines longComment = [longComment] := by
  apply textLines_single
  intro c hc
  rw [longComment, mem_cons, mem_append] at hc
  obtain rfl | hc | hc := hc
  · decide
  · rw [eq_of_mem_replicate hc]
    decide
  · revert c
    decide

theorem pieces_longComment :
    Lines.pieces 1022 longComment = ['#' :: List.replicate 1022 'x', "debug=true".toList] := by
  have hlength : (replicate 1022 'x').length = 1022 := length_replicate
  rw [longComment, Lines.pieces_cons, take_left' hlength, drop_left' hlength,
    Lines.pieces_of_le (by decide) (by decide)]

end Mvgal.Daemon
