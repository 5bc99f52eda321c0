import Mathlib.Data.Nat.Digits.Defs
import Mvgal.Daemon.Ini

/-! Saving a configuration and loading it again (`mvgal_config_save_string`).

The text has a section for each group of settings and a line for each setting of the group.
Loading it into the default configuration gives each setting what its line says: the same for
booleans, integers, sizes and log levels in range. Strings have no line, and some strategies
have no word. `saved_restored_iff` says which configurations come back. -/
namespace Mvgal.Daemon
open List

def boolText (b : Bool) : Text := if b then "true".toList else "false".toList

def logLevelText (level : UInt32) : Text :=
  if level = 0 then "error".toList
  else if level = 1 then "warn".toList
  else if level = 2 then "info".toList
  else if level = 3 then "debug".toList
  else if level = 4 then "trace".toList
  else "info".toList

def strategyText (strategy : UInt32) : Text :=
  if strategy = 1 then "afr".toList
  else if strategy = 2 then "sfr".toList
  else if strategy = 7 then "task".toList
  else if strategy = 4 then "compute".toList
  else if strategy = 5 then "hybrid".toList
  else if strategy = 6 then "single".toList
  else "hybrid".toList

/-- `%u` and `%zu`. -/
def decimal (n : Nat) : Text := Nat.toDigits 10 n

/-- How a setting is written. There is no line for a string. -/
def Config.print (F : Floats) (c : Config) : Setting → Text
  | .bool s => boolText (c (.bool s))
  | .int s => decimal (UInt32.toNat (c (.int s)))
  | .enum .logLevel => logLevelText (c (.enum .logLevel))
  | .enum .schedulerStrategy => strategyText (c (.enum .schedulerStrategy))
  | .threshold => F.print (c .threshold)
  | .size s => decimal (UInt64.toNat (c (.size s)))
  | .string _ => []

/-- The sections with their keys, in the order of the format strings. -/
def savedSections : List (Text × List (Text × Setting)) :=
  [("global".toList,
      [("enabled".toList, .bool .enabled), ("log_level".toList, .enum .logLevel), ("debug".toList, .bool .debug)]),
    ("gpus".toList,
      [("auto_detect".toList, .bool .gpusAutoDetect), ("max_gpus".toList, .int .gpusMaxGpus),
        ("enable_all".toList, .bool .gpusEnableAll)]),
    ("scheduler".toList, [("strategy".toList, .enum .schedulerStrategy),
        ("dynamic_load_balance".toList, .bool .schedulerDynamicLoadBalance),
        ("thermal_aware".toList, .bool .schedulerThermalAware), ("power_aware".toList, .bool .schedulerPowerAware),
        ("load_balance_threshold".toList, .threshold),
        ("max_queued_workloads".toList, .int .schedulerMaxQueuedWorkloads)]),
    ("memory".toList,
      [("use_dmabuf".toList, .bool .memoryUseDmabuf), ("use_p2p".toList, .bool .memoryUseP2p),
        ("replicate_small".toList, .bool .memoryReplicateSmall),
        ("replicate_threshold".toList, .size .memoryReplicateThreshold),
        ("max_buffer_size".toList, .size .memoryMaxBufferSize)]),
    ("vulkan".toList, [("enabled".toList, .bool .vulkanEnabled), ("intercept_all".toList, .bool .vulkanInterceptAll)]),
    ("opencl".toList, [("enabled".toList, .bool .openclEnabled), ("preload".toList, .bool .openclPreload)]),
    ("performance".toList, [("profile".toList, .bool .performanceProfile),
        ("profile_interval_ms".toList, .int .performanceProfileIntervalMs)])]

def headLine (name : Text) : Text := '[' :: (name ++ [']'])

def entryLine (key value : Text) : Text := key ++ '=' :: value

def sectionLines (F : Floats) (c : Config) (part : Text × List (Text × Setting)) : List Text :=
  headLine part.1 :: part.2.map (fun entry => entryLine entry.1 (c.print F entry.2)) ++
    if part.1 = "performance".toList then [] else [[]]

def unlines (lines : List Text) : Text := lines.flatMap (· ++ ['\n'])

/-- The buffer of `write_cfg`. -/
structure Buffer where
  size : Nat
  text : Text
  offset : Nat

/-- `write_cfg`, with enough memory. `vsnprintf` writes what there is room for and returns the
length of the whole. -/
def Buffer.write (b : Buffer) (s : Text) : Buffer :=
  let size := if b.size < b.offset + 128 then 2 * b.size else b.size
  ⟨size, b.text ++ s.take (size - b.offset - 1), b.offset + s.length⟩

/-- `mvgal_config_save_string`, with enough memory. -/
def saveString (F : Floats) (c : Config) : Text :=
  ((savedSections.map fun part => unlines (sectionLines F c part)).foldl Buffer.write ⟨4096, [], 0⟩).text

/-! ### Nothing is cut off -/

/-- A character of a line that is read back: no end of a line or of a text. -/
def IsPlain (c : Char) : Prop := c ≠ '\x00' ∧ isBlank c = false

instance (c : Char) : Decidable (IsPlain c) := inferInstanceAs (Decidable (_ ∧ _))

variable {c : Char}

theorem IsPlain.not_lineEnd (h : IsPlain c) : isLineEnd c = false := by
  have hblank := h.2
  simp only [isBlank, mem_cons, not_mem_nil, or_false, decide_eq_false_iff_not, not_or] at hblank
  simp [isLineEnd, hblank.2.2.1, hblank.2.2.2]

theorem isPlain_of_isDigit (h : c.isDigit = true) : IsPlain c := by
  constructor
  · rintro rfl
    exact nomatch h
  · rw [isBlank, decide_eq_false_iff_not]
    intro hmem
    have hdigit : ∀ d ∈ [' ', '\t', '\r', '\n'], d.isDigit = false := by decide
    rw [hdigit c hmem] at h
    cases h

theorem decimal_plain (n : Nat) : ∀ c ∈ decimal n, IsPlain c :=
  fun _ hc => isPlain_of_isDigit (Nat.isDigit_of_mem_toDigits (by decide) (by decide) hc)

theorem decimal_length {n : Nat} (h : n < 2 ^ 64) : (decimal n).length ≤ 64 := by
  have hle : (decimal n).length ≤ 20 := Nat.toDigits_length 10 n 20 (by decide) (h.trans (by decide))
  omega

variable (F : Floats)

theorem print_plain (c : Config) (s : Setting) :
    (∀ d ∈ c.print F s, IsPlain d) ∧ (c.print F s).length ≤ 64 := by
  cases s with
  | bool s =>
    simp only [Config.print, boolText]
    split <;> decide
  | int s => exact ⟨decimal_plain _, decimal_length ((UInt32.toNat_lt _).trans (by decide))⟩
  | enum s =>
    cases s with
    | logLevel =>
      simp only [Config.print, logLevelText]
      split_ifs <;> decide
    | schedulerStrategy =>
      simp only [Config.print, strategyText]
      split_ifs <;> decide
  | threshold =>
    refine ⟨fun d hd => ?_, F.print_short _⟩
    have hvisible := F.print_visible _ d hd
    rw [mem_cons, not_or] at hvisible
    exact ⟨hvisible.1, decide_eq_false hvisible.2⟩
  | size s => exact ⟨decimal_plain _, decimal_length (UInt64.toNat_lt _)⟩
  | string s => exact ⟨fun d hd => absurd hd not_mem_nil, Nat.zero_le _⟩

/-- The names and keys are short and have plain characters; no key begins a comment or a section,
or has an equals sign. -/
def PlainKey (key : Text) : Prop :=
  key ≠ [] ∧ key.length ≤ 22 ∧ ∀ c ∈ key, IsPlain c ∧ c ∉ ['=', ';', '#', '[', ']']

instance (key : Text) : Decidable (PlainKey key) := inferInstanceAs (Decidable (_ ∧ _ ∧ _))

theorem savedSections_plain : ∀ part ∈ savedSections, PlainKey part.1 ∧ ∀ entry ∈ part.2, PlainKey entry.1 := by
  decide +kernel

def savedLines (F : Floats) (c : Config) : List Text := savedSections.flatMap (sectionLines F c)

theorem headLine_plain {name : Text} (h : PlainKey name) :
    (∀ d ∈ headLine name, IsPlain d) ∧ (headLine name).length ≤ 100 := by
  constructor
  · intro d hd
    rw [headLine, mem_cons, mem_append, mem_singleton] at hd
    obtain rfl | hd | rfl := hd
    · decide
    · exact (h.2.2 d hd).1
    · decide
  · have hlength := h.2.1
    simp only [headLine, length_cons, length_append, length_nil]
    omega

theorem entryLine_plain {key value : Text} (h : PlainKey key)
    (hvalue : (∀ d ∈ value, IsPlain d) ∧ value.length ≤ 64) :
    (∀ d ∈ entryLine key value, IsPlain d) ∧ (entryLine key value).length ≤ 100 := by
  constructor
  · intro d hd
    rw [entryLine, mem_append, mem_cons] at hd
    obtain hd | rfl | hd := hd
    · exact (h.2.2 d hd).1
    · decide
    · exact hvalue.1 d hd
  · have hlength := h.2.1
    simp only [entryLine, length_append, length_cons]
    omega

theorem savedLines_plain (c : Config) :
    ∀ line ∈ savedLines F c, (∀ d ∈ line, IsPlain d) ∧ line.length ≤ 100 := by
  intro line hline
  obtain ⟨part, hpart, hline⟩ := mem_flatMap.mp hline
  obtain ⟨hname, hkeys⟩ := savedSections_plain part hpart
  rw [sectionLines, mem_append, mem_cons] at hline
  obtain (rfl | hline) | hline := hline
  · exact headLine_plain hname
  · obtain ⟨entry, hentry, rfl⟩ := mem_map.mp hline
    exact entryLine_plain (hkeys entry hentry) (print_plain F c entry.2)
  · split at hline
    · exact absurd hline not_mem_nil
    · rw [mem_singleton.mp hline]
      exact ⟨fun d hd => absurd hd not_mem_nil, Nat.zero_le _⟩

theorem foldl_write {texts : List Text} {b : Buffer} (hoffset : b.offset = b.text.length)
    (hfits : b.offset + texts.flatten.length < b.size) : (texts.foldl Buffer.write b).text = b.text ++ texts.flatten := by
  induction texts generalizing b with
  | nil => simp
  | cons s rest ih =>
    rw [flatten_cons, length_append] at hfits
    obtain ⟨size, hsize, hle⟩ : ∃ size, (if b.size < b.offset + 128 then 2 * b.size else b.size) = size ∧ b.size ≤ size := by
      refine ⟨_, rfl, ?_⟩
      split
      · omega
      · exact Nat.le_refl _
    have hwrite : b.write s = ⟨size, b.text ++ s, b.offset + s.length⟩ := by
      unfold Buffer.write
      rw [hsize]
      dsimp only
      rw [take_of_length_le (by omega)]
    rw [foldl_cons, hwrite, ih, append_assoc, flatten_cons]
    · show b.offset + s.length = (b.text ++ s).length
      rw [hoffset, length_append]
    · show b.offset + s.length + rest.flatten.length < size
      omega

theorem unlines_length {lines : List Text} (h : ∀ line ∈ lines, line.length ≤ 100) :
    (unlines lines).length ≤ lines.length * 101 := by
  induction lines with
  | nil => exact Nat.zero_le _
  | cons line lines ih =>
    have hline := h line mem_cons_self
    have hrest := ih fun line hline => h line (mem_cons_of_mem _ hline)
    have hcons : unlines (line :: lines) = line ++ ['\n'] ++ unlines lines := flatMap_cons ..
    rw [hcons, length_append, length_append, length_singleton, length_cons]
    omega

theorem saveString_eq (c : Config) : saveString F c = unlines (savedLines F c) := by
  have hflatten : (savedSections.map fun part => unlines (sectionLines F c part)).flatten = unlines (savedLines F c) := by
    unfold unlines savedLines
    rw [flatMap_assoc, flatMap_def]
  have hlength := unlines_length fun line hline => (savedLines_plain F c line hline).2
  have hcount : (savedLines F c).length = 36 := rfl
  unfold saveString
  rw [foldl_write rfl, hflatten]
  · rfl
  · rw [hflatten]
    show 0 + _ < 4096
    omega

/-! ### Reading the text back -/

variable {t : Text}

theorem dropWhile_of_all_false {p : Char → Bool} (h : ∀ c ∈ t, p c = false) : t.dropWhile p = t := by
  cases t with
  | nil => rfl
  | cons c t => exact dropWhile_cons_of_neg (Bool.eq_false_iff.mp (h c mem_cons_self))

theorem trimWhitespace_plain (h : ∀ c ∈ t, IsPlain c) : trimWhitespace t = t := by
  rw [trimWhitespace, dropWhile_of_all_false fun c hc => (h c hc).2]
  rw [rdropWhile_eq_self_iff]
  intro ht
  rw [(h _ (getLast_mem ht)).2]
  decide

theorem parseLine_headLine {name : Text} (h : PlainKey name) : parseLine (headLine name) = .head name := by
  have htrim := trimWhitespace_plain (headLine_plain h).1
  have hname : (name ++ [']']).takeWhile (· ≠ ']') = name := by
    rw [takeWhile_append_of_pos]
    · simp
    · intro c hc
      have hnot := (h.2.2 c hc).2
      simp only [mem_cons, not_or] at hnot
      simpa using hnot.2.2.2.2.1
  rw [parseLine_of_trim htrim, if_neg (by decide), if_pos ⟨rfl, by simp⟩, hname]

theorem parseLine_entryLine {key value : Text} (h : PlainKey key)
    (hvalue : (∀ d ∈ value, IsPlain d) ∧ value.length ≤ 64) : parseLine (entryLine key value) = .assign key value := by
  have htrim := trimWhitespace_plain (entryLine_plain h hvalue).1
  have hequals : ∀ c ∈ key, c ≠ '=' := by
    intro c hc heq
    exact (h.2.2 c hc).2 (by simp [heq])
  have hkey : (key ++ '=' :: value).takeWhile (· ≠ '=') = key := by
    rw [takeWhile_append_of_pos fun c hc => by simpa using hequals c hc]
    simp
  have hrest : (key ++ '=' :: value).dropWhile (· ≠ '=') = '=' :: value := by
    rw [dropWhile_append_of_pos fun c hc => by simpa using hequals c hc]
    simp
  obtain ⟨c, rest, rfl⟩ := exists_cons_of_ne_nil h.1
  have hfirst := (h.2.2 c mem_cons_self).2
  simp only [mem_cons, not_mem_nil, or_false, not_or] at hfirst
  have hkeytrim := trimWhitespace_plain fun d hd => (h.2.2 d hd).1
  have hvaluetrim := trimWhitespace_plain hvalue.1
  rw [entryLine, cons_append] at htrim
  rw [cons_append] at hkey hrest
  rw [entryLine, cons_append, parseLine_of_trim htrim, if_neg fun hc => hc.elim hfirst.2.1 hfirst.2.2.1,
    if_neg fun hc => hfirst.2.2.2.1 hc.1, if_pos (by simp), hkey, hrest, hkeytrim, if_neg (cons_ne_nil _ _),
    tail_cons, hvaluetrim]

theorem iniSetting_saved :
    ∀ part ∈ savedSections, ∀ entry ∈ part.2, iniSetting (some part.1) (lowered 63 entry.1) = some entry.2 := by
  decide +kernel

variable {part : Text × List (Text × Setting)}

theorem assignments_entries (c : Config)
    (hpart : part ∈ savedSections) (rest : List Text) {entries : List (Text × Setting)}
    (hentries : ∀ entry ∈ entries, entry ∈ part.2) :
    assignments (some part.1) (entries.map (fun entry => entryLine entry.1 (c.print F entry.2)) ++ rest) =
      entries.map (fun entry => (entry.2, c.print F entry.2)) ++ assignments (some part.1) rest := by
  induction entries with
  | nil => rfl
  | cons entry entries ih =>
    have hentry := hentries entry mem_cons_self
    have hplain := (savedSections_plain part hpart).2 entry hentry
    rw [map_cons, cons_append, assignments, parseLine_entryLine hplain (print_plain F c entry.2)]
    dsimp only
    rw [iniSetting_saved part hpart entry hentry]
    rw [ih fun entry hentry => hentries entry (mem_cons_of_mem _ hentry), map_cons, cons_append]

theorem assignments_section (c : Config)
    (hpart : part ∈ savedSections) (sectionName : Option Text) (rest : List Text) :
    assignments sectionName (sectionLines F c part ++ rest) =
      part.2.map (fun entry => (entry.2, c.print F entry.2)) ++ assignments (some part.1) rest := by
  have hblank : assignments (some part.1) ((if part.1 = "performance".toList then [] else [[]]) ++ rest) =
      assignments (some part.1) rest := by
    split
    · rfl
    · rfl
  rw [sectionLines, append_assoc, cons_append, assignments,
    parseLine_headLine (savedSections_plain part hpart).1]
  dsimp only
  rw [assignments_entries F c hpart _ fun _ h => h, hblank]

theorem assignments_sections (c : Config) {parts : List (Text × List (Text × Setting))}
    (hparts : ∀ part ∈ parts, part ∈ savedSections) (sectionName : Option Text) :
    assignments sectionName (parts.flatMap (sectionLines F c)) =
      parts.flatMap fun part => part.2.map fun entry => (entry.2, c.print F entry.2) := by
  induction parts generalizing sectionName with
  | nil => rfl
  | cons part parts ih =>
    rw [flatMap_cons, assignments_section F c (hparts part mem_cons_self), flatMap_cons,
      ih fun part hpart => hparts part (mem_cons_of_mem _ hpart)]

theorem assignments_filter (lines : List Text) (sectionName : Option Text) :
    assignments sectionName (lines.filter (· ≠ [])) = assignments sectionName lines := by
  induction lines generalizing sectionName with
  | nil => rfl
  | cons line lines ih =>
    by_cases hline : line = []
    · rw [filter_cons_of_neg (by simp [hline]), ih, hline]
      rfl
    · rw [filter_cons_of_pos (by simp [hline]), assignments, assignments]
      simp only [ih]

def savedSettings : List Setting := savedSections.flatMap fun part => part.2.map Prod.snd

theorem textAssignments_saveString (c : Config) :
    textAssignments (saveString F c) = savedSettings.map fun s => (s, c.print F s) := by
  have hplain : ∀ line ∈ savedLines F c, (∀ d ∈ line, isLineEnd d = false) ∧ line.length ≤ 1022 + 1 := by
    intro line hline
    obtain ⟨hline, hlength⟩ := savedLines_plain F c line hline
    exact ⟨fun d hd => (hline d hd).not_lineEnd, hlength.trans (by decide)⟩
  have htext : cString (saveString F c) = unlines (savedLines F c) := by
    rw [saveString_eq]
    refine takeWhile_eq_self_iff.mpr fun d hd => decide_eq_true ?_
    obtain ⟨line, hline, hd⟩ := mem_flatMap.mp hd
    rw [mem_append, mem_singleton] at hd
    obtain hd | rfl := hd
    · exact ((savedLines_plain F c line hline).1 d hd).1
    · decide
  have hscan : Lines.scan isLineEnd 1022 (unlines (savedLines F c)) = (savedLines F c).filter (· ≠ []) :=
    Lines.scan_unlines rfl hplain
  rw [textAssignments, htext, hscan, assignments_filter, savedLines, assignments_sections F c fun _ h => h,
    savedSettings, map_flatMap]
  rfl

theorem lastFor_map (f : Setting → Text) (s : Setting) (l : List Setting) :
    lastFor s (l.map fun s => (s, f s)) = if s ∈ l then some (f s) else none := by
  induction l with
  | nil => rfl
  | cons t l ih =>
    rw [map_cons, lastFor, ih]
    by_cases hl : s ∈ l
    · rw [if_pos hl, if_pos (mem_cons_of_mem _ hl)]
    · rw [if_neg hl]
      by_cases ht : t = s
      · rw [if_pos ht, if_pos (mem_cons.mpr (.inl ht.symm)), ht]
      · rw [if_neg ht, if_neg fun hs => (mem_cons.mp hs).elim (Ne.symm ht) hl]

/-- A setting that has a line gets what it says; the others keep their default. -/
theorem restored_eq (c : Config) (s : Setting) :
    loadString F (saveString F c) defaultConfig s =
      if s ∈ savedSettings then convert F (c.print F s) s else defaultConfig s := by
  rw [loadString_eq_assign, foldl_assign, textAssignments_saveString, lastFor_map]
  split
  · rename_i h
    split at h
    · rename_i hs
      rw [if_pos hs, Option.some.inj h]
    · cases h
  · rename_i h
    split at h
    · cases h
    · rename_i hs
      rw [if_neg hs]

/-! ### Which settings come back -/

theorem parseBoolean_boolText (b : Bool) : parseBoolean (boolText b) = b := by
  cases b <;> decide

theorem isSpace_of_isDigit (h : c.isDigit = true) : isSpace c = false := by
  have hplain := isPlain_of_isDigit h
  rw [isSpace, hplain.2, Bool.false_or, Bool.or_eq_false_iff, decide_eq_false_iff_not, decide_eq_false_iff_not]
  constructor
  · rintro rfl
    exact nomatch h
  · rintro rfl
    exact nomatch h

/-- A text of digits is read as the number, up to the greatest that fits. -/
theorem strtoll_digits (h : ∀ c ∈ t, c.isDigit = true) :
    strtoll t = min (Nat.ofDigitChars 10 t 0 : Int) (2 ^ 63 - 1) := by
  have hall : t.takeWhile Char.isDigit = t := takeWhile_eq_self_iff.mpr h
  unfold strtoll
  rw [dropWhile_of_all_false fun c hc => isSpace_of_isDigit (h c hc)]
  dsimp only
  split
  · exact absurd (h '-' mem_cons_self) (by decide)
  · exact absurd (h '+' mem_cons_self) (by decide)
  · rw [hall]

theorem strtoll_decimal {n : Nat} (h : n < 2 ^ 63) : strtoll (decimal n) = n := by
  have hdigits : ∀ c ∈ decimal n, c.isDigit = true :=
    fun _ hc => Nat.isDigit_of_mem_toDigits (by decide) (by decide) hc
  have hvalue : Nat.ofDigitChars 10 (decimal n) 0 = n := Nat.ofDigitChars_toDigits (by decide) (by decide)
  rw [strtoll_digits hdigits, hvalue]
  omega

/-- `(uint32_t)atoi` of what `%u` wrote. -/
theorem uint32_decimal (n : UInt32) : UInt32.ofInt (strtoll (decimal n.toNat)) = n := by
  have hlt := n.toNat_lt
  rw [strtoll_decimal (hlt.trans (by decide))]
  apply UInt32.toNat_inj.mp
  simp [UInt32.ofInt]
  omega

/-- `(size_t)atoll` of what `%zu` wrote. -/
theorem size_decimal {n : UInt64} (h : n.toNat < 2 ^ 63) : UInt64.ofInt (strtoll (decimal n.toNat)) = n := by
  rw [strtoll_decimal h]
  apply UInt64.toNat_inj.mp
  simp [UInt64.ofInt]
  omega

theorem parseLogLevel_logLevelText {level : UInt32} (h : level ≤ 4) : parseLogLevel (logLevelText level) = level := by
  have hall : ∀ level : Fin 5, parseLogLevel (logLevelText (UInt32.ofNat level)) = UInt32.ofNat level := by decide
  have hlevel := hall ⟨level.toNat, Nat.lt_succ_of_le (UInt32.le_iff_toNat_le.mp h)⟩
  rwa [UInt32.ofNat_toNat] at hlevel

def spelledStrategies : List UInt32 := [1, 2, 4, 5, 6, 7]

theorem parseStrategy_strategyText_iff (strategy : UInt32) :
    parseStrategy (strategyText strategy) = strategy ↔ strategy ∈ spelledStrategies := by
  by_cases h : strategy ∈ spelledStrategies
  · have hall : ∀ strategy ∈ spelledStrategies, parseStrategy (strategyText strategy) = strategy := by decide
    exact iff_of_true (hall strategy h) h
  · have hword : strategyText strategy = "hybrid".toList := by
      simp only [spelledStrategies, mem_cons, not_mem_nil, or_false, not_or] at h
      simp [strategyText, h]
    refine iff_of_false (fun heq => h ?_) h
    rw [hword] at heq
    rw [← heq]
    decide

/-- A configuration all of whose settings `mvgal_config_validate` accepts. -/
structure ValidConfig (F : Floats) where
  config : Config
  valid : config.InRange F

theorem string_notMem_saved (t : StringSetting) : .string t ∉ savedSettings := by
  cases t <;> decide

theorem bool_mem_saved (t : BoolSetting) : .bool t ∈ savedSettings := by
  cases t <;> decide

theorem int_mem_saved (t : IntSetting) : .int t ∈ savedSettings := by
  cases t <;> decide

theorem size_mem_saved (t : SizeSetting) : .size t ∈ savedSettings := by
  cases t <;> decide

variable {F : Floats}

/-- A size in range is below `2 ^ 63`. -/
theorem size_lt_of_accepts {c : Config} {t : SizeSetting}
    (h : (Setting.size t).accepts (c.value F (.size t)) = true) : UInt64.toNat (c (.size t)) < 2 ^ 63 :=
  (toInt64_nonneg_iff _).mp (of_decide_eq_true h).1

/-- A log level in range is at most `MVGAL_LOG_LEVEL_TRACE`. -/
theorem logLevel_le_of_accepts {level : UInt32}
    (h : (Setting.enum .logLevel).accepts (Setting.report F (.enum .logLevel) level) = true) : level ≤ 4 := by
  have hle : (Int64.ofNat level.toNat).toInt ≤ 4 := (of_decide_eq_true h).2
  rw [toInt_ofNat_toNat] at hle
  exact UInt32.le_iff_toNat_le.mpr (Int.ofNat_le.mp hle)

theorem restored_of_mem {c : Config} {s : Setting} (h : s ∈ savedSettings) :
    loadString F (saveString F c) defaultConfig s = convert F (c.print F s) s := by
  rw [restored_eq, if_pos h]

/-- **Saving and loading.** A valid configuration that is saved and loaded into the default one
comes back, in all settings but the threshold, exactly if its strings are unset and its strategy
is one that has a word. -/
theorem saved_restored_iff (F : Floats) (c : ValidConfig F) :
    (∀ s, s ≠ .threshold → loadString F (saveString F c.config) defaultConfig s = c.config s) ↔
      (∀ t, c.config (.string t) = (none : Option Text)) ∧ c.config (.enum .schedulerStrategy) ∈ spelledStrategies := by
  constructor
  · intro h
    constructor
    · intro t
      have hstring := h (.string t) (by simp)
      rw [restored_eq, if_neg (string_notMem_saved t)] at hstring
      exact hstring.symm
    · have hstrategy := h (.enum .schedulerStrategy) (by simp)
      rw [restored_of_mem (by decide)] at hstrategy
      exact (parseStrategy_strategyText_iff _).mp hstrategy
  · intro ⟨hstrings, hstrategy⟩ s hs
    cases s with
    | bool t =>
      rw [restored_of_mem (bool_mem_saved t)]
      exact parseBoolean_boolText _
    | int t =>
      rw [restored_of_mem (int_mem_saved t)]
      exact uint32_decimal _
    | enum t =>
      cases t with
      | logLevel =>
        rw [restored_of_mem (by decide)]
        exact parseLogLevel_logLevelText (logLevel_le_of_accepts (c.valid (.enum .logLevel)))
      | schedulerStrategy =>
        rw [restored_of_mem (by decide)]
        exact (parseStrategy_strategyText_iff _).mpr hstrategy
    | threshold => exact absurd rfl hs
    | size t =>
      rw [restored_of_mem (size_mem_saved t)]
      exact size_decimal (size_lt_of_accepts (c.valid (.size t)))
    | string t =>
      rw [restored_eq, if_neg (string_notMem_saved t)]
      exact (hstrings t).symm

def roundRobinConfig : ValidConfig coarseFloats where
  config
    | .enum .schedulerStrategy => (0 : UInt32)
    | s => defaultConfig s
  valid := by
    intro s
    cases s with
    | bool t => rfl
    | int t => exact default_inRange coarseFloats (.int t)
    | enum t =>
      cases t with
      | logLevel => rfl
      | schedulerStrategy => rfl
    | threshold => exact default_inRange coarseFloats .threshold
    | size t => exact default_inRange coarseFloats (.size t)
    | string t => rfl

/-- Round robin is saved as a word of another strategy. -/
theorem saved_restored_round_robin : ¬ ∀ s, s ≠ .threshold →
      loadString coarseFloats (saveString coarseFloats roundRobinConfig.config) defaultConfig s =
        roundRobinConfig.config s := by
  intro h
  have hstrategy := h (.enum .schedulerStrategy) (by simp)
  rw [restored_of_mem (by decide)] at hstrategy
  have hbad : (5 : UInt32) = 0 := hstrategy
  exact nomatch hbad

end Mvgal.Daemon
