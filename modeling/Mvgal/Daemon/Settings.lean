import Mathlib.Algebra.Group.Int.Defs
import Mathlib.Algebra.Group.Nat.Defs
import Mathlib.Logic.Function.Basic
import Mvgal.Types

/-! The settings of the daemon (`config.c`).

A setting of `g_config_descriptors` has a kind, which decides the type of its field in
`mvgal_config_t` and the view of `mvgal_config_value_u` it is passed in, and for numbers a
range. A configuration gives each setting its content; it is read, written and checked one
setting at a time. -/
namespace Mvgal.Daemon

abbrev Text := List Char

/-- What is said of the members of a text or a list is decided member by member, and not over
all characters or numbers. -/
scoped instance (priority := 2000) decidableMembers {α : Type} (p : α → Prop) [DecidablePred p] (l : List α) :
    Decidable (∀ x, x ∈ l → p x) :=
  List.decidableBAll p l

inductive BoolSetting where
  | enabled
  | debug
  | gpusAutoDetect
  | gpusEnableAll
  | schedulerDynamicLoadBalance
  | schedulerThermalAware
  | schedulerPowerAware
  | memoryUseDmabuf
  | memoryUseP2p
  | memoryReplicateSmall
  | vulkanEnabled
  | vulkanInterceptAll
  | openclEnabled
  | openclPreload
  | performanceProfile
deriving DecidableEq, Repr

inductive IntSetting where
  | gpusMaxGpus
  | schedulerMaxQueuedWorkloads
  | performanceProfileIntervalMs
deriving DecidableEq, Repr

inductive EnumSetting where
  | logLevel
  | schedulerStrategy
deriving DecidableEq, Repr

inductive SizeSetting where
  | memoryReplicateThreshold
  | memoryMaxBufferSize
deriving DecidableEq, Repr

inductive StringSetting where
  | gpusDevices
  | vulkanLayerPath
  | openclLibraryPath
  | performanceProfileFile
deriving DecidableEq, Repr

/-- A setting, by its kind (`config_kind_t`). The only one of kind `CFG_FLOAT` is
`scheduler.load_balance_threshold`. -/
inductive Setting where
  | bool (s : BoolSetting)
  | int (s : IntSetting)
  | enum (s : EnumSetting)
  | threshold
  | size (s : SizeSetting)
  | string (s : StringSetting)
deriving DecidableEq, Repr

def Setting.name : Setting → Text
  | .bool .enabled => "enabled".toList
  | .enum .logLevel => "log_level".toList
  | .bool .debug => "debug".toList
  | .bool .gpusAutoDetect => "gpus.auto_detect".toList
  | .string .gpusDevices => "gpus.devices".toList
  | .int .gpusMaxGpus => "gpus.max_gpus".toList
  | .bool .gpusEnableAll => "gpus.enable_all".toList
  | .enum .schedulerStrategy => "scheduler.strategy".toList
  | .bool .schedulerDynamicLoadBalance => "scheduler.dynamic_load_balance".toList
  | .bool .schedulerThermalAware => "scheduler.thermal_aware".toList
  | .bool .schedulerPowerAware => "scheduler.power_aware".toList
  | .threshold => "scheduler.load_balance_threshold".toList
  | .int .schedulerMaxQueuedWorkloads => "scheduler.max_queued_workloads".toList
  | .bool .memoryUseDmabuf => "memory.use_dmabuf".toList
  | .bool .memoryUseP2p => "memory.use_p2p".toList
  | .bool .memoryReplicateSmall => "memory.replicate_small".toList
  | .size .memoryReplicateThreshold => "memory.replicate_threshold".toList
  | .size .memoryMaxBufferSize => "memory.max_buffer_size".toList
  | .bool .vulkanEnabled => "vulkan.enabled".toList
  | .bool .vulkanInterceptAll => "vulkan.intercept_all".toList
  | .string .vulkanLayerPath => "vulkan.layer_path".toList
  | .bool .openclEnabled => "opencl.enabled".toList
  | .bool .openclPreload => "opencl.preload".toList
  | .string .openclLibraryPath => "opencl.library_path".toList
  | .bool .performanceProfile => "performance.profile".toList
  | .string .performanceProfileFile => "performance.profile_file".toList
  | .int .performanceProfileIntervalMs => "performance.profile_interval_ms".toList

def descriptors : List Setting :=
  [.bool .enabled, .enum .logLevel, .bool .debug,
    .bool .gpusAutoDetect, .string .gpusDevices, .int .gpusMaxGpus, .bool .gpusEnableAll,
    .enum .schedulerStrategy, .bool .schedulerDynamicLoadBalance, .bool .schedulerThermalAware,
    .bool .schedulerPowerAware, .threshold, .int .schedulerMaxQueuedWorkloads,
    .bool .memoryUseDmabuf, .bool .memoryUseP2p, .bool .memoryReplicateSmall,
    .size .memoryReplicateThreshold, .size .memoryMaxBufferSize,
    .bool .vulkanEnabled, .bool .vulkanInterceptAll, .string .vulkanLayerPath,
    .bool .openclEnabled, .bool .openclPreload, .string .openclLibraryPath,
    .bool .performanceProfile, .string .performanceProfileFile, .int .performanceProfileIntervalMs]

def findConfigDescriptor (name : Text) : Option Setting := descriptors.find? fun s => s.name = name

/-- The type of a setting's field. Enumerations are unsigned. -/
def Setting.Content : Setting → Type
  | .bool _ => Bool
  | .int _ => UInt32
  | .enum _ => UInt32
  | .threshold => Float32
  | .size _ => UInt64
  | .string _ => Option Text

abbrev Config : Type := (s : Setting) → s.Content

/-- `g_default_config`. The strategy is `MVGAL_STRATEGY_HYBRID`, the log level
`MVGAL_LOG_LEVEL_INFO`. -/
def defaultConfig : Config
  | .bool .debug => false
  | .bool .vulkanInterceptAll => false
  | .bool .performanceProfile => false
  | .bool _ => true
  | .int .gpusMaxGpus => (16 : UInt32)
  | .int .schedulerMaxQueuedWorkloads => (1024 : UInt32)
  | .int .performanceProfileIntervalMs => (1000 : UInt32)
  | .enum .logLevel => (2 : UInt32)
  | .enum .schedulerStrategy => (5 : UInt32)
  | .threshold => (0.75 : Float32)
  | .size .memoryReplicateThreshold => (4096 : UInt64)
  | .size .memoryMaxBufferSize => (0 : UInt64)
  | .string _ => (none : Option Text)

def inUnit (d : Float) : Bool := Float.le 0 d && Float.le d 1

/-- What the compiler and the C library do with floating-point numbers: the conversions
between `float` and `double`, `atof`, and the format `%.2f`. The laws are those that the
settings rest on: a conversion does not leave the interval from 0 to 1, the default lies in
it, and a number is printed with a few characters, none of them a blank or NUL. -/
structure Floats where
  narrow : Float → Float32
  widen : Float32 → Float
  atof : Text → Float
  print : Float32 → Text
  narrow_unit : ∀ d, inUnit d = true → inUnit (widen (narrow d)) = true
  default_unit : inUnit (widen 0.75) = true
  print_visible : ∀ f, ∀ c ∈ print f, c ∉ ['\x00', ' ', '\t', '\r', '\n']
  print_short : ∀ f, (print f).length ≤ 64

def coarseFloats : Floats where
  narrow := fun _ => 1
  widen := fun _ => 1
  atof := fun _ => 1
  print := fun _ => "1.00".toList
  narrow_unit := fun _ _ => by decide +kernel
  default_unit := by decide +kernel
  print_visible := fun _ => by decide
  print_short := fun _ => by decide

/-- `mvgal_config_value_u`, with the views of the union side by side: of a value only the view
of its setting's kind is read. -/
structure Value where
  b : Bool
  i : Int64
  f : Float
  s : Option Text

def Setting.report (F : Floats) : (s : Setting) → s.Content → Value
  | .bool _, b => ⟨b, 0, 0, none⟩
  | .int _, n => ⟨false, Int64.ofNat (UInt32.toNat n), 0, none⟩
  | .enum _, n => ⟨false, Int64.ofNat (UInt32.toNat n), 0, none⟩
  | .threshold, f => ⟨false, 0, F.widen f, none⟩
  | .size _, n => ⟨false, UInt64.toInt64 n, 0, none⟩
  | .string _, s => ⟨false, 0, 0, s⟩

def Config.value (F : Floats) (c : Config) (s : Setting) : Value := s.report F (c s)

/-- What `set_config_value_internal` stores. -/
def Value.content (F : Floats) (v : Value) : (s : Setting) → s.Content
  | .bool _ => v.b
  | .int _ => UInt32.ofInt v.i.toInt
  | .enum _ => UInt32.ofInt v.i.toInt
  | .threshold => F.narrow v.f
  | .size _ => v.i.toUInt64
  | .string _ => v.s

/-- `min_value` and `max_value` of a setting of an integer kind; those of a size are 0 and
`(double)SIZE_MAX`. -/
def Setting.range : Setting → Int × Int
  | .int .gpusMaxGpus => (1, 256)
  | .int .schedulerMaxQueuedWorkloads => (1, 1048576)
  | .int .performanceProfileIntervalMs => (10, 3600000)
  | .enum .logLevel => (0, 4)
  | .enum .schedulerStrategy => (0, 100)
  | .size _ => (0, 2 ^ 64)
  | _ => (0, 0)

/-- The check of `mvgal_config_validate` for a setting. The bounds of the integer kinds are
integers that a double holds exactly, so that comparing as doubles is comparing as integers. -/
def Setting.accepts (s : Setting) (v : Value) : Bool :=
  match s with
  | .bool _ => true
  | .int _ => decide (s.range.1 ≤ v.i.toInt ∧ v.i.toInt ≤ s.range.2)
  | .enum _ => decide (s.range.1 ≤ v.i.toInt ∧ v.i.toInt ≤ s.range.2)
  | .size _ => decide (s.range.1 ≤ v.i.toInt ∧ v.i.toInt ≤ s.range.2)
  | .threshold => inUnit v.f
  | .string _ => true

def validate (name : Text) (v : Value) : Bool :=
  match findConfigDescriptor name with
  | some s => s.accepts v
  | none => false

def Setting.isString : Setting → Bool
  | .string _ => true
  | _ => false

/-- `config_value_equal`. -/
def Setting.sameValue (s : Setting) (v w : Value) : Bool :=
  match s with
  | .bool _ => v.b == w.b
  | .int _ => v.i == w.i
  | .enum _ => v.i == w.i
  | .size _ => v.i == w.i
  | .threshold => v.f == w.f
  | .string _ => v.s == w.s

theorem mem_descriptors (s : Setting) : s ∈ descriptors := by
  cases s with
  | bool s | int s | enum s => cases s <;> decide
  | threshold => decide
  | size s => cases s <;> decide
  | string s => cases s <;> decide

theorem find_name (s : Setting) : findConfigDescriptor s.name = some s := by
  have hall : ∀ s ∈ descriptors, findConfigDescriptor s.name = some s := by decide +kernel
  exact hall s (mem_descriptors s)

/-- The reported value of a setting is in its range. -/
def Config.InRange (F : Floats) (c : Config) : Prop := ∀ s : Setting, s.accepts (c.value F s) = true

theorem default_inRange (F : Floats) : defaultConfig.InRange F := by
  intro s
  cases s with
  | bool s => rfl
  | int s => cases s <;> rfl
  | enum s => cases s <;> rfl
  | threshold => exact F.default_unit
  | size s => cases s <;> rfl
  | string s => rfl

theorem toInt_ofNat_toNat (n : UInt32) : (Int64.ofNat n.toNat).toInt = n.toNat := by
  have hlt := n.toNat_lt
  rw [Int64.toInt_ofNat_of_lt]
  omega

/-- A size is reported as it is if it is below `2 ^ 63`, and as a negative number otherwise. -/
theorem toInt64_nonneg_iff (n : UInt64) : 0 ≤ n.toInt64.toInt ↔ n.toNat < 2 ^ 63 := by
  have hlt := n.toNat_lt
  rw [← Int64.toInt_toBitVec, UInt64.toBitVec_toInt64, BitVec.toInt_eq_toNat_cond]
  simp only [UInt64.toNat_toBitVec]
  omega

/-- A number that fits in 32 bits is stored and reported as it is. -/
theorem report_ofInt {i : Int} (h : 0 ≤ i) (h' : i < 2 ^ 32) : (Int64.ofNat (UInt32.ofInt i).toNat).toInt = i := by
  rw [toInt_ofNat_toNat]
  simp [UInt32.ofInt]
  omega

/-- A 32-bit number that is reported and stored again. -/
theorem ofInt_ofNat_toNat (n : UInt32) : UInt32.ofInt (Int64.ofNat n.toNat).toInt = n := by
  have hlt := n.toNat_lt
  rw [toInt_ofNat_toNat]
  apply UInt32.toNat_inj.mp
  simp [UInt32.ofInt]
  omega

/-- The ranges of the 32-bit settings are within 32 bits. -/
theorem range_int (t : IntSetting) : 0 ≤ (Setting.int t).range.1 ∧ (Setting.int t).range.2 < 2 ^ 32 := by
  cases t <;> decide

theorem range_enum (t : EnumSetting) : 0 ≤ (Setting.enum t).range.1 ∧ (Setting.enum t).range.2 < 2 ^ 32 := by
  cases t <;> decide

/-- What a setting accepts is accepted again when it was stored and is reported. -/
theorem accepts_content (F : Floats) {s : Setting} {v : Value} (h : s.accepts v = true) :
    s.accepts (s.report F (v.content F s)) = true := by
  cases s with
  | bool t => rfl
  | int t =>
    obtain ⟨hmin, hmax⟩ : _ ≤ v.i.toInt ∧ v.i.toInt ≤ _ := of_decide_eq_true h
    have hsame := report_ofInt (Int.le_trans (range_int t).1 hmin) (Int.lt_of_le_of_lt hmax (range_int t).2)
    exact decide_eq_true (hsame.symm ▸ ⟨hmin, hmax⟩)
  | enum t =>
    obtain ⟨hmin, hmax⟩ : _ ≤ v.i.toInt ∧ v.i.toInt ≤ _ := of_decide_eq_true h
    have hsame := report_ofInt (Int.le_trans (range_enum t).1 hmin) (Int.lt_of_le_of_lt hmax (range_enum t).2)
    exact decide_eq_true (hsame.symm ▸ ⟨hmin, hmax⟩)
  | threshold => exact F.narrow_unit _ h
  | size t =>
    have hsame : v.i.toUInt64.toInt64 = v.i := by simp
    exact decide_eq_true (hsame.symm ▸ of_decide_eq_true h)
  | string t => rfl

end Mvgal.Daemon
