import Mathlib.Data.List.TakeWhile
import Mathlib.Data.UInt

/-! The start of the device registry (`DeviceRegistry::init` in `device_registry.cpp`).

The registry lists the card nodes of `/dev/dri`, and then the functions under
`/sys/bus/pci/devices` whose ids it does not have yet. The kernel writes an id as `0x10de`, and
the second pass looks for two numbers with a colon between them, so on no machine does it
register anything (`findPciDevices_eq_nil`). What is registered are the card nodes, whatever they
belong to: the registry is right exactly when these are the nodes of the display controllers, one
for each (`registry_right_iff`). -/
namespace Mvgal.Runtime.Devices
open List Option Nat

abbrev Text := List Char

def isspace (c : Char) : Bool := [' ', '\t', '\n', '\x0b', '\x0c', '\r'].contains c

def hexDigits : Text := "0123456789abcdef".toList

/-- The value of a hexadecimal digit, in either case. -/
def digit? (c : Char) : Option Nat := hexDigits.idxOf? c.toLower

def isxdigit (c : Char) : Bool := (digit? c).isSome

def value (digits : Text) : Nat := digits.foldl (fun n c => 16 * n + (digit? c).getD 0) 0

/-- The number a text begins with, and the rest. -/
def unsigned (t : Text) : Option (Nat × Text) :=
  if t.takeWhile isxdigit = [] then none else some (value (t.takeWhile isxdigit), t.dropWhile isxdigit)

/-- The same behind `0x`. Where no digit follows, `strtol` stops behind the zero and `fscanf` fails. -/
def marked (strtol : Bool) (t : Text) : Option (Nat × Text) :=
  match t with
  | '0' :: x :: rest =>
    if x.toLower = 'x' then (unsigned rest).or (if strtol then unsigned t else none) else unsigned t
  | _ => unsigned t

def signed (strtol : Bool) (t : Text) : Option (Int × Text) :=
  match t with
  | '-' :: rest => (marked strtol rest).map fun r => (-r.1, r.2)
  | '+' :: rest => (marked strtol rest).map fun r => (r.1, r.2)
  | _ => (marked strtol t).map fun r => (r.1, r.2)

/-- `std::stoi` in base 16, which throws where there is no number or it is no `int`. -/
def stoi (t : Text) : Option Int :=
  (signed true (t.dropWhile isspace)).bind fun r => if -2 ^ 31 ≤ r.1 ∧ r.1 < 2 ^ 31 then some r.1 else none

/-- What `>>` reads into a string. -/
def word (t : Text) : Text := (t.dropWhile isspace).takeWhile fun c => !isspace c

/-- `fscanf` of `%04hx`. -/
def scanShort (t : Text) : Option (UInt16 × Text) :=
  let t := t.dropWhile isspace
  (signed false (t.take 4)).map fun r => (UInt16.ofInt r.1, r.2 ++ t.drop 4)

/-- `fscanf` of `%04hx:%04hx`, when it returns 2. -/
def scanIds (t : Text) : Option (UInt16 × UInt16) :=
  (scanShort t).bind fun r =>
    match r.2 with
    | ':' :: rest => (scanShort rest).map fun r' => (r.1, r'.1)
    | _ => none

/-- `d_type`, as far as it is asked for. -/
inductive FileType where
  | chr
  | dir
  | unknown
  | other
deriving DecidableEq

structure Dirent where
  name : Text
  type : FileType

/-- The two directories, unless they cannot be opened, and the files that can. -/
structure FileSystem where
  dri : Option (List Dirent)
  pci : Option (List Dirent)
  read : Text → Option Text

structure GpuDevice where
  index : UInt32
  pciVendorId : UInt16
  pciDeviceId : UInt16
  drmPath : Option Text
deriving DecidableEq

variable (fs : FileSystem)

def cardNodes : List Text :=
  ((fs.dri.getD []).filter fun e =>
    (e.type = .chr || e.type = .unknown) && "card".toList.isPrefixOf e.name).map fun e => "/dev/dri/".toList ++ e.name

def findDrmDevices : List Text := (cardNodes fs).mergeSort fun a b => !decide (b < a)

/-- What stands behind the first `card` of a path. -/
def cardNum : Text → Option Text
  | 'c' :: 'a' :: 'r' :: 'd' :: rest => some rest
  | _ :: rest => cardNum rest
  | [] => none

def cardFile (card : Text) (file : String) : Text := "/sys/class/drm/card".toList ++ card ++ "/device/".toList ++ file.toList

/-- The id in a file, 0 if there is no file; `stoi` may throw. -/
def readId (path : Text) : Option UInt16 :=
  match fs.read path with
  | none => some 0
  | some t => (stoi (word t)).map UInt16.ofInt

def cardIds (path : Text) : Option (UInt16 × UInt16) :=
  match cardNum path with
  | none => some (0, 0)
  | some card =>
    (readId fs (cardFile card "vendor")).bind fun vendor =>
      (readId fs (cardFile card "device")).map fun device => (vendor, device)

def registerCard (gpus : List GpuDevice) (path : Text) : Option (List GpuDevice) :=
  (cardIds fs path).map fun ids =>
    if ids.1 = 0 then gpus else gpus ++ [⟨UInt32.ofNat gpus.length, ids.1, ids.2, some path⟩]

def enumerateDrmDevices (gpus : List GpuDevice) : Option (List GpuDevice) :=
  (findDrmDevices fs).foldlM (registerCard fs) gpus

def pciFile (name : Text) (file : String) : Text := "/sys/bus/pci/devices/".toList ++ name ++ '/' :: file.toList

/-- What one entry of the directory adds. The class has 24 bits, of which 8 are left to compare. -/
def pciEntry (e : Dirent) : Option (List (UInt16 × UInt16)) :=
  if e.type = .dir ∧ ':' ∈ e.name then
    match (fs.read (pciFile e.name "device")).bind scanIds with
    | none => some []
    | some ids =>
      match fs.read (pciFile e.name "class") with
      | none => some []
      | some t => (stoi (word t)).map fun code => if UInt32.ofInt code >>> 16 = 0x0300 then [ids] else []
  else some []

def findPciDevices : Option (List (UInt16 × UInt16)) :=
  ((fs.pci.getD []).mapM (pciEntry fs)).map List.flatten

def registerIds (gpus : List GpuDevice) (ids : UInt16 × UInt16) : List GpuDevice :=
  if gpus.any fun g => g.pciVendorId = ids.1 && g.pciDeviceId = ids.2 then gpus
  else gpus ++ [⟨UInt32.ofNat gpus.length, ids.1, ids.2, none⟩]

def enumeratePciDevices (gpus : List GpuDevice) : Option (List GpuDevice) :=
  (findPciDevices fs).map fun devices => devices.foldl registerIds gpus

/-- `DeviceRegistry::init`, unless an exception leaves it. -/
def init : Option (List GpuDevice) := (enumerateDrmDevices fs []).bind (enumeratePciDevices fs)

/-- The last `w` hexadecimal digits. -/
def padded : Nat → Nat → Text
  | 0, _ => []
  | w + 1, n => Nat.digitChar (n / 16 ^ w % 16) :: padded w n

/-- How the kernel writes a number of at most `w` digits. -/
def hexText (w n : Nat) : Text := '0' :: 'x' :: (padded w n ++ ['\n'])

structure PciFunction where
  name : Text
  classCode : Fin (2 ^ 24)
  vendor : UInt16
  device : UInt16
deriving DecidableEq

def PciFunction.isDisplay (f : PciFunction) : Bool := f.classCode.val / 2 ^ 16 = 0x03

/-- The files of a machine with some PCI functions. A node of `/dev/dri` belongs to one of
them (`owner`) or to something else, of whose files nothing is said. -/
structure Machine where
  functions : List PciFunction
  owner : Text → Option PciFunction
  distinct : (functions.map PciFunction.name).Nodup
  listed : ∀ e ∈ fs.pci.getD [], ':' ∈ e.name → ∃ f ∈ functions, f.name = e.name
  function_files : ∀ f ∈ functions, (∃ e ∈ fs.pci.getD [], e.name = f.name) ∧
    fs.read (pciFile f.name "device") = some (hexText 4 f.device.toNat) ∧
    fs.read (pciFile f.name "class") = some (hexText 6 f.classCode)
  card_files : ∀ path card f, owner path = some f → cardNum path = some card →
    fs.read (cardFile card "vendor") = some (hexText 4 f.vendor.toNat) ∧
    fs.read (cardFile card "device") = some (hexText 4 f.device.toNat)

variable {fs} (M : Machine fs)

def Machine.displays : List PciFunction := M.functions.filter PciFunction.isDisplay

/-- An entry of the registry stands for a function: it has its ids, and its node if any. -/
def Machine.Stands (g : GpuDevice) (f : PciFunction) : Prop :=
  (g.pciVendorId = f.vendor ∧ g.pciDeviceId = f.device) ∧ ∀ path, g.drmPath = some path → M.owner path = some f

/-- Every display controller is registered exactly once, and nothing else is. -/
def Machine.Right : Prop :=
  ∃ gpus functions, init fs = some gpus ∧ functions.Perm M.displays ∧
    List.Forall₂ M.Stands gpus functions

/-! ### What the kernel writes is read -/

theorem digit_spec : ∀ k < 16, digit? (Nat.digitChar k) = some k ∧ isspace (Nat.digitChar k) = false ∧
    Nat.digitChar k ≠ ':' := by decide

theorem padded_plain (w n : Nat) : ∀ c ∈ padded w n, isxdigit c = true ∧ isspace c = false := by
  induction w with
  | zero => simp [padded]
  | succ w ih =>
    intro c hc
    obtain rfl | hc := mem_cons.mp hc
    · obtain ⟨hdigit, hspace, -⟩ := digit_spec _ (mod_lt (n / 16 ^ w) (by decide))
      exact ⟨by rw [isxdigit, hdigit]; rfl, hspace⟩
    · exact ih c hc

theorem foldl_padded (w n a : Nat) :
    (padded w n).foldl (fun n c => 16 * n + (digit? c).getD 0) a = a * 16 ^ w + n % 16 ^ w := by
  induction w generalizing a with
  | zero => simp [padded, mod_one]
  | succ w ih =>
    rw [padded, foldl_cons, ih, (digit_spec _ (mod_lt _ (by decide))).1, getD_some, pow_succ,
      mod_mul]
    grind

theorem word_hexText (w n : Nat) : word (hexText w n) = '0' :: 'x' :: padded w n := by
  have hskip : (hexText w n).dropWhile isspace = hexText w n := rfl
  have htake : (padded w n ++ ['\n']).takeWhile (fun c => !isspace c) = padded w n := by
    rw [takeWhile_append_of_pos fun c hc => by simp [(padded_plain w n c hc).2]]
    exact append_nil _
  show '0' :: 'x' :: (padded w n ++ ['\n']).takeWhile (fun c => !isspace c) = _
  rw [htake]

theorem unsigned_padded {w n : Nat} (hw : 0 < w) (hn : n < 16 ^ w) : unsigned (padded w n) = some (n, []) := by
  have hall : ∀ c ∈ padded w n, isxdigit c = true := fun c hc => (padded_plain w n c hc).1
  have hne : padded w n ≠ [] := by
    cases w with
    | zero => exact nomatch hw
    | succ w => exact cons_ne_nil _ _
  rw [unsigned, takeWhile_eq_self_iff.mpr hall, dropWhile_eq_nil_iff.mpr hall, if_neg hne, value,
    foldl_padded, mod_eq_of_lt hn, zero_mul, zero_add]

theorem stoi_hexText {w n : Nat} (hw : 0 < w) (hn : n < 16 ^ w) (hint : n < 2 ^ 31) :
    stoi (word (hexText w n)) = some (n : Int) := by
  rw [word_hexText]
  have hmarked : signed true ('0' :: 'x' :: padded w n) =
      ((unsigned (padded w n)).or (unsigned ('0' :: 'x' :: padded w n))).map fun r => ((r.1 : Int), r.2) := rfl
  show (signed true ('0' :: 'x' :: padded w n)).bind _ = _
  rw [hmarked, unsigned_padded hw hn, some_or, map_some, bind_some,
    if_pos ⟨by omega, by omega⟩]

variable {path : Text}

theorem readId_hexText {id : UInt16} (h : fs.read path = some (hexText 4 id.toNat)) :
    readId fs path = some id := by
  have hlt := id.toNat_lt
  rw [readId, h]
  show (stoi _).map _ = _
  rw [stoi_hexText (by decide) (by omega) (by omega), map_some]
  refine congrArg some (UInt16.toNat_inj.mp ?_)
  simp [UInt16.ofInt]
  omega

theorem isxdigit_digitChar {k : Nat} (h : k < 16) : isxdigit (Nat.digitChar k) = true := by
  rw [isxdigit, (digit_spec k h).1]
  rfl

/-- Four characters of the device id, `0x` among them, are one number; no colon follows. -/
theorem scanIds_hexText (n : Nat) : scanIds (hexText 4 n) = none := by
  have hlt : ∀ w, n / 16 ^ w % 16 < 16 := fun w => mod_lt _ (by decide)
  have hscan : signed false ((hexText 4 n).take 4) =
      ((unsigned [digitChar (n / 16 ^ 3 % 16), digitChar (n / 16 ^ 2 % 16)]).or none).map
        fun r => ((r.1 : Int), r.2) := rfl
  rw [unsigned] at hscan
  simp only [takeWhile_cons, dropWhile_cons, isxdigit_digitChar (hlt _), if_true] at hscan
  show (((signed false ((hexText 4 n).take 4)).map _).bind _) = none
  rw [hscan]
  show (match digitChar (n / 16 ^ 1 % 16) :: _ with | ':' :: rest => _ | _ => none) = none
  split
  · next h => exact absurd (cons.inj h).1 (digit_spec _ (hlt 1)).2.2
  · rfl

/-! ### Nothing is found on the bus -/

theorem mapM_nil {α β : Type} {f : α → Option (List β)} {l : List α} (h : ∀ a ∈ l, f a = some []) :
    (l.mapM f).map List.flatten = some [] := by
  induction l with
  | nil => rfl
  | cons a rest ih =>
    obtain ⟨r, hr, hnil⟩ := map_eq_some_iff.mp (ih fun b hb => h b (mem_cons_of_mem a hb))
    rw [mapM_cons, h a mem_cons_self, hr]
    exact congrArg some hnil

/-- On no machine does the second pass find a function. -/
theorem findPciDevices_eq_nil (M : Machine fs) : findPciDevices fs = some [] := by
  apply mapM_nil
  intro e he
  unfold pciEntry
  split
  · next h =>
    obtain ⟨f, hf, hname⟩ := M.listed e he h.2
    rw [← hname, (M.function_files f hf).2.1, bind_some, scanIds_hexText]
  · rfl

theorem init_eq (M : Machine fs) : init fs = enumerateDrmDevices fs [] := by
  unfold init enumeratePciDevices
  rw [findPciDevices_eq_nil M]
  exact bind_fun_some _

/-! ### What the card nodes register -/

/-- The node has a vendor. -/
def registers (fs : FileSystem) (path : Text) : Bool := (cardIds fs path).any (·.1 ≠ 0)

/-- The entry was made for the node. -/
def Shows (fs : FileSystem) (g : GpuDevice) (path : Text) : Prop :=
  g.drmPath = some path ∧ cardIds fs path = some (g.pciVendorId, g.pciDeviceId)

theorem registerCard_eq {ids : UInt16 × UInt16} (h : cardIds fs path = some ids)
    (gpus : List GpuDevice) : ∃ new, registerCard fs gpus path = some (gpus ++ new) ∧
      List.Forall₂ (Shows fs) new ([path].filter (registers fs)) := by
  rw [registerCard, h, map_some]
  by_cases h0 : ids.1 = 0
  · exact ⟨[], by simp [h0], by simp [registers, h, h0]⟩
  · rw [if_neg h0]
    exact ⟨_, rfl, by simp [registers, h, h0, Shows]⟩

theorem registerCards (fs : FileSystem) (paths : List Text) (gpus : List GpuDevice) :
    (∃ path ∈ paths, cardIds fs path = none) ∧ paths.foldlM (registerCard fs) gpus = none ∨
    (∀ path ∈ paths, (cardIds fs path).isSome) ∧ ∃ new, paths.foldlM (registerCard fs) gpus = some (gpus ++ new) ∧
      List.Forall₂ (Shows fs) new (paths.filter (registers fs)) := by
  induction paths generalizing gpus with
  | nil => exact .inr ⟨nofun, [], by simp, .nil⟩
  | cons path rest ih =>
    rw [foldlM_cons]
    cases hids : cardIds fs path with
    | none =>
      rw [registerCard, hids]
      exact .inl ⟨⟨path, mem_cons_self, hids⟩, rfl⟩
    | some ids =>
      obtain ⟨new, hstep, hnew⟩ := registerCard_eq hids gpus
      rw [hstep]
      obtain ⟨⟨p, hp, hnone⟩, h⟩ | ⟨hsome, new', h, hnew'⟩ := ih (gpus ++ new)
      · exact .inl ⟨⟨p, mem_cons_of_mem path hp, hnone⟩, h⟩
      · refine .inr ⟨by simpa [hids] using hsome, new ++ new', ?_, ?_⟩
        · rw [← append_assoc]
          exact h
        · rw [← singleton_append, filter_append]
          exact rel_append hnew hnew'

/-! ### When the registry is right -/

/-- The ids of every card node can be read, those that are registered belong to PCI functions,
and these are the display controllers, each once. -/
structure Machine.Covered : Prop where
  readable : ∀ path ∈ cardNodes fs, (cardIds fs path).isSome
  owned : ∀ path ∈ cardNodes fs, registers fs path = true → (M.owner path).isSome
  perm : (((cardNodes fs).filter (registers fs)).filterMap M.owner).Perm M.displays

variable {M} {gpus : List GpuDevice} {paths : List Text}

theorem owner_of_stands {functions : List PciFunction} (hshows : List.Forall₂ (Shows fs) gpus paths)
    (hstands : List.Forall₂ M.Stands gpus functions) : paths.map M.owner = functions.map some := by
  induction hshows generalizing functions with
  | nil =>
    cases hstands
    rfl
  | cons hshow _ ih =>
    cases hstands with
    | cons hstand hrest => rw [map_cons, map_cons, hstand.2 _ hshow.1, ih hrest]

theorem cardIds_of_owner {f : PciFunction} {ids : UInt16 × UInt16} (h : M.owner path = some f)
    (hids : cardIds fs path = some ids) (h0 : ids.1 ≠ 0) : ids = (f.vendor, f.device) := by
  unfold cardIds at hids
  split at hids
  · exact absurd (congrArg Prod.fst (some.inj hids)).symm h0
  · next card hcard =>
    obtain ⟨hvendor, hdevice⟩ := M.card_files path card f h hcard
    rw [readId_hexText hvendor, readId_hexText hdevice] at hids
    exact (some.inj hids).symm

theorem stands_of_owner (hshows : List.Forall₂ (Shows fs) gpus paths)
    (hpaths : ∀ path ∈ paths, registers fs path = true ∧ (M.owner path).isSome) :
    List.Forall₂ M.Stands gpus (paths.filterMap M.owner) := by
  induction hshows with
  | nil => exact .nil
  | @cons g path gpus rest hshow _ ih =>
    obtain ⟨hreg, howner⟩ := hpaths path mem_cons_self
    obtain ⟨f, hf⟩ := isSome_iff_exists.mp howner
    rw [filterMap_cons_some hf]
    have h0 : g.pciVendorId ≠ 0 := by simpa [registers, hshow.2] using hreg
    have hids := cardIds_of_owner hf hshow.2 h0
    refine .cons ⟨Prod.mk.inj hids, fun p hp => ?_⟩ (ih fun p hp => hpaths p (mem_cons_of_mem path hp))
    rw [← some.inj (hshow.1.symm.trans hp)]
    exact hf

/-- **The device registry.** The registry has every display controller once, with its own ids, and
nothing else, exactly when the card nodes it registers are the nodes of the display controllers,
one for each. -/
theorem registry_right_iff (M : Machine fs) : M.Right ↔ M.Covered := by
  have hsort : (findDrmDevices fs).Perm (cardNodes fs) := mergeSort_perm ..
  have hfound : ∀ path, path ∈ findDrmDevices fs ↔ path ∈ cardNodes fs :=
    fun _ => hsort.mem_iff
  have hfilter := (hsort.filter (registers fs)).filterMap M.owner
  unfold Machine.Right
  rw [init_eq M, enumerateDrmDevices]
  obtain ⟨⟨path, hp, hnone⟩, h⟩ | ⟨hsome, new, h, hshows⟩ :=
    registerCards fs (findDrmDevices fs) []
  · rw [h]
    refine iff_of_false (fun ⟨_, _, hinit, _⟩ => nomatch hinit) fun hM => ?_
    have := hM.readable path ((hfound path).mp hp)
    rw [hnone] at this
    cases this
  · rw [h, nil_append]
    constructor
    · rintro ⟨gpus, functions, hinit, hperm, hstands⟩
      cases hinit
      have howner := owner_of_stands hshows hstands
      refine ⟨fun path hp => hsome path ((hfound path).mpr hp), fun path hp hreg => ?_, ?_⟩
      · have hmem := mem_map_of_mem (f := M.owner) (mem_filter.mpr ⟨(hfound path).mpr hp, hreg⟩)
        rw [howner] at hmem
        obtain ⟨f, -, hf⟩ := mem_map.mp hmem
        rw [← hf]
        rfl
      · refine hfilter.symm.trans (Perm.trans (.of_eq ?_) hperm)
        simpa [filterMap_map] using congrArg (filterMap id) howner
    · intro hM
      refine ⟨new, _, rfl, hfilter.trans hM.perm, stands_of_owner hshows fun path hp => ?_⟩
      obtain ⟨hp, hreg⟩ := mem_filter.mp hp
      exact ⟨hreg, hM.owned path ((hfound path).mp hp) hreg⟩

def vga : PciFunction := ⟨"0000:01:00.0".toList, 0x030000, 0x10DE, 0x2684⟩

/-- One display controller, and no directory `/dev/dri`. -/
def headlessFiles : FileSystem where
  dri := none
  pci := some [⟨vga.name, .dir⟩]
  read := fun path =>
    if path = pciFile vga.name "device" then some (hexText 4 vga.device.toNat)
    else if path = pciFile vga.name "class" then some (hexText 6 vga.classCode) else none

def headless : Machine headlessFiles where
  functions := [vga]
  owner := fun _ => none
  distinct := by decide
  listed := by
    rintro e he -
    obtain rfl := List.mem_singleton.mp he
    exact ⟨vga, List.mem_singleton_self _, rfl⟩
  function_files := by
    intro f hf
    obtain rfl := List.mem_singleton.mp hf
    exact ⟨⟨_, List.mem_singleton_self _, rfl⟩, by decide, by decide⟩
  card_files := nofun

/-- The machine has a GPU and the registry is empty. -/
theorem headless_gpu_missed :
    headless.displays = [vga] ∧ init headlessFiles = some [] ∧ ¬ headless.Right := by
  have hempty : init headlessFiles = some [] := by
    rw [init_eq headless, enumerateDrmDevices, findDrmDevices, show cardNodes headlessFiles = [] from rfl,
      mergeSort_nil]
    rfl
  refine ⟨by decide, hempty, fun ⟨gpus, functions, hinit, hperm, hstands⟩ => ?_⟩
  cases hempty.symm.trans hinit
  cases hstands
  exact nomatch hperm.length_eq

end Mvgal.Runtime.Devices
