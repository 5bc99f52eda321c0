import Mathlib.Data.List.Pairwise
import Mathlib.Tactic.SplitIfs

/-! Settings of a GPU across a rescan (`gpu_manager.c`).

A rescan enumerates the devices anew and then looks for each of them among the old ones, to take
over whether it is enabled and its health thresholds. Two descriptors are taken for the same GPU
if they have the same PCI address or one of their device nodes in common, and the first that is
taken for it wins. But nodes are numbered anew by every enumeration. `settings_kept_iff` says for
which two enumerations every GPU keeps its own settings. -/
namespace Mvgal.Daemon
open List

def maxGpus : Nat := 16

structure PciAddress where
  domain : UInt16
  bus : UInt8
  device : UInt8
  function : UInt8
deriving DecidableEq, Repr

def PciAddress.zero : PciAddress := ⟨0, 0, 0, 0⟩

/-- What identifies a GPU in `mvgal_gpu_descriptor_t`, and whether it is one of NVIDIA's. -/
structure GpuDescriptor where
  pci : PciAddress
  drmNode : String
  drmRenderNode : String
  nvidiaNode : String
  nvidia : Bool
deriving DecidableEq, Repr

/-- What sysfs says of the device behind a card. -/
structure CardDevice where
  pci : PciAddress
  vendorId : UInt16
  renderNode : String
deriving DecidableEq, Repr

/-- An entry `cardN` of `/sys/class/drm`: its device node, and the device if its link leads
somewhere. -/
structure DrmCard where
  node : String
  device : Option CardDevice
deriving DecidableEq, Repr

/-- The body of the loop of `scan_drm_devices_locked`. -/
def scanDrmCard (gpus : List GpuDescriptor) (card : DrmCard) : List GpuDescriptor :=
  if gpus.length < maxGpus then
    match card.device with
    | none => gpus
    | some d => gpus ++ [⟨d.pci, card.node, d.renderNode, "", d.vendorId = 0x10DE⟩]
  else gpus

def attachNode (node : String) : List GpuDescriptor → Option (List GpuDescriptor)
  | [] => none
  | gpu :: rest =>
    if gpu.nvidia = true ∧ gpu.nvidiaNode = "" then some ({gpu with nvidiaNode := node} :: rest)
    else (attachNode node rest).map (gpu :: ·)

/-- The body of the loop of `scan_nvidia_devices_locked`; a node too many is a GPU of its own. -/
def scanNvidiaNode (gpus : List GpuDescriptor) (node : String) : List GpuDescriptor :=
  if gpus.length < maxGpus then
    match attachNode node gpus with
    | some attached => attached
    | none => gpus ++ [⟨.zero, "", "", node, true⟩]
  else gpus

/-- The devices of the system, in the order of their directories. No two have one address. -/
structure Devices where
  cards : List DrmCard
  nvidiaNodes : List String
  distinct : ((cards.filterMap DrmCard.device).map CardDevice.pci).Pairwise fun p q => p = q → p = .zero

def placeholderGpu : GpuDescriptor := ⟨.zero, "", "", "", false⟩

def Devices.enumerate (d : Devices) : List GpuDescriptor :=
  let gpus := d.nvidiaNodes.foldl scanNvidiaNode (d.cards.foldl scanDrmCard [])
  if gpus.length = 0 then [placeholderGpu] else gpus

structure HealthThresholds where
  tempWarningCelsius : Float32
  tempCriticalCelsius : Float32
  utilizationWarning : Float32
  utilizationCritical : Float32
  memoryWarning : Float32
  memoryCritical : Float32

def defaultHealthThresholds : HealthThresholds := ⟨80, 95, 80, 95, 85, 95⟩

/-- What a rescan is to preserve of a GPU. -/
structure GpuSettings where
  enabled : Bool
  thresholds : HealthThresholds

def defaultGpuSettings : GpuSettings := ⟨true, defaultHealthThresholds⟩

/-- An entry of the tables of the GPU manager; its `id` is its position. -/
structure GpuEntry where
  gpu : GpuDescriptor
  settings : GpuSettings

/-- `normalize_node_path`, where `realpath` is the function of that name. The result always fits. -/
def normalizeNodePath (realpath : String → Option String) (path : String) : String := (realpath path).getD path

def nodeMatches (realpath : String → Option String) (stored query : String) : Bool :=
  if stored = "" then false
  else if stored = query then true
  else normalizeNodePath realpath stored = normalizeNodePath realpath query

def gpuIdentityMatches (realpath : String → Option String) (left right : GpuDescriptor) : Bool :=
  (left.pci = right.pci ∧ left.pci ≠ .zero) ||
    nodeMatches realpath left.drmNode right.drmNode ||
    nodeMatches realpath left.drmRenderNode right.drmRenderNode ||
    nodeMatches realpath left.nvidiaNode right.nvidiaNode

def restorePersistedState (realpath : String → Option String) (old : List GpuEntry) (gpu : GpuDescriptor) : GpuEntry :=
  match old.find? fun o => gpuIdentityMatches realpath gpu o.gpu with
  | some o => ⟨gpu, o.settings⟩
  | none => ⟨gpu, defaultGpuSettings⟩

def gpuRescan (realpath : String → Option String) (d : Devices) (old : List GpuEntry) : List GpuEntry :=
  d.enumerate.map (restorePersistedState realpath old)

/-- Every GPU has the settings that the GPU of its address had, and the defaults if there was
none. -/
def SettingsKept (old new : List GpuEntry) : Prop :=
  ∀ e ∈ new, e.gpu.pci ≠ .zero → (∀ o ∈ old, o.gpu.pci = e.gpu.pci → e.settings = o.settings) ∧
      ((∀ o ∈ old, o.gpu.pci ≠ e.gpu.pci) → e.settings = defaultGpuSettings)

/-- The first of the old GPUs that is taken for a new one has its address. -/
def FirstMatchRight (realpath : String → Option String) (before after : Devices) : Prop :=
  ∀ g ∈ after.enumerate, g.pci ≠ .zero → ∀ o,
    before.enumerate.find? (gpuIdentityMatches realpath g) = some o → o.pci = g.pci

/-- An address that is known occurs once. -/
def Distinct (addresses : List PciAddress) : Prop := addresses.Pairwise fun p q => p = q → p = .zero

def addresses (gpus : List GpuDescriptor) : List PciAddress := gpus.map GpuDescriptor.pci

/-- The scan of the cards leaves some of them out, at most. -/
theorem scanDrm_sublist (cards : List DrmCard) (gpus : List GpuDescriptor) :
    (addresses (cards.foldl scanDrmCard gpus)).Sublist
      (addresses gpus ++ (cards.filterMap DrmCard.device).map CardDevice.pci) := by
  induction cards generalizing gpus with
  | nil => simp
  | cons card rest ih =>
    refine (ih (scanDrmCard gpus card)).trans ?_
    unfold scanDrmCard
    cases hdevice : card.device with
    | none => simp [hdevice]
    | some d =>
      split_ifs
      · simp [addresses, hdevice]
      · simp [hdevice]

theorem attachNode_addresses {node : String} {gpus attached : List GpuDescriptor}
    (h : attachNode node gpus = some attached) : addresses attached = addresses gpus := by
  induction gpus generalizing attached with
  | nil => cases h
  | cons gpu rest ih =>
    unfold attachNode at h
    split_ifs at h with hfree
    · cases h
      rfl
    · obtain ⟨tail, htail, rfl⟩ := Option.map_eq_some_iff.mp h
      exact congrArg (gpu.pci :: ·) (ih htail)

theorem Distinct.scanNvidiaNode {gpus : List GpuDescriptor} (h : Distinct (addresses gpus)) (node : String) :
    Distinct (addresses (scanNvidiaNode gpus node)) := by
  unfold Daemon.scanNvidiaNode
  split_ifs
  · cases hattach : attachNode node gpus with
    | some attached =>
      rw [attachNode_addresses hattach]
      exact h
    | none =>
      have hlast : addresses (gpus ++ [⟨.zero, "", "", node, true⟩]) = addresses gpus ++ [.zero] := map_append
      rw [hlast]
      refine pairwise_append.mpr ⟨h, pairwise_singleton .., fun p _ q hq heq => ?_⟩
      rw [heq, mem_singleton.mp hq]
  · exact h

theorem enumerate_distinct (d : Devices) : Distinct (addresses d.enumerate) := by
  have hcards : Distinct (addresses (d.cards.foldl scanDrmCard [])) :=
    d.distinct.sublist (scanDrm_sublist d.cards [])
  have hnodes : Distinct (addresses (d.nvidiaNodes.foldl scanNvidiaNode (d.cards.foldl scanDrmCard []))) := by
    generalize d.cards.foldl scanDrmCard [] = gpus at hcards
    induction d.nvidiaNodes generalizing gpus with
    | nil => exact hcards
    | cons node rest ih => exact ih _ (hcards.scanNvidiaNode node)
  unfold Devices.enumerate
  dsimp only
  split_ifs
  · exact pairwise_singleton ..
  · exact hnodes

variable (realpath : String → Option String) {old : List GpuEntry} {before after : Devices}

/-- Two entries of one address that is known are one. -/
theorem entry_unique (hold : old.map GpuEntry.gpu = before.enumerate) {o o' : GpuEntry} (ho : o ∈ old)
    (ho' : o' ∈ old) (heq : o.gpu.pci = o'.gpu.pci) (hknown : o.gpu.pci ≠ .zero) : o = o' := by
  have hpairs : old.Pairwise fun x y => x.gpu.pci = y.gpu.pci → x.gpu.pci = .zero := by
    have hdistinct := enumerate_distinct before
    rw [← hold, addresses, map_map] at hdistinct
    exact pairwise_map.mp hdistinct
  have hsymm : Std.Symm fun x y : GpuEntry => x.gpu.pci = y.gpu.pci → x.gpu.pci = .zero :=
    ⟨fun _ _ hxy hyx => hyx.trans (hxy hyx.symm)⟩
  by_contra hne
  exact hknown (hpairs.forall ho ho' hne heq)

@[simp]
theorem restorePersistedState_gpu (old : List GpuEntry) (g : GpuDescriptor) :
    (restorePersistedState realpath old g).gpu = g := by
  unfold restorePersistedState
  cases old.find? fun o => gpuIdentityMatches realpath g o.gpu <;> rfl

theorem restorePersistedState_settings (old : List GpuEntry) (g : GpuDescriptor) :
    (restorePersistedState realpath old g).settings =
      ((old.find? fun o => gpuIdentityMatches realpath g o.gpu).map GpuEntry.settings).getD defaultGpuSettings := by
  unfold restorePersistedState
  cases old.find? fun o => gpuIdentityMatches realpath g o.gpu <;> rfl

theorem gpuIdentityMatches_of_pci {g o : GpuDescriptor} (h : o.pci = g.pci) (hknown : g.pci ≠ .zero) :
    gpuIdentityMatches realpath g o = true := by
  simp [gpuIdentityMatches, h, hknown]

theorem find_entry (hold : old.map GpuEntry.gpu = before.enumerate) (g : GpuDescriptor) :
    before.enumerate.find? (gpuIdentityMatches realpath g) =
      (old.find? fun o => gpuIdentityMatches realpath g o.gpu).map GpuEntry.gpu := by
  rw [← hold, find?_map]
  rfl

theorem kept_of_first_match (h : FirstMatchRight realpath before after)
    (hold : old.map GpuEntry.gpu = before.enumerate) : SettingsKept old (gpuRescan realpath after old) := by
  intro e he hknown
  obtain ⟨g, hg, rfl⟩ := mem_map.mp he
  rw [restorePersistedState_gpu] at hknown ⊢
  rw [restorePersistedState_settings]
  cases hfind : old.find? fun o => gpuIdentityMatches realpath g o.gpu with
  | some o =>
    have hpci : o.gpu.pci = g.pci := by
      refine h g hg hknown o.gpu ?_
      rw [find_entry realpath hold, hfind]
      rfl
    have ho : o ∈ old := mem_of_find?_eq_some hfind
    refine ⟨fun o' ho' heq => ?_, fun hnone => absurd hpci (hnone o ho)⟩
    obtain rfl := entry_unique hold ho ho' (hpci.trans heq.symm) (hpci ▸ hknown)
    rfl
  | none =>
    refine ⟨fun o ho heq => ?_, fun _ => rfl⟩
    exact absurd (gpuIdentityMatches_of_pci realpath heq hknown) (find?_eq_none.mp hfind o ho)

def disabled : GpuSettings := {defaultGpuSettings with enabled := false}

/-- The GPU that is taken for another one is switched off, and the other is switched off by the
rescan. -/
theorem first_match_of_kept
    (h : ∀ old : List GpuEntry, old.map GpuEntry.gpu = before.enumerate → SettingsKept old (gpuRescan realpath after old)) :
    FirstMatchRight realpath before after := by
  intro g hg hknown o hfind
  by_contra hother
  obtain ⟨hmatch, front, back, hlist, hfront⟩ := find?_eq_some_iff_append.mp hfind
  let entry : GpuDescriptor → GpuEntry := fun gpu => ⟨gpu, defaultGpuSettings⟩
  let old : List GpuEntry := front.map entry ++ ⟨o, disabled⟩ :: back.map entry
  have hold : old.map GpuEntry.gpu = before.enumerate := by
    simp [old, entry, hlist, Function.comp_def]
  have hfirst : old.find? (fun o => gpuIdentityMatches realpath g o.gpu) = some ⟨o, disabled⟩ := by
    refine find?_eq_some_iff_append.mpr ⟨hmatch, front.map entry, back.map entry, rfl, fun e he => ?_⟩
    obtain ⟨gpu, hgpu, rfl⟩ := mem_map.mp he
    exact hfront gpu hgpu
  have hsettings : (restorePersistedState realpath old g).settings = disabled := by
    rw [restorePersistedState_settings, hfirst]
    rfl
  have hkept := h old hold _ (mem_map_of_mem hg) (by simpa using hknown)
  rw [hsettings, restorePersistedState_gpu] at hkept
  have hdefault : disabled ≠ defaultGpuSettings := fun heq => nomatch congrArg GpuSettings.enabled heq
  by_cases hpresent : ∃ e ∈ old, e.gpu.pci = g.pci
  · obtain ⟨e, he, hpci⟩ := hpresent
    have hown : e.settings = defaultGpuSettings := by
      rcases mem_append.mp he with hin | hin
      · obtain ⟨gpu, _, rfl⟩ := mem_map.mp hin
        rfl
      · rcases mem_cons.mp hin with rfl | hin
        · exact absurd hpci hother
        · obtain ⟨gpu, _, rfl⟩ := mem_map.mp hin
          rfl
    exact hdefault ((hkept.1 e he hpci).trans hown)
  · exact hdefault (hkept.2 fun e he hpci => hpresent ⟨e, he, hpci⟩)

/-- **Settings across a rescan.** For any two enumerations of devices: whatever the settings were,
every GPU keeps those of its address and a new one gets the defaults, exactly if no GPU is taken
for one of another address first. -/
theorem settings_kept_iff (before after : Devices) :
    (∀ old : List GpuEntry, old.map GpuEntry.gpu = before.enumerate → SettingsKept old (gpuRescan realpath after old)) ↔
      FirstMatchRight realpath before after :=
  ⟨first_match_of_kept realpath, fun h _ hold => kept_of_first_match realpath h hold⟩

/-- Two cards that change their numbers; the first is switched off before the rescan. -/
theorem settings_swapped_by_rescan :
    let a : CardDevice := ⟨⟨0, 1, 0, 0⟩, 0x1002, "/dev/dri/renderD128"⟩
    let b : CardDevice := ⟨⟨0, 2, 0, 0⟩, 0x1002, "/dev/dri/renderD129"⟩
    let before : Devices := ⟨[⟨"/dev/dri/card0", a⟩, ⟨"/dev/dri/card1", b⟩], [], by decide⟩
    let after : Devices := ⟨[⟨"/dev/dri/card0", b⟩, ⟨"/dev/dri/card1", a⟩], [], by decide⟩
    let old := before.enumerate.mapIdx fun i g => GpuEntry.mk g (if i = 0 then disabled else defaultGpuSettings)
    old.map GpuEntry.gpu = before.enumerate ∧
      (gpuRescan (fun _ => none) after old).map (fun e => (e.gpu.pci.bus, e.settings.enabled)) =
        [(2, false), (1, false)] ∧
      ¬SettingsKept old (gpuRescan (fun _ => none) after old) := by
  refine ⟨rfl, by decide, fun hkept => ?_⟩
  have hsecond := (hkept _ mem_cons_self (by decide)).1 _ (mem_cons_of_mem _ mem_cons_self) rfl
  exact nomatch congrArg GpuSettings.enabled hsecond

end Mvgal.Daemon
