import Mvgal.Lib.KeyMap
import Mvgal.Lib.Run

/-! The capability model of the runtime (`capability_model.rs`).

The unified capabilities are accumulated over the list of GPUs. The maps of APIs are not
what their names say: the union keeps the version that comes last, and the intersection
the APIs of the first GPU, since a GPU that lacks one removes nothing.

A hash map that is iterated over is an `AList`, entries with distinct keys in some order;
one that is filled is a `KeyMap`. `unified_correct_iff` says when the result is that of the
GPUs: as long as all of them have the same APIs in the same versions. -/
namespace Mvgal.Runtime.Capabilities
open List

inductive ApiType where
  | vulkan
  | openGL
  | openCL
  | cuda
  | sycl
  | direct3D
  | metal
  | webGPU
deriving DecidableEq, Repr

structure ApiVersion where
  major : UInt32
  minor : UInt32
  patch : UInt32
deriving DecidableEq, Repr

def ApiVersion.toHex (v : ApiVersion) : UInt32 :=
  ((v.major &&& 0x3FF) <<< 22) ||| ((v.minor &&& 0x3FF) <<< 12) ||| (v.patch &&& 0xFFF)

inductive GpuFeature where
  | graphics
  | compute
  | rayTracing
  | ai
  | display
  | videoEncode
  | videoDecode
  | p2pDma
  | uva
  | timelineSemaphores
  | dmaBuf
  | numaAware
  | multiQueue
  | eccMemory
deriving DecidableEq, Repr

/-- `GpuCapabilities`, with the fields that are read. -/
structure GpuCapabilities where
  vramTotal : UInt64
  vramFree : UInt64
  vramBandwidthMbps : UInt32
  computeUnits : UInt32
  numaNode : Int32
  apiVersions : AList fun _ : ApiType => ApiVersion
  features : Finset GpuFeature
  isDisplayConnected : Bool

namespace GpuCapabilities

/-- `GpuCapabilities::new`; the vendor is not read. -/
def new : GpuCapabilities := ⟨0, 0, 0, 0, -1, ∅, ∅, false⟩

def apiVersion (g : GpuCapabilities) (api : ApiType) : Option ApiVersion := g.apiVersions.lookup api

end GpuCapabilities

inductive CapabilityTier where
  | full
  | computeOnly
  | mixed
deriving DecidableEq, Repr

/-- The numbers and flags of `UnifiedCapabilities` that the first loop aggregates. -/
@[ext] structure Numbers where
  totalVram : UInt64
  freeVram : UInt64
  totalBandwidthMbps : UInt64
  totalComputeUnits : UInt32
  numaAware : Bool
  hasDisplayGpu : Bool

/-- The maps and sets of `UnifiedCapabilities` that the second loop accumulates. -/
@[ext] structure Sets where
  commonApiVersions : KeyMap ApiType ApiVersion
  unionApiVersions : KeyMap ApiType ApiVersion
  commonFeatures : Finset GpuFeature
  unionFeatures : Finset GpuFeature

structure UnifiedCapabilities extends Numbers, Sets where
  tier : CapabilityTier
  gpuCount : Nat
  p2pSupported : Bool

def Numbers.add (u : Numbers) (gpu : GpuCapabilities) : Numbers where
  totalVram := u.totalVram + gpu.vramTotal
  freeVram := u.freeVram + gpu.vramFree
  totalBandwidthMbps := u.totalBandwidthMbps + gpu.vramBandwidthMbps.toUInt64
  totalComputeUnits := u.totalComputeUnits + gpu.computeUnits
  hasDisplayGpu := if gpu.isDisplayConnected then true else u.hasDisplayGpu
  numaAware := if 0 ≤ gpu.numaNode then true else u.numaAware

namespace Sets

/-- The body of the loop over the APIs of a GPU. -/
def addApi (firstGpu : Bool) (u : Sets) (e : (_ : ApiType) × ApiVersion) : Sets :=
  { u with
    unionApiVersions := u.unionApiVersions.insert e.1 e.2
    commonApiVersions :=
      if firstGpu then u.commonApiVersions.insert e.1 e.2
      else
        match u.commonApiVersions.lookup e.1 with
        | some existing =>
          if e.2.toHex < existing.toHex then u.commonApiVersions.insert e.1 e.2 else u.commonApiVersions
        | none => u.commonApiVersions }

/-- The features of a GPU. -/
def addFeatures (firstGpu : Bool) (u : Sets) (features : Finset GpuFeature) : Sets :=
  { u with
    unionFeatures := u.unionFeatures ∪ features
    commonFeatures :=
      if firstGpu then u.commonFeatures ∪ features else u.commonFeatures.filter fun f => f ∈ features }

def addGpu (firstGpu : Bool) (u : Sets) (gpu : GpuCapabilities) : Sets :=
  (gpu.apiVersions.entries.foldl (addApi firstGpu) u).addFeatures firstGpu gpu.features

/-- The loop over the GPUs; `first_gpu` is true for the head. -/
def ofGpus : List GpuCapabilities → Sets
  | [] => ⟨∅, ∅, ∅, ∅⟩
  | gpu :: rest => rest.foldl (addGpu false) (addGpu true ⟨∅, ∅, ∅, ∅⟩ gpu)

def tier (u : Sets) (hasDisplayGpu : Bool) : CapabilityTier :=
  if u.commonApiVersions.keys.card = 0 then
    if hasDisplayGpu then .mixed else .computeOnly
  else if u.commonApiVersions.keys.card < u.unionApiVersions.keys.card then
    if .vulkan ∈ u.commonApiVersions then .full else .computeOnly
  else .full

end Sets

def recomputeUnified (gpus : List GpuCapabilities) : Option UnifiedCapabilities :=
  if gpus.isEmpty then none
  else
    let numbers := gpus.foldl Numbers.add ⟨0, 0, 0, 0, false, false⟩
    let sets := Sets.ofGpus gpus
    some { numbers, sets with
      tier := sets.tier numbers.hasDisplayGpu
      gpuCount := gpus.length
      p2pSupported := gpus.any fun gpu => .p2pDma ∈ gpu.features }

/-- `CapabilityModel`; its normalization rules play no role here. -/
structure CapabilityModel where
  gpuCapabilities : List GpuCapabilities
  unifiedCapabilities : Option UnifiedCapabilities

namespace CapabilityModel

def new : CapabilityModel := ⟨[], none⟩

def updated (gpus : List GpuCapabilities) (index : Nat) (capabilities : GpuCapabilities) : List GpuCapabilities :=
  let gpus :=
    if gpus.length ≤ index then gpus ++ List.replicate (index + 1 - gpus.length) GpuCapabilities.new else gpus
  gpus.set index capabilities

def removed (gpus : List GpuCapabilities) (index : Nat) : List GpuCapabilities :=
  if index < gpus.length then gpus.eraseIdx index else gpus

def updateGpu (m : CapabilityModel) (index : Nat) (capabilities : GpuCapabilities) : CapabilityModel :=
  let gpus := updated m.gpuCapabilities index capabilities
  ⟨gpus, recomputeUnified gpus⟩

def removeGpu (m : CapabilityModel) (index : Nat) : CapabilityModel :=
  let gpus := removed m.gpuCapabilities index
  ⟨gpus, recomputeUnified gpus⟩

end CapabilityModel

/-! ### What it should be -/

def ApiVersion.Le (a b : ApiVersion) : Prop :=
  a.major < b.major ∨ a.major = b.major ∧ (a.minor < b.minor ∨ a.minor = b.minor ∧ a.patch ≤ b.patch)

/-- The unified capabilities are those of the GPUs. -/
structure Describes (gpus : List GpuCapabilities) (u : UnifiedCapabilities) : Prop where
  commonApis : ∀ api v, u.commonApiVersions.lookup api = some v ↔
    (∃ g ∈ gpus, g.apiVersion api = some v) ∧ ∀ g ∈ gpus, ∃ v', g.apiVersion api = some v' ∧ v.Le v'
  unionApis : ∀ api v, u.unionApiVersions.lookup api = some v ↔
    (∃ g ∈ gpus, g.apiVersion api = some v) ∧ ∀ g ∈ gpus, ∀ v', g.apiVersion api = some v' → v'.Le v
  commonFeatures : ∀ f, f ∈ u.commonFeatures ↔ ∀ g ∈ gpus, f ∈ g.features
  unionFeatures : ∀ f, f ∈ u.unionFeatures ↔ ∃ g ∈ gpus, f ∈ g.features

/-- What is stored is that of the list, and of any order of it. -/
structure Correct (m : CapabilityModel) : Prop where
  none_iff : m.unifiedCapabilities = none ↔ m.gpuCapabilities = []
  describes : ∀ u, m.unifiedCapabilities = some u → Describes m.gpuCapabilities u
  unordered : ∀ gpus, gpus.Perm m.gpuCapabilities → recomputeUnified gpus = m.unifiedCapabilities

inductive Call where
  | updateGpu (index : Nat) (capabilities : GpuCapabilities)
  | removeGpu (index : Nat)

def Call.gpus (m : CapabilityModel) : Call → List GpuCapabilities
  | .updateGpu index capabilities => CapabilityModel.updated m.gpuCapabilities index capabilities
  | .removeGpu index => CapabilityModel.removed m.gpuCapabilities index

def call (m : CapabilityModel) : Call → Option CapabilityModel
  | .updateGpu index capabilities => some (m.updateGpu index capabilities)
  | .removeGpu index => some (m.removeGpu index)

/-- All GPUs have the same APIs in the same versions. -/
def Uniform (gpus : List GpuCapabilities) : Prop :=
  ∀ g ∈ gpus, ∀ g' ∈ gpus, ∀ api, g.apiVersion api = g'.apiVersion api

/-! ### The maps, one API at a time -/

variable {gpus rest : List GpuCapabilities} {g : GpuCapabilities} {u : Sets} {api : ApiType}

/-- What the intersection keeps of a version it has and one that comes. -/
def lower (existing : Option ApiVersion) (v : ApiVersion) : Option ApiVersion :=
  existing.map fun e => if v.toHex < e.toHex then v else e

theorem lookup_insert_ite (m : KeyMap ApiType ApiVersion) (k j : ApiType) (v : ApiVersion) :
    (m.insert k v).lookup j = if j = k then some v else m.lookup j := by
  by_cases hj : j = k
  · subst hj
    simp
  · simp [hj]

theorem union_addGpu (firstGpu : Bool) (u : Sets) (g : GpuCapabilities) (api : ApiType) :
    (u.addGpu firstGpu g).unionApiVersions.lookup api =
      (g.apiVersion api).elim (u.unionApiVersions.lookup api) some :=
  KeyMap.lookup_foldl (fun u api => u.unionApiVersions.lookup api) (F := fun _ v => some v)
    (fun u e j => lookup_insert_ite u.unionApiVersions e.1 j e.2) g.apiVersions.nodupKeys u api

variable (u : Sets)

theorem common_addGpu_true (g : GpuCapabilities) (api : ApiType) :
    (u.addGpu true g).commonApiVersions.lookup api =
      (g.apiVersion api).elim (u.commonApiVersions.lookup api) some :=
  KeyMap.lookup_foldl (fun u api => u.commonApiVersions.lookup api) (F := fun _ v => some v)
    (fun u e j => lookup_insert_ite u.commonApiVersions e.1 j e.2) g.apiVersions.nodupKeys u api

theorem common_addApi_false (e : (_ : ApiType) × ApiVersion) (j : ApiType) :
    (u.addApi false e).commonApiVersions.lookup j =
      if j = e.1 then lower (u.commonApiVersions.lookup j) e.2 else u.commonApiVersions.lookup j := by
  by_cases hj : j = e.1
  · rw [hj, if_pos rfl]
    cases hl : u.commonApiVersions.lookup e.1 with
    | none => simp [Sets.addApi, hl, lower]
    | some existing => by_cases hlt : e.2.toHex < existing.toHex <;> simp [Sets.addApi, hl, lower, hlt]
  · rw [if_neg hj]
    cases hl : u.commonApiVersions.lookup e.1 with
    | none => simp [Sets.addApi, hl]
    | some existing => by_cases hlt : e.2.toHex < existing.toHex <;> simp [Sets.addApi, hl, hlt, hj]

theorem common_addGpu_false (g : GpuCapabilities) (api : ApiType) :
    (u.addGpu false g).commonApiVersions.lookup api =
      (g.apiVersion api).elim (u.commonApiVersions.lookup api) (lower (u.commonApiVersions.lookup api)) :=
  KeyMap.lookup_foldl (fun u api => u.commonApiVersions.lookup api) common_addApi_false
    g.apiVersions.nodupKeys u api

theorem foldl_addApi_features (firstGpu : Bool) (u : Sets) (entries : List ((_ : ApiType) × ApiVersion)) :
    (entries.foldl (Sets.addApi firstGpu) u).commonFeatures = u.commonFeatures ∧
      (entries.foldl (Sets.addApi firstGpu) u).unionFeatures = u.unionFeatures := by
  induction entries generalizing u with
  | nil => exact ⟨rfl, rfl⟩
  | cons e rest ih => exact ih (u.addApi firstGpu e)

theorem mem_union_addGpu (firstGpu : Bool) (u : Sets) (g : GpuCapabilities) (f : GpuFeature) :
    f ∈ (u.addGpu firstGpu g).unionFeatures ↔ f ∈ u.unionFeatures ∨ f ∈ g.features := by
  simp [Sets.addGpu, Sets.addFeatures, foldl_addApi_features]

theorem mem_common_addGpu_true (g : GpuCapabilities) (f : GpuFeature) :
    f ∈ (u.addGpu true g).commonFeatures ↔ f ∈ u.commonFeatures ∨ f ∈ g.features := by
  simp [Sets.addGpu, Sets.addFeatures, foldl_addApi_features]

theorem mem_common_addGpu_false (g : GpuCapabilities) (f : GpuFeature) :
    f ∈ (u.addGpu false g).commonFeatures ↔ f ∈ u.commonFeatures ∧ f ∈ g.features := by
  simp [Sets.addGpu, Sets.addFeatures, foldl_addApi_features]

theorem mem_foldl_union (gpus : List GpuCapabilities) (f : GpuFeature) :
    f ∈ (gpus.foldl (Sets.addGpu false) u).unionFeatures ↔ f ∈ u.unionFeatures ∨ ∃ g ∈ gpus, f ∈ g.features := by
  induction gpus generalizing u with
  | nil => simp
  | cons g rest ih => simp [ih, mem_union_addGpu, or_assoc]

theorem mem_foldl_common (gpus : List GpuCapabilities) (f : GpuFeature) :
    f ∈ (gpus.foldl (Sets.addGpu false) u).commonFeatures ↔ f ∈ u.commonFeatures ∧ ∀ g ∈ gpus, f ∈ g.features := by
  induction gpus generalizing u with
  | nil => simp
  | cons g rest ih => simp [ih, mem_common_addGpu_false, and_assoc]

/-- The union of the features is right, for any list. -/
theorem mem_unionFeatures_iff (gpus : List GpuCapabilities) (f : GpuFeature) :
    f ∈ (Sets.ofGpus gpus).unionFeatures ↔ ∃ g ∈ gpus, f ∈ g.features := by
  cases gpus with
  | nil => simp [Sets.ofGpus]
  | cons g rest => simp [Sets.ofGpus, mem_foldl_union, mem_union_addGpu]

theorem mem_commonFeatures_iff (hne : gpus ≠ []) (f : GpuFeature) :
    f ∈ (Sets.ofGpus gpus).commonFeatures ↔ ∀ g ∈ gpus, f ∈ g.features := by
  cases gpus with
  | nil => exact absurd rfl hne
  | cons g rest => simp [Sets.ofGpus, mem_foldl_common, mem_common_addGpu_true]

/-! ### What the loop does to the APIs -/

theorem lower_self (v : ApiVersion) : lower (some v) v = some v := by
  simp [lower]

theorem isSome_lower (existing : Option ApiVersion) (v : ApiVersion) :
    (lower existing v).isSome = existing.isSome := by
  cases existing <;> rfl

/-- The intersection has the APIs of the first GPU, whatever comes after it. -/
theorem isSome_common (g : GpuCapabilities) (rest : List GpuCapabilities) (api : ApiType) :
    ((Sets.ofGpus (g :: rest)).commonApiVersions.lookup api).isSome = (g.apiVersion api).isSome := by
  have hfold (u : Sets) : ((rest.foldl (Sets.addGpu false) u).commonApiVersions.lookup api).isSome =
      (u.commonApiVersions.lookup api).isSome := by
    induction rest generalizing u with
    | nil => rfl
    | cons g rest ih =>
      rw [foldl_cons, ih, common_addGpu_false]
      cases g.apiVersion api with
      | none => rfl
      | some v => exact isSome_lower _ v
  rw [Sets.ofGpus, hfold, common_addGpu_true]
  cases g.apiVersion api <;> rfl

theorem union_last (rest : List GpuCapabilities) {v : ApiVersion} (hv : g.apiVersion api = some v) :
    (Sets.ofGpus (rest ++ [g])).unionApiVersions.lookup api = some v := by
  cases rest with
  | nil =>
    show ((Sets.addGpu true _ g).unionApiVersions.lookup api) = _
    rw [union_addGpu, hv]
    rfl
  | cons first rest =>
    rw [cons_append, Sets.ofGpus, foldl_append, foldl_cons, foldl_nil, union_addGpu, hv]
    rfl

/-- Where all have the same version of an API, or none has it, both maps have that. -/
theorem lookup_uniform (h : ∀ g' ∈ rest, g'.apiVersion api = g.apiVersion api) :
    (Sets.ofGpus (g :: rest)).commonApiVersions.lookup api = g.apiVersion api ∧
      (Sets.ofGpus (g :: rest)).unionApiVersions.lookup api = g.apiVersion api := by
  have hfold (u : Sets) (hc : u.commonApiVersions.lookup api = g.apiVersion api)
      (hu : u.unionApiVersions.lookup api = g.apiVersion api) :
      (rest.foldl (Sets.addGpu false) u).commonApiVersions.lookup api = g.apiVersion api ∧
        (rest.foldl (Sets.addGpu false) u).unionApiVersions.lookup api = g.apiVersion api := by
    induction rest generalizing u with
    | nil => exact ⟨hc, hu⟩
    | cons g' rest ih =>
      have hg' := h g' mem_cons_self
      refine ih (fun g'' hg'' => h g'' (mem_cons_of_mem _ hg'')) (u.addGpu false g') ?_ ?_
      · rw [common_addGpu_false, hg', hc]
        cases g.apiVersion api with
        | none => rfl
        | some v => exact lower_self v
      · rw [union_addGpu, hg', hu]
        cases g.apiVersion api <;> rfl
  refine hfold _ ?_ ?_
  · rw [common_addGpu_true]
    cases g.apiVersion api <;> rfl
  · rw [union_addGpu]
    cases g.apiVersion api <;> rfl

theorem uniform_cons (h : Uniform (g :: rest)) (api : ApiType) :
    ∀ g' ∈ rest, g'.apiVersion api = g.apiVersion api :=
  fun g' hg' => h g' (mem_cons_of_mem _ hg') g mem_cons_self api

theorem add_right_comm (u : Numbers) (a b : GpuCapabilities) : (u.add a).add b = (u.add b).add a := by
  ext <;> simp only [Numbers.add]
  -- The four sums, then the two flags.
  · ac_rfl
  · ac_rfl
  · ac_rfl
  · ac_rfl
  · split <;> split <;> rfl
  · split <;> split <;> rfl

variable {gpus gpus' : List GpuCapabilities}

theorem numbers_perm (h : gpus.Perm gpus') (u : Numbers) :
    gpus.foldl Numbers.add u = gpus'.foldl Numbers.add u :=
  have : RightCommutative Numbers.add := ⟨add_right_comm⟩
  h.foldl_eq u

theorem sets_perm (h : gpus.Perm gpus') (hu : Uniform gpus) :
    Sets.ofGpus gpus = Sets.ofGpus gpus' := by
  cases gpus with
  | nil => rw [h.nil_eq]
  | cons g rest =>
    cases gpus' with
    | nil => exact nomatch h.eq_nil
    | cons g' rest' =>
      have hu' : Uniform (g' :: rest') := fun a ha b hb => hu a (h.mem_iff.mpr ha) b (h.mem_iff.mpr hb)
      have hsame (api : ApiType) : g.apiVersion api = g'.apiVersion api :=
        hu g mem_cons_self g' (h.mem_iff.mpr mem_cons_self) api
      have hlookup (api : ApiType) := lookup_uniform (uniform_cons hu api)
      have hlookup' (api : ApiType) := lookup_uniform (uniform_cons hu' api)
      apply Sets.ext
      · exact Finmap.ext_lookup fun api => by rw [(hlookup api).1, (hlookup' api).1, hsame]
      · exact Finmap.ext_lookup fun api => by rw [(hlookup api).2, (hlookup' api).2, hsame]
      · ext f
        rw [mem_commonFeatures_iff (by simp), mem_commonFeatures_iff (by simp)]
        exact forall_congr' fun a => imp_congr_left h.mem_iff
      · ext f
        rw [mem_unionFeatures_iff, mem_unionFeatures_iff]
        exact exists_congr fun a => and_congr_left' h.mem_iff

theorem recompute_perm (h : gpus.Perm gpus') (hu : Uniform gpus) :
    recomputeUnified gpus = recomputeUnified gpus' := by
  have hany : (gpus.any fun g => decide (.p2pDma ∈ g.features)) = gpus'.any fun g => decide (.p2pDma ∈ g.features) := by
    rw [Bool.eq_iff_iff, any_eq_true, any_eq_true]
    exact exists_congr fun a => and_congr_left' h.mem_iff
  have hempty : gpus.isEmpty = gpus'.isEmpty := by
    rw [Bool.eq_iff_iff, isEmpty_iff_length_eq_zero, isEmpty_iff_length_eq_zero, h.length_eq]
  simp only [recomputeUnified, hempty, numbers_perm h, sets_perm h hu, h.length_eq, hany]

theorem sets_recompute (hne : gpus ≠ []) : ∃ u, recomputeUnified gpus = some u ∧ u.toSets = Sets.ofGpus gpus := by
  rw [recomputeUnified, if_neg (by simpa using hne)]
  exact ⟨_, rfl, rfl⟩

theorem ofGpus_eq (hne : gpus ≠ []) (hne' : gpus' ≠ [])
    (h : recomputeUnified gpus = recomputeUnified gpus') : Sets.ofGpus gpus = Sets.ofGpus gpus' := by
  obtain ⟨u, hu, hsets⟩ := sets_recompute hne
  obtain ⟨u', hu', hsets'⟩ := sets_recompute hne'
  cases hu.symm.trans (h.trans hu')
  exact hsets.symm.trans hsets'

/-- If no order matters, the GPUs have the same APIs: each of them can come first and
last. -/
theorem uniform_of_unordered (h : ∀ gpus', gpus'.Perm gpus → recomputeUnified gpus' = recomputeUnified gpus) :
    Uniform gpus := by
  intro g hg g' hg' api
  have hne : gpus ≠ [] := ne_nil_of_mem hg
  have hfirst (a : GpuCapabilities) (ha : a ∈ gpus) :
      ((Sets.ofGpus gpus).commonApiVersions.lookup api).isSome = (a.apiVersion api).isSome := by
    obtain ⟨pre, post, rfl⟩ := append_of_mem ha
    rw [← ofGpus_eq (by simp) hne (h (a :: (pre ++ post)) perm_middle.symm), isSome_common]
  have hlast (a : GpuCapabilities) (ha : a ∈ gpus) (v : ApiVersion) (hv : a.apiVersion api = some v) :
      (Sets.ofGpus gpus).unionApiVersions.lookup api = some v := by
    obtain ⟨pre, post, rfl⟩ := append_of_mem ha
    have hperm : ((pre ++ post) ++ [a]).Perm (pre ++ a :: post) :=
      (perm_append_singleton a _).trans perm_middle.symm
    rw [← ofGpus_eq (by simp) hne (h _ hperm), union_last _ hv]
  cases hv : g.apiVersion api with
  | none =>
    have hsome := (hfirst g hg).symm.trans (hfirst g' hg')
    rw [hv] at hsome
    exact (Option.isNone_iff_eq_none.mp (by rw [← Option.not_isSome, ← hsome]; rfl)).symm
  | some v =>
    have hsome := (hfirst g hg).symm.trans (hfirst g' hg')
    rw [hv] at hsome
    obtain ⟨v', hv'⟩ := Option.isSome_iff_exists.mp hsome.symm
    rw [hv']
    exact (hlast g hg v hv).symm.trans (hlast g' hg' v' hv')

theorem ApiVersion.Le.refl (v : ApiVersion) : v.Le v := .inr ⟨rfl, .inr ⟨rfl, UInt32.le_refl _⟩⟩

/-- On a uniform list both maps are what they should be. -/
theorem describes_uniform (hne : gpus ≠ []) (hu : Uniform gpus) {u : UnifiedCapabilities}
    (hsets : u.toSets = Sets.ofGpus gpus) : Describes gpus u := by
  cases gpus with
  | nil => exact absurd rfl hne
  | cons g rest =>
    have hlookup (api : ApiType) := lookup_uniform (uniform_cons hu api)
    have hsame (api : ApiType) (g' : GpuCapabilities) (hg' : g' ∈ g :: rest) : g'.apiVersion api = g.apiVersion api :=
      hu g' hg' g mem_cons_self api
    refine ⟨fun api v => ?_, fun api v => ?_, fun f => ?_, fun f => ?_⟩
    · rw [hsets, (hlookup api).1]
      constructor
      · intro hv
        exact ⟨⟨g, mem_cons_self, hv⟩, fun g' hg' => ⟨v, (hsame api g' hg').trans hv, .refl v⟩⟩
      · rintro ⟨⟨g', hg', hv⟩, -⟩
        exact (hsame api g' hg').symm.trans hv
    · rw [hsets, (hlookup api).2]
      constructor
      · intro hv
        refine ⟨⟨g, mem_cons_self, hv⟩, fun g' hg' v' hv' => ?_⟩
        cases hv.symm.trans ((hsame api g' hg').symm.trans hv')
        exact .refl v
      · rintro ⟨⟨g', hg', hv⟩, -⟩
        exact (hsame api g' hg').symm.trans hv
    · rw [hsets, mem_commonFeatures_iff hne]
    · rw [hsets, mem_unionFeatures_iff]

theorem recompute_eq_none_iff (gpus : List GpuCapabilities) : recomputeUnified gpus = none ↔ gpus = [] := by
  simp [recomputeUnified]

theorem correct_recompute_iff (gpus : List GpuCapabilities) : Correct ⟨gpus, recomputeUnified gpus⟩ ↔ Uniform gpus := by
  constructor
  · exact fun h => uniform_of_unordered h.unordered
  · intro hu
    refine ⟨recompute_eq_none_iff gpus, fun u hu' => ?_, fun gpus' hperm => (recompute_perm hperm.symm hu).symm⟩
    have hne : gpus ≠ [] := by
      rintro rfl
      exact absurd hu' (by simp [recomputeUnified])
    obtain ⟨u', hu'', hsets⟩ := sets_recompute hne
    cases hu'.symm.trans hu''
    exact describes_uniform hne hu hsets

theorem call_eq (m : CapabilityModel) (c : Call) : call m c = some ⟨c.gpus m, recomputeUnified (c.gpus m)⟩ := by
  cases c <;> rfl

/-- **The unified capabilities.** Along any sequence of updates and removals, what is stored
is the intersection and the union of the GPUs' capabilities, in any order of the GPUs,
exactly when every call leaves GPUs that all have the same APIs in the same versions. -/
theorem unified_correct_iff (calls : List Call) :
    Run.Along call Correct .new calls ↔ Run.Admitted call (fun m c => Uniform (c.gpus m)) .new calls := by
  refine Run.along_iff_of_exact (fun m c m' _ h => ?_) ((correct_recompute_iff []).mpr nofun) calls
  rw [call_eq] at h
  cases h
  exact correct_recompute_iff _

def gpuWith (api : ApiType) (v : ApiVersion) : GpuCapabilities :=
  {GpuCapabilities.new with apiVersions := AList.singleton api v}

/-- A GPU without any API comes second, and the first one's stays in the intersection. -/
theorem missing_api_stays_common :
    ¬ Run.Along call Correct .new [.updateGpu 0 (gpuWith .vulkan ⟨1, 3, 0⟩), .updateGpu 1 .new] := by
  intro h
  have hcommon := ((h.final rfl).describes _ rfl).commonApis .vulkan ⟨1, 3, 0⟩
  obtain ⟨-, hall⟩ := hcommon.mp (by decide)
  obtain ⟨v, hv, -⟩ := hall .new (.tail _ (.head _))
  exact absurd hv nofun

/-- The older version came last, and is the one of the union. -/
example : ((Sets.ofGpus [gpuWith .vulkan ⟨1, 3, 0⟩, gpuWith .vulkan ⟨1, 2, 0⟩]).unionApiVersions.lookup .vulkan) =
    some ⟨1, 2, 0⟩ := by decide

/-- The packing drops the high bits of a major version, which then counts as the lower. -/
example : ((Sets.ofGpus [gpuWith .vulkan ⟨1, 0, 0⟩, gpuWith .vulkan ⟨1024, 0, 0⟩]).commonApiVersions.lookup .vulkan) =
    some ⟨1024, 0, 0⟩ := by decide

end Mvgal.Runtime.Capabilities
