import Mvgal.Kernel.Gpu
import Mvgal.Lib.Scan

/-! The choice of a GPU for a workload (`mvgal_find_available_gpu` of `mvgal_scheduler.c`).

User space names a GPU by its `gpu_index`. The scheduler looks for the bit of the low
five bits of the PCI `devfn`, which GPUs on different buses share, and starts from a
utilisation of `INT_MAX`. `find_available_gpu_iff` says for which lists and masks
the choice is still the one that user space has asked for. -/
namespace Mvgal.Kernel.Select

def intMax : UInt32 := 0x7FFFFFFF

def scanned (mask : UInt32) (gpu : Gpu) : Bool :=
  inMask mask (gpu.devfn &&& 0x1F).toNat && (gpu.enabled && gpu.available)

/-- `mvgal_find_available_gpu`. The best utilisation is kept in an `int`, but only ever
values below `INT_MAX`. -/
def findAvailableGpu (gpus : List Gpu) (mask : UInt32) : Option Gpu :=
  (gpus.foldl (fun (best : UInt32 × Option Gpu) gpu =>
    if scanned mask gpu then
      if gpu.utilization < best.1 then (gpu.utilization, some gpu) else best
    else best) (intMax, none)).2

/-- Enabled, available, and its `gpu_index` is in the mask. -/
def Eligible (mask : UInt32) (gpu : Gpu) : Prop :=
  inMask mask gpu.gpuIndex.toNat = true ∧ gpu.enabled = true ∧ gpu.available = true

/-- An eligible GPU of least utilisation, or none if there is none. -/
def Chosen (gpus : List Gpu) (mask : UInt32) : Option Gpu → Prop
  | none => ∀ gpu ∈ gpus, ¬ Eligible mask gpu
  | some best => best ∈ gpus ∧ Eligible mask best ∧
    ∀ gpu ∈ gpus, Eligible mask gpu → best.utilization ≤ gpu.utilization

def Seen (mask : UInt32) (gpu : Gpu) : Prop := scanned mask gpu = true ∧ gpu.utilization < intMax

/-- For an eligible GPU that the loop does not see, it sees one that is used no more; and
to a GPU it sees that is not eligible, it prefers one that is. -/
structure MaskOk (gpus : List Gpu) (mask : UInt32) : Prop where
  unseen : ∀ gpu ∈ gpus, Eligible mask gpu → ¬ Seen mask gpu →
    ∃ other ∈ gpus, Seen mask other ∧ other.utilization ≤ gpu.utilization
  foreign : ∀ before gpu after, gpus = before ++ gpu :: after → Seen mask gpu → ¬ Eligible mask gpu →
    (∃ other ∈ gpus, Seen mask other ∧ Eligible mask other ∧ other.utilization < gpu.utilization) ∨
      ∃ other ∈ before, Seen mask other ∧ Eligible mask other ∧ other.utilization ≤ gpu.utilization

/-- What the loop compares: a GPU it passes over counts as one it cannot choose. -/
def level (mask : UInt32) (gpu : Gpu) : UInt32 := if scanned mask gpu then gpu.utilization else intMax

def less (x y : UInt32) : Bool := x < y

theorem less_comparison : Scan.Comparison less :=
  .ofKey (fun x => 2 ^ 32 - x.toNat) fun x y => by
    have hx := x.toNat_lt
    rw [less, decide_eq_true_eq, UInt32.lt_iff_toNat_lt]
    omega

variable {mask : UInt32}

theorem less_level_iff {gpu : Gpu} : less (level mask gpu) intMax = true ↔ Seen mask gpu := by
  unfold less level Seen
  cases hs : scanned mask gpu <;> simp

theorem Seen.level {gpu : Gpu} (h : Seen mask gpu) : level mask gpu = gpu.utilization :=
  if_pos h.1

theorem scan_eq (mask : UInt32) (gpus : List Gpu) (best : UInt32 × Option Gpu) (h : best.1 ≤ intMax) :
    gpus.foldl (fun (best : UInt32 × Option Gpu) gpu => if scanned mask gpu then
        if gpu.utilization < best.1 then (gpu.utilization, some gpu) else best
      else best) best = Scan.scan less (level mask) best gpus := by
  induction gpus generalizing best with
  | nil => rfl
  | cons gpu rest ih =>
    rw [List.foldl_cons, Scan.scan]
    cases hs : scanned mask gpu with
    | true =>
      have hlevel : level mask gpu = gpu.utilization := if_pos hs
      rw [hlevel, if_pos rfl]
      by_cases hlt : gpu.utilization < best.1
      · rw [if_pos hlt, if_pos (by simpa [less] using hlt)]
        exact ih _ (UInt32.le_trans (UInt32.le_of_lt hlt) h)
      · rw [if_neg hlt, if_neg (by simpa [less] using hlt)]
        exact ih _ h
    | false =>
      have hlevel : level mask gpu = intMax := if_neg (by simp [hs])
      rw [hlevel, if_neg (by simp), if_neg (by simpa [less] using h)]
      exact ih _ h

theorem findAvailableGpu_eq (gpus : List Gpu) (mask : UInt32) :
    findAvailableGpu gpus mask = (Scan.scan less (level mask) (intMax, none) gpus).2 := by
  rw [findAvailableGpu, scan_eq mask gpus _ (UInt32.le_refl _)]

theorem findAvailableGpu_none {gpus : List Gpu} (h : findAvailableGpu gpus mask = none) :
    ∀ gpu ∈ gpus, ¬ Seen mask gpu := by
  rw [findAvailableGpu_eq, Scan.scan_eq_none_iff less_comparison] at h
  intro gpu hmem hseen
  exact absurd (less_level_iff.mpr hseen) (by simp [h gpu hmem])

/-- The first GPU of least utilisation among those seen. -/
structure First (mask : UInt32) (before : List Gpu) (best : Gpu) (after : List Gpu) : Prop where
  seen : Seen mask best
  before : ∀ gpu ∈ before, Seen mask gpu → best.utilization < gpu.utilization
  after : ∀ gpu ∈ after, Seen mask gpu → best.utilization ≤ gpu.utilization

theorem findAvailableGpu_some {gpus : List Gpu} {best : Gpu}
    (h : findAvailableGpu gpus mask = some best) :
    ∃ before after, gpus = before ++ best :: after ∧ First mask before best after := by
  rw [findAvailableGpu_eq, Scan.scan_eq_some_iff less_comparison] at h
  obtain ⟨before, after, hgpus, habove, hbefore, hafter⟩ := h
  have hseen := less_level_iff.mp habove
  refine ⟨before, after, hgpus, hseen, fun gpu hmem hs => ?_, fun gpu hmem hs => ?_⟩
  · have := hbefore gpu hmem (less_level_iff.mpr hs)
    rw [hs.level, hseen.level] at this
    exact of_decide_eq_true this
  · have := hafter gpu hmem
    rw [hs.level, hseen.level] at this
    exact UInt32.not_lt.mp (of_decide_eq_false this)

theorem First.least {before after : List Gpu} {best gpu : Gpu} (h : First mask before best after)
    (hmem : gpu ∈ before ++ best :: after) (hs : Seen mask gpu) : best.utilization ≤ gpu.utilization := by
  obtain hmem | hmem := List.mem_append.mp hmem
  · exact UInt32.le_of_lt (h.before gpu hmem hs)
  · obtain rfl | hmem := List.mem_cons.mp hmem
    · exact UInt32.le_refl _
    · exact h.after gpu hmem hs

theorem First.chosen_iff {before after : List Gpu} {best : Gpu} (h : First mask before best after) :
    Chosen (before ++ best :: after) mask (some best) ↔ MaskOk (before ++ best :: after) mask := by
  have hbest : best ∈ before ++ best :: after := by simp
  constructor
  · rintro ⟨-, helig, hleast⟩
    refine ⟨fun gpu hmem hgpu _ => ⟨best, hbest, h.seen, hleast gpu hmem hgpu⟩,
      fun before' gpu after' hsplit hs hnot => ?_⟩
    -- A foreign GPU is not the best one, so it comes after it or is used more.
    by_cases hlt : best.utilization < gpu.utilization
    · exact .inl ⟨best, hbest, h.seen, helig, hlt⟩
    · refine .inr ⟨best, ?_, h.seen, helig, h.least (hsplit ▸ by simp) hs⟩
      obtain ⟨mid, hmid, hrest⟩ | ⟨mid, hmid, hrest⟩ := List.append_eq_append_iff.mp hsplit
      · cases mid with
        | nil =>
          cases hrest
          exact absurd helig hnot
        | cons x mid =>
          cases hrest
          simp [hmid]
      · cases mid with
        | nil =>
          cases hrest
          exact absurd helig hnot
        | cons x mid =>
          cases hrest
          exact absurd (h.before gpu (by simp [hmid]) hs) hlt
  · intro hok
    have helig : Eligible mask best := by
      by_contra hnot
      obtain ⟨other, hmem, hs, -, hlt⟩ | ⟨other, hmem, hs, -, hle⟩ := hok.foreign before best after rfl h.seen hnot
      · exact absurd (h.least hmem hs) (UInt32.not_le.mpr hlt)
      · exact absurd (h.before other hmem hs) (UInt32.not_lt.mpr hle)
    refine ⟨hbest, helig, fun gpu hmem hgpu => ?_⟩
    by_cases hs : Seen mask gpu
    · exact h.least hmem hs
    · obtain ⟨other, hother, hs, hle⟩ := hok.unseen gpu hmem hgpu hs
      exact UInt32.le_trans (h.least hother hs) hle

/-- **The choice of a GPU.** For any list and mask, the result is an eligible GPU of
least utilisation, or none if there is none, exactly when each eligible GPU that the
loop does not see is used no less than one it sees, and each GPU it sees that is not
eligible comes after an eligible one that is used no more, or is used more than one. -/
theorem find_available_gpu_iff (gpus : List Gpu) (mask : UInt32) :
    Chosen gpus mask (findAvailableGpu gpus mask) ↔ MaskOk gpus mask := by
  cases h : findAvailableGpu gpus mask with
  | none =>
    have hunseen := findAvailableGpu_none h
    constructor
    · intro hnone
      exact ⟨fun gpu hmem hgpu => absurd hgpu (hnone gpu hmem),
        fun before gpu after hsplit hs => absurd hs (hunseen gpu (hsplit ▸ by simp))⟩
    · intro hok gpu hmem hgpu
      obtain ⟨other, hother, hs, -⟩ := hok.unseen gpu hmem hgpu (hunseen gpu hmem)
      exact hunseen other hother hs
  | some best =>
    obtain ⟨before, after, rfl, hfirst⟩ := findAvailableGpu_some h
    exact hfirst.chosen_iff

/-- Two GPUs on different buses have the same `devfn`. The mask of the first finds the
second, which is used less, and the mask of the second finds nothing. -/
theorem mask_of_devfn_finds_other :
    let gpus : List Gpu := [⟨0, 0, true, true, 50, 0, none⟩, ⟨1, 0, true, true, 10, 1, none⟩]
    (findAvailableGpu gpus 1 = some ⟨1, 0, true, true, 10, 1, none⟩ ∧
      ¬ Chosen gpus 1 (findAvailableGpu gpus 1)) ∧
    findAvailableGpu gpus 2 = none ∧ ¬ Chosen gpus 2 (findAvailableGpu gpus 2) := by
  refine ⟨⟨by decide, fun h => ?_⟩, by decide, fun h => ?_⟩
  · exact nomatch h.2.1.1
  · exact h ⟨1, 0, true, true, 10, 1, none⟩ (by decide) (by unfold Eligible; decide)

end Mvgal.Kernel.Select
