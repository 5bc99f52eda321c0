import Mvgal.Scheduler.Suitable

/-! The frames of alternate-frame rendering (`strategy/afr.c`), one after the other.

A mask that names GPUs configures the rotation anew for each workload, so all of them go to the
lowest GPU of the mask. Only workloads for any GPU go on in the rotation that is there.
`afr_alternates_iff` says when that is an alternation. -/
namespace Mvgal.Scheduler
open List Nat

/-- A call of `mvgal_scheduler_distribute_afr`: the scheduler at the time, and the workload. -/
structure Frame where
  config : Config
  gpus : Gpus
  workload : Workload

/-- The GPUs that workloads are assigned to, with none for a call that fails. -/
def afrAssignments : AfrState → List Frame → List (Option Nat)
  | _, [] => []
  | a, f :: frames =>
    let r := distributeAfr f.config f.gpus a f.workload
    (if r.1 = .success then some r.2.2.descriptor.assignedGpu else none) :: afrAssignments r.2.1 frames

/-- No manual assignment, and this mask. -/
def Frame.Masked (mask : UInt64) (f : Frame) : Prop :=
  f.workload.assignedGpuCount = 0 ∧ f.workload.descriptor.gpuMask = mask

/-- As many consecutive workloads as the mask has GPUs have one of these each. -/
def Alternates (mask : UInt64) (assignments : List (Option Nat)) : Prop :=
  ∀ window, window <:+: assignments → window.length = (maskIndices mask).length →
    window.Perm ((maskIndices mask).map some)

variable {mask : UInt64} {frames : List Frame} {a : AfrState} {i : Nat}

theorem afrAssignments_cons {f : Frame} (hf : f.Masked mask) (a : AfrState) :
    afrAssignments a (f :: frames) =
      (if (afrGetNextGpu (afrRotation a mask)).1 = noGpu then bestGpu f.config f.gpus f.workload
        else some (afrGetNextGpu (afrRotation a mask)).1) ::
      afrAssignments (afrGetNextGpu (afrRotation a mask)).2 frames := by
  have hcount : ¬ 0 < f.workload.assignedGpuCount := by rw [hf.1]; exact lt_irrefl 0
  by_cases hno : (afrGetNextGpu (afrRotation a mask)).1 = noGpu
  · simp only [afrAssignments, distributeAfr, hcount, hf.2, if_false, hno, if_true, findBestGpu]
    cases bestGpu f.config f.gpus f.workload <;> rfl
  · simp only [afrAssignments, distributeAfr, hcount, hf.2, if_false, hno, if_true]
    rfl

theorem length_afrAssignments (frames : List Frame) (a : AfrState) : (afrAssignments a frames).length = frames.length := by
  induction frames generalizing a with
  | nil => rfl
  | cons f frames ih => exact congrArg (· + 1) (ih _)

theorem ne_noGpu_of_lt (hi : i < maxGpus) : i ≠ noGpu := Nat.ne_of_lt (Nat.lt_trans hi (by decide))

theorem afrAssignments_named (h : NamesGpus mask) (hi : LowestBit mask i) (a : AfrState)
    (hframes : ∀ f ∈ frames, f.Masked mask) : afrAssignments a frames = List.replicate frames.length (some i) := by
  induction frames generalizing a with
  | nil => rfl
  | cons f frames ih =>
    obtain ⟨hf, hrest⟩ := forall_mem_cons.mp hframes
    rw [afrAssignments_cons hf, afrGetNextGpu_named h hi, if_neg (ne_noGpu_of_lt hi.1), ih _ hrest]
    rfl

/-- What one GPU does alone is an alternation exactly if the mask has no other. -/
theorem alternates_replicate_iff {rest : List Nat} (h : maskIndices mask = i :: rest) :
    (∀ n, Alternates mask (List.replicate n (some i))) ↔ rest = [] := by
  constructor
  · intro halternates
    have hperm := halternates (maskIndices mask).length _ List.infix_rfl length_replicate
    have hnodup : (maskIndices mask).Nodup := nodup_range.filter _
    refine eq_nil_iff_forall_not_mem.mpr fun j hj => ?_
    have hmem : some j ∈ (maskIndices mask).map some := mem_map_of_mem (h ▸ mem_cons_of_mem i hj)
    cases eq_of_mem_replicate (hperm.mem_iff.mpr hmem)
    rw [h] at hnodup
    exact (nodup_cons.mp hnodup).1 hj
  · rintro rfl n window hwindow hlen
    rw [h] at hlen ⊢
    obtain ⟨o, rfl⟩ := length_eq_one_iff.mp hlen
    rw [eq_of_mem_replicate (hwindow.subset mem_cons_self)]
    exact .rfl

theorem afrInit_initialized (a : AfrState) : (afrInit a).initialized = true := by
  unfold afrInit
  split
  · assumption
  · rfl

/-- The rotation after a workload for any GPU: the same GPUs, at the next one. -/
theorem afrInit_next (a : AfrState) :
    (afrInit (afrGetNextGpu (afrInit a)).2).gpuIndices = (afrInit a).gpuIndices ∧
      ((afrInit a).gpuIndices ≠ [] → (afrInit (afrGetNextGpu (afrInit a)).2).currentGpuIndex =
        ((afrInit a).currentGpuIndex + 1) % (afrInit a).gpuIndices.length) := by
  have hinit : (afrGetNextGpu (afrInit a)).2.initialized = true := by
    unfold afrGetNextGpu
    split <;> exact afrInit_initialized a
  rw [afrInit, if_pos hinit, afrGetNextGpu]
  split
  · next hnil => exact ⟨rfl, fun hne => absurd hnil hne⟩
  · exact ⟨rfl, fun _ => rfl⟩

/-- Workloads for any GPU go through the GPUs of a configured rotation in turn. -/
theorem afrAssignments_any (hne : (afrInit a).gpuIndices ≠ []) (hno : ∀ i ∈ (afrInit a).gpuIndices, i ≠ noGpu)
    (hframes : ∀ f ∈ frames, f.Masked anyGpu) {k : Nat} {o : Option Nat}
    (hk : (afrAssignments a frames)[k]? = some o) :
    o = (afrInit a).gpuIndices[((afrInit a).currentGpuIndex + k) % (afrInit a).gpuIndices.length]? := by
  induction frames generalizing a k with
  | nil => cases hk
  | cons f frames ih =>
    obtain ⟨hf, hrest⟩ := forall_mem_cons.mp hframes
    obtain ⟨hsame, hnext⟩ := afrInit_next a
    have hlt := (afrInit a).current_lt hne
    have hget := getElem?_eq_getElem hlt
    have hrot : afrRotation a anyGpu = afrInit a := if_pos (.inl rfl)
    rw [afrAssignments_cons hf, hrot] at hk
    cases k with
    | zero =>
      rw [getElem?_cons_zero, afrGetNextGpu_fst, hget, Option.getD_some, if_neg (hno _ (getElem_mem hlt))] at hk
      rw [add_zero, mod_eq_of_lt hlt, hget]
      exact (Option.some.inj hk).symm
    | succ k =>
      rw [ih (hsame ▸ hne) (hsame ▸ hno) hrest hk, hsame, hnext hne, mod_add_mod, add_assoc, add_comm 1]

/-- Without GPUs there is nothing but the rotation. -/
theorem mem_of_afrAssignments_any (hframes : ∀ f ∈ frames, f.Masked anyGpu ∧ f.gpus = noGpus)
    (hi : some i ∈ afrAssignments a frames) : i ∈ (afrInit a).gpuIndices := by
  induction frames generalizing a with
  | nil => cases hi
  | cons f frames ih =>
    obtain ⟨⟨hf, hgpus⟩, hrest⟩ := forall_mem_cons.mp hframes
    have hrot : afrRotation a anyGpu = afrInit a := if_pos (.inl rfl)
    rw [afrAssignments_cons hf, hrot, mem_cons, hgpus, afrGetNextGpu_fst] at hi
    obtain hi | hi := hi
    · cases hget : (afrInit a).gpuIndices[(afrInit a).currentGpuIndex]? with
      | none =>
        rw [hget] at hi
        cases hi
      | some j =>
        rw [hget, Option.getD_some] at hi
        split at hi
        · cases hi
        · cases hi
          exact mem_of_getElem? hget
    · exact (afrInit_next a).1 ▸ ih hrest hi

theorem alternates_any (hall : ∀ i < maxGpus, i ∈ (afrInit a).gpuIndices)
    (hframes : ∀ f ∈ frames, f.Masked anyGpu) : Alternates anyGpu (afrAssignments a frames) := by
  have hsub : range maxGpus ⊆ (afrInit a).gpuIndices := fun i hi => hall i (mem_range.mp hi)
  have hperm := (subperm_of_subset nodup_range hsub).perm_of_length_le
    ((afrInit a).length_le.trans_eq length_range.symm)
  have hno (i : Nat) (hi : i ∈ (afrInit a).gpuIndices) : i ≠ noGpu :=
    ne_noGpu_of_lt (mem_range.mp (hperm.mem_iff.mpr hi))
  have hne := ne_nil_of_mem (hall 0 (by decide))
  intro window hwindow hlen
  obtain ⟨k, hk, hget⟩ := List.infix_iff_getElem?.mp hwindow
  have hrotate : window = ((afrInit a).gpuIndices.rotate ((afrInit a).currentGpuIndex + k)).map some := by
    refine ext_getElem (by rw [hlen, length_map, length_rotate, ← hperm.length_eq]; rfl) fun i hi hi' => ?_
    rw [afrAssignments_any hne hno hframes (hget i hi), getElem_map, getElem_rotate,
      getElem?_eq_getElem (mod_lt _ (length_pos_iff.mpr hne)), ← add_assoc, add_right_comm,
      add_comm i]
  rw [hrotate]
  exact ((rotate_perm _ _).trans hperm.symm).map some

/-- **Alternate frames.** From any state of the rotation, all sequences of workloads with one mask and
without manual assignment alternate between the GPUs of the mask exactly when the mask has at most
one, or is that for any GPU and the rotation was configured with all of them. -/
theorem afr_alternates_iff (mask : UInt64) (a : AfrState) :
    (∀ frames : List Frame, (∀ f ∈ frames, f.Masked mask) → Alternates mask (afrAssignments a frames)) ↔
      if mask = anyGpu then ∀ i < maxGpus, i ∈ (afrInit a).gpuIndices else (maskIndices mask).length ≤ 1 := by
  let x : Workload := {frameWorkload 0 with descriptor := {(frameWorkload 0).descriptor with gpuMask := mask}}
  let idle (n : Nat) : List Frame := replicate n ⟨⟨.afr, true, true⟩, noGpus, x⟩
  have hidle (n : Nat) : ∀ f ∈ idle n, f.Masked mask ∧ f.gpus = noGpus := by
    intro f hf
    rw [eq_of_mem_replicate hf]
    exact ⟨⟨rfl, rfl⟩, rfl⟩
  have hlen (n : Nat) : (idle n).length = n := length_replicate
  split
  · next hany =>
    subst hany
    refine ⟨fun h i hi => ?_, fun h frames => alternates_any h⟩
    have hwindow := h _ (fun f hf => (hidle maxGpus f hf).1) _ List.infix_rfl
      ((length_afrAssignments _ a).trans (hlen maxGpus))
    exact mem_of_afrAssignments_any (hidle maxGpus)
      (hwindow.mem_iff.mpr (mem_map_of_mem (mem_filter.mpr ⟨mem_range.mpr hi, by decide +revert⟩)))
  · next hany =>
    cases hl : maskIndices mask with
    | nil =>
      refine iff_of_true (fun frames _ window _ hzero => ?_) (zero_le 1)
      rw [hl] at hzero ⊢
      exact length_eq_zero_iff.mp hzero ▸ .nil
    | cons i rest =>
      have hi := maskIndices_head.mp (congrArg head? hl)
      have hnamed {frames : List Frame} (hframes : ∀ f ∈ frames, f.Masked mask) :=
        afrAssignments_named ⟨hany, i, hi.1, hi.2.1⟩ hi a hframes
      have hone : (i :: rest).length ≤ 1 ↔ rest = [] := by simp
      rw [hone, ← alternates_replicate_iff hl]
      refine ⟨fun h n => ?_, fun h frames hframes => hnamed hframes ▸ h frames.length⟩
      have halternates := h (idle n) fun f hf => (hidle n f hf).1
      rwa [hnamed fun f hf => (hidle n f hf).1, hlen] at halternates

/-- Two frames on GPUs 0 and 1: both are rendered by GPU 0. -/
theorem two_frames_on_one_gpu :
    let f : Frame := ⟨⟨.afr, true, true⟩, ⟨[idleGpu, idleGpu], by decide⟩, frameWorkload 3⟩
    f.Masked 3 ∧ afrAssignments zeroState.afr [f, f] = [some 0, some 0] ∧
      ¬ Alternates 3 (afrAssignments zeroState.afr [f, f]) := by
  intro f
  have htwo : afrAssignments zeroState.afr [f, f] = [some 0, some 0] := by decide
  refine ⟨⟨rfl, rfl⟩, htwo, fun h => ?_⟩
  have hperm := h [some 0, some 0] (htwo ▸ List.infix_rfl) rfl
  exact absurd hperm (by decide)

end Mvgal.Scheduler
