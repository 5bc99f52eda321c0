import Mathlib.Algebra.BigOperators.Field
import Mathlib.Algebra.Order.BigOperators.Group.Finset
import Mathlib.Data.Rat.Floor
import Mvgal.Scheduler.State

/-! Split-frame rendering: the regions of a frame (`strategy/sfr.c`).

The shares are computed in `float`. The splitting is written over any type of
numbers with the operations it uses (`Scalar`), so that the same definition can
be read with exact numbers. `split_tiles` says that with these the bands tile the frame. -/
namespace Mvgal.Scheduler
open List Nat

/-- The arithmetic of the split. -/
class Scalar (R : Type) where
  ofNat : Nat → R
  add : R → R → R
  mul : R → R → R
  div : R → R → R
  le : R → R → Bool
  /-- the conversion to `uint32_t` -/
  truncate : R → UInt32

instance : Scalar Float32 where
  ofNat := Float32.ofNat
  add := Float32.add
  mul := Float32.mul
  div := Float32.div
  le x y := Float32.le x y
  truncate := Float32.toUInt32

variable {R : Type} [Scalar R]

/-- The sum the shares are relative to. `none` is the null pointer: equal weights. -/
def sfrTotalWeight (gpuCount : Nat) (weights : Option (Nat → R)) : R :=
  let total := match weights with
    | some ws => (List.range gpuCount).foldl (fun sum i => Scalar.add sum (ws i)) (Scalar.ofNat 0)
    | none => Scalar.ofNat gpuCount
  if Scalar.le total (Scalar.ofNat 0) then Scalar.ofNat 1 else total

def sfrShare (gpuCount : Nat) (weights : Option (Nat → R)) (i : Nat) : R :=
  match weights with
  | some ws => Scalar.div (ws i) (sfrTotalWeight gpuCount weights)
  | none => Scalar.div (Scalar.ofNat 1) (Scalar.ofNat gpuCount)

/-- The bands an extent is cut into: where each starts and its size. The last band
takes what is left. -/
def sfrBands (extent : UInt32) (gpuCount : Nat) (share : Nat → R) (current : UInt32) :
    List Nat → List (UInt32 × UInt32)
  | [] => []
  | i :: rest =>
    let size := if i = gpuCount - 1 then extent - current
      else Scalar.truncate (Scalar.mul (Scalar.ofNat extent.toNat) (share i))
    (current, size) :: sfrBands extent gpuCount share (current + size) rest

/-- `sfr_split_frame` in the mode `SFR_MODE_HORIZONTAL`, with the regions given to the
GPUs in turn afterwards, as its callers do. -/
def sfrSplitHorizontal (width height : UInt32) (gpuCount : Nat) (weights : Option (Nat → R))
    (maxRegions : Nat) (gpuOf : Nat → Nat) : List SfrRegion :=
  let indices := List.range (min gpuCount maxRegions)
  let bands := sfrBands height gpuCount (sfrShare gpuCount weights) 0 indices
  (indices.zip bands).map fun (i, y, h) => {x := 0, y := y, width := width, height := h, gpuIndex := gpuOf i}

/-- `sfr_split_frame` in the mode `SFR_MODE_VERTICAL`. -/
def sfrSplitVertical (width height : UInt32) (gpuCount : Nat) (weights : Option (Nat → R))
    (maxRegions : Nat) (gpuOf : Nat → Nat) : List SfrRegion :=
  let indices := List.range (min gpuCount maxRegions)
  let bands := sfrBands width gpuCount (sfrShare gpuCount weights) 0 indices
  (indices.zip bands).map fun (i, x, w) => {x := x, y := 0, width := w, height := height, gpuIndex := gpuOf i}

/-- Exact numbers, rounded down to pixels. -/
instance : Scalar ℚ where
  ofNat := Nat.cast
  add := (· + ·)
  mul := (· * ·)
  div := (· / ·)
  le x y := decide (x ≤ y)
  truncate x := UInt32.ofNat ⌊x⌋₊

/-- The pixels of the bands, one band after the other. -/
def pixels (bands : List (UInt32 × UInt32)) : List Nat :=
  bands.flatMap fun (first, size) => List.range' first.toNat size.toNat

section
variable {extent : UInt32} {n : Nat} {share : Nat → ℚ}

/-- The bands of the GPUs from `i` on have the rest of the extent: what is rounded down is left for
the last. -/
theorem pixels_sfrBands (hpos : ∀ i < n, 0 ≤ share i) (hsum : ∑ i ∈ Finset.range n, share i = 1)
    (k : Nat) {i : Nat} (hn : i + k + 1 = n) (current : UInt32)
    (hcurrent : (current.toNat : ℚ) ≤ extent.toNat * ∑ j ∈ Finset.range i, share j) :
    pixels (sfrBands extent n share current (List.range' i (k + 1))) =
      List.range' current.toNat (extent.toNat - current.toNat) := by
  have hpart {m : Nat} (hm : m ≤ n) : extent.toNat * ∑ j ∈ Finset.range m, share j ≤ (extent.toNat : ℚ) := by
    refine mul_le_of_le_one_right (cast_nonneg _) (hsum ▸ ?_)
    exact Finset.sum_le_sum_of_subset_of_nonneg (Finset.range_subset_range.mpr hm)
      fun j hj _ => hpos j (Finset.mem_range.mp hj)
  induction k generalizing i current with
  | zero =>
    have hle : current.toNat ≤ extent.toNat := cast_le.mp (hcurrent.trans (hpart (by omega)))
    rw [range'_one, sfrBands, if_pos (by omega : i = n - 1), ← UInt32.toNat_sub_of_le _ _ (UInt32.le_iff_toNat_le.mpr hle)]
    exact append_nil _
  | succ k ih =>
    have hnonneg : 0 ≤ extent.toNat * share i := mul_nonneg (cast_nonneg _) (hpos i (by omega))
    have hfloor := floor_le hnonneg
    rw [range'_succ, sfrBands, if_neg (by omega : i ≠ n - 1), pixels, flatMap_cons]
    change range' _ (UInt32.ofNat ⌊extent.toNat * share i⌋₊).toNat ++
      pixels (sfrBands _ _ _ (current + UInt32.ofNat ⌊extent.toNat * share i⌋₊) _) = _
    generalize ⌊extent.toNat * share i⌋₊ = size at *
    have hsum' : ((current.toNat + size : Nat) : ℚ) ≤ extent.toNat * ∑ j ∈ Finset.range (i + 1), share j := by
      rw [Finset.sum_range_succ, mul_add, cast_add]
      exact add_le_add hcurrent hfloor
    have hnext : current.toNat + size ≤ extent.toNat := cast_le.mp (hsum'.trans (hpart (by omega)))
    have hlt := extent.toNat_lt_size
    have hsize : (UInt32.ofNat size).toNat = size := UInt32.toNat_ofNat_of_lt' (by omega)
    have hadd : (current + UInt32.ofNat size).toNat = current.toNat + size := by
      rw [UInt32.toNat_add, hsize, mod_eq_of_lt (lt_of_le_of_lt hnext hlt)]
    rw [ih (by omega) _ (hadd ▸ hsum'), hadd, hsize, range'_append_1]
    congr 1
    omega

theorem length_sfrBands (indices : List Nat) (current : UInt32) :
    (sfrBands extent n share current indices).length = indices.length := by
  induction indices generalizing current with
  | nil => rfl
  | cons i indices ih => exact congrArg (· + 1) (ih _)

end

variable {n : Nat} {ws : Nat → ℚ}

theorem sfrShare_eq (hsum : 0 < ∑ i ∈ Finset.range n, ws i) (i : Nat) :
    sfrShare n (some ws) i = ws i / ∑ i ∈ Finset.range n, ws i := by
  have hfold (m : Nat) : (range m).foldl (fun sum i => sum + ws i) ((0 : Nat) : ℚ) =
      ∑ i ∈ Finset.range m, ws i := by
    induction m with
    | zero => exact cast_zero
    | succ m ih => rw [range_succ, foldl_append, ih, Finset.sum_range_succ]; rfl
  have htotal : sfrTotalWeight n (some ws) = ∑ i ∈ Finset.range n, ws i := by
    refine (if_neg fun hle => ?_).trans (hfold n)
    exact hsum.not_ge ((hfold n).symm.trans_le ((of_decide_eq_true hle).trans_eq cast_zero))
  exact congrArg (ws i / ·) htotal

section
variable (hpos : ∀ i < n, 0 ≤ ws i) (hsum : 0 < ∑ i ∈ Finset.range n, ws i)
include hpos hsum

theorem pixels_split (extent : UInt32) :
    pixels (sfrBands extent n (sfrShare n (some ws)) 0 (List.range n)) = List.range extent.toNat := by
  have hn : n ≠ 0 := by
    rintro rfl
    exact absurd hsum (by simp)
  obtain ⟨k, rfl⟩ := exists_eq_succ_of_ne_zero hn
  rw [range_eq_range', range_eq_range']
  refine pixels_sfrBands (fun i hi => ?_) ?_ k (succ_inj.mpr (zero_add k)) 0 (by simp)
  · rw [sfrShare_eq hsum]
    exact div_nonneg (hpos i hi) hsum.le
  · simp only [sfrShare_eq hsum]
    rw [← Finset.sum_div, div_self hsum.ne']

/-- **Bands tile the frame**, in rows and in columns: there is one for each GPU, and together and in
their order they have each row or column of the frame once. -/
theorem split_tiles (width height : UInt32) {maxRegions : Nat} (hmax : n ≤ maxRegions) (gpuOf : Nat → Nat) :
    let rows := sfrSplitHorizontal width height n (some ws) maxRegions gpuOf
    let columns := sfrSplitVertical width height n (some ws) maxRegions gpuOf
    (rows.length = n ∧ (∀ r ∈ rows, r.x = 0 ∧ r.width = width) ∧
      pixels (rows.map fun r => (r.y, r.height)) = List.range height.toNat) ∧
    columns.length = n ∧ (∀ r ∈ columns, r.y = 0 ∧ r.height = height) ∧
      pixels (columns.map fun r => (r.x, r.width)) = List.range width.toNat := by
  have hzip (extent : UInt32) : ((range n).zip (sfrBands extent n (sfrShare n (some ws)) 0 (range n))).map
      Prod.snd = sfrBands extent n (sfrShare n (some ws)) 0 (range n) :=
    map_snd_zip (le_of_eq (length_sfrBands _ _))
  simp only [sfrSplitHorizontal, sfrSplitVertical, min_eq_left hmax, length_map, length_zip,
    length_sfrBands, length_range, min_self, map_map, forall_mem_map, Function.comp_def, hzip,
    pixels_split hpos hsum, implies_true, and_self]

end

/-- Three GPUs with the weights 1, 2 and 0. -/
theorem split_tiles_of_three :
    (sfrSplitVertical 10 7 3 (some fun i => ([1, 2, 0] : List ℚ).getD i 0) 64 id).length = 3 :=
  (split_tiles (by decide) (by decide +kernel) 10 7 (by decide) id).2.1

end Mvgal.Scheduler
