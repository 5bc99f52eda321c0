import Mathlib.Data.UInt

/-! Queue families of the virtual device (`physical_device.c`, `icd_entry.c`).

The device has three families, with queue counts that follow from the GPUs.
`mvgal_vkGetPhysicalDeviceQueueFamilyProperties` fills an array of them. The second
version has an array of larger structures, and calls the first one for each entry with
the address of that entry. Every such call writes all three families, across the
headers of the following entries and past the array (`properties2_eq`). So the two
functions are what they are meant to be exactly when no array is given
(`queue_families_right_iff`). The caller's memory is a sequence of 32-bit words. -/
namespace Mvgal.Icd

structure QueueFamilyProperties where
  queueFlags : UInt32
  queueCount : UInt32
  timestampValidBits : UInt32
  minImageTransferGranularity : UInt32 × UInt32 × UInt32
deriving DecidableEq

/-- `VK_QUEUE_*_BIT`. -/
def queueGraphicsBit : UInt32 := 1
def queueComputeBit : UInt32 := 2
def queueTransferBit : UInt32 := 4

/-- `MVGAL_FEATURE_*`. -/
def featureGraphics : UInt64 := 16
def featureCompute : UInt64 := 32

/-- What the GPU manager answers: a count, which is negative when it fails, and the
features in each descriptor it returns. -/
structure Gpus where
  count : Int
  features : Nat → Option UInt64

variable (g : Gpus)

def Gpus.counting (feature : UInt64) : UInt32 :=
  (List.range g.count.toNat).foldl
    (fun n i => if (g.features i).any (· &&& feature != 0) then n + 1 else n) 0

/-- Nothing was enumerated: no GPU, or none with graphics or compute. -/
def Gpus.unknown : Prop :=
  g.count.toNat = 0 ∨ g.counting featureGraphics = 0 ∧ g.counting featureCompute = 0

instance : Decidable g.unknown := inferInstanceAs (Decidable (_ ∨ _))

/-- A queue count, at most `limit` and at least one. -/
def clampQueues (limit n : UInt32) : UInt32 :=
  let n := if n < limit then n else limit
  if n = 0 then 1 else n

def Gpus.gfxQueues : UInt32 := clampQueues 16 ((if g.unknown then 1 else g.counting featureGraphics) * 2)

def Gpus.computeQueues : UInt32 := clampQueues 16 ((if g.unknown then 1 else g.counting featureCompute) * 4)

def Gpus.transferQueues : UInt32 := clampQueues 8 (if g.unknown then 1 else UInt32.ofNat g.count.toNat)

/-- Graphics, compute and transfer. -/
def queueFamilies : List QueueFamilyProperties :=
  [⟨queueGraphicsBit ||| queueComputeBit ||| queueTransferBit, g.gfxQueues, 64, 1, 1, 1⟩,
    ⟨queueComputeBit ||| queueTransferBit, g.computeQueues, 64, 1, 1, 1⟩,
    ⟨queueTransferBit, g.transferQueues, 64, 1, 1, 1⟩]

def QueueFamilyProperties.words (f : QueueFamilyProperties) : List UInt32 :=
  [f.queueFlags, f.queueCount, f.timestampValidBits, f.minImageTransferGranularity.1,
    f.minImageTransferGranularity.2.1, f.minImageTransferGranularity.2.2]

def putWords (mem : Nat → UInt32) (a : Nat) (ws : List UInt32) : Nat → UInt32 :=
  fun k => if a ≤ k then (ws[k - a]?).getD (mem k) else mem k

variable {mem : Nat → UInt32} {a k : Nat} {ws : List UInt32}

theorem putWords_of_lt (h : k < a) : putWords mem a ws k = mem k := if_neg (Nat.not_le.mpr h)

theorem putWords_add {j : Nat} {w : UInt32} (h : ws[j]? = some w) : putWords mem a ws (a + j) = w := by
  rw [putWords, if_pos (Nat.le_add_right a j), Nat.add_sub_cancel_left, h]
  rfl

def familyWords : List UInt32 := (queueFamilies g).flatMap QueueFamilyProperties.words

/-- `mvgal_get_queue_family_properties`, which
`mvgal_vkGetPhysicalDeviceQueueFamilyProperties` calls: the count it reports and the
memory it leaves. -/
def getQueueFamilyProperties (count : UInt32) (array : Option Nat) (mem : Nat → UInt32) :
    UInt32 × (Nat → UInt32) :=
  match array with
  | none => (3, mem)
  | some a => if count < 3 then (3, mem) else (3, putWords mem a (familyWords g))

theorem getQueueFamilyProperties_count (count : UInt32) (array : Option Nat) (mem : Nat → UInt32) :
    (getQueueFamilyProperties g count array mem).1 = 3 := by
  unfold getQueueFamilyProperties
  split
  · rfl
  · split
    · rfl
    · rfl

/-- The words of `VkQueueFamilyProperties2`: `sType`, padding, `pNext`, and the properties. -/
def entrySize : Nat := 10

def headerSize : Nat := 4

/-- The loop of the second version. Each call sets the count that bounds the loop. -/
def properties2Loop (a i : Nat) (count : UInt32) (mem : Nat → UInt32) : UInt32 × (Nat → UInt32) :=
  if i < count.toNat then
    let r := getQueueFamilyProperties g count (some (a + entrySize * i + headerSize)) mem
    properties2Loop a (i + 1) r.1 r.2
  else (count, mem)
termination_by max count.toNat 3 - i
decreasing_by
  rw [getQueueFamilyProperties_count]
  have h3 : (3 : UInt32).toNat = 3 := rfl
  omega

/-- `mvgal_vkGetPhysicalDeviceQueueFamilyProperties2`. -/
def getQueueFamilyProperties2 (count : UInt32) (array : Option Nat) (mem : Nat → UInt32) :
    UInt32 × (Nat → UInt32) :=
  match array with
  | none => getQueueFamilyProperties g count none mem
  | some a => properties2Loop g a 0 count mem

variable {count : UInt32} {i : Nat}

theorem properties2Loop_done (h : count.toNat ≤ i) (a : Nat) (mem : Nat → UInt32) :
    properties2Loop g a i count mem = (count, mem) := by
  rw [properties2Loop, if_neg (Nat.not_lt.mpr h)]

theorem properties2Loop_write (h3 : ¬ count < 3) (h : i < count.toNat) (a : Nat)
    (mem : Nat → UInt32) : properties2Loop g a i count mem =
      properties2Loop g a (i + 1) 3 (putWords mem (a + entrySize * i + headerSize) (familyWords g)) := by
  rw [properties2Loop, if_pos h]
  simp only [getQueueFamilyProperties, h3, if_false]

theorem properties2Loop_skip (h3 : count < 3) (h : i < count.toNat) (a : Nat)
    (mem : Nat → UInt32) : properties2Loop g a i count mem = properties2Loop g a (i + 1) 3 mem := by
  rw [properties2Loop, if_pos h]
  simp only [getQueueFamilyProperties, h3, if_true]

/-- The last two rounds write all families into the second entry and into the third. -/
def lastRounds (a : Nat) (mem : Nat → UInt32) : Nat → UInt32 :=
  putWords (putWords mem (a + 14) (familyWords g)) (a + 24) (familyWords g)

theorem properties2Loop_last (a : Nat) (mem : Nat → UInt32) :
    properties2Loop g a 1 3 mem = (3, lastRounds g a mem) := by
  rw [properties2Loop_write g (by decide) (by decide), properties2Loop_write g (by decide) (by decide),
    properties2Loop_done g (by decide)]
  rfl

/-- **The effect of the second version** on an array: nothing without room; otherwise all
three families are written at the second and the third entry, and with room for three
entries also at the first. -/
theorem properties2_eq (count : UInt32) (a : Nat) (mem : Nat → UInt32) :
    getQueueFamilyProperties2 g count (some a) mem = if count = 0 then (0, mem)
      else if count < 3 then (3, lastRounds g a mem)
      else (3, lastRounds g a (putWords mem (a + 4) (familyWords g))) := by
  show properties2Loop g a 0 count mem = _
  by_cases h0 : count = 0
  · subst h0
    exact properties2Loop_done g (Nat.le_refl 0) a mem
  · have hpos : 0 < count.toNat := Nat.pos_of_ne_zero fun h => h0 (UInt32.toNat_inj.mp h)
    rw [if_neg h0]
    by_cases h3 : count < 3
    · rw [if_pos h3, properties2Loop_skip g h3 hpos, properties2Loop_last]
    · rw [if_neg h3, properties2Loop_write g h3 hpos, properties2Loop_last]
      rfl

def HoldsFamily (mem : Nat → UInt32) (k i : Nat) : Prop :=
  ∃ f, (queueFamilies g)[i]? = some f ∧ ∀ j w, f.words[j]? = some w → mem (k + j) = w

/-- The first version reports no more entries than it has filled. -/
def FirstRight (count : UInt32) (a : Nat) (mem : Nat → UInt32) : Prop :=
  ∀ i, i < (getQueueFamilyProperties g count (some a) mem).1.toNat →
    i < count.toNat ∧ HoldsFamily g (getQueueFamilyProperties g count (some a) mem).2 (a + 6 * i) i

/-- Nor does the second; and it leaves the headers and the memory past the array alone. -/
structure SecondRight (count : UInt32) (a : Nat) (mem : Nat → UInt32) : Prop where
  filled : ∀ i, i < (getQueueFamilyProperties2 g count (some a) mem).1.toNat →
    i < count.toNat ∧ HoldsFamily g (getQueueFamilyProperties2 g count (some a) mem).2
      (a + entrySize * i + headerSize) i
  headers : ∀ i j, j < headerSize →
    (getQueueFamilyProperties2 g count (some a) mem).2 (a + entrySize * i + j) = mem (a + entrySize * i + j)
  past : ∀ k, a + entrySize * count.toNat ≤ k →
    (getQueueFamilyProperties2 g count (some a) mem).2 k = mem k

/-- Both are right with an array, and answer the same without one. -/
def FamiliesRight (count : UInt32) : Option Nat → (Nat → UInt32) → Prop
  | none, mem => getQueueFamilyProperties2 g count none mem = getQueueFamilyProperties g count none mem
  | some a, mem => FirstRight g count a mem ∧ SecondRight g count a mem

variable {g} {count : UInt32}

theorem getElem?_flatMap_of_length {α β : Type} {f : α → List β} {n : Nat} (hlen : ∀ x, (f x).length = n)
    {l : List α} {j : Nat} {x : α} {y : β} (hx : l[i]? = some x) (hy : (f x)[j]? = some y) :
    (l.flatMap f)[n * i + j]? = some y := by
  have hj : j < n := hlen x ▸ (List.getElem?_eq_some_iff.mp hy).1
  induction l generalizing i with
  | nil => exact nomatch hx
  | cons z rest ih =>
    rw [List.flatMap_cons]
    cases i with
    | zero =>
      obtain rfl : z = x := by simpa using hx
      rw [Nat.mul_zero, Nat.zero_add, List.getElem?_append_left (by rw [hlen]; exact hj)]
      exact hy
    | succ i =>
      have hle : n ≤ n * (i + 1) + j := by
        rw [Nat.mul_succ]
        omega
      rw [List.getElem?_append_right (by rw [hlen]; exact hle), hlen]
      have hsub : n * (i + 1) + j - n = n * i + j := by
        rw [Nat.mul_succ]
        omega
      rw [hsub]
      exact ih (by simpa using hx)

/-- **The first version** is right exactly when the array has room for all families. -/
theorem first_right_iff (a : Nat) : (∀ mem, FirstRight g count a mem) ↔ ¬ count < 3 := by
  have h3 : (3 : UInt32).toNat = 3 := rfl
  refine ⟨fun h hlt => ?_, fun hge mem i hi => ?_⟩
  · have hroom := (h (fun _ => 0) 2 (by rw [getQueueFamilyProperties_count, h3]; decide)).1
    have hlt := UInt32.lt_iff_toNat_lt.mp hlt
    omega
  · rw [getQueueFamilyProperties_count, h3] at hi
    have hcount : 3 ≤ count.toNat := by
      have hge := UInt32.le_iff_toNat_le.mp (UInt32.not_lt.mp hge)
      rwa [h3] at hge
    have hlen (f : QueueFamilyProperties) : f.words.length = 6 := rfl
    have hf : (queueFamilies g)[i]? = some (queueFamilies g)[i] := List.getElem?_eq_getElem hi
    refine ⟨Nat.lt_of_lt_of_le hi hcount, _, hf, fun j w hw => ?_⟩
    simp only [getQueueFamilyProperties, hge, if_false]
    rw [Nat.add_assoc]
    exact putWords_add (getElem?_flatMap_of_length hlen hf hw)

/-- **The second version** is right exactly when the array has no entry at all. -/
theorem second_right_iff (a : Nat) : (∀ mem, SecondRight g count a mem) ↔ count = 0 := by
  constructor
  · intro h
    by_contra h0
    have hright := h fun _ => 0
    by_cases h3 : count < 3
    · -- The flags of the first family stand in the third entry, past the array.
      have hroom : a + entrySize * count.toNat ≤ a + 24 := by
        have hlt := UInt32.lt_iff_toNat_lt.mp h3
        have h3' : (3 : UInt32).toNat = 3 := rfl
        unfold entrySize
        omega
      have hword := hright.past (a + 24) hroom
      rw [properties2_eq, if_neg h0, if_pos h3] at hword
      have hflags : lastRounds g a (fun _ => 0) (a + 24) = 7 := putWords_add (j := 0) rfl
      exact absurd (hflags.symm.trans hword) (by decide)
    · -- The flags of the second family stand in `sType` of the second entry.
      have hword := hright.headers 1 0 (by decide)
      rw [properties2_eq, if_neg h0, if_neg h3] at hword
      have hflags : lastRounds g a (putWords (fun _ => 0) (a + 4) (familyWords g)) (a + 10) = 6 := by
        unfold lastRounds
        rw [putWords_of_lt (by omega), putWords_of_lt (by omega)]
        exact putWords_add (j := 6) rfl
      exact absurd (hflags.symm.trans hword) (by decide)
  · rintro rfl mem
    have hsame : getQueueFamilyProperties2 g 0 (some a) mem = (0, mem) := by rw [properties2_eq, if_pos rfl]
    refine ⟨fun i hi => ?_, fun i j _ => ?_, fun k _ => ?_⟩
    · rw [hsame] at hi
      exact absurd hi (Nat.not_lt_zero i)
    · rw [hsame]
    · rw [hsame]

/-- **Queue families.** For every set of GPUs and every capacity, the two functions are
right, whatever the memory holds, exactly when they are only asked for the count. -/
theorem queue_families_right_iff (g : Gpus) (count : UInt32) (array : Option Nat) :
    (∀ mem, FamiliesRight g count array mem) ↔ array = none := by
  cases array with
  | none => exact iff_of_true (fun _ => rfl) rfl
  | some a =>
    refine iff_of_false (fun h => ?_) (by simp)
    have hcount : count = 0 := (second_right_iff a).mp fun mem => (h mem).2
    have hroom : ¬ count < 3 := (first_right_iff a).mp fun mem => (h mem).1
    exact hroom (hcount ▸ by decide)

/-- One GPU with graphics and compute, and an array for all three families. -/
theorem second_entry_loses_sType :
    ¬ FamiliesRight ⟨1, fun _ => some (featureGraphics ||| featureCompute)⟩ 3 (some 0) (fun _ => 0) := by
  rintro ⟨-, h⟩
  have hword := h.headers 1 0 (by decide)
  rw [properties2_eq] at hword
  exact nomatch hword

end Mvgal.Icd
