import Mathlib.Data.Nat.Bitwise
import Mvgal.Vulkan.Layer

/-! Alternate frame rendering on a device group (`vk_layer.c`).

`vkEnumeratePhysicalDeviceGroups` puts the physical devices of an instance into one group and marks
them; a device that is created from a marked one is aggregate. `vkQueueSubmit` on an aggregate
device sends every submission to one device of the group, in turn. The turn is the parity of a
counter that all aggregate devices of the process share, whatever the size of the group.
`rotation_right_iff`: the turns go round the group exactly when it has two devices and no other
device of the process is aggregate.

The arrays that `vkQueueSubmit` allocates are taken to be there: it does not check. -/
namespace Mvgal.Vulkan
open Registry (lookup)

/-- An entry of a physical device, with its `is_aggregate`. -/
structure TrackedDevice extends PhysicalDeviceDispatch where
  isAggregate : Bool
deriving DecidableEq, Repr

def TrackedDevice.key (e : TrackedDevice) : VkPhysicalDevice := e.physicalDevice

def maxDeviceGroupSize : Nat := 32

/-- `VkPhysicalDeviceGroupProperties`. -/
structure PhysicalDeviceGroup where
  physicalDeviceCount : Nat
  physicalDevices : List VkPhysicalDevice
  subsetAllocation : Bool
deriving DecidableEq, Repr

/-- The outcome of `vkEnumeratePhysicalDeviceGroups`. -/
inductive GroupReply where
  | initializationFailed
  /-- What the next layer replies. -/
  | next
  /-- Success with no groups. -/
  | noGroups
  /-- Success with the number of groups, which is one. -/
  | oneGroup
  | incomplete
  | group (properties : PhysicalDeviceGroup)
deriving DecidableEq, Repr

/-- The loop that fills the group: its first `n` devices, and the entries with those marked. -/
def fillGroup (h : VkInstance) : Nat → List TrackedDevice → List VkPhysicalDevice × List TrackedDevice
  | 0, l => ([], l)
  | _ + 1, [] => ([], [])
  | n + 1, e :: rest =>
    if e.instanceHandle = h then
      let r := fillGroup h n rest
      (e.physicalDevice :: r.1, {e with isAggregate := true} :: r.2)
    else
      let r := fillGroup h (n + 1) rest
      (r.1, e :: r.2)

/-- `vkEnumeratePhysicalDeviceGroups`. `dispatch` is the entry of the instance, if there is one:
whether the next layer has the function. `room` is how many groups the caller has place for, if it
does not only ask for their number. -/
def enumeratePhysicalDeviceGroups (dispatch : Option Bool) (h : VkInstance) (room : Option Nat)
    (l : List TrackedDevice) : GroupReply × List TrackedDevice :=
  match dispatch with
  | none => (.initializationFailed, l)
  | some next =>
    let total := l.countP fun e => e.instanceHandle = h
    if total = 0 then (if next = true then .next else .noGroups, l)
    else
      match room with
      | none => (.oneGroup, l)
      | some 0 => (.incomplete, l)
      | some (_ + 1) =>
        let n := if total > maxDeviceGroupSize then maxDeviceGroupSize else total
        let r := fillGroup h n l
        (.group ⟨n, r.1, false⟩, r.2)

structure DeviceDispatch where
  device : VkDevice
  isAggregate : Bool
deriving DecidableEq, Repr

def createDevice (l : List TrackedDevice) (p : VkPhysicalDevice) (d : VkDevice) : DeviceDispatch where
  device := d
  isAggregate :=
    match lookup TrackedDevice.key p l with
    | some e => e.isAggregate
    | none => false

/-- `VkDeviceGroupSubmitInfo`, less its place in the chain. -/
structure DeviceGroupSubmitInfo where
  waitSemaphoreDeviceIndices : List UInt32
  commandBufferDeviceMasks : List UInt32
  signalSemaphoreDeviceIndices : List UInt32
deriving DecidableEq, Repr

/-- A structure of a `pNext` chain. -/
inductive Extension where
  | deviceGroup (info : DeviceGroupSubmitInfo)
  | other (address : Nat)
deriving DecidableEq, Repr

/-- `VkSubmitInfo`. A semaphore to wait for comes with its stages. -/
structure SubmitInfo where
  pNext : List Extension
  waitSemaphores : List (Nat × UInt32)
  commandBuffers : List Nat
  signalSemaphores : List Nat
deriving DecidableEq, Repr

/-- The arguments of `vkQueueSubmit`. -/
structure Submission where
  queue : VkQueue
  submits : List SubmitInfo
  fence : Nat
deriving DecidableEq, Repr

def deviceMask (frameIdx : UInt32) : UInt32 := 1 <<< (frameIdx % 2)

/-- The body of the loop of `vkQueueSubmit`: group information goes in front of the chain. -/
def inject (mask : UInt32) (s : SubmitInfo) : SubmitInfo :=
  let info : DeviceGroupSubmitInfo := ⟨[], List.replicate s.commandBuffers.length mask, []⟩
  {s with pNext := .deviceGroup info :: s.pNext}

/-- `vkQueueSubmit`: what goes to the next layer, if anything, and the counter after it. `findQueue`
gives the entry of the device of a queue, `strategy` is `MVGAL_STRATEGY`. -/
def queueSubmit (findQueue : VkQueue → Option DeviceDispatch) (strategy : Option String) (c : Submission)
    (frameCount : UInt32) : Option Submission × UInt32 :=
  match findQueue c.queue with
  | none => (none, frameCount)
  | some d =>
    if d.isAggregate = true ∧ (strategy = none ∨ strategy = some "afr") then
      (some {c with submits := c.submits.map (inject (deviceMask frameCount))}, frameCount + 1)
    else (some c, frameCount)

/-- The calls of a process in turn: each that is forwarded, with what it becomes. -/
def submitAll (findQueue : VkQueue → Option DeviceDispatch) (strategy : Option String) :
    UInt32 → List Submission → List (Submission × Submission)
  | _, [] => []
  | frameCount, c :: rest =>
    let r := queueSubmit findQueue strategy c frameCount
    (r.1.map fun sent => (c, sent)).toList ++ submitAll findQueue strategy r.2 rest

/-! ### What is asked of them -/

/-- The group information of a submission is the first one in the chain. -/
def SubmitInfo.groupInfo (s : SubmitInfo) : Option DeviceGroupSubmitInfo :=
  s.pNext.findSome? fun
    | .deviceGroup info => some info
    | .other _ => none

/-- The command-buffer device masks of a submission. -/
def Submission.masks (c : Submission) : List UInt32 :=
  c.submits.flatMap fun s => (s.groupInfo.map (·.commandBufferDeviceMasks)).getD []

def Names (mask : UInt32) (d : Nat) : Prop := mask.toNat.testBit d = true

/-- A submit info is forwarded as it is, but for group information with a mask for each command
buffer. -/
def SameApart (s sent : SubmitInfo) : Prop :=
  ∃ info : DeviceGroupSubmitInfo, info.commandBufferDeviceMasks.length = s.commandBuffers.length ∧
    sent = {s with pNext := .deviceGroup info :: s.pNext}

/-- The submissions to a group of `n` devices go round it. -/
structure Rotates (n : Nat) (log : List (Submission × Submission)) : Prop where
  same : ∀ x ∈ log, x.2.queue = x.1.queue ∧ x.2.fence = x.1.fence ∧ List.Forall₂ SameApart x.1.submits x.2.submits
  one : ∀ x ∈ log, ∀ m ∈ x.2.masks, ∃ d < n, ∀ e, Names m e ↔ e = d
  different : ∀ i j x y, i < j → j < i + n → log[i]? = some x → log[j]? = some y →
    ∀ m ∈ x.2.masks, ∀ m' ∈ y.2.masks, ∀ d, Names m d → ¬Names m' d

/-- A process in which a group is enumerated, a device is created from one of its members, and calls
follow. What other devices the queues of the process belong to is left open. -/
structure Session where
  tracked : List TrackedDevice
  dispatch : Option Bool
  instanceHandle : VkInstance
  room : Option Nat
  group : PhysicalDeviceGroup
  marked : List TrackedDevice
  virtualised : enumeratePhysicalDeviceGroups dispatch instanceHandle room tracked = (.group group, marked)
  physicalDevice : VkPhysicalDevice
  member : physicalDevice ∈ group.physicalDevices
  device : VkDevice
  aggregate : createDevice marked physicalDevice device = ⟨device, true⟩
  findQueue : VkQueue → Option DeviceDispatch
  queue : VkQueue
  found : findQueue queue = some (createDevice marked physicalDevice device)
  strategy : Option String
  afr : strategy = none ∨ strategy = some "afr"

namespace Session

def own (P : Session) (frameCount : UInt32) (calls : List Submission) : List (Submission × Submission) :=
  (submitAll P.findQueue P.strategy frameCount calls).filter fun x => P.findQueue x.1.queue = some ⟨P.device, true⟩

/-- From the start of the process, every sequence of calls on the device goes round the group,
whatever the calls on other devices between them. -/
def Right (P : Session) : Prop := ∀ calls, Rotates P.group.physicalDeviceCount (P.own 0 calls)

def Alone (P : Session) : Prop :=
  ∀ q d, P.findQueue q = some d → d.isAggregate = true → d = ⟨P.device, true⟩

end Session

variable (frameIdx : UInt32)

theorem deviceMask_toNat : (deviceMask frameIdx).toNat = 2 ^ (frameIdx.toNat % 2) := by
  have hcases : frameIdx.toNat % 2 = 0 ∨ frameIdx.toNat % 2 = 1 := by omega
  unfold deviceMask
  rcases hcases with h | h <;> simp [h]

/-- The mask of a frame names the device whose index is its parity. -/
theorem names_deviceMask (d : Nat) : Names (deviceMask frameIdx) d ↔ d = frameIdx.toNat % 2 := by
  unfold Names
  rw [deviceMask_toNat, Nat.testBit_two_pow, decide_eq_true_iff]
  exact eq_comm

theorem parity_succ (c : UInt32) : (c + 1).toNat % 2 ≠ c.toNat % 2 := by
  rw [UInt32.toNat_add]
  simp only [UInt32.toNat_one]
  omega

def routed (frameIdx : UInt32) (c : Submission) : Submission :=
  {c with submits := c.submits.map (inject (deviceMask frameIdx))}

theorem masks_routed (c : Submission) : (routed frameIdx c).masks =
      c.submits.flatMap fun s => List.replicate s.commandBuffers.length (deviceMask frameIdx) := by
  simp only [routed, Submission.masks, List.flatMap_map]
  rfl

theorem eq_of_mem_masks {frameIdx : UInt32} {c : Submission} {m : UInt32} (hm : m ∈ (routed frameIdx c).masks) :
    m = deviceMask frameIdx := by
  rw [masks_routed] at hm
  obtain ⟨s, _, hm⟩ := List.mem_flatMap.mp hm
  exact List.eq_of_mem_replicate hm

theorem routed_same (l : List SubmitInfo) :
    List.Forall₂ SameApart l (l.map (inject (deviceMask frameIdx))) := by
  induction l with
  | nil => exact .nil
  | cons s rest ih => exact .cons ⟨_, List.length_replicate, rfl⟩ ih

namespace Session
variable {P : Session} {frameCount : UInt32} {c : Submission} {rest calls : List Submission}

theorem own_cons_self (h : P.findQueue c.queue = some ⟨P.device, true⟩) :
    P.own frameCount (c :: rest) = (c, routed frameCount c) :: P.own (frameCount + 1) rest := by
  have hsubmit : queueSubmit P.findQueue P.strategy c frameCount = (some (routed frameCount c), frameCount + 1) := by
    simp [queueSubmit, h, P.afr, routed]
  simp [own, submitAll, hsubmit, h]

theorem own_cons_aggregate {d : DeviceDispatch} (h : P.findQueue c.queue = some d) (hd : d.isAggregate = true)
    (hne : d ≠ ⟨P.device, true⟩) : P.own frameCount (c :: rest) = P.own (frameCount + 1) rest := by
  have hsubmit : queueSubmit P.findQueue P.strategy c frameCount = (some (routed frameCount c), frameCount + 1) := by
    simp [queueSubmit, h, hd, P.afr, routed]
  simp [own, submitAll, hsubmit, h, hne]

theorem own_cons_plain (h : ∀ d, P.findQueue c.queue = some d → d.isAggregate = false) :
    P.own frameCount (c :: rest) = P.own frameCount rest := by
  cases hfind : P.findQueue c.queue with
  | none => simp [own, submitAll, queueSubmit, hfind]
  | some d =>
    have hd := h d hfind
    have hne : d ≠ ⟨P.device, true⟩ := fun heq => Bool.noConfusion (hd.symm.trans (congrArg DeviceDispatch.isAggregate heq))
    simp [own, submitAll, queueSubmit, hfind, hd, hne]

/-- Every call on the device is routed in some frame. -/
theorem routed_of_mem {x : Submission × Submission} (hx : x ∈ P.own frameCount calls) :
    ∃ frameIdx, x.2 = routed frameIdx x.1 := by
  induction calls generalizing frameCount with
  | nil => exact absurd hx List.not_mem_nil
  | cons c rest ih =>
    by_cases hplain : ∀ d, P.findQueue c.queue = some d → d.isAggregate = false
    · rw [own_cons_plain hplain] at hx
      exact ih hx
    · simp only [not_forall, Bool.not_eq_false] at hplain
      obtain ⟨d, hfind, hd⟩ := hplain
      by_cases hown : d = ⟨P.device, true⟩
      · rw [own_cons_self (hown ▸ hfind)] at hx
        rcases List.mem_cons.mp hx with rfl | hx
        · exact ⟨frameCount, rfl⟩
        · exact ih hx
      · rw [own_cons_aggregate hfind hd hown] at hx
        exact ih hx

/-- If the device is alone, its calls are routed in consecutive frames. -/
theorem Alone.routed_at (h : P.Alone) {i : Nat} {x : Submission × Submission}
    (hx : (P.own frameCount calls)[i]? = some x) : x.2 = routed (frameCount + UInt32.ofNat i) x.1 := by
  induction calls generalizing frameCount i with
  | nil => exact absurd hx (by simp [own, submitAll])
  | cons c rest ih =>
    by_cases hplain : ∀ d, P.findQueue c.queue = some d → d.isAggregate = false
    · rw [own_cons_plain hplain] at hx
      exact ih hx
    · simp only [not_forall, Bool.not_eq_false] at hplain
      obtain ⟨d, hfind, hd⟩ := hplain
      rw [own_cons_self (h _ _ hfind hd ▸ hfind)] at hx
      cases i with
      | zero =>
        cases hx
        show routed frameCount c = routed (frameCount + 0) c
        rw [UInt32.add_zero]
      | succ i =>
        rw [ih hx, UInt32.ofNat_add, UInt32.add_assoc, UInt32.add_comm 1]
        rfl

theorem Alone.rotates (h : P.Alone) (calls : List Submission) : Rotates 2 (P.own frameCount calls) where
  same := by
    intro x hx
    obtain ⟨frameIdx, hframe⟩ := routed_of_mem hx
    rw [hframe]
    exact ⟨rfl, rfl, routed_same _ _⟩
  one := by
    intro x hx m hm
    obtain ⟨frameIdx, hframe⟩ := routed_of_mem hx
    rw [hframe] at hm
    rw [eq_of_mem_masks hm]
    exact ⟨frameIdx.toNat % 2, Nat.mod_lt _ Nat.two_pos, names_deviceMask frameIdx⟩
  different := by
    intro i j x y hij hji hx hy m hm m' hm' d hd hd'
    obtain rfl : j = i + 1 := by omega
    rw [h.routed_at hx] at hm
    rw [h.routed_at hy] at hm'
    rw [eq_of_mem_masks hm, names_deviceMask] at hd
    rw [eq_of_mem_masks hm', names_deviceMask, UInt32.ofNat_add, ← UInt32.add_assoc] at hd'
    exact parity_succ _ (hd'.symm.trans hd)

def probe (q : VkQueue) : Submission := ⟨q, [⟨[], [], [0], []⟩], 0⟩

theorem mask_mem_probe (frameIdx : UInt32) (q : VkQueue) : deviceMask frameIdx ∈ (routed frameIdx (probe q)).masks := by
  exact List.mem_flatMap.mpr ⟨_, List.mem_cons_self, List.mem_cons_self⟩

theorem findQueue_probe (P : Session) : P.findQueue (probe P.queue).queue = some ⟨P.device, true⟩ :=
  P.found.trans (congrArg some P.aggregate)

theorem Right.one_lt (h : P.Right) : 1 < P.group.physicalDeviceCount := by
  have hown : P.own 0 [probe P.queue, probe P.queue] =
      [(probe P.queue, routed 0 (probe P.queue)), (probe P.queue, routed 1 (probe P.queue))] := by
    rw [own_cons_self P.findQueue_probe, own_cons_self P.findQueue_probe]
    rfl
  obtain ⟨d, hd, hnames⟩ := (h [probe P.queue, probe P.queue]).one
    (probe P.queue, routed 1 (probe P.queue)) (by simp [hown]) _ (mask_mem_probe 1 P.queue)
  have hone : 1 = d := (hnames 1).mp ((names_deviceMask 1 1).mpr rfl)
  omega

/-- Two calls of the device in frames of one parity are as far apart as the group is large. -/
theorem Right.far (h : P.Right) {calls : List Submission} {i j : Nat} {f g : UInt32} (hij : i < j)
    (hi : (P.own 0 calls)[i]? = some (probe P.queue, routed f (probe P.queue)))
    (hj : (P.own 0 calls)[j]? = some (probe P.queue, routed g (probe P.queue)))
    (hparity : f.toNat % 2 = g.toNat % 2) : P.group.physicalDeviceCount ≤ j - i := by
  by_contra hlt
  have hne := (h calls).different i j _ _ hij (by omega) hi hj _ (mask_mem_probe f P.queue)
    _ (mask_mem_probe g P.queue) (f.toNat % 2)
  exact hne ((names_deviceMask f _).mpr rfl) ((names_deviceMask g _).mpr hparity)

theorem Right.le_two (h : P.Right) : P.group.physicalDeviceCount ≤ 2 := by
  have hown : P.own 0 [probe P.queue, probe P.queue, probe P.queue] =
      [(probe P.queue, routed 0 (probe P.queue)), (probe P.queue, routed 1 (probe P.queue)),
        (probe P.queue, routed 2 (probe P.queue))] := by
    rw [own_cons_self P.findQueue_probe, own_cons_self P.findQueue_probe, own_cons_self P.findQueue_probe]
    rfl
  exact h.far (Nat.two_pos) (by rw [hown]; rfl) (by rw [hown]; rfl) rfl

/-- A call on another aggregate device takes a turn away. -/
theorem Right.alone (h : P.Right) : P.Alone := by
  intro q d hq hd
  by_contra hne
  have hown : P.own 0 [probe P.queue, probe q, probe P.queue] =
      [(probe P.queue, routed 0 (probe P.queue)), (probe P.queue, routed 2 (probe P.queue))] := by
    rw [own_cons_self P.findQueue_probe, own_cons_aggregate hq hd hne, own_cons_self P.findQueue_probe]
    rfl
  have hle := h.far Nat.one_pos (by rw [hown]; rfl) (by rw [hown]; rfl) rfl
  have hlt := h.one_lt
  omega

end Session

/-- The submissions of an aggregate device go round its group, over all sequences of calls, exactly
when the group has two devices and the process has no other aggregate device. -/
theorem rotation_right_iff (P : Session) : P.Right ↔ P.group.physicalDeviceCount = 2 ∧ P.Alone := by
  refine ⟨fun h => ⟨?_, h.alone⟩, fun ⟨htwo, halone⟩ calls => ?_⟩
  · have hgt := h.one_lt
    have hle := h.le_two
    omega
  · rw [htwo]
    exact halone.rotates calls

/-- A process with one physical device, which is a group of its own. -/
def oneGpu : Session where
  tracked := [⟨⟨5, 1, 9⟩, false⟩]
  dispatch := some true
  instanceHandle := 1
  room := some 1
  group := ⟨1, [5], false⟩
  marked := [⟨⟨5, 1, 9⟩, true⟩]
  virtualised := by decide
  physicalDevice := 5
  member := by decide
  device := 7
  aggregate := by decide
  findQueue := fun q => if q = 3 then some ⟨7, true⟩ else none
  queue := 3
  found := by decide
  strategy := none
  afr := .inl rfl

/-- The second submission goes to a device that the group does not have. -/
theorem second_submission_to_device_1 :
    ((oneGpu.own 0 [Session.probe 3, Session.probe 3]).map fun x => x.2.masks) = [[1], [2]] ∧
      oneGpu.group.physicalDeviceCount = 1 ∧ ¬oneGpu.Right :=
  ⟨by decide, rfl, fun h => nomatch h.one_lt⟩

end Mvgal.Vulkan
