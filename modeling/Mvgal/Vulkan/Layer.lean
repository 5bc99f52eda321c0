import Mvgal.Lib.Registry

/-! Dispatch entries of the Vulkan layer (`vk_layer.c`).

The layer keeps a dispatch entry for every instance and every device of the next layer, and entries
for queues and physical devices that point to them. `vkDestroyInstance` and `vkDestroyDevice` first
have the next layer destroy the object and then remove its entry by the value of its handle, in a
section of its own. In between, the next layer can give the same handle to a new object, and the
layer can register it. `handles_resolve_iff` says for which interleavings every live handle is
found with its own entry and no entry points to one that is gone.

The application keeps the rules of Vulkan: an object is destroyed once and not while another call
uses it. That an instance outlives its devices plays no role. -/
namespace Mvgal.Vulkan
open Registry
open Option
open Function
open Function (update)
open Registry (Event lookup put)
open Run (Along Admitted)

abbrev VkInstance : Type := Nat

abbrev VkPhysicalDevice : Type := Nat

abbrev VkDevice : Type := Nat

abbrev VkQueue : Type := Nat

/-! ### Instances and physical devices -/

structure PhysicalDeviceDispatch where
  physicalDevice : VkPhysicalDevice
  instanceHandle : VkInstance
  instanceDispatch : Nat
deriving DecidableEq, Repr

def removePhysicalDevicesForInstance (h : VkInstance) (l : List PhysicalDeviceDispatch) : List PhysicalDeviceDispatch :=
  l.filter fun e => e.instanceHandle ≠ h

/-- `mvgal_vk_register_physical_devices`. Each device comes with whether there is memory for an
entry; the loop ends where there is none and one is needed. -/
def registerPhysicalDevices (h : VkInstance) (dispatch : Nat) :
    List (VkPhysicalDevice × Bool) → List PhysicalDeviceDispatch → List PhysicalDeviceDispatch
  | [], l => l
  | (p, memory) :: rest, l =>
    if (lookup PhysicalDeviceDispatch.physicalDevice p l).isSome = true ∨ memory = true then
      registerPhysicalDevices h dispatch rest
        (put PhysicalDeviceDispatch.physicalDevice p
          (fun e => {e with instanceHandle := h, instanceDispatch := dispatch}) (some ⟨p, h, dispatch⟩) l)
    else l

/-- The instances of the next layer and their entries, and the entries of physical devices. -/
structure InstanceSide where
  instances : Registry VkInstance
  physicalDevices : List PhysicalDeviceDispatch

/-- The sections of the calls that are about instances. -/
inductive InstanceAction where
  /-- The next layer has created an instance for `vkCreateInstance`. -/
  | created (h : VkInstance)
  /-- `mvgal_vk_register_instance`, and the address that `calloc` returns. -/
  | register (h : VkInstance) (memory : Option Nat)
  /-- `vkDestroyInstance` begins. -/
  | destroy (h : VkInstance)
  /-- The next layer has destroyed the instance. -/
  | destroyed (h : VkInstance)
  /-- `mvgal_vk_unregister_instance`. -/
  | unregister (h : VkInstance)
  /-- `vkEnumeratePhysicalDevices` begins. -/
  | enumerate (h : VkInstance)
  /-- It registers what the next layer has found, which can be nothing. -/
  | enumerated (h : VkInstance) (dispatch : Nat) (found : List (VkPhysicalDevice × Bool))
deriving Repr

namespace InstanceSide

/-- What an action is to the registry. An instance that cannot be registered is destroyed through
the entry that its handle has from before, if any. -/
def event (s : InstanceSide) : InstanceAction → Event VkInstance
  | .created h => .make h
  | .register h (some a) => .register h a
  | .register h none => .refuse h (s.instances.find h).isSome
  | .destroy h => .close h
  | .destroyed h => .destroy h
  | .unregister h => .unregister h
  | .enumerate h => .enter h
  | .enumerated h dispatch _ => .leave h dispatch

def physicalDevicesAfter (s : InstanceSide) : InstanceAction → List PhysicalDeviceDispatch
  | .unregister h =>
    if (s.instances.find h).isSome = true then removePhysicalDevicesForInstance h s.physicalDevices
    else s.physicalDevices
  | .enumerated h dispatch found => registerPhysicalDevices h dispatch found s.physicalDevices
  | _ => s.physicalDevices

def step (s : InstanceSide) (a : InstanceAction) : Option InstanceSide :=
  (s.instances.step (s.event a)).map fun r => ⟨r, s.physicalDevicesAfter a⟩

/-- Every live instance is found with its own entry, and every entry of a physical device points to
an entry that is registered. -/
structure Resolved (s : InstanceSide) : Prop where
  instances : s.instances.Resolves
  physicalDevices : ∀ e ∈ s.physicalDevices, ∃ d ∈ s.instances.entries, d.address = e.instanceDispatch

/-- No entry is removed whose handle is that of a live instance. -/
def Orderly (s : InstanceSide) : InstanceAction → Prop
  | .unregister h => ¬(s.instances.status h).IsLive
  | _ => True

/-- The entry that a physical device points to is one of its instance. -/
structure Inv (s : InstanceSide) : Prop where
  sound : s.instances.Sound
  physicalDevices : ∀ e ∈ s.physicalDevices, ⟨e.instanceDispatch, e.instanceHandle⟩ ∈ s.instances.entries

end InstanceSide

variable {dispatch : Nat}

theorem forall_registerPhysicalDevices {p : PhysicalDeviceDispatch → Prop} {h : VkInstance}
    (hnew : ∀ d, p ⟨d, h, dispatch⟩) (found : List (VkPhysicalDevice × Bool)) {l : List PhysicalDeviceDispatch}
    (hl : ∀ e ∈ l, p e) : ∀ e ∈ registerPhysicalDevices h dispatch found l, p e := by
  induction found generalizing l with
  | nil => exact hl
  | cons d rest ih =>
    unfold registerPhysicalDevices
    split
    · refine ih (forall_put (fun e => hnew e.physicalDevice) (fun e he => ?_) hl)
      cases he
      exact hnew d.1
    · exact hl

namespace InstanceSide
variable {s s' : InstanceSide} {a : InstanceAction}

theorem step_some (h : s.step a = some s') :
    s.instances.step (s.event a) = some s'.instances ∧ s'.physicalDevices = s.physicalDevicesAfter a := by
  obtain ⟨r, hr, rfl⟩ := map_eq_some_iff.mp h
  exact ⟨hr, rfl⟩

theorem harmless_event_iff : s.instances.Harmless (s.event a) ↔ s.Orderly a := by
  cases a with
  | register h memory => cases memory <;> exact Iff.rfl
  | _ => exact Iff.rfl

theorem Inv.registered (hi : s.Inv) {e : PhysicalDeviceDispatch} (he : e ∈ s.physicalDevices) :
    ∃ d ∈ s.instances.entries, d.address = e.instanceDispatch :=
  ⟨_, hi.physicalDevices e he, rfl⟩

theorem Inv.step (hi : s.Inv) (hp : s.Resolved) (h : s.step a = some s') : s'.Inv := by
  obtain ⟨hstep, hdevices⟩ := step_some h
  refine ⟨hi.sound.step hp.instances hstep, ?_⟩
  rw [hdevices]
  cases a with
  | unregister k =>
    -- what is left belongs to other instances, whose entries stay
    have hkept : ∀ e ∈ s.physicalDevices, e.instanceHandle ≠ k →
        ⟨e.instanceDispatch, e.instanceHandle⟩ ∈ s'.instances.entries := by
      intro e he hne
      refine mem_entries_step hstep (hi.physicalDevices e he) fun k' hk' hfind => ?_
      cases hk'
      exact hne (handle_of_find hfind)
    intro e he
    dsimp only [physicalDevicesAfter] at he
    split at he
    · obtain ⟨he, hne⟩ := List.mem_filter.mp he
      exact hkept e he (of_decide_eq_true hne)
    · rename_i hnone
      refine hkept e he fun heq => hnone ?_
      rw [← heq]
      exact find_isSome (hi.physicalDevices e he)
  | enumerated k dispatch found =>
    have hcall : (k, dispatch) ∈ s.instances.calls := (Run.guarded hstep).1
    have hentry := hp.instances k dispatch (hi.sound.live k dispatch hcall)
    have hstay : ∀ x ∈ s.instances.entries, x ∈ s'.instances.entries :=
      fun x hx => mem_entries_step hstep hx fun _ hk => nomatch hk
    refine forall_registerPhysicalDevices (fun _ => hstay _ (mem_of_find hentry)) found ?_
    exact fun e he => hstay _ (hi.physicalDevices e he)
  | register k memory =>
    intro e he
    refine mem_entries_step hstep (hi.physicalDevices e he) fun _ hk => ?_
    cases memory <;> exact nomatch hk
  | created k | destroy k | destroyed k | enumerate k =>
    intro e he
    exact mem_entries_step hstep (hi.physicalDevices e he) fun _ hk => nomatch hk

theorem resolved_step_iff (hi : s.Inv) (hp : s.Resolved) (h : s.step a = some s') : s'.Resolved ↔ s.Orderly a := by
  have hresolves := resolves_step_iff hi.sound hp.instances (step_some h).1
  rw [harmless_event_iff] at hresolves
  rw [← hresolves]
  exact ⟨Resolved.instances, fun hr => ⟨hr, fun _ he => (hi.step hp h).registered he⟩⟩

end InstanceSide

structure QueueDispatch where
  queue : VkQueue
  deviceDispatch : Nat
deriving DecidableEq, Repr

def removeQueuesForDevice (dispatch : Nat) (l : List QueueDispatch) : List QueueDispatch :=
  l.filter fun e => e.deviceDispatch ≠ dispatch

/-- `mvgal_vk_register_queue`; `memory` is whether there is any for a new entry. -/
def registerQueue (q : VkQueue) (dispatch : Nat) (memory : Bool) (l : List QueueDispatch) : List QueueDispatch :=
  put QueueDispatch.queue q (fun e => {e with deviceDispatch := dispatch})
    (if memory = true then some ⟨q, dispatch⟩ else none) l

theorem queue_of_new {q : VkQueue} {memory : Bool} (e : QueueDispatch)
    (he : e ∈ if memory = true then some ⟨q, dispatch⟩ else none) : e.queue = q := by
  obtain ⟨_, he⟩ := ite_none_right_eq_some.mp he
  cases he
  rfl

theorem lookup_registerQueue_of_ne {q q' : VkQueue} (h : q' ≠ q) (dispatch : Nat) (memory : Bool)
    (l : List QueueDispatch) :
    lookup QueueDispatch.queue q' (registerQueue q dispatch memory l) = lookup QueueDispatch.queue q' l := by
  exact lookup_put_of_ne QueueDispatch.queue (fun e => {e with deviceDispatch := dispatch})
    (fun _ hq => hq) queue_of_new h l

theorem lookup_registerQueue_self (q : VkQueue) (dispatch : Nat) (memory : Bool) (l : List QueueDispatch) :
    lookup QueueDispatch.queue q (registerQueue q dispatch memory l) =
      if (lookup QueueDispatch.queue q l).isSome = true ∨ memory = true then some ⟨q, dispatch⟩ else none := by
  unfold registerQueue
  rw [lookup_put_self QueueDispatch.queue (fun e => {e with deviceDispatch := dispatch})
    (fun _ hq => hq) queue_of_new l]
  cases hl : lookup QueueDispatch.queue q l with
  | some e => simp [key_of_lookup hl]
  | none => cases memory <;> rfl

/-- The devices of the next layer and their entries, the entries of queues, and the device of every
queue that an application has got. -/
structure DeviceSide where
  devices : Registry VkDevice
  queues : List QueueDispatch
  deviceOf : VkQueue → Option VkDevice

/-- The sections of the calls that are about devices. -/
inductive DeviceAction where
  /-- The next layer has created a device for `vkCreateDevice`. -/
  | created (h : VkDevice)
  /-- `mvgal_vk_register_device`, and the address that `calloc` returns. -/
  | register (h : VkDevice) (memory : Option Nat)
  /-- `vkDestroyDevice` begins. -/
  | destroy (h : VkDevice)
  /-- The next layer has destroyed the device, and its queues with it. -/
  | destroyed (h : VkDevice)
  /-- `mvgal_vk_unregister_device`. -/
  | unregister (h : VkDevice)
  /-- `vkGetDeviceQueue` begins. -/
  | getQueue (h : VkDevice)
  /-- It registers the queue that the next layer returns, unless that is the null handle. -/
  | gotQueue (h : VkDevice) (dispatch : Nat) (q : Option VkQueue) (memory : Bool)
deriving Repr

namespace DeviceSide

/-- `mvgal_vk_find_queue_dispatch`. -/
def findQueue (s : DeviceSide) (q : VkQueue) : Option QueueDispatch := lookup QueueDispatch.queue q s.queues

/-- What an action is to the registry. A device that cannot be registered is not destroyed. -/
def event : DeviceAction → Event VkDevice
  | .created h => .make h
  | .register h (some a) => .register h a
  | .register h none => .refuse h false
  | .destroy h => .close h
  | .destroyed h => .destroy h
  | .unregister h => .unregister h
  | .getQueue h => .enter h
  | .gotQueue h dispatch _ _ => .leave h dispatch

def queuesAfter (s : DeviceSide) : DeviceAction → List QueueDispatch
  | .unregister h =>
    match s.devices.find h with
    | some victim => removeQueuesForDevice victim.address s.queues
    | none => s.queues
  | .gotQueue _ dispatch (some q) memory => registerQueue q dispatch memory s.queues
  | _ => s.queues

def deviceOfAfter (s : DeviceSide) : DeviceAction → VkQueue → Option VkDevice
  | .destroyed h => fun q => if s.deviceOf q = some h then none else s.deviceOf q
  | .gotQueue h _ (some q) _ => update s.deviceOf q (some h)
  | _ => s.deviceOf

/-- The next layer does not return a queue that belongs to another device. -/
def Returns (s : DeviceSide) : DeviceAction → Prop
  | .gotQueue h _ (some q) _ => s.deviceOf q = none ∨ s.deviceOf q = some h
  | _ => True

instance (s : DeviceSide) : DecidablePred s.Returns
  | .gotQueue h _ (some q) _ => inferInstanceAs (Decidable (s.deviceOf q = none ∨ s.deviceOf q = some h))
  | .gotQueue _ _ none _ | .created _ | .register _ _ | .destroy _ | .destroyed _ | .unregister _ | .getQueue _ =>
    .isTrue trivial

def step (s : DeviceSide) (a : DeviceAction) : Option DeviceSide :=
  if s.Returns a then (s.devices.step (event a)).map fun r => ⟨r, s.queuesAfter a, s.deviceOfAfter a⟩ else none

/-- Every queue of a live device is found with an entry that points to that of the device. -/
def LiveQueuesFound (s : DeviceSide) : Prop :=
  ∀ q h a, s.deviceOf q = some h → s.devices.status h = .live a → s.findQueue q = some ⟨q, a⟩

/-- Every live device and every queue of one is found with its own entry, and every entry of a queue
points to an entry that is registered. -/
structure Resolved (s : DeviceSide) : Prop where
  devices : s.devices.Resolves
  live : s.LiveQueuesFound
  queues : ∀ e ∈ s.queues, ∃ d ∈ s.devices.entries, d.address = e.deviceDispatch

/-- No entry is removed whose handle is that of a live device, and there is memory for the entry of
a queue that needs one. -/
def Orderly (s : DeviceSide) : DeviceAction → Prop
  | .unregister h => ¬(s.devices.status h).IsLive
  | .gotQueue _ _ (some q) memory => (s.findQueue q).isSome = true ∨ memory = true
  | _ => True

/-- A queue is one of a device that is there. -/
structure Inv (s : DeviceSide) : Prop where
  sound : s.devices.Sound
  deviceOf : ∀ q h, s.deviceOf q = some h → (s.devices.status h).InUse

variable {s s' : DeviceSide} {a : DeviceAction}

theorem step_some (h : s.step a = some s') :
    s.devices.step (event a) = some s'.devices ∧ s'.queues = s.queuesAfter a ∧ s'.deviceOf = s.deviceOfAfter a := by
  obtain ⟨_, h⟩ := ite_none_right_eq_some.mp h
  obtain ⟨r, hr, rfl⟩ := map_eq_some_iff.mp h
  exact ⟨hr, rfl, rfl⟩

variable (hi : s.Inv)
include hi

variable (hp : s.Resolved)
include hp

theorem Inv.step (h : s.step a = some s') : s'.Inv := by
  obtain ⟨hstep, _, hdevice⟩ := step_some h
  refine ⟨hi.sound.step hp.devices hstep, fun q k hk => ?_⟩
  rw [hdevice] at hk
  cases a with
  | destroyed k' =>
    have hk : (if s.deviceOf q = some k' then none else s.deviceOf q) = some k := hk
    obtain ⟨hother, hk⟩ := ite_none_left_eq_some.mp hk
    refine inUse_step hp.devices hstep (hi.deviceOf q k hk) fun heq => hother ?_
    obtain rfl := Event.destroy.inj heq
    exact hk
  | gotQueue k' dispatch q' memory =>
    have hbefore : (s.devices.status k).InUse := by
      have hcall : (k', dispatch) ∈ s.devices.calls := (Run.guarded hstep).1
      cases q' with
      | none => exact hi.deviceOf q k hk
      | some q' =>
        have hk : update s.deviceOf q' (some k') q = some k := hk
        by_cases heq : q = q'
        · subst heq
          rw [update_self] at hk
          obtain rfl := some.inj hk
          rw [hi.sound.live k' dispatch hcall]
          trivial
        · rw [update_of_ne heq] at hk
          exact hi.deviceOf q k hk
    exact inUse_step hp.devices hstep hbefore fun heq => nomatch heq
  | register k' memory =>
    refine inUse_step hp.devices hstep (hi.deviceOf q k hk) fun heq => ?_
    cases memory <;> exact nomatch heq
  | created k' | destroy k' | unregister k' | getQueue k' =>
    exact inUse_step hp.devices hstep (hi.deviceOf q k hk) fun heq => nomatch heq

/-- The entry that a live handle was registered with is not that of another handle. -/
theorem address_ne {h k : VkDevice} {e : Registry.Entry VkDevice} {b : Nat}
    (hfind : s.devices.find h = some e) (hlive : s.devices.status k = .live b) (hne : h ≠ k) : b ≠ e.address := by
  intro heq
  have hown := hp.devices k b hlive
  have hsame := List.inj_on_of_nodup_map hi.sound.distinct (mem_of_find hown) (mem_of_find hfind) heq
  have hhandle := handle_of_find hfind
  rw [← hsame] at hhandle
  exact hne hhandle.symm

/-- No entry of a queue points to one that is removed. -/
theorem queues_step (h : s.step a = some s') :
    ∀ e ∈ s'.queues, ∃ d ∈ s'.devices.entries, d.address = e.deviceDispatch := by
  obtain ⟨hstep, hqueues, _⟩ := step_some h
  have hkept : ∀ e ∈ s.queues,
      (∀ k d, event a = .unregister k → s.devices.find k = some d → d.address ≠ e.deviceDispatch) →
      ∃ d ∈ s'.devices.entries, d.address = e.deviceDispatch := by
    intro e he hother
    obtain ⟨d, hd, haddress⟩ := hp.queues e he
    exact ⟨d, mem_entries_step hstep hd fun k hk hfind => hother k d hk hfind haddress, haddress⟩
  rw [hqueues]
  cases a with
  | unregister k =>
    intro e he
    dsimp only [queuesAfter] at he
    cases hfind : s.devices.find k with
    | some victim =>
      rw [hfind] at he
      obtain ⟨he, hne⟩ := List.mem_filter.mp he
      refine hkept e he fun k' d hk hd haddress => ?_
      cases hk
      cases hfind.symm.trans hd
      exact of_decide_eq_true hne haddress.symm
    | none =>
      rw [hfind] at he
      refine hkept e he fun k' d hk hd _ => ?_
      cases hk
      exact nomatch hfind.symm.trans hd
  | gotQueue k dispatch q memory =>
    have hold := fun e he => hkept e he fun _ _ hk => nomatch hk
    cases q with
    | none => exact hold
    | some q =>
      have hcall : (k, dispatch) ∈ s.devices.calls := (Run.guarded hstep).1
      have hentry := hp.devices k dispatch (hi.sound.live k dispatch hcall)
      have hnew : ∃ d ∈ s'.devices.entries, d.address = dispatch :=
        ⟨_, mem_entries_step hstep (mem_of_find hentry) (fun _ hk => nomatch hk), rfl⟩
      refine forall_put (fun _ => hnew) (fun e he => ?_) hold
      obtain ⟨_, he⟩ := ite_none_right_eq_some.mp he
      cases he
      exact hnew
  | register k memory =>
    refine fun e he => hkept e he fun _ _ hk => ?_
    cases memory <;> exact nomatch hk
  | created k | destroy k | destroyed k | getQueue k => exact fun e he => hkept e he fun _ _ hk => nomatch hk

theorem live_of_same {e : Event VkDevice} (hstep : s.devices.step e = some s'.devices)
    (hqueues : s'.queues = s.queues) (hdevice : ∀ q k, s'.deviceOf q = some k → s.deviceOf q = some k) :
    s'.LiveQueuesFound := by
  intro q k b hk hlive
  have hfind : s'.findQueue q = s.findQueue q := congrArg (lookup QueueDispatch.queue q) hqueues
  rw [hfind]
  rcases live_step hstep hlive with hlive | ⟨_, hmade⟩
  · exact hp.live q k b (hdevice q k hk) hlive
  · have huse := hi.deviceOf q k (hdevice q k hk)
    rw [hmade] at huse
    exact absurd huse id

theorem live_unregister {k : VkDevice} (h : s.step (.unregister k) = some s')
    (hdead : ¬(s.devices.status k).IsLive) : s'.LiveQueuesFound := by
  obtain ⟨hstep, hqueues, hdevice⟩ := step_some h
  intro q k' b hk hlive
  rw [hdevice] at hk
  have hlive : s.devices.status k' = .live b :=
    (live_step hstep hlive).resolve_right fun hregister => nomatch hregister.1
  have hfound := hp.live q k' b hk hlive
  unfold findQueue
  rw [hqueues]
  dsimp only [queuesAfter]
  cases hfind : s.devices.find k with
  | none => exact hfound
  | some victim =>
    have hne : k ≠ k' := by
      rintro rfl
      exact hdead (Status.isLive_iff.mpr ⟨b, hlive⟩)
    exact lookup_filter hfound (decide_eq_true (address_ne hi hp hfind hlive hne))

/-- A queue that an application gets is found if it has an entry then. -/
theorem live_gotQueue_iff {k : VkDevice} {q : VkQueue} {memory : Bool}
    (h : s.step (.gotQueue k dispatch (some q) memory) = some s') :
    s'.LiveQueuesFound ↔ (s.findQueue q).isSome = true ∨ memory = true := by
  obtain ⟨hstep, hqueues, hdevice⟩ := step_some h
  obtain ⟨hcall, hleft⟩ := Run.guarded hstep
  have hstatus : s'.devices.status = s.devices.status := by rw [← hleft]
  have hlive := hi.sound.live k dispatch hcall
  have hown : s'.findQueue q = if (s.findQueue q).isSome = true ∨ memory = true then some ⟨q, dispatch⟩ else none := by
    unfold findQueue
    rw [hqueues]
    exact lookup_registerQueue_self q dispatch memory s.queues
  rw [LiveQueuesFound, hstatus, hdevice]
  constructor
  · intro hfound
    by_contra hnone
    have hq := hfound q k dispatch (update_self ..) hlive
    rw [hown, if_neg hnone] at hq
    cases hq
  · intro hok q' k' b hk hlive'
    dsimp only [deviceOfAfter] at hk
    by_cases heq : q' = q
    · subst heq
      rw [update_self] at hk
      cases hk
      cases hlive.symm.trans hlive'
      rw [hown, if_pos hok]
    · rw [update_of_ne heq] at hk
      unfold findQueue
      rw [hqueues]
      exact (lookup_registerQueue_of_ne heq dispatch memory s.queues).trans (hp.live q' k' b hk hlive')

theorem resolved_step_iff (h : s.step a = some s') : s'.Resolved ↔ s.Orderly a := by
  obtain ⟨hstep, hqueues, hdevice⟩ := step_some h
  have hresolves := resolves_step_iff hi.sound hp.devices hstep
  have hregistered := queues_step hi hp h
  cases a with
  | unregister k =>
    exact ⟨fun h' => hresolves.mp h'.devices,
      fun hdead => ⟨hresolves.mpr hdead, live_unregister hi hp h hdead, hregistered⟩⟩
  | gotQueue k dispatch q memory =>
    cases q with
    | none =>
      have hlive := live_of_same hi hp hstep hqueues fun q k' hk => by rwa [hdevice] at hk
      exact iff_of_true ⟨hresolves.mpr trivial, hlive, hregistered⟩ trivial
    | some q =>
      have hlive := live_gotQueue_iff hi hp h
      exact ⟨fun h' => hlive.mp h'.live, fun hok => ⟨hresolves.mpr trivial, hlive.mpr hok, hregistered⟩⟩
  | destroyed k =>
    have hlive := live_of_same hi hp hstep hqueues fun q k' hk => by
      rw [hdevice] at hk
      exact (ite_none_left_eq_some.mp hk).2
    exact iff_of_true ⟨hresolves.mpr trivial, hlive, hregistered⟩ trivial
  | register k memory =>
    have hlive := live_of_same hi hp hstep hqueues fun q k' hk => by rwa [hdevice] at hk
    cases memory <;> exact iff_of_true ⟨hresolves.mpr trivial, hlive, hregistered⟩ trivial
  | created k | destroy k | getQueue k =>
    have hlive := live_of_same hi hp hstep hqueues fun q k' hk => by rwa [hdevice] at hk
    exact iff_of_true ⟨hresolves.mpr trivial, hlive, hregistered⟩ trivial

end DeviceSide

/-- Both sides of the layer: `mvgal_layer_state_t` and what is around it. -/
structure VkLayer where
  instanceSide : InstanceSide
  deviceSide : DeviceSide

inductive VkAction where
  | onInstance (a : InstanceAction)
  | onDevice (a : DeviceAction)
deriving Repr

namespace VkLayer

def start : VkLayer := ⟨⟨Registry.empty, []⟩, ⟨Registry.empty, [], fun _ => none⟩⟩

def step (s : VkLayer) : VkAction → Option VkLayer
  | .onInstance a => (s.instanceSide.step a).map fun side => {s with instanceSide := side}
  | .onDevice a => (s.deviceSide.step a).map fun side => {s with deviceSide := side}

structure Resolved (s : VkLayer) : Prop where
  instanceSide : s.instanceSide.Resolved
  deviceSide : s.deviceSide.Resolved

def Orderly (s : VkLayer) : VkAction → Prop
  | .onInstance a => s.instanceSide.Orderly a
  | .onDevice a => s.deviceSide.Orderly a

structure Inv (s : VkLayer) : Prop where
  instanceSide : s.instanceSide.Inv
  deviceSide : s.deviceSide.Inv

variable {s s' : VkLayer} {a : VkAction}

theorem resolved_step_iff (hi : s.Inv) (hp : s.Resolved) (h : s.step a = some s') : s'.Resolved ↔ s.Orderly a := by
  cases a with
  | onInstance a =>
    obtain ⟨side, hside, rfl⟩ := map_eq_some_iff.mp h
    have hiff := InstanceSide.resolved_step_iff hi.instanceSide hp.instanceSide hside
    exact ⟨fun h' => hiff.mp h'.instanceSide, fun hok => ⟨hiff.mpr hok, hp.deviceSide⟩⟩
  | onDevice a =>
    obtain ⟨side, hside, rfl⟩ := map_eq_some_iff.mp h
    have hiff := DeviceSide.resolved_step_iff hi.deviceSide hp.deviceSide hside
    exact ⟨fun h' => hiff.mp h'.deviceSide, fun hok => ⟨hp.instanceSide, hiff.mpr hok⟩⟩

theorem Inv.step (hi : s.Inv) (hp : s.Resolved) (h : s.step a = some s') : s'.Inv := by
  cases a with
  | onInstance a =>
    obtain ⟨side, hside, rfl⟩ := map_eq_some_iff.mp h
    exact ⟨hi.instanceSide.step hp.instanceSide hside, hi.deviceSide⟩
  | onDevice a =>
    obtain ⟨side, hside, rfl⟩ := map_eq_some_iff.mp h
    exact ⟨hi.instanceSide, hi.deviceSide.step hp.deviceSide hside⟩

theorem start_inv : start.Inv where
  instanceSide := ⟨⟨List.nodup_nil, fun _ _ h => (nomatch h)⟩, fun _ h => (nomatch h)⟩
  deviceSide := ⟨⟨List.nodup_nil, fun _ _ h => (nomatch h)⟩, fun _ _ h => (nomatch h)⟩

theorem start_resolved : start.Resolved where
  instanceSide := ⟨fun _ _ h => (nomatch h), fun _ h => (nomatch h)⟩
  deviceSide := ⟨fun _ _ h => (nomatch h), fun _ _ _ h => (nomatch h), fun _ h => (nomatch h)⟩

end VkLayer

/-- **Handles and their entries.** In any interleaving of the calls of an application, every live
handle of an instance, a device or a queue is found with its own entry and every entry of a queue
or a physical device points to one that is registered, exactly if no entry is removed while its
handle is that of a live object and every queue that needs an entry gets one. -/
theorem handles_resolve_iff (actions : List VkAction) :
    Along VkLayer.step VkLayer.Resolved .start actions ↔ Admitted VkLayer.step VkLayer.Orderly .start actions :=
  Run.along_iff_admitted (I := VkLayer.Inv) (fun _ _ _ hi hp h => VkLayer.resolved_step_iff hi hp h)
    (fun _ _ _ hi hp h _ => hi.step hp h) VkLayer.start_inv VkLayer.start_resolved actions

/-- A second instance gets the handle of the first before the entry of that is removed: then it is
found with that entry. -/
theorem handle_found_with_old_entry : (Run.run VkLayer.step .start
      [.onInstance (.created 1), .onInstance (.register 1 (some 100)), .onInstance (.destroy 1),
        .onInstance (.destroyed 1), .onInstance (.created 1), .onInstance (.register 1 (some 200)),
        .onInstance (.unregister 1)]).map
      (fun s => (s.instanceSide.instances.status 1, s.instanceSide.instances.find 1)) =
        some (.live 200, some ⟨100, 1⟩) ∧ ¬Along VkLayer.step VkLayer.Resolved .start
      [.onInstance (.created 1), .onInstance (.register 1 (some 100)), .onInstance (.destroy 1),
        .onInstance (.destroyed 1), .onInstance (.created 1), .onInstance (.register 1 (some 200)),
        .onInstance (.unregister 1)] := by
  refine ⟨rfl, fun h => ?_⟩
  have hfound := (h.final rfl).instanceSide.instances 1 200 rfl
  exact nomatch hfound

end Mvgal.Vulkan
