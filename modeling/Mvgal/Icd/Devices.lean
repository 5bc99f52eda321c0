import Mvgal.Icd.QueueFamilies
import Mvgal.Lib.Arena
import Mvgal.Lib.Run

/-! Logical devices and their queues (`icd_entry.c`).

A device has a table of at most 64 queues. A queue handle is a place in the table of its
device plus one, so devices that both have queues share handles. A creation checks each
request against the family on its own and stops silently at the end of the table.
Submissions are counted at the device that was created last, whether it is the owner of
the queue, and whether it still exists. `queues_identified_iff` says for which histories
nothing of this shows. -/
namespace Mvgal.Icd
open List Arena
open Function (update_self update_of_ne update)

/-- `mvgal_icd_queue_t`, less the scheduler's id, which nothing reads. -/
structure Queue where
  familyIndex : Nat
  queueIndex : Nat
deriving DecidableEq

/-- `mvgal_logical_device_t`; its handle is its address. -/
structure Device where
  queues : List Queue
  submitCount : UInt64

def maxQueues : Nat := 64

/-- `VkDeviceQueueCreateInfo`. -/
structure QueueInfo where
  queueFamilyIndex : Nat
  queueCount : Nat

/-- The queues assigned so far, and `used_per_family`. -/
structure Table where
  queues : List Queue
  used : Nat → Nat

def Table.empty : Table := ⟨[], fun _ => 0⟩

def Table.push (t : Table) (family : Nat) : Table :=
  ⟨t.queues ++ [⟨family, t.used family⟩], update t.used family (t.used family + 1)⟩

def Table.assign (family : Nat) : Nat → Table → Table
  | 0, t => t
  | n + 1, t => if t.queues.length < maxQueues then assign family n (t.push family) else t

/-- Which of the three `calloc` calls succeed. -/
structure Allocations where
  families : Bool
  device : Bool
  used : Bool

variable (g : Gpus)

def advertised (family : Nat) : Nat := (((queueFamilies g)[family]?).map fun f => f.queueCount.toNat).getD 0

def Allocations.bound (mem : Allocations) (family : Nat) : Nat := if mem.families then advertised g family else 4

/-- How a creation ends; a crash is an access to `used_per_family` when that is null. -/
inductive Creation where
  | created (d : Device)
  | failed
  | crashed

def processInfos (mem : Allocations) (t : Table) : List QueueInfo → Creation
  | [] => .created ⟨t.queues, 0⟩
  | i :: rest =>
    if (queueFamilies g).length ≤ i.queueFamilyIndex then .failed
    else if mem.bound g i.queueFamilyIndex < i.queueCount then .failed
    else if mem.used = false ∧ i.queueCount ≠ 0 then .crashed
    else processInfos mem (t.assign i.queueFamilyIndex i.queueCount) rest

/-- `mvgal_vkCreateDevice`, up to the global pointer. -/
def createDevice (mem : Allocations) (infos : List QueueInfo) : Creation :=
  if mem.device = false then .failed else processInfos g mem .empty infos

/-- `mvgal_vkGetDeviceQueue`; 0 is `VK_NULL_HANDLE`. -/
def Device.getDeviceQueue (d : Device) (family index : Nat) : Nat :=
  match d.queues.findIdx? fun q => q.familyIndex = family ∧ q.queueIndex = index with
  | none => 0
  | some i => i + 1

/-- The devices and `g_active_logical_device`. -/
structure Driver where
  devices : Arena Device
  active : Option Nat

/-- The devices, with what was asked for: the queues requested of each family, and the
submissions to the queues of each device. -/
structure History extends Driver where
  requested : Nat → Nat → Nat
  submitted : Nat → UInt64

inductive DeviceCall where
  | createDevice (mem : Allocations) (infos : List QueueInfo)
  | destroyDevice (d : Nat)
  | getDeviceQueue (d family index : Nat)
  | queueSubmit (d family index : Nat)

def requestedOf (infos : List QueueInfo) (family : Nat) : Nat :=
  ((infos.filter (·.queueFamilyIndex = family)).map QueueInfo.queueCount).sum

def totalOf (infos : List QueueInfo) : Nat := (infos.map QueueInfo.queueCount).sum

def Device.count (d : Device) : Device := {d with submitCount := d.submitCount + 1}

/-- `mvgal_vkQueueSubmit`: the queue is not looked at. -/
def Driver.queueSubmit (w : Driver) : Except Unit Driver :=
  match w.active with
  | none => .ok w
  | some a =>
    match w.devices.cells a with
    | none => .error ()
    | some _ => .ok {w with devices := w.devices.modify a Device.count}

def History.created (w : History) (d : Device) (infos : List QueueInfo) : History where
  devices := w.devices.push d
  active := some w.devices.next
  requested := update w.requested w.devices.next (requestedOf infos)
  submitted := update w.submitted w.devices.next 0

def History.submit (w : History) (d : Nat) : Except Unit History :=
  w.queueSubmit.map fun v =>
    {v with
      requested := w.requested
      submitted := update w.submitted d (w.submitted d + 1)}

/-- Calls on live devices and on queues that were obtained from them; nothing follows a
crash. A submission that finds the active device destroyed is a fault. -/
def deviceCall (w : History) : DeviceCall → Option (Except Unit History)
  | .createDevice mem infos =>
    match createDevice g mem infos with
    | .crashed => none
    | .failed => some (.ok w)
    | .created d => some (.ok (w.created d infos))
  | .destroyDevice d =>
    if (w.devices.cells d).isSome then some (.ok {w with devices := w.devices.erase d}) else none
  | .getDeviceQueue d _ _ => if (w.devices.cells d).isSome then some (.ok w) else none
  | .queueSubmit d family index =>
    if (w.devices.cells d).any fun x => x.getDeviceQueue family index ≠ 0 then
      some (w.submit d)
    else none

/-- Handles identify queues, every device has the queues that were requested, with indices
that its family has, and submissions are counted where they were made. -/
structure Identified (w : History) : Prop where
  handles : ∀ d x f i d' x' f' i', w.devices.cells d = some x → w.devices.cells d' = some x' →
    x.getDeviceQueue f i ≠ 0 → x.getDeviceQueue f i = x'.getDeviceQueue f' i' → d = d' ∧ f = f' ∧ i = i'
  queues : ∀ d x f, w.devices.cells d = some x →
    (x.queues.filter (·.familyIndex = f)).length = w.requested d f
  indices : ∀ d x q, w.devices.cells d = some x → q ∈ x.queues → q.queueIndex < advertised g q.familyIndex
  submissions : ∀ d x, w.devices.cells d = some x → x.submitCount = w.submitted d

/-- The requests fit their families together and the table, and there are no other queues. -/
structure RequestOk (w : History) (infos : List QueueInfo) : Prop where
  families : ∀ f, requestedOf infos f ≤ advertised g f
  total : totalOf infos ≤ maxQueues
  alone : totalOf infos = 0 ∨ ∀ d x, w.devices.cells d = some x → x.queues = []

/-- A device that gets created meets `RequestOk`, and submissions are made to the device
that was created last. -/
def DeviceOk (w : History) : DeviceCall → Prop
  | .createDevice mem infos => ∀ d, createDevice g mem infos = .created d → RequestOk g w infos
  | .queueSubmit d _ _ => w.active = some d
  | _ => True

def Table.Numbered (t : Table) : Prop :=
  ∀ f, (t.queues.filter (·.familyIndex = f)).map Queue.queueIndex = List.range (t.used f)

variable {t : Table}

theorem Table.Numbered.push (h : t.Numbered) (family : Nat) : (t.push family).Numbered := by
  intro f
  have hf := h f
  simp only [Table.push, filter_append, map_append]
  by_cases hfam : f = family
  · subst hfam
    rw [update_self, range_succ, hf]
    simp
  · rw [update_of_ne hfam, hf]
    simp [Ne.symm hfam]

theorem Table.Numbered.assign (h : t.Numbered) (family n : Nat) : (t.assign family n).Numbered := by
  induction n generalizing t with
  | zero => exact h
  | succ n ih =>
    rw [Table.assign]
    split
    · exact ih (h.push family)
    · exact h

/-- As many queues are assigned as there is room for. -/
theorem Table.assign_spec (t : Table) (family n : Nat) :
    (t.assign family n).queues.length = t.queues.length + min n (maxQueues - t.queues.length) ∧
    (t.assign family n).used =
      update t.used family (t.used family + min n (maxQueues - t.queues.length)) := by
  induction n generalizing t with
  | zero => simp [Table.assign]
  | succ n ih =>
    rw [Table.assign]
    split
    · next hlt =>
      obtain ⟨hlen, hused⟩ := ih (t.push family)
      have hpush : (t.push family).queues.length = t.queues.length + 1 := by simp [Table.push]
      have hmin : min (n + 1) (maxQueues - t.queues.length) = min n (maxQueues - (t.queues.length + 1)) + 1 := by
        omega
      rw [hlen, hused, hpush, hmin]
      refine ⟨by omega, ?_⟩
      simp only [Table.push, update_self, Function.update_idem]
      congr 1
      omega
    · next hge =>
      have hmin : min (n + 1) (maxQueues - t.queues.length) = 0 := by omega
      rw [hmin]
      simp

/-- A table after requests: all were served, or the table is full and some family has
fewer queues than were requested. -/
def Table.Served (t : Table) (requested : Nat → Nat) (total : Nat) : Prop :=
  t.used = requested ∧ t.queues.length = total ∧ total ≤ maxQueues ∨
    maxQueues < total ∧ t.queues.length = maxQueues ∧ ∃ f, t.used f < requested f

theorem Table.Served.assign {requested : Nat → Nat} {total : Nat} (h : t.Served requested total)
    (family n : Nat) :
    (t.assign family n).Served (update requested family (requested family + n)) (total + n) := by
  obtain ⟨hlen, hused⟩ := t.assign_spec family n
  obtain ⟨rfl, rfl, hle⟩ | ⟨hlt, hfull, f, hf⟩ := h
  · by_cases hroom : t.queues.length + n ≤ maxQueues
    · have hmin : min n (maxQueues - t.queues.length) = n := by omega
      rw [hmin] at hlen hused
      exact .inl ⟨hused, hlen, hroom⟩
    · refine .inr ⟨by omega, by omega, family, ?_⟩
      rw [hused, update_self, update_self]
      omega
  · have hmin : min n (maxQueues - t.queues.length) = 0 := by omega
    rw [hmin, Nat.add_zero] at hlen hused
    rw [Function.update_eq_self] at hused
    refine .inr ⟨by omega, hlen.trans hfull, f, ?_⟩
    rw [hused]
    by_cases hfam : f = family
    · subst hfam
      rw [update_self]
      omega
    · rw [update_of_ne hfam]
      exact hf

theorem requestedOf_cons (i : QueueInfo) (rest : List QueueInfo) (f : Nat) :
    requestedOf (i :: rest) f = (if i.queueFamilyIndex = f then i.queueCount else 0) + requestedOf rest f := by
  unfold requestedOf
  by_cases h : i.queueFamilyIndex = f
  · simp [h]
  · simp [h]

variable {g} {mem : Allocations} {infos : List QueueInfo} {d : Device}

theorem processInfos_spec {requested : Nat → Nat} {total : Nat} (hn : t.Numbered)
    (hs : t.Served requested total) (h : processInfos g mem t infos = .created d) :
    ∃ t' : Table, d = ⟨t'.queues, 0⟩ ∧ t'.Numbered ∧
      t'.Served (fun f => requested f + requestedOf infos f) (total + totalOf infos) := by
  induction infos generalizing t requested total with
  | nil =>
    cases h
    exact ⟨t, rfl, hn, hs⟩
  | cons i rest ih =>
    rw [processInfos] at h
    split at h
    · cases h
    · split at h
      · cases h
      · split at h
        · cases h
        · obtain ⟨t', rfl, hn', hs'⟩ := ih (hn.assign _ _) (hs.assign _ _) h
          have hreq : (fun f => update requested i.queueFamilyIndex
              (requested i.queueFamilyIndex + i.queueCount) f + requestedOf rest f) =
                fun f => requested f + requestedOf (i :: rest) f := by
            funext f
            rw [requestedOf_cons]
            by_cases hf : f = i.queueFamilyIndex
            · subst hf
              rw [update_self, if_pos rfl, Nat.add_assoc]
            · rw [update_of_ne hf, if_neg (Ne.symm hf), Nat.zero_add]
          have htotal : total + i.queueCount + totalOf rest = total + totalOf (i :: rest) := by
            simp [totalOf, Nat.add_assoc]
          rw [hreq, htotal] at hs'
          exact ⟨t', rfl, hn', hs'⟩

theorem createDevice_spec (h : createDevice g mem infos = .created d) :
    ∃ t : Table, d = ⟨t.queues, 0⟩ ∧ t.Numbered ∧ t.Served (requestedOf infos) (totalOf infos) := by
  unfold createDevice at h
  split at h
  · cases h
  · have hempty : Table.empty.Served (fun _ => 0) 0 := .inl ⟨rfl, rfl, Nat.zero_le _⟩
    obtain ⟨t, hd, hn, hs⟩ := processInfos_spec (fun f => rfl) hempty h
    simp only [Nat.zero_add] at hs
    exact ⟨t, hd, hn, hs⟩

theorem Table.Numbered.length (h : t.Numbered) (f : Nat) :
    (t.queues.filter (·.familyIndex = f)).length = t.used f := by
  rw [← length_map, h f, length_range]

/-- Numbers from zero stay below a bound exactly when there are no more of them. -/
theorem Table.Numbered.indices_iff (h : t.Numbered) (bound : Nat → Nat) :
    (∀ q ∈ t.queues, q.queueIndex < bound q.familyIndex) ↔ ∀ f, t.used f ≤ bound f := by
  constructor
  · intro hall f
    by_contra hlt
    have hmem : bound f ∈ range (t.used f) := mem_range.mpr (Nat.lt_of_not_le hlt)
    rw [← h f] at hmem
    obtain ⟨q, hq, hidx⟩ := mem_map.mp hmem
    obtain ⟨hq, hfam⟩ := mem_filter.mp hq
    have hlt := hall q hq
    rw [hidx, of_decide_eq_true hfam] at hlt
    exact Nat.lt_irrefl _ hlt
  · intro hall q hq
    have hmem : q.queueIndex ∈ (t.queues.filter (·.familyIndex = q.familyIndex)).map Queue.queueIndex :=
      mem_map_of_mem (mem_filter.mpr ⟨hq, by simp⟩)
    rw [h q.familyIndex] at hmem
    exact Nat.lt_of_lt_of_le (mem_range.mp hmem) (hall q.familyIndex)

/-- **A new device** has the queues that were requested, with indices of their families,
exactly when the requests fit their families together and the table. -/
theorem created_right_iff (h : createDevice g mem infos = .created d) :
    ((∀ f, (d.queues.filter (·.familyIndex = f)).length = requestedOf infos f) ∧
      ∀ q ∈ d.queues, q.queueIndex < advertised g q.familyIndex) ↔
    (∀ f, requestedOf infos f ≤ advertised g f) ∧ totalOf infos ≤ maxQueues := by
  obtain ⟨t, rfl, hn, hs⟩ := createDevice_spec h
  rw [hn.indices_iff]
  simp only [hn.length]
  obtain ⟨hused, -, htotal⟩ | ⟨hfull, -, f, hf⟩ := hs
  · rw [hused]
    exact ⟨fun hall => ⟨hall.2, htotal⟩, fun hall => ⟨fun f => rfl, hall.1⟩⟩
  · refine iff_of_false (fun hall => ?_) fun hall => Nat.not_le.mpr hfull hall.2
    exact absurd (hall.1 f) (Nat.ne_of_lt hf)

theorem created_queues_eq_nil_iff (h : createDevice g mem infos = .created d) :
    d.queues = [] ↔ totalOf infos = 0 := by
  obtain ⟨t, rfl, -, ⟨-, hlen, -⟩ | ⟨hfull, hlen, -⟩⟩ := createDevice_spec h
  · rw [← hlen, length_eq_zero_iff]
  · refine iff_of_false (fun hnil => ?_) (Nat.ne_of_gt (Nat.lt_of_le_of_lt (Nat.zero_le _) hfull))
    change t.queues = [] at hnil
    rw [hnil] at hlen
    exact nomatch hlen

/-- A handle is the place of a queue with this family and index. -/
theorem getDeviceQueue_eq {f i k : Nat} (h : d.getDeviceQueue f i = k + 1) : d.queues[k]? = some ⟨f, i⟩ := by
  unfold Device.getDeviceQueue at h
  split at h
  · cases h
  · next j hj =>
    cases h
    obtain ⟨hlt, hq, -⟩ := findIdx?_eq_some_iff_getElem.mp hj
    obtain ⟨hf, hi⟩ := of_decide_eq_true hq
    rw [getElem?_eq_getElem hlt, ← hf, ← hi]

theorem getDeviceQueue_inj {f i f' i' : Nat} (h : d.getDeviceQueue f i ≠ 0)
    (heq : d.getDeviceQueue f i = d.getDeviceQueue f' i') : f = f' ∧ i = i' := by
  obtain ⟨k, hk⟩ := Nat.exists_eq_succ_of_ne_zero h
  have hq := (getDeviceQueue_eq hk).symm.trans (getDeviceQueue_eq (heq.symm.trans hk))
  exact ⟨congrArg Queue.familyIndex (Option.some.inj hq), congrArg Queue.queueIndex (Option.some.inj hq)⟩

theorem getDeviceQueue_of_nil (h : d.queues = []) (f i : Nat) : d.getDeviceQueue f i = 0 := by
  unfold Device.getDeviceQueue
  rw [h]
  rfl

theorem exists_first_handle (h : d.queues ≠ []) : ∃ f i, d.getDeviceQueue f i = 1 := by
  obtain ⟨q, rest, hq⟩ := exists_cons_of_ne_nil h
  refine ⟨q.familyIndex, q.queueIndex, ?_⟩
  unfold Device.getDeviceQueue
  rw [hq, findIdx?_cons]
  simp

variable {w w' : History}

theorem Identified.erase (h : Identified g w) (d : Nat) : Identified g {w with devices := w.devices.erase d} := by
  have hback {e : Nat} {x : Device} (hx : (w.devices.erase d).cells e = some x) : w.devices.cells e = some x :=
    (of_erase hx).2
  exact ⟨fun e x f i e' x' f' i' hx hx' => h.handles e x f i e' x' f' i' (hback hx) (hback hx'),
    fun e x f hx => h.queues e x f (hback hx), fun e x q hx => h.indices e x q (hback hx),
    fun e x hx => h.submissions e x (hback hx)⟩

variable {e : Nat}

theorem created_cell {x : Device} (hx : (w.created d infos).devices.cells e = some x) :
    e = w.devices.next ∧ x = d ∨ e ≠ w.devices.next ∧ w.devices.cells e = some x := by
  change (w.devices.push d).cells e = some x at hx
  rw [push_cells] at hx
  split at hx
  · next he => exact .inl ⟨he, (Option.some.inj hx).symm⟩
  · next he => exact .inr ⟨he, hx⟩

/-- A new device shares no handle with the others exactly when it has no queues, or it
alone has. -/
theorem handles_created_iff (h : Identified g w) :
    (∀ e x f i e' x' f' i', (w.created d infos).devices.cells e = some x →
      (w.created d infos).devices.cells e' = some x' → x.getDeviceQueue f i ≠ 0 →
      x.getDeviceQueue f i = x'.getDeviceQueue f' i' → e = e' ∧ f = f' ∧ i = i') ↔
    d.queues = [] ∨ ∀ e x, w.devices.cells e = some x → x.queues = [] := by
  have hself : (w.created d infos).devices.cells w.devices.next = some d := push_self ..
  have hold {e : Nat} {x : Device} (hx : w.devices.cells e = some x) :
      (w.created d infos).devices.cells e = some x := push_of_some hx
  constructor
  · intro hall
    by_contra hno
    obtain ⟨hne, hno⟩ := not_or.mp hno
    simp only [not_forall] at hno
    obtain ⟨e, x, hx, hxq⟩ := hno
    obtain ⟨f, i, hfi⟩ := exists_first_handle hne
    obtain ⟨f', i', hfi'⟩ := exists_first_handle hxq
    have heq := (hall _ d f i e x f' i' hself (hold hx) (by rw [hfi]; simp) (hfi.trans hfi'.symm)).1
    exact absurd (heq ▸ hx) (by simp)
  · intro hempty e x f i e' x' f' i' hx hx' hne heq
    have hnil {y : Device} {f i : Nat} (hy : y.queues = []) : y.getDeviceQueue f i = 0 :=
      getDeviceQueue_of_nil hy f i
    obtain ⟨rfl, rfl⟩ | ⟨-, hx₀⟩ := created_cell hx
    · obtain ⟨rfl, rfl⟩ | ⟨-, hx₀'⟩ := created_cell hx'
      · exact ⟨rfl, getDeviceQueue_inj hne heq⟩
      · obtain hempty | hempty := hempty
        · exact absurd (hnil hempty) hne
        · exact absurd (heq.trans (hnil (hempty e' x' hx₀'))) hne
    · obtain ⟨rfl, rfl⟩ | ⟨-, hx₀'⟩ := created_cell hx'
      · obtain hempty | hempty := hempty
        · exact absurd (heq.trans (hnil hempty)) hne
        · exact absurd (hnil (hempty e x hx₀)) hne
      · exact h.handles e x f i e' x' f' i' hx₀ hx₀' hne heq

theorem identified_created_iff (h : Identified g w) (hd : createDevice g mem infos = .created d) :
    Identified g (w.created d infos) ↔ RequestOk g w infos := by
  have hself : (w.created d infos).devices.cells w.devices.next = some d := push_self ..
  have hnil := created_queues_eq_nil_iff hd
  constructor
  · intro hw
    have hright := (created_right_iff hd).mp ⟨fun f => ?_, fun q => hw.indices _ d q hself⟩
    · exact ⟨hright.1, hright.2, ((handles_created_iff h).mp hw.handles).imp_left hnil.mp⟩
    · exact (hw.queues _ d f hself).trans (congrFun (update_self ..) f)
  · intro hok
    obtain ⟨hqueues, hindices⟩ := (created_right_iff hd).mpr ⟨hok.families, hok.total⟩
    refine ⟨(handles_created_iff h).mpr (hok.alone.imp_left hnil.mpr), fun e x f hx => ?_, fun e x q hx => ?_,
      fun e x hx => ?_⟩
    · obtain ⟨rfl, rfl⟩ | ⟨he, hx⟩ := created_cell hx
      · exact (hqueues f).trans (congrFun (update_self ..) f).symm
      · exact (h.queues e x f hx).trans (congrFun (update_of_ne he ..) f).symm
    · obtain ⟨rfl, rfl⟩ | ⟨he, hx⟩ := created_cell hx
      · exact hindices q
      · exact h.indices e x q hx
    · obtain ⟨rfl, rfl⟩ | ⟨he, hx⟩ := created_cell hx
      · obtain ⟨t, rfl, -, -⟩ := createDevice_spec hd
        show (0 : UInt64) = update w.submitted w.devices.next 0 w.devices.next
        rw [update_self]
      · exact (h.submissions e x hx).trans (update_of_ne he ..).symm

theorem count_cell {A : Arena Device} {a : Nat} {x : Device} (hx : (A.modify a Device.count).cells e = some x) :
    ∃ y, A.cells e = some y ∧ x.queues = y.queues ∧ (e ≠ a → x = y) := by
  obtain ⟨rfl, y, hy, rfl⟩ | ⟨-, hx⟩ := of_modify hx
  · exact ⟨y, hy, rfl, fun hne => absurd rfl hne⟩
  · exact ⟨x, hx, rfl, fun _ => rfl⟩

theorem Identified.counted {y : Device} (h : Identified g w) (hy : w.devices.cells e = some y) :
    Identified g {w with
      devices := w.devices.modify e Device.count
      submitted := update w.submitted e (w.submitted e + 1)} := by
  have hhandle {x z : Device} (hq : x.queues = z.queues) (f i : Nat) :
      x.getDeviceQueue f i = z.getDeviceQueue f i := by
    unfold Device.getDeviceQueue
    rw [hq]
  refine ⟨fun d x f i d' x' f' i' hx hx' => ?_, fun d x f hx => ?_, fun d x q hx => ?_, fun d x hx => ?_⟩
  · obtain ⟨z, hz, hq, -⟩ := count_cell hx
    obtain ⟨z', hz', hq', -⟩ := count_cell hx'
    rw [hhandle hq, hhandle hq']
    exact h.handles d z f i d' z' f' i' hz hz'
  · obtain ⟨z, hz, hq, -⟩ := count_cell hx
    rw [hq]
    exact h.queues d z f hz
  · obtain ⟨z, hz, hq, -⟩ := count_cell hx
    rw [hq]
    exact h.indices d z q hz
  · by_cases hd : d = e
    · subst hd
      rw [modify_self, hy] at hx
      cases hx
      show y.submitCount + 1 = update w.submitted d (w.submitted d + 1) d
      rw [update_self, h.submissions d y hy]
    · obtain ⟨z, hz, -, hsame⟩ := count_cell hx
      rw [hsame hd]
      exact (h.submissions d z hz).trans (update_of_ne hd ..).symm

/-- A submission is counted right exactly when the device that was created last is the
owner of the queue. -/
theorem submit_safe_iff {y : Device} (h : Identified g w) (hy : w.devices.cells e = some y) :
    Run.Safe (Identified g) (w.submit e) ↔ w.active = some e := by
  have hne (n : UInt64) : n ≠ n + 1 := fun heq => absurd (left_eq_add.mp heq) (by decide)
  cases ha : w.active with
  | none =>
    -- Nobody counts, so the owner misses the submission.
    refine iff_of_false (fun hw => ?_) (by simp)
    simp only [History.submit, Driver.queueSubmit, ha, Except.map] at hw
    have hcount := Identified.submissions hw e y hy
    change y.submitCount = update w.submitted e (w.submitted e + 1) e at hcount
    rw [update_self, ← h.submissions e y hy] at hcount
    exact hne _ hcount
  | some a =>
    cases hx : w.devices.cells a with
    | none =>
      refine iff_of_false (fun hw => ?_) fun heq => ?_
      · simp only [History.submit, Driver.queueSubmit, ha, hx, Except.map] at hw
        exact hw
      · rw [Option.some.inj heq, hy] at hx
        cases hx
    | some x =>
      by_cases hae : a = e
      · subst hae
        refine iff_of_true ?_ rfl
        simp only [History.submit, Driver.queueSubmit, ha, hx, Except.map]
        exact ha ▸ h.counted hy
      · -- Another device counts a submission that it did not get.
        refine iff_of_false (fun hw => ?_) fun heq => hae (Option.some.inj heq)
        simp only [History.submit, Driver.queueSubmit, ha, hx, Except.map] at hw
        have hcell : (w.devices.modify a Device.count).cells a = some x.count := by
          rw [modify_self, hx]
          rfl
        have hcount := Identified.submissions hw a x.count hcell
        change x.submitCount + 1 = update w.submitted e (w.submitted e + 1) a at hcount
        rw [update_of_ne hae, ← h.submissions a x hx] at hcount
        exact hne _ hcount.symm

theorem deviceCall_safe_iff {a : DeviceCall} {r : Except Unit History} (h : Identified g w)
    (hrun : deviceCall g w a = some r) : Run.Safe (Identified g) r ↔ DeviceOk g w a := by
  cases a with
  | createDevice mem infos =>
    cases hd : createDevice g mem infos with
    | crashed =>
      simp only [deviceCall, hd] at hrun
      cases hrun
    | failed =>
      simp only [deviceCall, hd] at hrun
      cases hrun
      exact iff_of_true h fun d heq => absurd (hd.symm.trans heq) (by simp)
    | created d =>
      simp only [deviceCall, hd] at hrun
      cases hrun
      refine (identified_created_iff h hd).trans ⟨fun hok _ _ => hok, fun hok => hok d hd⟩
  | destroyDevice d =>
    obtain ⟨-, rfl⟩ := Run.guarded hrun
    exact iff_of_true (h.erase d) trivial
  | getDeviceQueue d family index =>
    obtain ⟨-, rfl⟩ := Run.guarded hrun
    exact iff_of_true h trivial
  | queueSubmit d family index =>
    obtain ⟨hlive, rfl⟩ := Run.guarded hrun
    cases hy : w.devices.cells d with
    | none => exact absurd hlive (by simp [hy])
    | some y => exact submit_safe_iff h hy

def History.zero : History := ⟨⟨.empty, none⟩, fun _ _ => 0, fun _ => 0⟩

theorem identified_zero : Identified g History.zero where
  handles := fun _ _ _ _ _ _ _ _ h => absurd h (by simp [History.zero])
  queues := fun _ _ _ h => absurd h (by simp [History.zero])
  indices := fun _ _ _ h => absurd h (by simp [History.zero])
  submissions := fun _ _ h => absurd h (by simp [History.zero])

/-- **Queues.** Along a history, handles identify queues, devices have the queues that were
requested, and every submission is counted at its device and reaches no destroyed one,
exactly when each device that is created with queues is the only one with queues and
asks for no more than its families and the table have, and every submission goes to the
device that was created last. -/
theorem queues_identified_iff (g : Gpus) (calls : List DeviceCall) :
    Run.Along (Run.faulting (deviceCall g)) (Run.Safe (Identified g)) (.ok History.zero) calls ↔
      Run.Admitted (Run.faulting (deviceCall g)) (Run.Allowed (DeviceOk g)) (.ok History.zero) calls :=
  Run.safe_along_iff_of_exact (fun _ _ _ hp hrun => deviceCall_safe_iff hp hrun) identified_zero calls

/-- Two devices with one graphics queue each. -/
theorem two_devices_share_a_handle :
    ¬ Run.Along (Run.faulting (deviceCall ⟨1, fun _ => some featureGraphics⟩))
      (Run.Safe (Identified ⟨1, fun _ => some featureGraphics⟩)) (.ok History.zero)
      [.createDevice ⟨true, true, true⟩ [⟨0, 1⟩], .createDevice ⟨true, true, true⟩ [⟨0, 1⟩]] := by
  intro h
  have hrun : ∃ w x y, Run.run (Run.faulting (deviceCall ⟨1, fun _ => some featureGraphics⟩)) (.ok History.zero)
      [.createDevice ⟨true, true, true⟩ [⟨0, 1⟩], .createDevice ⟨true, true, true⟩ [⟨0, 1⟩]] = some (.ok w) ∧
      w.devices.cells 0 = some x ∧ w.devices.cells 1 = some y ∧ x.getDeviceQueue 0 0 = 1 ∧
      y.getDeviceQueue 0 0 = 1 :=
    ⟨_, _, _, rfl, rfl, rfl, rfl, rfl⟩
  obtain ⟨w, x, y, hw, hx, hy, hxq, hyq⟩ := hrun
  have hid : Identified _ w := h.final hw
  have heq := (hid.handles 0 x 0 0 1 y 0 0 hx hy (by rw [hxq]; decide) (hxq.trans hyq.symm)).1
  exact nomatch heq

end Mvgal.Icd
