import Mvgal.Lib.Arena
import Mvgal.Lib.Run
import Mvgal.Lib.Slots

/-! The command buffers the rewrite engine keeps track of (`command_buffer_rewrite.c`).

`mvgal_rewrite_register_command_buffer` puts a handle in the first inactive slot, or behind the
slots used so far with a newly allocated array for the rewritten command buffers.
`mvgal_rewrite_unregister_command_buffer` frees the array and makes the slot inactive;
`mvgal_rewrite_get_command_buffer` reads the array of the first active slot with a handle. Each
holds `tracking_lock` throughout.

The slots are meant to be a map from the registered handles to arrays of their own, with room
for 1024 handles. A slot that is used again gets no array, a handle can be registered twice, and
the slots used so far are counted but never fewer. `tracking_map_iff` says which calls keep the
map. -/
namespace Mvgal.Rewrite
open List Slots
open Run (Along Admitted)
open Slots (inUse changeFirst lookup serves)

/-- The results of the calls of the engine. -/
inductive Result where
  | success
  | alreadyInitialized
  | notInitialized
  | outOfMemory
  | invalidParameter
  | notFound
deriving DecidableEq, Repr

/-- `VkCommandBuffer`; 0 is `VK_NULL_HANDLE`. -/
abbrev Handle := UInt64

/-- An entry of `tracking`. `rewritten` is `NULL` or the number of an array. -/
structure Entry where
  original : Handle
  rewritten : Option Nat
  active : Bool
deriving DecidableEq, Repr

def maxRewriteEntries : Nat := 1024

/-- The first `tracking_count` entries of `tracking`, and the arrays. -/
structure Tracking where
  gpuCount : Nat
  entries : List Entry
  bounded : entries.length ≤ maxRewriteEntries
  arrays : Arena (List Handle)

namespace Tracking

def initial (gpuCount : Nat) : Tracking := ⟨gpuCount, [], Nat.zero_le _, Arena.empty⟩

/-- The entry that `mvgal_rewrite_get_command_buffer` and
`mvgal_rewrite_unregister_command_buffer` find. -/
def find (s : Tracking) (original : Handle) : Option Entry := lookup Entry.active Entry.original s.entries original

def addEntry (s : Tracking) (alloc : Bool) (original : Handle) (h : s.entries.length < maxRewriteEntries) : Tracking where
  gpuCount := s.gpuCount
  entries := s.entries ++ [⟨original, if alloc then some s.arrays.next else none, true⟩]
  bounded := by
    rw [List.length_append]
    exact h
  arrays := if alloc then s.arrays.push (List.replicate s.gpuCount 0) else s.arrays

/-- The first inactive entry is used again; its `rewritten` is left as it is. -/
def reuseEntry (s : Tracking) (original : Handle) : Tracking where
  gpuCount := s.gpuCount
  entries := changeFirst (fun e => !e.active) (fun e => {e with original := original, active := true}) s.entries
  bounded := by
    rw [Slots.length_changeFirst]
    exact s.bounded
  arrays := s.arrays

/-- `mvgal_rewrite_register_command_buffer`; `alloc` is the outcome of its `calloc`, which is
not looked at. -/
def registerCommandBuffer (alloc : Bool) (original : Handle) (s : Tracking) : Result × Tracking :=
  if h : s.entries.length < maxRewriteEntries then
    match s.entries.find? fun e => !e.active with
    | some _ => (.success, s.reuseEntry original)
    | none => (.success, s.addEntry alloc original h)
  else (.outOfMemory, s)

/-- `mvgal_rewrite_get_command_buffer`; `none` is a read through `NULL` or outside an array. -/
def getCommandBuffer (original : Handle) (gpuIndex : Nat) (s : Tracking) : Option Handle :=
  match s.find original with
  | some e =>
    if gpuIndex < s.gpuCount then do
      let array ← e.rewritten
      let buffers ← s.arrays.cells array
      buffers[gpuIndex]?
    else some 0
  | none => some 0

def dropEntry (s : Tracking) (original : Handle) (e : Entry) : Tracking where
  gpuCount := s.gpuCount
  entries := changeFirst (serves Entry.active Entry.original original)
    (fun e => {e with rewritten := none, active := false}) s.entries
  bounded := by
    rw [Slots.length_changeFirst]
    exact s.bounded
  arrays :=
    match e.rewritten with
    | some array => s.arrays.erase array
    | none => s.arrays

def unregisterCommandBuffer (original : Handle) (s : Tracking) : Result × Tracking :=
  match s.find original with
  | some e => (.success, s.dropEntry original e)
  | none => (.notFound, s)

end Tracking

/-- The table, and the handles registered and not yet unregistered. -/
structure TrackingState where
  table : Tracking
  registered : Finset Handle

inductive TrackingCall where
  | register (alloc : Bool) (original : Handle)
  | get (original : Handle) (gpuIndex : Nat)
  | unregister (original : Handle)

def trackingStep (s : TrackingState) : TrackingCall → Option TrackingState
  | .register alloc original =>
    let r := s.table.registerCommandBuffer alloc original
    some ⟨r.2, if r.1 = .success then insert original s.registered else s.registered⟩
  | .get _ _ => some s
  | .unregister original => some ⟨(s.table.unregisterCommandBuffer original).2, s.registered.erase original⟩

abbrev Tracking.used (s : Tracking) : List Entry := inUse Entry.active s.entries

/-- The entry has an array with a place for each GPU. -/
def Tracking.HasBuffers (s : Tracking) (e : Entry) : Prop :=
  ∃ array buffers, e.rewritten = some array ∧ s.arrays.cells array = some buffers ∧ buffers.length = s.gpuCount

/-- **The table is a map of capacity 1024**: it has one entry for a handle, a registered handle
is found with an array that no other entry has, no other handle is found, and a new handle is
refused only with 1024 handles registered. -/
structure TrackingMap (s : TrackingState) : Prop where
  single : (s.table.used.map Entry.original).Nodup
  found : ∀ h ∈ s.registered, ∃ e, s.table.find h = some e ∧ s.table.HasBuffers e
  own : (s.table.used.map Entry.rewritten).Nodup
  absent : ∀ h, h ∉ s.registered → s.table.find h = none
  capacity : ∀ h, h ∉ s.registered → ∀ alloc, (s.table.registerCommandBuffer alloc h).1 ≠ .success →
    s.registered.card = maxRewriteEntries

/-- A registration that is not refused is of a new handle, finds no inactive entry and gets its
memory; a registered handle is unregistered before the last slot was used. -/
def TrackingOk (s : TrackingState) : TrackingCall → Prop
  | .register alloc original => s.table.entries.length < maxRewriteEntries →
      (∀ e ∈ s.table.entries, e.active = true) ∧ original ∉ s.registered ∧ alloc = true
  | .get _ _ => True
  | .unregister original => original ∈ s.registered → s.table.entries.length < maxRewriteEntries

/-- Inactive entries have no array. -/
def Cleared (s : TrackingState) : Prop := ∀ e ∈ s.table.entries, e.active = false → e.rewritten = none

variable {s : TrackingState} {h : Handle} {alloc : Bool}

/-! ### What a map is, over the active entries -/

theorem TrackingMap.mem_iff (hm : TrackingMap s) : h ∈ s.registered ↔ ∃ e ∈ s.table.used, e.original = h := by
  constructor
  · intro hh
    obtain ⟨e, hfind, -⟩ := hm.found h hh
    obtain ⟨hmem, hkey⟩ := lookup_mem hfind
    exact ⟨e, hmem, hkey⟩
  · rintro ⟨e, he, rfl⟩
    by_contra hh
    exact lookup_eq_none_iff.mp (hm.absent _ hh) e he rfl

variable {e : Entry}

theorem TrackingMap.hasBuffers (hm : TrackingMap s) (he : e ∈ s.table.used) : s.table.HasBuffers e := by
  obtain ⟨e', hfind, hbuffers⟩ := hm.found e.original (hm.mem_iff.mpr ⟨e, he, rfl⟩)
  have hself : s.table.find e.original = some e := lookup_of_mem hm.single he
  rw [hself] at hfind
  cases hfind
  exact hbuffers

/-- As many handles are registered as there are active entries. -/
theorem TrackingMap.card (hm : TrackingMap s) : s.registered.card = s.table.used.length := by
  have heq : s.registered = (s.table.used.map Entry.original).toFinset := by
    ext h
    rw [hm.mem_iff, mem_toFinset, mem_map]
  rw [heq, toFinset_card_of_nodup hm.single, length_map]

theorem used_length_le (s : TrackingState) : s.table.used.length ≤ s.table.entries.length := length_filter_le ..

/-- A new handle is refused exactly if the last slot was used. -/
theorem register_refused_iff (s : Tracking) (alloc : Bool) (h : Handle) :
    (s.registerCommandBuffer alloc h).1 ≠ .success ↔ s.entries.length = maxRewriteEntries := by
  have hbound := s.bounded
  unfold Tracking.registerCommandBuffer
  split
  · rename_i hlt
    split
    · simp [Nat.ne_of_lt hlt]
    · simp [Nat.ne_of_lt hlt]
  · rename_i hge
    simp [Nat.le_antisymm hbound (Nat.le_of_not_lt hge)]

/-- A table is a map of the registered handles if its active entries are. -/
theorem trackingMap_of_used (hsingle : (s.table.used.map Entry.original).Nodup)
    (hmem : ∀ h, h ∈ s.registered ↔ ∃ e ∈ s.table.used, e.original = h)
    (hbuffers : ∀ e ∈ s.table.used, s.table.HasBuffers e) (hown : (s.table.used.map Entry.rewritten).Nodup)
    (hcapacity : s.table.entries.length = maxRewriteEntries → s.registered.card = maxRewriteEntries) :
    TrackingMap s where
  single := hsingle
  found := by
    intro h hh
    obtain ⟨e, he, rfl⟩ := (hmem h).mp hh
    exact ⟨e, lookup_of_mem hsingle he, hbuffers e he⟩
  own := hown
  absent := by
    intro h hh
    exact lookup_eq_none_iff.mpr fun e he hkey => hh ((hmem h).mpr ⟨e, he, hkey⟩)
  capacity := fun h _ alloc hrefused => hcapacity ((register_refused_iff s.table alloc h).mp hrefused)

theorem register_cases (s : Tracking) (alloc : Bool) (h : Handle) :
    ¬ s.entries.length < maxRewriteEntries ∧ s.registerCommandBuffer alloc h = (.outOfMemory, s) ∨
      (∃ e, s.entries.length < maxRewriteEntries ∧ s.entries.find? (fun e => !e.active) = some e ∧
        s.registerCommandBuffer alloc h = (.success, s.reuseEntry h)) ∨
      ∃ hlt : s.entries.length < maxRewriteEntries, (∀ e ∈ s.entries, e.active = true) ∧
        s.registerCommandBuffer alloc h = (.success, s.addEntry alloc h hlt) := by
  unfold Tracking.registerCommandBuffer
  split
  · rename_i hlt
    cases hfree : s.entries.find? fun e => !e.active with
    | some e => exact .inr (.inl ⟨e, hlt, rfl, rfl⟩)
    | none => exact .inr (.inr ⟨hlt, by simpa using find?_eq_none.mp hfree, rfl⟩)
  · rename_i hge
    exact .inl ⟨hge, rfl⟩

/-! ### A slot that is used again -/

/-- A handle whose entry has no array breaks the map. -/
theorem not_trackingMap_of_null (he : e ∈ s.table.used) (hnull : e.rewritten = none) : ¬ TrackingMap s := by
  intro hm
  obtain ⟨array, -, harray, -⟩ := hm.hasBuffers he
  rw [hnull] at harray
  cases harray

theorem not_trackingMap_reuse (hc : Cleared s) (hfree : s.table.entries.find? (fun e => !e.active) = some e) :
    ¬ TrackingMap ⟨s.table.reuseEntry h, insert h s.registered⟩ := by
  have hinactive : e.active = false := by simpa using find?_some hfree
  have hused : (s.table.reuseEntry h).used.Perm ({e with original := h, active := true} :: s.table.used) :=
    inUse_claim hfree rfl
  apply not_trackingMap_of_null (hused.mem_iff.mpr mem_cons_self)
  exact hc e (mem_of_find?_eq_some hfree) hinactive

/-! ### A slot behind the others -/

theorem used_addEntry (s : Tracking) (alloc : Bool) (h : Handle) (hlt : s.entries.length < maxRewriteEntries) :
    (s.addEntry alloc h hlt).used = s.used ++ [⟨h, if alloc then some s.arrays.next else none, true⟩] :=
  filter_append ..

theorem Tracking.HasBuffers.addEntry {s : Tracking} (hb : s.HasBuffers e) (alloc : Bool) (h : Handle)
    (hlt : s.entries.length < maxRewriteEntries) : (s.addEntry alloc h hlt).HasBuffers e := by
  obtain ⟨array, buffers, harray, hcell, hlength⟩ := hb
  refine ⟨array, buffers, harray, ?_, hlength⟩
  cases alloc with
  | true => exact Arena.push_of_some hcell
  | false => exact hcell

theorem nodup_map_concat {α β : Type} {f : α → β} {l : List α} {a : α} (h : (l.map f).Nodup)
    (hne : ∀ x ∈ l, f x ≠ f a) : ((l ++ [a]).map f).Nodup := by
  rw [map_append, nodup_append]
  refine ⟨h, nodup_singleton _, fun b hb c hc => ?_⟩
  obtain ⟨x, hx, rfl⟩ := mem_map.mp hb
  rw [map_singleton, mem_singleton] at hc
  rw [hc]
  exact hne x hx

theorem trackingMap_addEntry (hm : TrackingMap s) (hlt : s.table.entries.length < maxRewriteEntries)
    (hall : ∀ e ∈ s.table.entries, e.active = true) (hnew : h ∉ s.registered) :
    TrackingMap ⟨s.table.addEntry true h hlt, insert h s.registered⟩ := by
  have hused := used_addEntry s.table true h hlt
  apply trackingMap_of_used
  · show ((s.table.addEntry true h hlt).used.map Entry.original).Nodup
    rw [hused]
    exact nodup_map_concat hm.single fun e he heq => hnew (hm.mem_iff.mpr ⟨e, he, heq⟩)
  · intro h'
    rw [Finset.mem_insert, hm.mem_iff, hused]
    constructor
    · rintro (rfl | ⟨e, he, hkey⟩)
      · exact ⟨_, mem_append_right _ (mem_singleton_self _), rfl⟩
      · exact ⟨e, mem_append_left _ he, hkey⟩
    · rintro ⟨e, he, rfl⟩
      rw [mem_append, mem_singleton] at he
      obtain he | rfl := he
      · exact .inr ⟨e, he, rfl⟩
      · exact .inl rfl
  · intro e he
    rw [hused, mem_append, mem_singleton] at he
    obtain he | rfl := he
    · exact (hm.hasBuffers he).addEntry true h hlt
    · exact ⟨s.table.arrays.next, _, rfl, Arena.push_self .., length_replicate⟩
  · show ((s.table.addEntry true h hlt).used.map Entry.rewritten).Nodup
    rw [hused]
    refine nodup_map_concat hm.own fun e he => ?_
    -- The new array has a number that no array had.
    obtain ⟨array, buffers, harray, hcell, -⟩ := hm.hasBuffers he
    rw [harray]
    intro heq
    exact Nat.ne_of_lt (Arena.lt_next hcell) (Option.some.inj heq)
  · intro hfull
    have hlength : (s.table.entries ++ _).length = maxRewriteEntries := hfull
    have hevery : s.table.used = s.table.entries := filter_eq_self.mpr hall
    rw [Finset.card_insert_of_notMem hnew, hm.card, hevery, ← hlength, length_append]
    rfl

/-- Behind the others a handle gets an entry of its own exactly if it is new and has memory. -/
theorem trackingMap_addEntry_iff (hm : TrackingMap s) (hlt : s.table.entries.length < maxRewriteEntries)
    (hall : ∀ e ∈ s.table.entries, e.active = true) :
    TrackingMap ⟨s.table.addEntry alloc h hlt, insert h s.registered⟩ ↔ h ∉ s.registered ∧ alloc = true := by
  constructor
  · intro hm'
    have hused := used_addEntry s.table alloc h hlt
    constructor
    · intro hh
      obtain ⟨e, he, rfl⟩ := hm.mem_iff.mp hh
      have hsingle : ((s.table.addEntry alloc e.original hlt).used.map Entry.original).Nodup := hm'.single
      rw [hused, map_append, nodup_append] at hsingle
      exact hsingle.2.2 _ (mem_map_of_mem he) _ (mem_singleton_self _) rfl
    · cases halloc : alloc with
      | true => rfl
      | false =>
        rw [halloc] at hm' hused
        refine absurd hm' (not_trackingMap_of_null (e := ⟨h, none, true⟩) ?_ rfl)
        rw [hused]
        exact mem_append_right _ (mem_singleton_self _)
  · rintro ⟨hnew, rfl⟩
    exact trackingMap_addEntry hm hlt hall hnew

/-! ### A slot that is given up -/

/-- The arrays of the other entries stay when one is freed. -/
theorem Tracking.HasBuffers.dropEntry {s : Tracking} {e' : Entry} (hb : s.HasBuffers e')
    (hne : e'.rewritten ≠ e.rewritten) (h : Handle) : (s.dropEntry h e).HasBuffers e' := by
  obtain ⟨array, buffers, harray, hcell, hlength⟩ := hb
  refine ⟨array, buffers, harray, ?_, hlength⟩
  unfold Tracking.dropEntry
  cases hfreed : e.rewritten with
  | none => exact hcell
  | some freed =>
    have hdiffer : array ≠ freed := by
      intro heq
      rw [harray, hfreed, heq] at hne
      exact hne rfl
    exact (Arena.erase_of_ne _ hdiffer).trans hcell

theorem trackingMap_dropEntry (hm : TrackingMap s) (hfind : s.table.find h = some e)
    (hlt : s.table.entries.length < maxRewriteEntries) :
    TrackingMap ⟨s.table.dropEntry h e, s.registered.erase h⟩ := by
  obtain ⟨_, hkey⟩ := lookup_mem hfind
  have hused : s.table.used.Perm (e :: (s.table.dropEntry h e).used) := inUse_release hfind rfl
  have hsingle : (e.original :: (s.table.dropEntry h e).used.map Entry.original).Nodup :=
    (hused.map Entry.original).nodup_iff.mp hm.single
  have hown : (e.rewritten :: (s.table.dropEntry h e).used.map Entry.rewritten).Nodup :=
    (hused.map Entry.rewritten).nodup_iff.mp hm.own
  rw [nodup_cons] at hsingle hown
  apply trackingMap_of_used
  · exact hsingle.2
  · intro h'
    rw [Finset.mem_erase, hm.mem_iff]
    constructor
    · rintro ⟨hne, e', he', rfl⟩
      rw [hused.mem_iff, mem_cons] at he'
      obtain rfl | he' := he'
      · exact absurd hkey hne
      · exact ⟨e', he', rfl⟩
    · rintro ⟨e', he', rfl⟩
      refine ⟨fun heq => hsingle.1 ?_, e', hused.mem_iff.mpr (mem_cons_of_mem _ he'), rfl⟩
      exact mem_map.mpr ⟨e', he', heq.trans hkey.symm⟩
  · intro e' he'
    have hbuffers := hm.hasBuffers (hused.mem_iff.mpr (mem_cons_of_mem _ he'))
    refine hbuffers.dropEntry (fun heq => hown.1 ?_) h
    rw [← heq]
    exact mem_map_of_mem he'
  · exact hown.2
  · intro hfull
    have hfull : s.table.entries.length = maxRewriteEntries := (length_changeFirst ..).symm.trans hfull
    exact absurd hfull (Nat.ne_of_lt hlt)

/-- A freed entry can be used again exactly if the table is not full: a full table is refused
before the search for a free entry. -/
theorem trackingMap_dropEntry_iff (hm : TrackingMap s) (hfind : s.table.find h = some e) :
    TrackingMap ⟨s.table.dropEntry h e, s.registered.erase h⟩ ↔ s.table.entries.length < maxRewriteEntries := by
  refine ⟨fun hm' => ?_, trackingMap_dropEntry hm hfind⟩
  obtain ⟨he, hkey⟩ := lookup_mem hfind
  have hh : h ∈ s.registered := hm.mem_iff.mpr ⟨e, he, hkey⟩
  by_contra hge
  have hfull : (s.table.dropEntry h e).entries.length = maxRewriteEntries :=
    (length_changeFirst ..).trans (Nat.le_antisymm s.table.bounded (Nat.le_of_not_lt hge))
  have hcard : (s.registered.erase h).card = maxRewriteEntries :=
    hm'.capacity h (Finset.notMem_erase h _) true ((register_refused_iff _ _ _).mpr hfull)
  have hbefore : s.registered.card ≤ maxRewriteEntries := by
    rw [hm.card]
    exact (used_length_le s).trans s.table.bounded
  have hless := Finset.card_erase_lt_of_mem hh
  omega

theorem trackingStep_map_iff {s s' : TrackingState} {c : TrackingCall} (hc : Cleared s) (hm : TrackingMap s)
    (hstep : trackingStep s c = some s') : TrackingMap s' ↔ TrackingOk s c := by
  cases c with obtain rfl := Option.some.inj hstep
  | register alloc h =>
    obtain ⟨hge, hr⟩ | ⟨e, hlt, hfree, hr⟩ | ⟨hlt, hall, hr⟩ := register_cases s.table alloc h
    · simp only [hr]
      exact iff_of_true hm fun hlt => absurd hlt hge
    · simp only [hr, if_true]
      refine iff_of_false (not_trackingMap_reuse hc hfree) fun hok => ?_
      have hinactive := find?_some hfree
      rw [(hok hlt).1 e (mem_of_find?_eq_some hfree)] at hinactive
      cases hinactive
    · simp only [hr, if_true]
      rw [trackingMap_addEntry_iff hm hlt hall]
      exact ⟨fun h _ => ⟨hall, h⟩, fun h => (h hlt).2⟩
  | get h gpu =>
    exact iff_of_true hm trivial
  | unregister h =>
    simp only [Tracking.unregisterCommandBuffer]
    cases hfind : s.table.find h with
    | some e =>
      obtain ⟨he, hkey⟩ := lookup_mem hfind
      have hh : h ∈ s.registered := hm.mem_iff.mpr ⟨e, he, hkey⟩
      exact (trackingMap_dropEntry_iff hm hfind).trans ⟨fun hlt _ => hlt, fun hok => hok hh⟩
    | none =>
      have hh : h ∉ s.registered := by
        intro hh
        obtain ⟨e, hsome, -⟩ := hm.found h hh
        rw [hfind] at hsome
        cases hsome
      rw [Finset.erase_eq_of_notMem hh]
      exact iff_of_true hm fun hmem => absurd hmem hh

theorem trackingStep_cleared {s s' : TrackingState} {c : TrackingCall} (hc : Cleared s)
    (hstep : trackingStep s c = some s') : Cleared s' := by
  cases c with obtain rfl := Option.some.inj hstep
  | register alloc h =>
    obtain ⟨-, hr⟩ | ⟨-, -, -, hr⟩ | ⟨hlt, -, hr⟩ := register_cases s.table alloc h
    · simp only [hr]
      exact hc
    · simp only [hr]
      intro e he hinactive
      obtain he | ⟨e', rfl⟩ := mem_changeFirst he
      · exact hc e he hinactive
      · cases hinactive
    · simp only [hr]
      intro e he hinactive
      obtain he | he := mem_append.mp he
      · exact hc e he hinactive
      · rw [mem_singleton.mp he] at hinactive
        cases hinactive
  | get h gpu =>
    exact hc
  | unregister h =>
    simp only [Tracking.unregisterCommandBuffer]
    cases hfind : s.table.find h with
    | some e =>
      intro e' he' hinactive
      obtain he' | ⟨e'', rfl⟩ := mem_changeFirst he'
      · exact hc e' he' hinactive
      · rfl
    | none => exact hc

/-- What a lookup answers while the table is a map: for a registered handle what its own array
holds, for another one `VK_NULL_HANDLE`. -/
theorem TrackingMap.getCommandBuffer (hm : TrackingMap s) (h : Handle) (gpu : Nat) :
    (h ∈ s.registered ∧ gpu < s.table.gpuCount →
      ∃ e array buffers, e ∈ s.table.used ∧ e.original = h ∧ e.rewritten = some array ∧
        s.table.arrays.cells array = some buffers ∧
        ∃ hgpu : gpu < buffers.length, s.table.getCommandBuffer h gpu = some buffers[gpu]) ∧
      (¬ (h ∈ s.registered ∧ gpu < s.table.gpuCount) → s.table.getCommandBuffer h gpu = some 0) := by
  constructor
  · rintro ⟨hh, hgpu⟩
    obtain ⟨e, hfind, array, buffers, harray, hcell, hlength⟩ := hm.found h hh
    obtain ⟨hmem, hkey⟩ := lookup_mem hfind
    have hin : gpu < buffers.length := hlength ▸ hgpu
    refine ⟨e, array, buffers, hmem, hkey, harray, hcell, hin, ?_⟩
    simp [Tracking.getCommandBuffer, hfind, hgpu, harray, hcell, hin]
  · intro hnot
    unfold Tracking.getCommandBuffer
    by_cases hh : h ∈ s.registered
    · obtain ⟨e, hfind, -⟩ := hm.found h hh
      rw [hfind]
      exact if_neg fun hgpu => hnot ⟨hh, hgpu⟩
    · rw [hm.absent h hh]

def TrackingState.initial (gpuCount : Nat) : TrackingState := ⟨Tracking.initial gpuCount, ∅⟩

theorem trackingMap_initial (gpuCount : Nat) : TrackingMap (TrackingState.initial gpuCount) := by
  apply trackingMap_of_used
  · exact nodup_nil
  · intro h
    exact iff_of_false (Finset.notMem_empty h) fun ⟨_, he, _⟩ => not_mem_nil he
  · intro e he
    exact absurd he not_mem_nil
  · exact nodup_nil
  · intro hfull
    exact absurd hfull (Nat.ne_of_lt (by decide : 0 < maxRewriteEntries))

/-- **The tracking table.** For every number of GPUs and every sequence of registrations, lookups
and removals of any handles, the table is a map of capacity 1024 throughout exactly if each
registration that is not refused is of a new handle, finds no inactive entry and gets its memory,
and each removal of a registered handle comes before the last slot was used. -/
theorem tracking_map_iff (gpuCount : Nat) (calls : List TrackingCall) :
    Along trackingStep TrackingMap (TrackingState.initial gpuCount) calls ↔
      Admitted trackingStep TrackingOk (TrackingState.initial gpuCount) calls :=
  Run.along_iff_admitted (I := Cleared) (fun _ _ _ hc hm hs => trackingStep_map_iff hc hm hs)
    (fun _ _ _ hc _ hs _ => trackingStep_cleared hc hs) (fun _ he => absurd he not_mem_nil)
    (trackingMap_initial gpuCount) calls

/-- A handle that is registered, removed and registered again has no array. -/
theorem tracking_map_reused :
    ¬ Along trackingStep TrackingMap (TrackingState.initial 2) [.register true 1, .unregister 1, .register true 1] := by
  intro h
  obtain ⟨e, hfind, array, -, harray, -⟩ := (h.final rfl).found 1 (by decide)
  cases hfind
  cases harray

end Mvgal.Rewrite
