import Mathlib.Data.List.Nodup
import Mvgal.Lib.Run

/-! Registries of entries for handles that are used again.

A registry is a list of entries, each for a handle. A new entry goes to its front, a lookup finds
the first one of a handle, and an entry is removed by its handle: the first one again. The handles
are made and destroyed elsewhere, and a handle can be made again as soon as it is destroyed, before
the entry that it had is removed. `resolves_step_iff`: a live handle keeps its own entry in every
step but the removal of an entry while its handle is live. -/
namespace Mvgal.Registry
open List
open Function (update)

section Lists
variable {ε κ : Type} [DecidableEq κ] (key : ε → κ)

def lookup (k : κ) (l : List ε) : Option ε := l.find? fun e => key e = k

def dropFirst (k : κ) (l : List ε) : List ε := l.eraseP fun e => key e = k

def modifyFirst (k : κ) (f : ε → ε) : List ε → List ε
  | [] => []
  | e :: rest => if key e = k then f e :: rest else e :: modifyFirst k f rest

/-- The first entry of a key is changed; if there is none, a new one goes to the front. -/
def put (k : κ) (f : ε → ε) (new : Option ε) (l : List ε) : List ε :=
  if (lookup key k l).isSome then modifyFirst key k f l else new.toList ++ l

variable {key} {j k : κ} {e : ε} {l : List ε}

theorem mem_of_lookup (h : lookup key k l = some e) : e ∈ l := mem_of_find?_eq_some h

theorem key_of_lookup (h : lookup key k l = some e) : key e = k := by
  have hfound := find?_some h
  exact of_decide_eq_true hfound

theorem lookup_isSome_of_mem (h : e ∈ l) : (lookup key (key e) l).isSome = true :=
  find?_isSome.mpr ⟨e, h, by simp⟩

theorem lookup_cons_self (key : ε → κ) (e : ε) (l : List ε) : lookup key (key e) (e :: l) = some e := by
  simp [lookup]

theorem lookup_cons_of_ne (h : key e ≠ k) : lookup key k (e :: l) = lookup key k l := by
  simp [lookup, h]

/-- The entry that is dropped, between those before it and those after it. -/
theorem dropFirst_of_lookup (h : lookup key k l = some e) :
    ∃ front back, l = front ++ e :: back ∧ dropFirst key k l = front ++ back := by
  obtain ⟨hkey, front, back, rfl, hfront⟩ := find?_eq_some_iff_append.mp h
  refine ⟨front, back, rfl, ?_⟩
  have hfront : dropFirst key k (front ++ e :: back) = front ++ dropFirst key k (e :: back) := by
    refine eraseP_append_right _ fun b hb => ?_
    simpa using hfront b hb
  rw [hfront]
  exact congrArg (front ++ ·) (eraseP_cons_of_pos hkey)

theorem dropFirst_of_none (h : lookup key k l = none) : dropFirst key k l = l :=
  eraseP_of_forall_not (find?_eq_none.mp h)

theorem lookup_dropFirst_of_ne (h : j ≠ k) (l : List ε) : lookup key j (dropFirst key k l) = lookup key j l := by
  cases hl : lookup key k l with
  | none => rw [dropFirst_of_none hl]
  | some e =>
    obtain ⟨front, back, rfl, hdrop⟩ := dropFirst_of_lookup hl
    rw [hdrop, lookup, lookup, find?_append, find?_append]
    exact congrArg _ (lookup_cons_of_ne ((key_of_lookup hl).trans_ne h.symm)).symm

/-- All entries but the one that a lookup finds stay. -/
theorem mem_dropFirst (h : e ∈ l) (hother : lookup key k l ≠ some e) : e ∈ dropFirst key k l := by
  cases hl : lookup key k l with
  | none => rwa [dropFirst_of_none hl]
  | some e' =>
    obtain ⟨front, back, rfl, hdrop⟩ := dropFirst_of_lookup hl
    have hne : e ≠ e' := fun he => hother (he ▸ hl)
    rw [hdrop]
    simpa [hne] using h

/-- The entry that a lookup finds is still found if others are removed. -/
theorem lookup_filter {p : ε → Bool} (h : lookup key k l = some e) (hp : p e = true) :
    lookup key k (l.filter p) = some e := by
  obtain ⟨hkey, front, back, rfl, hfront⟩ := find?_eq_some_iff_append.mp h
  refine find?_eq_some_iff_append.mpr ⟨hkey, front.filter p, back.filter p, ?_, fun a ha => ?_⟩
  · rw [filter_append, filter_cons_of_pos hp]
  · exact hfront a (mem_of_mem_filter ha)

section Put
variable {f : ε → ε} {new : Option ε}

theorem lookup_modifyFirst_self (hf : ∀ e, key e = k → key (f e) = k) (l : List ε) :
    lookup key k (modifyFirst key k f l) = (lookup key k l).map f := by
  induction l with
  | nil => rfl
  | cons e rest ih =>
    unfold modifyFirst
    by_cases hk : key e = k
    · simp [lookup, hk, hf e hk]
    · rw [if_neg hk, lookup_cons_of_ne hk, lookup_cons_of_ne hk, ih]

theorem lookup_modifyFirst_of_ne (hf : ∀ e, key e = k → key (f e) = k) (h : j ≠ k) (l : List ε) :
    lookup key j (modifyFirst key k f l) = lookup key j l := by
  induction l with
  | nil => rfl
  | cons e rest ih =>
    unfold modifyFirst
    by_cases hk : key e = k
    · rw [if_pos hk, lookup_cons_of_ne ((hf e hk).trans_ne h.symm), lookup_cons_of_ne (hk.trans_ne h.symm)]
    · rw [if_neg hk]
      by_cases hj : key e = j
      · simp [lookup, hj]
      · rw [lookup_cons_of_ne hj, lookup_cons_of_ne hj, ih]

theorem forall_modifyFirst {p : ε → Prop} (hf : ∀ e, p (f e)) (h : ∀ e ∈ l, p e) :
    ∀ e ∈ modifyFirst key k f l, p e := by
  induction l with
  | nil => exact h
  | cons e rest ih =>
    rw [forall_mem_cons] at h
    unfold modifyFirst
    split
    · exact forall_mem_cons.mpr ⟨hf e, h.2⟩
    · exact forall_mem_cons.mpr ⟨h.1, ih h.2⟩

/-- What holds of the entries and of a changed or new one holds after it is put. -/
theorem forall_put {p : ε → Prop} (hf : ∀ e, p (f e)) (hnew : ∀ e ∈ new, p e) (h : ∀ e ∈ l, p e) :
    ∀ e ∈ put key k f new l, p e := by
  unfold put
  split
  · exact forall_modifyFirst hf h
  · intro e he
    rcases mem_append.mp he with he | he
    · exact hnew e (Option.mem_toList.mp he)
    · exact h e he

theorem lookup_put_of_ne (key : ε → κ) (f : ε → ε) (hf : ∀ e, key e = k → key (f e) = k)
    (hnew : ∀ e ∈ new, key e = k) (h : j ≠ k) (l : List ε) : lookup key j (put key k f new l) = lookup key j l := by
  unfold put
  split
  · exact lookup_modifyFirst_of_ne hf h l
  · cases new with
    | none => rfl
    | some e => exact lookup_cons_of_ne ((hnew e rfl).trans_ne h.symm)

/-- An entry that is changed is found; one that is new is found if it was made. -/
theorem lookup_put_self (key : ε → κ) (f : ε → ε) (hf : ∀ e, key e = k → key (f e) = k)
    (hnew : ∀ e ∈ new, key e = k) (l : List ε) : lookup key k (put key k f new l) = ((lookup key k l).map f).or new := by
  unfold put
  cases hl : lookup key k l with
  | some e => simp [lookup_modifyFirst_self hf, hl]
  | none =>
    cases new with
    | none => simpa using hl
    | some e =>
      obtain rfl := hnew e rfl
      simp [lookup_cons_self]

end Put
end Lists

/-! ### Handles and their entries -/

/-- An entry for a handle, at its address. -/
structure Entry (κ : Type) where
  address : Nat
  handle : κ
deriving DecidableEq, Repr

inductive Status where
  /-- It can be made. -/
  | absent
  /-- It is made, and its entry is to follow. -/
  | made
  /-- It is in use, and the entry at this address is its own. -/
  | live (address : Nat)
  /-- It is not in use any more, and is to be destroyed. -/
  | closing
  /-- It will never be destroyed. -/
  | lost
deriving DecidableEq, Repr

def Status.IsLive : Status → Prop
  | .live _ => True
  | _ => False

/-- It was registered and is not destroyed. -/
def Status.InUse : Status → Prop
  | .live _ | .closing => True
  | _ => False

instance : DecidablePred Status.IsLive
  | .live _ => .isTrue trivial
  | .absent | .made | .closing | .lost => .isFalse id

theorem Status.isLive_iff {s : Status} : s.IsLive ↔ ∃ a, s = .live a := by
  cases s <;> simp [Status.IsLive]

end Mvgal.Registry

namespace Mvgal
open Function (update update_self update_of_ne)
open Registry

/-- A registry, the handles it is for and the calls that use them. -/
structure Registry (κ : Type) where
  entries : List (Entry κ)
  status : κ → Status
  /-- Calls in progress, each with the address of the entry that it looked up. -/
  calls : List (κ × Nat)
  /-- Handles that are destroyed and whose entry is to be removed. -/
  destroyed : List κ

namespace Registry

def empty {κ : Type} : Registry κ := ⟨[], fun _ => .absent, [], []⟩

variable {κ : Type} [DecidableEq κ]

def find (r : Registry κ) (h : κ) : Option (Entry κ) := lookup Entry.handle h r.entries

/-- What can happen to a registry and its handles. -/
inductive Event (κ : Type) where
  | make (h : κ)
  /-- The handle gets an entry at this address. -/
  | register (h : κ) (address : Nat)
  /-- There is no memory for an entry; the handle is destroyed at once, or never. -/
  | refuse (h : κ) (destroyed : Bool)
  /-- A call that destroys the handle begins, and looks up its entry. -/
  | close (h : κ)
  | destroy (h : κ)
  /-- The entry of a handle that was destroyed is removed. -/
  | unregister (h : κ)
  /-- A call that uses the handle begins, and looks up its entry. -/
  | enter (h : κ)
  | leave (h : κ) (address : Nat)
deriving Repr

/-- A handle that is not known is not destroyed, but an entry for it is still removed. -/
def closed (r : Registry κ) (h : κ) : Registry κ :=
  match r.find h with
  | some _ => {r with status := update r.status h .closing}
  | none => {r with status := update r.status h .lost, destroyed := h :: r.destroyed}

def entered (r : Registry κ) (h : κ) : Registry κ :=
  match r.find h with
  | some e => {r with calls := (h, e.address) :: r.calls}
  | none => r

/-- One event. A handle is made when it is absent, an address is new, and a handle is destroyed by
one call, when it is live and no other call uses it. -/
def step (r : Registry κ) : Event κ → Option (Registry κ)
  | .make h =>
    if r.status h = .absent then some {r with status := update r.status h .made} else none
  | .register h a =>
    if r.status h = .made ∧ a ∉ r.entries.map Entry.address then
      some {r with entries := ⟨a, h⟩ :: r.entries, status := update r.status h (.live a)}
    else none
  | .refuse h destroyed =>
    if r.status h = .made then
      some {r with status := update r.status h (if destroyed then .absent else .lost)}
    else none
  | .close h =>
    if (r.status h).IsLive ∧ h ∉ r.calls.map Prod.fst then some (r.closed h) else none
  | .destroy h =>
    if r.status h = .closing then
      some {r with status := update r.status h .absent, destroyed := h :: r.destroyed}
    else none
  | .unregister h =>
    if h ∈ r.destroyed then
      some {r with entries := dropFirst Entry.handle h r.entries, destroyed := r.destroyed.erase h}
    else none
  | .enter h => if (r.status h).IsLive then some (r.entered h) else none
  | .leave h a => if (h, a) ∈ r.calls then some {r with calls := r.calls.erase (h, a)} else none

/-- Every live handle is looked up to its own entry. -/
def Resolves (r : Registry κ) : Prop := ∀ h a, r.status h = .live a → r.find h = some ⟨a, h⟩

/-- Addresses are distinct, and a call uses the entry of a handle that is live. -/
structure Sound (r : Registry κ) : Prop where
  distinct : (r.entries.map Entry.address).Nodup
  live : ∀ h a, (h, a) ∈ r.calls → r.status h = .live a

/-- The entry that an event removes is not one of a live handle. -/
def Harmless (r : Registry κ) : Event κ → Prop
  | .unregister h => ¬(r.status h).IsLive
  | _ => True

variable {r r' : Registry κ} {h : κ} {e : Entry κ}

theorem mem_of_find (hfind : r.find h = some e) : e ∈ r.entries := mem_of_lookup hfind

theorem handle_of_find (hfind : r.find h = some e) : e.handle = h := key_of_lookup hfind

theorem find_isSome (he : e ∈ r.entries) : (r.find e.handle).isSome = true := lookup_isSome_of_mem he

variable {new : Status}

/-- A handle that is live after another one, or itself, became something else was live before. -/
theorem live_of_update {status : κ → Status} {h' : κ} {a : Nat} (hnew : ¬new.IsLive)
    (hlive : update status h new h' = .live a) : status h' = .live a := by
  by_cases heq : h' = h
  · rw [heq, update_self] at hlive
    exact absurd (Status.isLive_iff.mpr ⟨a, hlive⟩) hnew
  · rwa [update_of_ne heq] at hlive

/-- One handle becomes something other than live, and the entries stay. -/
theorem Resolves.of_status (hr : r.Resolves) (hnew : ¬new.IsLive)
    (hentries : r'.entries = r.entries) (hstatus : r'.status = update r.status h new) : r'.Resolves := by
  intro h' a hlive
  rw [hstatus] at hlive
  have hfind : r'.find h' = r.find h' := congrArg (lookup Entry.handle h') hentries
  rw [hfind]
  exact hr h' a (live_of_update hnew hlive)

theorem Resolves.register (hr : r.Resolves) (h : κ) (a : Nat) :
    Resolves {r with entries := ⟨a, h⟩ :: r.entries, status := update r.status h (.live a)} := by
  intro h' a' hlive
  dsimp only at hlive
  by_cases heq : h' = h
  · subst heq
    rw [update_self] at hlive
    cases hlive
    exact lookup_cons_self Entry.handle ⟨a, h'⟩ r.entries
  · rw [update_of_ne heq] at hlive
    have hother : (⟨a, h⟩ : Entry κ).handle ≠ h' := Ne.symm heq
    exact (lookup_cons_of_ne hother).trans (hr h' a' hlive)

/-- The entry of a live handle that is removed is missing then, although others may have its handle. -/
theorem resolves_dropFirst_iff (hs : r.Sound) (hr : r.Resolves)
    (hentries : r'.entries = dropFirst Entry.handle h r.entries) (hstatus : r'.status = r.status) :
    r'.Resolves ↔ ¬(r.status h).IsLive := by
  have hfind : ∀ h', r'.find h' = lookup Entry.handle h' (dropFirst Entry.handle h r.entries) :=
    fun h' => congrArg (lookup Entry.handle h') hentries
  constructor
  · intro hr' hlive
    obtain ⟨a, hlive⟩ := Status.isLive_iff.mp hlive
    have hstill : lookup Entry.handle h (dropFirst Entry.handle h r.entries) = some ⟨a, h⟩ := by
      rw [← hfind]
      exact hr' h a (hstatus ▸ hlive)
    obtain ⟨front, back, hlist, hdrop⟩ := dropFirst_of_lookup (hr h a hlive)
    have hmem : (⟨a, h⟩ : Entry κ) ∈ front ++ back := hdrop ▸ mem_of_lookup hstill
    have hdistinct := hs.distinct
    rw [hlist, List.map_append, List.map_cons, List.nodup_middle] at hdistinct
    refine (List.nodup_cons.mp hdistinct).1 ?_
    rw [← List.map_append]
    exact List.mem_map_of_mem hmem
  · intro hdead h' a hlive
    rw [hstatus] at hlive
    have hne : h' ≠ h := by
      rintro rfl
      exact hdead (Status.isLive_iff.mpr ⟨a, hlive⟩)
    rw [hfind, lookup_dropFirst_of_ne hne]
    exact hr h' a hlive

variable {e : Event κ}

/-- **What a live handle is looked up to.** An event keeps the entries of the live handles exactly
if it removes none of them. -/
theorem resolves_step_iff (hs : r.Sound) (hr : r.Resolves) (h : r.step e = some r') :
    r'.Resolves ↔ r.Harmless e := by
  cases e with obtain ⟨hk, rfl⟩ := Run.guarded h
  | make k | destroy k => exact iff_of_true (hr.of_status id rfl rfl) trivial
  | register k a =>
    exact iff_of_true (hr.register k a) trivial
  | refuse k gone =>
    refine iff_of_true (hr.of_status ?_ rfl rfl) trivial
    cases gone <;> exact id
  | close k =>
    refine iff_of_true ?_ trivial
    unfold closed
    cases r.find k with
    | some e | none => exact hr.of_status id rfl rfl
  | unregister k => exact resolves_dropFirst_iff hs hr rfl rfl
  | enter k =>
    refine iff_of_true ?_ trivial
    unfold entered
    cases r.find k <;> exact hr
  | leave k a => exact iff_of_true hr trivial

theorem Sound.of_status (hs : r.Sound) (hfree : ∀ a, (h, a) ∉ r.calls)
    (hentries : (r'.entries.map Entry.address).Nodup) (hstatus : r'.status = update r.status h new)
    (hcalls : r'.calls = r.calls) : r'.Sound := by
  refine ⟨hentries, fun h' a hcall => ?_⟩
  rw [hcalls] at hcall
  have hne : h' ≠ h := by
    rintro rfl
    exact hfree a hcall
  rw [hstatus, update_of_ne hne]
  exact hs.live h' a hcall

omit [DecidableEq κ] in
theorem Sound.free (hs : r.Sound) (hdead : ¬(r.status h).IsLive) (a : Nat) : (h, a) ∉ r.calls :=
  fun hcall => hdead (Status.isLive_iff.mpr ⟨a, hs.live h a hcall⟩)

theorem Sound.step (hs : r.Sound) (hr : r.Resolves) (h : r.step e = some r') : r'.Sound := by
  cases e with obtain ⟨hk, rfl⟩ := Run.guarded h
  | make k | refuse k gone | destroy k =>
    exact hs.of_status (hs.free (by simp [hk, Status.IsLive])) hs.distinct rfl rfl
  | register k a =>
    obtain ⟨hk, hnew⟩ := hk
    exact hs.of_status (hs.free (by simp [hk, Status.IsLive])) (List.nodup_cons.mpr ⟨hnew, hs.distinct⟩) rfl rfl
  | close k =>
    obtain ⟨_, hfree⟩ := hk
    have hfree : ∀ a, (k, a) ∉ r.calls := fun a ha => hfree (List.mem_map_of_mem ha)
    unfold closed
    cases r.find k with
    | some e | none => exact hs.of_status hfree hs.distinct rfl rfl
  | unregister k => exact ⟨hs.distinct.sublist (List.eraseP_sublist.map _), hs.live⟩
  | enter k =>
    obtain ⟨a, hk⟩ := Status.isLive_iff.mp hk
    unfold entered
    rw [hr k a hk]
    refine ⟨hs.distinct, fun h' a' hcall => ?_⟩
    rcases List.mem_cons.mp hcall with heq | hcall
    · cases heq
      exact hk
    · exact hs.live h' a' hcall
  | leave k a =>
    exact ⟨hs.distinct, fun h' a' hcall => hs.live h' a' (List.mem_of_mem_erase hcall)⟩

/-! ### What an event leaves as it is -/

/-- Every entry stays but the one that a removal finds. -/
theorem mem_entries_step (h : r.step e = some r') {x : Entry κ} (hx : x ∈ r.entries)
    (hkept : ∀ k, e = .unregister k → r.find k ≠ some x) : x ∈ r'.entries := by
  cases e with obtain ⟨hk, rfl⟩ := Run.guarded h
  | register k a => exact List.mem_cons_of_mem _ hx
  | unregister k =>
    exact mem_dropFirst hx (hkept k rfl)
  | close k =>
    unfold closed
    cases r.find k <;> exact hx
  | enter k =>
    unfold entered
    cases r.find k <;> exact hx
  | make k | refuse k gone | destroy k | leave k a => exact hx

theorem live_step (h : r.step e = some r') {k : κ} {a : Nat} (hlive : r'.status k = .live a) :
    r.status k = .live a ∨ e = .register k a ∧ r.status k = .made := by
  cases e with obtain ⟨hk, rfl⟩ := Run.guarded h
  | register k' a' =>
    obtain ⟨hmade, _⟩ := hk
    dsimp only at hlive
    by_cases heq : k = k'
    · subst heq
      rw [update_self] at hlive
      cases hlive
      exact .inr ⟨rfl, hmade⟩
    · rw [update_of_ne heq] at hlive
      exact .inl hlive
  | make k' | destroy k' => exact .inl (live_of_update id hlive)
  | refuse k' gone =>
    refine .inl (live_of_update ?_ hlive)
    cases gone <;> exact id
  | close k' =>
    unfold closed at hlive
    cases hfind : r.find k' <;> rw [hfind] at hlive <;> exact .inl (live_of_update id hlive)
  | enter k' =>
    unfold entered at hlive
    cases hfind : r.find k' <;> rw [hfind] at hlive <;> exact .inl hlive
  | unregister k' | leave k' a' => exact .inl hlive

/-- A handle that was registered is there until it is destroyed. -/
theorem inUse_step (hr : r.Resolves) (h : r.step e = some r') {k : κ} (hk : (r.status k).InUse)
    (hkept : e ≠ .destroy k) : (r'.status k).InUse := by
  have hupdate : ∀ k' new, (k = k' → new.InUse) → (update r.status k' new k).InUse := by
    intro k' new hnew
    by_cases heq : k = k'
    · subst heq
      rw [update_self]
      exact hnew rfl
    · rwa [update_of_ne heq]
  cases e with obtain ⟨hguard, rfl⟩ := Run.guarded h
  | register k' a => exact hupdate k' _ fun _ => trivial
  | make k' | refuse k' gone =>
    refine hupdate k' _ ?_
    rintro rfl
    rw [hguard] at hk
    exact absurd hk id
  | close k' =>
    obtain ⟨a, hlive⟩ := Status.isLive_iff.mp hguard.1
    unfold closed
    rw [hr k' a hlive]
    exact hupdate k' _ fun _ => trivial
  | destroy k' =>
    refine hupdate k' _ ?_
    rintro rfl
    exact absurd rfl hkept
  | enter k' =>
    unfold entered
    cases r.find k' <;> exact hk
  | unregister k' | leave k' a => exact hk

end Registry
end Mvgal
