import Mvgal.Memory.Release

/-! Who owns which block of memory, and what a release does to it.

A root buffer owns one block, which its destruction frees or unmaps; an alias owns
nothing, and its pointer leads into the block of its parent (`Owned`). Together
with the forest of references this is the `Ledger`. `release_spec` says that
dropping a reference keeps the ledger without a fault, through the recursion from
an alias that goes to the parent it referred to. While the recursion runs, the
structures on the way are still in the store but no longer in the ledger; they
are all younger than the one that is being released, so the ledger and the store
agree from there down. -/
namespace Mvgal.Memory
open Buffer
open Option
open Arena
open Blocks (Ptr Space Fault)
open Function (update update_self update_of_ne comp_update)
open Table (update_some update_none)

/-- The part of a structure that says what it points to and what it frees. -/
structure Grip where
  hostPtr : Option Ptr
  originalPtr : Option Ptr
  shouldFree : Bool
  dmabufOwner : Bool
  hasFd : Bool
  parent : Option Nat

def Buffer.grip (x : Buffer) : Grip :=
  ⟨x.hostPtr, x.originalPtr, x.shouldFree, x.dmabufOwner, x.dmabufFd.isSome, x.parent?⟩

def Grip.block? (g : Grip) : Option Nat := g.hostPtr.map Ptr.block

/-- The destruction of the buffer releases this block, by `free` or by `munmap`. -/
def Grip.Releases (g : Grip) (s : Space) (i : Nat) : Prop :=
  g.hostPtr = some ⟨i, 0⟩ ∧ ∃ k, s.blocks.cells i = some k ∧
    (g.shouldFree = true ∧ g.originalPtr = some ⟨i, 0⟩ ∧ k.kind = .heap ∧ g.dmabufOwner = false ∨
      g.shouldFree = false ∧ g.dmabufOwner = true ∧ g.hasFd = true)

/-- The destruction of the buffer releases no memory. -/
def Grip.Borrows (g : Grip) : Prop := g.shouldFree = false ∧ g.dmabufOwner = false

variable {g : Grip}

theorem Grip.Releases.block?_eq {s : Space} {i : Nat} (h : g.Releases s i) :
    g.block? = some i := by
  rw [Grip.block?, h.1]
  rfl

theorem Grip.Releases.live {s : Space} {i : Nat} (h : g.Releases s i) :
    (s.blocks.cells i).isSome := by
  obtain ⟨-, k, hk, -⟩ := h
  rw [hk]
  rfl

theorem Grip.Releases.congr {s s' : Space} {i : Nat} (h : g.Releases s i)
    (hs : s'.blocks.cells i = s.blocks.cells i) : g.Releases s' i := by
  obtain ⟨hp, k, hk, hcase⟩ := h
  exact ⟨hp, k, hs.trans hk, hcase⟩

/-- Every root owns a live block, every live block has one such owner, and an alias
points into the block of its parent. -/
structure Owned (G : Nat → Option Grip) (s : Space) : Prop where
  root : ∀ b g, G b = some g → g.parent = none → ∃ i, g.Releases s i
  shared : ∀ b g p g', G b = some g → g.parent = some p → G p = some g' →
    g.Borrows ∧ g.block? = g'.block?
  unique : ∀ b b' g g', G b = some g → G b' = some g' → g.parent = none → g'.parent = none →
    g.block? = g'.block? → b = b'
  covered : ∀ i, (s.blocks.cells i).isSome →
    ∃ b g, G b = some g ∧ g.parent = none ∧ g.block? = some i

variable {G : Nat → Option Grip} {s s' : Space} {b i p : Nat} {g g' : Grip}

section
variable (h : Owned G s)
include h

/-- A new root, or an alias that becomes one, with a block of its own. -/
theorem Owned.addRoot (hb : ∀ g', G b = some g' → g'.parent ≠ none)
    (hlone : ∀ c g', G c = some g' → g'.parent ≠ some b) (hi : s.blocks.cells i = none)
    (hs : ∀ j, j ≠ i → s'.blocks.cells j = s.blocks.cells j) (hg : g.parent = none)
    (hr : g.Releases s' i) : Owned (update G b (some g)) s' := by
  have hold (c : Nat) (g' : Grip) (hc : G c = some g') (hroot : g'.parent = none) :
      ∃ j, j ≠ i ∧ g'.Releases s' j := by
    obtain ⟨j, hj⟩ := h.root c g' hc hroot
    have hne : j ≠ i := fun he => by
      have := hj.live
      rw [he, hi] at this
      cases this
    exact ⟨j, hne, hj.congr (hs j hne)⟩
  refine ⟨fun c g' hc hroot => ?_, fun c g' q g'' hc hq hgq => ?_, fun c c' g₁ g₂ h₁ h₂ hr₁ hr₂ he => ?_,
    fun j hj => ?_⟩
  · obtain ⟨-, rfl⟩ | ⟨-, hc⟩ := update_some hc
    · exact ⟨i, hr⟩
    · obtain ⟨j, -, hj⟩ := hold c g' hc hroot
      exact ⟨j, hj⟩
  · obtain ⟨-, rfl⟩ | ⟨-, hc⟩ := update_some hc
    · cases hg.symm.trans hq
    · have hqb : q ≠ b := fun he => hlone c g' hc (he ▸ hq)
      rw [update_of_ne hqb] at hgq
      exact h.shared c g' q g'' hc hq hgq
  · obtain ⟨rfl, rfl⟩ | ⟨-, h₁⟩ := update_some h₁
    · obtain ⟨rfl, -⟩ | ⟨-, h₂⟩ := update_some h₂
      · rfl
      · obtain ⟨j, hne, hj⟩ := hold c' g₂ h₂ hr₂
        exact absurd (some.inj (hj.block?_eq.symm.trans (he.symm.trans hr.block?_eq))) hne
    · obtain ⟨-, rfl⟩ | ⟨-, h₂⟩ := update_some h₂
      · obtain ⟨j, hne, hj⟩ := hold c g₁ h₁ hr₁
        exact absurd (some.inj (hj.block?_eq.symm.trans (he.trans hr.block?_eq))) hne
      · exact h.unique c c' g₁ g₂ h₁ h₂ hr₁ hr₂ he
  · by_cases hji : j = i
    · exact ⟨b, g, update_self .., hg, hji ▸ hr.block?_eq⟩
    · obtain ⟨c, g', hc, hroot, hblock⟩ := h.covered j (hs j hji ▸ hj)
      have hcb : c ≠ b := fun he => hb g' (he ▸ hc) hroot
      exact ⟨c, g', by rw [update_of_ne hcb, hc], hroot, hblock⟩

theorem Owned.addAlias (hb : G b = none)
    (hlone : ∀ c g', G c = some g' → g'.parent ≠ some b) (hp : G p = some g') (hg : g.parent = some p)
    (hborrow : g.Borrows) (hblock : g.block? = g'.block?) : Owned (update G b (some g)) s := by
  have hpb : p ≠ b := fun he => by
    rw [he, hb] at hp
    cases hp
  refine ⟨fun c g₁ hc hroot => ?_, fun c g₁ q g₂ hc hq hgq => ?_, fun c c' g₁ g₂ h₁ h₂ hr₁ hr₂ he => ?_,
    fun j hj => ?_⟩
  · obtain ⟨-, rfl⟩ | ⟨-, hc⟩ := update_some hc
    · cases hg.symm.trans hroot
    · exact h.root c g₁ hc hroot
  · obtain ⟨rfl, rfl⟩ | ⟨-, hc⟩ := update_some hc
    · cases hg.symm.trans hq
      rw [update_of_ne hpb, hp] at hgq
      cases hgq
      exact ⟨hborrow, hblock⟩
    · have hqb : q ≠ b := fun he => hlone c g₁ hc (he ▸ hq)
      rw [update_of_ne hqb] at hgq
      exact h.shared c g₁ q g₂ hc hq hgq
  · obtain ⟨-, rfl⟩ | ⟨-, h₁⟩ := update_some h₁
    · cases hg.symm.trans hr₁
    · obtain ⟨-, rfl⟩ | ⟨-, h₂⟩ := update_some h₂
      · cases hg.symm.trans hr₂
      · exact h.unique c c' g₁ g₂ h₁ h₂ hr₁ hr₂ he
  · obtain ⟨c, g₁, hc, hroot, hbl⟩ := h.covered j hj
    have hcb : c ≠ b := fun he => by
      rw [he, hb] at hc
      cases hc
    exact ⟨c, g₁, by rw [update_of_ne hcb, hc], hroot, hbl⟩

theorem Owned.eraseAlias (hb : G b = some g) (hg : g.parent ≠ none) :
    Owned (update G b none) s := by
  refine ⟨fun c g₁ hc => h.root c g₁ (update_none hc).2,
    fun c g₁ q g₂ hc hq hgq => h.shared c g₁ q g₂ (update_none hc).2 hq (update_none hgq).2,
    fun c c' g₁ g₂ h₁ h₂ => h.unique c c' g₁ g₂ (update_none h₁).2 (update_none h₂).2, fun j hj => ?_⟩
  obtain ⟨c, g₁, hc, hroot, hbl⟩ := h.covered j hj
  have hcb : c ≠ b := by
    intro he
    rw [he, hb] at hc
    exact hg (some.inj hc ▸ hroot)
  exact ⟨c, g₁, by rw [update_of_ne hcb, hc], hroot, hbl⟩

theorem Owned.eraseRoot (hb : G b = some g) (hg : g.parent = none)
    (hr : g.Releases s i) : Owned (update G b none) (s.drop ⟨i, 0⟩) := by
  have hother (j : Nat) (hj : j ≠ i) : (s.drop ⟨i, 0⟩).blocks.cells j = s.blocks.cells j :=
    erase_of_ne _ hj
  refine ⟨fun c g₁ hc hroot => ?_,
    fun c g₁ q g₂ hc hq hgq => h.shared c g₁ q g₂ (update_none hc).2 hq (update_none hgq).2,
    fun c c' g₁ g₂ h₁ h₂ => h.unique c c' g₁ g₂ (update_none h₁).2 (update_none h₂).2, fun j hj => ?_⟩
  · obtain ⟨hcb, hc⟩ := update_none hc
    obtain ⟨j, hj⟩ := h.root c g₁ hc hroot
    have hji : j ≠ i := fun he => hcb (h.unique c b g₁ g hc hb hroot hg
      (hj.block?_eq.trans (he ▸ hr.block?_eq.symm)))
    exact ⟨j, hj.congr (hother j hji)⟩
  · have hji : j ≠ i := by
      intro he
      rw [he] at hj
      exact absurd hj (by simp [Space.drop])
    obtain ⟨c, g₁, hc, hroot, hbl⟩ := h.covered j (hother j hji ▸ hj)
    have hcb : c ≠ b := by
      intro he
      rw [he, hb] at hc
      cases hc
      exact hji (some.inj (hbl.symm.trans hr.block?_eq))
    exact ⟨c, g₁, by rw [update_of_ne hcb, hc], hroot, hbl⟩

end

/-! ### The memory that a destruction releases -/

variable {x : Buffer}

theorem free_of_releases (h : x.grip.Releases s i) :
    x.freeOwned (x.unmapOwned s) = .ok (s.drop ⟨i, 0⟩) := by
  obtain ⟨hp, k, hk, ⟨hsf, hop, hkind, hown⟩ | ⟨hsf, hown, hfd⟩⟩ := h
  · change x.shouldFree = true at hsf
    change x.originalPtr = some ⟨i, 0⟩ at hop
    change x.dmabufOwner = false at hown
    simp [freeOwned, unmapOwned, hsf, hop, hown, Space.free, hk, hkind]
  · change x.hostPtr = some ⟨i, 0⟩ at hp
    change x.shouldFree = false at hsf
    change x.dmabufOwner = true at hown
    change x.dmabufFd.isSome = true at hfd
    simp [freeOwned, unmapOwned, hsf, hown, hfd, hp]

theorem free_of_borrows (h : x.grip.Borrows) (s : Space) :
    x.freeOwned (x.unmapOwned s) = .ok s := by
  have hsf : x.shouldFree = false := h.1
  have hown : x.dmabufOwner = false := h.2
  simp [freeOwned, unmapOwned, hsf, hown]

def nodesOf (V : Nat → Option Buffer) (i : Nat) : Option Node := (V i).map Buffer.node

def gripsOf (V : Nat → Option Buffer) (i : Nat) : Option Grip := (V i).map Buffer.grip

variable {V : Nat → Option Buffer} {held : Nat → Bool} {extra : Nat → Nat} {x y : Buffer}

theorem nodesOf_update (V : Nat → Option Buffer) (i : Nat) (v : Option Buffer) :
    nodesOf (update V i v) = update (nodesOf V) i (v.map Buffer.node) :=
  comp_update (Option.map node) V i v

theorem gripsOf_update (V : Nat → Option Buffer) (i : Nat) (v : Option Buffer) :
    gripsOf (update V i v) = update (gripsOf V) i (v.map Buffer.grip) :=
  comp_update (Option.map grip) V i v

theorem gripsOf_update_eq (hx : V i = some x) (hy : y.grip = x.grip) :
    gripsOf (update V i (some y)) = gripsOf V := by
  rw [gripsOf_update, map_some, hy]
  apply Function.update_eq_self_iff.mpr
  rw [gripsOf, hx]
  rfl

/-- The references and the owners of the buffers `V`. -/
structure Ledger (held : Nat → Bool) (extra : Nat → Nat) (V : Nat → Option Buffer) (s : Space) :
    Prop where
  forest : Forest held extra (nodesOf V)
  owned : Owned (gripsOf V) s

theorem Ledger.node (_h : Ledger held extra V s) (hx : V i = some x) : nodesOf V i = some x.node := by
  rw [nodesOf, hx]
  rfl

theorem Ledger.grip (_h : Ledger held extra V s) (hx : V i = some x) : gripsOf V i = some x.grip := by
  rw [gripsOf, hx]
  rfl

section
variable (h : Ledger held extra V s)
include h

theorem Ledger.childless (hx : V b = some x) (hal : x.aliases = []) (c : Nat)
    (g : Grip) (hc : gripsOf V c = some g) : g.parent ≠ some b := by
  intro hpar
  obtain ⟨y, hy, rfl⟩ := map_eq_some_iff.mp hc
  have hmem := ((h.forest.ok b x.node (h.node hx)).mem_children c).mpr
    ((parentOf_eq (h.node hy)).trans hpar)
  change c ∈ x.aliases at hmem
  rw [hal] at hmem
  cases hmem

omit h in
theorem node_decref (h : 0 < x.refcount.toNat) : x.decref.node = {x.node with count := x.node.count - 1} := by
  have hle : (1 : UInt32) ≤ x.refcount := UInt32.le_iff_toNat_le.mpr h
  have hsub : (x.refcount - 1).toNat = x.refcount.toNat - 1 := UInt32.toNat_sub_of_le _ _ hle
  unfold node decref
  rw [hsub]
  rfl

theorem Ledger.drop (hx : V p = some x) (he : 0 < extra p)
    (hc : x.refcount ≠ 1) :
    Ledger held (update extra p (extra p - 1)) (update V p (some x.decref)) s := by
  have hnode := h.node hx
  have hcount : x.node.count ≠ 1 := fun h1 => hc (UInt32.toNat_inj.mp h1)
  refine ⟨?_, ?_⟩
  · rw [nodesOf_update, map_some, node_decref (h.forest.ok p _ hnode).count_pos]
    exact h.forest.drop hnode he hcount
  · rw [gripsOf_update_eq (y := x.decref) hx rfl]
    exact h.owned

/-- The last reference to a root goes, and the root with its block. -/
theorem Ledger.eraseRoot (hx : V p = some x) (hroot : x.parent? = none)
    (he : 0 < extra p) (hc : x.refcount = 1) :
    ∃ i, x.grip.Releases s i ∧ Ledger held (update extra p 0) (update V p none) (s.drop ⟨i, 0⟩) := by
  obtain ⟨i, hi⟩ := h.owned.root p x.grip (h.grip hx) hroot
  refine ⟨i, hi, ?_, ?_⟩
  · rw [nodesOf_update]
    exact h.forest.eraseRoot (h.node hx) hroot he (congrArg UInt32.toNat hc)
  · rw [gripsOf_update]
    exact h.owned.eraseRoot (h.grip hx) hroot hi

/-- The last reference to an alias goes; its own reference is left to be dropped at its
parent. -/
theorem Ledger.passUp {q : Nat} (hx : V p = some x)
    (hpar : x.parent? = some q) (he : 0 < extra p) (hc : x.refcount = 1) :
    ∃ y, V q = some y ∧ q < p ∧ x.grip.Borrows ∧
      Ledger held (update (update extra q (extra q + 1)) p 0)
        (update (update V q (some (y.removeAlias p))) p none) s := by
  have hok := h.forest.ok p x.node (h.node hx)
  have hlt : q < p := hok.parent_lt q hpar
  have hpq : p ≠ q := by omega
  obtain ⟨n, hn⟩ := isSome_iff_exists.mp (hok.parent_live q hpar)
  obtain ⟨y, hy, rfl⟩ := map_eq_some_iff.mp hn
  refine ⟨y, hy, hlt, (h.owned.shared p _ q _ (h.grip hx) hpar (h.grip hy)).1, ?_, ?_⟩
  · have hsever := h.forest.sever (h.node hx) hpar (h.node hy)
    have hroot := hsever.eraseRoot
      (by rw [update_of_ne hpq, update_self]) rfl
      (by rw [update_of_ne hpq]; exact he) (congrArg UInt32.toNat hc)
    rw [Function.update_comm hpq, Function.update_idem] at hroot
    rw [nodesOf_update, nodesOf_update]
    exact hroot
  · rw [gripsOf_update, gripsOf_update_eq (y := y.removeAlias p) hy rfl]
    exact h.owned.eraseAlias (h.grip hx) (by rw [show x.grip.parent = some q from hpar]; simp)

end

def AgreesTo (m : State) (V : Nat → Option Buffer) (p : Nat) : Prop :=
  ∀ i, i ≤ p → m.store.cells i = V i

variable {m : State}

/-- What is left of the store when `p` has been destroyed. -/
theorem agreesTo_discard {size : UInt64} (hp : V p = none)
    (hag : ∀ i, i < p → m.store.cells i = V i) : AgreesTo ({m with space := s}.discard p size) V p := by
  intro i hi
  show (m.store.erase p).cells i = V i
  by_cases hip : i = p
  · rw [hip, erase_self, hp]
  · rw [erase_of_ne _ hip, hag i (by omega)]

/-- A release of `p` in `m` ended without a fault and dropped the reference from the
ledger. Younger structures did not change. -/
def Drops (held : Nat → Bool) (extra : Nat → Nat) (V : Nat → Option Buffer) (m : State) (p : Nat)
    (r : Except Fault State) : Prop :=
  ∃ m' V', r = .ok m' ∧ Ledger held (update extra p (extra p - 1)) V' m'.space ∧ AgreesTo m' V' p ∧
    ∀ i, p < i → V' i = V i ∧ m'.store.cells i = m.store.cells i

theorem cells_decref (hag : AgreesTo m V p) (hx : V p = some x) :
    (m.modify p Buffer.decref).store.cells p = some x.decref := by
  show (m.store.modify p decref).cells p = _
  rw [modify_self, hag p (Nat.le_refl p), hx]
  rfl

/-- The reference of an alias to its parent passes through the ledger and is gone. -/
theorem extra_of_passUp {extra : Nat → Nat} {p q : Nat} (hlt : q < p) (hone : extra p = 1) :
    update (update (update extra q (extra q + 1)) p 0) q (update (update extra q (extra q + 1)) p 0 q - 1) =
      update extra p (extra p - 1) := by
  funext j
  rw [hone]
  by_cases hjq : j = q
  · rw [hjq, update_self, update_of_ne (by omega), update_self, update_of_ne (by omega)]
    omega
  · rw [update_of_ne hjq]
    by_cases hjp : j = p
    · rw [hjp, update_self, update_self]
    · rw [update_of_ne hjp, update_of_ne hjq, update_of_ne hjp]

section Destroy

variable {m : State} {k : Nat} (hag : AgreesTo m V p) (hx : V p = some x)
  (h : Ledger held extra V m.space) (he : 0 < extra p)
include hag hx h he

theorem drops_reference (hc : x.refcount ≠ 1) :
    Drops held extra V m p (.ok (m.modify p Buffer.decref)) := by
  have hcell : m.store.cells p = some x := (hag p (Nat.le_refl p)).trans hx
  refine ⟨_, update V p (some x.decref), rfl, h.drop hx he hc, fun i hi => ?_, fun i hi => ⟨?_, ?_⟩⟩
  · show (m.store.modify p decref).cells i = _
    by_cases hip : i = p
    · rw [hip, modify_self, update_self, hcell]
      rfl
    · rw [modify_of_ne _ _ hip, update_of_ne hip, hag i hi]
  · rw [update_of_ne (by omega)]
  · exact modify_of_ne _ _ (by omega)

theorem drops_root (hroot : x.parent? = none) (hc : x.refcount = 1) :
    Drops held extra V m p (freeInternal (k + 1) (m.modify p Buffer.decref) p) := by
  obtain ⟨hal, -, hone⟩ := h.forest.last (h.node hx) he (congrArg UInt32.toNat hc)
  obtain ⟨i, hi, hl⟩ := h.eraseRoot hx hroot he hc
  have hfree : x.decref.freeOwned (x.decref.unmapOwned m.space) = .ok (m.space.drop ⟨i, 0⟩) :=
    free_of_releases hi
  have hcells (j : Nat) (hj : j ≠ p) :
      ((m.store.modify p decref).modify p clearAliases).cells j = m.store.cells j := by
    rw [modify_of_ne _ _ hj, modify_of_ne _ _ hj]
  refine ⟨{(m.modify p decref).modify p clearAliases with
    space := m.space.drop ⟨i, 0⟩}.discard p x.size, update V p none, ?_, ?_, ?_, fun j hj => ⟨?_, ?_⟩⟩
  · rw [freeInternal_root (cells_decref hag hx) hal hroot]
    exact congrArg (Except.map _) hfree
  · rw [hone, Nat.sub_self]
    exact hl
  · apply agreesTo_discard (update_self ..)
    intro j hj
    rw [update_of_ne (by omega), ← hag j (by omega)]
    exact hcells j (by omega)
  · exact update_of_ne (by omega) ..
  · exact (erase_of_ne _ (by omega)).trans (hcells j (by omega))

theorem drops_alias {q : Nat} (hpar : x.parent? = some q) (hc : x.refcount = 1)
    (ih : ∀ {m : State} {V : Nat → Option Buffer} {extra : Nat → Nat} {y : Buffer}, AgreesTo m V q →
      V q = some y → Ledger held extra V m.space → 0 < extra q →
        Drops held extra V m q (releaseWith (freeInternal k) m q)) :
    Drops held extra V m p (freeInternal (k + 1) (m.modify p Buffer.decref) p) := by
  obtain ⟨hal, -, hone⟩ := h.forest.last (h.node hx) he (congrArg UInt32.toNat hc)
  obtain ⟨y, hy, hlt, hbor, hl⟩ := h.passUp hx hpar he hc
  have hcells (j : Nat) (hj : j ≠ p) (hjq : j ≠ q) :
      (((m.store.modify p decref).modify p clearAliases).modify q
        (·.removeAlias p)).cells j = m.store.cells j := by
    rw [modify_of_ne _ _ hjq, modify_of_ne _ _ hj, modify_of_ne _ _ hj]
  have hagq : AgreesTo (((m.modify p decref).modify p clearAliases).modify q
      (·.removeAlias p)) (update (update V q (some (y.removeAlias p))) p none) q := by
    intro j hj
    rw [update_of_ne (by omega)]
    by_cases hjq : j = q
    · show (((m.store.modify p decref).modify p clearAliases).modify q _).cells j = _
      rw [hjq, update_self, modify_self, modify_of_ne _ _ (by omega),
        modify_of_ne _ _ (by omega), hag q (by omega), hy]
      rfl
    · rw [update_of_ne hjq, ← hag j (by omega)]
      exact hcells j (by omega) hjq
  obtain ⟨m₂, V₂, hrun, hl₂, hag₂, hab₂⟩ := ih hagq
    (by rw [update_of_ne (by omega), update_self]) hl
    (by rw [update_of_ne (by omega), update_self]; omega)
  refine ⟨{m₂ with space := m₂.space}.discard p x.size, V₂, ?_, ?_, ?_, fun j hj => ⟨?_, ?_⟩⟩
  · rw [freeInternal_alias (cells_decref hag hx) hal hpar, hrun]
    exact congrArg (Except.map _) (free_of_borrows hbor m₂.space)
  · rw [← extra_of_passUp hlt hone]
    exact hl₂
  · apply agreesTo_discard
    · rw [(hab₂ p hlt).1, update_self]
    · intro j hj
      by_cases hjq : j ≤ q
      · exact hag₂ j hjq
      · rw [(hab₂ j (by omega)).1, (hab₂ j (by omega)).2, update_of_ne (by omega),
          update_of_ne (by omega), ← hag j (by omega)]
        exact hcells j (by omega) (by omega)
  · rw [(hab₂ j (by omega)).1, update_of_ne (by omega), update_of_ne (by omega)]
  · show (m₂.store.erase p).cells j = _
    rw [erase_of_ne _ (by omega), (hab₂ j (by omega)).2]
    exact hcells j (by omega) (by omega)

end Destroy

/-- **Dropping a reference.** With fuel for all older structures the release ends
without a fault, and drops the reference from the ledger. -/
theorem release_spec (k : Nat) {p : Nat} {V : Nat → Option Buffer} {extra : Nat → Nat}
    (hk : p < k) (hag : AgreesTo m V p) (hx : V p = some x)
    (h : Ledger held extra V m.space) (he : 0 < extra p) :
    Drops held extra V m p (releaseWith (freeInternal k) m p) := by
  induction k generalizing m p V extra x with
  | zero => omega
  | succ k ih =>
    unfold releaseWith
    rw [read_of_live ((hag p (Nat.le_refl p)).trans hx)]
    simp only [Except.bind]
    by_cases hc : x.refcount = 1
    · rw [if_pos hc]
      cases hpar : x.parent? with
      | none => exact drops_root hag hx h he hpar hc
      | some q =>
        have hlt : q < p := (h.forest.ok p x.node (h.node hx)).parent_lt q hpar
        exact drops_alias hag hx h he hpar hc fun hag hx h he => ih (by omega) hag hx h he
    · rw [if_neg hc]
      exact drops_reference hag hx h he hc

end Mvgal.Memory
