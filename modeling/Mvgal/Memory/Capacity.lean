import Mvgal.Memory.Access

/-! How much memory lies behind the pointer of each buffer.

`Capacity` says that the block behind every buffer's `host_ptr` holds the buffer.
Most calls store one structure and at most add a block; then it is enough to look
at that structure (`capacity_put`, `capacity_addBuffer`). Which structure a call
stores also depends on facts that no call of the module breaks, as long as no
handle is freed (`Sound`): the reference counts of the alias forest, that a mapped
buffer has a pointer, that only buffers with a descriptor count as DMA-BUF
memory, and that an alias is no larger than its parent. -/
namespace Mvgal.Memory
open Arena Option Buffer
open Blocks (Ptr Space)
open Function (update update_self update_of_ne update_idem update_eq_self_iff comp_update)

theorem and_add_and_not (x y : UInt64) : (x &&& y).toNat + (x &&& ~~~y).toNat = x.toNat := by
  have hz : (x.toBitVec &&& y.toBitVec) &&& (x.toBitVec &&& ~~~y.toBitVec) = 0#64 := by
    ext i hi
    grind
  have hor : (x.toBitVec &&& y.toBitVec) ||| (x.toBitVec &&& ~~~y.toBitVec) = x.toBitVec := by
    ext i hi
    grind
  have hadd := BitVec.add_eq_or_of_and_eq_zero _ _ hz
  rw [hor] at hadd
  have h := congrArg BitVec.toNat hadd
  rw [BitVec.toNat_add] at h
  have h1 : (x.toBitVec &&& y.toBitVec).toNat ≤ x.toBitVec.toNat := by
    exact Nat.and_le_left
  show (x.toBitVec &&& y.toBitVec).toNat + (x.toBitVec &&& ~~~y.toBitVec).toNat = x.toBitVec.toNat
  omega

/-- Rounding up reaches the size exactly when the sum does not wrap. This holds for
every alignment, a power of two or not. -/
theorem le_alignedSize_iff (size alignment : UInt64) :
    size.toNat ≤ (alignedSize size alignment).toNat ↔
      alignment = 0 ∨ size.toNat + alignment.toNat ≤ 2 ^ 64 := by
  unfold alignedSize
  by_cases h0 : alignment = 0
  · simp [h0]
  · rw [if_neg h0]
    have hpos : 0 < alignment.toNat := by
      have := mt UInt64.toNat_inj.mp h0
      simp at this
      omega
    have hsplit := and_add_and_not (size + alignment - 1) (alignment - 1)
    have hmask : ((size + alignment - 1) &&& (alignment - 1)).toNat ≤ (alignment - 1).toNat := by
      exact Nat.and_le_right
    have ha := alignment.toNat_lt
    rw [UInt64.toNat_sub, UInt64.toNat_add] at hsplit
    rw [UInt64.toNat_sub] at hmask
    simp only [UInt64.toNat_one] at *
    constructor
    · intro h
      right
      omega
    · intro h
      have := h.resolve_left h0
      omega

/-- The range of a call, over unbounded integers, lies inside the buffer. -/
def Buffer.InRange (x : Buffer) (offset size : UInt64) : Prop :=
  offset.toNat + size.toNat ≤ x.size.toNat

instance (x : Buffer) (offset size : UInt64) : Decidable (x.InRange offset size) :=
  inferInstanceAs (Decidable (_ ≤ _))

/-- The bounds check passes on the ranges inside the buffer and on those that wrap. -/
theorem check_iff (x : Buffer) (offset size : UInt64) : ¬ x.size < offset + size ↔
      x.InRange offset size ∨ 2 ^ 64 ≤ offset.toNat + size.toNat ∧ ¬ x.size < offset + size := by
  rw [UInt64.lt_iff_toNat_lt, UInt64.toNat_add, InRange]
  omega

/-- The memory behind the pointer holds the buffer. -/
def Fits (s : Space) (x : Buffer) : Prop :=
  ∀ p, x.hostPtr = some p → s.InBounds p x.size.toNat

def Capacity (m : State) : Prop := ∀ b x, m.store.cells b = some x → Fits m.space x

theorem Fits.keeps {s s' : Space} {x : Buffer} (h : Fits s x) (hk : s.Keeps s') : Fits s' x :=
  fun p hp => (h p hp).keeps hk

/-- The part of a structure that `Fits` reads. -/
theorem Fits.congr {s : Space} {x y : Buffer} (h : Fits s x) (hp : y.hostPtr = x.hostPtr)
    (hs : y.size = x.size) : Fits s y := by
  intro p hy
  rw [hs]
  exact h p (hp ▸ hy)

variable {m : State} {b : Nat} {x y : Buffer} {s : Space}

theorem capacity_put (h : Capacity m) (hb : m.store.cells b = some x) (hk : m.space.Keeps s) :
    Capacity (m.put b y s) ↔ Fits s y := by
  constructor
  · intro hc
    exact hc b y (by simp [State.put, hb])
  · intro hy c z hz
    obtain ⟨-, -, -, rfl⟩ | ⟨-, hz⟩ := of_modify hz
    · exact hy
    · exact (h c z hz).keeps hk

theorem capacity_addBuffer (h : Capacity m) (hk : m.space.Keeps s) :
    Capacity (m.addBuffer y s) ↔ Fits s y := by
  constructor
  · intro hc
    exact hc m.store.next y (push_self ..)
  · intro hy c z hz
    obtain ⟨-, rfl⟩ | hz := of_push hz
    · exact hy
    · exact (h c z hz).keeps hk

/-! ### What the calls keep besides -/

structure Buffer.Plain (x : Buffer) : Prop where
  mapped : x.mapped = true → x.hostPtr ≠ none
  descriptor : x.dmabufFd = none →
    x.exported = false ∧ x.backend ≠ .dmaBuf ∧ x.backend ≠ .dmaBufImported

/-- The part of a structure that mapping and access leave alone. -/
def Buffer.shape (x : Buffer) : Node × UInt64 × UInt64 := (x.node, x.size, x.aliasSize)

def allHeld (N : Nat → Option Node) (i : Nat) : Bool := (N i).isSome

structure Sound (m : State) : Prop where
  forest : Forest (allHeld m.nodes) (fun _ => 0) m.nodes
  plain : ∀ b x, m.store.cells b = some x → x.Plain
  alias_le : ∀ b x p y, m.store.cells b = some x → x.parent? = some p → m.store.cells p = some y →
    x.aliasSize = x.size ∧ x.size.toNat ≤ y.size.toNat

theorem allHeld_update (N : Nat → Option Node) (i : Nat) (z : Node) :
    allHeld (update N i (some z)) = update (allHeld N) i true := by
  funext j
  unfold allHeld
  by_cases hj : j = i
  · subst hj
    simp
  · rw [update_of_ne hj, update_of_ne hj]

variable {i : Nat}

theorem allHeld_update_live {N : Nat → Option Node} (hi : (N i).isSome) (z : Node) :
    allHeld (update N i (some z)) = allHeld N := by
  rw [allHeld_update]
  exact update_eq_self_iff.mpr hi.symm

theorem nodes_eq_some {z : Node} :
    m.nodes i = some z ↔ ∃ x, m.store.cells i = some x ∧ x.node = z := by
  simp [State.nodes]

theorem nodes_of_some (h : m.store.cells i = some x) : m.nodes i = some x.node := by
  rw [State.nodes, h]
  rfl

/-- A call that leaves the shape of every structure keeps `Sound`. -/
theorem Sound.congr {m' : State} (h : Sound m)
    (hshape : ∀ i, (m'.store.cells i).map Buffer.shape = (m.store.cells i).map Buffer.shape)
    (hplain : ∀ b x, m'.store.cells b = some x → x.Plain) : Sound m' := by
  have hback : ∀ i z, m'.store.cells i = some z →
      ∃ x, m.store.cells i = some x ∧ z.shape = x.shape := by
    intro i z hz
    have := hshape i
    rw [hz] at this
    obtain ⟨x, hx, he⟩ := Option.map_eq_some_iff.mp this.symm
    exact ⟨x, hx, he.symm⟩
  have hnodes : m'.nodes = m.nodes := by
    funext i
    have := congrArg (Option.map Prod.fst) (hshape i)
    rw [Option.map_map, Option.map_map] at this
    exact this
  refine ⟨by rw [hnodes]; exact h.forest, hplain, fun b z p w hz hp hw => ?_⟩
  obtain ⟨x, hx, hxz⟩ := hback b z hz
  obtain ⟨y, hy, hyw⟩ := hback p w hw
  simp only [shape, Prod.mk.injEq] at hxz hyw
  have hparent : x.parent? = some p := (congrArg Node.parent hxz.1).symm.trans hp
  have := h.alias_le b x p y hx hparent hy
  rw [hxz.2.1, hxz.2.2, hyw.2.1]
  exact this

theorem Sound.put (h : Sound m) (hb : m.store.cells b = some x) (hshape : y.shape = x.shape)
    (hplain : y.Plain) : Sound (m.put b y s) := by
  apply h.congr
  · exact modify_map m.store b fun z hz => by
      rw [hb] at hz
      rw [hshape, some.inj hz]
  · intro c z hz
    obtain ⟨-, -, -, rfl⟩ | ⟨-, hz⟩ := of_modify hz
    · exact hplain
    · exact h.plain c z hz

theorem addBuffer_nodes : (m.addBuffer y s).nodes = update m.nodes m.store.next (some y.node) :=
  comp_update (Option.map node) m.store.cells m.store.next (some y)

theorem nodes_next : m.nodes m.store.next = none := by
  rw [State.nodes, cells_next]
  rfl

variable {p : Nat}

/-- The parent of a live alias is live, so it is not the next structure. -/
theorem Sound.parent_ne_next (h : Sound m) (hb : m.store.cells b = some x)
    (hp : x.parent? = some p) : p ≠ m.store.next := by
  rintro rfl
  have hlive := (h.forest.ok b _ (nodes_of_some hb)).parent_live m.store.next hp
  rw [nodes_next] at hlive
  cases hlive

theorem Sound.addBuffer (h : Sound m) (hnode : y.node = ⟨1, [], none⟩) (hplain : y.Plain) :
    Sound (m.addBuffer y s) := by
  refine ⟨?_, fun b z hz => ?_, fun b z p w hz hp hw => ?_⟩
  · rw [addBuffer_nodes, allHeld_update, hnode]
    exact h.forest.create nodes_next rfl
  · obtain ⟨-, rfl⟩ | hz := of_push hz
    · exact hplain
    · exact h.plain b z hz
  · obtain ⟨-, rfl⟩ | hz := of_push hz
    · cases (congrArg Node.parent hnode).symm.trans hp
    · obtain ⟨rfl, -⟩ | hw := of_push hw
      · exact absurd rfl (h.parent_ne_next hz hp)
      · exact h.alias_le b z p w hz hp hw

section
variable (hp : m.store.cells p = some x)
include hp

theorem addAlias_cells (z : Buffer) : (m.addAlias p z).store.cells =
      update (update m.store.cells m.store.next (some z)) p (some (x.addAlias m.store.next)) :=
  modify_update (push_of_some hp) _

theorem addAlias_next (z : Buffer) :
    (m.addAlias p z).store.cells m.store.next = some z := by
  rw [addAlias_cells hp, update_of_ne (Nat.ne_of_gt (lt_next hp)), update_self]

variable {z : Buffer}

/-- A structure found after an alias was added is the alias, or one that was there
before; of these only the parent has changed. -/
theorem of_addAlias (hz : (m.addAlias p y).store.cells i = some z) :
    i = m.store.next ∧ z = y ∨ m.store.cells i = some x ∧ z = x.addAlias m.store.next ∨
      m.store.cells i = some z := by
  obtain ⟨rfl, w, hw, rfl⟩ | ⟨-, hz⟩ := of_modify hz
  · cases (push_of_some hp).symm.trans hw
    exact .inr (.inl ⟨hp, rfl⟩)
  · exact (of_push hz).imp_right .inr

end

theorem capacity_addAlias (h : Capacity m) (hp : m.store.cells p = some x) :
    Capacity (m.addAlias p y) ↔ Fits m.space y := by
  constructor
  · intro hc
    exact hc m.store.next y (addAlias_next hp y)
  · intro hy c z hz
    obtain ⟨-, rfl⟩ | ⟨hc, rfl⟩ | hz := of_addAlias hp hz
    · exact hy
    · exact (h c x hc).congr rfl rfl
    · exact h c z hz

/-- The node of a structure that gets one more alias. The count cannot wrap: a
parent has at most 16 aliases. -/
theorem node_addAlias {x : Buffer} (a : Nat) (h : x.refcount.toNat + 1 < 2 ^ 32) :
    (x.addAlias a).node = ⟨x.refcount.toNat + 1, x.aliases ++ [a], x.parent?⟩ := by
  have hcount : (x.refcount + 1).toNat = x.refcount.toNat + 1 := by
    rw [UInt32.toNat_add, UInt32.toNat_one, Nat.mod_eq_of_lt h]
  show (⟨(x.refcount + 1).toNat, x.aliases ++ [a], x.parent?⟩ : Node) = _
  rw [hcount]

theorem addAlias_nodes (hp : m.store.cells p = some x) (hx : x.refcount.toNat + 1 < 2 ^ 32)
    (hy : y.node = ⟨1, [], some p⟩) : (m.addAlias p y).nodes =
      update (update m.nodes m.store.next (some ⟨1, [], some p⟩)) p
        (some ⟨x.node.count + 1, x.node.children ++ [m.store.next], x.node.parent⟩) := by
  show Option.map node ∘ (m.addAlias p y).store.cells = _
  rw [addAlias_cells hp, comp_update, comp_update, Option.map_some, Option.map_some,
    hy, node_addAlias _ hx]
  rfl

theorem Sound.refcount_eq (h : Sound m) (hb : m.store.cells b = some x) :
    x.refcount.toNat = 1 + x.aliases.length := by
  have hcount := (h.forest.ok b _ (nodes_of_some hb)).count_eq
  have hheld : allHeld m.nodes b = true := by rw [allHeld, nodes_of_some hb]; rfl
  rw [hheld] at hcount
  exact hcount

/-- An older structure has the size, the rights and the parent it had before the alias. -/
theorem addAlias_old (hp : m.store.cells p = some x)
    (hz : (m.addAlias p y).store.cells i = some z) :
    i = m.store.next ∧ z = y ∨ ∃ w, m.store.cells i = some w ∧ z.size = w.size ∧
      z.aliasSize = w.aliasSize ∧ z.parent? = w.parent? ∧ (w.Plain → z.Plain) := by
  obtain hz | ⟨hi, rfl⟩ | hz := of_addAlias hp hz
  · exact .inl hz
  · exact .inr ⟨x, hi, rfl, rfl, rfl, fun hx => ⟨hx.mapped, hx.descriptor⟩⟩
  · exact .inr ⟨z, hz, rfl, rfl, rfl, id⟩

theorem Sound.forest_addAlias (h : Sound m) (hp : m.store.cells p = some x)
    (hroom : x.aliases.length < maxAliases) (hnode : y.node = ⟨1, [], some p⟩) :
    Forest (allHeld (m.addAlias p y).nodes) (fun _ => 0) (m.addAlias p y).nodes := by
  have hlt := lt_next hp
  have hcount : x.refcount.toNat + 1 < 2 ^ 32 := by
    have := h.refcount_eq hp
    unfold maxAliases at hroom
    omega
  rw [addAlias_nodes hp hcount hnode, allHeld_update, allHeld_update]
  have hself : update (update (allHeld m.nodes) m.store.next true) p true =
      update (allHeld m.nodes) m.store.next true := by
    apply update_eq_self_iff.mpr
    rw [update_of_ne (Nat.ne_of_lt hlt), allHeld, nodes_of_some hp]
    rfl
  rw [hself]
  exact h.forest.attach (nodes_of_some hp) nodes_next hlt rfl

theorem Sound.addAlias (h : Sound m) (hp : m.store.cells p = some x)
    (hroom : x.aliases.length < maxAliases) (hnode : y.node = ⟨1, [], some p⟩) (hplain : y.Plain)
    (hsize : y.aliasSize = y.size ∧ y.size.toNat ≤ x.size.toNat) : Sound (m.addAlias p y) := by
  refine ⟨h.forest_addAlias hp hroom hnode, fun b z hz => ?_, fun b z q w hz hq hw => ?_⟩
  · obtain ⟨-, rfl⟩ | ⟨w, hw, -, -, -, hpl⟩ := addAlias_old hp hz
    · exact hplain
    · exact hpl (h.plain b w hw)
  · obtain ⟨-, rfl⟩ | ⟨z', hz', hs1, hs2, hs3, -⟩ := addAlias_old hp hz
    · obtain rfl : p = q := some.inj ((congrArg Node.parent hnode).symm.trans hq)
      obtain ⟨hn, -⟩ | ⟨w', hw', hsz, -⟩ := addAlias_old hp hw
      · exact absurd hn (Nat.ne_of_lt (lt_next hp))
      · rw [hsz, ← some.inj (hp.symm.trans hw')]
        exact hsize
    · rw [hs3] at hq
      obtain ⟨rfl, -⟩ | ⟨w', hw', hw1, -⟩ := addAlias_old hp hw
      · exact absurd rfl (h.parent_ne_next hz' hq)
      · rw [hs1, hs2, hw1]
        exact h.alias_le b z' q w' hz' hq hw'

/-- The state after `b` left its parent `p` for a private copy at `q`, when the
parent stays. -/
def State.detached (m : State) (b p : Nat) (q : Ptr) (s : Space) : State :=
  (({m with space := s}.modify p (·.removeAlias b)).modify p Buffer.decref).modify b (·.detach q)

variable {q : Ptr}

theorem detached_cells (hne : p ≠ b) (hb : m.store.cells b = some x)
    (hp : m.store.cells p = some y) : (m.detached b p q s).store.cells =
      update (update m.store.cells p (some (y.removeAlias b).decref)) b (some (x.detach q)) := by
  have hp' : (m.store.modify p (·.removeAlias b)).cells p = some (y.removeAlias b) := by simp [hp]
  have hb' : ((m.store.modify p (·.removeAlias b)).modify p decref).cells b = some x := by
    rw [modify_of_ne _ _ hne.symm, modify_of_ne _ _ hne.symm, hb]
  apply (modify_update hb' _).trans
  rw [modify_update hp', modify_update hp, update_idem]

theorem detached_nodes (hne : p ≠ b) (hb : m.store.cells b = some x)
    (hp : m.store.cells p = some y) (hcount : 1 ≤ y.refcount.toNat) : (m.detached b p q s).nodes =
      update (update (update m.nodes b (some {x.node with parent := none})) p
        (some {y.node with children := swapRemove y.node.children b})) p
        (some ⟨y.node.count - 1, swapRemove y.node.children b, y.node.parent⟩) := by
  have hdec : (y.refcount - 1).toNat = y.refcount.toNat - 1 := by
    have := y.refcount.toNat_lt
    rw [UInt32.toNat_sub, UInt32.toNat_one]
    omega
  have hnode : ((y.removeAlias b).decref).node =
      ⟨y.node.count - 1, swapRemove y.node.children b, y.node.parent⟩ := by
    show Node.mk (y.refcount - 1).toNat _ _ = _
    rw [hdec]
    rfl
  show Option.map node ∘ (m.detached b p q s).store.cells = _
  rw [detached_cells hne hb hp, comp_update, comp_update, Option.map_some,
    Option.map_some, hnode, update_idem, Function.update_comm hne]
  rfl

theorem Sound.parent_cell (h : Sound m) (hb : m.store.cells b = some x)
    (hp : x.parent? = some p) : p < b ∧ ∃ y, m.store.cells p = some y ∧ b ∈ y.aliases := by
  have hok := h.forest.ok b _ (nodes_of_some hb)
  have hlive := hok.parent_live p hp
  obtain ⟨z, hz⟩ := isSome_iff_exists.mp hlive
  obtain ⟨y, hy, rfl⟩ := nodes_eq_some.mp hz
  refine ⟨hok.parent_lt p hp, y, hy, ?_⟩
  exact ((h.forest.ok p _ hz).mem_children b).mpr ((parentOf_eq (nodes_of_some hb)).trans hp)

/-- A structure found after `b` left its parent is `b`, the parent, or as it was. -/
theorem of_detached (hb : m.store.cells b = some x)
    (hy : m.store.cells p = some y) (hne : p ≠ b) (hz : (m.detached b p q s).store.cells i = some z) :
    m.store.cells i = some x ∧ z = x.detach q ∨
      m.store.cells i = some y ∧ z = (y.removeAlias b).decref ∨ m.store.cells i = some z := by
  rw [detached_cells hne hb hy] at hz
  obtain ⟨rfl, rfl⟩ | ⟨-, hz⟩ := Table.update_some hz
  · exact .inl ⟨hb, rfl⟩
  · obtain ⟨rfl, rfl⟩ | ⟨-, hz⟩ := Table.update_some hz
    · exact .inr (.inl ⟨hy, rfl⟩)
    · exact .inr (.inr hz)

/-- A structure keeps its size; only `b` loses its parent. -/
theorem detached_old (hb : m.store.cells b = some x)
    (hy : m.store.cells p = some y) (hne : p ≠ b) (hz : (m.detached b p q s).store.cells i = some z) :
    ∃ w, m.store.cells i = some w ∧ z.size = w.size ∧ (w.Plain → z.Plain) ∧
      (∀ r, z.parent? = some r → w.parent? = some r ∧ z.aliasSize = w.aliasSize) := by
  obtain ⟨hi, rfl⟩ | ⟨hi, rfl⟩ | hz := of_detached hb hy hne hz
  · refine ⟨x, hi, rfl, fun hx => ⟨fun _ => by simp [detach], hx.descriptor⟩, ?_⟩
    intro r hr
    exact absurd hr (by simp [detach, parent?])
  · exact ⟨y, hi, rfl, fun hx => ⟨hx.mapped, hx.descriptor⟩, fun r hr => ⟨hr, rfl⟩⟩
  · exact ⟨z, hz, rfl, id, fun r hr => ⟨hr, rfl⟩⟩

theorem Sound.forest_detached (h : Sound m) (hb : m.store.cells b = some x)
    (hp : x.parent? = some p) (hy : m.store.cells p = some y) :
    Forest (allHeld (m.detached b p q s).nodes) (fun _ => 0) (m.detached b p q s).nodes := by
  obtain ⟨hlt, y', hy', hmem⟩ := h.parent_cell hb hp
  obtain rfl : y' = y := some.inj (hy'.symm.trans hy)
  have hcount := h.refcount_eq hy
  have hlen := List.length_pos_of_mem hmem
  have hsever := h.forest.sever (nodes_of_some hb) hp (nodes_of_some hy)
  have hheld : allHeld (m.detached b p q s).nodes = allHeld m.nodes := by
    rw [detached_nodes (Nat.ne_of_lt hlt) hb hy (by omega), update_idem,
      allHeld_update, allHeld_update_live (by rw [nodes_of_some hb]; rfl)]
    exact update_eq_self_iff.mpr (by rw [allHeld, nodes_of_some hy]; rfl)
  have hdrop := hsever.drop (update_self ..) (by simp)
    (by show y'.refcount.toNat ≠ 1; omega)
  have hextra : update (update (fun _ : Nat => 0) p 1) p 0 = fun _ => 0 := by
    rw [update_idem]
    exact update_eq_self_iff.mpr rfl
  rw [hheld, detached_nodes (Nat.ne_of_lt hlt) hb hy (by omega)]
  simpa only [update_self, Nat.zero_add, Nat.sub_self, hextra] using hdrop

theorem Sound.detached (h : Sound m) (hb : m.store.cells b = some x)
    (hp : x.parent? = some p) (hy : m.store.cells p = some y) : Sound (m.detached b p q s) := by
  have hne := Nat.ne_of_lt (h.parent_cell hb hp).1
  refine ⟨h.forest_detached hb hp hy, fun c z hz => ?_, fun c z r w hz hr hw => ?_⟩
  · obtain ⟨w, hw, -, hpl, -⟩ := detached_old hb hy hne hz
    exact hpl (h.plain c w hw)
  · obtain ⟨z', hz', hs1, -, hs2⟩ := detached_old hb hy hne hz
    obtain ⟨w', hw', ht1, -⟩ := detached_old hb hy hne hw
    obtain ⟨hr', hs3⟩ := hs2 r hr
    rw [hs1, hs3, ht1]
    exact h.alias_le c z' r w' hz' hr' hw'

theorem malloc_inBounds {sys : System} {s s' : Space} {n : UInt64} {byte : Nat → UInt8}
    (h : malloc sys s n byte = some (q, s')) : s.Keeps s' ∧ s'.InBounds q n.toNat := by
  obtain ⟨hn, heq⟩ := malloc_cases h
  cases heq
  exact ⟨s.keeps_create .heap hn byte, (s.create_inBounds .heap hn byte _).mpr (Nat.le_refl _)⟩

/-- The copy into a new block reads as many bytes as the alias has, from the
parent's pointer on. -/
theorem privateCopy_ok {src : Option Ptr} {n : Nat} (hq : s.InBounds q n)
    (hsrc : ∀ p, src = some p → s.InBounds p n) :
    ∃ s', privateCopy s q src n = .ok s' ∧ s.Keeps s' := by
  cases src with
  | none => exact ⟨s, rfl, Space.Keeps.refl s⟩
  | some p =>
    obtain ⟨s', hs'⟩ := Space.copy_of_inBounds hq (hsrc p rfl)
    exact ⟨s', hs', Space.keeps_of_blocks (Space.copy_blocks hs')⟩

/-- Detaching an alias either fails its checks or its allocation, or gives it a
private copy; the read from the parent stays inside the parent's memory. -/
theorem memoryAliasDetach_cases (sys : System) (h : Sound m) (hc : Capacity m)
    (hb : m.store.cells b = some x) : (∃ e, memoryAliasDetach sys m b = .ok (e, m)) ∨
    ∃ p y q s, x.parent? = some p ∧ m.store.cells p = some y ∧
      memoryAliasDetach sys m b = .ok (.success, m.detached b p q s) ∧
      m.space.Keeps s ∧ s.InBounds q x.size.toNat := by
  have hread : m.read b = .ok x := by rw [State.read, hb]
  unfold memoryAliasDetach
  rw [hread]
  simp only [Except.bind]
  cases hp : x.parent? with
  | none => exact .inl ⟨_, rfl⟩
  | some p =>
    obtain ⟨-, y, hy, hmem⟩ := h.parent_cell hb hp
    obtain ⟨hsize, hle⟩ := h.alias_le b x p y hb hp hy
    cases hm : malloc sys m.space x.aliasSize sys.garbage with
    | none => exact .inl ⟨_, rfl⟩
    | some r =>
      obtain ⟨q, s⟩ := r
      obtain ⟨hkeep, hq⟩ := malloc_inBounds hm
      rw [hsize] at hq
      obtain ⟨s', hs', hks⟩ := privateCopy_ok hq fun ph hh => ((hc p y hy ph hh).mono hle).keeps hkeep
      refine .inr ⟨p, y, q, s', rfl, hy, ?_, hkeep.trans hks, hq.keeps hks⟩
      have hcount := h.refcount_eq hy
      have hlen := List.length_pos_of_mem hmem
      have hne : y.refcount ≠ 1 := by
        intro h1
        rw [h1, UInt32.toNat_one] at hcount
        omega
      simp only [hsize, hs', bufferRelease, releaseWith, State.read, State.modify,
        modify_self, hy, map_some, Except.bind, removeAlias, if_neg hne]
      rfl

theorem capacity_detached (h : Sound m) (hc : Capacity m)
    (hb : m.store.cells b = some x) (hp : x.parent? = some p) (hk : m.space.Keeps s)
    (hq : s.InBounds q x.size.toNat) : Capacity (m.detached b p q s) := by
  obtain ⟨hlt, y, hy, -⟩ := h.parent_cell hb hp
  intro i z hz
  obtain ⟨-, rfl⟩ | ⟨hi, rfl⟩ | hz := of_detached hb hy (Nat.ne_of_lt hlt) hz
  · intro r hr
    obtain rfl : q = r := by simpa [detach] using hr
    exact hq
  · exact ((hc i y hi).keeps hk).congr rfl rfl
  · exact (hc i z hz).keeps hk

end Mvgal.Memory
