import Mvgal.Lib.Run
import Mvgal.Memory.Fading
import Mvgal.Memory.Grants

/-! The links and pointers of buffers, over whole runs.

Along every run of the calls that create, map, write, bind, alias, detach and free
buffers, parents are older than their aliases, an alias is on the list of no buffer but
its parent and has the parent's descriptor, and no pointer leads to memory that does not
exist yet (`orderly_along`). Most calls only change structures in place, so one lemma
serves them (`Orderly.of_cells`). -/
namespace Mvgal.Memory
open List Arena Option Buffer Nat
open Blocks (Ptr Space Fault limit)

/-- The structure holds this address: a pointer of its own, or one of a binding. -/
def Buffer.Refers (x : Buffer) (r : Ptr) : Prop :=
  x.hostPtr = some r ∨ x.originalPtr = some r ∨
    ∃ i, (x.binding i).mapping = some r ∨ (x.binding i).gpuAddress = some r

/-- The links and pointers of structure `i` are in order. -/
structure Sits (m : State) (i : Nat) (x : Buffer) : Prop where
  parent : ∀ q, x.parent? = some q → q < i ∧ x.aliasSize = x.size
  descriptor : ∀ q y, x.parent? = some q → m.store.cells q = some y → x.dmabufFd = y.dmabufFd
  nodup : x.aliases.Nodup
  listed : ∀ c ∈ x.aliases, i < c ∧ c < m.store.next ∧
    ∀ y q, m.store.cells c = some y → y.parent? = some q → q = i
  pointers : ∀ r, x.Refers r → r.block < m.space.blocks.next
  descriptors : ∀ fd, x.dmabufFd = some fd → fd < m.space.objects.next

structure Orderly (m : State) : Prop where
  cells : ∀ i x, m.store.cells i = some x → Sits m i x
  objects : ∀ i B, m.space.blocks.cells i = some B → B.object < m.space.objects.next

variable {sys : System} {m m' : State} {s s' : Space} {x y : Buffer} {b : Nat}

/-! ### Changes and new structures -/

/-- A structure after a change: no new links but aliases of `new`, and new pointers only to memory
there is. -/
structure Buffer.AltersBy (new : List Nat) (s : Space) (x x' : Buffer) : Prop where
  parent : ∀ q, x'.parent? = some q → x.parent? = some q
  sizes : ∀ q, x'.parent? = some q → x'.aliasSize = x.aliasSize ∧ x'.size = x.size
  aliases : List.Subperm x'.aliases (new ++ x.aliases)
  dmabufFd : x'.dmabufFd = x.dmabufFd
  pointers : ∀ r, x'.Refers r → x.Refers r ∨ r.block < s.blocks.next

abbrev Buffer.Alters (s : Space) (x x' : Buffer) : Prop := x.AltersBy [] s x'

theorem Buffer.Alters.refl (s : Space) (x : Buffer) : x.Alters s x :=
  ⟨fun _ h => h, fun _ _ => ⟨rfl, rfl⟩, Subperm.refl _, rfl, fun _ h => .inl h⟩

/-- A new structure: nobody's parent yet. -/
structure Newcomer (A : Arena Buffer) (s : Space) (y : Buffer) : Prop where
  aliases : y.aliases = []
  parent : ∀ q, y.parent? = some q → q < A.next ∧ y.aliasSize = y.size ∧
    ∀ z, A.cells q = some z → y.dmabufFd = z.dmabufFd
  pointers : ∀ r, y.Refers r → r.block < s.blocks.next
  dmabufFd : ∀ fd, y.dmabufFd = some fd → fd < s.objects.next

/-- The aliases that structure `i` gets: none, or the structure that is created. -/
def Adopts (m m' : State) (i : Nat) (new : List Nat) : Prop :=
  new = [] ∨ new = [m.store.next] ∧ m.store.next < m'.store.next ∧
    ∀ y q, m'.store.cells m.store.next = some y → y.parent? = some q → q = i

/-- An address space with more memory in it. -/
structure Grown (s s' : Space) : Prop where
  blocks : s.blocks.next ≤ s'.blocks.next
  objects : s.objects.next ≤ s'.objects.next
  shown : ∀ i B, s'.blocks.cells i = some B → s.blocks.cells i = some B ∨ B.object < s'.objects.next

theorem Grown.refl (s : Space) : Grown s s := ⟨le_refl _, le_refl _, fun _ _ h => .inl h⟩

theorem grown_bytes (s : Space) (bytes : Nat → Nat → UInt8) : Grown s {s with bytes := bytes} :=
  ⟨le_refl _, le_refl _, fun _ _ h => .inl h⟩

section
variable (h : Orderly m)
include h

/-- **One step.** Calls that change structures in place or create one keep the order. -/
theorem Orderly.step (hspace : Grown m.space m'.space) (hnext : m.store.next ≤ m'.store.next)
    (hcells : ∀ i x', m'.store.cells i = some x' →
      (∃ x new, m.store.cells i = some x ∧ x.AltersBy new m'.space x' ∧ Adopts m m' i new) ∨
        i = m.store.next ∧ Newcomer m.store m'.space x') : Orderly m' := by
  have hold {i : Nat} {x' : Buffer} (hi : i < m.store.next) (hx' : m'.store.cells i = some x') :
      ∃ x, m.store.cells i = some x ∧ x'.dmabufFd = x.dmabufFd ∧
        ∀ q, x'.parent? = some q → x.parent? = some q := by
    obtain ⟨x, _, hx, halt, -⟩ | ⟨rfl, -⟩ := hcells i x' hx'
    · exact ⟨x, hx, halt.dmabufFd, halt.parent⟩
    · exact absurd hi (lt_irrefl _)
  refine ⟨fun i x' hx' => ?_, fun i B hB => ?_⟩
  · obtain ⟨x, new, hx, halt, hnew⟩ | ⟨rfl, hnew⟩ := hcells i x' hx'
    · have hsits := h.cells i x hx
      constructor
      case parent =>
        intro q hq
        rw [(halt.sizes q hq).1, (halt.sizes q hq).2]
        exact hsits.parent q (halt.parent q hq)
      case descriptor =>
        intro q y' hq hy'
        have hq := halt.parent q hq
        obtain ⟨y, hy, hfd, -⟩ := hold ((hsits.parent q hq).1.trans (lt_next hx)) hy'
        rw [halt.dmabufFd, hfd]
        exact hsits.descriptor q y hq hy
      case nodup =>
        obtain ⟨l, hperm, hsub⟩ := halt.aliases
        refine hperm.nodup_iff.mp (Nodup.sublist hsub ?_)
        obtain rfl | ⟨rfl, -⟩ := hnew
        · exact hsits.nodup
        · exact nodup_cons.mpr ⟨fun hmem => lt_irrefl _ (hsits.listed _ hmem).2.1, hsits.nodup⟩
      case listed =>
        intro c hc
        obtain hc | hc := mem_append.mp (halt.aliases.subset hc)
        · obtain rfl | ⟨rfl, hlt, hpar⟩ := hnew
          · exact absurd hc not_mem_nil
          · obtain rfl := mem_singleton.mp hc
            exact ⟨lt_next hx, hlt, hpar⟩
        · obtain ⟨hlt, hc', hpar⟩ := hsits.listed c hc
          refine ⟨hlt, lt_of_lt_of_le hc' hnext, fun y' q hy' hq => ?_⟩
          obtain ⟨y, hy, -, hback⟩ := hold hc' hy'
          exact hpar y q hy (hback q hq)
      case pointers =>
        intro r hr
        obtain hr | hr := halt.pointers r hr
        · exact lt_of_lt_of_le (hsits.pointers r hr) hspace.blocks
        · exact hr
      case descriptors =>
        intro fd hfd
        exact lt_of_lt_of_le (hsits.descriptors fd (halt.dmabufFd.symm.trans hfd)) hspace.objects
    · refine ⟨fun q hq => ⟨(hnew.parent q hq).1, (hnew.parent q hq).2.1⟩, fun q y' hq hy' => ?_,
        hnew.aliases ▸ nodup_nil, fun c hc => absurd (hnew.aliases ▸ hc) not_mem_nil,
        hnew.pointers, hnew.dmabufFd⟩
      obtain ⟨hlt, -, hsame⟩ := hnew.parent q hq
      obtain ⟨y, hy, hfd, -⟩ := hold hlt hy'
      rw [hfd]
      exact hsame y hy
  · obtain hB | hB := hspace.shown i B hB
    · exact lt_of_lt_of_le (h.objects i B hB) hspace.objects
    · exact hB

theorem Orderly.of_cells (hspace : Grown m.space m'.space)
    (hcreated : m'.store.next = m.store.next)
    (hcells : ∀ i x', m'.store.cells i = some x' → ∃ x, m.store.cells i = some x ∧ x.Alters m'.space x') :
    Orderly m' := by
  refine h.step hspace (le_of_eq hcreated.symm) fun i x' hx' => .inl ?_
  obtain ⟨x, hx, halt⟩ := hcells i x' hx'
  exact ⟨x, [], hx, halt, .inl rfl⟩

theorem Orderly.addBuffer (hspace : Grown m.space s) (hnew : Newcomer m.store s y) :
    Orderly (m.addBuffer y s) := by
  refine h.step hspace (le_succ _) fun i x' hx' => ?_
  obtain ⟨rfl, rfl⟩ | hx := of_push hx'
  · exact .inr ⟨rfl, hnew⟩
  · exact .inl ⟨x', [], hx, Alters.refl _ x', .inl rfl⟩

/-- A new alias goes on the list of its parent. -/
theorem Orderly.addAlias {p : Nat} (hx : m.store.cells p = some x)
    (hnew : Newcomer m.store m.space y) (hpar : y.parent? = some p) : Orderly (m.addAlias p y) := by
  have hxp : (m.store.push y).cells p = some x := push_of_some hx
  refine h.step (.refl _) (le_succ _) fun i x' hx' => ?_
  obtain ⟨rfl, x₀, hx₀, rfl⟩ | ⟨-, hx'⟩ := of_modify hx'
  · cases hxp.symm.trans hx₀
    refine .inl ⟨x, [m.store.next], hx, ⟨fun _ h => h, fun _ _ => ⟨rfl, rfl⟩, perm_append_comm.subperm, rfl,
      fun _ h => .inl h⟩, .inr ⟨rfl, lt_succ_self _, fun z q hz hq => ?_⟩⟩
    obtain ⟨hi, -⟩ | ⟨-, hz⟩ := of_modify hz
    · exact absurd hi (ne_of_gt (lt_next hx))
    · cases (push_self ..).symm.trans hz
      exact some.inj (hq.symm.trans hpar)
  · obtain ⟨rfl, rfl⟩ | hx' := of_push hx'
    · exact .inr ⟨rfl, hnew⟩
    · exact .inl ⟨x', [], hx', Alters.refl _ x', .inl rfl⟩

/-- The order is one of the structures and the address space. -/
theorem Orderly.congr (hstore : m'.store = m.store) (hspace : m'.space = m.space) :
    Orderly m' :=
  h.of_cells (hspace ▸ .refl _) (congrArg next hstore) fun _ x hx => ⟨x, hstore ▸ hx, .refl _ x⟩

omit h in
theorem Buffer.Fades.alters (h : x.Fades y) (s : Space) : x.Alters s y := by
  have hsize : y.size = x.size := congrArg (·.2.2.1) h.fixed
  have halias : y.aliasSize = x.aliasSize := congrArg (·.2.2.2.1) h.fixed
  have hbind : y.gpuBindings = x.gpuBindings := congrArg (·.2.2.2.2.1) h.fixed
  refine ⟨fun q => h.parent_of, fun q _ => ⟨halias, hsize⟩, h.aliases, h.dmabufFd, fun r hr => .inl ?_⟩
  obtain hp | hrest := hr
  · exact .inl (h.hostPtr_of hp)
  · rw [h.originalPtr, binding_congr hbind] at hrest
    exact .inr hrest

theorem Orderly.fades {z : Nat} {keep : Nat → Prop} (hf : Fades z keep m m') :
    Orderly m' := by
  refine h.of_cells ⟨le_of_eq hf.next.symm, le_of_eq (congrArg next hf.objects).symm,
    fun i B hB => .inl (hf.blocks i B hB)⟩ hf.created fun i x' hx' => ?_
  obtain ⟨x, hx, hfade⟩ := hf.cells i x' hx'
  exact ⟨x, hx, hfade.alters _⟩

theorem Orderly.space (hspace : Grown m.space s) : Orderly {m with space := s} :=
  h.of_cells hspace rfl fun _ x' hx' => ⟨x', hx', .refl _ x'⟩

theorem Orderly.modify {f : Buffer → Buffer}
    (halt : ∀ x, m.store.cells b = some x → x.Alters m.space (f x)) : Orderly (m.modify b f) := by
  refine h.of_cells (.refl _) rfl fun i x' hx' => ?_
  obtain ⟨rfl, x, hx, rfl⟩ | ⟨-, hx⟩ := of_modify hx'
  · exact ⟨x, hx, halt x hx⟩
  · exact ⟨x', hx, .refl _ x'⟩

theorem Orderly.put (hx : m.store.cells b = some x) (hspace : Grown m.space s)
    (halt : x.Alters s y) : Orderly (m.put b y s) :=
  (h.space hspace).modify fun _ hz => some.inj (hx.symm.trans hz) ▸ halt

end

variable {n : Nat}

theorem grown_create (s : Space) (kind : Blocks.Kind) (hn : n < limit) (byte : Nat → UInt8) :
    Grown s (s.create kind n hn byte).2 where
  blocks := le_succ _
  objects := le_succ _
  shown := by
    intro i B hB
    obtain ⟨-, rfl⟩ | hB := of_push hB
    · exact .inr (lt_succ_self _)
    · exact .inl hB

theorem grown_map (s : Space) {fd : Nat} (hfd : fd < s.objects.next) (base : Nat) (hn : n < limit) :
    Grown s (s.map fd base n hn).2 where
  blocks := le_succ _
  objects := le_refl _
  shown := by
    intro i B hB
    obtain ⟨-, rfl⟩ | hB := of_push hB
    · exact .inr hfd
    · exact .inl hB

theorem Grown.trans {s'' : Space} (h : Grown s s') (h' : Grown s' s'') : Grown s s'' where
  blocks := h.blocks.trans h'.blocks
  objects := h.objects.trans h'.objects
  shown := by
    intro i B hB
    obtain hold | hnew := h'.shown i B hB
    · obtain hold | hnew := h.shown i B hold
      · exact .inl hold
      · exact .inr (lt_of_lt_of_le hnew h'.objects)
    · exact .inr hnew

/-- Mapping leaves the structure and the address space as they are, or maps the
descriptor in a new block. -/
def Buffer.Opens (s : Space) (x x' : Buffer) (s' : Space) : Prop :=
  x' = x ∧ s' = s ∨ ∃ fd base n, ∃ hn : n < limit, x.dmabufFd = some fd ∧
    x' = x.mapAt ⟨s.blocks.next, 0⟩ ∧ s' = (s.map fd base n hn).2

variable {offset : UInt64}

theorem mmap_cases {fd : Nat} {n : UInt64} {p : Ptr} (h : mmap sys s fd n offset = some (p, s')) :
    ∃ hn : n.toNat < limit, (p, s') = s.map fd offset.toNat n.toNat hn := by
  unfold mmap at h
  split at h
  · next hc => exact ⟨hc.2.2, (some.inj h).symm⟩
  · cases h

theorem map_opens (sys : System) (s : Space) (x : Buffer) (offset size : UInt64) :
    x.Opens s (x.map sys s offset size).2.1 (x.map sys s offset size).2.2 := by
  unfold Buffer.map
  split
  · exact .inl ⟨rfl, rfl⟩
  · split
    · next fd hfd =>
      split
      · exact .inl ⟨rfl, rfl⟩
      · next p s' hmap =>
        obtain ⟨hn, hp⟩ := mmap_cases hmap
        cases hp
        exact .inr ⟨fd, offset.toNat, _, hn, hfd, rfl, rfl⟩
    · split
      · exact .inl ⟨rfl, rfl⟩
      · exact .inl ⟨rfl, rfl⟩

theorem ensureMapped_opens (sys : System) (s : Space) (x : Buffer) (offset size : UInt64) :
    x.Opens s (x.ensureMapped sys s offset size).2.1 (x.ensureMapped sys s offset size).2.2 := by
  unfold ensureMapped
  split
  · exact map_opens sys s x offset size
  · exact .inl ⟨rfl, rfl⟩

/-- The bytes differ at most in the object behind the pointer of the buffer. -/
def Buffer.Touches (x : Buffer) (s : Space) (bytes : Nat → Nat → UInt8) : Prop :=
  ∀ o, bytes o = s.bytes o ∨ ∃ r B, x.hostPtr = some r ∧ s.blocks.cells r.block = some B ∧ B.object = o

variable {size : UInt64} {e : Error} {data : Nat → UInt8}

/-- A write maps the buffer if it has to, counts, and writes behind the pointer. -/
theorem memoryWrite_inv
    (h : memoryWrite sys m b offset size data = .ok (e, m')) :
    m' = m ∨ ∃ x x' s' n bytes, m.store.cells b = some x ∧ x.Opens m.space x' s' ∧
      x'.Touches s' bytes ∧ m' = m.put b {x' with bytesWritten := n} {s' with bytes := bytes} := by
  unfold memoryWrite at h
  split at h
  · exact .inl (Prod.mk.inj (Except.ok.inj h)).2.symm
  · obtain ⟨x, hx, h⟩ := bind_eq_ok h
    have hopen := ensureMapped_opens sys m.space x offset size
    have hx := read_ok_iff.mp hx
    cases hr : x.ensureMapped sys m.space offset size with
    | mk r rest =>
      obtain ⟨x', s'⟩ := rest
      rw [hr] at h hopen
      have hsame : x'.Touches s' s'.bytes := fun o => .inl rfl
      cases r with
      | error e =>
        cases h
        exact .inr ⟨x, x', s', x'.bytesWritten, s'.bytes, hx, hopen, hsame, rfl⟩
      | ok _ =>
        simp only at h
        split at h
        · cases h
          exact .inr ⟨x, x', s', x'.bytesWritten, s'.bytes, hx, hopen, hsame, rfl⟩
        · obtain ⟨s'', hs, h⟩ := map_eq_ok h
          cases h
          obtain ⟨k, hk, rfl⟩ := map_eq_ok hs
          refine .inr ⟨x, x', s', _, _, hx, hopen, fun o => ?_, rfl⟩
          obtain ⟨q, B, hq, hB, -, rfl⟩ := Space.span_ok_iff.mp hk
          obtain ⟨r, hr, rfl⟩ := map_eq_some_iff.mp hq
          by_cases ho : B.object = o
          · exact .inr ⟨r, B, hr, hB, ho⟩
          · left
            funext j
            exact if_neg fun hin => ho hin.1.symm

variable {x' : Buffer}

theorem Buffer.Opens.grown (h : x.Opens s x' s') (hfd : ∀ fd, x.dmabufFd = some fd → fd < s.objects.next) :
    Grown s s' := by
  obtain ⟨-, rfl⟩ | ⟨fd, base, n, hn, hx, -, rfl⟩ := h
  · exact .refl _
  · exact grown_map s (hfd fd hx) base hn

theorem Buffer.Opens.alters (h : x.Opens s x' s') : x.Alters s' x' := by
  obtain ⟨rfl, rfl⟩ | ⟨fd, base, n, hn, -, rfl, rfl⟩ := h
  · exact .refl _ _
  · refine ⟨fun q h => h, fun q _ => ⟨rfl, rfl⟩, Subperm.refl _, rfl, fun r hr => ?_⟩
    obtain hp | hrest := hr
    · cases hp
      exact .inr (lt_succ_self _)
    · exact .inl (.inr hrest)

theorem memoryMap_orderly (h : Orderly m) {r : Except Error (Option Ptr)}
    (hrun : memoryMap sys m b offset size = .ok (r, m')) : Orderly m' := by
  obtain ⟨x, hx, heq⟩ := map_eq_ok hrun
  cases heq
  have hx := read_ok_iff.mp hx
  have hopen := map_opens sys m.space x offset size
  exact h.put hx (hopen.grown (h.cells b x hx).descriptors) hopen.alters

theorem memoryWrite_orderly (h : Orderly m)
    (hrun : memoryWrite sys m b offset size data = .ok (e, m')) : Orderly m' := by
  obtain rfl | ⟨x, x', s', n, bytes, hx, hopen, -, rfl⟩ := memoryWrite_inv hrun
  · exact h
  · have hgrown := (hopen.grown (h.cells b x hx).descriptors).trans (grown_bytes s' bytes)
    obtain ⟨parent, sizes, aliases, dmabufFd, pointers⟩ := hopen.alters
    exact h.put hx hgrown ⟨parent, sizes, aliases, dmabufFd, pointers⟩

theorem setBinding_place (x : Buffer) (i : Nat) (f : Binding → Binding) (j : Nat) :
    (x.setBinding i f).binding j = x.binding j ∨ (x.setBinding i f).binding j = f (x.binding j) := by
  by_cases hj : j < maxGpus
  · by_cases hi : j = i
    · subst hi
      rw [binding_setBinding hj, Function.update_self]
      exact .inr rfl
    · left
      unfold binding setBinding
      simp only [hj, hi, dite_true, Vector.getElem_ofFn, if_false]
      rfl
  · left
    unfold binding
    rw [dif_neg hj, dif_neg hj]

theorem setBinding_eq (x : Buffer) (i : Nat) (f : Binding → Binding) :
    ∃ v, x.setBinding i f = {x with gpuBindings := v} := by
  unfold setBinding
  exact ⟨_, rfl⟩

variable {f : Binding → Binding}

/-- Entries are assigned no address but the pointer of the buffer. -/
theorem setBinding_alters (x : Buffer) (s : Space) (i : Nat)
    (hmap : ∀ e, (f e).mapping = e.mapping ∨ (f e).mapping = x.hostPtr)
    (haddr : ∀ e, (f e).gpuAddress = e.gpuAddress) : x.Alters s (x.setBinding i f) := by
  have hrefers (r : Ptr) (hr : (x.setBinding i f).Refers r) : x.Refers r := by
    obtain ⟨v, hv⟩ := setBinding_eq x i f
    obtain hp | ho | ⟨j, hj⟩ := hr
    · rw [hv] at hp
      exact .inl hp
    · rw [hv] at ho
      exact .inr (.inl ho)
    · obtain heq | heq := setBinding_place x i f j
      · rw [heq] at hj
        exact .inr (.inr ⟨j, hj⟩)
      · rw [heq, haddr] at hj
        obtain hj | hj := hj
        · obtain hm | hm := hmap (x.binding j)
          · exact .inr (.inr ⟨j, .inl (hm ▸ hj)⟩)
          · exact .inl (hm ▸ hj)
        · exact .inr (.inr ⟨j, .inr hj⟩)
  obtain ⟨v, hv⟩ := setBinding_eq x i f
  rw [hv] at hrefers ⊢
  exact ⟨fun q h => h, fun q _ => ⟨rfl, rfl⟩, Subperm.refl _, rfl, fun r hr => .inl (hrefers r hr)⟩

/-- The mask and the number of bindings are no links. -/
theorem Buffer.Alters.counted (h : x.Alters s x') (n : Nat) :
    x.Alters s {x' with gpuBindingCount := n} :=
  ⟨h.parent, h.sizes, h.aliases, h.dmabufFd, h.pointers⟩

theorem Buffer.Alters.masked {gpu : Nat} (h : (x.addToMask gpu).Alters s x') : x.Alters s x' :=
  ⟨h.parent, h.sizes, h.aliases, h.dmabufFd, h.pointers⟩

theorem appendBinding_alters (x : Buffer) (s : Space)
    (hmap : ∀ e, (f e).mapping = e.mapping ∨ (f e).mapping = x.hostPtr)
    (haddr : ∀ e, (f e).gpuAddress = e.gpuAddress) : x.Alters s (x.appendBinding f) := by
  unfold appendBinding
  exact (setBinding_alters x s _ hmap haddr).counted _

theorem bindToGpu_alters (x : Buffer) (s : Space) (gpu gpuCount : Nat) (writable : Bool) :
    x.Alters s (x.bindToGpu gpu gpuCount writable).2 := by
  unfold bindToGpu
  split
  · exact .refl s x
  · split
    · exact .refl s x
    · split
      · simp only
        exact setBinding_alters x s _ (fun _ => .inl rfl) fun _ => rfl
      · simp only
        split
        · refine (?_ : (x.addToMask gpu).Alters s _).masked
          exact appendBinding_alters (x.addToMask gpu) s (fun _ => .inr rfl) fun _ => rfl
        · exact (Alters.refl s (x.addToMask gpu)).masked

theorem orderly_ensureInitialized (h : Orderly m) (sys : System) (mgr : GpuManager) :
    Orderly (ensureInitialized sys mgr m) :=
  h.congr (by simp) (by simp)

theorem refers_blank {r p : Ptr} (hhost : x.hostPtr = some p) (hown : x.originalPtr = some p)
    (hbind : x.gpuBindings = Vector.replicate maxGpus .zero) (h : x.Refers r) : r = p := by
  obtain hp | ho | ⟨i, hi⟩ := h
  · exact some.inj (hp.symm.trans hhost)
  · exact some.inj (ho.symm.trans hown)
  · rw [binding_blank hbind] at hi
    exact absurd hi (by simp [Binding.zero])

theorem memoryAllocate_orderly (h : Orderly m) (sys : System) (mgr : GpuManager) (info : AllocInfo) :
    Orderly (memoryAllocate sys mgr m info).2 := by
  have hinit := orderly_ensureInitialized h sys mgr
  obtain ⟨-, e, he⟩ | ⟨x, s, hgrant, he⟩ := memoryAllocate_cases sys mgr m info
  · rw [he]
    exact hinit
  · rw [he]
    obtain ⟨kind, byte, hn, rfl, hx⟩ := allocateMemory_cases hgrant.2.2
    refine (hinit.addBuffer (grown_create _ kind hn byte) ?_).congr rfl rfl
    obtain ⟨-, -, -, rfl⟩ | ⟨-, rfl⟩ := hx
    · refine ⟨rfl, fun q hq => absurd hq (by simp [parent?, dmaBuffer, ofInfo, blank]),
        fun r hr => ?_, fun fd hfd => ?_⟩
      · have hr : r = ⟨(ensureInitialized sys mgr m).space.blocks.next, 0⟩ := by
          obtain hp | ho | ⟨i, hi⟩ := hr
          · exact (some.inj hp).symm
          · exact absurd ho (by simp [dmaBuffer, ofInfo, blank])
          · rw [binding_dmaBuffer] at hi
            unfold dmaBinding at hi
            split at hi
            · split at hi
              · obtain hi | hi := hi
                · exact (some.inj hi).symm
                · cases hi
              · exact absurd hi (by simp [Binding.zero])
            · exact absurd hi (by simp [Binding.zero])
        rw [hr]
        exact lt_succ_self _
      · cases hfd
        exact lt_succ_self _
    · refine ⟨rfl, fun q hq => absurd hq (by simp [parent?, systemBuffer, ofInfo, blank]),
        fun r hr => ?_, fun fd hfd => absurd hfd (by simp [systemBuffer, ofInfo, blank])⟩
      rw [refers_blank rfl rfl rfl hr]
      exact lt_succ_self _

variable {flags : UInt32} {q : Ptr}

theorem memoryWrap_orderly (h : Orderly m) (sys : System) (mgr : GpuManager)
    (hq : q.block < m.space.blocks.next) :
    Orderly (memoryWrap sys mgr m (some q) size flags).2 := by
  have hinit := orderly_ensureInitialized h sys mgr
  obtain ⟨e, m', he, hm', -⟩ | ⟨q', hq', -, -, he⟩ := memoryWrap_cases sys mgr m (some q) size flags
  · rw [he]
    obtain rfl | rfl := hm'
    · exact h
    · exact hinit
  · cases hq'
    rw [he]
    refine hinit.addBuffer (.refl _) ⟨rfl, fun q hq => absurd hq (by simp [parent?, wrappedBuffer, blank]),
      fun r hr => ?_, fun fd hfd => absurd hfd (by simp [wrappedBuffer, blank])⟩
    rw [refers_blank rfl rfl rfl hr, ensureInitialized_space]
    exact hq

/-- An alias points into the blocks its parent points into. -/
theorem alias_refers {p : Nat} {r : Ptr}
    (h : ((x.alias p offset size).restrict flags).Refers r) : ∃ r', x.Refers r' ∧ r'.block = r.block := by
  obtain ⟨v, a, heq⟩ := restrict_eq (x.alias p offset size) flags
  have hhost (hr : x.hostPtr.map (·.add offset.toNat) = some r) : ∃ r', x.Refers r' ∧ r'.block = r.block := by
    obtain ⟨r', hr', rfl⟩ := map_eq_some_iff.mp hr
    exact ⟨r', .inl hr', rfl⟩
  obtain hp | ho | ⟨i, hi⟩ := h
  · rw [heq] at hp
    exact hhost hp
  · rw [heq] at ho
    exact hhost ho
  · rw [binding_alias] at hi
    split at hi
    · unfold aliasBinding at hi
      split at hi
      · exact ⟨r, .inr (.inr ⟨i, hi⟩), rfl⟩
      · exact ⟨r, .inr (.inr ⟨i, hi⟩), rfl⟩
    · exact absurd hi (by simp [Binding.zero])

section
variable (h : Orderly m)
include h

theorem memoryCreateAlias_orderly {p : Nat}
    {r : Except Error Nat} (hrun : memoryCreateAlias sys m p offset size flags = .ok (r, m')) : Orderly m' := by
  obtain ⟨x, hx, -⟩ := bind_eq_ok hrun
  have hx := read_ok_iff.mp hx
  obtain ⟨-, e, he⟩ | ⟨hacc, he⟩ := memoryCreateAlias_cases sys hx offset size flags
  · cases he.symm.trans hrun
    exact h
  · cases he.symm.trans hrun
    obtain ⟨v, a, heq⟩ := restrict_eq (x.alias p offset (aliasExtent x offset size)) flags
    have hpar : ((x.alias p offset (aliasExtent x offset size)).restrict flags).parent? = some p := by
      rw [heq]
      rfl
    refine h.addAlias hx ⟨?_, fun q hq => ?_, fun r hr => ?_, fun fd hfd => ?_⟩ hpar
    · rw [heq]
      rfl
    · cases hpar.symm.trans hq
      refine ⟨lt_next hx, ?_, fun z hz => ?_⟩
      · rw [heq]
        rfl
      · cases hx.symm.trans hz
        rw [heq]
        rfl
    · obtain ⟨r', hr', hblock⟩ := alias_refers hr
      exact hblock ▸ (h.cells p x hx).pointers r' hr'
    · rw [heq] at hfd
      exact (h.cells p x hx).descriptors fd hfd

/-- The buffers there are do not refer to one that is not there yet. -/
theorem Orderly.confined : Confined (· < m.store.next) m.store.next (fun _ => False) m where
  outside := lt_irrefl _
  cells := fun i x hi hx => ⟨fun q hq => ((h.cells i x hx).parent q hq).1.trans hi,
    fun hmem => lt_irrefl _ ((h.cells i x hx).listed _ hmem).2.1, fun _ _ => id, fun _ _ => id⟩

theorem bufferRelease_orderly (hx : m.store.cells b = some x)
    (hrun : bufferRelease m b = .ok m') : Orderly m' :=
  h.fades (bufferRelease_fades h.confined (lt_next hx) hrun)

theorem memoryUnmap_orderly (hx : m.store.cells b = some x)
    (hrun : memoryUnmap m b = .ok m') : Orderly m' :=
  h.fades (memoryUnmap_fades h.confined (lt_next hx) hrun)

end

/-- The copy is not made, or it is read from the parent's memory. -/
theorem privateCopy_inv {src : Option Ptr} (h : privateCopy s q src n = .ok s') :
    src = none ∧ s' = s ∨ ∃ f, src ≠ none ∧ s.load src n = .ok f ∧ s.store (some q) n f = .ok s' := by
  cases src with
  | none => exact .inl ⟨rfl, (Except.ok.inj h).symm⟩
  | some r =>
    obtain ⟨f, hf, hs⟩ := Space.copy_ok_iff.mp h
    exact .inr ⟨f, by simp, hf, hs⟩

theorem privateCopy_grown {src : Option Ptr} (h : privateCopy s q src n = .ok s') : Grown s s' := by
  obtain ⟨-, rfl⟩ | ⟨f, -, -, hs⟩ := privateCopy_inv h
  · exact .refl _
  · obtain ⟨k, -, rfl⟩ := map_eq_ok hs
    exact grown_bytes s _

theorem malloc_grown {n : UInt64} {byte : Nat → UInt8} (h : malloc sys s n byte = some (q, s')) :
    q.block < s'.blocks.next ∧ Grown s s' := by
  obtain ⟨hn, heq⟩ := malloc_cases h
  cases heq
  exact ⟨lt_succ_self _, grown_create s .heap hn byte⟩

theorem memoryAliasDetach_orderly (h : Orderly m)
    (hrun : memoryAliasDetach sys m b = .ok (e, m')) : Orderly m' := by
  obtain ⟨-, rfl⟩ | ⟨-, x, p, q, y, s, s', m₁, hx, hp, hmalloc, hy, hcopy, hrel, rfl⟩ :=
    memoryAliasDetach_inv hrun
  · exact h
  · obtain ⟨hq, hgrown⟩ := malloc_grown hmalloc
    have hgrown' := privateCopy_grown hcopy
    have hpar := h.space (hgrown.trans hgrown')
    have hyp : {m with space := s'}.store.cells p = some y := hy
    have hfade : Fades {m with space := s'}.store.next (fun _ => False) {m with space := s'} m₁ := by
      have hremove : Fades {m with space := s'}.store.next (fun _ => False) {m with space := s'}
          ({m with space := s'}.modify p (·.removeAlias b)) :=
        fades_modify (Nat.ne_of_lt (lt_next hyp)) (removeAlias_fades b)
      exact hremove.trans (bufferRelease_fades (hpar.confined.fades hremove) (lt_next hyp) hrel)
    refine (hpar.fades hfade).modify fun z _ =>
      ⟨fun q' hq' => absurd hq' (by simp [parent?, detach]),
        fun q' hq' => absurd hq' (by simp [parent?, detach]), Subperm.refl _, rfl,
        fun r hr => ?_⟩
    have hnew : q.block < m₁.space.blocks.next := by
      rw [hfade.next]
      exact Nat.lt_of_lt_of_le hq hgrown'.blocks
    obtain hp | ho | hbind := hr
    · cases hp
      exact .inr hnew
    · cases ho
      exact .inr hnew
    · exact .inl (.inr (.inr hbind))

inductive HandleCall where
  | callerBlock (n : Nat) (hn : n < limit) (byte : Nat → UInt8)
  | allocate (sys : System) (mgr : GpuManager) (info : AllocInfo)
  | wrap (sys : System) (mgr : GpuManager) (q : Ptr) (size : UInt64) (flags : UInt32)
  | createAlias (sys : System) (p : Nat) (offset size : UInt64) (flags : UInt32)
  | aliasDetach (sys : System) (b : Nat)
  | map (sys : System) (b : Nat) (offset size : UInt64)
  | unmap (b : Nat)
  | write (sys : System) (b : Nat) (offset size : UInt64) (data : Nat → UInt8)
  | bindToGpu (b gpu gpuCount : Nat) (writable : Bool)
  | free (b : Nat)

/-- One call. A call that faults ends the run, and a caller wraps memory it has. -/
def handleCall (m : State) : HandleCall → Option State
  | .callerBlock n hn byte => some {m with space := (m.space.create .foreign n hn byte).2}
  | .allocate sys mgr info => some (memoryAllocate sys mgr m info).2
  | .wrap sys mgr q size flags =>
    if m.space.InBounds q size.toNat then some (memoryWrap sys mgr m (some q) size flags).2 else none
  | .createAlias sys p offset size flags =>
    ((memoryCreateAlias sys m p offset size flags).map Prod.snd).toOption
  | .aliasDetach sys b => ((memoryAliasDetach sys m b).map Prod.snd).toOption
  | .map sys b offset size => ((memoryMap sys m b offset size).map Prod.snd).toOption
  | .unmap b => (memoryUnmap m b).toOption
  | .write sys b offset size data => ((memoryWrite sys m b offset size data).map Prod.snd).toOption
  | .bindToGpu b gpu gpuCount writable =>
    some (m.modify b fun x => (x.bindToGpu gpu gpuCount writable).2)
  | .free b => (memoryFree m b).toOption

theorem snd_eq_some {α : Type} {r : Except Fault (α × State)} (h : (r.map Prod.snd).toOption = some m') :
    ∃ e, r = .ok (e, m') := by
  obtain ⟨⟨e, m''⟩, hr, rfl⟩ := map_eq_ok (toOption_eq_some h)
  exact ⟨e, hr⟩

theorem handleCall_orderly {a : HandleCall} (h : Orderly m) (hrun : handleCall m a = some m') :
    Orderly m' := by
  cases a with
  | callerBlock n hn byte =>
    cases hrun
    exact h.space (grown_create m.space .foreign hn byte)
  | allocate sys mgr info =>
    cases hrun
    exact memoryAllocate_orderly h sys mgr info
  | wrap sys mgr q size flags =>
    obtain ⟨⟨B, hB, -⟩, rfl⟩ := Run.guarded hrun
    exact memoryWrap_orderly h sys mgr (lt_next hB)
  | createAlias sys p offset size flags =>
    obtain ⟨r, hrun⟩ := snd_eq_some hrun
    exact memoryCreateAlias_orderly h hrun
  | aliasDetach sys b =>
    obtain ⟨e, hrun⟩ := snd_eq_some hrun
    exact memoryAliasDetach_orderly h hrun
  | map sys b offset size =>
    obtain ⟨r, hrun⟩ := snd_eq_some hrun
    exact memoryMap_orderly h hrun
  | unmap b =>
    have hrun := toOption_eq_some hrun
    obtain ⟨x, hx, -⟩ := map_eq_ok hrun
    exact memoryUnmap_orderly h (read_ok_iff.mp hx) hrun
  | write sys b offset size data =>
    obtain ⟨e, hrun⟩ := snd_eq_some hrun
    exact memoryWrite_orderly h hrun
  | bindToGpu b gpu gpuCount writable =>
    cases hrun
    exact h.modify fun x _ => bindToGpu_alters x m.space gpu gpuCount writable
  | free b =>
    have hrun := toOption_eq_some hrun
    obtain ⟨x, hx, -⟩ := releaseWith_cases hrun
    exact bufferRelease_orderly h hx hrun

theorem orderly_zero : Orderly State.zero := by
  constructor <;> intros <;> simp_all [State.zero, Space.empty]

theorem orderly_along (calls : List HandleCall) : Run.Along handleCall Orderly State.zero calls :=
  Run.along_of_preserved (fun _ _ _ => handleCall_orderly) orderly_zero calls

end Mvgal.Memory
