import Mvgal.Memory.Calls

/-! Copies are safe exactly under their conditions.

A region maps its two sides in turn. Each side, mapped, yields a structure, an
address space and a pointer, on which the side's condition decides (`side_cases`);
the region is then a case analysis on whether the sides are one buffer, whether
they are mapped anew, and whether the second one can be mapped. -/
namespace Mvgal.Memory
open Arena Option
open Blocks (Ptr Space Fault limit)

variable {sys sys' : System} {m : State} {b : Nat} {x y : Buffer} {s : Space} {offset size : UInt64}

/-! ### One side of a region -/

variable {s₂ : Space}

/-- A buffer that stays mapped as it is: the offset is added to its pointer twice. -/
theorem sideOk_of_held (hf : Fits s x) (hre : ¬ x.Remaps) (hk : s.Keeps s₂) :
    (Fits s₂ x ∧ (∃ q, x.hostPtr.map (·.add offset.toNat) = some q ∧
      s₂.InBounds (q.add offset.toNat) size.toNat)) ↔ SideOk s x offset size := by
  constructor
  · rintro ⟨-, q, hq, hin⟩
    refine ⟨fun h => absurd h hre, fun _ => ?_⟩
    obtain ⟨p, hp, rfl⟩ := map_eq_some_iff.mp hq
    refine ⟨p, hp, ?_⟩
    have hin' := Space.inBounds_add_iff.mp (Space.inBounds_add_iff.mp hin)
    exact (hin'.of_keeps hk (hf p hp).live).mono (by omega)
  · intro h
    obtain ⟨p, hp, hin⟩ := h.2 hre
    refine ⟨hf.keeps hk, p.add offset.toNat, by rw [hp]; rfl, ?_⟩
    exact Space.InBounds.add (Space.InBounds.add ((hin.mono (by omega)).keeps hk))

/-- A buffer that was mapped anew. -/
theorem sideOk_of_remapped {p : Ptr} (hre : x.Remaps) (hcheck : ¬ x.size < offset + size)
    (hb : x.Backed s s₂ offset size p) :
    (Fits s₂ (x.mapAt p) ∧ ∃ q, some p = some q ∧ s₂.InBounds (q.add offset.toNat) size.toNat) ↔
      SideOk s x offset size := by
  rw [fits_mapAt hb]
  constructor
  · rintro ⟨hcov, q, hq, hin⟩
    cases hq
    exact ⟨fun _ => ⟨(hb.reach_iff hcov hcheck).mp hin, hcov⟩, fun h => absurd hre h⟩
  · intro h
    obtain ⟨h0, hcov⟩ := h.1 hre
    exact ⟨hcov, p, rfl, (hb.reach_iff hcov hcheck).mpr h0⟩

variable {s₁ : Space}

theorem Buffer.Backed.keeps {p : Ptr} (hb : x.Backed s s₁ offset size p) (hk : s₁.Keeps s₂) :
    x.Backed s s₂ offset size p := by
  have hlive : (s₁.blocks.cells p.block).isSome := ((hb 0).mpr (by simp)).live
  exact fun n => ⟨fun h => (hb n).mp (h.of_keeps hk hlive), fun h => ((hb n).mpr h).keeps hk⟩

/-- A side of a region was mapped: the structure and the address space that the mapping
leaves, and the pointer that it returns, on which the condition decides. The answers may
be asked in any later address space. -/
structure MappedSide (sys : System) (s : Space) (x : Buffer) (offset size : UInt64) (p : Option Ptr) (x₁ : Buffer)
    (s₁ : Space) : Prop where
  map_eq : x.map sys s offset size = (.ok p, x₁, s₁)
  keeps : s.Keeps s₁
  objects : s₁.objects = s.objects
  shape : x₁.shape = x.shape
  plain : x₁.Plain
  remapped : x.Remaps → ∃ q, s.blocks.cells q.block = none ∧ x₁ = x.mapAt q ∧ p = some q ∧
    ∀ n, s₁.InBounds q n → n ≤ size.toNat
  direct : ¬ x.Remaps → p = x.hostPtr.map (·.add offset.toNat) ∧ x₁ = x ∧ s₁ = s
  ok_iff : ∀ s₂, s₁.Keeps s₂ →
    (Fits s₂ x₁ ∧ (∃ q, p = some q ∧ s₂.InBounds (q.add offset.toNat) size.toNat) ↔ SideOk s x offset size)

theorem side_cases (hpl : x.Plain) (hf : Fits s x) (h0 : size ≠ 0) (hno : ¬ x.Refused sys size)
    (hcheck : ¬ x.size < offset + size) : ∃ p x₁ s₁, MappedSide sys s x offset size p x₁ s₁ := by
  have hext : x.mapExtent size = size := if_neg h0
  obtain ⟨href, -⟩ | ⟨-, hre, he⟩ | ⟨-, hre, p, s₁, he, hk, hobj, hfresh, hb⟩ :=
    map_cases sys s x offset size
  · exact absurd href hno
  · exact ⟨_, x, s, he, Space.Keeps.refl s, rfl, rfl, hpl, fun h => absurd h hre, fun _ => ⟨rfl, rfl, rfl⟩,
      fun _ hk => sideOk_of_held hf hre hk⟩
  · rw [hext] at hb
    exact ⟨_, x.mapAt p, s₁, he, hk, hobj, rfl, hpl.mapAt p,
      fun _ => ⟨p, hfresh, rfl, rfl, fun n hn => ((hb n).mp hn).1⟩, fun h => absurd hre h,
      fun s₂ hk₂ => sideOk_of_remapped hre hcheck (hb.keeps hk₂)⟩

theorem counted_cells {β : Type} (g : Buffer → β) (hr : ∀ x n, g (Buffer.countRead x n) = g x)
    (hw : ∀ x n, g (Buffer.countWritten x n) = g x) (m : State) (r : CopyRegion) (s : Space) (i : Nat) :
    ((m.counted r s).store.cells i).map g = (m.store.cells i).map g := by
  have h1 := modify_map m.store r.src (f := (·.countRead r.size)) (fun x _ => hr x _) i
  have h2 := modify_map (m.store.modify r.src (·.countRead r.size)) r.dst
    (f := (·.countWritten r.size)) (fun x _ => hw x _) i
  exact h2.trans h1

theorem capacity_of_view {m' : State} (h : Capacity m)
    (hview : ∀ i, (m'.store.cells i).map (fun x => (x.hostPtr, x.size)) =
      (m.store.cells i).map fun x => (x.hostPtr, x.size))
    (hblocks : m'.space.blocks = m.space.blocks) : Capacity m' := by
  intro b x hx
  have hb := hview b
  rw [hx] at hb
  obtain ⟨y, hy, he⟩ := map_eq_some_iff.mp hb.symm
  obtain ⟨hp, hsz⟩ := Prod.mk.inj he
  exact ((h b y hy).keeps (Space.keeps_of_blocks hblocks)).congr hp.symm hsz.symm

variable {r : CopyRegion}

theorem capacity_counted (h : s.blocks = m.space.blocks) :
    Capacity (m.counted r s) ↔ Capacity m := by
  have hview := counted_cells (fun x => (x.hostPtr, x.size)) (fun _ _ => rfl) (fun _ _ => rfl) m r s
  exact ⟨fun hc => capacity_of_view hc (fun i => (hview i).symm) h.symm,
    fun hc => capacity_of_view hc hview h⟩

theorem Sound.counted (h : Sound m) : Sound (m.counted r s) := by
  have hplain := counted_cells Buffer.Plain
    (fun _ _ => propext ⟨fun h => ⟨h.mapped, h.descriptor⟩, fun h => ⟨h.mapped, h.descriptor⟩⟩)
    (fun _ _ => propext ⟨fun h => ⟨h.mapped, h.descriptor⟩, fun h => ⟨h.mapped, h.descriptor⟩⟩) m r s
  refine h.congr (counted_cells Buffer.shape (fun _ _ => rfl) (fun _ _ => rfl) m r s) fun b x hx => ?_
  have hb := hplain b
  rw [hx] at hb
  obtain ⟨y, hy, he⟩ := map_eq_some_iff.mp hb.symm
  exact he ▸ h.plain b y hy

variable {P : Option Ptr}

theorem exact_copied {Q : Option Ptr} {R : Prop} [Decidable R] (hs : Sound m) (h0 : r.size ≠ 0) :
    Exact (((m.space.copy Q P r.size.toNat).map fun s => (Error.success, m.counted r s)).bind fun q =>
        accept (q.1 = .success ∧ r.size ≠ 0) R q.2)
      (Capacity m ∧ (∃ p, P = some p ∧ m.space.InBounds p r.size.toNat) ∧
        (∃ q, Q = some q ∧ m.space.InBounds q r.size.toNat) ∧ R) := by
  cases hcopy : m.space.copy Q P r.size.toNat with
  | error e =>
    refine .fault fun ⟨_, ⟨p, hp, hin⟩, ⟨q, hq, hin'⟩, _⟩ => ?_
    obtain ⟨s', hs'⟩ := Space.copy_of_inBounds hin' hin
    rw [hp, hq, hs'] at hcopy
    cases hcopy
  | ok s' =>
    obtain ⟨hq, hp⟩ := Space.inBounds_of_copy hcopy
    refine exact_accept ⟨rfl, h0⟩ ?_ fun _ => hs.counted
    rw [capacity_counted (Space.copy_blocks hcopy)]
    exact ⟨fun h => ⟨h.1, hp, hq, h.2⟩, fun h => ⟨h.1, h.2.2.2⟩⟩

@[simp] theorem put_space : (m.put b y s).space = s := rfl

theorem put_cells_self (hb : m.store.cells b = some x) : (m.put b y s).store.cells b = some y :=
  (modify_self ..).trans (by rw [hb]; rfl)

theorem put_cells_of_ne {c : Nat} (h : c ≠ b) : (m.put b y s).store.cells c = m.store.cells c :=
  modify_of_ne _ _ h

/-- The second half of a region whose destination can be mapped. -/
theorem exact_copyToDst {R : Prop} [Decidable R] {Q : Option Ptr} {y₁ : Buffer}
    (hs : Sound m) (h0 : r.size ≠ 0) (hy : m.store.cells r.dst = some y)
    (hmap : y.map sys' m.space r.dstOffset r.size = (.ok Q, y₁, s₁)) (hshape : y₁.shape = y.shape)
    (hpl : y₁.Plain) :
    Exact ((copyToDst sys' m r P).bind fun q => accept (q.1 = .success ∧ r.size ≠ 0) R q.2)
      (Capacity (m.put r.dst y₁ s₁) ∧
        (∃ p, P = some p ∧ s₁.InBounds (p.add r.srcOffset.toNat) r.size.toNat) ∧
        (∃ q, Q = some q ∧ s₁.InBounds (q.add r.dstOffset.toNat) r.size.toNat) ∧ R) := by
  unfold copyToDst
  rw [memoryMap_eq hy, hmap]
  have h := exact_copied (P := P.map (·.add r.srcOffset.toNat)) (Q := Q.map (·.add r.dstOffset.toNat))
    (R := R) (hs.put (s := s₁) hy hshape hpl) h0
  have hptr : ∀ (P : Option Ptr) (k : Nat), (∃ p, P.map (·.add k) = some p ∧ s₁.InBounds p r.size.toNat) ↔
      ∃ p, P = some p ∧ s₁.InBounds (p.add k) r.size.toNat := by
    intro P k
    cases P with
    | none => simp
    | some p => simp
  simp only [put_space, hptr] at h
  exact h

/-- The second half of a region whose destination cannot be mapped. -/
theorem copyToDst_refused (hy : m.store.cells r.dst = some y) (href : y.Refused sys' r.size) :
    ∃ e, e ≠ .success ∧ copyToDst sys' m r P = (memoryUnmap m r.src).map fun m => (e, m) := by
  obtain ⟨-, e, hne, he⟩ | ⟨hno, -⟩ | ⟨hno, -⟩ := map_cases sys' m.space y r.dstOffset r.size
  · refine ⟨e, hne, ?_⟩
    unfold copyToDst
    rw [memoryMap_eq hy, he, put_self hy]
    rfl
  · exact absurd href hno
  · exact absurd href hno

theorem inRange_zero (h : ¬ x.size < 0 + size) : x.InRange 0 size := by
  rw [Buffer.InRange, UInt64.toNat_zero, Nat.zero_add]
  exact size_le_of_check h

/-- A side that meets its condition and passes the check is in range. -/
theorem SideOk.inRange (h : SideOk s x offset size) (hcheck : ¬ x.size < offset + size) :
    x.InRange offset size := by
  by_cases hre : x.Remaps
  · obtain ⟨rfl, -⟩ := h.1 hre
    exact inRange_zero hcheck
  · obtain ⟨p, hp, hin⟩ := h.2 hre
    have hlt := hin.lt_limit
    unfold limit at hlt
    rcases (check_iff x offset size).mp hcheck with h | ⟨h, -⟩
    · exact h
    · omega

/-- The condition on a side can be asked before or after the other side is mapped. -/
theorem sideOk_keeps {s' : Space} (hf : Fits s x) (hk : s.Keeps s') (hobj : s'.objects = s.objects) :
    SideOk s' x offset size ↔ SideOk s x offset size := by
  unfold SideOk Buffer.Covered
  rw [Space.behind_congr hobj]
  refine and_congr Iff.rfl ⟨fun h hre => ?_, fun h hre => ?_⟩
  · obtain ⟨p, hp, hin⟩ := h hre
    exact ⟨p, hp, hin.of_keeps hk (hf p hp).live⟩
  · obtain ⟨p, hp, hin⟩ := h hre
    exact ⟨p, hp, hin.keeps hk⟩

theorem capacity_put_put {a : Nat} {x₁ : Buffer} (hc : Capacity m) (hab : a ≠ b)
    (ha : m.store.cells a = some x) (hb : m.store.cells b = some y) {y₁ : Buffer}
    (hk : m.space.Keeps s₁) (hk₂ : s₁.Keeps s₂) :
    Capacity ((m.put a x₁ s₁).put b y₁ s₂) ↔ Fits s₂ x₁ ∧ Fits s₂ y₁ := by
  constructor
  · intro h
    exact ⟨h a x₁ ((put_cells_of_ne hab).trans (put_cells_self ha)),
      h b y₁ (put_cells_self ((put_cells_of_ne hab.symm).trans hb))⟩
  · intro h c z hz
    obtain ⟨-, -, -, rfl⟩ | ⟨-, hz⟩ := of_modify hz
    · exact h.2
    · obtain ⟨-, -, -, rfl⟩ | ⟨-, hz⟩ := of_modify hz
      · exact h.1
      · exact (hc c z hz).keeps (hk.trans hk₂)

/-- Whether a buffer that is not mapped anew is refused does not depend on the system. -/
theorem not_refused_of_not_remaps {size' : UInt64} (hre : ¬ x.Remaps) (hno : ¬ x.Refused sys size) :
    ¬ x.Refused sys' size' := by
  intro h
  rcases h.2 with h' | h'
  · exact hre ⟨h.1, h'.1⟩
  · exact hno ⟨h.1, .inr h'⟩

/-- A source that was mapped for the region is unmapped again without harm: the new
block is nobody else's. -/
theorem exact_unmap_remapped {q : Ptr} (hs : Sound m) (hc : Capacity m)
    (hb : m.store.cells b = some x) (hk : m.space.Keeps s₁)
    (hfresh : m.space.blocks.cells q.block = none) :
    Exact (memoryUnmap (m.put b (x.mapAt q) s₁) b) True := by
  have hb₁ : (m.put b (x.mapAt q) s₁).store.cells b = some (x.mapAt q) := put_cells_self hb
  have hpl := (hs.plain b x hb).mapAt q
  have hs₁ : Sound (m.put b (x.mapAt q) s₁) := hs.put hb rfl hpl
  have hun : (x.mapAt q).unmap s₁ = ((x.mapAt q).unmapped, (x.mapAt q).unmapOwned s₁) := if_pos rfl
  rw [memoryUnmap_eq hb₁]
  refine .ok (iff_true_intro ?_) fun _ => hs₁.put hb₁ ?_ ?_
  · intro c z hz p hp
    rw [put_space, hun] at *
    obtain ⟨-, -, -, rfl⟩ | ⟨hcb, hz⟩ := of_modify hz
    · exact absurd hp (by simp [Buffer.unmapped])
    · rw [put_cells_of_ne hcb] at hz
      have hin := hc c z hz p hp
      have hne : p.block ≠ q.block := by
        intro he
        have := hin.live
        rw [he, hfresh] at this
        cases this
      show ((x.mapAt q).unmapOwned s₁).InBounds p z.size.toNat
      unfold Buffer.unmapOwned
      split
      · exact (hin.keeps hk).drop hne
      · exact hin.keeps hk
  · rw [put_space, hun]
    rfl
  · rw [put_space, hun]
    exact plain_unmapped hpl

theorem exact_error {e : Error} {P R ok : Prop} [Decidable P] [Decidable R] {r : Except Fault State}
    (hne : e ≠ .success) (h : Exact r ok) :
    Exact ((r.map fun m => (e, m)).bind fun q => accept (q.1 = .success ∧ P) R q.2) ok := by
  cases r with
  | error f => exact h
  | ok m' =>
    simp only [Except.map, Except.bind]
    rw [accept_not fun h => hne h.1]
    exact h

section Region

variable {r : CopyRegion} (hs : Sound m) (hc : Capacity m) (h0 : r.size ≠ 0)
include hs hc h0

/-- Source and destination are two buffers, and both can be mapped. -/
theorem exact_region_two {x₁ : Buffer} (hsd : r.src ≠ r.dst)
    (hx : m.store.cells r.src = some x) (hy : m.store.cells r.dst = some y)
    (hchkx : ¬ x.size < r.srcOffset + r.size) (hchky : ¬ y.size < r.dstOffset + r.size)
    (hsrc : MappedSide sys m.space x r.srcOffset r.size P x₁ s₁) (hno : ¬ y.Refused sys' r.size) :
    Exact ((copyToDst sys' (m.put r.src x₁ s₁) r P).bind fun q =>
        accept (q.1 = .success ∧ r.size ≠ 0) (r.InRange x y) q.2)
      (SideOk m.space x r.srcOffset r.size ∧ SideOk m.space y r.dstOffset r.size) := by
  have hy₁ : (m.put r.src x₁ s₁).store.cells r.dst = some y := (put_cells_of_ne hsd.symm).trans hy
  have hfy := hc r.dst y hy
  have hkeeps : SideOk s₁ y r.dstOffset r.size ↔ SideOk m.space y r.dstOffset r.size :=
    sideOk_keeps hfy hsrc.keeps hsrc.objects
  obtain ⟨Q, y₁, s₂, hdst⟩ :=
    side_cases (hs.plain r.dst y hy) (hfy.keeps hsrc.keeps) h0 hno hchky
  have hsrcok := hsrc.ok_iff s₂ hdst.keeps
  have hdstok := hdst.ok_iff s₂ (Space.Keeps.refl s₂)
  refine (exact_copyToDst (hs.put hx hsrc.shape hsrc.plain) h0 hy₁ hdst.map_eq hdst.shape hdst.plain).congr ?_
  rw [capacity_put_put hc hsd hx hy hsrc.keeps hdst.keeps, ← hkeeps, ← hsrcok, ← hdstok]
  constructor
  · intro h
    exact ⟨⟨h.1.1, h.2.1⟩, h.1.2, h.2.2.1⟩
  · intro h
    exact ⟨⟨h.1.1, h.2.1⟩, h.1.2, h.2.2, (hsrcok.mp h.1).inRange hchkx, (hkeeps.mp (hdstok.mp h.2)).inRange hchky⟩

section
variable (hsd : r.dst = r.src) (hx : m.store.cells r.src = some x) (hchkx : ¬ x.size < r.srcOffset + r.size) (hchky : ¬ x.size < r.dstOffset + r.size)
include hsd hx hchkx hchky

/-- Source and destination are one buffer, which is not mapped anew. -/
theorem exact_region_direct (hre : ¬ x.Remaps) (hno : ¬ x.Refused sys r.size)
    (hsrc : MappedSide sys m.space x r.srcOffset r.size P x m.space) :
    Exact ((copyToDst sys' m r P).bind fun q =>
        accept (q.1 = .success ∧ r.size ≠ 0) (r.InRange x x) q.2)
      (SideOk m.space x r.srcOffset r.size ∧ SideOk m.space x r.dstOffset r.size) := by
  have hxd : m.store.cells r.dst = some x := hsd ▸ hx
  have hno' : ¬ x.Refused sys' r.size := not_refused_of_not_remaps hre hno
  obtain ⟨Q, y₁, s₂, hdst⟩ := side_cases (hs.plain r.src x hx) (hc r.src x hx) h0 hno' hchky
  obtain ⟨-, rfl, rfl⟩ := hdst.direct hre
  have hsrcok := hsrc.ok_iff _ (Space.Keeps.refl m.space)
  have hdstok := hdst.ok_iff _ (Space.Keeps.refl m.space)
  refine (exact_copyToDst hs h0 hxd hdst.map_eq hdst.shape hdst.plain).congr ?_
  rw [put_self hxd, ← hsrcok, ← hdstok]
  constructor
  · intro h
    exact ⟨⟨hc r.src y₁ hx, h.2.1⟩, hc r.src y₁ hx, h.2.2.1⟩
  · intro h
    exact ⟨hc, h.1.2, h.2.2, (hsrcok.mp h.1).inRange hchkx, (hdstok.mp h.2).inRange hchky⟩

/-- Source and destination are one buffer, which is mapped for the region. -/
theorem exact_region_remap {q : Ptr} (hre : x.Remaps)
    (hbound : ∀ n, s₁.InBounds q n → n ≤ r.size.toNat)
    (hsrc : MappedSide sys m.space x r.srcOffset r.size (some q) (x.mapAt q) s₁) :
    Exact ((copyToDst sys' (m.put r.src (x.mapAt q) s₁) r (some q)).bind fun q =>
        accept (q.1 = .success ∧ r.size ≠ 0) (r.InRange x x) q.2)
      (SideOk m.space x r.srcOffset r.size ∧ r.dstOffset = 0) := by
  have hxd : (m.put r.src (x.mapAt q) s₁).store.cells r.dst = some (x.mapAt q) := by
    rw [hsd]
    exact put_cells_self hx
  -- The second mapping call finds the buffer mapped.
  have hmap : (x.mapAt q).map sys' s₁ r.dstOffset r.size =
      (.ok (some (q.add r.dstOffset.toNat)), x.mapAt q, s₁) := if_pos rfl
  have hsrcok := hsrc.ok_iff s₁ (Space.Keeps.refl s₁)
  refine (exact_copyToDst (hs.put hx hsrc.shape hsrc.plain) h0 hxd hmap rfl hsrc.plain).congr ?_
  have hself : (m.put r.src (x.mapAt q) s₁).put r.dst (x.mapAt q) s₁ = m.put r.src (x.mapAt q) s₁ :=
    put_self hxd
  rw [hself, capacity_put hc hx hsrc.keeps, ← hsrcok]
  constructor
  · rintro ⟨hf, hp, ⟨p, hp', hin⟩, -⟩
    cases hp'
    have := hbound _ (Space.inBounds_add_iff.mp (Space.inBounds_add_iff.mp hin))
    exact ⟨⟨hf, hp⟩, UInt64.toNat_inj.mp (by rw [UInt64.toNat_zero]; omega)⟩
  · rintro ⟨⟨hf, p, hp, hin⟩, hd⟩
    cases hp
    have hside := hsrcok.mp ⟨hf, q, rfl, hin⟩
    have hso : r.srcOffset = 0 := (hside.1 hre).1
    rw [hd] at hchky ⊢
    refine ⟨hf, ⟨q, rfl, hin⟩, ⟨_, rfl, ?_⟩, hside.inRange hchkx, ?_⟩
    · rw [hso] at hin
      exact hin
    · rw [hd]
      exact inRange_zero hchky

end

theorem exact_region (hx : m.store.cells r.src = some x) (hy : m.store.cells r.dst = some y)
    (hchkx : ¬ x.size < r.srcOffset + r.size) (hchky : ¬ y.size < r.dstOffset + r.size)
    (hno : ¬ x.Refused sys r.size) : Exact (((memoryMap sys m r.src r.srcOffset r.size).bind fun
          | (.error e, m) => .ok (e, m)
          | (.ok p, m) => copyToDst sys' m r p).bind fun q =>
        accept (q.1 = .success ∧ r.size ≠ 0) (r.InRange x y) q.2)
      ((r.DstRefused sys' y → UnmapOk m r.src x) ∧
        (¬ r.DstRefused sys' y → SideOk m.space x r.srcOffset r.size ∧
          if r.src = r.dst ∧ x.Remaps then r.dstOffset = 0
          else SideOk m.space y r.dstOffset r.size)) := by
  obtain ⟨P, x₁, s₁, hsrc⟩ := side_cases (hs.plain r.src x hx) (hc r.src x hx) h0 hno hchkx
  rw [memoryMap_eq hx, hsrc.map_eq]
  simp only [Except.bind]
  by_cases hsd : r.dst = r.src
  · obtain rfl : x = y := some.inj (hx.symm.trans (hsd ▸ hy))
    have hdr : ¬ r.DstRefused sys' x := fun h => h.1 hsd.symm
    by_cases hre : x.Remaps
    · obtain ⟨q, hfresh, rfl, rfl, hbound⟩ := hsrc.remapped hre
      refine (exact_region_remap hs hc h0 hsd hx hchkx hchky hre hbound hsrc).congr ?_
      simp [hdr, hsd, hre]
    · obtain ⟨rfl, rfl, rfl⟩ := hsrc.direct hre
      rw [put_self hx]
      refine (exact_region_direct hs hc h0 hsd hx hchkx hchky hre hno hsrc).congr ?_
      simp [hdr, hre]
  · by_cases href : y.Refused sys' r.size
    · have hdr : r.DstRefused sys' y := ⟨Ne.symm hsd, href⟩
      have hy₁ : (m.put r.src x₁ s₁).store.cells r.dst = some y := (put_cells_of_ne hsd).trans hy
      obtain ⟨e, hne, he⟩ := copyToDst_refused hy₁ href
      rw [he]
      by_cases hre : x.Remaps
      · obtain ⟨q, hfresh, rfl, rfl, -⟩ := hsrc.remapped hre
        refine exact_error hne ((exact_unmap_remapped hs hc hx hsrc.keeps hfresh).congr ?_)
        have : UnmapOk m r.src x := fun h => absurd h (by simp [hre.1])
        simp [hdr, this]
      · obtain ⟨rfl, rfl, rfl⟩ := hsrc.direct hre
        rw [put_self hx]
        refine exact_error hne ((exact_unmap hs hc hx).congr ?_)
        simp [hdr]
    · have hdr : ¬ r.DstRefused sys' y := fun h => href h.2
      refine (exact_region_two hs hc h0 (Ne.symm hsd) hx hy hchkx hchky hsrc href).congr ?_
      simp [hdr, Ne.symm hsd]

end Region

theorem exact_copyRegion (hs : Sound m) (hc : Capacity m)
    (hx : m.store.cells r.src = some x) (hy : m.store.cells r.dst = some y) :
    Exact ((copyRegion sys sys' m r).bind fun q =>
        accept (q.1 = .success ∧ r.size ≠ 0) (r.InRange x y) q.2) (RegionOk sys sys' m r x y) := by
  unfold copyRegion
  by_cases h0 : r.size = 0
  · rw [if_pos h0]
    simp only [Except.bind]
    rw [accept_not fun h => h.2 h0]
    exact .same hs hc fun h => absurd h0 h
  rw [if_neg h0, State.read, hx, State.read, hy]
  simp only [Except.bind]
  by_cases hrej : r.rejected x y
  · rw [if_pos hrej]
    exact .same hs hc fun _ h => absurd hrej h
  rw [if_neg hrej]
  have hchk := not_or.mp hrej
  by_cases href : x.Refused sys r.size
  · obtain ⟨-, e, hne, he⟩ | ⟨hno, -⟩ | ⟨hno, -⟩ := map_cases sys m.space x r.srcOffset r.size
    · rw [memoryMap_eq hx, he, put_self hx]
      simp only
      rw [accept_not fun h => hne h.1]
      exact .same hs hc fun _ _ h => absurd href h
    · exact absurd href hno
    · exact absurd href hno
  · refine (exact_region hs hc h0 hx hy hchk.1 hchk.2 href).congr ?_
    simp [RegionOk, h0, hrej, href]

/-! ### Copying from GPU to GPU -/

theorem exact_directCopy (hs : Sound m) (hc : Capacity m) (h0 : r.size ≠ 0)
    (hx : m.store.cells r.src = some x) (hy : m.store.cells r.dst = some y) (hrej : ¬ r.rejected x y) :
    Exact ((directCopy m r x y).bind fun q =>
        accept (q.1 = .success ∧ r.size ≠ 0) (r.InRange x y) q.2)
      (x.hostPtr ≠ none ∧ y.hostPtr ≠ none ∧ r.InRange x y) := by
  have hchk := not_or.mp hrej
  have hfx := hc r.src x hx
  have hfy := hc r.dst y hy
  unfold directCopy
  cases hcopy : m.space.copy (y.hostPtr.map (·.add r.dstOffset.toNat))
      (x.hostPtr.map (·.add r.srcOffset.toNat)) r.size.toNat with
  | error e =>
    refine .fault fun ⟨h1, h2, h3⟩ => ?_
    obtain ⟨p, hp⟩ := ne_none_iff_exists'.mp h1
    obtain ⟨q, hq⟩ := ne_none_iff_exists'.mp h2
    obtain ⟨s', hs'⟩ := Space.copy_of_inBounds (Space.InBounds.add ((hfy q hq).mono h3.2))
      (Space.InBounds.add ((hfx p hp).mono h3.1))
    rw [hp, hq, map_some, map_some, hs'] at hcopy
    cases hcopy
  | ok s' =>
    obtain ⟨⟨q, hq, hinq⟩, p, hp, hinp⟩ := Space.inBounds_of_copy hcopy
    obtain ⟨q', hq', rfl⟩ := map_eq_some_iff.mp hq
    obtain ⟨p', hp', rfl⟩ := map_eq_some_iff.mp hp
    have hrange : r.InRange x y :=
      ⟨Reaches.inRange ⟨p', hp', hinp⟩ hchk.1, Reaches.inRange ⟨q', hq', hinq⟩ hchk.2⟩
    refine exact_accept ⟨rfl, h0⟩ ?_ fun _ => hs.congr (fun _ => rfl) hs.plain
    have hcap : Capacity {m with space := s'} := capacity_of_view hc (fun _ => rfl) (Space.copy_blocks hcopy)
    exact iff_of_true ⟨hcap, hrange⟩ ⟨by simp [hp'], by simp [hq'], hrange⟩

theorem exact_copyGpu {mgr : GpuManager} {srcGpu dstGpu : Nat} (hs : Sound m)
    (hc : Capacity m) (hx : m.store.cells r.src = some x) (hy : m.store.cells r.dst = some y) :
    Exact ((memoryCopyGpu sys sys' mgr m r srcGpu dstGpu).bind fun q =>
        accept (q.1 = .success ∧ r.size ≠ 0) (r.InRange x y) q.2)
      (CopyGpuOk sys sys' mgr m r srcGpu dstGpu x y) := by
  unfold memoryCopyGpu CopyGpuOk
  by_cases h0 : r.size = 0
  · rw [if_pos h0]
    simp only [Except.bind]
    rw [accept_not fun h => h.2 h0]
    refine .same hs hc ?_
    split
    · exact fun h => absurd h0 h
    · exact fun h => absurd h0 h
  rw [if_neg h0]
  by_cases hm : getCopyMethod mgr srcGpu dstGpu = .cpu
  · rw [if_neg (by simp [hm]), if_pos hm, memoryCopy_single]
    exact exact_copyRegion hs hc hx hy
  · rw [if_pos hm, if_neg hm, dmabufCopyGpuToGpu,
      copyGpuToGpu_eq mgr srcGpu dstGpu 1 h0 hx hy (hs.plain r.dst y hy).descriptor]
    by_cases hrej : r.rejected x y
    · rw [if_pos hrej]
      simp only [Except.bind]
      rw [memoryCopy_single]
      refine (exact_copyRegion hs hc hx hy).congr (iff_of_true (fun _ h => absurd hrej h) fun _ h => absurd hrej h)
    · rw [if_neg hrej]
      refine Exact.congr ?_ (show _ ↔ _ from ⟨fun h _ _ => h, fun h => h h0 hrej⟩)
      have h := exact_directCopy hs hc h0 hx hy hrej
      unfold directCopy at h ⊢
      cases hcopy : m.space.copy (y.hostPtr.map (·.add r.dstOffset.toNat))
          (x.hostPtr.map (·.add r.srcOffset.toNat)) r.size.toNat with
      | error e | ok s' =>
        rw [hcopy] at h
        exact h

end Mvgal.Memory
