import Mvgal.Memory.CopyPaths

/-! Lists of copy regions between mapped buffers (`mvgal_memory_copy`).

A call is meant to be the composition of its regions: each region moves the bytes at
the source offset to the destination offset, and no buffer shows another change. What a
region does is a move as well, from and to twice the offsets (`copyRegion_mapped`).
`copies_compose_iff` says for which regions every list of them does what is meant. -/
namespace Mvgal.Memory
open CopyRegion Mapped
open Blocks (Ptr Move)

variable {m m' : State}

/-- A region between two mapped buffers, with both ranges in bounds. -/
structure MappedRegion (m : State) where
  region : CopyRegion
  src : Mapped m region.src
  dst : Mapped m region.dst
  inRange : region.InRange src.buffer dst.buffer

namespace MappedRegion

variable (R : MappedRegion m)

def meant : Move := R.region.move R.src R.dst R.region.srcOffset.toNat R.region.dstOffset.toNat

/-- The bytes it moves: the mapping adds the offsets, and the copy adds them again. -/
def done : Move := R.region.move R.src R.dst (2 * R.region.srcOffset.toNat) (2 * R.region.dstOffset.toNat)

def Fits : Prop :=
  R.src.Room (2 * R.region.srcOffset.toNat + R.region.size.toNat) ∧
    R.dst.Room (2 * R.region.dstOffset.toNat + R.region.size.toNat)

end MappedRegion

/-- A live buffer shows this byte, through its pointer or as a byte of its file. -/
def State.Shows (m : State) (o k : Nat) : Prop :=
  ∃ b x, m.store.cells b = some x ∧
    ((∃ p B j, x.hostPtr = some p ∧ m.space.blocks.cells p.block = some B ∧ j < x.size.toNat ∧
        (o, k) = (B.object, B.base + p.off + j)) ∨
      x.dmabufFd = some o ∧ k < x.size.toNat)

/-- The regions with what the operating system answers to the two mappings of each. -/
abbrev CopyList (m : State) : Type := List (System × System × MappedRegion m)

def CopyList.regions (l : CopyList m) : List (System × System × CopyRegion) :=
  l.map fun r => (r.1, r.2.1, r.2.2.region)

def CopyList.meant (l : CopyList m) (bytes : Nat → Nat → UInt8) : Nat → Nat → UInt8 :=
  l.foldl (fun bytes r => r.2.2.meant.apply bytes) bytes

/-- Whatever the memory holds, the call succeeds, and the buffers show the bytes that the
regions leave one after another. -/
def CopyList.Composes (l : CopyList m) : Prop :=
  ∀ bytes, ∃ m', memoryCopy (m.fill bytes) l.regions = .ok (.success, m') ∧
    ∀ o k, m.Shows o k → m'.space.bytes o k = l.meant bytes o k

/-- Nothing is copied; or both offsets are zero; or the region copies bytes onto
themselves, and with doubled offsets it does so too, or writes where no buffer shows. -/
def MappedRegion.Ok (R : MappedRegion m) : Prop :=
  R.region.size = 0 ∨ R.region.srcOffset = 0 ∧ R.region.dstOffset = 0 ∨
    R.Fits ∧ R.src.place R.region.srcOffset.toNat = R.dst.place R.region.dstOffset.toNat ∧
      (R.region.srcOffset = R.region.dstOffset ∨ ∀ t, t < R.region.size.toNat →
          ¬ m.Shows (R.dst.place (2 * R.region.dstOffset.toNat + t)).1
            (R.dst.place (2 * R.region.dstOffset.toNat + t)).2)

/-- What a copy leaves alone in a structure: all but the statistics matters to it. -/
def Buffer.mapping (x : Buffer) : Bool × Option Ptr × UInt64 × Option Nat × Bool × Backend :=
  (x.mapped, x.hostPtr, x.size, x.dmabufFd, x.exported, x.backend)

structure SameBuffers (m m' : State) : Prop where
  blocks : m'.space.blocks = m.space.blocks
  cells : ∀ i, (m'.store.cells i).map Buffer.mapping = (m.store.cells i).map Buffer.mapping

theorem SameBuffers.trans {m'' : State} (h : SameBuffers m m') (h' : SameBuffers m' m'') : SameBuffers m m'' :=
  ⟨h'.blocks.trans h.blocks, fun i => (h'.cells i).trans (h.cells i)⟩

theorem sameBuffers_fill (m : State) (bytes : Nat → Nat → UInt8) : SameBuffers m (m.fill bytes) :=
  ⟨rfl, fun _ => rfl⟩

theorem sameBuffers_counted (m : State) (r : CopyRegion) (bytes : Nat → Nat → UInt8) :
    SameBuffers m (m.counted r {m.space with bytes := bytes}) :=
  ⟨rfl, counted_cells _ (fun _ _ => rfl) (fun _ _ => rfl) m r _⟩

theorem SameBuffers.mapped {b : Nat} (h : SameBuffers m m') (X : Mapped m b) :
    ∃ X' : Mapped m' b, X'.ptr = X.ptr ∧ X'.block = X.block ∧ X'.buffer.size = X.buffer.size := by
  have hcell := h.cells b
  rw [X.live, Option.map_some, Option.map_eq_some_iff] at hcell
  obtain ⟨y, hy, heq⟩ := hcell
  simp only [Buffer.mapping, Prod.mk.injEq] at heq
  obtain ⟨hmapped, hhost, hsize, hfd, hexp, hback⟩ := heq
  have hplain : y.Plain :=
    ⟨by rw [hmapped, hhost]; exact X.plain.mapped, by rw [hfd, hexp, hback]; exact X.plain.descriptor⟩
  exact ⟨⟨y, X.ptr, X.block, hy, hmapped.trans X.mapped, hplain, hhost.trans X.hostPtr,
    by rw [h.blocks]; exact X.cell, by rw [hsize]; exact X.size_le⟩, rfl, rfl, hsize⟩

section
variable (R : MappedRegion m)
include R

/-- A region moves the bytes at twice its offsets, or faults. -/
theorem copyRegion_mapped (h : SameBuffers m m') (sys sys' : System)
    (h0 : R.region.size ≠ 0) :
    (R.Fits ∧ ∃ m'', copyRegion sys sys' m' R.region = .ok (.success, m'') ∧ SameBuffers m m'' ∧
      m''.space.bytes = R.done.apply m'.space.bytes) ∨
    (¬ R.Fits ∧ ∃ f, copyRegion sys sys' m' R.region = .error f) := by
  obtain ⟨X, hxp, hxb, hxs⟩ := h.mapped R.src
  obtain ⟨Y, hyp, hyb, hys⟩ := h.mapped R.dst
  have hcheck : ¬ R.region.rejected X.buffer Y.buffer := by
    rw [rejected, hxs, hys, not_or]
    exact ⟨(check_iff _ _ _).mpr (.inl R.inRange.1), (check_iff _ _ _).mpr (.inl R.inRange.2)⟩
  have hfits : X.Room (2 * R.region.srcOffset.toNat + R.region.size.toNat) ∧
      Y.Room (2 * R.region.dstOffset.toNat + R.region.size.toNat) ↔ R.Fits := by
    unfold MappedRegion.Fits Room
    rw [hxp, hxb, hyp, hyb]
  have hmove : R.region.move X Y (2 * R.region.srcOffset.toNat) (2 * R.region.dstOffset.toNat) = R.done := by
    unfold MappedRegion.done move place
    rw [hxp, hxb, hyp, hyb]
  have hcopy := fallback_eq X Y sys sys'
  rw [memoryCopy_single, if_neg h0, if_neg hcheck] at hcopy
  obtain ⟨hx, hy, he⟩ | ⟨hno, f, he⟩ :=
    copy_mapped X Y (2 * R.region.srcOffset.toNat) (2 * R.region.dstOffset.toNat)
  · rw [he, hmove] at hcopy
    exact .inl ⟨hfits.mp ⟨hx, hy⟩, _, hcopy, h.trans (sameBuffers_counted m' R.region _), rfl⟩
  · rw [he] at hcopy
    exact .inr ⟨fun hf => hno (hfits.mpr hf), f, hcopy⟩

theorem copyRegion_empty (sys sys' : System) (h0 : R.region.size = 0) :
    copyRegion sys sys' m' R.region = .ok (.success, m') := by
  rw [copyRegion, if_pos h0]

theorem MappedRegion.meant_empty (h0 : R.region.size = 0) (bytes : Nat → Nat → UInt8) :
    R.meant.apply bytes = bytes := by
  have hlen : R.meant.length = 0 := congrArg UInt64.toNat h0
  funext o k
  unfold Move.apply Move.origin
  rw [if_neg fun h => absurd h.2 (by rw [hlen]; omega)]

omit R in
theorem Mapped.shows {b : Nat} (X : Mapped m b) {j : Nat} (hj : j < X.buffer.size.toNat) :
    m.Shows (X.place j).1 (X.place j).2 :=
  ⟨b, X.buffer, X.live, .inl ⟨X.ptr, X.block, j, X.hostPtr, X.cell, hj, rfl⟩⟩

/-- A byte that is shown is meant to come from one that is shown. -/
theorem MappedRegion.shows_origin {o k : Nat} (h : m.Shows o k) :
    m.Shows (R.meant.origin o k).1 (R.meant.origin o k).2 := by
  unfold Move.origin
  split
  · next hin =>
    have hj : R.region.srcOffset.toNat + (k - R.meant.dst.2) < R.src.buffer.size.toNat := by
      have hrange : R.region.srcOffset.toNat + R.region.size.toNat ≤ R.src.buffer.size.toNat := R.inRange.1
      have hlen : R.meant.length = R.region.size.toNat := rfl
      omega
    have hshown := R.src.shows hj
    rw [place, ← Nat.add_assoc] at hshown
    exact hshown
  · exact h

/-- The two moves take every byte that is shown from the same place. -/
def MappedRegion.Agrees (R : MappedRegion m) : Prop :=
  ∀ o k, m.Shows o k → R.meant.origin o k = R.done.origin o k

theorem MappedRegion.agrees_iff (h0 : R.region.size ≠ 0) :
    R.Agrees ↔ R.region.srcOffset = 0 ∧ R.region.dstOffset = 0 ∨
      R.src.place R.region.srcOffset.toNat = R.dst.place R.region.dstOffset.toNat ∧
        (R.region.srcOffset = R.region.dstOffset ∨ ∀ t, t < R.region.size.toNat →
            ¬ m.Shows (R.dst.place (2 * R.region.dstOffset.toNat + t)).1
              (R.dst.place (2 * R.region.dstOffset.toNat + t)).2) := by
  have hpos : 0 < R.region.size.toNat := Nat.pos_of_ne_zero fun h => h0 (UInt64.toNat_inj.mp h)
  have hin : R.region.dstOffset.toNat + R.region.size.toNat ≤ R.dst.buffer.size.toNat := R.inRange.2
  exact offsets_agree_iff R.src R.dst hpos fun t ht => R.dst.shows (by omega)

theorem MappedRegion.fits_of_zero (hi : R.region.srcOffset = 0)
    (hj : R.region.dstOffset = 0) : R.Fits := by
  obtain ⟨hX, hY⟩ := R.inRange
  have hx := R.src.size_le
  have hy := R.dst.size_le
  unfold MappedRegion.Fits Room
  unfold Buffer.InRange at hX hY
  rw [hi] at hX ⊢
  rw [hj] at hY ⊢
  rw [UInt64.toNat_zero] at hX hY ⊢
  omega

theorem MappedRegion.ok_iff (h0 : R.region.size ≠ 0) : R.Ok ↔ R.Fits ∧ R.Agrees := by
  rw [R.agrees_iff h0, MappedRegion.Ok, or_iff_right h0]
  constructor
  · rintro (⟨hi, hj⟩ | ⟨hfits, hself⟩)
    · exact ⟨R.fits_of_zero hi hj, .inl ⟨hi, hj⟩⟩
    · exact ⟨hfits, .inr hself⟩
  · rintro ⟨hfits, hzero | hself⟩
    · exact .inl hzero
    · exact .inr ⟨hfits, hself⟩

/-- The bytes that are shown are those of the function. -/
def State.ShowsBytes (m m' : State) (bytes : Nat → Nat → UInt8) : Prop :=
  ∀ o k, m.Shows o k → m'.space.bytes o k = bytes o k

theorem copyRegion_of_ok (hok : R.Ok) (h : SameBuffers m m')
    {bytes : Nat → Nat → UInt8} (hbytes : m.ShowsBytes m' bytes) (sys sys' : System) :
    ∃ m'', copyRegion sys sys' m' R.region = .ok (.success, m'') ∧ SameBuffers m m'' ∧
      m.ShowsBytes m'' (R.meant.apply bytes) := by
  by_cases h0 : R.region.size = 0
  · rw [R.meant_empty h0]
    exact ⟨m', copyRegion_empty R sys sys' h0, h, hbytes⟩
  · obtain ⟨hfits, hagree⟩ := (R.ok_iff h0).mp hok
    obtain ⟨-, m'', he, hsame, hdone⟩ | ⟨hno, -⟩ := copyRegion_mapped R h sys sys' h0
    · refine ⟨m'', he, hsame, fun o k hshows => ?_⟩
      rw [hdone, Move.apply, ← hagree o k hshows]
      exact hbytes _ _ (R.shows_origin hshows)
    · exact absurd hfits hno

omit R in
theorem copyRegions_of_ok (l : CopyList m) (hok : ∀ r ∈ l, r.2.2.Ok) (h : SameBuffers m m')
    {bytes : Nat → Nat → UInt8} (hbytes : m.ShowsBytes m' bytes) :
    ∃ m'', copyRegions m' .success l.regions = .ok (.success, m'') ∧ m.ShowsBytes m'' (l.meant bytes) := by
  induction l generalizing m' bytes with
  | nil => exact ⟨m', rfl, hbytes⟩
  | cons r rest ih =>
    obtain ⟨sys, sys', R⟩ := r
    obtain ⟨m₁, he, hsame, hshown⟩ := copyRegion_of_ok R (hok _ List.mem_cons_self) h hbytes sys sys'
    obtain ⟨m₂, hrest, hfinal⟩ := ih (fun r hr => hok r (List.mem_cons_of_mem _ hr)) hsame hshown
    refine ⟨m₂, ?_, hfinal⟩
    show (copyRegion sys sys' m' R.region).bind _ = _
    rw [he]
    exact hrest

/-- A region that composes on its own is one that does what is meant. -/
theorem MappedRegion.ok_of_composes
    (h : CopyList.Composes (m := m) [(willing, willing, R)]) : R.Ok := by
  by_cases h0 : R.region.size = 0
  · exact .inl h0
  have hcall (bytes : Nat → Nat → UInt8) : R.Fits ∧
      ∀ o k, m.Shows o k → R.meant.apply bytes o k = R.done.apply bytes o k := by
    obtain ⟨m', he, hshown⟩ := h bytes
    change memoryCopy (m.fill bytes) [(willing, willing, R.region)] = _ at he
    rw [memoryCopy_single] at he
    obtain ⟨hfits, m'', he', -, hdone⟩ | ⟨-, f, he'⟩ :=
      copyRegion_mapped R (sameBuffers_fill m bytes) willing willing h0
    · obtain rfl : m' = m'' := by
        rw [he, Except.ok.injEq, Prod.mk.injEq] at he'
        exact he'.2
      refine ⟨hfits, fun o k hs => ?_⟩
      have hmeant := hshown o k hs
      rw [hdone] at hmeant
      exact hmeant.symm
    · rw [he] at he'
      cases he'
  exact (R.ok_iff h0).mpr ⟨(hcall fun _ _ => 0).1,
    (Move.apply_agree_iff _ _ _).mp fun bytes => (hcall bytes).2⟩

end

/-- **Copies.** Every call with regions of a set succeeds, with the composition of its
regions as its effect, exactly when each of them copies nothing, has offsets zero, or
copies bytes onto themselves with its effect at twice the offsets not to be seen. -/
theorem copies_compose_iff (S : Set (MappedRegion m)) :
    (∀ l : CopyList m, l ≠ [] → (∀ r ∈ l, r.2.2 ∈ S) → l.Composes) ↔ ∀ R ∈ S, R.Ok := by
  constructor
  · intro h R hR
    refine R.ok_of_composes (h _ (List.cons_ne_nil _ _) fun r hr => ?_)
    obtain rfl := List.mem_singleton.mp hr
    exact hR
  · intro hok l hne hl bytes
    have hbytes : m.ShowsBytes (m.fill bytes) bytes := fun _ _ _ => rfl
    obtain ⟨m', he, hshown⟩ :=
      copyRegions_of_ok l (fun r hr => hok _ (hl r hr)) (sameBuffers_fill m bytes) hbytes
    refine ⟨m', ?_, hshown⟩
    rw [memoryCopy, if_neg (by simpa [CopyList.regions] using hne)]
    exact he

def fromOffset8 : MappedRegion twoBuffers := ⟨⟨0, 8, 1, 0, 4⟩, firstOfTwo, secondOfTwo, by decide⟩

/-- With byte `k` of the memory holding `k`, the second buffer starts with 16, not 8. -/
theorem region_copied_from_16 : ¬ CopyList.Composes (m := twoBuffers) [(willing, willing, fromOffset8)] := by
  intro h
  obtain ⟨m', he, hshown⟩ := h fun _ k => k.toUInt8
  have hcopied : ∃ m'', memoryCopy (twoBuffers.fill fun _ k => k.toUInt8)
      (CopyList.regions [(willing, willing, fromOffset8)]) = .ok (.success, m'') ∧ m''.space.bytes 1 0 = 16 :=
    ⟨_, rfl, by decide⟩
  obtain ⟨m'', he', h16⟩ := hcopied
  rw [he, Except.ok.injEq, Prod.mk.injEq] at he'
  obtain ⟨-, rfl⟩ := he'
  have h8 := hshown 1 0 (secondOfTwo.shows (j := 0) (by decide))
  rw [h16] at h8
  exact nomatch h8

end Mvgal.Memory
