import Mvgal.Memory.CopyBounds

/-! The two paths of `mvgal_memory_copy_gpu` (`memory.c`, `dmabuf.c`).

The accelerated copy adds each offset to the pointer of its buffer once. The
fallback maps the buffers first, which adds the offset for a buffer that is mapped
already, and adds it again. For mapped buffers both are therefore one move of
bytes, from other places; `copy_paths_agree_iff` says when no contents tell them
apart. -/
namespace Mvgal.Memory
open Blocks (Ptr Block Space Fault Move)

/-- A live buffer that is mapped, with the memory behind its pointer. -/
structure Mapped (m : State) (b : Nat) where
  buffer : Buffer
  ptr : Ptr
  block : Block
  live : m.store.cells b = some buffer
  mapped : buffer.mapped = true
  plain : buffer.Plain
  hostPtr : buffer.hostPtr = some ptr
  cell : m.space.blocks.cells ptr.block = some block
  size_le : ptr.off + buffer.size.toNat ≤ block.size

variable {m : State} {b : Nat} {r : CopyRegion}

theorem Sound.mapped {x : Buffer} (hs : Sound m) (hc : Capacity m) (hx : m.store.cells b = some x)
    (hm : x.mapped = true) : ∃ X : Mapped m b, X.buffer = x := by
  have hpl := hs.plain b x hx
  obtain ⟨p, hp⟩ := Option.ne_none_iff_exists'.mp (hpl.mapped hm)
  obtain ⟨B, hB, hle⟩ := hc b x hx p hp
  exact ⟨⟨x, p, B, hx, hm, hpl, hp, hB, hle⟩, rfl⟩

def Mapped.place (X : Mapped m b) (k : Nat) : Nat × Nat := (X.block.object, X.block.base + X.ptr.off + k)

def Mapped.Room (X : Mapped m b) (n : Nat) : Prop := X.ptr.off + n ≤ X.block.size

def State.contents (m : State) (b : Nat) : Except Fault (List UInt8) :=
  (m.read b).bind fun x =>
    (m.space.load x.hostPtr x.size.toNat).map fun f => (List.range x.size.toNat).map f

/-- Two copies end well, both accepted or both rejected, with the same contents of
both buffers. -/
def CopyRegion.SameOutcome (r : CopyRegion) : Except Fault (Error × State) → Except Fault (Error × State) → Prop
  | .ok (e, m), .ok (e', m') =>
    (e = .success ↔ e' = .success) ∧ m.contents r.src = m'.contents r.src ∧
      m.contents r.dst = m'.contents r.dst
  | _, _ => False

def State.fill (m : State) (bytes : Nat → Nat → UInt8) : State :=
  {m with space := {m.space with bytes := bytes}}

/-- Whatever the memory holds, the accelerated and the fallback copy have the same
outcome, and so has `mvgal_memory_copy_gpu` under any two states of the GPUs. -/
def CopyRegion.PathsAgree (m : State) (r : CopyRegion) : Prop :=
  ∀ (bytes : Nat → Nat → UInt8) (sys sys' : System) (mgr mgr' : GpuManager) (srcGpu dstGpu : Nat),
    r.SameOutcome (dmabufCopyGpuToGpu mgr (m.fill bytes) r srcGpu dstGpu)
      (memoryCopy (m.fill bytes) [(sys, sys', r)]) ∧
    r.SameOutcome (memoryCopyGpu sys sys' mgr (m.fill bytes) r srcGpu dstGpu)
      (memoryCopyGpu sys sys' mgr' (m.fill bytes) r srcGpu dstGpu)

/-- Nothing is copied; or the ranges lie in the buffers, the doubled offsets still lead
into their memory, and they lead to the same bytes: because both are zero, or
because the copy copies every byte to itself. -/
def CopyRegion.PathsOk (r : CopyRegion) (X : Mapped m r.src) (Y : Mapped m r.dst) : Prop :=
  r.size = 0 ∨ r.rejected X.buffer Y.buffer ∨ r.InRange X.buffer Y.buffer ∧
    X.Room (2 * r.srcOffset.toNat + r.size.toNat) ∧ Y.Room (2 * r.dstOffset.toNat + r.size.toNat) ∧
    (r.srcOffset = 0 ∧ r.dstOffset = 0 ∨ X.place r.srcOffset.toNat = Y.place r.dstOffset.toNat ∧
      (r.srcOffset = r.dstOffset ∨ Y.buffer.size.toNat ≤ 2 * r.dstOffset.toNat ∧
        X.buffer.size.toNat ≤ r.srcOffset.toNat + r.dstOffset.toNat))

/-! ### Both paths are one move -/

variable (X : Mapped m b)

theorem Mapped.span_add (k n : Nat) (h : X.Room (k + n)) :
    m.space.span (some (X.ptr.add k)) n = .ok (X.place k) := by
  have hle : (X.ptr.add k).off + n ≤ X.block.size := by
    rw [Blocks.Ptr.add_off, Nat.add_assoc]
    exact h
  exact Space.span_ok_iff.mpr
    ⟨X.ptr.add k, X.block, rfl, X.cell, hle, by simp [Mapped.place, Nat.add_assoc]⟩

theorem Mapped.room_of_inBounds {k n : Nat} (h : m.space.InBounds (X.ptr.add k) n) :
    X.Room (k + n) := by
  obtain ⟨B, hB, hle⟩ := h
  obtain rfl : X.block = B := Option.some.inj (X.cell.symm.trans hB)
  rw [Blocks.Ptr.add_off, Nat.add_assoc] at hle
  exact hle

def CopyRegion.move (r : CopyRegion) (X : Mapped m r.src) (Y : Mapped m r.dst) (i j : Nat) : Move :=
  ⟨Y.place j, X.place i, r.size.toNat⟩

/-- A copy between mapped buffers faults, or is the move. -/
theorem copy_mapped (X : Mapped m r.src) (Y : Mapped m r.dst) (i j : Nat) :
    (X.Room (i + r.size.toNat) ∧ Y.Room (j + r.size.toNat) ∧
      m.space.copy (some (Y.ptr.add j)) (some (X.ptr.add i)) r.size.toNat =
        .ok {m.space with bytes := (r.move X Y i j).apply m.space.bytes}) ∨
    (¬ (X.Room (i + r.size.toNat) ∧ Y.Room (j + r.size.toNat)) ∧
      ∃ f, m.space.copy (some (Y.ptr.add j)) (some (X.ptr.add i)) r.size.toNat = .error f) := by
  by_cases hX : X.Room (i + r.size.toNat) ∧ Y.Room (j + r.size.toNat)
  · exact .inl ⟨hX.1, hX.2, Space.copy_eq (Y.span_add j _ hX.2) (X.span_add i _ hX.1)⟩
  · cases hc : m.space.copy (some (Y.ptr.add j)) (some (X.ptr.add i)) r.size.toNat with
    | error f => exact .inr ⟨hX, f, rfl⟩
    | ok s =>
      obtain ⟨⟨q, hq, hqb⟩, p, hp, hpb⟩ := Space.inBounds_of_copy hc
      cases hq
      cases hp
      exact absurd ⟨X.room_of_inBounds hpb, Y.room_of_inBounds hqb⟩ hX

/-- The states after the two copies, with the same bytes: the fallback also counts. -/
theorem accelerated_eq (X : Mapped m r.src) (Y : Mapped m r.dst) (mgr : GpuManager) (srcGpu dstGpu : Nat) :
    dmabufCopyGpuToGpu mgr m r srcGpu dstGpu = if r.size = 0 then .ok (.success, m)
      else if r.rejected X.buffer Y.buffer then .ok (.invalidArgument, m)
      else (m.space.copy (some (Y.ptr.add r.dstOffset.toNat)) (some (X.ptr.add r.srcOffset.toNat))
        r.size.toNat).map fun s => (.success, {m with space := s}) := by
  by_cases h0 : r.size = 0
  · rw [if_pos h0, dmabufCopyGpuToGpu, copyGpuToGpu, if_pos h0]
  rw [if_neg h0, dmabufCopyGpuToGpu,
    copyGpuToGpu_eq mgr srcGpu dstGpu 1 h0 X.live Y.live Y.plain.descriptor, directCopy, X.hostPtr,
    Y.hostPtr]
  rfl

theorem map_of_mapped (sys : System) (offset size : UInt64) :
    memoryMap sys m b offset size = .ok (.ok (some (X.ptr.add offset.toNat)), m) := by
  rw [memoryMap_eq X.live, Buffer.map, if_pos X.mapped, X.hostPtr, put_self X.live]
  rfl

theorem fallback_eq (X : Mapped m r.src) (Y : Mapped m r.dst) (sys sys' : System) :
    memoryCopy m [(sys, sys', r)] = if r.size = 0 then .ok (.success, m)
      else if r.rejected X.buffer Y.buffer then .ok (.invalidArgument, m)
      else (m.space.copy (some (Y.ptr.add (2 * r.dstOffset.toNat)))
        (some (X.ptr.add (2 * r.srcOffset.toNat))) r.size.toNat).map fun s =>
          (.success, m.counted r s) := by
  rw [memoryCopy_single, copyRegion, State.read, X.live, State.read, Y.live]
  have htwice (p : Ptr) (k : Nat) : (p.add k).add k = p.add (2 * k) := by
    simp only [Blocks.Ptr.add, Nat.add_assoc, Nat.two_mul]
  simp only [Except.bind, map_of_mapped X, copyToDst, map_of_mapped Y, Option.map_some, htwice]

/-- The places of the bytes of both buffers. -/
def CopyRegion.Seen (r : CopyRegion) (X : Mapped m r.src) (Y : Mapped m r.dst) (o k : Nat) : Prop :=
  (∃ j < X.buffer.size.toNat, X.place j = (o, k)) ∨ ∃ j < Y.buffer.size.toNat, Y.place j = (o, k)

/-- The contents of a buffer in a state that differs in bytes and statistics. -/
theorem contents_mapped (m' : State)
    (hview : (m'.store.cells b).map (fun x => (x.hostPtr, x.size)) =
      (m.store.cells b).map fun x => (x.hostPtr, x.size))
    (hblocks : m'.space.blocks = m.space.blocks) :
    m'.contents b = .ok ((List.range X.buffer.size.toNat).map fun j =>
      m'.space.bytes (X.place j).1 (X.place j).2) := by
  rw [X.live, Option.map_some, Option.map_eq_some_iff] at hview
  obtain ⟨x, hx, heq⟩ := hview
  obtain ⟨hp, hsz⟩ := Prod.mk.inj heq
  have hspan : m'.space.span (some X.ptr) X.buffer.size.toNat = .ok (X.place 0) :=
    Space.span_ok_iff.mpr ⟨X.ptr, X.block, rfl, hblocks ▸ X.cell, X.size_le, rfl⟩
  rw [State.contents, State.read, hx]
  simp only [Except.bind]
  rw [hp, hsz, X.hostPtr, Space.load, hspan]
  simp [Except.map, Mapped.place]

theorem view_counted (m : State) (r : CopyRegion) (s : Space) (i : Nat) :
    ((m.counted r s).store.cells i).map (fun x => (x.hostPtr, x.size)) =
      (m.store.cells i).map fun x => (x.hostPtr, x.size) :=
  counted_cells _ (fun _ _ => rfl) (fun _ _ => rfl) m r s i

/-- Two successful copies with other bytes have the same outcome if the buffers show
the same bytes. -/
theorem sameOutcome_bytes (X : Mapped m r.src) (Y : Mapped m r.dst) (B B' : Nat → Nat → UInt8) :
    r.SameOutcome (.ok (.success, m.fill B)) (.ok (.success, m.counted r (m.fill B').space)) ↔
      ∀ o k, r.Seen X Y o k → B o k = B' o k := by
  show (_ ∧ (m.fill B).contents r.src = (m.counted r (m.fill B').space).contents r.src ∧
    (m.fill B).contents r.dst = (m.counted r (m.fill B').space).contents r.dst) ↔ _
  rw [contents_mapped X (m.fill B) rfl rfl, contents_mapped X (m.counted r (m.fill B').space) (view_counted m r _ _) rfl,
    contents_mapped Y (m.fill B) rfl rfl, contents_mapped Y (m.counted r (m.fill B').space) (view_counted m r _ _) rfl]
  simp only [Except.ok.injEq, List.map_inj_left, List.mem_range, true_and]
  constructor
  · intro h o k hseen
    rcases hseen with ⟨j, hj, hp⟩ | ⟨j, hj, hp⟩
    · have := h.1 j hj
      rw [hp] at this
      exact this
    · have := h.2 j hj
      rw [hp] at this
      exact this
  · intro h
    exact ⟨fun j hj => h _ _ (.inl ⟨j, hj, rfl⟩), fun j hj => h _ _ (.inr ⟨j, hj, rfl⟩)⟩

/-- The offsets within the buffers, and twice the offsets, lead into the memory. -/
def CopyRegion.Rooms (r : CopyRegion) (X : Mapped m r.src) (Y : Mapped m r.dst) : Prop :=
  (X.Room (r.srcOffset.toNat + r.size.toNat) ∧ Y.Room (r.dstOffset.toNat + r.size.toNat)) ∧
  X.Room (2 * r.srcOffset.toNat + r.size.toNat) ∧ Y.Room (2 * r.dstOffset.toNat + r.size.toNat)

theorem sameOutcome_paths_iff (X : Mapped m r.src) (Y : Mapped m r.dst) (sys sys' : System)
    (mgr : GpuManager) (srcGpu dstGpu : Nat) (h0 : r.size ≠ 0)
    (hrej : ¬ r.rejected X.buffer Y.buffer) :
    r.SameOutcome (dmabufCopyGpuToGpu mgr m r srcGpu dstGpu) (memoryCopy m [(sys, sys', r)]) ↔
      r.Rooms X Y ∧ ∀ o k, r.Seen X Y o k →
        (r.move X Y r.srcOffset.toNat r.dstOffset.toNat).apply m.space.bytes o k =
          (r.move X Y (2 * r.srcOffset.toNat) (2 * r.dstOffset.toNat)).apply m.space.bytes o k := by
  rw [accelerated_eq X Y, fallback_eq X Y, if_neg h0, if_neg hrej, if_neg h0, if_neg hrej]
  obtain ⟨hx, hy, hc⟩ | ⟨hno, f, hc⟩ := copy_mapped X Y r.srcOffset.toNat r.dstOffset.toNat
  · obtain ⟨hx', hy', hc'⟩ | ⟨hno', f', hc'⟩ :=
      copy_mapped X Y (2 * r.srcOffset.toNat) (2 * r.dstOffset.toNat)
    · rw [hc, hc']
      exact (sameOutcome_bytes X Y _ _).trans ⟨fun h => ⟨⟨⟨hx, hy⟩, hx', hy'⟩, h⟩, fun h => h.2⟩
    · rw [hc, hc']
      exact iff_of_false (fun h => h) fun h => hno' h.1.2
  · rw [hc]
    exact iff_of_false (fun h => h) fun h => hno h.1.1

/-- Inside the memory no range wraps, so that the check decides. -/
theorem room_iff_inRange {offset size : UInt64}
    (hcheck : ¬ X.buffer.size < offset + size) :
    X.Room (offset.toNat + size.toNat) ↔ X.buffer.InRange offset size := by
  have hle := X.size_le
  have hlt := X.block.size_lt
  unfold Mapped.Room
  rcases (check_iff X.buffer offset size).mp hcheck with h | h
  · unfold Buffer.InRange at *
    omega
  · unfold Buffer.InRange Blocks.limit at *
    omega

/-! ### When the two moves agree -/

/-- The move of the doubled offsets takes the bytes of `P` from the same places in two cases
only, if the destination up to its offset is in `P`. -/
theorem origin_agree_iff (X : Mapped m r.src) (Y : Mapped m r.dst) (i j : Nat) (h0 : 0 < r.size.toNat)
    {P : Nat → Nat → Prop} (hP : ∀ t ≤ j, P (Y.place t).1 (Y.place t).2) :
    (∀ o k, P o k → (r.move X Y i j).origin o k = (r.move X Y (2 * i) (2 * j)).origin o k) ↔
      i = 0 ∧ j = 0 ∨ X.place i = Y.place j ∧
        (i = j ∨ ∀ t < r.size.toNat, ¬ P (Y.place (2 * j + t)).1 (Y.place (2 * j + t)).2) := by
  -- the byte at distance `t` from the start of a move
  have hat (a c t : Nat) (ht : t < r.size.toNat) :
      (r.move X Y a c).origin (Y.place (c + t)).1 (Y.place (c + t)).2 = X.place (a + t) := by
    have hadd := Move.origin_add (v := r.move X Y a c) ht
    simpa only [CopyRegion.move, Mapped.place, Nat.add_assoc] using hadd
  constructor
  · intro h
    by_cases hj0 : j = 0
    · subst hj0
      have heq := h _ _ (hP 0 le_rfl)
      rw [hat i 0 0 h0, Nat.mul_zero, hat (2 * i) 0 0 h0] at heq
      have := (Prod.mk.inj heq).2
      exact .inl ⟨by omega, rfl⟩
    · -- the doubled move does not reach the first byte that the other one writes
      have hp := h _ _ (hP j le_rfl)
      have hstart := hat i j 0 h0
      rw [Nat.add_zero, Nat.add_zero] at hstart
      rw [hstart, Move.origin_of_lt (by simp only [CopyRegion.move, Mapped.place]; omega)] at hp
      refine .inr ⟨hp, or_iff_not_imp_left.mpr fun hij t ht hseen => ?_⟩
      have heq := h _ _ hseen
      rw [Move.origin_self hp, hat _ _ t ht] at heq
      simp only [Mapped.place, Prod.mk.injEq] at hp heq
      omega
  · rintro (⟨rfl, rfl⟩ | ⟨hp, hcase⟩) o k hseen
    · rfl
    · rw [Move.origin_self hp]
      simp only [Mapped.place, Prod.mk.injEq] at hp
      rcases hcase with rfl | hhidden
      · refine (Move.origin_self ?_ o k).symm
        simp only [CopyRegion.move, Mapped.place, Prod.mk.injEq]
        exact ⟨hp.1, by omega⟩
      · refine (if_neg fun ⟨ho, hle, hlt⟩ => ?_).symm
        simp only [CopyRegion.move, Mapped.place] at ho hle hlt
        obtain ⟨t, rfl⟩ := Nat.exists_eq_add_of_le hle
        refine hhidden t (by omega) ?_
        rw [Mapped.place, ← Nat.add_assoc, ← ho]
        exact hseen

theorem offsets_agree_iff (X : Mapped m r.src) (Y : Mapped m r.dst) (h0 : 0 < r.size.toNat) {P : Nat → Nat → Prop}
    (hP : ∀ t ≤ r.dstOffset.toNat, P (Y.place t).1 (Y.place t).2) :
    (∀ o k, P o k → (r.move X Y r.srcOffset.toNat r.dstOffset.toNat).origin o k =
        (r.move X Y (2 * r.srcOffset.toNat) (2 * r.dstOffset.toNat)).origin o k) ↔
      r.srcOffset = 0 ∧ r.dstOffset = 0 ∨ X.place r.srcOffset.toNat = Y.place r.dstOffset.toNat ∧
        (r.srcOffset = r.dstOffset ∨ ∀ t < r.size.toNat,
          ¬ P (Y.place (2 * r.dstOffset.toNat + t)).1 (Y.place (2 * r.dstOffset.toNat + t)).2) := by
  have hzero (a : UInt64) : a.toNat = 0 ↔ a = 0 := UInt64.toNat_inj (b := 0)
  rw [origin_agree_iff X Y _ _ h0 hP, hzero, hzero, UInt64.toNat_inj]

/-- With ranges inside the buffers, neither shows a byte from twice the offset on exactly when
both end before it. -/
theorem hidden_iff (X : Mapped m r.src) (Y : Mapped m r.dst) {i j : Nat} (h0 : 0 < r.size.toNat)
    (hp : X.place i = Y.place j) :
    (∀ t < r.size.toNat, ¬ r.Seen X Y (Y.place (2 * j + t)).1 (Y.place (2 * j + t)).2) ↔
      Y.buffer.size.toNat ≤ 2 * j ∧ X.buffer.size.toNat ≤ i + j := by
  simp only [Mapped.place, Prod.mk.injEq] at hp
  constructor
  · intro h
    refine ⟨Nat.not_lt.mp fun hY => h 0 h0 (.inr ⟨2 * j, hY, rfl⟩), Nat.not_lt.mp fun hX => h 0 h0 (.inl ⟨i + j, hX, ?_⟩)⟩
    simp only [Mapped.place, Prod.mk.injEq]
    exact ⟨hp.1, by omega⟩
  · rintro ⟨hY, hX⟩ t - (⟨k, hk, hpl⟩ | ⟨k, hk, hpl⟩)
    all_goals
      simp only [Mapped.place, Prod.mk.injEq] at hpl
      omega

def Mapped.fill (X : Mapped m b) (bytes : Nat → Nat → UInt8) : Mapped (m.fill bytes) b :=
  ⟨X.buffer, X.ptr, X.block, X.live, X.mapped, X.plain, X.hostPtr, X.cell, X.size_le⟩

/-- The accelerated and the fallback copy agree on all contents exactly under the
condition. -/
theorem sameOutcome_forall_iff (X : Mapped m r.src) (Y : Mapped m r.dst) (sys sys' : System)
    (mgr : GpuManager) (srcGpu dstGpu : Nat) :
    (∀ bytes, r.SameOutcome (dmabufCopyGpuToGpu mgr (m.fill bytes) r srcGpu dstGpu)
      (memoryCopy (m.fill bytes) [(sys, sys', r)])) ↔ r.PathsOk X Y := by
  have hself (q : Error × State) : r.SameOutcome (.ok q) (.ok q) := ⟨Iff.rfl, rfl, rfl⟩
  by_cases h0 : r.size = 0
  · refine iff_of_true (fun bytes => ?_) (.inl h0)
    rw [accelerated_eq (X.fill bytes) (Y.fill bytes), fallback_eq (X.fill bytes) (Y.fill bytes),
      if_pos h0, if_pos h0]
    exact hself _
  by_cases hrej : r.rejected X.buffer Y.buffer
  · refine iff_of_true (fun bytes => ?_) (.inr (.inl hrej))
    have hrej' : r.rejected (X.fill bytes).buffer (Y.fill bytes).buffer := hrej
    rw [accelerated_eq (X.fill bytes) (Y.fill bytes), fallback_eq (X.fill bytes) (Y.fill bytes),
      if_neg h0, if_neg h0, if_pos hrej', if_pos hrej']
    exact hself _
  have hpaths (bytes) := sameOutcome_paths_iff (X.fill bytes) (Y.fill bytes) sys sys' mgr srcGpu
    dstGpu h0 hrej
  have hmoves := Move.apply_agree_iff (r.move X Y r.srcOffset.toNat r.dstOffset.toNat)
    (r.move X Y (2 * r.srcOffset.toNat) (2 * r.dstOffset.toNat)) (r.Seen X Y)
  have hpos : 0 < r.size.toNat :=
    Nat.pos_of_ne_zero fun h => h0 (UInt64.toNat_inj.mp h)
  have hx := room_iff_inRange X (fun h => hrej (.inl h))
  have hy := room_iff_inRange Y (fun h => hrej (.inr h))
  have hagree (hin : Y.buffer.InRange r.dstOffset r.size) := offsets_agree_iff X Y hpos
    (P := r.Seen X Y) fun t ht => .inr ⟨t, by unfold Buffer.InRange at hin; omega, rfl⟩
  simp only [and_congr_right fun hp => or_congr_right (hidden_iff X Y hpos hp)] at hagree
  constructor
  · intro h
    have hr : r.Rooms X Y := ((hpaths fun _ _ => 0).mp (h _)).1
    have hin : r.InRange X.buffer Y.buffer := ⟨hx.mp hr.1.1, hy.mp hr.1.2⟩
    have ho := (hagree hin.2).mp (hmoves.mp fun bytes => ((hpaths bytes).mp (h bytes)).2)
    exact .inr (.inr ⟨hin, hr.2.1, hr.2.2, ho⟩)
  · rintro (h | h | ⟨hin, hX, hY, ho⟩) bytes
    · exact absurd h h0
    · exact absurd h hrej
    · exact (hpaths bytes).mpr ⟨⟨⟨hx.mpr hin.1, hy.mpr hin.2⟩, hX, hY⟩, hmoves.mpr ((hagree hin.2).mpr ho) bytes⟩

/-! ### The two paths of `mvgal_memory_copy_gpu` -/

/-- A copy between mapped buffers is the accelerated or the fallback copy. -/
theorem memoryCopyGpu_cases (X : Mapped m r.src) (Y : Mapped m r.dst) (sys sys' : System)
    (mgr : GpuManager) (srcGpu dstGpu : Nat) :
    memoryCopyGpu sys sys' mgr m r srcGpu dstGpu = dmabufCopyGpuToGpu mgr m r srcGpu dstGpu ∨
    memoryCopyGpu sys sys' mgr m r srcGpu dstGpu = memoryCopy m [(sys, sys', r)] := by
  unfold memoryCopyGpu
  by_cases h0 : r.size = 0
  · rw [if_pos h0, accelerated_eq X Y, if_pos h0]
    exact .inl rfl
  rw [if_neg h0]
  by_cases hcpu : getCopyMethod mgr srcGpu dstGpu = .cpu
  · rw [if_neg (not_not_intro hcpu)]
    exact .inr rfl
  rw [if_pos hcpu, accelerated_eq X Y, if_neg h0]
  by_cases hrej : r.rejected X.buffer Y.buffer
  · rw [if_pos hrej]
    exact .inr rfl
  · rw [if_neg hrej]
    cases m.space.copy (some (Y.ptr.add r.dstOffset.toNat)) (some (X.ptr.add r.srcOffset.toNat))
        r.size.toNat with
    | error f => exact .inl rfl
    | ok s => exact .inl rfl

variable {a c d : Except Fault (Error × State)}

theorem CopyRegion.SameOutcome.symm (h : r.SameOutcome a c) : r.SameOutcome c a := by
  match a, c with
  | .ok _, .ok _ => exact ⟨h.1.symm, h.2.1.symm, h.2.2.symm⟩
  | .ok _, .error _ => exact h
  | .error _, _ => exact absurd h (by simp [CopyRegion.SameOutcome])

theorem CopyRegion.SameOutcome.trans (h : r.SameOutcome a c) (h' : r.SameOutcome c d) :
    r.SameOutcome a d := by
  match a, c, d with
  | .ok _, .ok _, .ok _ => exact ⟨h.1.trans h'.1, h.2.1.trans h'.2.1, h.2.2.trans h'.2.2⟩
  | .ok _, .ok _, .error _ => exact h'
  | .ok _, .error _, _ | .error _, _, _ => exact absurd h (by simp [CopyRegion.SameOutcome])

/-- **Agreement of the copy paths.** For mapped buffers the accelerated and the fallback
copy have the same outcome on all contents, so that the copy method does not show,
exactly when nothing is copied or the doubled offsets lead to the same bytes. -/
theorem copy_paths_agree_iff (X : Mapped m r.src) (Y : Mapped m r.dst) :
    r.PathsAgree m ↔ r.PathsOk X Y := by
  constructor
  · intro h
    exact (sameOutcome_forall_iff X Y willing willing noGpus 0 0).mp
      fun bytes => (h bytes willing willing noGpus noGpus 0 0).1
  · intro hok bytes sys sys' mgr mgr' srcGpu dstGpu
    have hpath (g : GpuManager) : r.SameOutcome (dmabufCopyGpuToGpu g (m.fill bytes) r srcGpu dstGpu)
        (memoryCopy (m.fill bytes) [(sys, sys', r)]) :=
      (sameOutcome_forall_iff X Y sys sys' g srcGpu dstGpu).mpr hok bytes
    -- Under either manager the copy has the outcome of the fallback.
    have hcopy (g : GpuManager) :
        r.SameOutcome (memoryCopyGpu sys sys' g (m.fill bytes) r srcGpu dstGpu)
          (memoryCopy (m.fill bytes) [(sys, sys', r)]) := by
      rcases memoryCopyGpu_cases (X.fill bytes) (Y.fill bytes) sys sys' g srcGpu dstGpu with h | h
      · rw [h]
        exact hpath g
      · rw [h]
        exact (hpath g).symm.trans (hpath g)
    exact ⟨hpath mgr, (hcopy mgr).trans (hcopy mgr').symm⟩

def twoBuffers : State :=
  (memoryAllocateSimple willing noGpus
    (memoryAllocateSimple willing noGpus State.zero 64 flagHostValid).2 64 flagHostValid).2

def firstOfTwo : Mapped twoBuffers 0 :=
  ⟨(twoBuffers.store.cells 0).get rfl, ⟨0, 0⟩, (twoBuffers.space.blocks.cells 0).get rfl, rfl, rfl,
    ⟨by decide, by decide⟩, rfl, rfl, by decide⟩

def secondOfTwo : Mapped twoBuffers 1 :=
  ⟨(twoBuffers.store.cells 1).get rfl, ⟨1, 0⟩, (twoBuffers.space.blocks.cells 1).get rfl, rfl, rfl,
    ⟨by decide, by decide⟩, rfl, rfl, by decide⟩

/-- A copy of all bytes from the start to the start. -/
theorem copy_paths_agree_at_start : CopyRegion.PathsAgree twoBuffers ⟨0, 0, 1, 0, 64⟩ := by
  refine (copy_paths_agree_iff firstOfTwo secondOfTwo).mpr (.inr (.inr ?_))
  exact ⟨by decide, by show _ ≤ _; decide, by show _ ≤ _; decide, .inl ⟨rfl, rfl⟩⟩

def twoGpus : GpuManager := ⟨2, two_le_maxGpus, fun _ => 0, fun _ => true⟩

/-- Four bytes from offset 8 to offset 0: the fallback reads them at 16. -/
theorem copy_paths_differ : ¬ CopyRegion.PathsAgree twoBuffers ⟨0, 8, 1, 0, 4⟩ := by
  intro h
  have h := (h (fun _ k => k.toUInt8) willing willing noGpus twoGpus 0 1).2.2.2
  exact nomatch h

end Mvgal.Memory
