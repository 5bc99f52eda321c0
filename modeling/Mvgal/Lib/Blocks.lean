import Mvgal.Lib.Arena

/-! An address space of blocks.

A pointer is a block and a distance from its start. A block shows a part of an
object: a heap block an object of its own, a mapping a part of a file, so that
two mappings of one file share their bytes. A block that was released is gone,
and every access states the range it touches: outside a live block it is a
fault, not a value. Distances are natural numbers, so no address wraps. -/
namespace Mvgal.Blocks
open Arena

/-- What an access or a release can do wrong. -/
inductive Fault where
  | nullPointer
  | outOfBounds
  | useAfterFree
  | invalidFree
  | endlessRecursion
deriving DecidableEq, Repr

structure Ptr where
  block : Nat
  off : Nat
deriving DecidableEq, Repr

def Ptr.add (p : Ptr) (n : Nat) : Ptr := {p with off := p.off + n}

@[simp] theorem Ptr.add_off (p : Ptr) (n : Nat) : (p.add n).off = p.off + n := rfl

/-- Where a block comes from: the heap, a mapping of a file, or neither. -/
inductive Kind where
  | heap
  | mapping
  | foreign
deriving DecidableEq, Repr

/-- No block is as large as half the address space. -/
abbrev limit : Nat := 2 ^ 63

structure Block where
  kind : Kind
  object : Nat
  base : Nat
  size : Nat
  size_lt : size < limit

/-- What a block shows, by its length; the bytes are kept in the space. -/
structure Object where
  length : Nat
  length_lt : length < limit

structure Space where
  blocks : Arena Block
  objects : Arena Object
  bytes : Nat → Nat → UInt8

namespace Space

def empty : Space := ⟨.empty, .empty, fun _ _ => 0⟩

/-- `n` bytes of the space lie behind `p`. -/
def InBounds (m : Space) (p : Ptr) (n : Nat) : Prop :=
  ∃ b, m.blocks.cells p.block = some b ∧ p.off + n ≤ b.size

instance (m : Space) (p : Ptr) (n : Nat) : Decidable (m.InBounds p n) :=
  match h : m.blocks.cells p.block with
  | none => .isFalse (by rintro ⟨b, hb, -⟩; rw [h] at hb; exact nomatch hb)
  | some b =>
    if hle : p.off + n ≤ b.size then .isTrue ⟨b, h, hle⟩
    else .isFalse (by rintro ⟨b', hb, hle'⟩; rw [h] at hb; exact hle (Option.some.inj hb ▸ hle'))

def create (m : Space) (kind : Kind) (n : Nat) (hn : n < limit) (byte : Nat → UInt8) : Ptr × Space :=
  (⟨m.blocks.next, 0⟩,
    {blocks := m.blocks.push ⟨kind, m.objects.next, 0, n, hn⟩
     objects := m.objects.push ⟨n, hn⟩
     bytes := Function.update m.bytes m.objects.next byte})

/-- How many bytes an object has from a position on. -/
def behind (m : Space) (object base : Nat) : Nat :=
  ((m.objects.cells object).map Object.length).getD 0 - base

/-- Map `n` bytes of an object from `base` on. Only those the object has are there. -/
def map (m : Space) (object base n : Nat) (hn : n < limit) : Ptr × Space :=
  (⟨m.blocks.next, 0⟩,
    {m with
      blocks := m.blocks.push ⟨.mapping, object, base, min n (m.behind object base), by omega⟩})

def drop (m : Space) (p : Ptr) : Space := {m with blocks := m.blocks.erase p.block}

/-- `free`: only the start of a live heap block can be freed. -/
def free (m : Space) (p : Ptr) : Except Fault Space :=
  match m.blocks.cells p.block with
  | none => .error .useAfterFree
  | some b => if b.kind = .heap ∧ p.off = 0 then .ok (m.drop p) else .error .invalidFree

/-- The object and the position behind `n` bytes at a pointer that may be null. -/
def span (m : Space) (p : Option Ptr) (n : Nat) : Except Fault (Nat × Nat) :=
  match p with
  | none => .error .nullPointer
  | some p =>
    match m.blocks.cells p.block with
    | none => .error .useAfterFree
    | some b => if p.off + n ≤ b.size then .ok (b.object, b.base + p.off) else .error .outOfBounds

def load (m : Space) (p : Option Ptr) (n : Nat) : Except Fault (Nat → UInt8) :=
  (m.span p n).map fun r k => m.bytes r.1 (r.2 + k)

def overwrite (bytes : Nat → Nat → UInt8) (o j n : Nat) (f : Nat → UInt8) : Nat → Nat → UInt8 :=
  fun o' k => if o' = o ∧ j ≤ k ∧ k < j + n then f (k - j) else bytes o' k

def store (m : Space) (p : Option Ptr) (n : Nat) (f : Nat → UInt8) : Except Fault Space :=
  (m.span p n).map fun r => {m with bytes := overwrite m.bytes r.1 r.2 n f}

/-- `memcpy`. -/
def copy (m : Space) (dst src : Option Ptr) (n : Nat) : Except Fault Space :=
  (m.load src n).bind fun f => m.store dst n f

end Space

variable {m m' : Space} {p q : Ptr} {n k : Nat}

theorem Space.InBounds.mono (h : m.InBounds p n) (hk : k ≤ n) : m.InBounds p k := by
  obtain ⟨b, hb, hle⟩ := h
  exact ⟨b, hb, by omega⟩

theorem Space.InBounds.add (h : m.InBounds p (k + n)) : m.InBounds (p.add k) n := by
  obtain ⟨b, hb, hle⟩ := h
  exact ⟨b, hb, by rw [Ptr.add_off]; omega⟩

theorem Space.inBounds_add_iff : m.InBounds (p.add k) n ↔ m.InBounds p (k + n) := by
  refine ⟨?_, Space.InBounds.add⟩
  rintro ⟨b, hb, hle⟩
  rw [Ptr.add_off] at hle
  exact ⟨b, hb, by omega⟩

/-- What is in bounds is shorter than any block can be. -/
theorem Space.InBounds.lt_limit (h : m.InBounds p n) : n < limit := by
  obtain ⟨b, -, hle⟩ := h
  have := b.size_lt
  omega

def Space.Keeps (m m' : Space) : Prop :=
  ∀ i b, m.blocks.cells i = some b → m'.blocks.cells i = some b

theorem Space.InBounds.keeps (h : m.InBounds p n) (hk : m.Keeps m') : m'.InBounds p n := by
  obtain ⟨b, hcell, hle⟩ := h
  exact ⟨b, hk _ _ hcell, hle⟩

/-- A range in a block that was there before was in bounds before. -/
theorem Space.InBounds.of_keeps (h : m'.InBounds p n) (hk : m.Keeps m')
    (hlive : (m.blocks.cells p.block).isSome) : m.InBounds p n := by
  obtain ⟨b, hcell, hle⟩ := h
  obtain ⟨b', hb'⟩ := Option.isSome_iff_exists.mp hlive
  obtain rfl : b' = b := Option.some.inj ((hk _ _ hb').symm.trans hcell)
  exact ⟨b', hb', hle⟩

theorem Space.InBounds.live (h : m.InBounds p n) : (m.blocks.cells p.block).isSome := by
  obtain ⟨b, hcell, -⟩ := h
  rw [hcell]
  rfl

theorem Space.Keeps.refl (m : Space) : m.Keeps m := fun _ _ h => h

theorem Space.Keeps.trans {m'' : Space} (h : m.Keeps m') (h' : m'.Keeps m'') : m.Keeps m'' :=
  fun i b hb => h' i b (h i b hb)

theorem Space.keeps_of_blocks (h : m'.blocks = m.blocks) : m.Keeps m' := by
  intro i b hb
  rw [h]
  exact hb

variable {n : Nat}

theorem Space.keeps_create (m : Space) (kind : Kind) (hn : n < limit) (byte : Nat → UInt8) :
    m.Keeps (m.create kind n hn byte).2 :=
  fun _ _ hb => push_of_some hb

theorem Space.behind_congr (h : m'.objects = m.objects) : m'.behind = m.behind := by
  funext object base
  rw [Space.behind, Space.behind, h]

theorem Space.keeps_map (m : Space) (object base : Nat) (hn : n < limit) :
    m.Keeps (m.map object base n hn).2 :=
  fun _ _ hb => push_of_some hb

theorem Space.InBounds.drop (h : m.InBounds p n) (hne : p.block ≠ q.block) :
    (m.drop q).InBounds p n := by
  obtain ⟨b, hcell, hle⟩ := h
  exact ⟨b, by rw [Space.drop, erase_of_ne _ hne]; exact hcell, hle⟩

theorem Space.not_inBounds_drop (h : p.block = q.block) : ¬ (m.drop q).InBounds p n := by
  rintro ⟨b, hcell, -⟩
  rw [Space.drop, h, erase_self] at hcell
  cases hcell

theorem Space.inBounds_push (A : Arena Block) (b : Block) (hm : m.blocks = A.push b) (k : Nat) :
    m.InBounds ⟨A.next, 0⟩ k ↔ k ≤ b.size := by
  simp [Space.InBounds, hm]

theorem Space.create_inBounds (m : Space) (kind : Kind) (hn : n < limit)
    (byte : Nat → UInt8) (k : Nat) :
    (m.create kind n hn byte).2.InBounds (m.create kind n hn byte).1 k ↔ k ≤ n :=
  Space.inBounds_push m.blocks ⟨kind, m.objects.next, 0, n, hn⟩ rfl k

theorem Space.map_inBounds (m : Space) (object base : Nat) (hn : n < limit) (k : Nat) :
    (m.map object base n hn).2.InBounds (m.map object base n hn).1 k ↔
      k ≤ n ∧ k ≤ m.behind object base :=
  (Space.inBounds_push m.blocks ⟨.mapping, object, base, min n (m.behind object base), by omega⟩ rfl k).trans Nat.le_min

theorem Space.span_ok_iff {r : Nat × Nat} {p : Option Ptr} :
    m.span p n = .ok r ↔ ∃ q b, p = some q ∧ m.blocks.cells q.block = some b ∧
      q.off + n ≤ b.size ∧ r = (b.object, b.base + q.off) := by
  unfold Space.span
  cases p with
  | none => simp
  | some q =>
    cases hb : m.blocks.cells q.block with
    | none => simp [hb]
    | some b =>
      by_cases hle : q.off + n ≤ b.size
      · simp [hb, hle, eq_comm]
      · simp [hb, hle]

theorem Space.span_of_inBounds (h : m.InBounds p n) : ∃ r, m.span (some p) n = .ok r := by
  obtain ⟨b, hb, hle⟩ := h
  exact ⟨_, Space.span_ok_iff.mpr ⟨p, b, rfl, hb, hle, rfl⟩⟩

theorem Space.inBounds_of_span {p : Option Ptr} {r : Nat × Nat} (h : m.span p n = .ok r) :
    ∃ q, p = some q ∧ m.InBounds q n := by
  obtain ⟨q, b, hq, hb, hle, -⟩ := Space.span_ok_iff.mp h
  exact ⟨q, hq, b, hb, hle⟩

theorem Space.load_of_inBounds (h : m.InBounds p n) : ∃ f, m.load (some p) n = .ok f := by
  obtain ⟨r, hr⟩ := Space.span_of_inBounds h
  exact ⟨_, by rw [Space.load, hr]; rfl⟩

theorem Space.store_of_inBounds (h : m.InBounds p n) (f : Nat → UInt8) :
    ∃ m', m.store (some p) n f = .ok m' := by
  obtain ⟨r, hr⟩ := Space.span_of_inBounds h
  exact ⟨_, by rw [Space.store, hr]; rfl⟩

variable {f : Nat → UInt8}

theorem ok_of_map {ε α β : Type} {x : Except ε α} {g : α → β} {b : β} (h : x.map g = .ok b) :
    ∃ a, x = .ok a ∧ g a = b := by
  cases x with
  | error e => cases h
  | ok a => exact ⟨a, rfl, Except.ok.inj h⟩

theorem Space.inBounds_of_load {p : Option Ptr} (h : m.load p n = .ok f) :
    ∃ q, p = some q ∧ m.InBounds q n := by
  obtain ⟨r, hr, -⟩ := ok_of_map h
  exact Space.inBounds_of_span hr

theorem Space.inBounds_of_store {p : Option Ptr} (h : m.store p n f = .ok m') :
    ∃ q, p = some q ∧ m.InBounds q n := by
  obtain ⟨r, hr, -⟩ := ok_of_map h
  exact Space.inBounds_of_span hr

theorem Space.store_blocks {p : Option Ptr} (h : m.store p n f = .ok m') :
    m'.blocks = m.blocks := by
  obtain ⟨r, -, rfl⟩ := ok_of_map h
  rfl

variable {dst src : Option Ptr}

theorem Space.copy_ok_iff :
    m.copy dst src n = .ok m' ↔ ∃ f, m.load src n = .ok f ∧ m.store dst n f = .ok m' := by
  unfold Space.copy
  cases m.load src n with
  | error e => simp [Except.bind]
  | ok f => simp [Except.bind]

theorem Space.copy_of_inBounds (hd : m.InBounds q n) (hs : m.InBounds p n) :
    ∃ m', m.copy (some q) (some p) n = .ok m' := by
  obtain ⟨f, hf⟩ := Space.load_of_inBounds hs
  obtain ⟨m', hm⟩ := Space.store_of_inBounds hd f
  exact ⟨m', Space.copy_ok_iff.mpr ⟨f, hf, hm⟩⟩

theorem Space.inBounds_of_copy (h : m.copy dst src n = .ok m') :
    (∃ q, dst = some q ∧ m.InBounds q n) ∧ (∃ p, src = some p ∧ m.InBounds p n) := by
  obtain ⟨f, hf, hm⟩ := Space.copy_ok_iff.mp h
  exact ⟨Space.inBounds_of_store hm, Space.inBounds_of_load hf⟩

theorem Space.copy_blocks (h : m.copy dst src n = .ok m') :
    m'.blocks = m.blocks := by
  obtain ⟨f, -, hm⟩ := Space.copy_ok_iff.mp h
  exact Space.store_blocks hm

theorem Space.copy_error {f : Fault} (hq : (m.blocks.cells q.block).isSome)
    (hp : (m.blocks.cells p.block).isSome) (h : m.copy (some q) (some p) n = .error f) :
    f = .outOfBounds := by
  have hspan (r : Ptr) (hr : (m.blocks.cells r.block).isSome) (e : Fault)
      (he : m.span (some r) n = .error e) : e = .outOfBounds := by
    obtain ⟨b, hb⟩ := Option.isSome_iff_exists.mp hr
    simp only [Space.span, hb] at he
    split at he
    · cases he
    · exact (Except.error.inj he).symm
  unfold Space.copy Space.load Space.store at h
  cases hs : m.span (some p) n with
  | error e =>
    rw [hs] at h
    exact Except.error.inj h ▸ hspan p hp e hs
  | ok r =>
    cases hd : m.span (some q) n with
    | error e =>
      rw [hs, hd] at h
      exact Except.error.inj h ▸ hspan q hq e hd
    | ok r' =>
      rw [hs, hd] at h
      exact absurd h (by simp [Except.map, Except.bind])

/-- The blocks of `K` are the same in both spaces, they show objects of `L`, and so are
the bytes of these. -/
structure Space.Agree (K L : Nat → Prop) (m m' : Space) : Prop where
  blocks : ∀ i, K i → m'.blocks.cells i = m.blocks.cells i
  shown : ∀ i b, K i → m.blocks.cells i = some b → L b.object
  bytes : ∀ o, L o → m'.bytes o = m.bytes o

theorem Space.Agree.load {K L : Nat → Prop} (h : m.Agree K L m') {p : Option Ptr}
    (hp : ∀ q, p = some q → K q.block) (n : Nat) : m'.load p n = m.load p n := by
  cases p with
  | none => rfl
  | some q =>
    have hK := hp q rfl
    unfold Space.load Space.span
    simp only [h.blocks q.block hK]
    cases hb : m.blocks.cells q.block with
    | none => rfl
    | some b =>
      simp only
      split
      · simp only [Except.map, h.bytes b.object (h.shown q.block b hK hb)]
      · rfl

/-- A mapping of the same object is the same new block in both. -/
theorem Space.Agree.map {K L : Nat → Prop} (h : m.Agree K L m') {object : Nat} (ho : L object)
    (hnext : m'.blocks.next = m.blocks.next) (hobjects : m'.objects = m.objects) (base : Nat)
    (hn : n < limit) :
    (m.map object base n hn).2.Agree (fun i => K i ∨ i = m.blocks.next) L (m'.map object base n hn).2 where
  blocks := by
    intro i hi
    simp only [Space.map, push_cells, hnext, Space.behind_congr hobjects]
    split
    · rfl
    · next hne => exact h.blocks i (hi.resolve_right hne)
  shown := by
    intro i b hi hb
    simp only [Space.map, push_cells] at hb
    split at hb
    · cases hb
      exact ho
    · next hne => exact h.shown i b (hi.resolve_right hne) hb
  bytes := h.bytes

/-- A copy of bytes from one place of the objects to another. -/
structure Move where
  dst : Nat × Nat
  src : Nat × Nat
  length : Nat

/-- Where the byte that a copy leaves at a position was before. -/
def Move.origin (v : Move) (o k : Nat) : Nat × Nat :=
  if o = v.dst.1 ∧ v.dst.2 ≤ k ∧ k < v.dst.2 + v.length then (v.src.1, v.src.2 + (k - v.dst.2))
  else (o, k)

def Move.apply (v : Move) (bytes : Nat → Nat → UInt8) : Nat → Nat → UInt8 :=
  fun o k => bytes (v.origin o k).1 (v.origin o k).2

theorem Space.copy_eq {d f : Nat × Nat} (hd : m.span dst n = .ok d)
    (hf : m.span src n = .ok f) :
    m.copy dst src n = .ok {m with bytes := Move.apply ⟨d, f, n⟩ m.bytes} := by
  have hbytes : overwrite m.bytes d.1 d.2 n (fun k => m.bytes f.1 (f.2 + k)) =
      Move.apply ⟨d, f, n⟩ m.bytes := by
    funext o k
    unfold overwrite Move.apply Move.origin
    by_cases h : o = d.1 ∧ d.2 ≤ k ∧ k < d.2 + n
    · simp [h]
    · simp [h]
  rw [Space.copy, Space.load, hf]
  simp only [Except.map, Except.bind, Space.store, hd]
  rw [hbytes]

variable {v : Move}

theorem Move.origin_add {t : Nat} (h : t < v.length) :
    v.origin v.dst.1 (v.dst.2 + t) = (v.src.1, v.src.2 + t) := by
  rw [Move.origin, if_pos ⟨rfl, Nat.le_add_right _ _, Nat.add_lt_add_left h _⟩, Nat.add_sub_cancel_left]

theorem Move.origin_start (h : 0 < v.length) : v.origin v.dst.1 v.dst.2 = v.src :=
  Move.origin_add h

theorem Move.origin_of_lt {o k : Nat} (h : k < v.dst.2) : v.origin o k = (o, k) :=
  if_neg fun hin => absurd hin.2.1 (by omega)

/-- A copy to the place it reads from changes nothing. -/
theorem Move.origin_self (h : v.src = v.dst) (o k : Nat) : v.origin o k = (o, k) := by
  unfold Move.origin
  split
  · next hin =>
    rw [h, ← hin.1, Nat.add_sub_cancel' hin.2.1]
  · rfl

/-- Two copies leave the same bytes at the positions that are looked at, whatever the
bytes were, exactly when they take them from the same places. -/
theorem Move.apply_agree_iff (v w : Move) (seen : Nat → Nat → Prop) :
    (∀ bytes o k, seen o k → v.apply bytes o k = w.apply bytes o k) ↔
      ∀ o k, seen o k → v.origin o k = w.origin o k := by
  constructor
  · intro h o k hs
    -- A one at the place where the first copy reads, and zeros elsewhere.
    have h1 := h (fun o' k' => if (o', k') = v.origin o k then 1 else 0) o k hs
    simp only [Move.apply, if_true] at h1
    by_contra hne
    rw [if_neg (Ne.symm hne)] at h1
    exact nomatch h1
  · intro h bytes o k hs
    unfold Move.apply
    rw [h o k hs]

end Mvgal.Blocks
