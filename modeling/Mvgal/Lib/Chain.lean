import Mathlib.Data.List.Nodup

/-! Intrusive doubly linked lists.

The nodes carry their own `next` and `prev` pointers (`Links`), and a list is
reached through its first node, or through its first and last (`Ends`). The
operations are the pointer assignments as C code writes them, in that order.
`Segment` says that the nodes of a Lean list are linked both ways between two
given neighbours; a segment that ends in null repeats no node
(`Segment.nodup`), so it is acyclic. Each operation is then an operation on the
list of nodes: `IsList.pushBack`, `IsList.popFront`, `IsList.unlink`. -/
namespace Mvgal.Chain
open List Chain

/-- The pointers stored in the nodes. `none` is the null pointer. -/
structure Links (ι : Type) where
  next : ι → Option ι
  prev : ι → Option ι

/-- The pointers stored in a list header. -/
structure Ends (ι : Type) where
  head : Option ι
  tail : Option ι
deriving DecidableEq

variable {ι : Type}

/-- The nodes of `l` are linked both ways, after `p` and before `q`. -/
def Segment (L : Links ι) : Option ι → List ι → Option ι → Prop
  | _, [], _ => True
  | p, a :: l, q => L.prev a = p ∧ L.next a = l.head?.or q ∧ Segment L (some a) l q

/-- The header reaches exactly the nodes of `l`, in this order, from either end. -/
structure IsList (L : Links ι) (e : Ends ι) (l : List ι) : Prop where
  head : e.head = l.head?
  tail : e.tail = l.getLast?
  segment : Segment L none l none

theorem isList_nil (L : Links ι) : IsList L ⟨none, none⟩ [] := ⟨rfl, rfl, trivial⟩

variable {L : Links ι} {l : List ι} {p q : Option ι}

/-- A segment reads only the pointers of its own nodes. -/
theorem Segment.frame {L' : Links ι} (h : Segment L p l q)
    (hn : ∀ a ∈ l, L'.next a = L.next a) (hp : ∀ a ∈ l, L'.prev a = L.prev a) :
    Segment L' p l q := by
  induction l generalizing p with
  | nil => trivial
  | cons a l ih =>
    obtain ⟨hprev, hnext, hrest⟩ := h
    refine ⟨(hp a (mem_cons_self ..)).trans hprev, (hn a (mem_cons_self ..)).trans hnext, ?_⟩
    exact ih hrest (fun b hb => hn b (mem_cons_of_mem a hb))
      (fun b hb => hp b (mem_cons_of_mem a hb))

variable {xs ys : List ι}

theorem segment_append : Segment L p (xs ++ ys) q ↔
      Segment L p xs (ys.head?.or q) ∧ Segment L (xs.getLast?.or p) ys q := by
  induction xs generalizing p with
  | nil => simp [Segment]
  | cons a xs ih =>
    have hhead : (xs ++ ys).head?.or q = xs.head?.or (ys.head?.or q) := by
      cases xs <;> simp
    have hlast : (a :: xs).getLast?.or p = xs.getLast?.or (some a) := by
      cases xs with
      | nil => rfl
      | cons b xs => simp [getLast?_cons]
    simp only [cons_append, Segment, hhead, hlast, ih, and_assoc]

variable {a : ι}

/-- Two segments that start at one node and end in null are the same: the
pointers decide what follows. -/
theorem Segment.unique {l' : List ι} {p' : Option ι}
    (h : Segment L p (a :: l) none) (h' : Segment L p' (a :: l') none) : l = l' := by
  induction l generalizing a l' p p' with
  | nil =>
    have hnext : l'.head?.or none = ([] : List ι).head?.or none := h'.2.1.symm.trans h.2.1
    cases l' with
    | nil => rfl
    | cons b l' => simp at hnext
  | cons b l ih =>
    have hnext : l'.head?.or none = (b :: l).head?.or none := h'.2.1.symm.trans h.2.1
    cases l' with
    | nil => simp at hnext
    | cons b' l' =>
      obtain rfl : b' = b := by simpa using hnext
      rw [ih h.2.2 h'.2.2]

/-- A segment that ends in null visits no node twice. -/
theorem Segment.nodup (h : Segment L p l none) : l.Nodup := by
  induction l generalizing p with
  | nil => exact nodup_nil
  | cons a l ih =>
    refine nodup_cons.mpr ⟨fun ha => ?_, ih h.2.2⟩
    -- A second visit of `a` would start the same tail again, one node later.
    obtain ⟨xs, ys, rfl⟩ := append_of_mem ha
    have hagain := (segment_append.mp h.2.2).2
    have hlen := congrArg length (h.unique hagain)
    simp only [length_append, length_cons] at hlen
    omega

variable {e : Ends ι}

theorem IsList.nodup (h : IsList L e l) : l.Nodup :=
  h.segment.nodup

theorem IsList.unique {l' : List ι} (h : IsList L e l) (h' : IsList L e l') : l = l' := by
  have hhead : l.head? = l'.head? := h.head.symm.trans h'.head
  cases l with
  | nil => exact (head?_eq_none_iff.mp hhead.symm).symm
  | cons a l =>
    cases l' with
    | nil => simp at hhead
    | cons a' l' =>
      obtain rfl : a = a' := by simpa using hhead
      rw [h.segment.unique h'.segment]

def nodes (L : Links ι) : Nat → Option ι → List ι
  | 0, _ | _ + 1, none => []
  | n + 1, some a => a :: nodes L n (L.next a)

/-- Following the pointers to the end reads the list back. -/
theorem Segment.nodes_eq (h : Segment L p l none) {n : Nat}
    (hn : l.length ≤ n) : nodes L n l.head? = l := by
  induction l generalizing p n with
  | nil => cases n <;> rfl
  | cons a l ih =>
    cases n with
    | zero => exact nomatch hn
    | succ n =>
      have hnext : L.next a = l.head? := by simpa using h.2.1
      rw [head?_cons, nodes, hnext, ih h.2.2 (by simpa using hn)]

theorem Segment.next_eq (h : Segment L p (xs ++ a :: ys) q) : L.next a = ys.head?.or q :=
  (segment_append.mp h).2.2.1

theorem Segment.prev_eq (h : Segment L p (xs ++ a :: ys) q) : L.prev a = xs.getLast?.or p :=
  (segment_append.mp h).2.1

variable [DecidableEq ι]

def Links.setNext (L : Links ι) (a : ι) (v : Option ι) : Links ι :=
  {L with next := Function.update L.next a v}

def Links.setPrev (L : Links ι) (a : ι) (v : Option ι) : Links ι :=
  {L with prev := Function.update L.prev a v}

/-- Assign the `next` of the node a pointer names, when it names one. -/
def Links.setNextAt (L : Links ι) (p : Option ι) (v : Option ι) : Links ι :=
  match p with
  | some a => L.setNext a v
  | none => L

def Links.setPrevAt (L : Links ι) (p : Option ι) (v : Option ι) : Links ι :=
  match p with
  | some a => L.setPrev a v
  | none => L

@[simp] theorem setNext_next (a b : ι) (v : Option ι) :
    (L.setNext a v).next b = if b = a then v else L.next b := by
  simp [Links.setNext, Function.update_apply]

@[simp] theorem setNext_prev (a : ι) (v : Option ι) : (L.setNext a v).prev = L.prev := rfl

@[simp] theorem setPrev_prev (a b : ι) (v : Option ι) :
    (L.setPrev a v).prev b = if b = a then v else L.prev b := by
  simp [Links.setPrev, Function.update_apply]

@[simp] theorem setPrev_next (a : ι) (v : Option ι) : (L.setPrev a v).next = L.next := rfl

@[simp] theorem setNextAt_prev (p v : Option ι) : (L.setNextAt p v).prev = L.prev := by
  cases p <;> rfl

@[simp] theorem setPrevAt_next (p v : Option ι) : (L.setPrevAt p v).next = L.next := by
  cases p <;> rfl

@[simp] theorem setNextAt_next (p v : Option ι) (b : ι) :
    (L.setNextAt p v).next b = if p = some b then v else L.next b := by
  cases p with
  | none => simp [Links.setNextAt]
  | some a => simp [Links.setNextAt, eq_comm]

@[simp] theorem setPrevAt_prev (p v : Option ι) (b : ι) :
    (L.setPrevAt p v).prev b = if p = some b then v else L.prev b := by
  cases p with
  | none => simp [Links.setPrevAt]
  | some a => simp [Links.setPrevAt, eq_comm]

section
variable (h : Segment L p l q)
include h

/-- Redirecting the last `next` of a segment changes what comes after it. -/
theorem Segment.redirect_next
    (hd : l.Nodup) (v : Option ι) : Segment (L.setNextAt l.getLast? v) p l v := by
  induction l generalizing p with
  | nil => trivial
  | cons a l ih =>
    obtain ⟨hprev, hnext, hrest⟩ := h
    have hd' := nodup_cons.mp hd
    cases l with
    | nil => exact ⟨by simpa using hprev, by simp, trivial⟩
    | cons b l =>
      refine ⟨by simpa using hprev, ?_, ih hrest hd'.2⟩
      have hne : (b :: l).getLast? ≠ some a := fun he => hd'.1 (mem_of_getLast? he)
      simpa [hne] using hnext

/-- Redirecting the first `prev` of a segment changes what comes before it. -/
theorem Segment.redirect_prev
    (hd : l.Nodup) (v : Option ι) : Segment (L.setPrevAt l.head? v) v l q := by
  cases l with
  | nil => trivial
  | cons a l =>
    obtain ⟨hprev, hnext, hrest⟩ := h
    refine ⟨by simp, by simpa using hnext, hrest.frame (fun b _ => by simp) (fun b hb => ?_)⟩
    have hne : a ≠ b := fun he => (nodup_cons.mp hd).1 (he ▸ hb)
    simp [hne]

theorem Segment.setNextAt_outside {t v : Option ι}
    (ht : ∀ a ∈ l, t ≠ some a) : Segment (L.setNextAt t v) p l q :=
  h.frame (fun a ha => by simp [ht a ha]) (fun a _ => by simp)

theorem Segment.setPrevAt_outside {t v : Option ι}
    (ht : ∀ a ∈ l, t ≠ some a) : Segment (L.setPrevAt t v) p l q :=
  h.frame (fun a _ => by simp) (fun a ha => by simp [ht a ha])

end

theorem Segment.set_outside (h : Segment L p l q) (ha : a ∉ l) (v w : Option ι) :
    Segment ((L.setNext a v).setPrev a w) p l q := by
  refine h.frame (fun b hb => ?_) fun b hb => ?_
  all_goals
    have hne : b ≠ a := fun he => ha (he ▸ hb)
    simp [hne]

/-! ### Operations on a list with a header -/

def pushBack (L : Links ι) (e : Ends ι) (a : ι) : Links ι × Ends ι :=
  (((L.setNext a none).setPrev a e.tail).setNextAt e.tail (some a),
    {head := if e.head = none then some a else e.head, tail := some a})

def pushFront (L : Links ι) (head : Option ι) (a : ι) : Links ι :=
  (L.setNext a head).setPrevAt head (some a)

def popFront (L : Links ι) (e : Ends ι) (a : ι) : Links ι × Ends ι :=
  let head := L.next a
  ((((L.setPrevAt head none).setNext a none).setPrev a none),
    {head := head, tail := if head = none then none else e.tail})

/-- Let the neighbours of a node point past it. The second assignment reads the
node's pointers again, as the source does. -/
def bypass (L : Links ι) (a : ι) : Links ι :=
  let L := L.setNextAt (L.prev a) (L.next a)
  L.setPrevAt (L.next a) (L.prev a)

/-- Take a node out of the list, wherever it stands, and clear its pointers. -/
def unlink (L : Links ι) (e : Ends ι) (a : ι) : Links ι × Ends ι :=
  (((bypass L a).setNext a none).setPrev a none,
    {head := if L.prev a = none then L.next a else e.head,
     tail := if L.next a = none then L.prev a else e.tail})

theorem IsList.pushBack (h : IsList L e l)
    (ha : a ∉ l) : IsList (pushBack L e a).1 (pushBack L e a).2 (l ++ [a]) := by
  have hout := h.segment.set_outside ha none e.tail
  have hne : e.tail ≠ some a := fun he => ha (mem_of_getLast? (h.tail.symm.trans he))
  refine ⟨?_, by simp [Chain.pushBack], ?_⟩
  · cases l with
    | nil | cons b l => simp [Chain.pushBack, h.head]
  · refine segment_append.mpr ⟨?_, ?_, ?_, trivial⟩
    · simp only [Chain.pushBack, h.tail]
      rw [h.tail] at hout
      exact hout.redirect_next h.nodup _
    · simp [Chain.pushBack, h.tail]
    · simp [Chain.pushBack, hne]

/-- Insertion at the head, for a node whose `prev` is null. -/
theorem Segment.pushFront (h : Segment L none l none)
    (ha : a ∉ l) (hp : L.prev a = none) : Segment (pushFront L l.head? a) none (a :: l) none := by
  have hout : Segment (L.setNext a l.head?) none l none :=
    h.frame (fun b hb => by have : b ≠ a := fun he => ha (he ▸ hb); simp [this]) (fun b _ => by simp)
  have hne : l.head? ≠ some a := fun he => ha (mem_of_mem_head? he)
  refine ⟨?_, by simp [Chain.pushFront], hout.redirect_prev h.nodup _⟩
  simp [Chain.pushFront, hne, hp]

/-- Pointing past a node leaves the rest of the list linked. -/
theorem Segment.bypass (h : Segment L none (xs ++ a :: ys) none) : Segment (bypass L a) none (xs ++ ys) none := by
  have hd := h.nodup
  have hxy := nodup_append.mp hd
  have hys := nodup_cons.mp hxy.2.1
  have hprev : L.prev a = xs.getLast? := by simpa using h.prev_eq
  have hnext : L.next a = ys.head? := by simpa using h.next_eq
  have hne : xs.getLast? ≠ some a := fun he =>
    hxy.2.2 a (mem_of_getLast? he) a (mem_cons_self ..) rfl
  have hby : Chain.bypass L a =
      (L.setNextAt xs.getLast? ys.head?).setPrevAt ys.head? xs.getLast? := by
    simp only [Chain.bypass, setNextAt_prev, setNextAt_next, hprev, hnext, if_neg hne]
  obtain ⟨hleft, -, -, hright⟩ := segment_append.mp h
  -- The last node before `a` gets a new successor; the nodes after `a` do not change.
  have hleft' : Segment (L.setNextAt xs.getLast? ys.head?) none xs ys.head? :=
    hleft.redirect_next hxy.1 _
  have hright' : Segment (L.setNextAt xs.getLast? ys.head?) (some a) ys none :=
    hright.setNextAt_outside fun b hb he =>
      hxy.2.2 b (mem_of_getLast? he) b (mem_cons_of_mem a hb) rfl
  rw [hby]
  refine segment_append.mpr ⟨?_, ?_⟩
  · rw [Option.or_none]
    exact hleft'.setPrevAt_outside fun b hb he =>
      hxy.2.2 b hb b (mem_cons_of_mem a (mem_of_mem_head? he)) rfl
  · rw [Option.or_none]
    exact hright'.redirect_prev hys.2 _

theorem erase_split (hd : (xs ++ a :: ys).Nodup) :
    (xs ++ a :: ys).erase a = xs ++ ys := by
  have ha : a ∉ xs := fun hx =>
    (nodup_append.mp hd).2.2 a hx a (mem_cons_self ..) rfl
  rw [erase_append_right _ ha, erase_cons_head]

theorem Segment.bypass_mem (h : Segment L none l none)
    (ha : a ∈ l) : Segment (Chain.bypass L a) none (l.erase a) none := by
  obtain ⟨xs, ys, rfl⟩ := append_of_mem ha
  rw [erase_split h.nodup]
  exact h.bypass

theorem IsList.unlink (h : IsList L e l)
    (ha : a ∈ l) : IsList (unlink L e a).1 (unlink L e a).2 (l.erase a) := by
  have hmem : a ∉ l.erase a := h.nodup.not_mem_erase
  have hseg := h.segment.bypass_mem ha
  obtain ⟨xs, ys, rfl⟩ := append_of_mem ha
  have hprev : L.prev a = xs.getLast? := by simpa using h.segment.prev_eq
  have hnext : L.next a = ys.head? := by simpa using h.segment.next_eq
  refine ⟨?_, ?_, hseg.set_outside hmem none none⟩
  · rw [erase_split h.nodup]
    cases xs with
    | nil => simp [unlink, hprev, hnext]
    | cons b xs => simp [unlink, hprev, h.head, getLast?_cons]
  · rw [erase_split h.nodup]
    cases ys with
    | nil => simp [unlink, hprev, hnext]
    | cons b ys => simp [unlink, hnext, h.tail, getLast?_append, getLast?_cons]

theorem IsList.popFront (h : IsList L e (a :: l)) :
    IsList (popFront L e a).1 (popFront L e a).2 l := by
  have hd := nodup_cons.mp h.nodup
  have hnext : L.next a = l.head? := by simpa using h.segment.2.1
  have hrest : Segment (L.setPrevAt l.head? none) none l none := h.segment.2.2.redirect_prev hd.2 _
  refine ⟨by simp [Chain.popFront, hnext], ?_, ?_⟩
  · cases l with
    | nil => simp [Chain.popFront, hnext]
    | cons b l => simp [Chain.popFront, hnext, h.tail, getLast?_cons]
  · simp only [Chain.popFront, hnext]
    exact hrest.set_outside hd.1 none none

/-! ### Lists that hold a set of nodes -/

/-- From `head` on, linked both ways, the list holds every node of the set once and no
other. -/
def Holds (L : Links ι) (head : Option ι) (live : ι → Prop) : Prop :=
  ∃ l, l.Nodup ∧ Segment L none l none ∧ head = l.head? ∧ ∀ a, a ∈ l ↔ live a

omit [DecidableEq ι] in
theorem holds_nil (L : Links ι) : Holds L none fun _ => False :=
  ⟨[], nodup_nil, trivial, rfl, fun _ => by simp⟩

variable {live : ι → Prop} {head : Option ι}

omit [DecidableEq ι] in
theorem Holds.congr {live' : ι → Prop} (h : Holds L head live)
    (hlive : ∀ a, live' a ↔ live a) : Holds L head live' := by
  obtain ⟨l, hd, hseg, hhead, hmem⟩ := h
  exact ⟨l, hd, hseg, hhead, fun a => (hmem a).trans (hlive a).symm⟩

omit [DecidableEq ι] in
theorem Holds.head_prev (h : Holds L (some a) live) : L.prev a = none := by
  obtain ⟨l, -, hseg, hhead, -⟩ := h
  cases l with
  | nil => exact nomatch hhead
  | cons b l =>
    obtain rfl : a = b := Option.some.inj hhead
    exact hseg.1

omit [DecidableEq ι] in
theorem Holds.of_none (h : Holds L none live) (a : ι) : ¬ live a := by
  obtain ⟨l, -, -, hhead, hmem⟩ := h
  obtain rfl := head?_eq_none_iff.mp hhead.symm
  exact fun ha => absurd ((hmem a).mpr ha) (by simp)

theorem Holds.pushFront (h : Holds L head live) (ha : ¬ live a) :
    Holds (pushFront ((L.setNext a none).setPrev a none) head a) (some a) fun b => b = a ∨ live b := by
  obtain ⟨l, hd, hseg, rfl, hmem⟩ := h
  have hal : a ∉ l := fun hal => ha ((hmem a).mp hal)
  have hout := hseg.set_outside hal none none
  exact ⟨a :: l, nodup_cons.mpr ⟨hal, hd⟩, hout.pushFront hal (by simp), rfl, fun b => by simp [hmem]⟩

theorem Holds.bypass (h : Holds L head live) (ha : live a) :
    Holds (Chain.bypass L a) (if L.prev a = none then L.next a else head) fun b => b ≠ a ∧ live b := by
  obtain ⟨l, hd, hseg, rfl, hmem⟩ := h
  have hal : a ∈ l := (hmem a).mpr ha
  refine ⟨l.erase a, hd.erase a, hseg.bypass_mem hal, ?_, fun b => by rw [hd.mem_erase_iff, hmem]⟩
  obtain ⟨xs, ys, rfl⟩ := append_of_mem hal
  have hprev : L.prev a = xs.getLast? := by simpa using hseg.prev_eq
  have hnext : L.next a = ys.head? := by simpa using hseg.next_eq
  rw [erase_split hd]
  cases xs with
  | nil => simp [hprev, hnext]
  | cons b xs => simp [hprev, getLast?_cons]

end Mvgal.Chain
