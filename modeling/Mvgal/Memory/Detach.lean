import Mvgal.Memory.CopyPaths
import Mvgal.Memory.Orderly

/-! Detaching an alias (`mvgal_memory_alias_detach`).

The alias gets a block of its own and the parent is released. The bytes are copied from
the start of the parent's memory, not from the window of the alias, and the descriptor
and the bindings stay. So a detach is what it is meant to be exactly when the window
shows the bytes at the start of the parent, the memory is no DMA-BUF, and no binding of
the alias leads into the parent's memory (`detach_right_iff`). That the two buffers
cannot disturb each other any more is an invariant of all later calls (`Apart`): the
block of the alias is the only one that shows its object, and no older buffer points to
it. -/
namespace Mvgal.Memory
open Arena Buffer
open Blocks (Ptr Space Fault Block limit)

def State.view (m : State) (c : Nat) (sys : System) (offset size : UInt64) :
    Except Fault (Except Error (Nat → UInt8)) × Except Fault (Except Error (Option Ptr)) :=
  ((memoryRead sys m c offset size).map Prod.fst, (memoryMap sys m c offset size).map Prod.fst)

inductive LaterOp where
  | write (sys : System) (offset size : UInt64) (data : Nat → UInt8)
  | unmap
  | free

/-- A later call, on the former alias or on the former parent. -/
structure LaterCall where
  onAlias : Bool
  op : LaterOp

def LaterCall.target (a : LaterCall) (b p : Nat) : Nat := if a.onAlias then b else p

def LaterCall.other (a : LaterCall) (b p : Nat) : Nat := if a.onAlias then p else b

def LaterOp.run (m : State) (c : Nat) : LaterOp → Option State
  | .write sys offset size data => ((memoryWrite sys m c offset size data).map Prod.snd).toOption
  | .unmap => (memoryUnmap m c).toOption
  | .free => (memoryFree m c).toOption

def laterCall (b p : Nat) (m : State) (a : LaterCall) : Option State := a.op.run m (a.target b p)

/-- The call does not change what the other buffer reads or maps. -/
def Undisturbed (b p : Nat) (m : State) (a : LaterCall) : Prop :=
  ∀ m', laterCall b p m a = some m' → m'.view (a.other b p) = m.view (a.other b p)

/-- A successful detach of the alias `b` of `p`. -/
structure Detach (sys : System) (m : State) where
  b : Nat
  buffer : Buffer
  p : Nat
  parent : Buffer
  after : State
  orderly : Orderly m
  live : m.store.cells b = some buffer
  attached : buffer.parent? = some p
  parent_live : m.store.cells p = some parent
  done : memoryAliasDetach sys m b = .ok (.success, after)

variable {sys : System} {m m' : State} {x y : Buffer} {b p B O : Nat} {s s' : Space}

namespace Detach

/-- The alias has the bytes it had, holds nothing of the parent, and neither buffer can
disturb the other. -/
structure Right (D : Detach sys m) : Prop where
  contents : ∀ l, m.contents D.b = .ok l → D.after.contents D.b = .ok l
  unlinked : ∃ x, D.after.store.cells D.b = some x ∧ x.parent? = none ∧
    (∀ r r', x.Refers r → D.parent.Refers r' → r.block ≠ r'.block) ∧
    ∀ fd, x.dmabufFd = some fd → D.parent.dmabufFd ≠ some fd
  independent : ∀ calls, Run.Admitted (laterCall D.b D.p) (Undisturbed D.b D.p) D.after calls

/-- The bytes at the start of the parent's memory. A parent that is not mapped leaves the
new block as it is. -/
def copied (D : Detach sys m) : Except Fault (List UInt8) :=
  match D.parent.hostPtr with
  | none => .ok ((List.range D.buffer.size.toNat).map sys.garbage)
  | some r => (m.space.load (some r) D.buffer.size.toNat).map fun f =>
      (List.range D.buffer.size.toNat).map f

/-- When a detach is what it is meant to be. -/
structure Ok (D : Detach sys m) : Prop where
  bytes : ∀ l, m.contents D.b = .ok l → D.copied = .ok l
  bindings : ∀ i r r', (D.buffer.binding i).mapping = some r ∨ (D.buffer.binding i).gpuAddress = some r →
    D.parent.Refers r' → r.block ≠ r'.block
  dmabufFd : D.buffer.dmabufFd = none

end Detach

/-! ### What a buffer sees -/

/-- A mapping returns the same in spaces that look the same to the buffer. -/
theorem map_agree {K L : Nat → Prop} (h : s.Agree K L s') (hhost : ∀ r, x.hostPtr = some r → K r.block)
    (hfd : ∀ fd, x.dmabufFd = some fd → L fd ∧ s'.blocks.next = s.blocks.next ∧ s'.objects = s.objects)
    (sys : System) (offset size : UInt64) :
    (x.map sys s' offset size).1 = (x.map sys s offset size).1 ∧
    (x.map sys s' offset size).2.1 = (x.map sys s offset size).2.1 ∧
    ∃ K', (x.map sys s offset size).2.2.Agree K' L (x.map sys s' offset size).2.2 ∧
      ∀ r, (x.map sys s offset size).2.1.hostPtr = some r → K' r.block := by
  unfold map
  split
  · exact ⟨rfl, rfl, K, h, hhost⟩
  · split
    · next fd hx =>
      obtain ⟨hL, hnext, hobjects⟩ := hfd fd hx
      by_cases hc : Mappable sys (if size = 0 then x.size else size)
      · rw [mmap_of_mappable hc, mmap_of_mappable hc]
        have hptr : (s'.map fd offset.toNat _ hc.2.2).1 = (s.map fd offset.toNat _ hc.2.2).1 :=
          congrArg (Ptr.mk · 0) hnext
        refine ⟨congrArg (fun q => Except.ok (some q)) hptr, congrArg x.mapAt hptr, _,
          h.map hL hnext hobjects offset.toNat hc.2.2, fun r hr => ?_⟩
        cases hr
        exact .inr rfl
      · rw [mmap_of_not_mappable hc, mmap_of_not_mappable hc]
        exact ⟨rfl, rfl, K, h, hhost⟩
    · split
      · exact ⟨rfl, rfl, K, h, hhost⟩
      · exact ⟨rfl, rfl, K, h, hhost⟩

theorem ensureMapped_agree {K L : Nat → Prop} (h : s.Agree K L s')
    (hhost : ∀ r, x.hostPtr = some r → K r.block)
    (hfd : ∀ fd, x.dmabufFd = some fd → L fd ∧ s'.blocks.next = s.blocks.next ∧ s'.objects = s.objects)
    (sys : System) (offset size : UInt64) :
    (x.ensureMapped sys s' offset size).1 = (x.ensureMapped sys s offset size).1 ∧
    (x.ensureMapped sys s' offset size).2.1 = (x.ensureMapped sys s offset size).2.1 ∧
    ∃ K', (x.ensureMapped sys s offset size).2.2.Agree K' L (x.ensureMapped sys s' offset size).2.2 ∧
      ∀ r, (x.ensureMapped sys s offset size).2.1.hostPtr = some r → K' r.block := by
  unfold ensureMapped
  split
  · obtain ⟨h₁, h₂, h₃⟩ := map_agree h hhost hfd sys offset size
    exact ⟨congrArg (Except.map fun _ => ()) h₁, h₂, h₃⟩
  · exact ⟨rfl, rfl, K, h, hhost⟩

/-- A buffer reads and maps the same when its structure and the memory it can reach stay. -/
theorem view_agree {K L : Nat → Prop} {c : Nat} (hcell : m'.store.cells c = m.store.cells c)
    (h : m.space.Agree K L m'.space)
    (hhost : ∀ x r, m.store.cells c = some x → x.hostPtr = some r → K r.block)
    (hfd : ∀ x fd, m.store.cells c = some x → x.dmabufFd = some fd →
      L fd ∧ m'.space.blocks.next = m.space.blocks.next ∧ m'.space.objects = m.space.objects) :
    m'.view c = m.view c := by
  funext sys offset size
  have hread : m'.read c = m.read c := by rw [State.read, State.read, hcell]
  cases hx : m.store.cells c with
  | none =>
    have hnone : m.read c = .error .useAfterFree := by rw [State.read, hx]
    simp only [State.view, memoryRead, memoryMap, hread, hnone, Except.bind, Except.map]
    by_cases h0 : size = 0
    · simp only [h0, if_true]
    · simp only [h0, if_false]
  | some x =>
    have hsome : m.read c = .ok x := read_of_live hx
    have hhost := fun r => hhost x r hx
    have hfd := fun fd => hfd x fd hx
    have hmap : (memoryMap sys m' c offset size).map Prod.fst = (memoryMap sys m c offset size).map Prod.fst := by
      simp only [memoryMap, hread, hsome, Except.map, (map_agree h hhost hfd sys offset size).1]
    have hread : (memoryRead sys m' c offset size).map Prod.fst =
        (memoryRead sys m c offset size).map Prod.fst := by
      unfold memoryRead
      split
      · rfl
      · obtain ⟨h₁, h₂, K', hagree, hptr⟩ := ensureMapped_agree h hhost hfd sys offset size
        simp only [hread, hsome, Except.bind]
        cases hr : x.ensureMapped sys m.space offset size with
        | mk e rest =>
          cases hr' : x.ensureMapped sys m'.space offset size with
          | mk e' rest' =>
            obtain ⟨x₁, s₁⟩ := rest
            obtain ⟨x₁', s₁'⟩ := rest'
            rw [hr, hr'] at h₁ h₂ hagree
            rw [hr] at hptr
            obtain rfl : e' = e := h₁
            obtain rfl : x₁' = x₁ := h₂
            cases e' with
            | error e => rfl
            | ok _ =>
              simp only
              split
              · rfl
              · have hload := hagree.load (p := x₁'.hostPtr.map (·.add offset.toNat)) (fun q hq => by
                  obtain ⟨r, hr, rfl⟩ := Option.map_eq_some_iff.mp hq
                  exact hptr r hr) size.toNat
                rw [hload]
                cases s₁.load (x₁'.hostPtr.map (·.add offset.toNat)) size.toNat <;> rfl
    simp only [State.view, hread, hmap]

/-- Block `B` belongs to `b` alone, and `p` and its ancestors have nothing to do with it. -/
structure Apart (b p B O : Nat) (m : State) : Prop where
  parentSide : Confined (· ≤ p) b (· = B) m
  aliasSide : Confined (· = b) p (· ≠ B) m
  shown : ∀ i K, m.space.blocks.cells i = some K → (K.object = O ↔ i = B)
  aliasFd : ∀ x, m.store.cells b = some x → x.dmabufFd = none
  parentFd : ∀ y, m.store.cells p = some y → y.dmabufFd ≠ some O
  created : B < m.space.blocks.next

section
variable (h : Apart b p B O m)
include h

theorem Apart.fades {z : Nat} {keep : Nat → Prop} (hf : Fades z keep m m') :
    Apart b p B O m' where
  parentSide := h.parentSide.fades hf
  aliasSide := h.aliasSide.fades hf
  shown := fun i K hK => h.shown i K (hf.blocks i K hK)
  aliasFd := by
    intro x' hx'
    obtain ⟨x, hx, hfade⟩ := hf.cells b x' hx'
    rw [hfade.dmabufFd]
    exact h.aliasFd x hx
  parentFd := by
    intro y' hy'
    obtain ⟨y, hy, hfade⟩ := hf.cells p y' hy'
    rw [hfade.dmabufFd]
    exact h.parentFd y hy
  created := by
    rw [hf.next]
    exact h.created

/-- What is outside block `B` and its object looks the same. -/
theorem Apart.view_parent (hcell : m'.store.cells p = m.store.cells p)
    (hblocks : ∀ i, i ≠ B → m'.space.blocks.cells i = m.space.blocks.cells i)
    (hbytes : ∀ o, o ≠ O → m'.space.bytes o = m.space.bytes o)
    (hnext : m'.space.blocks.next = m.space.blocks.next) (hobjects : m'.space.objects = m.space.objects) :
    m'.view p = m.view p := by
  have hagree : m.space.Agree (· ≠ B) (· ≠ O) m'.space :=
    ⟨hblocks, fun i K hi hK ho => hi ((h.shown i K hK).mp ho), hbytes⟩
  exact view_agree hcell hagree (fun y r hy hr => (h.parentSide.cells p y (Nat.le_refl p) hy).hostPtr r hr)
    fun y fd hy hfd => ⟨fun ho => h.parentFd y hy (ho ▸ hfd), hnext, hobjects⟩

/-- Block `B` and its object look the same. -/
theorem Apart.view_alias (hcell : m'.store.cells b = m.store.cells b)
    (hblock : m'.space.blocks.cells B = m.space.blocks.cells B) (hbytes : m'.space.bytes O = m.space.bytes O) :
    m'.view b = m.view b := by
  have hagree : m.space.Agree (· = B) (· = O) m'.space :=
    ⟨fun i hi => hi ▸ hblock, fun i K hi hK => (h.shown i K hK).mpr hi, fun o ho => ho ▸ hbytes⟩
  exact view_agree hcell hagree
    (fun x r hx hr => not_not.mp ((h.aliasSide.cells b x rfl hx).hostPtr r hr))
    fun x fd hx hfd => absurd ((h.aliasFd x hx).symm.trans hfd) (by simp)

/-- Taking away from the alias does not disturb the parent. -/
theorem Apart.faded_alias (hf : Fades p (· ≠ B) m m') : m'.view p = m.view p :=
  h.view_parent hf.same hf.kept (fun o _ => congrFun hf.bytes o) hf.next hf.objects

/-- Taking away from the parent does not disturb the alias. -/
theorem Apart.faded_parent (hf : Fades b (· = B) m m') : m'.view b = m.view b :=
  h.view_alias hf.same (hf.kept B rfl) (congrFun hf.bytes O)

end

variable {x' : Buffer}

theorem Confined.write {T keep : Nat → Prop} {z c : Nat} {w : UInt64}
    {bytes : Nat → Nat → UInt8} (h : Confined T z keep m) (hx : m.store.cells c = some x)
    (hopen : x.Opens m.space x' s') (hnew : T c → x.dmabufFd ≠ none → ¬ keep m.space.blocks.next) :
    Confined T z keep (m.put c {x' with bytesWritten := w} {s' with bytes := bytes}) := by
  refine ⟨h.outside, fun i y hi hy => ?_⟩
  obtain ⟨rfl, -, -, rfl⟩ | ⟨-, hy⟩ := of_modify hy
  · obtain ⟨parent, aliases, hostPtr, originalPtr⟩ := h.cells i x hi hx
    obtain ⟨rfl, -⟩ | ⟨fd, base, n, hn, hfd, rfl, -⟩ := hopen
    · exact ⟨parent, aliases, hostPtr, originalPtr⟩
    · refine ⟨parent, aliases, fun r hr => ?_, originalPtr⟩
      cases hr
      exact hnew hi (by simp [hfd])
  · exact h.cells i y hi hy

/-- The block that a mapping for a write adds shows the descriptor's object. -/
theorem Buffer.Opens.blocks (h : x.Opens s x' s') {i : Nat} {K : Block}
    (hK : s'.blocks.cells i = some K) :
    s.blocks.cells i = some K ∨ i = s.blocks.next ∧ x.dmabufFd = some K.object := by
  obtain ⟨-, rfl⟩ | ⟨fd, base, n, hn, hfd, -, rfl⟩ := h
  · exact .inl hK
  · obtain ⟨hi, rfl⟩ | hK := of_push hK
    · exact .inr ⟨hi, hfd⟩
    · exact .inl hK

/-- A write on one of the two buffers keeps them apart. -/
theorem Apart.write {c : Nat} {w : UInt64} {bytes : Nat → Nat → UInt8} (h : Apart b p B O m)
    (hx : m.store.cells c = some x) (hopen : x.Opens m.space x' s')
    (hfd : ∀ fd, x.dmabufFd = some fd → fd ≠ O ∧ c ≠ b) :
    Apart b p B O (m.put c {x' with bytesWritten := w} {s' with bytes := bytes}) := by
  have hnext : m.space.blocks.next ≠ B := (Nat.ne_of_lt h.created).symm
  have hcell (i : Nat) (y : Buffer)
      (hy : (m.put c {x' with bytesWritten := w} {s' with bytes := bytes}).store.cells i = some y) :
      ∃ y₀, m.store.cells i = some y₀ ∧ y.dmabufFd = y₀.dmabufFd := by
    obtain ⟨rfl, -, -, rfl⟩ | ⟨-, hy⟩ := of_modify hy
    · exact ⟨x, hx, hopen.alters.dmabufFd⟩
    · exact ⟨y, hy, rfl⟩
  constructor
  case parentSide => exact h.parentSide.write hx hopen fun _ _ => hnext
  case aliasSide =>
    refine h.aliasSide.write hx hopen fun hc hsome => ?_
    obtain ⟨fd, hxfd⟩ := Option.ne_none_iff_exists'.mp hsome
    exact absurd hc (hfd fd hxfd).2
  case shown =>
    intro i K hK
    obtain hold | ⟨rfl, hnew⟩ := hopen.blocks hK
    · exact h.shown i K hold
    · exact iff_of_false (hfd K.object hnew).1 hnext
  case aliasFd =>
    intro y hy
    obtain ⟨y₀, hy₀, heq⟩ := hcell b y hy
    rw [heq]
    exact h.aliasFd y₀ hy₀
  case parentFd =>
    intro y hy
    obtain ⟨y₀, hy₀, heq⟩ := hcell p y hy
    rw [heq]
    exact h.parentFd y₀ hy₀
  case created =>
    obtain ⟨-, rfl⟩ | ⟨fd, base, n, hn, -, -, rfl⟩ := hopen
    · exact h.created
    · exact Nat.lt_succ_of_lt h.created

theorem put_of_ne {c d : Nat} (h : d ≠ c) : (m.put c y s).store.cells d = m.store.cells d :=
  modify_of_ne m.store _ h

section
variable (h : Apart b p B O m)
include h

/-- A write on the alias reaches no other object than its own. -/
theorem Apart.write_alias {offset size : UInt64} {data : Nat → UInt8} {e : Error}
    (hrun : memoryWrite sys m b offset size data = .ok (e, m')) :
    Apart b p B O m' ∧ m'.view p = m.view p := by
  obtain rfl | ⟨x, x', s', n, bytes, hx, hopen, htouch, rfl⟩ := memoryWrite_inv hrun
  · exact ⟨h, rfl⟩
  · have hnone := h.aliasFd x hx
    refine ⟨h.write hx hopen fun fd hfd => absurd (hnone.symm.trans hfd) (by simp), ?_⟩
    obtain ⟨rfl, rfl⟩ | ⟨fd, base, n, hn, hfd, -⟩ := hopen
    · refine h.view_parent (put_of_ne fun hpb => h.aliasSide.outside hpb) (fun _ _ => rfl) (fun o ho => ?_)
        rfl rfl
      obtain hsame | ⟨r, K, hr, hK, rfl⟩ := htouch o
      · exact hsame
      · have hB := not_not.mp ((h.aliasSide.cells b x' rfl hx).hostPtr r hr)
        exact absurd ((h.shown r.block K hK).mpr hB) ho
    · cases hnone.symm.trans hfd

/-- A write on the parent does not reach the object of the alias. -/
theorem Apart.write_parent {offset size : UInt64} {data : Nat → UInt8} {e : Error}
    (hrun : memoryWrite sys m p offset size data = .ok (e, m')) :
    Apart b p B O m' ∧ m'.view b = m.view b := by
  have hpb : p ≠ b := h.aliasSide.outside
  obtain rfl | ⟨x, x', s', n, bytes, hx, hopen, htouch, rfl⟩ := memoryWrite_inv hrun
  · exact ⟨h, rfl⟩
  · have hfd (fd : Nat) (hfd : x.dmabufFd = some fd) : fd ≠ O := fun ho => h.parentFd x hx (ho ▸ hfd)
    have hapart : Apart b p B O (m.put p {x' with bytesWritten := n} {s' with bytes := bytes}) :=
      h.write hx hopen fun fd hxfd => ⟨hfd fd hxfd, hpb⟩
    refine ⟨hapart, h.view_alias (put_of_ne hpb.symm) ?_ ?_⟩
    · show s'.blocks.cells B = _
      obtain ⟨-, rfl⟩ | ⟨fd, base, n, hn, -, -, rfl⟩ := hopen
      · rfl
      · simp only [Space.map, push_cells, if_neg (Nat.ne_of_lt h.created)]
    · have hbytes : s'.bytes = m.space.bytes := by
        obtain ⟨-, rfl⟩ | ⟨fd, base, n, hn, -, -, rfl⟩ := hopen
        · rfl
        · rfl
      obtain hsame | ⟨r, K, hr, hK, ho⟩ := htouch O
      · exact hsame.trans (congrFun hbytes O)
      · -- The pointer would lead into the alias's block.
        have hB := (hapart.shown r.block K hK).mp ho
        have hcell : (m.put p {x' with bytesWritten := n} {s' with bytes := bytes}).store.cells p =
            some {x' with bytesWritten := n} := by
          show (m.store.modify p _).cells p = _
          rw [modify_self, hx]
          rfl
        exact absurd hB ((hapart.parentSide.cells p _ (Nat.le_refl p) hcell).hostPtr r hr)

theorem Apart.later {a : LaterCall} (hrun : laterCall b p m a = some m') :
    Apart b p B O m' ∧ m'.view (a.other b p) = m.view (a.other b p) := by
  obtain ⟨onAlias, op⟩ := a
  cases onAlias with
  | true =>
    cases op with
    | write sys offset size data =>
      obtain ⟨e, hrun⟩ := snd_eq_some hrun
      exact h.write_alias hrun
    | unmap =>
      have hf := memoryUnmap_fades h.aliasSide rfl (toOption_eq_some hrun)
      exact ⟨h.fades hf, h.faded_alias hf⟩
    | free =>
      have hf := bufferRelease_fades h.aliasSide rfl (toOption_eq_some hrun)
      exact ⟨h.fades hf, h.faded_alias hf⟩
  | false =>
    cases op with
    | write sys offset size data =>
      obtain ⟨e, hrun⟩ := snd_eq_some hrun
      exact h.write_parent hrun
    | unmap =>
      have hf := memoryUnmap_fades h.parentSide (Nat.le_refl p) (toOption_eq_some hrun)
      exact ⟨h.fades hf, h.faded_parent hf⟩
    | free =>
      have hf := bufferRelease_fades h.parentSide (Nat.le_refl p) (toOption_eq_some hrun)
      exact ⟨h.fades hf, h.faded_parent hf⟩

theorem Apart.independent (calls : List LaterCall) :
    Run.Admitted (laterCall b p) (Undisturbed b p) m calls := by
  induction calls generalizing m with
  | nil => trivial
  | cons a rest ih =>
    intro m' hrun
    exact ⟨fun m'' hrun' => (h.later hrun').2, ih (h.later hrun).1⟩

end

/-! ### What a detach does -/

namespace Detach

variable (D : Detach sys m)

theorem sits : Sits m D.b D.buffer := D.orderly.cells D.b D.buffer D.live

theorem parent_sits : Sits m D.p D.parent := D.orderly.cells D.p D.parent D.parent_live

theorem parent_lt : D.p < D.b := (D.sits.parent D.p D.attached).1

/-- The steps of a detach: a new block, the copy, the release of the parent, and the
assignments to the alias. -/
theorem steps : ∃ (hn : D.buffer.size.toNat < limit) (s : Space) (m₁ : State),
    privateCopy (m.space.create .heap D.buffer.size.toNat hn sys.garbage).2 ⟨m.space.blocks.next, 0⟩
      D.parent.hostPtr D.buffer.size.toNat = .ok s ∧
    bufferRelease ({m with space := s}.modify D.p (·.removeAlias D.b)) D.p = .ok m₁ ∧
    D.after = m₁.modify D.b (·.detach ⟨m.space.blocks.next, 0⟩) := by
  have hsize := (D.sits.parent D.p D.attached).2
  obtain ⟨hne, -⟩ | ⟨-, x, p, q, y, s, s', m₁, hx, hp, hmalloc, hy, hcopy, hrel, heq⟩ :=
    memoryAliasDetach_inv D.done
  · exact absurd rfl hne
  · cases D.live.symm.trans hx
    cases D.attached.symm.trans hp
    cases D.parent_live.symm.trans hy
    rw [hsize] at hmalloc hcopy
    obtain ⟨hn, hpair⟩ := malloc_cases hmalloc
    cases hpair
    exact ⟨hn, s', m₁, hcopy, hrel, heq⟩

theorem copy_spec {hn : D.buffer.size.toNat < limit}
    (h : privateCopy (m.space.create .heap D.buffer.size.toNat hn sys.garbage).2 ⟨m.space.blocks.next, 0⟩
      D.parent.hostPtr D.buffer.size.toNat = .ok s) :
    s.blocks = m.space.blocks.push ⟨.heap, m.space.objects.next, 0, D.buffer.size.toNat, hn⟩ ∧
    D.copied = .ok ((List.range D.buffer.size.toNat).map (s.bytes m.space.objects.next)) := by
  unfold copied
  obtain ⟨hnone, rfl⟩ | ⟨f, hsome, hload, hstore⟩ := privateCopy_inv h
  · rw [hnone]
    refine ⟨rfl, ?_⟩
    simp only [Space.create, Function.update_self]
  · obtain ⟨r, hr⟩ := Option.ne_none_iff_exists'.mp hsome
    have hagree : m.space.Agree (· < m.space.blocks.next) (· < m.space.objects.next)
        (m.space.create .heap D.buffer.size.toNat hn sys.garbage).2 :=
      ⟨fun i hi => (push_cells ..).trans (if_neg (Nat.ne_of_lt hi)),
        fun i B _ hB => D.orderly.objects i B hB, fun o ho => Function.update_of_ne (Nat.ne_of_lt ho) _ _⟩
    rw [hagree.load fun q hq => D.parent_sits.pointers q (.inl hq)] at hload
    obtain ⟨k, hk, rfl⟩ := map_eq_ok hstore
    refine ⟨rfl, ?_⟩
    rw [hr] at hload
    simp only [hr, hload, Except.map]
    obtain ⟨q, K, hq, hK, -, rfl⟩ := Space.span_ok_iff.mp hk
    cases hq
    rw [Space.create, push_self] at hK
    cases hK
    refine congrArg Except.ok (List.map_congr_left fun j hj => ?_)
    have hj := List.mem_range.mp hj
    simp [Space.overwrite, hj]

/-- The parent, without the alias on its list, and its ancestors do not refer to the
alias or to the new block. -/
theorem confined (s : Space) :
    Confined (· ≤ D.p) D.b (· = m.space.blocks.next) ({m with space := s}.modify D.p (·.removeAlias D.b)) := by
  refine ⟨Nat.not_le.mpr D.parent_lt, fun i x hi hx => ?_⟩
  have hclear {x₀ : Buffer} (hx₀ : m.store.cells i = some x₀) (hfade : x₀.Fades x) (hnot : D.b ∉ x.aliases) :
      x.Clear (· ≤ D.p) D.b (· = m.space.blocks.next) := by
    have hsits := D.orderly.cells i x₀ hx₀
    exact ⟨fun q hq => Nat.le_of_lt (Nat.lt_of_lt_of_le (hsits.parent q (hfade.parent_of hq)).1 hi), hnot,
      fun r hr => Nat.ne_of_lt (hsits.pointers r (.inl (hfade.hostPtr_of hr))),
      fun r hr => Nat.ne_of_lt (hsits.pointers r (.inr (.inl (hfade.originalPtr.symm.trans hr))))⟩
  obtain ⟨rfl, x₀, hx₀, rfl⟩ | ⟨hne, hx⟩ := of_modify hx
  · have hfade := removeAlias_fades D.b x₀
    refine hclear hx₀ hfade fun hmem => ?_
    have hnodup := (D.orderly.cells D.p x₀ hx₀).nodup
    exact ((mem_swapRemove hnodup (hfade.aliases.subset hmem)).mp hmem).1 rfl
  · refine hclear hx (.refl x) fun hmem => hne ?_
    exact (((D.orderly.cells i x hx).listed D.b hmem).2.2 D.buffer D.p D.live D.attached).symm

/-- The state after a detach: things were taken away from a state with the new block, and
the alias was given it. -/
theorem outcome : ∃ (hn : D.buffer.size.toNat < limit) (s : Space) (m₁ : State),
    s.blocks = m.space.blocks.push ⟨.heap, m.space.objects.next, 0, D.buffer.size.toNat, hn⟩ ∧
    D.copied = .ok ((List.range D.buffer.size.toNat).map (s.bytes m.space.objects.next)) ∧
    Fades D.b (· = m.space.blocks.next) ({m with space := s}.modify D.p (·.removeAlias D.b)) m₁ ∧
    m₁.store.cells D.b = some D.buffer ∧
    D.after = m₁.modify D.b (·.detach ⟨m.space.blocks.next, 0⟩) := by
  obtain ⟨hn, s, m₁, hcopy, hrel, hafter⟩ := D.steps
  obtain ⟨hblocks, hcopied⟩ := D.copy_spec hcopy
  have hfade := bufferRelease_fades (D.confined s) (Nat.le_refl D.p) hrel
  refine ⟨hn, s, m₁, hblocks, hcopied, hfade, ?_, hafter⟩
  rw [hfade.same]
  exact (modify_of_ne m.store _ (Nat.ne_of_gt D.parent_lt)).trans D.live

theorem after_cell : D.after.store.cells D.b = some (D.buffer.detach ⟨m.space.blocks.next, 0⟩) := by
  obtain ⟨hn, s, m₁, -, -, -, hcell, hafter⟩ := D.outcome
  rw [hafter]
  show (m₁.store.modify D.b _).cells D.b = _
  rw [modify_self, hcell]
  rfl

/-- **The bytes of a detached alias** are those at the start of the parent's memory. -/
theorem contents_after : D.after.contents D.b = D.copied := by
  obtain ⟨hn, s, m₁, hblocks, hcopied, hfade, -, hafter⟩ := D.outcome
  have hspace : D.after.space = m₁.space := by rw [hafter]; rfl
  have hblock : m₁.space.blocks.cells m.space.blocks.next =
      some ⟨.heap, m.space.objects.next, 0, D.buffer.size.toNat, hn⟩ := by
    rw [hfade.kept _ rfl]
    show s.blocks.cells _ = _
    rw [hblocks, push_self]
  have hspan : m₁.space.span (some ⟨m.space.blocks.next, 0⟩) D.buffer.size.toNat =
      .ok (m.space.objects.next, 0) :=
    Space.span_ok_iff.mpr ⟨_, _, rfl, hblock, by simp, rfl⟩
  have hbytes : m₁.space.bytes = s.bytes := hfade.bytes
  rw [State.contents, read_of_live D.after_cell, hcopied]
  simp only [Except.bind, detach, Space.load, hspace, hspan, Except.map, hbytes, Nat.zero_add]

/-- Without a descriptor the former alias and its parent are apart. -/
theorem apart (hfd : D.buffer.dmabufFd = none) :
    Apart D.b D.p m.space.blocks.next m.space.objects.next D.after := by
  obtain ⟨hn, s, m₁, hblocks, -, hfade, -, hafter⟩ := D.outcome
  have hcell := D.after_cell
  have hspace : D.after.space = m₁.space := by rw [hafter]; rfl
  have hcells (i : Nat) (hi : i ≠ D.b) : D.after.store.cells i = m₁.store.cells i := by
    rw [hafter]
    exact modify_of_ne m₁.store _ hi
  have hne {i : Nat} (hi : i ≤ D.p) : i ≠ D.b := Nat.ne_of_lt (Nat.lt_of_le_of_lt hi D.parent_lt)
  have hside := (D.confined s).fades hfade
  constructor
  case parentSide => exact ⟨hside.outside, fun i x hi hx => hside.cells i x hi (hcells i (hne hi) ▸ hx)⟩
  case aliasSide =>
    refine ⟨Nat.ne_of_lt D.parent_lt, fun i x hi hx => ?_⟩
    obtain rfl : i = D.b := hi
    cases hcell.symm.trans hx
    refine ⟨fun q hq => absurd hq (by simp [parent?, detach]), fun hmem => ?_, fun r hr => ?_,
      fun r hr => ?_⟩
    · exact Nat.lt_asymm (D.sits.listed D.p hmem).1 D.parent_lt
    · cases hr
      exact not_not.mpr rfl
    · cases hr
      exact not_not.mpr rfl
  case shown =>
    intro i K hK
    rw [hspace] at hK
    have hK := hfade.blocks i K hK
    change s.blocks.cells i = some K at hK
    rw [hblocks] at hK
    obtain ⟨hi, rfl⟩ | hK := of_push hK
    · exact iff_of_true rfl hi
    · exact iff_of_false (Nat.ne_of_lt (D.orderly.objects i K hK)) (Nat.ne_of_lt (lt_next hK))
  case aliasFd =>
    intro x hx
    cases hcell.symm.trans hx
    exact hfd
  case parentFd =>
    intro y' hy' hO
    rw [hcells D.p (Nat.ne_of_lt D.parent_lt)] at hy'
    obtain ⟨y, hy, hf⟩ := hfade.cells D.p y' hy'
    change (m.store.modify D.p _).cells D.p = some y at hy
    rw [modify_self, D.parent_live] at hy
    cases hy
    rw [hf.dmabufFd] at hO
    exact Nat.lt_irrefl _ (D.parent_sits.descriptors _ hO)
  case created =>
    rw [hspace, hfade.next]
    show m.space.blocks.next < s.blocks.next
    rw [hblocks]
    exact Nat.lt_succ_self _

end Detach

/-- **Detaching an alias.** The alias keeps its bytes, holds nothing of its parent and the
two are independent from then on exactly when the alias shows the bytes at the start of
the parent's memory, has no descriptor, and has no binding into the parent's memory. -/
theorem detach_right_iff (D : Detach sys m) : D.Right ↔ D.Ok := by
  constructor
  · intro h
    obtain ⟨x, hx, -, hptr, hfd⟩ := h.unlinked
    cases D.after_cell.symm.trans hx
    refine ⟨fun l hl => D.contents_after ▸ h.contents l hl,
      fun i r r' hr hr' => hptr r r' (.inr (.inr ⟨i, hr⟩)) hr', ?_⟩
    cases hx : D.buffer.dmabufFd with
    | none => rfl
    | some fd =>
      have hsame := D.sits.descriptor D.p D.parent D.attached D.parent_live
      exact absurd (hsame.symm.trans hx) (hfd fd hx)
  · intro h
    refine ⟨fun l hl => D.contents_after.trans (h.bytes l hl), ⟨_, D.after_cell, ?_, fun r r' hr hr' => ?_,
      fun fd hfd => absurd (h.dmabufFd.symm.trans hfd) (by simp)⟩, (D.apart h.dmabufFd).independent⟩
    · simp [parent?, detach]
    · have hlt : r'.block < m.space.blocks.next := D.parent_sits.pointers r' hr'
      obtain hp | ho | ⟨i, hi⟩ := hr
      · cases hp
        exact Nat.ne_of_gt hlt
      · cases ho
        exact Nat.ne_of_gt hlt
      · exact h.bindings i r r' hi hr'

/-- A buffer of four bytes, written, with an alias of the last two. -/
theorem detach_takes_first_bytes : ∃ (m : State) (D : Detach willing m), ¬ D.Right := by
  have hrun : ∃ m m' x y, Run.run handleCall State.zero
      [.allocate willing noGpus ⟨4, 0, flagHostValid, .other, accessReadWrite, 0⟩,
        .write willing 0 0 4 (fun i => UInt8.ofNat (i + 1)), .createAlias willing 0 2 2 0] = some m ∧
      memoryAliasDetach willing m 1 = .ok (.success, m') ∧ m.store.cells 1 = some x ∧
      m.store.cells 0 = some y ∧ x.parent? = some 0 ∧ m.contents 1 = .ok [3, 4] ∧
      m'.contents 1 = .ok [1, 2] :=
    ⟨_, _, _, _, rfl, rfl, rfl, rfl, rfl, rfl, rfl⟩
  obtain ⟨m, m', x, y, hm, hdone, hx, hy, hp, hbefore, hafter⟩ := hrun
  refine ⟨m, ⟨1, x, 0, y, m', (orderly_along _).final hm, hx, hp, hy, hdone⟩, fun h => ?_⟩
  have hsame := hafter.symm.trans (h.contents _ hbefore)
  exact nomatch hsame

end Mvgal.Memory
