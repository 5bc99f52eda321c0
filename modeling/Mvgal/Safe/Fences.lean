import Mvgal.Lib.KeyMap
import Mvgal.Lib.Run
import Mvgal.Lib.Table

/-! The fence registry behind the C interface (`safe/fence_manager`).

The documented life of a fence is the cycle Pending, Submitted, Signalled, Reset and back
to Pending. No call leads out of Reset, and a fence can be signalled without having been
submitted.

`Op.target` is the registry seen one handle at a time, and `call_refines` says that the
calls are its moves. `reset_is_final`: a fence that was reset stays so until it is
destroyed. `fences_cycle_iff` says which calls keep the documented cycle. -/
namespace Mvgal.Safe.Fences
open Function (update)

inductive FenceState where
  | pending
  | submitted
  | signalled
  | timedOut
  | reset
deriving DecidableEq, Repr

structure Fence where
  id : UInt64
  state : FenceState
  gpuIndex : UInt32
  createdNs : UInt64
  signalledNs : UInt64
deriving DecidableEq

structure FenceRegistry where
  fences : KeyMap UInt64 Fence
  nextId : UInt64

namespace FenceRegistry

def new : FenceRegistry := ⟨∅, 1⟩

/-- `now` is what `monotonic_ns` returns. -/
def allocate (r : FenceRegistry) (gpuIndex : UInt32) (now : UInt64) : UInt64 × FenceRegistry :=
  let id := r.nextId
  (id, { fences := r.fences.insert id ⟨id, .pending, gpuIndex, now, 0⟩, nextId := id + 1 })

/-- What `submit`, `signal` and `reset` share: a fence in a state that is accepted is
rewritten in place. -/
def rewrite (r : FenceRegistry) (handle : UInt64) (accepts : FenceState → Bool) (f : Fence → Fence) :
    Bool × FenceRegistry :=
  match r.fences.lookup handle with
  | some fence =>
    if accepts fence.state then (true, {r with fences := r.fences.insert handle (f fence)}) else (false, r)
  | none => (false, r)

def submit (r : FenceRegistry) (handle : UInt64) : Bool × FenceRegistry :=
  r.rewrite handle (fun s => s = .pending) fun f => {f with state := .submitted}

def signal (r : FenceRegistry) (handle : UInt64) (now : UInt64) : Bool × FenceRegistry :=
  r.rewrite handle (fun s => s = .submitted || s = .pending) fun f =>
    {f with state := .signalled, signalledNs := now}

def state (r : FenceRegistry) (handle : UInt64) : Option FenceState := (r.fences.lookup handle).map Fence.state

def reset (r : FenceRegistry) (handle : UInt64) : Bool × FenceRegistry :=
  r.rewrite handle (fun s => s = .signalled) fun f => {f with state := .reset, signalledNs := 0}

def destroy (r : FenceRegistry) (handle : UInt64) : Bool × FenceRegistry :=
  ((r.fences.lookup handle).isSome, {r with fences := r.fences.erase handle})

end FenceRegistry

def ffiBool : Bool × FenceRegistry → Int32 × FenceRegistry
  | (ok, r) => (if ok then 1 else 0, r)

def fenceCreate (r : FenceRegistry) (gpuIndex : UInt32) (now : UInt64) : UInt64 × FenceRegistry :=
  r.allocate gpuIndex now

def fenceSubmit (r : FenceRegistry) (handle : UInt64) : Int32 × FenceRegistry := ffiBool (r.submit handle)

def fenceSignal (r : FenceRegistry) (handle now : UInt64) : Int32 × FenceRegistry := ffiBool (r.signal handle now)

def fenceReset (r : FenceRegistry) (handle : UInt64) : Int32 × FenceRegistry := ffiBool (r.reset handle)

def fenceDestroy (r : FenceRegistry) (handle : UInt64) : Int32 × FenceRegistry := ffiBool (r.destroy handle)

inductive Op where
  | create
  | submit
  | signal
  | reset
  | destroy
deriving DecidableEq

inductive Call where
  | create (gpuIndex : UInt32) (now : UInt64)
  | submit (handle : UInt64)
  | signal (handle now : UInt64)
  | reset (handle : UInt64)
  | destroy (handle : UInt64)

/-- The last call: its kind, its handle, and the states before it. -/
structure Last where
  op : Op
  handle : UInt64
  before : UInt64 → Option FenceState

/-- The registry, the successful calls in order, and the last call. -/
structure World where
  registry : FenceRegistry
  log : List (UInt64 × Op)
  last : Option Last

def World.initial : World := ⟨.new, [], none⟩

def World.state (w : World) : UInt64 → Option FenceState := w.registry.state

def World.after (w : World) (op : Op) (handle : UInt64) (ok : Bool) (r : FenceRegistry) : World :=
  ⟨r, if ok then w.log ++ [(handle, op)] else w.log, some ⟨op, handle, w.state⟩⟩

def World.returned (w : World) (op : Op) (handle : UInt64) (r : Int32 × FenceRegistry) : World :=
  w.after op handle (r.1 = 1) r.2

def call (w : World) : Call → Option World
  | .create gpuIndex now =>
    let r := fenceCreate w.registry gpuIndex now
    some (w.after .create r.1 true r.2)
  | .submit handle => some (w.returned .submit handle (fenceSubmit w.registry handle))
  | .signal handle now => some (w.returned .signal handle (fenceSignal w.registry handle now))
  | .reset handle => some (w.returned .reset handle (fenceReset w.registry handle))
  | .destroy handle => some (w.returned .destroy handle (fenceDestroy w.registry handle))

def Call.op : Call → Op
  | .create .. => .create
  | .submit _ => .submit
  | .signal .. => .signal
  | .reset _ => .reset
  | .destroy _ => .destroy

def Call.handle (w : World) : Call → UInt64
  | .create .. => w.registry.nextId
  | .submit handle | .signal handle _ | .reset handle | .destroy handle => handle

/-- Pending → Submitted → Signalled → Reset → Pending. -/
inductive Next : FenceState → FenceState → Prop
  | submit : Next .pending .submitted
  | signal : Next .submitted .signalled
  | reset : Next .signalled .reset
  | again : Next .reset .pending

/-- What a call may make of its fence: a creation begins a life, a destruction ends it, and
the others leave the state or take it one edge further. -/
def Follows : Op → Option FenceState → Option FenceState → Prop
  | .create, before, after => before = none ∧ after = some .pending
  | .destroy, _, after => after = none
  | _, before, after => after = before ∨ ∃ s t, before = some s ∧ after = some t ∧ Next s t

/-- A submission, a signal or a reset of one handle. -/
def Call.Uses (handle : UInt64) : Call → Prop
  | .submit h | .signal h _ | .reset h => h = handle
  | _ => False

/-- Calls on the fence alone lead to a place where it is submitted, and then signalled. -/
def Resubmits (w : World) (handle : UInt64) : Prop :=
  ∃ calls w', (∀ c ∈ calls, c.Uses handle) ∧ Run.run call w calls = some w' ∧
    (fenceSubmit w'.registry handle).1 = 1 ∧
    ∀ now, (fenceSignal (fenceSubmit w'.registry handle).2 handle now).1 = 1

structure Cycles (w : World) : Prop where
  follows : ∀ l, w.last = some l → Follows l.op (l.before l.handle) (w.state l.handle)
  frame : ∀ l, w.last = some l → ∀ j, j ≠ l.handle → w.state j = l.before j
  once : ∀ h before between after,
    w.log = before ++ (h, .reset) :: between ++ (h, .reset) :: after → (h, .reset) ∉ between →
      between.count (h, .signal) = 1
  again : ∀ h, (h, .reset) ∈ w.log → w.state h ≠ none → Resubmits w h
  gone : ∀ h, (h, .destroy) ∈ w.log → w.state h = none

/-- A creation gives out a handle that is not live and was not destroyed, a fence is
signalled only after it was submitted, and none is reset. -/
def CallOk (w : World) (c : Call) : Prop :=
  match c.op with
  | .create => w.state (c.handle w) = none ∧ (c.handle w, .destroy) ∉ w.log
  | .signal => w.state (c.handle w) ≠ some .pending
  | .reset => w.state (c.handle w) ≠ some .signalled
  | _ => True

/-! ### One handle at a time -/

def Op.target : Op → Option FenceState → Option FenceState
  | .create, _ => some .pending
  | .submit, some .pending => some .submitted
  | .signal, some .pending | .signal, some .submitted => some .signalled
  | .reset, some .signalled => some .reset
  | .destroy, _ => none
  | _, s => s

def Op.succeeds : Op → Option FenceState → Bool
  | .create, _ => true
  | .submit, some .pending => true
  | .signal, some .pending | .signal, some .submitted => true
  | .reset, some .signalled => true
  | .destroy, some _ => true
  | _, _ => false

variable {r : FenceRegistry} {w w' : World} {c : Call} {handle : UInt64}

theorem state_insert (handle : UInt64) (f : Fence) (nextId : UInt64) :
    FenceRegistry.state ⟨r.fences.insert handle f, nextId⟩ = update r.state handle (some f.state) := by
  funext j
  by_cases hj : j = handle
  · subst hj
    simp [FenceRegistry.state]
  · simp [FenceRegistry.state, hj]

theorem state_erase (handle : UInt64) (nextId : UInt64) :
    FenceRegistry.state ⟨r.fences.erase handle, nextId⟩ = update r.state handle none := by
  funext j
  by_cases hj : j = handle
  · subst hj
    simp [FenceRegistry.state]
  · simp [FenceRegistry.state, hj]

/-- A rewrite succeeds where the state is accepted, and otherwise changes nothing. -/
theorem state_rewrite (r : FenceRegistry) (handle : UInt64) (accepts : FenceState → Bool) {f : Fence → Fence}
    {t : FenceState} (hf : ∀ fence, (f fence).state = t) :
    (r.rewrite handle accepts f).1 = (r.state handle).any accepts ∧
      (r.rewrite handle accepts f).2.state =
        update r.state handle (if (r.state handle).any accepts then some t else r.state handle) := by
  unfold FenceRegistry.rewrite
  cases hl : r.fences.lookup handle with
  | none => simp [FenceRegistry.state, hl]
  | some fence =>
    have hs : r.state handle = some fence.state := by rw [FenceRegistry.state, hl]; rfl
    cases ha : accepts fence.state with
    | true => simp [hs, ha, state_insert, hf]
    | false =>
      rw [hs, Option.any_some, ha, ← hs]
      simp [ha]

/-- A call moves its own fence as `Op.target` says. -/
structure Moves (w : World) (op : Op) (handle : UInt64) (w' : World) : Prop where
  state : w'.state = update w.state handle (op.target (w.state handle))
  log : w'.log = if op.succeeds (w.state handle) then w.log ++ [(handle, op)] else w.log
  last : w'.last = some ⟨op, handle, w.state⟩

theorem moves_returned {op : Op} {p : Bool × FenceRegistry} (hok : p.1 = op.succeeds (w.state handle))
    (hstate : p.2.state = update w.state handle (op.target (w.state handle))) :
    Moves w op handle (w.returned op handle (ffiBool p)) := by
  obtain ⟨ok, r⟩ := p
  refine ⟨hstate, ?_, rfl⟩
  subst hok
  cases hs : op.succeeds (w.state handle) <;> simp [World.returned, World.after, ffiBool]

theorem moves_rewrite {op : Op} {accepts : FenceState → Bool} {f : Fence → Fence} {t : FenceState}
    (hf : ∀ fence, (f fence).state = t) (hok : ∀ s, s.any accepts = op.succeeds s)
    (htarget : ∀ s, (if s.any accepts then some t else s) = op.target s) :
    Moves w op handle (w.returned op handle (ffiBool (w.registry.rewrite handle accepts f))) := by
  obtain ⟨hfst, hsnd⟩ := state_rewrite w.registry handle accepts hf
  refine moves_returned (hfst.trans (hok _)) (hsnd.trans ?_)
  rw [htarget]
  rfl

section
variable (h : call w c = some w')
include h

/-- **The calls are the moves of single fences.** -/
theorem call_refines : Moves w c.op (c.handle w) w' := by
  cases c with obtain rfl := Option.some.inj h
  | create gpuIndex now =>
    exact ⟨state_insert _ _ _, rfl, rfl⟩
  | submit handle =>
    exact moves_rewrite (fun _ => rfl) (by rintro (_ | _ | _) <;> rfl)
      (by rintro (_ | _ | _) <;> rfl)
  | signal handle now =>
    exact moves_rewrite (fun _ => rfl) (by rintro (_ | _ | _) <;> rfl)
      (by rintro (_ | _ | _) <;> rfl)
  | reset handle =>
    exact moves_rewrite (fun _ => rfl) (by rintro (_ | _ | _) <;> rfl)
      (by rintro (_ | _ | _) <;> rfl)
  | destroy handle =>
    refine moves_returned ?_ (state_erase _ _)
    show (w.registry.fences.lookup handle).isSome = Op.destroy.succeeds ((w.registry.fences.lookup handle).map _)
    cases w.registry.fences.lookup handle <;> rfl

theorem state_call (j : UInt64) :
    w'.state j = if j = c.handle w then c.op.target (w.state j) else w.state j := by
  rw [(call_refines h).state]
  by_cases hj : j = c.handle w
  · subst hj
    simp
  · simp [hj]

theorem mem_log_call {e : UInt64 × Op} (he : e ∈ w'.log) :
    e ∈ w.log ∨ e = (c.handle w, c.op) ∧ c.op.succeeds (w.state (c.handle w)) = true := by
  rw [(call_refines h).log] at he
  split at he
  · rename_i hok
    obtain he | he := List.mem_append.mp he
    · exact .inl he
    · exact .inr ⟨List.mem_singleton.mp he, hok⟩
  · exact .inl he

end

/-! ### Reset has no way out -/

def Call.Spares (handle : UInt64) (w : World) (c : Call) : Prop :=
  c.handle w = handle → c.op ≠ .destroy ∧ c.op ≠ .create

theorem reset_stays (hs : w.state handle = some .reset) (h : call w c = some w') (hc : c.Spares handle w) :
    w'.state handle = some .reset := by
  rw [state_call h]
  split
  · rename_i heq
    obtain ⟨hdestroy, hcreate⟩ := hc heq.symm
    cases hop : c.op <;> simp_all [Op.target]
  · exact hs

/-- **A fence that was reset stays reset**, whatever is called, until it is destroyed. -/
theorem reset_is_final (hs : w.state handle = some .reset) {calls : List Call}
    (hcalls : Run.Admitted call (Call.Spares handle) w calls) :
    Run.Along call (fun w => w.state handle = some .reset) w calls :=
  Run.along_of_admitted
    (fun _ _ _ hs h hc => reset_stays hs h hc) (fun _ hs => hs) hs hcalls

theorem spares_of_uses (hc : c.Uses handle) : c.Spares handle w := by
  intro _
  cases c with
  | create => exact absurd hc id
  | destroy => exact absurd hc id
  | submit | signal | reset => exact ⟨nofun, nofun⟩

theorem admitted_of_uses {calls : List Call} (h : ∀ c ∈ calls, c.Uses handle) :
    Run.Admitted call (Call.Spares handle) w calls := by
  induction calls generalizing w with
  | nil => trivial
  | cons c rest ih =>
    exact fun w' _ => ⟨spares_of_uses (h c List.mem_cons_self), ih fun c' hc' => h c' (List.mem_cons_of_mem _ hc')⟩

theorem not_resubmits (hs : w.state handle = some .reset) : ¬ Resubmits w handle := by
  rintro ⟨calls, w', huses, hrun, hsubmit, -⟩
  have hs' : w'.registry.state handle = some .reset := (reset_is_final hs (admitted_of_uses huses)).final hrun
  obtain ⟨hfst, -⟩ := state_rewrite w'.registry handle (fun s => s = .pending)
    (f := fun f => {f with state := .submitted}) fun _ => rfl
  have hfalse : (w'.registry.submit handle).1 = false := by
    rw [FenceRegistry.submit, hfst, hs']
    rfl
  have hret : (fenceSubmit w'.registry handle).1 = 0 := by
    rw [fenceSubmit, ← Prod.mk.eta (p := w'.registry.submit handle), hfalse]
    rfl
  exact absurd (hret.symm.trans hsubmit) (by decide)

theorem succeeds_reset_iff (s : Option FenceState) : Op.reset.succeeds s = true ↔ s = some .signalled := by
  rcases s with _ | _ | _ <;> simp [Op.succeeds]

theorem target_eq_reset {op : Op} {s : Option FenceState} (h : op.target s = some .reset) :
    s = some .reset ∨ op = .reset ∧ s = some .signalled := by
  cases op <;> rcases s with _ | _ | _ <;> simp_all [Op.target]

theorem follows_target_iff (op : Op) (s : Option FenceState) :
    Follows op s (op.target s) ↔ (op = .create → s = none) ∧ (op = .signal → s ≠ some .pending) := by
  cases op with
  | create | destroy => simp [Follows, Op.target]
  | submit =>
    refine iff_of_true ?_ ⟨nofun, nofun⟩
    rcases s with _ | s
    · exact .inl rfl
    · cases s with
      | pending => exact .inr ⟨_, _, rfl, rfl, .submit⟩
      | _ => exact .inl rfl
  | signal =>
    rcases s with _ | s
    · exact iff_of_true (.inl rfl) ⟨nofun, nofun⟩
    · cases s with
      | pending =>
        refine iff_of_false ?_ fun h => h.2 rfl rfl
        rintro (h | ⟨s, t, hs, ht, hnext⟩)
        · exact nomatch h
        · cases hs
          cases ht
          cases hnext
      | submitted => exact iff_of_true (.inr ⟨_, _, rfl, rfl, .signal⟩) ⟨nofun, nofun⟩
      | _ => exact iff_of_true (.inl rfl) ⟨nofun, nofun⟩
  | reset =>
    refine iff_of_true ?_ ⟨nofun, nofun⟩
    rcases s with _ | s
    · exact .inl rfl
    · cases s with
      | signalled => exact .inr ⟨_, _, rfl, rfl, .reset⟩
      | _ => exact .inl rfl

theorem callOk_iff : CallOk w c ↔
      ((c.op = .create → w.state (c.handle w) = none) ∧ (c.op = .signal → w.state (c.handle w) ≠ some .pending)) ∧
      (c.op = .create → (c.handle w, .destroy) ∉ w.log) ∧
      (c.op = .reset → w.state (c.handle w) ≠ some .signalled) := by
  cases hop : c.op <;> simp [CallOk, hop]

structure NoReset (w : World) : Prop where
  log : ∀ h, (h, .reset) ∉ w.log
  state : ∀ h, w.state h ≠ some .reset

theorem noReset_call (hn : NoReset w) (h : call w c = some w') (hok : CallOk w c) : NoReset w' := by
  have hreset := (callOk_iff.mp hok).2.2
  refine ⟨fun j hj => ?_, fun j hj => ?_⟩
  · obtain hj | ⟨heq, hsucceeds⟩ := mem_log_call h hj
    · exact hn.log j hj
    · have hop := (Prod.mk.inj heq).2
      rw [← hop, succeeds_reset_iff] at hsucceeds
      exact hreset hop.symm hsucceeds
  · rw [state_call h] at hj
    split at hj
    · rename_i heq
      rw [heq] at hj
      obtain hs | ⟨hop, hs⟩ := target_eq_reset hj
      · exact hn.state _ hs
      · exact hreset hop hs
    · exact hn.state j hj

theorem gone_call (hgone : ∀ h, (h, .destroy) ∈ w.log → w.state h = none) (h : call w c = some w')
    (hcreate : c.op = .create → (c.handle w, .destroy) ∉ w.log) {j : UInt64} (hj : (j, .destroy) ∈ w'.log) :
    w'.state j = none := by
  rw [state_call h]
  obtain hj | ⟨heq, -⟩ := mem_log_call h hj
  · split
    · rename_i heq
      rw [hgone j hj]
      cases hop : c.op with
      | create => exact absurd (heq ▸ hj) (hcreate hop)
      | _ => rfl
    · exact hgone j hj
  · obtain ⟨hhandle, hop⟩ := Prod.mk.inj heq
    rw [if_pos hhandle, ← hop]
    rfl

theorem cycles_call (hn : NoReset w) (hw : Cycles w) (h : call w c = some w') (hok : CallOk w c) : Cycles w' := by
  obtain ⟨hfollows, hcreate, -⟩ := callOk_iff.mp hok
  have hmoves := call_refines h
  have hn' := noReset_call hn h hok
  refine ⟨fun l hl => ?_, fun l hl j hj => ?_, fun j before between after hlog _ => ?_, fun j hj _ => ?_,
    fun j hj => gone_call hw.gone h hcreate hj⟩
  · cases hmoves.last.symm.trans hl
    rw [hmoves.state, Function.update_self]
    exact (follows_target_iff _ _).mpr hfollows
  · cases hmoves.last.symm.trans hl
    rw [hmoves.state, Function.update_of_ne hj]
  · refine absurd ?_ (hn'.log j)
    rw [hlog]
    simp
  · exact absurd hj (hn'.log j)

theorem callOk_of_cycles (hw' : Cycles w') (h : call w c = some w') : CallOk w c := by
  have hmoves := call_refines h
  have hfollows := hw'.follows _ hmoves.last
  have hstate : w'.state (c.handle w) = c.op.target (w.state (c.handle w)) := by
    rw [hmoves.state, Function.update_self]
  refine callOk_iff.mpr ⟨?_, fun hop hdestroyed => ?_, fun hop hs => ?_⟩
  · simp only [hstate] at hfollows
    exact (follows_target_iff _ _).mp hfollows
  · -- The handle that comes again was destroyed, and is live.
    have hin : (c.handle w, .destroy) ∈ w'.log := by
      rw [hmoves.log, hop]
      exact List.mem_append_left _ hdestroyed
    have hnone := hw'.gone _ hin
    rw [hstate, hop] at hnone
    exact absurd hnone (by simp [Op.target])
  · -- The fence is reset now, and there is no way out.
    rw [hop, hs] at hstate
    have hin : (c.handle w, .reset) ∈ w'.log := by
      rw [hmoves.log, hop, hs]
      exact List.mem_append_right _ (List.mem_singleton_self _)
    exact not_resubmits hstate (hw'.again _ hin (by rw [hstate]; nofun))

/-- **The life of fences.** Along any sequence of calls every fence follows the documented
cycle, with one signal between two resets and a way back from each, calls on one handle
leave the others alone, and destroyed handles stay gone, exactly when handles given out
are new, fences are signalled only once submitted, and none is reset. -/
theorem fences_cycle_iff (calls : List Call) :
    Run.Along call Cycles .initial calls ↔ Run.Admitted call CallOk .initial calls := by
  have hn : NoReset .initial := ⟨fun _ => List.not_mem_nil, fun _ => by
    simp [World.state, World.initial, FenceRegistry.state, FenceRegistry.new]⟩
  have hw : Cycles .initial := by
    refine ⟨nofun, nofun, fun _ before between after hlog => ?_, fun h hh => absurd hh (hn.log h), fun _ => nofun⟩
    exact absurd hlog (by simp [World.initial])
  exact Run.along_iff_admitted (I := NoReset)
    (fun _ _ _ hn hw h => ⟨fun hw' => callOk_of_cycles hw' h, cycles_call hn hw h⟩)
    (fun _ _ _ hn _ h hok => noReset_call hn h hok) hn hw calls

/-- One whole round on a fence, after which it is stuck. -/
theorem reset_fence_stuck :
    ¬ Run.Along call Cycles .initial [.create 0 0, .submit 1, .signal 1 5, .reset 1] := by
  intro h
  exact not_resubmits rfl ((h.final rfl).again 1 (by decide) (by decide))

/-- A fence that was signalled and never submitted. -/
example : ¬ Run.Along call Cycles .initial [.create 0 0, .signal 1 5] := by
  intro h
  have hfollows := (h.final rfl).follows _ rfl
  exact absurd ((follows_target_iff .signal (some .pending)).mp hfollows).2 (by decide)

end Mvgal.Safe.Fences
