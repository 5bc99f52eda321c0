import Mvgal.Runtime.FenceManager

/-! Waiting under the lock of the registry (`fence_manager.rs`).

`wait_fence` looks the fence up and waits on it inside one guard of the registry, and the
condition variable gives back the lock of the fence only. So a thread that sleeps there
stops every other thread at its next lock of the registry, also the one that came to
signal the fence. `waiters_stop_nobody_iff` says when it stops none. -/
namespace Mvgal.Runtime.Manager
open World
open Function (update update_self update_of_ne update_apply)

variable {ι : Type}

/-! ### Who waits and who needs the registry -/

def Pc.inCall : Pc → Bool
  | .called (.waitFence _ _) => false
  | .called (.getFence _) => false
  | .called _ => true
  | .numbered _ => true
  | .signalling _ => true
  | .testing _ => true
  | _ => false

def Pc.waits : Pc → Bool
  | .asleep .manager _ _ => true
  | _ => false

/-- A call of these four that is about to lock the registry. -/
def Pc.needsRegistry : Pc → Bool
  | .called (.signalFence _) => true
  | .called (.testFence _) => true
  | .called (.destroyFence _) => true
  | .numbered _ => true
  | _ => false

def Pc.locks : Pc → Bool
  | .signalling _ => true
  | .testing _ => true
  | .waiting _ _ => true
  | .asleep .manager _ _ => true
  | .woken .manager _ _ _ => true
  | _ => false

/-- While a thread sleeps in `wait_fence`, the calls of all other threads can go on. -/
def StopsNobody [DecidableEq ι] (w : World ι) : Prop :=
  ∀ t u, (w.pc t).waits → u ≠ t → (w.pc u).inCall → ∀ now, (step w (.advance u now)).isSome

/-- No thread sleeps in `wait_fence` while another needs the registry. -/
def Clear (pc : ι → Pc) : Prop := ∀ t u, (pc t).waits → u ≠ t → (pc u).needsRegistry = false

/-- `create_fence` is about to take its number. -/
def Pc.numbers : Pc → Bool
  | .called .createFence => true
  | _ => false

/-- A look at the flag of a fence from inside `wait_fence` will put the thread to sleep. -/
def Pc.dozes (isSignaled : Nat → Bool) : Pc → Bool
  | .waiting a _ => !isSignaled a
  | .woken .manager a none _ => !isSignaled a
  | _ => false

/-- A step after which its thread needs the registry: a call of the four begins, or
`create_fence` takes its number. -/
def asks (w : World ι) : Action ι → Bool
  | .call _ c => (Pc.called c).needsRegistry
  | .advance t _ => (w.pc t).numbers
  | _ => false

/-- A step after which its thread sleeps in `wait_fence`. -/
def fallsAsleep (w : World ι) : Action ι → Bool
  | .advance t _ => (w.pc t).dozes w.isSignaled
  | _ => false

/-- No thread comes to need the registry while one sleeps in `wait_fence`, and none goes to
sleep there while another needs it. -/
def StepOk (w : World ι) (a : Action ι) : Prop :=
  (asks w a = true → ∀ u, (w.pc u).waits = false) ∧
    (fallsAsleep w a = true → ∀ u, (w.pc u).needsRegistry = false)

/-- The lock of the registry is with the thread that is inside it. -/
def Exclusive (w : World ι) : Prop := ∀ t, (w.pc t).locks = true ↔ w.owner = some t

section Waiters
variable {pc : ι → Pc} {p : Pc}

theorem locks_of_waits (h : p.waits = true) : p.locks = true := by
  cases p with
  | asleep via a timeout =>
    cases via with
    | manager => rfl
    | fence => exact absurd h (by simp [Pc.waits])
  | _ => exact absurd h (by simp [Pc.waits])

theorem waits_notified {a : Nat} (h : (p.notified a).waits = true) : p.waits = true := by
  cases p with
  | asleep via b timeout =>
    simp only [Pc.notified] at h
    split at h
    · exact absurd h (by simp [Pc.waits])
    · exact h
  | _ => exact h

theorem needsRegistry_notified (a : Nat) (p : Pc) : (p.notified a).needsRegistry = p.needsRegistry := by
  cases p with
  | asleep via b timeout =>
    simp only [Pc.notified]
    split <;> rfl
  | _ => rfl

theorem locks_notified (a : Nat) (p : Pc) : (p.notified a).locks = p.locks := by
  cases p with
  | asleep via b timeout =>
    simp only [Pc.notified]
    split
    · cases via <;> rfl
    · rfl
  | _ => rfl

theorem clear_notified (h : Clear pc) (a : Nat) : Clear fun u => (pc u).notified a := by
  intro t u ht hut
  rw [needsRegistry_notified]
  exact h t u (waits_notified ht) hut

variable [DecidableEq ι] {w w' : World ι} {t : ι}

/-- One thread moves: it must not need the registry while another sleeps, nor sleep while
another needs it. -/
theorem clear_update_iff (h : Clear pc) (t : ι) (p : Pc) : Clear (update pc t p) ↔
      (p.needsRegistry = true → ∀ u, u ≠ t → (pc u).waits = false) ∧
      (p.waits = true → ∀ u, u ≠ t → (pc u).needsRegistry = false) := by
  constructor
  · intro h'
    refine ⟨fun hp u hut => ?_, fun hp u hut => ?_⟩
    · by_contra hw
      have := h' u t (by rw [update_of_ne hut]; simpa using hw) hut.symm
      rw [update_self, hp] at this
      cases this
    · have := h' t u (by rw [update_self]; exact hp) hut
      rwa [update_of_ne hut] at this
  · rintro ⟨hneeds, hwaits⟩ u v hu hvu
    by_cases hut : u = t
    · subst hut
      rw [update_self] at hu
      rw [update_of_ne hvu]
      exact hwaits hu v hvu
    · rw [update_of_ne hut] at hu
      by_cases hvt : v = t
      · subst hvt
        by_contra hp
        rw [hneeds (by simpa using hp) u hut] at hu
        cases hu
      · rw [update_of_ne hvt]
        exact h u v hu hvu

/-- A thread that moves on to a place that neither sleeps nor needs the registry. -/
theorem clear_update (h : Clear pc) (t : ι) (hneeds : p.needsRegistry = false) (hwaits : p.waits = false) :
    Clear (update pc t p) :=
  (clear_update_iff h t p).mpr ⟨fun hp => absurd hp (by simp [hneeds]), fun hp => absurd hp (by simp [hwaits])⟩

theorem lookup_isSome_iff (id : UInt64) (next : Nat → Pc) (missing : Result) :
    (w.lookup t id next missing).isSome ↔ w.owner = none := by
  unfold lookup
  split
  · split <;> simp_all
  · simp_all

/-- A call of the four can go on unless it needs the registry and another thread has it. -/
theorem advance_isSome_iff (hp : p.inCall = true) (now : Nat) :
    (w.advance t now p).isSome ↔ (p.needsRegistry = true → w.owner = none) := by
  cases p with
  | called c =>
    cases c with
    | createFence | destroyFence id => simp [advance, Pc.needsRegistry]
    | signalFence id | testFence id => simp [advance, Pc.needsRegistry, lookup_isSome_iff]
    | waitFence id timeoutMs | getFence id => exact absurd hp (by simp [Pc.inCall])
  | numbered id | signalling a | testing a => simp [advance, Pc.needsRegistry]
  | _ => exact absurd hp (by simp [Pc.inCall])

theorem inCall_of_needsRegistry (h : p.needsRegistry = true) : p.inCall = true := by
  cases p with
  | called c => cases c <;> first | rfl | exact absurd h (by simp [Pc.needsRegistry])
  | numbered id => rfl
  | _ => exact absurd h (by simp [Pc.needsRegistry])

/-- Since a sleeper has the registry, it stops exactly those that need it. -/
theorem stopsNobody_iff (hx : Exclusive w) : StopsNobody w ↔ Clear w.pc := by
  constructor
  · intro h t u ht hut
    by_contra hneeds
    have hneeds : (w.pc u).needsRegistry = true := by simpa using hneeds
    have howner := (hx t).mp (locks_of_waits ht)
    have := (advance_isSome_iff (inCall_of_needsRegistry hneeds) 0).mp
      (h t u ht hut (inCall_of_needsRegistry hneeds) 0) hneeds
    rw [howner] at this
    cases this
  · intro h t u ht hut hcall now
    refine (advance_isSome_iff hcall now).mpr fun hneeds => ?_
    rw [h t u ht hut] at hneeds
    cases hneeds

/-! ### What a step does to the threads -/

def Action.thread : Action ι → ι
  | .call t _ => t
  | .advance t _ => t
  | .expire t => t
  | .spurious t => t
  | .signal t _ _ => t
  | .reset t _ => t
  | .isSignaled t _ => t
  | .wait t _ _ => t

/-- The thread goes from its place to `p`, with the lock of the registry as `p` says. -/
structure Moves (w w' : World ι) (t : ι) (p : Pc) : Prop where
  pc : w'.pc = update w.pc t p ∨
    p.needsRegistry = false ∧ p.waits = false ∧ ∃ b, w'.pc = update (fun u => (w.pc u).notified b) t p
  owner : w'.owner = if p.locks then some t else if (w.pc t).locks then none else w.owner
  free : p.locks = true → w.owner = none ∨ w.owner = some t

theorem Moves.exclusive (hx : Exclusive w) (h : Moves w w' t p) : Exclusive w' := by
  have hpc (u : ι) : (w'.pc u).locks = if u = t then p.locks else (w.pc u).locks := by
    obtain hpc | ⟨-, -, b, hpc⟩ := h.pc
    · rw [hpc, update_apply]
      split <;> rfl
    · rw [hpc, update_apply]
      split
      · rfl
      · exact locks_notified b _
  intro u
  have hu := hx u
  have ht := hx t
  have hfree := h.free
  rw [hpc, h.owner]
  by_cases hut : u = t
  · subst hut
    cases hp : p.locks <;> cases hq : (w.pc u).locks <;> simp_all
  · have htu : t ≠ u := fun heq => hut heq.symm
    cases hp : p.locks <;> cases hq : (w.pc t).locks <;> simp_all

theorem moves_goto (hx : Exclusive w) (hp : p.locks = (w.pc t).locks) : Moves w (w.goto t p) t p where
  pc := .inl rfl
  owner := by
    show w.owner = _
    split
    · rename_i hlocks
      exact (hx t).mp (hp ▸ hlocks)
    · rename_i hlocks
      rw [hp] at hlocks
      rw [if_neg hlocks]
  free hlocks := .inr ((hx t).mp (hp ▸ hlocks))

theorem moves_unlock (result : Result) (ht : (w.pc t).locks = true) :
    Moves w (w.unlock t result) t (.ready (some result)) where
  pc := .inl rfl
  owner := by
    rw [ht]
    rfl
  free hlocks := absurd hlocks (by simp [Pc.locks])

theorem moves_lookup (hx : Exclusive w) {id : UInt64} {next : Nat → Pc} {missing : Result}
    (ht : (w.pc t).locks = false) (hnext : ∀ a, (next a).locks = true)
    (h : w.lookup t id next missing = some w') :
    ∃ p, Moves w w' t p ∧ (p = .ready (some missing) ∨ ∃ a, p = next a) := by
  obtain ⟨howner, h⟩ := Option.ite_none_right_eq_some.mp h
  cases hid : w.fenceMap id with
  | none =>
    rw [hid] at h
    cases h
    exact ⟨_, moves_goto hx (by rw [ht]; rfl), .inl rfl⟩
  | some a =>
    rw [hid] at h
    cases h
    exact ⟨next a, ⟨.inl rfl, by simp [hnext a], fun _ => .inl howner⟩, .inr ⟨a, rfl⟩⟩

/-- Waits through the manager hold the lock of the registry. -/
def Via.locks : Via → Bool
  | .manager => true
  | .fence => false

theorem moves_waited (hx : Exclusive w) {via : Via} (ht : (w.pc t).locks = via.locks) (state : FenceState) :
    ∃ result, Moves w (w.waited t via state) t (.ready (some result)) := by
  cases via with
  | manager => exact ⟨_, moves_unlock _ ht⟩
  | fence => exact ⟨_, moves_goto hx ht.symm⟩

theorem locks_asleep (via : Via) (a : Nat) (timeout : Option Nat) : (Pc.asleep via a timeout).locks = via.locks := by
  cases via <;> rfl

theorem moves_look (hx : Exclusive w) (via : Via) (ht : (w.pc t).locks = via.locks) (a : Nat)
    (timeout : Option Nat) : ∃ p, Moves w (w.look t via a timeout) t p ∧ p.needsRegistry = false ∧
      p.waits = (!w.isSignaled a && via.locks) := by
  unfold look
  split
  · rename_i hs
    obtain ⟨result, hm⟩ := moves_waited hx ht .signaled
    exact ⟨_, hm, rfl, by simp [hs, Pc.waits]⟩
  · rename_i hs
    refine ⟨.asleep via a timeout, moves_goto hx (by rw [locks_asleep, ht]), rfl, ?_⟩
    cases via <;> simp [hs, Pc.waits, Via.locks]

/-- A thread that moves to `p` and what the step asks of it. -/
structure Agrees (w w' : World ι) (a : Action ι) (p : Pc) : Prop where
  moves : Moves w w' a.thread p
  asks : p.needsRegistry = asks w a
  sleeps : p.waits = fallsAsleep w a
  awake : Manager.asks w a = true → (w.pc a.thread).waits = false
  unasked : fallsAsleep w a = true → (w.pc a.thread).needsRegistry = false

variable {a : Action ι}

/-- Most steps lead to a place that neither asks for the registry nor sleeps. -/
theorem agrees_plain (hm : Moves w w' a.thread p) (hasks : asks w a = false)
    (hsleeps : fallsAsleep w a = false) (hp : p.needsRegistry = false ∧ p.waits = false) : Agrees w w' a p :=
  ⟨hm, hp.1.trans hasks.symm, hp.2.trans hsleeps.symm, fun ha => absurd ha (by simp [hasks]),
    fun ha => absurd ha (by simp [hsleeps])⟩

theorem moves_signalFence {a now : Nat} {owner : Option ι}
    (howner : owner = if p.locks then some t else if (w.pc t).locks then none else w.owner)
    (hp : p.locks = false ∧ p.needsRegistry = false ∧ p.waits = false) :
    Moves w {(w.signalFence a now).goto t p with owner := owner} t p := by
  refine ⟨?_, howner, fun hlocks => absurd hlocks (by simp [hp.1])⟩
  by_cases hs : w.isSignaled a = true
  · exact .inl (by simp [goto, signalFence, hs])
  · exact .inr ⟨hp.2.1, hp.2.2, a, by simp [goto, signalFence, hs]⟩

section Advance
variable {now : Nat} {p q : Pc} (hpc : w.pc t = q)
include hpc

/-- A thread looks at the flag of its fence, and sleeps where the flag is down. -/
theorem agrees_look (hm : Moves w w' t p) (hq : q.numbers = false ∧ q.needsRegistry = false)
    (hneeds : p.needsRegistry = false) (hwaits : p.waits = q.dozes w.isSignaled) :
    Agrees w w' (.advance t now) p := by
  have hasks : asks w (.advance t now) = false := by
    show (w.pc t).numbers = false
    rw [hpc, hq.1]
  have hsleeps : fallsAsleep w (.advance t now) = q.dozes w.isSignaled := by
    show (w.pc t).dozes w.isSignaled = _
    rw [hpc]
  refine ⟨hm, hneeds.trans hasks.symm, hwaits.trans hsleeps.symm, fun ha => absurd ha (by simp [hasks]), fun _ => ?_⟩
  show (w.pc t).needsRegistry = false
  rw [hpc, hq.2]

theorem advance_plain (hm : Moves w w' t p) (hq : q.numbers = false ∧ q.dozes w.isSignaled = false)
    (hp : p.needsRegistry = false ∧ p.waits = false) : ∃ p, Agrees w w' (.advance t now) p := by
  rw [← hpc] at hq
  exact ⟨p, agrees_plain hm hq.1 hq.2 hp⟩

/-- A call that looks an id up: it is answered, or goes on inside the registry. -/
theorem lookup_agrees (hx : Exclusive w) {id : UInt64} {next : Nat → Pc} {missing : Result}
    (hq : q.locks = false ∧ q.numbers = false ∧ q.dozes w.isSignaled = false)
    (hnext : ∀ a, (next a).locks = true ∧ (next a).needsRegistry = false ∧ (next a).waits = false)
    (h : w.lookup t id next missing = some w') : ∃ p, Agrees w w' (.advance t now) p := by
  obtain ⟨p, hm, rfl | ⟨a, rfl⟩⟩ := moves_lookup hx (by rw [hpc, hq.1]) (fun a => (hnext a).1) h
  · exact advance_plain hpc hm hq.2 ⟨rfl, rfl⟩
  · exact advance_plain hpc hm hq.2 (hnext a).2

end Advance

theorem called_agrees (hx : Exclusive w) {now : Nat} {c : Call} (hpc : w.pc t = .called c)
    (h : w.advance t now (.called c) = some w') : ∃ p, Agrees w w' (.advance t now) p := by
  have ht : (w.pc t).locks = false := by
    rw [hpc]
    rfl
  cases c with
  | createFence =>
    cases h
    have hm := moves_goto (p := .numbered w.nextFenceId) hx (by rw [ht]; rfl)
    exact ⟨_, ⟨hm.pc, hm.owner, hm.free⟩, by simp [asks, hpc, Pc.numbers, Pc.needsRegistry],
      by simp [fallsAsleep, hpc, Pc.dozes, Pc.waits], fun _ => by simp [Action.thread, hpc, Pc.waits],
      fun ha => absurd ha (by simp [fallsAsleep, hpc, Pc.dozes])⟩
  | signalFence id | waitFence id timeoutMs | testFence id =>
    exact lookup_agrees hpc hx ⟨rfl, rfl, rfl⟩ (fun _ => ⟨rfl, rfl, rfl⟩) h
  | getFence id =>
    obtain ⟨-, rfl⟩ := Run.guarded h
    have hm := moves_goto (p := .ready (some (.found (w.fenceMap id)))) hx (by rw [ht]; rfl)
    exact advance_plain hpc ⟨hm.pc, hm.owner, hm.free⟩ ⟨rfl, rfl⟩ ⟨rfl, rfl⟩
  | destroyFence id =>
    obtain ⟨-, rfl⟩ := Run.guarded h
    have hm := moves_goto (p := .ready (some (.flag (w.fenceMap id).isSome))) hx (by rw [ht]; rfl)
    exact advance_plain hpc ⟨hm.pc, hm.owner, hm.free⟩ ⟨rfl, rfl⟩ ⟨rfl, rfl⟩

theorem advance_agrees (hx : Exclusive w) {now : Nat} {q : Pc} (hpc : w.pc t = q)
    (h : w.advance t now q = some w') : ∃ p, Agrees w w' (.advance t now) p := by
  cases q with
  | ready last | asleep via a timeout => exact absurd h (by simp [advance])
  | called c => exact called_agrees hx hpc h
  | numbered id =>
    obtain ⟨-, rfl⟩ := Run.guarded h
    have hm := moves_goto (p := .ready (some (.fence w.fences.next))) hx (by rw [hpc]; rfl)
    exact advance_plain hpc ⟨hm.pc, hm.owner, hm.free⟩ ⟨rfl, rfl⟩ ⟨rfl, rfl⟩
  | signalling a =>
    cases h
    exact advance_plain hpc (moves_signalFence (by rw [hpc]; rfl) ⟨rfl, rfl, rfl⟩) ⟨rfl, rfl⟩ ⟨rfl, rfl⟩
  | testing a =>
    cases h
    exact advance_plain hpc (moves_unlock _ (by rw [hpc]; rfl)) ⟨rfl, rfl⟩ ⟨rfl, rfl⟩
  | waiting a timeout =>
    cases h
    obtain ⟨p, hm, hneeds, hwaits⟩ := moves_look hx .manager (by rw [hpc]; rfl) a timeout
    exact ⟨p, agrees_look hpc hm ⟨rfl, rfl⟩ hneeds (by simp [hwaits, Pc.dozes, Via.locks])⟩
  | woken via a timeout timedOut =>
    cases h
    have ht : (w.pc t).locks = via.locks := by
      rw [hpc]
      cases via <;> rfl
    cases timeout with
    | none =>
      obtain ⟨p, hm, hneeds, hwaits⟩ := moves_look hx _ ht a none
      have hdozes : p.waits = (Pc.woken via a none timedOut).dozes w.isSignaled := by
        cases via <;> simp [hwaits, Pc.dozes, Via.locks]
      exact ⟨p, agrees_look hpc hm ⟨rfl, rfl⟩ hneeds hdozes⟩
    | some limit =>
      obtain ⟨result, hm⟩ := moves_waited hx ht (if !timedOut && w.isSignaled a then .signaled else .unsignaled)
      exact advance_plain hpc hm ⟨rfl, by cases via <;> rfl⟩ ⟨rfl, rfl⟩

theorem locks_expired {q : Pc} (h : p.expired? = some q) :
    q.locks = p.locks ∧ q.needsRegistry = false ∧ q.waits = false := by
  unfold Pc.expired? at h
  split at h
  · rename_i via a timeout
    cases h
    exact ⟨by cases via <;> rfl, rfl, rfl⟩
  · cases h

theorem locks_stirred {q : Pc} (h : p.stirred? = some q) :
    q.locks = p.locks ∧ q.needsRegistry = false ∧ q.waits = false := by
  unfold Pc.stirred? at h
  split at h
  · rename_i via a timeout
    cases h
    exact ⟨by cases via <;> rfl, rfl, rfl⟩
  · cases h

theorem ready_of_isReady (h : p.isReady = true) :
    p.locks = false ∧ p.waits = false ∧ p.needsRegistry = false := by
  cases p with
  | ready last => exact ⟨rfl, rfl, rfl⟩
  | _ => exact absurd h (by simp [Pc.isReady])

/-- **Every step** moves its own thread, and wakes others only where it neither asks for the
registry nor sleeps. -/
theorem step_agrees (hx : Exclusive w) (h : step w a = some w') : ∃ p, Agrees w w' a p := by
  cases a with
  | call t c =>
    obtain ⟨hready, rfl⟩ := Run.guarded h
    obtain ⟨hlocks, hwaits, hneeds⟩ := ready_of_isReady hready
    exact ⟨.called c, moves_goto hx hlocks.symm, rfl, rfl, fun _ => hwaits, fun ha => absurd ha (by simp [fallsAsleep])⟩
  | advance t now => exact advance_agrees hx rfl h
  | expire t =>
    obtain ⟨p, hp, rfl⟩ := Option.map_eq_some_iff.mp h
    obtain ⟨hlocks, hplain⟩ := locks_expired hp
    exact ⟨p, agrees_plain (moves_goto hx hlocks) rfl rfl hplain⟩
  | spurious t =>
    obtain ⟨p, hp, rfl⟩ := Option.map_eq_some_iff.mp h
    obtain ⟨hlocks, hplain⟩ := locks_stirred hp
    exact ⟨p, agrees_plain (moves_goto hx hlocks) rfl rfl hplain⟩
  | signal t a now =>
    obtain ⟨⟨hready, -⟩, rfl⟩ := Run.guarded h
    have hlocks := (ready_of_isReady hready).1
    exact ⟨.ready (some .unit), agrees_plain
      (moves_signalFence (by rw [hlocks]; rfl) ⟨rfl, rfl, rfl⟩) rfl rfl ⟨rfl, rfl⟩⟩
  | reset t a =>
    obtain ⟨⟨hready, -⟩, rfl⟩ := Run.guarded h
    have hm := moves_goto (p := .ready (some .unit)) hx (ready_of_isReady hready).1.symm
    exact ⟨_, agrees_plain ⟨hm.pc, hm.owner, hm.free⟩ rfl rfl ⟨rfl, rfl⟩⟩
  | isSignaled t a =>
    obtain ⟨⟨hready, -⟩, rfl⟩ := Run.guarded h
    exact ⟨_, agrees_plain (moves_goto hx (ready_of_isReady hready).1.symm) rfl rfl ⟨rfl, rfl⟩⟩
  | wait t a timeout =>
    obtain ⟨⟨hready, -⟩, rfl⟩ := Run.guarded h
    obtain ⟨p, hm, hneeds, hwaits⟩ := moves_look hx .fence (ready_of_isReady hready).1 a timeout
    exact ⟨p, agrees_plain hm rfl rfl ⟨hneeds, by simpa [Via.locks] using hwaits⟩⟩

theorem clear_step_iff (hx : Exclusive w) (h : Clear w.pc) (hstep : step w a = some w') :
    Clear w'.pc ↔ StepOk w a := by
  obtain ⟨p, hp⟩ := step_agrees hx hstep
  obtain hpc | ⟨hneeds, hwaits, b, hpc⟩ := hp.moves.pc
  · rw [hpc, clear_update_iff h, hp.asks, hp.sleeps]
    refine and_congr (imp_congr_right fun hasks => ?_) (imp_congr_right fun hsleeps => ?_)
    · refine ⟨fun hall u => ?_, fun hall u _ => hall u⟩
      by_cases hu : u = a.thread
      · exact hu ▸ hp.awake hasks
      · exact hall u hu
    · refine ⟨fun hall u => ?_, fun hall u _ => hall u⟩
      by_cases hu : u = a.thread
      · exact hu ▸ hp.unasked hsleeps
      · exact hall u hu
  · rw [hp.asks] at hneeds
    rw [hp.sleeps] at hwaits
    refine iff_of_true ?_ ⟨fun ha => absurd ha (by simp [hneeds]), fun ha => absurd ha (by simp [hwaits])⟩
    rw [hpc]
    exact clear_update (clear_notified h b) _ (hp.asks.trans hneeds) (hp.sleeps.trans hwaits)

/-- **Waiters and the registry.** Along any run of any threads, the calls of the others can go
on while a thread sleeps in `wait_fence` exactly when none of them comes to need the
registry meanwhile, and none goes to sleep there while another needs it. -/
theorem waiters_stop_nobody_iff (actions : List (Action ι)) :
    Run.Along step StopsNobody (.initial : World ι) actions ↔
      Run.Admitted step StepOk (.initial : World ι) actions := by
  have hinit : Exclusive (.initial : World ι) := fun t => by simp [initial, Pc.locks]
  refine Run.along_iff_admitted (fun w a w' hx h hstep => ?_)
    (fun w a w' hx _ hstep _ => ?_) hinit ?_ actions
  · obtain ⟨p, hp⟩ := step_agrees hx hstep
    rw [stopsNobody_iff (hp.moves.exclusive hx)]
    exact clear_step_iff hx ((stopsNobody_iff hx).mp h) hstep
  · obtain ⟨p, hp⟩ := step_agrees hx hstep
    exact hp.moves.exclusive hx
  · exact (stopsNobody_iff hinit).mpr fun t u ht => absurd ht (by simp [initial, Pc.waits])

/-- A thread sleeps in `wait_fence(1, 0)`, and `signal_fence(1)` of another one cannot begin. -/
theorem waiter_stops_signal : ¬ Run.Along step StopsNobody (.initial : World Bool)
      [.call false .createFence, .advance false 0, .advance false 0, .call false (.waitFence 1 0),
        .advance false 0, .advance false 0, .call true (.signalFence 1)] := by
  intro h
  exact absurd (h.final rfl false true rfl (by decide) rfl 0) (by decide)

end Waiters

end Mvgal.Runtime.Manager
