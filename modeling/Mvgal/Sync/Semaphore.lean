import Mvgal.Types
import Mvgal.Lib.CondVar
import Mvgal.Lib.Run

/-! The semaphores of `sync.c` and `coherency.c`.

A counting semaphore is signalled once for each unit added and a wait takes its
value away; a timeline semaphore is signalled once and a wait takes nothing. Both
share one condition variable among waiters of different values (`Kind`). Every call
runs under the mutex, so it is one step, except that a wait goes to sleep and checks
again when it is woken.

A wake-up is lost when a thread sleeps with its value reached and no other wake-up is
left to process. `no_lost_wake_up` says when that cannot happen: for both kinds if a
signal wakes every sleeper it satisfies, for counting semaphores also if all waiters
ask for the same value. -/
namespace Mvgal.Sync
open CondVar
open Function (update update_of_ne)

/-- What a thread that waits has passed to the call. -/
structure Waiter where
  value : UInt64
  timed : Bool
deriving DecidableEq

/-- `struct mvgal_semaphore` and `struct mvgal_coherency_semaphore`, with the threads
that use it. -/
structure Semaphore (ι : Type) where
  count : UInt64
  threads : Threads ι Waiter

inductive Patience where
  | forever
  | deadline
  | never
deriving DecidableEq

/-- How the two kinds of semaphore differ: what a wait leaves of the count, how often
a signal calls `pthread_cond_signal`, and what the timeout means. -/
structure Kind where
  left : UInt64 → UInt64 → UInt64
  wakeUps : UInt64 → Nat
  patience : UInt64 → Patience

/-- `mvgal_semaphore_t`, with timeouts in milliseconds. -/
def counting : Kind where
  left count value := count - value
  wakeUps value := value.toNat
  patience timeout := if timeout = 0 then .forever else .deadline

/-- `mvgal_coherency_semaphore_t`, with timeouts in nanoseconds; `UINT64_MAX` is none. -/
def timeline : Kind where
  left count _ := count
  wakeUps _ := 1
  patience timeout := if timeout = 0xFFFFFFFFFFFFFFFF then .forever else if timeout = 0 then .never else .deadline

section Calls
variable {ι : Type} [DecidableEq ι] (k : Kind) (s : Semaphore ι) (t : ι)

def Semaphore.create (value : UInt64) : Semaphore ι := ⟨value, fun _ => .running⟩

/-- The calls of `pthread_cond_signal` wake `chosen`; other choices are not possible. -/
def Semaphore.signal [Fintype ι] (value : UInt64) (chosen : List ι) : Option (Error × Semaphore ι) :=
  if value = 0 then some (.invalidArgument, s)
  else
    (signals (k.wakeUps value) chosen s.threads).map fun T =>
      (.success, {count := s.count + value, threads := T})

/-- The loop condition: return with the value, or sleep. `none` is a call that sleeps. -/
def Semaphore.check (w : Waiter) : Option Error × Semaphore ι :=
  if w.value ≤ s.count then
    (some .success, {count := k.left s.count w.value, threads := update s.threads t .running})
  else (none, {s with threads := update s.threads t (.asleep w)})

def Semaphore.wait (value timeout : UInt64) : Option Error × Semaphore ι :=
  if value = 0 then (some .invalidArgument, s)
  else if s.count < value ∧ k.patience timeout = .never then (some .timeout, s)
  else s.check k t ⟨value, k.patience timeout = .deadline⟩

def Semaphore.recheck : Option (Option Error × Semaphore ι) :=
  match s.threads t with
  | .woken w => some (s.check k t w)
  | _ => none

/-- `pthread_cond_timedwait` returns with `ETIMEDOUT`, or with another error. -/
def Semaphore.expire (failed : Bool) : Option (Error × Semaphore ι) :=
  match s.threads t with
  | .asleep w =>
    if w.timed then some (if failed then .unknown else .timeout, {s with threads := update s.threads t .running})
    else none
  | _ => none

/-- A thread may wake up without a signal. -/
def Semaphore.spurious : Semaphore ι := {s with threads := update s.threads t (s.threads t).wake}

def semaphoreSignal [Fintype ι] (value : UInt64) (chosen : List ι) : Option (Error × Semaphore ι) :=
  s.signal counting value chosen

def semaphoreWait (value : UInt64) (timeoutMs : UInt32) : Option Error × Semaphore ι :=
  s.wait counting t value timeoutMs.toUInt64

def coherencySemaphoreSignal [Fintype ι] (increment : UInt64) (chosen : List ι) : Option (Error × Semaphore ι) :=
  s.signal timeline increment chosen

def coherencySemaphoreWait (value timeoutNs : UInt64) : Option Error × Semaphore ι :=
  s.wait timeline t value timeoutNs

end Calls

/-- The steps of threads at one semaphore. -/
inductive Step (ι : Type) where
  | signal (value : UInt64) (chosen : List ι)
  | wait (t : ι) (value timeout : UInt64)
  | recheck (t : ι)
  | expire (t : ι) (failed : Bool)
  | spurious (t : ι)

section Runs
variable {n : Nat} {k : Kind} {s s' : Semaphore (Fin n)}

def step (k : Kind) (s : Semaphore (Fin n)) : Step (Fin n) → Option (Semaphore (Fin n))
  | .signal value chosen => (s.signal k value chosen).map Prod.snd
  | .wait t value timeout => if s.threads t = .running then some (s.wait k t value timeout).2 else none
  | .recheck t => (s.recheck k t).map Prod.snd
  | .expire t failed => (s.expire t failed).map Prod.snd
  | .spurious t => some (s.spurious t)

/-- Once every wake-up is processed, no thread sleeps with its value reached. -/
def NoLostWakeUp (s : Semaphore (Fin n)) : Prop :=
  (∀ t w, s.threads t ≠ .woken w) → ∀ t w, s.threads t = .asleep w → s.count < w.value

/-- No thread sleeps with its value reached, whatever wake-ups are left. -/
def Unsatisfied (s : Semaphore (Fin n)) : Prop := ∀ t w, s.threads t = .asleep w → s.count < w.value

def Uniform (s : Semaphore (Fin n)) (v : UInt64) : Prop :=
  ∀ t w, (s.threads t).waiting? = some w → w.value = v

/-- The signal wakes every sleeper whose value the new count reaches. -/
def WakesReached (s : Semaphore (Fin n)) (value : UInt64) (chosen : List (Fin n)) : Prop :=
  ∀ t w, s.threads t = .asleep w → w.value ≤ s.count + value → t ∈ chosen

/-- A signal on a timeline semaphore reaches the value of no sleeper that it does not wake. -/
def TimelineOk (s : Semaphore (Fin n)) : Step (Fin n) → Prop
  | .signal value chosen => value ≠ 0 → WakesReached s value chosen
  | _ => True

/-- A signal on a counting semaphore may also leave sleepers if all ask for the same
value; and then who starts to sleep asks for it too. -/
def CountingOk (s : Semaphore (Fin n)) : Step (Fin n) → Prop
  | .signal value chosen => value ≠ 0 → WakesReached s value chosen ∨ ∃ v, Uniform s v
  | .wait _ value _ => s.count < value → Unsatisfied s ∨ Uniform s value
  | _ => True

/-! ### Steps that wake up or take away -/

/-- Fewer threads sleep, none waits for anything new, the count is not larger and no
wake-up was used up. -/
structure Calmer (s s' : Semaphore (Fin n)) : Prop where
  count_le : s'.count ≤ s.count
  waiting : ∀ t w, (s'.threads t).waiting? = some w → (s.threads t).waiting? = some w
  asleep : ∀ t w, s'.threads t = .asleep w → s.threads t = .asleep w
  pending_le : pending s.threads ≤ pending s'.threads

theorem Calmer.refl (s : Semaphore (Fin n)) : Calmer s s :=
  ⟨UInt64.le_refl _, fun _ _ h => h, fun _ _ h => h, Nat.le_refl _⟩

variable {t : Fin n}

theorem calmer_update {count : UInt64} {p : Phase Waiter} (hc : count ≤ s.count)
    (hw : ∀ w, p.waiting? = some w → (s.threads t).waiting? = some w) (ha : ∀ w, p ≠ .asleep w)
    (hp : (s.threads t).weight ≤ p.weight) : Calmer s ⟨count, update s.threads t p⟩ := by
  refine ⟨hc, fun u w hu => ?_, fun u w hu => ?_, ?_⟩
  · by_cases hut : u = t
    · subst hut
      exact hw w (by simpa using hu)
    · simpa [update_of_ne hut] using hu
  · by_cases hut : u = t
    · subst hut
      exact absurd (by simpa using hu) (ha w)
    · simpa [update_of_ne hut] using hu
  · have hsum := pending_update s.threads t p
    show pending s.threads ≤ pending (update s.threads t p)
    omega

theorem calmer_expire {failed : Bool} {e : Error} (h : s.expire t failed = some (e, s')) :
    Calmer s s' := by
  unfold Semaphore.expire at h
  split at h
  · next w hw =>
    obtain ⟨-, h⟩ := Option.ite_none_right_eq_some.mp h
    cases h
    exact calmer_update (UInt64.le_refl _) (by simp [Phase.waiting?]) (by simp) (by rw [hw]; exact Nat.le_refl 0)
  · cases h

theorem calmer_spurious (s : Semaphore (Fin n)) (t : Fin n) : Calmer s (s.spurious t) := by
  unfold Semaphore.spurious
  by_cases hasleep : (s.threads t).isAsleep = true
  · obtain ⟨w, ht, hwake⟩ := wake_asleep hasleep
    rw [hwake]
    refine calmer_update (UInt64.le_refl _) ?_ (by simp) (by rw [ht]; exact Nat.zero_le _)
    rw [ht]
    exact fun w h => h
  · rw [wake_of_not_asleep hasleep, Function.update_eq_self]
    exact .refl s

/-- A call to wait returns, or it finds too small a count and sleeps. -/
theorem wait_cases (value timeout : UInt64) (hleft : ∀ c v, v ≤ c → k.left c v ≤ c)
    (ht : s.threads t = .running) : Calmer s (s.wait k t value timeout).2 ∨
    s.count < value ∧ ∃ w : Waiter, w.value = value ∧
      (s.wait k t value timeout).2 = {s with threads := update s.threads t (.asleep w)} := by
  unfold Semaphore.wait
  by_cases h0 : value = 0
  · rw [if_pos h0]
    exact .inl (.refl s)
  rw [if_neg h0]
  by_cases hnever : s.count < value ∧ k.patience timeout = .never
  · rw [if_pos hnever]
    exact .inl (.refl s)
  rw [if_neg hnever]
  unfold Semaphore.check
  by_cases hle : value ≤ s.count
  · rw [if_pos hle]
    exact .inl (calmer_update (hleft _ _ hle) (by simp [Phase.waiting?]) (by simp) (by rw [ht]))
  · rw [if_neg hle]
    exact .inr ⟨UInt64.not_le.mp hle, _, rfl, rfl⟩

variable {a : Step (Fin n)}

theorem step_cases (hleft : ∀ c v, v ≤ c → k.left c v ≤ c) (h : step k s a = some s') :
    Calmer s s' ∨ (∃ value chosen T, a = .signal value chosen ∧ value ≠ 0 ∧
      signals (k.wakeUps value) chosen s.threads = some T ∧ s' = ⟨s.count + value, T⟩) ∨
    (∃ t w timeout, a = .wait t w.value timeout ∧ s.count < w.value ∧
      s' = {s with threads := update s.threads t (.asleep w)}) ∨
    ∃ t w, a = .recheck t ∧ s.threads t = .woken w ∧ s' = (s.check k t w).2 := by
  cases a with
  | signal value chosen =>
    obtain ⟨r, hr, rfl⟩ := Option.map_eq_some_iff.mp h
    unfold Semaphore.signal at hr
    by_cases h0 : value = 0
    · rw [if_pos h0] at hr
      cases hr
      exact .inl (.refl s)
    · rw [if_neg h0] at hr
      obtain ⟨T, hT, rfl⟩ := Option.map_eq_some_iff.mp hr
      exact .inr (.inl ⟨value, chosen, T, rfl, h0, hT, rfl⟩)
  | wait t value timeout =>
    obtain ⟨ht, hs'⟩ := Option.ite_none_right_eq_some.mp h
    cases hs'
    obtain hc | ⟨hlt, w, hv, hw⟩ := wait_cases value timeout hleft ht
    · exact .inl hc
    · subst hv
      exact .inr (.inr (.inl ⟨t, w, timeout, rfl, hlt, hw⟩))
  | recheck t =>
    obtain ⟨r, hr, rfl⟩ := Option.map_eq_some_iff.mp h
    unfold Semaphore.recheck at hr
    split at hr
    · next w hw =>
      cases hr
      exact .inr (.inr (.inr ⟨t, w, rfl, hw, rfl⟩))
    · cases hr
  | expire t failed =>
    obtain ⟨⟨e, s''⟩, hr, rfl⟩ := Option.map_eq_some_iff.mp h
    exact .inl (calmer_expire hr)
  | spurious t =>
    cases h
    exact .inl (calmer_spurious s t)

/-! ### No sleeper is satisfied -/

theorem Unsatisfied.calmer (h : Unsatisfied s) (hc : Calmer s s') : Unsatisfied s' := by
  intro t w ht
  have hlt := h t w (hc.asleep t w ht)
  have hle := hc.count_le
  rw [UInt64.lt_iff_toNat_lt] at hlt ⊢
  rw [UInt64.le_iff_toNat_le] at hle
  omega

variable {w : Waiter}

theorem Unsatisfied.sleep (h : Unsatisfied s) (hw : s.count < w.value) :
    Unsatisfied {s with threads := update s.threads t (.asleep w)} := by
  intro u v hu
  by_cases hut : u = t
  · subst hut
    obtain rfl : w = v := by simpa using hu
    exact hw
  · exact h u v (by simpa [update_of_ne hut] using hu)

theorem Unsatisfied.check (h : Unsatisfied s) (hleft : ∀ c v, v ≤ c → k.left c v ≤ c) :
    Unsatisfied (s.check k t w).2 := by
  unfold Semaphore.check
  by_cases hle : w.value ≤ s.count
  · rw [if_pos hle]
    intro u v hu
    have hut : u ≠ t := by
      rintro rfl
      exact absurd hu (by simp)
    have hlt := h u v (by simpa [update_of_ne hut] using hu)
    have hcount := hleft _ _ hle
    exact Nat.lt_of_le_of_lt hcount hlt
  · rw [if_neg hle]
    exact h.sleep (UInt64.not_le.mp hle)

variable {T : Threads (Fin n) Waiter} {chosen : List (Fin n)} {value : UInt64}

/-- A signal leaves no sleeper satisfied if it wakes all it reaches. -/
theorem unsatisfied_signal {j : Nat}
    (h : signals j chosen s.threads = some T) (hw : WakesReached s value chosen) :
    Unsatisfied ⟨s.count + value, T⟩ := by
  intro t w ht
  obtain ⟨hslept, hnot⟩ := (signals_spec h).asleep t w ht
  exact UInt64.not_le.mp fun hle => hnot (hw t w hslept hle)

/-! ### Waiters of one value -/

/-- All ask for `v`, and while one sleeps the wake-ups that are left take the count below it. -/
structure Rationed (s : Semaphore (Fin n)) (v : UInt64) : Prop where
  uniform : Uniform s v
  enough : ∀ t w, s.threads t = .asleep w → s.count.toNat < v.toNat * (pending s.threads + 1)

theorem lt_mul_succ {a b n : Nat} (h : a < b) : a < b * (n + 1) := by
  rw [Nat.mul_succ]
  omega

variable {v : UInt64}

theorem Uniform.asleep (h : Uniform s v) (ht : s.threads t = .asleep w) : w.value = v :=
  h t w (by rw [ht]; rfl)

theorem Unsatisfied.rationed (h : Unsatisfied s) (hu : Uniform s v) : Rationed s v := by
  refine ⟨hu, fun t w ht => lt_mul_succ ?_⟩
  rw [← hu.asleep ht]
  exact UInt64.lt_iff_toNat_lt.mp (h t w ht)

theorem Rationed.unsatisfied (h : Rationed s v) (hquiet : pending s.threads = 0) :
    Unsatisfied s := by
  intro t w ht
  have hlt := h.enough t w ht
  rw [hquiet, Nat.zero_add, Nat.mul_one, ← h.uniform.asleep ht] at hlt
  exact UInt64.lt_iff_toNat_lt.mpr hlt

theorem Rationed.calmer (h : Rationed s v) (hc : Calmer s s') : Rationed s' v := by
  refine ⟨fun t w ht => h.uniform t w (hc.waiting t w ht), fun t w ht => ?_⟩
  have hle := UInt64.le_iff_toNat_le.mp hc.count_le
  have hlt := h.enough t w (hc.asleep t w ht)
  have hmul := Nat.mul_le_mul_left v.toNat (Nat.add_le_add_right hc.pending_le 1)
  omega

theorem Rationed.sleep (hu : Uniform s v) (hv : w.value = v)
    (hlt : s.count < v) : Rationed {s with threads := update s.threads t (.asleep w)} v := by
  refine ⟨fun u w' hu' => ?_, fun u w' _ => lt_mul_succ (UInt64.lt_iff_toNat_lt.mp hlt)⟩
  by_cases hut : u = t
  · subst hut
    obtain rfl : w = w' := by simpa [Phase.waiting?] using hu'
    exact hv
  · exact hu u w' (by simpa [update_of_ne hut] using hu')

/-- A woken thread takes its share, or the count is below every share. -/
theorem Rationed.recheck (h : Rationed s v)
    (ht : s.threads t = .woken w) : Rationed (s.check counting t w).2 v := by
  have hv : w.value = v := h.uniform t w (by rw [ht]; rfl)
  unfold Semaphore.check
  by_cases hle : w.value ≤ s.count
  · rw [if_pos hle]
    have hpending := pending_update s.threads t .running
    rw [ht] at hpending
    refine ⟨fun u w' hu => ?_, fun u w' hu => ?_⟩
    · have hut : u ≠ t := by
        rintro rfl
        exact absurd hu (by simp [Phase.waiting?])
      exact h.uniform u w' (by simpa [update_of_ne hut] using hu)
    · have hut : u ≠ t := by
        rintro rfl
        exact absurd hu (by simp)
      have hlt := h.enough u w' (by simpa [update_of_ne hut] using hu)
      simp only [Phase.weight] at hpending
      show (s.count - w.value).toNat < v.toNat * (pending (update s.threads t .running) + 1)
      rw [UInt64.toNat_sub_of_le _ _ hle, hv, hpending]
      rw [hv, UInt64.le_iff_toNat_le] at hle
      rw [Nat.mul_succ] at hlt
      rw [Nat.add_zero]
      omega
  · rw [if_neg hle]
    exact .sleep h.uniform hv (hv ▸ UInt64.not_le.mp hle)

/-- Each unit that a signal adds is a wake-up more, while a thread sleeps. -/
theorem Rationed.signal (h : Rationed s v)
    (hT : signals value.toNat chosen s.threads = some T) : Rationed ⟨s.count + value, T⟩ v := by
  have hspec := signals_spec hT
  refine ⟨fun t w ht => h.uniform t w ((hspec.waiting t).symm.trans ht), fun t w ht => ?_⟩
  have hlt := h.enough t w (hspec.asleep t w ht).1
  have hpos : 0 < v.toNat := Nat.pos_of_mul_pos_right (Nat.zero_lt_of_lt hlt)
  have hshare : value.toNat ≤ v.toNat * value.toNat := Nat.le_mul_of_pos_left _ hpos
  have hsum : v.toNat * (pending s.threads + value.toNat + 1) =
      v.toNat * (pending s.threads + 1) + v.toNat * value.toNat := by
    rw [← Nat.mul_add]
    congr 1
    omega
  rw [hspec.pending t w ht, hsum, UInt64.toNat_add]
  omega

/-! ### Runs keep what is needed -/

theorem counting_left {c : UInt64} (h : v ≤ c) : counting.left c v ≤ c := by
  show (c - v).toNat ≤ c.toNat
  rw [UInt64.toNat_sub_of_le c v h]
  omega

theorem timeline_left {c : UInt64} (_ : v ≤ c) : timeline.left c v ≤ c := UInt64.le_refl c

/-- What the steps of a counting semaphore keep. -/
def CountingInvariant (s : Semaphore (Fin n)) : Prop := Unsatisfied s ∨ ∃ v, Rationed s v

section
variable (h : CountingInvariant s)
include h

theorem CountingInvariant.calmer (hc : Calmer s s') : CountingInvariant s' := by
  obtain h | ⟨v, h⟩ := h
  · exact .inl (h.calmer hc)
  · exact .inr ⟨v, h.calmer hc⟩

theorem CountingInvariant.noLostWakeUp : NoLostWakeUp s := by
  intro hquiet
  obtain h | ⟨v, h⟩ := h
  · exact h
  · exact h.unsatisfied (pending_of_quiet hquiet)

theorem CountingInvariant.signal
    (hT : signals value.toNat chosen s.threads = some T)
    (hok : WakesReached s value chosen ∨ ∃ v, Uniform s v) : CountingInvariant ⟨s.count + value, T⟩ := by
  obtain hall | ⟨v, hv⟩ := hok
  · exact .inl (unsatisfied_signal hT hall)
  · obtain h | ⟨v', h⟩ := h
    · exact .inr ⟨v, (h.rationed hv).signal hT⟩
    · exact .inr ⟨v', h.signal hT⟩

omit h in
theorem CountingInvariant.sleep (hlt : s.count < w.value)
    (hok : Unsatisfied s ∨ Uniform s w.value) :
    CountingInvariant {s with threads := update s.threads t (.asleep w)} := by
  obtain h | hv := hok
  · exact .inl (h.sleep hlt)
  · exact .inr ⟨w.value, .sleep hv rfl hlt⟩

theorem counting_step (hrun : step counting s a = some s')
    (hok : CountingOk s a) : CountingInvariant s' := by
  obtain hc | ⟨value, chosen, T, rfl, h0, hT, rfl⟩ | ⟨t, w, timeout, rfl, hlt, rfl⟩ | ⟨t, w, rfl, hw, rfl⟩ :=
    step_cases (fun _ _ => counting_left) hrun
  · exact h.calmer hc
  · exact h.signal hT (hok h0)
  · exact .sleep hlt (hok hlt)
  · obtain h | ⟨v, h⟩ := h
    · exact .inl (h.check fun _ _ => counting_left)
    · exact .inr ⟨v, h.recheck hw⟩

end

theorem timeline_step (h : Unsatisfied s) (hrun : step timeline s a = some s')
    (hok : TimelineOk s a) : Unsatisfied s' := by
  obtain hc | ⟨value, chosen, T, rfl, h0, hT, rfl⟩ | ⟨t, w, timeout, rfl, hlt, rfl⟩ | ⟨t, w, rfl, hw, rfl⟩ :=
    step_cases (fun _ _ => timeline_left) hrun
  · exact h.calmer hc
  · exact unsatisfied_signal hT (hok h0)
  · exact h.sleep hlt
  · exact h.check fun _ _ => timeline_left

theorem unsatisfied_create (value : UInt64) : Unsatisfied (Semaphore.create value : Semaphore (Fin n)) :=
  fun t w h => absurd h (by simp [Semaphore.create])

/-- **No lost wake-up.** Any number of threads, any values, any order of steps and any
choice of the threads that signals wake: while the steps meet the condition of the
semaphore, no thread sleeps with its value reached once all wake-ups are processed. -/
theorem no_lost_wake_up (initial : UInt64) (steps : List (Step (Fin n))) :
    (Run.Admitted (step counting) CountingOk (.create initial) steps →
      Run.Along (step counting) NoLostWakeUp (.create initial) steps) ∧
    (Run.Admitted (step timeline) TimelineOk (.create initial) steps →
      Run.Along (step timeline) NoLostWakeUp (.create initial) steps) := by
  constructor
  · intro h
    exact Run.along_of_admitted (fun s a s' hi hrun hok => counting_step hi hrun hok)
      (fun s hi => hi.noLostWakeUp) (.inl (unsatisfied_create initial)) h
  · intro h
    exact Run.along_of_admitted (fun s a s' hi hrun hok => timeline_step hi hrun hok)
      (fun s hi => show NoLostWakeUp s from fun _ => hi) (unsatisfied_create initial) h

end Runs

/-- Two threads wait for 1; one unit is signalled and one of them takes it. -/
theorem no_lost_wake_up_of_two :
    Run.Along (step counting) NoLostWakeUp (.create 0 : Semaphore (Fin 2))
      [.wait 0 1 0, .wait 1 1 0, .signal 1 [1], .recheck 1] := by
  apply (no_lost_wake_up 0 _).1
  intro s₁ h₁
  cases h₁
  refine ⟨fun _ => .inl (unsatisfied_create 0), fun s₂ h₂ => ?_⟩
  cases h₂
  refine ⟨fun _ => .inl ((unsatisfied_create 0).sleep (by decide)), fun s₃ h₃ => ?_⟩
  refine ⟨fun _ => .inr ⟨1, fun t w h => ?_⟩, fun s₄ h₄ => ⟨trivial, trivial⟩⟩
  have hboth : ∀ t : Fin 2, (update (update (fun _ => Phase.running) 0 (.asleep ⟨1, false⟩)) 1
      (.asleep ⟨1, false⟩) t).waiting? = some (⟨1, false⟩ : Waiter) := by
    decide
  cases (hboth t).symm.trans h
  rfl

/-- The signal that satisfies the thread waiting for 1 wakes the thread waiting for 2. -/
theorem signal_wakes_the_wrong_thread :
    ¬ Run.Along (step counting) NoLostWakeUp (.create 0 : Semaphore (Fin 2))
        [.wait 0 1 0, .wait 1 2 0, .signal 1 [1], .recheck 1] ∧
      ¬ Run.Along (step timeline) NoLostWakeUp (.create 0 : Semaphore (Fin 2))
        [.wait 0 1 0xFFFFFFFFFFFFFFFF, .wait 1 2 0xFFFFFFFFFFFFFFFF, .signal 1 [1], .recheck 1] := by
  have hlost {s : Semaphore (Fin 2)} (hcount : s.count = 1) (hquiet : ∀ t, (s.threads t).isAsleep = true)
      (h0 : s.threads 0 = .asleep ⟨1, false⟩) : ¬ NoLostWakeUp s := by
    intro h
    have hlt := h (fun t w hw => absurd (hquiet t) (by simp [hw, Phase.isAsleep])) 0 _ h0
    rw [hcount] at hlt
    exact absurd hlt (by decide)
  constructor
  · intro h
    have hrun : ∃ s, Run.run (step counting) (.create 0 : Semaphore (Fin 2))
        [.wait 0 1 0, .wait 1 2 0, .signal 1 [1], .recheck 1] = some s ∧ s.count = 1 ∧
          (∀ t, (s.threads t).isAsleep = true) ∧ s.threads 0 = .asleep ⟨1, false⟩ :=
      ⟨_, rfl, rfl, by decide, rfl⟩
    obtain ⟨s, hs, hcount, hquiet, h0⟩ := hrun
    exact hlost hcount hquiet h0 (h.final hs)
  · intro h
    have hrun : ∃ s, Run.run (step timeline) (.create 0 : Semaphore (Fin 2))
        [.wait 0 1 0xFFFFFFFFFFFFFFFF, .wait 1 2 0xFFFFFFFFFFFFFFFF, .signal 1 [1], .recheck 1] = some s ∧
          s.count = 1 ∧ (∀ t, (s.threads t).isAsleep = true) ∧ s.threads 0 = .asleep ⟨1, false⟩ :=
      ⟨_, rfl, rfl, by decide, rfl⟩
    obtain ⟨s, hs, hcount, hquiet, h0⟩ := hrun
    exact hlost hcount hquiet h0 (h.final hs)

end Mvgal.Sync
