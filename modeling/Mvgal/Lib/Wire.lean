import Mathlib.Data.List.Basic

/-! Reading from a stream that arrives in pieces.

A line holds what was written to it and not yet read. A non-blocking read takes some
non-empty part of what is there, as much as the other side pleases; where there is nothing
it says so, and that is not the end of the stream. Between two reads more can arrive, the
writer can close its end, and the line can break (`Moment`).

`readExactly` asks again until it has all it was asked for, and gives up at the first read
that brings nothing. What it has taken by then is lost to its caller, but not to the
books: `readExactly_ok` and `readExactly_stop` say which part of the stream it was.

A format that tells from the front of a stream what its first message is cuts the whole
stream into messages (`parse`). `Parsed` is the part of that work that is done: what was
read so far is these messages, whatever follows. -/
namespace Mvgal.Wire
open List

variable {α : Type}

/-- One end of a stream: all that was written so far, what of it is still to be read, and
whether the writer has closed its end or the line is broken. -/
structure Line (α : Type) where
  stream : List α
  pending : List α
  closed : Bool
  failed : Bool

/-- What happens before a read, and how much of what is there it gets at most. -/
structure Moment (α : Type) where
  arrived : List α
  closes : Bool
  fails : Bool
  wish : Nat

def Moment.quiet : Moment α := ⟨[], false, false, 0⟩

inductive Stop where
  | closed
  | wouldBlock
  | failed
deriving DecidableEq

namespace Line

def new : Line α := ⟨[], [], false, false⟩

/-- Nothing is written to a line after its end. -/
def write (l : Line α) (bytes : List α) : Line α :=
  if l.closed then l else {l with stream := l.stream ++ bytes, pending := l.pending ++ bytes}

def pass (l : Line α) (m : Moment α) : Line α :=
  let l := l.write m.arrived
  {l with closed := l.closed || m.closes, failed := l.failed || m.fails}

/-- A non-blocking read of at most `size` bytes. -/
def recv (l : Line α) (size wish : Nat) : Except Stop (List α) × Line α :=
  if l.failed then (.error .failed, l)
  else if l.pending.isEmpty then (.error (if l.closed then .closed else .wouldBlock), l)
  else
    let n := max 1 (min wish size)
    (.ok (l.pending.take n), {l with pending := l.pending.drop n})

end Line

def readLoop : Nat → Nat → Line α → List (Moment α) → List α → Except Stop (List α) × Line α × List (Moment α)
  | 0, _, l, moments, got => (.ok got, l, moments)
  | fuel + 1, remaining, l, moments, got =>
    if remaining = 0 then (.ok got, l, moments)
    else
      let m := moments.headD .quiet
      match (l.pass m).recv remaining m.wish with
      | (.error stop, l) => (.error stop, l, moments.tail)
      | (.ok bytes, l) => readLoop fuel (remaining - bytes.length) l moments.tail (got ++ bytes)

/-- Read `size` bytes, or stop where a read brings nothing. Every other read brings at least
one byte, so `size` rounds are enough. -/
def readExactly (size : Nat) (l : Line α) (moments : List (Moment α)) :
    Except Stop (List α) × Line α × List (Moment α) :=
  readLoop size size l moments []

/-- What a line looks like where a read stopped. -/
def Line.StoppedBy (l : Line α) : Stop → Prop
  | .closed => l.pending = [] ∧ l.closed = true
  | .wouldBlock => l.pending = [] ∧ l.closed = false ∧ l.failed = false
  | .failed => l.failed = true

variable {l l' : Line α} {before : List α} {moments rest : List (Moment α)}

theorem write_stream (h : l.stream = before ++ l.pending) (bytes : List α) :
    (l.write bytes).stream = before ++ (l.write bytes).pending := by
  unfold Line.write
  split
  · exact h
  · simp [h]

theorem pass_stream (h : l.stream = before ++ l.pending) (m : Moment α) :
    (l.pass m).stream = before ++ (l.pass m).pending :=
  write_stream h m.arrived

variable {size : Nat}

/-- A read that brings something brings the first part of what is there. -/
theorem recv_ok {wish : Nat} {bytes : List α} (hsize : size ≠ 0) (h : l.stream = before ++ l.pending)
    (hrecv : l.recv size wish = (.ok bytes, l')) :
    l'.stream = before ++ bytes ++ l'.pending ∧ 0 < bytes.length ∧ bytes.length ≤ size ∧ l'.failed = false := by
  unfold Line.recv at hrecv
  split at hrecv
  · cases hrecv
  · rename_i hfailed
    split at hrecv
    · cases hrecv
    · rename_i hpending
      obtain ⟨hbytes, rfl⟩ := Prod.mk.inj hrecv
      cases hbytes
      have hlength : l.pending.length ≠ 0 := by simpa using hpending
      refine ⟨?_, ?_, ?_, by simpa using hfailed⟩
      · show l.stream = _
        rw [h, append_assoc, take_append_drop]
      · rw [length_take]
        omega
      · rw [length_take]
        omega

theorem recv_stop {wish : Nat} {stop : Stop} (hrecv : l.recv size wish = (.error stop, l')) :
    l' = l ∧ l.StoppedBy stop := by
  unfold Line.recv at hrecv
  split at hrecv
  · rename_i hfailed
    obtain ⟨hstop, rfl⟩ := Prod.mk.inj hrecv
    cases hstop
    exact ⟨rfl, hfailed⟩
  · rename_i hfailed
    split at hrecv
    · rename_i hpending
      obtain ⟨hstop, rfl⟩ := Prod.mk.inj hrecv
      cases hstop
      have hnil : l.pending = [] := isEmpty_iff.mp hpending
      cases hclosed : l.closed with
      | true => exact ⟨rfl, hnil, hclosed⟩
      | false => exact ⟨rfl, hnil, hclosed, by simpa using hfailed⟩
    · cases hrecv

/-- A line some time later: the stream can only have grown, and it breaks only in a moment
in which it fails. Where nothing happens it is as it was. -/
structure Line.Later (l : Line α) (moments : List (Moment α)) (l' : Line α) (rest : List (Moment α)) : Prop where
  grown : l.stream <+: l'.stream
  intact : (∀ m ∈ moments, m.fails = false) → l.failed = false → l'.failed = false ∧ ∀ m ∈ rest, m.fails = false
  still : moments = [] → rest = [] ∧ l'.stream = l.stream ∧ l'.closed = l.closed

theorem Line.Later.refl (l : Line α) (moments : List (Moment α)) : l.Later moments l moments :=
  ⟨List.prefix_rfl, fun hmoments hfailed => ⟨hfailed, hmoments⟩, fun hnone => ⟨hnone, rfl, rfl⟩⟩

theorem Line.Later.trans {l'' : Line α} {rest' : List (Moment α)} (h : l.Later moments l' rest)
    (h' : l'.Later rest l'' rest') : l.Later moments l'' rest' := by
  refine ⟨h.grown.trans h'.grown, fun hmoments hfailed => ?_, fun hnone => ?_⟩
  · obtain ⟨hfailed', hrest⟩ := h.intact hmoments hfailed
    exact h'.intact hrest hfailed'
  · obtain ⟨hrest, hstream, hclosed⟩ := h.still hnone
    obtain ⟨hrest', hstream', hclosed'⟩ := h'.still hrest
    exact ⟨hrest', hstream'.trans hstream, hclosed'.trans hclosed⟩

theorem recv_keeps (size wish : Nat) :
    (l.recv size wish).2.stream = l.stream ∧ (l.recv size wish).2.closed = l.closed ∧
      (l.recv size wish).2.failed = l.failed := by
  unfold Line.recv
  split
  · exact ⟨rfl, rfl, rfl⟩
  · split
    · exact ⟨rfl, rfl, rfl⟩
    · exact ⟨rfl, rfl, rfl⟩

theorem pass_quiet (l : Line α) : l.pass .quiet = l := by
  have hwrite : l.write [] = l := by
    unfold Line.write
    split
    · rfl
    · simp
  simp [Line.pass, Moment.quiet, hwrite]

theorem headD_fails (h : ∀ m ∈ moments, m.fails = false) : (moments.headD .quiet).fails = false := by
  cases moments with
  | nil => rfl
  | cons m rest => exact h m mem_cons_self

variable {result : Except Stop (List α)}

theorem recv_later (size : Nat)
    (hrecv : (l.pass (moments.headD .quiet)).recv size (moments.headD .quiet).wish = (result, l')) :
    l.Later moments l' moments.tail := by
  have hkeeps := recv_keeps (l := l.pass (moments.headD .quiet)) size (moments.headD .quiet).wish
  rw [hrecv] at hkeeps
  obtain ⟨hstream, hclosed, hfailed⟩ := hkeeps
  refine ⟨?_, fun hmoments hl => ⟨?_, fun m hm => hmoments m (mem_of_mem_tail hm)⟩, ?_⟩
  · rw [hstream]
    show _ <+: (l.write _).stream
    unfold Line.write
    split
    · exact List.prefix_rfl
    · exact List.prefix_append ..
  · rw [hfailed]
    show ((l.write _).failed || _) = false
    rw [headD_fails hmoments, Bool.or_false]
    unfold Line.write
    split
    · exact hl
    · exact hl
  · rintro rfl
    rw [hstream, hclosed]
    dsimp only [headD]
    rw [pass_quiet]
    exact ⟨rfl, rfl, rfl⟩

/-- How the loop ends that still had `remaining` bytes to read and took `more`. -/
def LoopEnd (l l' : Line α) (remaining : Nat) (got more : List α) : Except Stop (List α) → Prop
  | .ok bytes => bytes = got ++ more ∧ more.length = remaining ∧ (remaining ≠ 0 ∨ l.failed = false → l'.failed = false)
  | .error stop => more.length < remaining ∧ l'.StoppedBy stop

variable {remaining : Nat}

theorem loopEnd_done (hzero : remaining = 0) (l : Line α) (got : List α) :
    LoopEnd l l remaining got [] (.ok got) := by
  refine ⟨(append_nil got).symm, hzero.symm, fun h => ?_⟩
  cases h with
  | inl hne => exact absurd hzero hne
  | inr hfailed => exact hfailed

theorem LoopEnd.read {l₁ : Line α} {got part more : List α}
    (hle : part.length ≤ remaining) (hfailed : l₁.failed = false)
    (h : LoopEnd l₁ l' (remaining - part.length) (got ++ part) more result) :
    LoopEnd l l' remaining got (part ++ more) result := by
  cases result with
  | ok bytes =>
    obtain ⟨rfl, hlength, hfailed'⟩ := h
    refine ⟨append_assoc .., ?_, fun _ => hfailed' (.inr hfailed)⟩
    rw [length_append, hlength]
    omega
  | error stop =>
    obtain ⟨hlength, hstopped⟩ := h
    refine ⟨?_, hstopped⟩
    rw [length_append]
    omega

/-- What the loop takes is the next part of the stream. -/
theorem readLoop_spec {fuel : Nat} {got : List α}
    (hfuel : remaining ≤ fuel) (h : l.stream = before ++ l.pending)
    (hread : readLoop fuel remaining l moments got = (result, l', rest)) : l.Later moments l' rest ∧
      ∃ more, l'.stream = before ++ more ++ l'.pending ∧ LoopEnd l l' remaining got more result := by
  -- on the rounds; what was taken so far moves from the line to `before`
  induction fuel generalizing remaining l before moments got with
  | zero =>
    obtain ⟨rfl, rfl, rfl⟩ := by simpa only [readLoop, Prod.mk.injEq] using hread
    exact ⟨.refl .., [], by simpa using h, loopEnd_done (Nat.le_zero.mp hfuel) l got⟩
  | succ fuel ih =>
    unfold readLoop at hread
    split at hread
    · rename_i hzero
      obtain ⟨rfl, rfl, rfl⟩ := by simpa only [Prod.mk.injEq] using hread
      exact ⟨.refl .., [], by simpa using h, loopEnd_done hzero l got⟩
    · rename_i hne
      dsimp only at hread
      split at hread
      · rename_i stop l₁ hrecv
        obtain ⟨rfl, rfl, rfl⟩ := by simpa only [Prod.mk.injEq] using hread
        have hlater := recv_later remaining hrecv
        obtain ⟨rfl, hstopped⟩ := recv_stop hrecv
        exact ⟨hlater, [], by simpa using pass_stream h _, Nat.pos_of_ne_zero hne, hstopped⟩
      · rename_i part l₁ hrecv
        obtain ⟨hstream, hpos, hle, hfailed⟩ := recv_ok hne (pass_stream h _) hrecv
        obtain ⟨hlater, more, hstream', hend⟩ := ih (by omega) hstream hread
        exact ⟨(recv_later remaining hrecv).trans hlater, part ++ more, by simpa using hstream',
          hend.read hle hfailed⟩

section
variable (h : l.stream = before ++ l.pending)
include h

theorem readExactly_later
    (hread : readExactly size l moments = (result, l', rest)) : l.Later moments l' rest :=
  (readLoop_spec (Nat.le_refl _) h hread).1

theorem readExactly_ok {bytes : List α}
    (hread : readExactly size l moments = (.ok bytes, l', rest)) :
    bytes.length = size ∧ l'.stream = before ++ bytes ++ l'.pending ∧
      (size ≠ 0 ∨ l.failed = false → l'.failed = false) := by
  obtain ⟨-, more, hstream, rfl, hlength, hfailed⟩ := readLoop_spec (Nat.le_refl _) h hread
  exact ⟨hlength, hstream, hfailed⟩

theorem readExactly_stop {stop : Stop}
    (hread : readExactly size l moments = (.error stop, l', rest)) :
    ∃ bytes, l'.stream = before ++ bytes ++ l'.pending ∧ bytes.length < size ∧ l'.StoppedBy stop :=
  (readLoop_spec (Nat.le_refl _) h hread).2

end

section Messages
variable {μ : Type}

inductive Front (α μ : Type) where
  | incomplete
  | malformed
  | message (m : μ) (rest : List α)

section
variable (first : List α → Front α μ)

def parseLoop : Nat → List α → List μ × Bool
  | 0, _ => ([], false)
  | fuel + 1, bytes =>
    match first bytes with
    | .incomplete => ([], false)
    | .malformed => ([], true)
    | .message m rest => (m :: (parseLoop fuel rest).1, (parseLoop fuel rest).2)

/-- The messages of a stream, up to the first that is incomplete or malformed, and whether
it is malformed. -/
def parse (bytes : List α) : List μ × Bool := parseLoop first (bytes.length + 1) bytes

def Parsed (before : List α) (messages : List μ) : Prop :=
  ∀ tail, parse first (before ++ tail) = (messages ++ (parse first tail).1, (parse first tail).2)

/-- A message takes up some part of the stream. -/
def Shrinks : Prop := ∀ bytes m rest, first bytes = .message m rest → rest.length < bytes.length

end

variable {first : List α → Front α μ} {bytes : List α} {messages : List μ} {m : μ}

theorem parseLoop_fuel (h : Shrinks first) {fuel fuel' : Nat} (hfuel : bytes.length < fuel)
    (hfuel' : bytes.length < fuel') : parseLoop first fuel bytes = parseLoop first fuel' bytes := by
  induction fuel generalizing bytes fuel' with
  | zero => exact absurd hfuel (Nat.not_lt_zero _)
  | succ fuel ih =>
    cases fuel' with
    | zero => exact absurd hfuel' (Nat.not_lt_zero _)
    | succ fuel' =>
      unfold parseLoop
      cases hfirst : first bytes with
      | incomplete => rfl
      | malformed => rfl
      | message m rest =>
        have hshorter := h bytes m rest hfirst
        have hrest : parseLoop first fuel rest = parseLoop first fuel' rest := ih (by omega) (by omega)
        dsimp only
        rw [hrest]

theorem parse_incomplete (h : first bytes = .incomplete) : parse first bytes = ([], false) := by
  simp only [parse, parseLoop, h]

theorem parse_malformed (h : first bytes = .malformed) : parse first bytes = ([], true) := by
  simp only [parse, parseLoop, h]

theorem parse_message (hshrinks : Shrinks first) {rest : List α} (h : first bytes = .message m rest) :
    parse first bytes = (m :: (parse first rest).1, (parse first rest).2) := by
  have hshorter := hshrinks bytes m rest h
  have hrest : parseLoop first bytes.length rest = parse first rest :=
    parseLoop_fuel hshrinks hshorter (Nat.lt_succ_self _)
  simp only [parse, parseLoop, h] at hrest ⊢
  rw [hrest]

theorem parsed_nil : Parsed first [] [] := fun _ => rfl

theorem Parsed.message {before : List α} (hshrinks : Shrinks first) (h : Parsed first before messages)
    (hm : ∀ tail, first (bytes ++ tail) = .message m tail) :
    Parsed first (before ++ bytes) (messages ++ [m]) := by
  intro tail
  rw [append_assoc, h, parse_message hshrinks (hm tail), append_assoc]
  rfl

end Messages

end Mvgal.Wire
