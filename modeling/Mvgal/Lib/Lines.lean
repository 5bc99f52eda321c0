import Mathlib.Data.List.Basic

/-! Reading a text line by line through a buffer.

The scanner skips line ends, copies what follows up to the next line end or until its buffer
is full, hands the copy on, and resumes where it stopped (`scan`). What it hands on are the
lines of the text, each cut into pieces of the size of the buffer (`scan_eq`); lines that fit
are handed on whole (`scan_eq_of_short`, `scan_unlines`). -/
namespace Mvgal.Lines
open List

variable {α : Type}

/-- A list cut after every `n + 1` entries. -/
def pieces (n : Nat) : List α → List (List α)
  | [] => []
  | c :: rest => (c :: rest.take n) :: pieces n (rest.drop n)
termination_by l => l.length
decreasing_by
  rw [List.length_drop, List.length_cons]
  omega

@[simp] theorem pieces_nil (n : Nat) : pieces n ([] : List α) = [] := by rw [pieces]

theorem pieces_cons (n : Nat) (c : α) (rest : List α) :
    pieces n (c :: rest) = (c :: rest.take n) :: pieces n (rest.drop n) := by rw [pieces]

theorem pieces_of_le {n : Nat} {l : List α} (hl : l ≠ []) (h : l.length ≤ n + 1) : pieces n l = [l] := by
  cases l with
  | nil => exact absurd rfl hl
  | cons c rest =>
    have hrest : rest.length ≤ n := Nat.le_of_succ_le_succ h
    rw [pieces_cons, take_of_length_le hrest, drop_of_length_le hrest, pieces_nil]

variable (stop : α → Bool) (n : Nat)

/-- The characters up to the next line end, at most `n + 1`. -/
def copied (text : List α) : List α := (text.takeWhile fun c => !stop c).take (n + 1)

def scan (text : List α) : List (List α) :=
  match _h : text.dropWhile stop with
  | [] => []
  | c :: rest => copied stop n (c :: rest) :: scan ((c :: rest).drop (copied stop n (c :: rest)).length)
termination_by text.length
decreasing_by
  -- The first character that is copied is not a line end.
  have hc : stop c = false := by
    have hhead := List.head_dropWhile_not stop (l := text) (by rw [_h]; exact List.cons_ne_nil _ _)
    simpa [_h] using hhead
  have hcopied : 0 < (copied stop n (c :: rest)).length := by
    simp [copied, hc]
  have hle : (c :: rest).length ≤ text.length := _h ▸ (List.dropWhile_suffix stop).length_le
  rw [List.length_drop]
  have hpos : 0 < (c :: rest).length := Nat.succ_pos _
  omega

variable {stop n}

@[simp] theorem scan_nil : scan stop n [] = [] := by
  rw [scan]
  rfl

theorem scan_stop {c : α} (hc : stop c = true) (rest : List α) : scan stop n (c :: rest) = scan stop n rest := by
  have hdrop : (c :: rest).dropWhile stop = rest.dropWhile stop := dropWhile_cons_of_pos hc
  rw [scan, scan]
  split
  · rename_i h
    rw [hdrop] at h
    split
    · rfl
    · rename_i h'
      rw [h] at h'
      cases h'
  · rename_i h
    rw [hdrop] at h
    split
    · rename_i h'
      rw [h] at h'
      cases h'
    · rename_i h'
      rw [h] at h'
      cases h'
      rfl

theorem scan_cons {c : α} (hc : stop c = false) (rest : List α) : scan stop n (c :: rest) =
      copied stop n (c :: rest) :: scan stop n ((c :: rest).drop (copied stop n (c :: rest)).length) := by
  have hdrop : (c :: rest).dropWhile stop = c :: rest := dropWhile_cons_of_neg (Bool.eq_false_iff.mp hc)
  rw [scan]
  split
  · rename_i h
    rw [hdrop] at h
    cases h
  · rename_i h
    rw [hdrop] at h
    cases h
    rfl

theorem splitOnP_append {l : List α} (hl : ∀ c ∈ l, stop c = false) (rest : List α) :
    (l ++ rest).splitOnP stop = (rest.splitOnP stop).modifyHead (l ++ ·) := by
  induction l with
  | nil => exact modifyHead_id.symm ▸ rfl
  | cons c l ih =>
    have hc := hl c mem_cons_self
    rw [cons_append, splitOnP_cons_eq_if_modifyHead, if_neg (Bool.eq_false_iff.mp hc),
      ih fun c hc => hl c (mem_cons_of_mem _ hc), modifyHead_modifyHead]
    rfl

/-- What follows a line is the end of the text or a line end. -/
theorem splitOnP_dropWhile (stop : α → Bool) (text : List α) :
    ∃ lines, (text.dropWhile fun c => !stop c).splitOnP stop = [] :: lines := by
  induction text with
  | nil => exact ⟨[], rfl⟩
  | cons c rest ih =>
    cases hc : stop c with
    | true =>
      rw [dropWhile_cons_of_neg (by simp [hc]), splitOnP_cons_eq_if_modifyHead, if_pos hc]
      exact ⟨_, rfl⟩
    | false =>
      rw [dropWhile_cons_of_pos (by simp [hc])]
      exact ih

/-- **What the scanner hands on**: the lines of the text, cut into pieces of the buffer's size. -/
theorem scan_eq (text : List α) : scan stop n text = (text.splitOnP stop).flatMap (pieces n) := by
  induction hk : text.length using Nat.strongRecOn generalizing text with
  | _ k ih =>
    cases text with
    | nil => simp
    | cons c rest =>
      cases hc : stop c with
      | true =>
        rw [scan_stop hc, splitOnP_cons_eq_if_modifyHead, if_pos hc, flatMap_cons, pieces_nil,
          nil_append]
        exact ih rest.length (hk ▸ Nat.lt_succ_self _) rest rfl
      | false =>
        set line := (c :: rest).takeWhile fun c => !stop c with hline
        set after := (c :: rest).dropWhile fun c => !stop c with hafter
        have htext : c :: rest = line ++ after := takeWhile_append_dropWhile.symm
        have hclean : ∀ d ∈ line, stop d = false := by
          intro d hd
          simpa using all_eq_true.mp all_takeWhile d hd
        obtain ⟨lines, hlines⟩ := splitOnP_dropWhile stop (c :: rest)
        obtain ⟨line', hcons⟩ : ∃ line', line = c :: line' :=
          ⟨_, takeWhile_cons_of_pos (by simp [hc])⟩
        have hcopied : copied stop n (c :: rest) = line.take (n + 1) := rfl
        have hrest : (c :: rest).drop (line.take (n + 1)).length = line.drop (n + 1) ++ after := by
          have hsplit : line ++ after = line.take (n + 1) ++ (line.drop (n + 1) ++ after) := by
            rw [← append_assoc, take_append_drop]
          rw [htext, hsplit, drop_left]
        have hshorter : (line.drop (n + 1) ++ after).length < k := by
          rw [← hk, htext, length_append, length_append, length_drop, hcons, length_cons]
          omega
        rw [scan_cons hc, hcopied, hrest, ih _ hshorter _ rfl, htext, splitOnP_append hclean, hlines,
          splitOnP_append fun d hd => hclean d (mem_of_mem_drop hd), hlines]
        simp only [modifyHead_cons, append_nil, flatMap_cons]
        rw [hcons, pieces_cons, take_succ_cons, drop_succ_cons, cons_append]

theorem scan_eq_of_short {text : List α} (h : ∀ l ∈ text.splitOnP stop, l.length ≤ n + 1) :
    scan stop n text = (text.splitOnP stop).filter (· ≠ []) := by
  rw [scan_eq]
  generalize text.splitOnP stop = lines at h
  induction lines with
  | nil => rfl
  | cons l lines ih =>
    have hrest := ih fun l hl => h l (mem_cons_of_mem _ hl)
    rw [flatMap_cons, hrest, filter_cons]
    by_cases hl : l = []
    · simp [hl]
    · simp [hl, pieces_of_le hl (h l mem_cons_self)]

/-- A text made of lines that fit is read back as these lines. -/
theorem scan_unlines {e : α} (he : stop e = true) {lines : List (List α)}
    (h : ∀ l ∈ lines, (∀ c ∈ l, stop c = false) ∧ l.length ≤ n + 1) :
    scan stop n (lines.flatMap (· ++ [e])) = lines.filter (· ≠ []) := by
  have hsplit : (lines.flatMap (· ++ [e])).splitOnP stop = lines ++ [[]] := by
    induction lines with
    | nil => rfl
    | cons l lines ih =>
      have hl := (h l mem_cons_self).1
      rw [flatMap_cons, append_assoc, singleton_append, splitOnP_append hl,
        splitOnP_cons_eq_if_modifyHead, if_pos he, ih fun l hl => h l (mem_cons_of_mem _ hl)]
      simp
  rw [scan_eq_of_short, hsplit, filter_append]
  · simp
  · intro l hl
    rw [hsplit, mem_append, mem_singleton] at hl
    obtain hl | rfl := hl
    · exact (h l hl).2
    · exact Nat.zero_le _

end Mvgal.Lines
