import TagScript.Proofs.Token.Stretch
import TagScript.Template.Rewrite

/-!
# Splicing from the last word to the first

`splice` replaces characters at a line and a column of a list of lines. A replacement may hold
newlines itself, so the lines behind it are in general not those of any text; only the lines before
it still are. `glue` puts the two parts together.

* `splitLines_append`, `joinLines_glue` — lines and gluing.
* **`splice_glue`** — a splice at the end of the unchanged part replaces what stands there.
* `backwards_eq_reverse_of_perm` — the order in which words are replaced is the reverse of the order
  in which they stand, whatever the order in which they are listed.
-/

namespace TagScript

namespace Text

/-- Two rows of lines one behind the other: the first line of the second row goes on where the last
line of the first one ends. -/
def glue : List (List Char) → List (List Char) → List (List Char)
  | [], more => more
  | [line], [] => [line]
  | [line], next :: more => (line ++ next) :: more
  | line :: next :: lines, more => line :: glue (next :: lines) more

@[simp] theorem glue_nil (more : List (List Char)) : glue [] more = more := by
  simp [glue]

@[simp] theorem glue_cons (line next : List Char) (lines more : List (List Char)) :
    glue (line :: next :: lines) more = line :: glue (next :: lines) more := by
  simp [glue]

@[simp] theorem glue_singleton (line next : List Char) (more : List (List Char)) :
    glue [line] (next :: more) = (line ++ next) :: more := rfl

theorem glue_ne_nil {lines : List (List Char)} (h : lines ≠ []) (more : List (List Char)) :
    glue lines more ≠ [] := by
  fun_cases glue lines more <;> simp_all

theorem glue_assoc (lines more last : List (List Char)) :
    glue (glue lines more) last = glue lines (glue more last) := by
  fun_induction glue lines more with
  | case1 => simp
  | case2 => simp
  | case3 line next more =>
    cases more with
    | nil => cases last <;> simp [glue]
    | cons m more => simp
  | case4 line next lines more ih =>
    obtain ⟨l, ls, hl⟩ :=
      List.exists_cons_of_ne_nil (glue_ne_nil (List.cons_ne_nil next lines) more)
    rw [glue_cons, ← ih, hl, glue_cons]

/-- The lines of a text and of what follows it. -/
theorem splitLines_append (xs ys : List Char) :
    splitLines (xs ++ ys) = glue (splitLines xs) (splitLines ys) := by
  obtain ⟨y, more, hy⟩ := List.exists_cons_of_ne_nil (splitLines_ne_nil ys)
  induction xs with
  | nil => simp [splitLines, hy]
  | cons c xs ih =>
    obtain ⟨line, lines, hl⟩ := List.exists_cons_of_ne_nil (splitLines_ne_nil xs)
    rw [hl] at ih
    by_cases hc : c = '\n'
    · simp [splitLines, hc, ih, hl]
    · rw [List.cons_append, splitLines, splitLines, if_neg hc, if_neg hc, ih, hl]
      cases lines <;> simp [hy]

/-- The text of glued lines. -/
theorem joinLines_glue (lines more : List (List Char)) :
    joinLines (glue lines more) = joinLines lines ++ joinLines more := by
  fun_induction glue lines more with
  | case1 => simp [joinLines]
  | case2 => simp [joinLines]
  | case3 line next more => cases more <;> simp [joinLines]
  | case4 line next lines more ih =>
    obtain ⟨l, ls, hl⟩ :=
      List.exists_cons_of_ne_nil (glue_ne_nil (List.cons_ne_nil next lines) more)
    rw [hl] at ih ⊢
    simp [joinLines, ih]

theorem length_le_length_glue (lines more : List (List Char)) :
    lines.length ≤ (glue lines more).length := by
  fun_induction glue lines more with
  | case1 => simp
  | case2 => simp
  | case3 => simp
  | case4 _ _ _ _ ih => exact Nat.succ_le_succ ih

/-- A text without newlines is one line. -/
theorem splitLines_of_not_mem {cs : List Char} (h : '\n' ∉ cs) : splitLines cs = [cs] := by
  induction cs with
  | nil => rfl
  | cons c cs ih =>
    obtain ⟨hc, hcs⟩ : '\n' ≠ c ∧ '\n' ∉ cs := by simpa using h
    rw [splitLines, if_neg hc.symm, ih hcs]

end Text

open Text (splitLines joinLines glue)

/-! ## The place behind a text -/

/-- The place where the lines of a text end when the text begins at a place. -/
def Position.endOf (p : Position) : List (List Char) → Position
  | [] => p
  | [line] => ⟨p.line, p.column + line.length⟩
  | _ :: next :: lines => Position.endOf ⟨p.line + 1, 1⟩ (next :: lines)

theorem Position.advanceAll_eq_endOf (p : Position) (cs : List Char) :
    p.advanceAll cs = p.endOf (splitLines cs) := by
  induction cs generalizing p with
  | nil => rfl
  | cons c cs ih =>
    obtain ⟨line, lines, hl⟩ := List.exists_cons_of_ne_nil (Text.splitLines_ne_nil cs)
    rw [Position.advanceAll_cons, ih, splitLines, hl]
    by_cases hc : c = '\n'
    · simp [Position.advance, Position.endOf, hc]
    · cases lines with
      | nil => simp [Position.advance, Position.endOf, hc]; omega
      | cons next lines => simp [Position.advance, Position.endOf, hc]

theorem Position.line_endOf (p : Position) (lines : List (List Char)) :
    (p.endOf lines).line = p.line + (lines.length - 1) := by
  fun_induction Position.endOf p lines with
  | case1 => simp
  | case2 => simp
  | case3 p _ next lines ih =>
    rw [ih]
    simp
    omega

theorem Position.column_endOf (n : Nat) {lines : List (List Char)} (h : lines ≠ []) :
    (Position.endOf ⟨n, 1⟩ lines).column = (lines.getLast h).length + 1 := by
  induction lines generalizing n with
  | nil => exact absurd rfl h
  | cons line lines ih =>
    cases lines with
    | nil => simp [Position.endOf, Nat.add_comm]
    | cons next lines => simpa [Position.endOf] using ih (n + 1) (by simp)

/-! ## One splice -/

/-- A change of the line at which two rows of lines are glued. -/
theorem modify_glue {lines : List (List Char)} (h : lines ≠ []) (f : List Char → List Char)
    {next replacement : List Char} (more : List (List Char))
    (hf : f (lines.getLast h ++ next) = lines.getLast h ++ replacement) :
    (glue lines (next :: more)).modify (lines.length - 1) f = glue lines (replacement :: more) := by
  induction lines with
  | nil => exact absurd rfl h
  | cons line lines ih =>
    cases lines with
    | nil => simpa [glue] using hf
    | cons l lines => simpa using ih (by simp) (by simpa using hf)

/-- **A splice at the end of the unchanged part replaces what stands there.** -/
theorem splice_glue (before text replacement : List Char) (h : '\n' ∉ text)
    (more : List (List Char)) (hmore : more ≠ []) :
    splice (glue (splitLines (before ++ text)) more) (Position.start.advanceAll before) text.length
        replacement = glue (splitLines before) (glue [replacement] more) := by
  obtain ⟨next, more, rfl⟩ := List.exists_cons_of_ne_nil hmore
  have hb := Text.splitLines_ne_nil before
  rw [Text.splitLines_append, Text.glue_assoc, Text.splitLines_of_not_mem h, splice,
    Position.advanceAll_eq_endOf, Position.line_endOf, Position.start, Position.column_endOf 1 hb,
    Text.glue_singleton, Text.glue_singleton, Nat.add_sub_cancel_left]
  exact modify_glue hb _ _ (by simp)

/-- The line behind a text is there. -/
theorem line_le_length_glue (before : List Char) (more : List (List Char)) :
    (Position.start.advanceAll before).line ≤ (glue (splitLines before) more).length := by
  rw [Position.advanceAll_eq_endOf, Position.line_endOf]
  have hne := List.length_pos_iff.mpr (Text.splitLines_ne_nil before)
  have hle : (splitLines before).length ≤ (glue (splitLines before) more).length :=
    Text.length_le_length_glue _ _
  simp only [Position.start]
  omega

/-! ## The order of the words -/

theorem Position.isBefore_iff {p q : Position} :
    p.isBefore q = true ↔ p.line < q.line ∨ p.line = q.line ∧ p.column < q.column := by
  simp [Position.isBefore]

theorem Position.isBefore_irrefl (p : Position) : p.isBefore p = false := by
  simp [Bool.eq_false_iff, Position.isBefore_iff]

theorem Position.isBefore_of_not_isBefore {p q r : Position} (hpq : p.isBefore q = true)
    (hrq : r.isBefore q = false) : p.isBefore r = true := by
  rw [Bool.eq_false_iff, ne_eq, Position.isBefore_iff] at hrq
  rw [Position.isBefore_iff] at hpq ⊢
  omega

theorem Position.not_isBefore_of_isBefore {p q r : Position} (hpq : p.isBefore q = true)
    (hrq : r.isBefore q = false) : r.isBefore p = false := by
  rw [Bool.eq_false_iff, ne_eq, Position.isBefore_iff] at hrq ⊢
  rw [Position.isBefore_iff] at hpq
  omega

/-- A place stands before the place behind a text. -/
theorem Position.isBefore_advanceAll (p : Position) {cs : List Char} (h : cs ≠ []) :
    p.isBefore (p.advanceAll cs) = true := by
  induction cs generalizing p with
  | nil => exact absurd rfl h
  | cons c cs ih =>
    have hc : p.isBefore (p.advance c) = true := by
      rw [Position.isBefore_iff, Position.advance]
      split <;> simp
    cases cs with
    | nil => exact hc
    | cons d cs =>
      have hcs := ih (p.advance c) (List.cons_ne_nil d cs)
      rw [Position.isBefore_iff] at hc hcs ⊢
      rw [Position.advanceAll_cons]
      omega

/-- **The order in which words are listed does not matter.** They are replaced in the reverse of the
order in which they stand one behind the other. -/
theorem backwards_eq_reverse_of_perm {words sorted : List Token} (hperm : words.Perm sorted)
    (h : sorted.Pairwise fun a b => a.pos.isBefore b.pos = true) :
    backwards words = sorted.reverse := by
  have hsorted : (backwards words).Pairwise fun a b => (!a.pos.isBefore b.pos) = true := by
    refine List.pairwise_mergeSort (fun a b c => ?_) (fun a b => ?_) words
    · simp only [Bool.not_eq_true', Bool.eq_false_iff, ne_eq, Position.isBefore_iff]
      omega
    · simp only [Bool.or_eq_true, Bool.not_eq_true', Bool.eq_false_iff, ne_eq,
        Position.isBefore_iff]
      omega
  have hreverse : sorted.reverse.Pairwise fun a b => (!a.pos.isBefore b.pos) = true := by
    refine List.pairwise_reverse.mpr (h.imp fun hab => ?_)
    simp only [Bool.not_eq_true', Bool.eq_false_iff, ne_eq, Position.isBefore_iff] at hab ⊢
    omega
  refine List.Perm.eq_of_pairwise (fun a b ha hb hab hba => ?_) hsorted hreverse
    (((List.mergeSort_perm words _).trans hperm).trans (List.reverse_perm sorted).symm)
  obtain ⟨i, hi, rfl⟩ := List.getElem_of_mem (hperm.mem_iff.mp (List.mem_mergeSort.mp ha))
  obtain ⟨j, hj, rfl⟩ := List.getElem_of_mem (List.mem_reverse.mp hb)
  have hlt := List.pairwise_iff_getElem.mp h
  rcases Nat.lt_trichotomy i j with hij | rfl | hij
  · simp [hlt i j hi hj hij] at hab
  · rfl
  · simp [hlt j i hj hi hij] at hba

/-- Words one behind the other are replaced in the reverse order. -/
theorem backwards_eq_reverse {words : List Token}
    (h : words.Pairwise fun a b => a.pos.isBefore b.pos = true) :
    backwards words = words.reverse :=
  backwards_eq_reverse_of_perm (.refl words) h

end TagScript
