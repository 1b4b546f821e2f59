import Mathlib.Data.List.Induction
import TagScript.Proofs.Token.Stretch

/-!
# The tokens of a text tile it

Every character of a text that is read belongs to one token or is a blank, and the coordinates of a
token are those of its first character.

* `Position.advanceAll_start` — line and column behind a text, counted in that text.
* `tokensAt_append` — the tokens of two rows, one behind the other.
* `Tiles` — what it means that tokens tile a text.
* **`tokenize_tiles`** — the tokens of a text that is read tile it.
-/

namespace TagScript

/-- **The place behind a text**: its line is one more than the newlines of the text, its column one
more than the characters behind the last of them. -/
theorem Position.advanceAll_start (cs : List Char) :
    Position.start.advanceAll cs =
      ⟨1 + cs.count '\n', 1 + (cs.reverse.takeWhile (· ≠ '\n')).length⟩ := by
  induction cs using List.reverseRecOn with
  | nil => rfl
  | append_singleton cs c ih =>
    rw [Position.advanceAll_append, ih, Position.advanceAll_cons, Position.advanceAll_nil,
      Position.advance]
    by_cases hc : c = '\n'
    · simp [hc, Nat.add_assoc]
    · simp [hc, Nat.add_comm]

namespace Lexer

theorem textOf_append (row more : List Stretch) :
    textOf (row ++ more) = textOf row ++ textOf more :=
  List.flatMap_append

/-- The tokens of two rows, one behind the other. -/
theorem tokensAt_append (pos : Position) (offset : Nat) (row more : List Stretch) :
    tokensAt pos offset (row ++ more) =
      tokensAt pos offset row ++
        tokensAt (pos.advanceAll (textOf row)) (offset + (textOf row).length) more := by
  induction row generalizing pos offset with
  | nil => simp [tokensAt]
  | cons s row ih =>
    cases s with
    | blank c => simp [tokensAt, ih, Nat.add_assoc, Nat.add_comm 1]
    | token kind text depth => simp [tokensAt, ih, Position.advanceAll_append, Nat.add_assoc]

/-- A place among the tokens of a row is a place in the row. The coordinates of a token are those of
its first character. -/
theorem exists_split_of_tokensAt {pos : Position} {offset : Nat} {row : List Stretch} {t : Token}
    {before after : List Token} (h : tokensAt pos offset row = before ++ t :: after) :
    ∃ (kind : TokenKind) (text : List Char) (depth : Nat) (earlier later : List Stretch),
      row = earlier ++ .token kind text depth :: later ∧
      before = tokensAt pos offset earlier ∧
      t = ⟨kind, String.ofList text, pos.advanceAll (textOf earlier), text.length, depth,
        offset + (textOf earlier).length⟩ ∧
      after = tokensAt (pos.advanceAll (textOf earlier ++ text))
        (offset + (textOf earlier).length + text.length) later := by
  induction row generalizing pos offset before with
  | nil => simp [tokensAt] at h
  | cons s row ih =>
    cases s with
    | blank c =>
      obtain ⟨kind, text, depth, earlier, later, rfl, rfl, rfl, rfl⟩ := ih h
      refine ⟨kind, text, depth, .blank c :: earlier, later, rfl, rfl, ?_, ?_⟩ <;>
        simp [Nat.add_assoc, Nat.add_comm 1]
    | token kind text depth =>
      cases before with
      | nil =>
        obtain ⟨rfl, rfl⟩ := List.cons.inj h
        exact ⟨kind, text, depth, [], row, rfl, rfl, rfl, rfl⟩
      | cons b before =>
        obtain ⟨rfl, htail⟩ := List.cons.inj h
        obtain ⟨_, _, _, earlier, later, rfl, rfl, rfl, rfl⟩ := ih htail
        refine ⟨_, _, _, .token kind text depth :: earlier, later, rfl, rfl, ?_, ?_⟩ <;>
          simp [Position.advanceAll_append, Nat.add_assoc]

/-- No token of a row begins before the row. -/
theorem le_offset_of_mem_tokensAt {pos : Position} {offset : Nat} {row : List Stretch} {t : Token}
    (h : t ∈ tokensAt pos offset row) : offset ≤ t.offset := by
  obtain ⟨_, _, hsplit⟩ := List.append_of_mem h
  obtain ⟨_, _, _, _, _, _, _, rfl, _⟩ := exists_split_of_tokensAt hsplit
  exact Nat.le_add_right ..

/-- A token ends before the next one begins. -/
theorem pairwise_offset_tokensAt (pos : Position) (offset : Nat) (row : List Stretch) :
    (tokensAt pos offset row).Pairwise fun a b => a.offset + a.length ≤ b.offset := by
  induction row generalizing pos offset with
  | nil => exact .nil
  | cons s row ih =>
    cases s with
    | blank c => exact ih ..
    | token kind text depth =>
      exact .cons (fun t ht => le_offset_of_mem_tokensAt ht) (ih ..)

/-- What is left of a readable row behind some of it is readable. -/
theorem Readable.suffix {commandNext : Bool} {opened : List Char} {earlier later : List Stretch}
    (h : Readable commandNext opened (earlier ++ later)) :
    ∃ commandNext opened, Readable commandNext opened later := by
  induction earlier generalizing commandNext opened with
  | nil => exact ⟨commandNext, opened, h⟩
  | cons s earlier ih =>
    cases s with
    | blank c => exact ih h.2
    | token _ _ _ =>
      obtain ⟨-, _, -, hrow⟩ := h
      exact ih hrow

/-- A token of a readable row stands between what comes before it and what comes behind it. -/
theorem Readable.exists_part {row : List Stretch} (h : Readable true [] row) {t : Token}
    (ht : t ∈ tokensAt .start 0 row) :
    ∃ text earlier later, textOf row = textOf earlier ++ (text ++ textOf later) ∧ text ≠ [] ∧
      t.text = String.ofList text ∧ t.length = text.length ∧ t.offset = (textOf earlier).length ∧
      t.pos = Position.start.advanceAll (textOf earlier) := by
  obtain ⟨_, _, hsplit⟩ := List.append_of_mem ht
  obtain ⟨kind, text, depth, earlier, later, rfl, -, rfl, -⟩ := exists_split_of_tokensAt hsplit
  obtain ⟨_, _, ⟨c, more, rfl, -⟩, -⟩ := h.suffix
  exact ⟨c :: more, earlier, later, textOf_append .., by simp, rfl, rfl, by simp, rfl⟩

/-- No token of a readable row is empty. -/
theorem Readable.token_ne_empty {row : List Stretch} (h : Readable true [] row) {t : Token}
    (ht : t ∈ tokensAt .start 0 row) : t.text ≠ "" ∧ 0 < t.length := by
  obtain ⟨text, earlier, later, -, hne, htext, hlength, -⟩ := h.exists_part ht
  rw [htext, hlength]
  exact ⟨mt String.ofList_eq_empty_iff.mp hne, List.length_pos_iff.mpr hne⟩

/-- The tokens of a readable row stand one behind the other. -/
theorem Readable.ordered {row : List Stretch} (h : Readable true [] row) :
    (tokensAt .start 0 row).Pairwise
      fun a b => a.offset < b.offset ∧ a.offset + a.length ≤ b.offset := by
  refine (pairwise_offset_tokensAt .start 0 row).imp_of_mem fun {a b} ha _ hab => ?_
  have hlength := (h.token_ne_empty ha).2
  exact ⟨by omega, hab⟩

/-- A character of a readable row that belongs to no token is a blank. -/
theorem Readable.isInlineSpace {commandNext : Bool} {opened : List Char} {row : List Stretch}
    (h : Readable commandNext opened row) (pos : Position) (offset : Nat) {i : Nat} {c : Char}
    (hc : (textOf row)[i]? = some c)
    (hout : ∀ t ∈ tokensAt pos offset row,
      ¬ (t.offset ≤ offset + i ∧ offset + i < t.offset + t.length)) :
    isInlineSpace c = true := by
  induction row generalizing commandNext opened pos offset i with
  | nil => simp at hc
  | cons s row ih =>
    cases s with
    | blank d =>
      obtain ⟨hd, hrow⟩ := h
      cases i with
      | zero =>
        simp only [textOf_blank, List.getElem?_cons_zero, Option.some.injEq] at hc
        exact hc ▸ hd
      | succ i =>
        have hshift : offset + (i + 1) = offset + 1 + i := by omega
        rw [hshift] at hout
        exact ih hrow _ _ (by simpa using hc) hout
    | token kind text depth =>
      obtain ⟨-, _, -, hrow⟩ := h
      obtain ⟨hhead, htail⟩ := List.forall_mem_cons.mp hout
      have hi : text.length ≤ i := by
        dsimp only at hhead
        omega
      rw [textOf_token, List.getElem?_append_right hi] at hc
      refine ih hrow (pos.advanceAll text) (offset + text.length) hc ?_
      rwa [show offset + text.length + (i - text.length) = offset + i by omega]

end Lexer

/-- What it means that tokens tile a text. -/
structure Tiles (source : List Char) (ts : List Token) : Prop where
  /-- The tokens stand one behind the other, each in its own place. -/
  ordered : ts.Pairwise fun a b => a.offset < b.offset ∧ a.offset + a.length ≤ b.offset
  /-- No token is empty. -/
  nonempty : ∀ t ∈ ts, t.text ≠ "" ∧ 0 < t.length
  /-- A token ends where the text ends or before. -/
  inside : ∀ t ∈ ts, t.offset + t.length ≤ source.length
  /-- The characters of a token are those at its place. -/
  text_eq : ∀ t ∈ ts, t.text.toList = (source.drop t.offset).take t.length
  /-- Between tokens there are blanks only. -/
  blank : ∀ i c, source[i]? = some c →
    (∀ t ∈ ts, ¬ (t.offset ≤ i ∧ i < t.offset + t.length)) → c = ' ' ∨ c = '\t' ∨ c = '\r'
  /-- Lines are counted by the newlines before a token. -/
  line_eq : ∀ t ∈ ts, t.pos.line = 1 + (source.take t.offset).count '\n'
  /-- Columns are counted by the characters behind the last of these newlines. -/
  column_eq : ∀ t ∈ ts,
    t.pos.column = 1 + ((source.take t.offset).reverse.takeWhile (· ≠ '\n')).length

open Lexer

/-- **The tokens of a text that is read tile it.** -/
theorem tokenize_tiles {source : String} {ts : List Token} (h : tokenize source = .ok ts) :
    Tiles source.toList ts := by
  obtain ⟨row, htext, hrow, rfl⟩ := tokenize_eq_ok_iff.mp h
  rw [← htext]
  refine ⟨hrow.ordered, fun t => hrow.token_ne_empty, ?_, ?_, ?_, ?_, ?_⟩
  · intro t ht
    obtain ⟨text, earlier, later, hsplit, -, -, hlength, hoffset, -⟩ := hrow.exists_part ht
    simp only [hsplit, hlength, hoffset, List.length_append]
    omega
  · intro t ht
    obtain ⟨text, earlier, later, hsplit, -, htext, hlength, hoffset, -⟩ := hrow.exists_part ht
    rw [hsplit, htext, hlength, hoffset, List.drop_left, List.take_left, String.toList_ofList]
  · intro i c hc hout
    have := hrow.isInlineSpace .start 0 hc (by simpa using hout)
    simpa [isInlineSpace, or_assoc] using this
  · intro t ht
    obtain ⟨text, earlier, later, hsplit, -, -, -, hoffset, hpos⟩ := hrow.exists_part ht
    rw [hsplit, hoffset, hpos, List.take_left, Position.advanceAll_start]
  · intro t ht
    obtain ⟨text, earlier, later, hsplit, -, -, -, hoffset, hpos⟩ := hrow.exists_part ht
    rw [hsplit, hoffset, hpos, List.take_left, Position.advanceAll_start]

/-- A text with two lines in one string, a line join and a remark. -/
theorem tokenize_tiles_lines :
    ∃ ts, tokenize "a 'x\ny' `\n b # z" = .ok ts ∧ Tiles "a 'x\ny' `\n b # z".toList ts ∧
      ts.map (fun t => (t.offset, t.pos)) =
        [(0, ⟨1, 1⟩), (2, ⟨1, 3⟩), (8, ⟨2, 4⟩), (11, ⟨3, 2⟩), (13, ⟨3, 4⟩)] := by
  have hread : ∃ ts, tokenize "a 'x\ny' `\n b # z" = .ok ts ∧
      ts.map (fun t => (t.offset, t.pos)) =
        [(0, ⟨1, 1⟩), (2, ⟨1, 3⟩), (8, ⟨2, 4⟩), (11, ⟨3, 2⟩), (13, ⟨3, 4⟩)] := ⟨_, rfl, rfl⟩
  obtain ⟨ts, hts, hplaces⟩ := hread
  exact ⟨ts, hts, tokenize_tiles hts, hplaces⟩

end TagScript
