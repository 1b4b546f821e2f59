import Mathlib.Algebra.GroupWithZero.Nat
import Mathlib.Algebra.Order.BigOperators.Group.List
import Mathlib.Algebra.Order.Group.Nat
import TagScript.Proofs.Template.CompiledTokens
import TagScript.Proofs.Template.Replacement

/-!
# Where tokens stand in compiled text

Rewriting leaves the tokens between the element words as they are, but moves them: a token stands
behind the constructor calls that were put in for the element words before it. Those on its own line
move it along the line, and a name that holds a newline moves it to another line.

* `Token.IsCopied` — a token that rewriting cannot have put in.
* `exists_split_of_mem_respell` — such a token of a respelled row is one of the row.
* `line_respell`, `column_respell` — the place behind a respelled row.
* `Token.wordsBefore`, `Token.compiledPos` — the element words before a token, and where it comes to
  stand behind their calls.
* `KeepsPlace` — whether it stays where it was.
* **`exists_source_of_mem`** — where a copied token stands in the source, and when in the same place.
-/

namespace TagScript

/-- Whether a token is neither a command word nor a string in apostrophes, so that rewriting cannot
have put it in. -/
def Token.IsCopied (t : Token) : Prop :=
  t.kind ≠ .command ∧ ¬ (t.kind = .string ∧ t.text.toList.head? = some '\'')

/-! ## Places behind a text -/

namespace Position

/-- A text without newlines moves along the line. -/
theorem advanceAll_of_not_mem (p : Position) {cs : List Char} (h : '\n' ∉ cs) :
    p.advanceAll cs = ⟨p.line, p.column + cs.length⟩ := by
  induction cs generalizing p with
  | nil => rfl
  | cons c cs ih =>
    obtain ⟨hc, hcs⟩ : '\n' ≠ c ∧ '\n' ∉ cs := by simpa using h
    rw [advanceAll_cons, advance, if_neg hc.symm, ih _ hcs, List.length_cons]
    simp only [Position.mk.injEq, true_and]
    omega

/-- A text moves down by its newlines. -/
theorem line_advanceAll (p : Position) (cs : List Char) :
    (p.advanceAll cs).line = p.line + cs.count '\n' := by
  induction cs generalizing p with
  | nil => rfl
  | cons c cs ih =>
    rw [advanceAll_cons, ih, advance]
    by_cases hc : c = '\n'
    · rw [if_pos hc, hc, List.count_cons_self]
      dsimp only
      omega
    · rw [if_neg hc, List.count_cons_of_ne hc]

/-- Behind a newline the column does not depend on where the text began. -/
theorem column_advanceAll_of_mem (p q : Position) {cs : List Char} (h : '\n' ∈ cs) :
    (p.advanceAll cs).column = (q.advanceAll cs).column := by
  induction cs generalizing p q with
  | nil => cases h
  | cons c cs ih =>
    by_cases hcs : '\n' ∈ cs
    · exact ih _ _ hcs
    · obtain rfl : '\n' = c := (List.mem_cons.mp h).resolve_right hcs
      rw [advanceAll_cons, advanceAll_cons, advanceAll_of_not_mem _ hcs,
        advanceAll_of_not_mem _ hcs]
      rfl

end Position

namespace Lexer

variable {known : String → Bool} {registry : Registry} {name : String}

/-! ## Copied tokens -/

/-- The text of a respelled row is made of its parts. -/
theorem textOf_respell_append (row more : List Stretch) :
    textOf (respell known registry name (row ++ more)) =
      textOf (respell known registry name row) ++ textOf (respell known registry name more) := by
  induction row with
  | nil => rfl
  | cons s row ih =>
    rw [List.cons_append]
    cases hw : s.isElementWord known with
    | false => rw [respell_other hw, respell_other hw, textOf_cons, textOf_cons, ih, List.append_assoc]
    | true =>
      rw [respell_word hw, respell_word hw]
      simp [ih]

/-- The text of the call of an element word. -/
theorem textOf_respell_word {text : List Char}
    (h : (Stretch.token .command text 0).isElementWord known = true) (pos : Position)
    (length offset : Nat) :
    textOf (respell known registry name [.token .command text 0]) =
      callOf registry name ⟨.command, String.ofList text, pos, length, 0, offset⟩ := by
  rw [respell_word h]
  simp [callOf, constructorCall, literalOf, Stretch.chars]

/-- A copied token is not part of a literal. -/
theorem mem_of_mem_joinLiteral {literal : List Char} (hliteral : literal.head? = some '\'')
    {row : List Stretch} {pos : Position} {offset : Nat} {t : Token}
    (ht : t ∈ tokensAt pos offset (joinLiteral literal row)) (hcopied : t.IsCopied) :
    t ∈ tokensAt (pos.advanceAll literal) (offset + literal.length) row := by
  have hnot {text : List Char} {depth offset : Nat} {pos : Position} {length : Nat}
      (heq : t = ⟨.string, String.ofList (literal ++ text), pos, length, depth, offset⟩) : False := by
    refine hcopied.2 ⟨by rw [heq], ?_⟩
    rw [heq, String.toList_ofList, List.head?_append, hliteral]
    rfl
  fun_cases joinLiteral literal row with
  | case1 text depth row =>
    rw [joinLiteral, tokensAt] at ht
    rcases List.mem_cons.mp ht with heq | hrest
    · exact (hnot heq).elim
    · rw [Position.advanceAll_append, List.length_append, ← Nat.add_assoc] at hrest
      exact List.mem_cons_of_mem _ hrest
  | case2 row hno =>
    rw [joinLiteral.eq_2 _ _ hno, tokensAt] at ht
    rcases List.mem_cons.mp ht with heq | hrest
    · rw [← List.append_nil literal] at heq
      exact (hnot heq).elim
    · exact hrest

/-- **A copied token of a respelled row is one of the row.** It stands behind what was respelled
before it. -/
theorem exists_split_of_mem_respell {row : List Stretch} {pos : Position} {offset : Nat} {t : Token}
    (ht : t ∈ tokensAt pos offset (respell known registry name row)) (hcopied : t.IsCopied) :
    ∃ (kind : TokenKind) (text : List Char) (depth : Nat) (earlier later : List Stretch),
      row = earlier ++ .token kind text depth :: later ∧
      t = ⟨kind, String.ofList text,
        pos.advanceAll (textOf (respell known registry name earlier)), text.length, depth,
        offset + (textOf (respell known registry name earlier)).length⟩ := by
  induction row generalizing pos offset with
  | nil => cases ht
  | cons s row ih =>
    cases hw : s.isElementWord known with
    | false =>
      rw [respell_other hw] at ht
      cases s with
      | blank c =>
        obtain ⟨kind, text, depth, earlier, later, rfl, rfl⟩ := ih ht
        refine ⟨kind, text, depth, .blank c :: earlier, later, rfl, ?_⟩
        simp [Nat.add_assoc, Nat.add_comm 1]
      | token kind text depth =>
        rcases List.mem_cons.mp ht with rfl | hrest
        · exact ⟨kind, text, depth, [], row, rfl, rfl⟩
        · obtain ⟨kind', text', depth', earlier, later, rfl, rfl⟩ := ih hrest
          refine ⟨kind', text', depth', .token kind text depth :: earlier, later, rfl, ?_⟩
          rw [respell_other hw]
          simp [Position.advanceAll_append, Nat.add_assoc]
    | true =>
      rw [respell_word hw] at ht
      have hliteral : (literalOf registry s.chars).head? = some '\'' := by
        rw [literalOf, literal_toList]
        rfl
      rcases List.mem_cons.mp ht with rfl | hrest
      · exact absurd rfl hcopied.1
      · obtain ⟨kind, text, depth, earlier, later, rfl, rfl⟩ :=
          ih (mem_of_mem_joinLiteral hliteral hrest hcopied)
        refine ⟨kind, text, depth, s :: earlier, later, rfl, ?_⟩
        rw [respell_word hw]
        simp [Position.advanceAll_append, Nat.add_assoc, Nat.add_comm 1]

/-! ## Places behind a respelled row -/

/-- The last stretch of a row: an element word is listed and respelled, any other one is copied. -/
theorem last_cases (s : Stretch) (pos : Position) (offset : Nat) :
    (s.isElementWord known = false ∧
      Token.elementWords known true (tokensAt pos offset [s]) = [] ∧
      textOf (respell known registry name [s]) = s.chars) ∨
    ∃ w, s.isElementWord known = true ∧
      Token.elementWords known true (tokensAt pos offset [s]) = [w] ∧ w.pos = pos ∧
      w.length = s.chars.length ∧ textOf (respell known registry name [s]) = callOf registry name w := by
  cases hw : s.isElementWord known with
  | false =>
    refine .inl ⟨rfl, ?_, ?_⟩
    · cases s with
      | blank c => rfl
      | token kind text depth =>
        rw [elementWords_other hw]
        rfl
    · rw [respell_other hw, respell_nil, textOf_cons, textOf_nil, List.append_nil]
  | true =>
    obtain ⟨text, rfl⟩ := Stretch.eq_of_isElementWord hw
    exact .inr ⟨_, rfl, elementWords_word hw pos offset [], rfl, rfl,
      textOf_respell_word hw pos text.length offset⟩

/-- The element words of a row and of one more stretch. -/
theorem elementWords_tokensAt_append (pos : Position) (offset : Nat) (row more : List Stretch) :
    Token.elementWords known true (tokensAt pos offset (row ++ more)) =
      Token.elementWords known true (tokensAt pos offset row) ++
        Token.elementWords known true (tokensAt (pos.advanceAll (textOf row))
          (offset + (textOf row).length) more) := by
  rw [tokensAt_append, Token.elementWords, List.filter_append]
  rfl

/-- A token does not stand below the end of its row. -/
theorem line_le_of_mem_tokensAt {pos : Position} {offset : Nat} {row : List Stretch} {t : Token}
    (ht : t ∈ tokensAt pos offset row) : t.pos.line ≤ (pos.advanceAll (textOf row)).line := by
  obtain ⟨_, _, hsplit⟩ := List.append_of_mem ht
  obtain ⟨kind, text, depth, earlier, later, rfl, -, rfl, -⟩ := exists_split_of_tokensAt hsplit
  rw [textOf_append, Position.line_advanceAll, Position.line_advanceAll, List.count_append]
  omega

/-- None of its element words stands on the line behind a newline that follows the row. -/
theorem filter_line_of_newline {row : List Stretch} {cs : List Char} (h : '\n' ∈ cs) :
    (Token.elementWords known true (tokensAt .start 0 row)).filter (fun w =>
      w.pos.line == ((Position.start.advanceAll (textOf row)).advanceAll cs).line) = [] := by
  refine List.filter_eq_nil_iff.mpr fun w hw => ?_
  have hle := line_le_of_mem_tokensAt (List.mem_filter.mp hw).1
  have hcount := List.count_pos_iff.mpr h
  rw [beq_iff_eq, Position.line_advanceAll _ cs]
  omega

section

variable {row : List Stretch} (hflat : ∀ s ∈ row, s.isElementWord known = true → '\n' ∉ s.chars)
include hflat

/-- **The line behind a respelled row**: it is moved down by the newlines of the calls. -/
theorem line_respell :
    (Position.start.advanceAll (textOf (respell known registry name row))).line =
      (Position.start.advanceAll (textOf row)).line +
        ((Token.elementWords known true (tokensAt .start 0 row)).map fun w =>
          (callOf registry name w).count '\n').sum := by
  induction row using List.reverseRecOn with
  | nil => rfl
  | append_singleton row s ih =>
    obtain ⟨hrow, hs⟩ := List.forall_mem_append.mp hflat
    have hrest := ih hrow
    rw [Position.line_advanceAll, Position.line_advanceAll] at hrest ⊢
    rw [textOf_respell_append, textOf_append, List.count_append, List.count_append,
      elementWords_tokensAt_append, List.map_append, List.sum_append]
    rcases @last_cases known registry name s (Position.start.advanceAll (textOf row))
      (0 + (textOf row).length) with ⟨-, hnone, htext⟩ | ⟨w, hw, hone, -, -, htext⟩
    · rw [hnone, htext, textOf_cons, textOf_nil, List.append_nil, List.map_nil, List.sum_nil]
      omega
    · have hzero : s.chars.count '\n' = 0 :=
        List.count_eq_zero.mpr (hs s (List.mem_singleton.mpr rfl) hw)
      rw [hone, htext, textOf_cons, textOf_nil, List.append_nil, List.map_singleton,
        List.sum_singleton, hzero]
      omega

/-- **The column behind a respelled row**: where no call holds a newline, it is moved by the calls of
the last line, each as far as it is longer than its word. -/
theorem column_respell (hcalls : ∀ w ∈ Token.elementWords known true (tokensAt .start 0 row),
      '\n' ∉ callOf registry name w) :
    (Position.start.advanceAll (textOf (respell known registry name row))).column +
        (((Token.elementWords known true (tokensAt .start 0 row)).filter fun w =>
          w.pos.line == (Position.start.advanceAll (textOf row)).line).map (·.length)).sum =
      (Position.start.advanceAll (textOf row)).column +
        (((Token.elementWords known true (tokensAt .start 0 row)).filter fun w =>
          w.pos.line == (Position.start.advanceAll (textOf row)).line).map fun w =>
            (callOf registry name w).length).sum := by
  induction row using List.reverseRecOn with
  | nil => rfl
  | append_singleton row s ih =>
    obtain ⟨hrow, hs⟩ := List.forall_mem_append.mp hflat
    rw [elementWords_tokensAt_append] at hcalls ⊢
    obtain ⟨hbefore, hlast⟩ := List.forall_mem_append.mp hcalls
    have hrest := ih hrow hbefore
    rw [textOf_respell_append, textOf_append, Position.advanceAll_append,
      Position.advanceAll_append, List.filter_append, List.map_append, List.map_append,
      List.sum_append, List.sum_append]
    rcases @last_cases known registry name s (Position.start.advanceAll (textOf row))
      (0 + (textOf row).length) with ⟨-, hnone, htext⟩ | ⟨w, hw, hone, hpos, hlength, htext⟩
    · rw [hnone, htext, textOf_cons, textOf_nil, List.append_nil]
      by_cases hnewline : '\n' ∈ s.chars
      · -- a new line begins, so the words before do not stand on it
        rw [filter_line_of_newline hnewline]
        exact Position.column_advanceAll_of_mem _ _ hnewline
      · rw [Position.advanceAll_of_not_mem _ hnewline, Position.advanceAll_of_not_mem _ hnewline]
        simp only [List.filter_nil, List.map_nil, List.sum_nil]
        omega
    · have hword : '\n' ∉ s.chars := hs s (List.mem_singleton.mpr rfl) hw
      rw [hone] at hlast
      have hcall : '\n' ∉ callOf registry name w := hlast w (List.mem_singleton.mpr rfl)
      have hline : (w.pos.line == (Position.start.advanceAll (textOf row)).line) = true := by
        rw [hpos, beq_iff_eq]
      rw [hone, htext, textOf_cons, textOf_nil, List.append_nil,
        Position.advanceAll_of_not_mem _ hword, Position.advanceAll_of_not_mem _ hcall]
      simp only [List.filter_cons, hline, if_true, List.filter_nil, List.map_singleton,
        List.sum_singleton]
      omega

end

end Lexer

open Lexer

/-! ## Words before a token -/

/-- The element words of a text that stand before a token. -/
def Token.wordsBefore (known : String → Bool) (ts : List Token) (t : Token) : List Token :=
  (Token.elementWords known true ts).filter (·.offset < t.offset)

/-- Where a token of a text comes to stand in compiled text: behind what stands before it, with
constructor calls for the element words there. -/
def Token.compiledPos (known : String → Bool) (registry : Registry) (name : String)
    (source : List Char) (ts : List Token) (t : Token) : Position :=
  Position.start.advanceAll
    (replaceAt (callOf registry name) (t.wordsBefore known ts) 0 (source.take t.offset))

/-- Whether the place behind some element words stays the same when constructor calls stand for
them: no name of them holds a newline, and those on the line are in all as long as their calls. -/
def KeepsPlace (registry : Registry) (name : String) (words : List Token) (line : Nat) : Prop :=
  (∀ w ∈ words, '\n' ∉ (registry.spelled w.text).toList) ∧
    ((words.filter (·.pos.line == line)).map (·.length)).sum =
      ((words.filter (·.pos.line == line)).map fun w => (callOf registry name w).length).sum

instance (registry : Registry) (name : String) (words : List Token) (line : Nat) :
    Decidable (KeepsPlace registry name words line) :=
  inferInstanceAs (Decidable (_ ∧ _))

/-- Doubling apostrophes adds no other characters. -/
theorem Text.mem_doubleApostrophes {c : Char} (hc : c ≠ '\'') {cs : List Char} :
    c ∈ doubleApostrophes cs ↔ c ∈ cs := by
  induction cs with
  | nil => exact Iff.rfl
  | cons d cs ih =>
    rw [doubleApostrophes]
    split
    · rename_i hd
      simp [ih, hd, hc]
    · simp [ih]

/-- A call holds a newline exactly if the name of the element does, if the constructor holds none. -/
theorem newline_mem_callOf {registry : Registry} {name : String} (hname : '\n' ∉ name.toList)
    (w : Token) : '\n' ∈ callOf registry name w ↔ '\n' ∈ (registry.spelled w.text).toList := by
  have hliteral : '\n' ∈ (Text.literal (registry.spelled w.text)).toList ↔
      '\n' ∈ (registry.spelled w.text).toList := by
    rw [literal_toList]
    simp [Text.mem_doubleApostrophes]
  rw [callOf, constructorCall, String.toList_append, String.toList_append, List.mem_append,
    List.mem_append, hliteral]
  simp [hname]

/-- Tokens one behind the other: those that begin before one of them stand before it. -/
theorem filter_before {before after : List Token} {t : Token}
    (h : (before ++ t :: after).Pairwise fun a b => a.offset < b.offset) :
    (before ++ t :: after).filter (·.offset < t.offset) = before := by
  obtain ⟨-, hafter, hbefore⟩ := List.pairwise_append.mp h
  have hnone : (t :: after).filter (fun a => decide (a.offset < t.offset)) = [] := by
    refine List.filter_eq_nil_iff.mpr fun a ha => ?_
    rcases List.mem_cons.mp ha with rfl | ha
    · simp
    · have hlt := (List.pairwise_cons.mp hafter).1 a ha
      simp only [decide_eq_true_eq]
      omega
  rw [List.filter_append, hnone, List.append_nil]
  exact List.filter_eq_self.mpr fun a ha =>
    decide_eq_true (hbefore a ha t List.mem_cons_self)

/-- Calls stand for the tokens that are chosen, so it matters only which ones of the row they are. -/
theorem Lexer.textWithCalls_congr {registry : Registry} {name : String}
    {chosen chosen' : Token → Bool} {row : List Stretch} {pos : Position} {offset : Nat}
    (h : ∀ t ∈ tokensAt pos offset row, chosen t = chosen' t) :
    textWithCalls registry name chosen pos offset row =
      textWithCalls registry name chosen' pos offset row := by
  induction row generalizing pos offset with
  | nil => rfl
  | cons s row ih =>
    cases s with
    | blank c => rw [textWithCalls, textWithCalls, ih h]
    | token kind text depth =>
      obtain ⟨ht, hrow⟩ := List.forall_mem_cons.mp h
      rw [textWithCalls, textWithCalls, ih hrow, ht]

section

variable {known : String → Bool} {registry : Registry} {name : String}

/-- The text of a respelled row, by the places of its element words. -/
theorem Lexer.textOf_respell {row : List Stretch} (hne : ∀ s ∈ row, s.chars ≠ []) :
    textOf (respell known registry name row) =
      replaceAt (callOf registry name) (Token.elementWords known true (tokensAt .start 0 row)) 0
        (textOf row) := by
  have hplaces := textWithCalls_eq_replaceAt registry name hne .start 0
    fun w (hw : w ∈ Token.elementWords known true (tokensAt .start 0 row)) =>
      .inr (List.mem_filter.mp hw).1
  rw [← textWithCalls_elementWords .start 0 row, ← hplaces]
  refine textWithCalls_congr fun t ht => ?_
  rw [Bool.eq_iff_iff, List.contains_iff_mem, Token.elementWords, List.mem_filter]
  exact (and_iff_right ht).symm

/-- **When a respelled row ends in the place in which the row ends.** -/
theorem Lexer.pos_respell_iff (hname : '\n' ∉ name.toList) {row : List Stretch}
    (hflat : ∀ s ∈ row, s.isElementWord known = true → '\n' ∉ s.chars) :
    Position.start.advanceAll (textOf (respell known registry name row)) =
        Position.start.advanceAll (textOf row) ↔
      KeepsPlace registry name (Token.elementWords known true (tokensAt .start 0 row))
        (Position.start.advanceAll (textOf row)).line := by
  have hline := @line_respell known registry name row hflat
  constructor
  · intro hsame
    have hzero := hline
    rw [hsame] at hzero
    have hcalls : ∀ w ∈ Token.elementWords known true (tokensAt .start 0 row),
        '\n' ∉ callOf registry name w := by
      intro w hw
      have hle := List.single_le_sum (fun _ _ => Nat.zero_le _) _
        (List.mem_map_of_mem (f := fun w => (callOf registry name w).count '\n') hw)
      exact List.count_eq_zero.mp (by omega)
    have hcolumn := column_respell hflat hcalls
    rw [hsame] at hcolumn
    exact ⟨fun w hw => mt (newline_mem_callOf hname w).mpr (hcalls w hw), by omega⟩
  · rintro ⟨hnames, hlengths⟩
    have hcalls : ∀ w ∈ Token.elementWords known true (tokensAt .start 0 row),
        '\n' ∉ callOf registry name w := fun w hw =>
      mt (newline_mem_callOf hname w).mp (hnames w hw)
    have hcolumn := column_respell hflat hcalls
    have hnone : ((Token.elementWords known true (tokensAt .start 0 row)).map fun w =>
        (callOf registry name w).count '\n').sum = 0 := by
      refine List.sum_eq_zero fun n hn => ?_
      obtain ⟨w, hw, rfl⟩ := List.mem_map.mp hn
      exact List.count_eq_zero.mpr (hcalls w hw)
    have hsameLine : (Position.start.advanceAll (textOf (respell known registry name row))).line =
        (Position.start.advanceAll (textOf row)).line := by omega
    have hsameColumn :
        (Position.start.advanceAll (textOf (respell known registry name row))).column =
          (Position.start.advanceAll (textOf row)).column := by omega
    exact congrArg₂ Position.mk hsameLine hsameColumn

/-- An element word of a readable row holds no newline. -/
theorem Lexer.Readable.flat {commandNext : Bool} {opened : List Char} {row : List Stretch}
    (h : Readable commandNext opened row) :
    ∀ s ∈ row, s.isElementWord known = true → '\n' ∉ s.chars := by
  induction row generalizing commandNext opened with
  | nil => exact nofun
  | cons s row ih =>
    cases s with
    | blank c => exact List.forall_mem_cons.mpr ⟨nofun, ih h.2⟩
    | token kind text depth =>
      obtain ⟨hbegins, inner, hnest, hrow⟩ := h
      refine List.forall_mem_cons.mpr ⟨fun hw => ?_, ih hrow⟩
      obtain ⟨_, heq⟩ := Stretch.eq_of_isElementWord hw
      cases heq
      exact hbegins.newline_not_mem

/-- **Where a token of compiled text stands in the source.** A token that rewriting did not put in is
a token of the source. It stands in the same place exactly if the calls before it keep its place. -/
theorem Lexer.exists_source_of_mem {row : List Stretch} (hrow : Readable true [] row)
    (hname : '\n' ∉ name.toList) {t : Token}
    (ht : t ∈ tokensAt .start 0 (respell known registry name row)) (hcopied : t.IsCopied) :
    ∃ u ∈ tokensAt .start 0 row, u.face = t.face ∧
      t.pos = u.compiledPos known registry name (textOf row) (tokensAt .start 0 row) ∧
      (t.pos = u.pos ↔ KeepsPlace registry name (u.wordsBefore known (tokensAt .start 0 row))
        u.pos.line) := by
  obtain ⟨kind, text, depth, earlier, later, rfl, rfl⟩ := exists_split_of_mem_respell ht hcopied
  have hearlier : ∀ s ∈ earlier, s ∈ earlier ++ .token kind text depth :: later := fun s hs =>
    List.mem_append_left _ hs
  have htokens := tokensAt_append .start 0 earlier (.token kind text depth :: later)
  rw [tokensAt, Nat.zero_add] at htokens
  generalize hu : (⟨kind, String.ofList text, Position.start.advanceAll (textOf earlier),
    text.length, depth, (textOf earlier).length⟩ : Token) = u at htokens
  have hoffset : u.offset = (textOf earlier).length := by rw [← hu]
  have hpos : u.pos = Position.start.advanceAll (textOf earlier) := by rw [← hu]
  have hordered := hrow.ordered.imp fun {a b} hab => hab.1
  rw [htokens] at hordered
  have hwords : u.wordsBefore known (tokensAt .start 0 (earlier ++ .token kind text depth :: later))
      = Token.elementWords known true (tokensAt .start 0 earlier) := by
    rw [Token.wordsBefore, Token.elementWords, List.filter_comm, htokens, filter_before hordered]
    rfl
  have hbefore : (textOf (earlier ++ .token kind text depth :: later)).take u.offset =
      textOf earlier := by
    rw [textOf_append, hoffset, List.take_left]
  have hrespelled := @textOf_respell known registry name earlier fun s hs =>
    hrow.chars_ne_nil s (hearlier s hs)
  refine ⟨u, ?_, by rw [← hu]; rfl, ?_, ?_⟩
  · rw [htokens]
    exact List.mem_append_right _ List.mem_cons_self
  · rw [Token.compiledPos, hwords, hbefore, ← hrespelled]
  · rw [hwords, hpos]
    exact pos_respell_iff hname fun s hs => hrow.flat s (hearlier s hs)

end

end TagScript
