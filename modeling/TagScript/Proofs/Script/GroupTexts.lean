import TagScript.Proofs.Script.Groups
import TagScript.Proofs.Script.Nesting
import TagScript.Proofs.Template.CompiledTokens
import TagScript.Build.Run

/-!
# The texts of nested blocks

Making a block ready changes words outside of its brace groups only. So the groups of the compiled
text are those of the text as written, character for character, and the blocks that a run of the
compiled text comes to are what was written between their braces.

* `exists_parts_respell` — the outline of a respelled row has the same groups.
* `Statement.groupTexts` — the texts of the blocks that stand in a statement.
* `groupTexts_statements`, `Nest.run_texts` — statements and paired brackets keep all groups.
* **`compile_keeps_groups`** — the groups of what a request for a template yields.
-/

namespace TagScript

/-! ## Groups of respelled rows -/

namespace Lexer

variable {known : String → Bool} {registry : Registry} {name : String}

/-- What stands inside of brace groups is not respelled. -/
theorem respell_raise (inner row : List Stretch) :
    respell known registry name (inner.map (Stretch.raise 1) ++ row) =
      inner.map (Stretch.raise 1) ++ respell known registry name row := by
  induction inner with
  | nil => rfl
  | cons s inner ih =>
    have hother : (s.raise 1).isElementWord known = false := by
      cases s <;> simp [Stretch.raise, Stretch.isElementWord]
    rw [List.map_cons, List.cons_append, respell_other hother, ih, List.cons_append]

/-- A literal before an outline makes no group and takes none away. -/
theorem exists_parts_joinLiteral (literal : List Char) {parts : List Part}
    (h : ∀ p ∈ parts, p.Proper) :
    ∃ parts', rowOf parts' = joinLiteral literal (rowOf parts) ∧ (∀ p ∈ parts', p.Proper) ∧
      parts'.filterMap Part.text? = parts.filterMap Part.text? := by
  have hown : ∃ parts', rowOf parts' = .token .string literal 0 :: rowOf parts ∧
      (∀ p ∈ parts', p.Proper) ∧ parts'.filterMap Part.text? = parts.filterMap Part.text? :=
    ⟨.stretch (.token .string literal 0) :: parts, rfl,
      List.forall_mem_cons.mpr ⟨⟨nofun, nofun, rfl⟩, h⟩, rfl⟩
  unfold joinLiteral
  split
  · rename_i text depth row hrow
    cases parts with
    | nil => cases hrow
    | cons p parts =>
      cases p with
      | group inner =>
        rw [rowOf_group] at hrow
        cases hrow
      | stretch s =>
        obtain ⟨hs, hparts⟩ := List.forall_mem_cons.mp h
        obtain ⟨rfl, rfl⟩ := List.cons.inj hrow
        exact ⟨.stretch (.token .string (literal ++ '\'' :: text) depth) :: parts, rfl,
          List.forall_mem_cons.mpr ⟨⟨nofun, nofun, hs.2.2⟩, hparts⟩, rfl⟩
  · exact hown

/-- **The outline of a respelled row has the same groups.** -/
theorem exists_parts_respell {parts : List Part} (h : ∀ p ∈ parts, p.Proper) :
    ∃ parts', rowOf parts' = respell known registry name (rowOf parts) ∧
      (∀ p ∈ parts', p.Proper) ∧ parts'.filterMap Part.text? = parts.filterMap Part.text? := by
  induction parts with
  | nil => exact ⟨[], rfl, nofun, rfl⟩
  | cons p parts ih =>
    obtain ⟨hp, hparts⟩ := List.forall_mem_cons.mp h
    obtain ⟨rest, hrow, hrest, htexts⟩ := ih hparts
    cases p with
    | stretch s =>
      rw [rowOf_stretch]
      cases hw : s.isElementWord known with
      | false =>
        rw [respell_other hw, ← hrow]
        exact ⟨.stretch s :: rest, rfl, List.forall_mem_cons.mpr ⟨hp, hrest⟩, htexts⟩
      | true =>
        obtain ⟨joined, hjoined, hproper, hsame⟩ :=
          exists_parts_joinLiteral (literalOf registry s.chars) hrest
        rw [respell_word hw, ← hrow, ← hjoined]
        refine ⟨.stretch (.token .command name.toList 0) :: .stretch (.blank ' ') :: joined, rfl,
          List.forall_mem_cons.mpr ⟨⟨nofun, nofun, rfl⟩,
            List.forall_mem_cons.mpr ⟨trivial, hproper⟩⟩, ?_⟩
        exact hsame.trans htexts
    | group inner =>
      have hopening : (Stretch.token .groupStart ['{'] 0).isElementWord known = false := rfl
      have hclosing : (Stretch.token .groupEnd ['}'] 0).isElementWord known = false := rfl
      rw [rowOf_group, respell_other hopening, respell_raise, respell_other hclosing, ← hrow,
        ← rowOf_group]
      exact ⟨.group inner :: rest, rfl, List.forall_mem_cons.mpr ⟨hp, hrest⟩,
        congrArg (String.ofList (textOf inner) :: ·) htexts⟩

end Lexer

/-! ## Groups of statements -/

mutual

/-- The texts of the blocks that stand in an operand, in order. -/
def Operand.groupTexts : Operand → List String
  | .group source _ => [source]
  | .paren body => Statement.groupTextsOfAll body
  | .cast _ o => o.groupTexts
  | _ => []

/-- The texts of the blocks that stand in operands joined by commas. -/
def Operand.groupTextsOfRow : List Operand → List String
  | [] => []
  | o :: os => o.groupTexts ++ Operand.groupTextsOfRow os

/-- The texts of the blocks that stand in the operands of a statement. -/
def Operand.groupTextsOfRows : List (List Operand) → List String
  | [] => []
  | row :: more => Operand.groupTextsOfRow row ++ Operand.groupTextsOfRows more

/-- The texts of the blocks that stand in a statement. -/
def Statement.groupTexts : Statement → List String
  | .mk _ rows => Operand.groupTextsOfRows rows

/-- The texts of the blocks that stand in statements. -/
def Statement.groupTextsOfAll : List Statement → List String
  | [] => []
  | s :: ss => s.groupTexts ++ Statement.groupTextsOfAll ss

end

namespace Script

/-- The texts of the blocks that stand in an atom. -/
def Atom.groupTexts : Atom → List String
  | .token _ => []
  | .bracketed o => o.groupTexts

/-- The texts of the blocks that stand in a piece. -/
def Piece.groupTexts : Piece → List String
  | .operand o => o.groupTexts
  | .comma _ => []

/-- A token alone is no block. -/
theorem groupTexts_word (t : Token) : (word t).groupTexts = [] := by
  have hnumber : (number t.text).groupTexts = [] := by
    fun_cases number t.text <;> rfl
  unfold word
  split
  · unfold quotedString
    split <;> rfl
  · exact hnumber
  · unfold variableWithMembers
    split <;> rfl
  all_goals rfl

theorem groupTexts_castNext (t : Token) (ps : List Piece) :
    (castNext t ps).flatMap Piece.groupTexts = ps.flatMap Piece.groupTexts := by
  unfold castNext
  split <;> rfl

theorem groupTexts_pieces (row : List Atom) :
    (pieces row).flatMap Piece.groupTexts = row.flatMap Atom.groupTexts := by
  induction row with
  | nil => rfl
  | cons a row ih =>
    cases a with
    | bracketed o => simp [pieces, Piece.groupTexts, Atom.groupTexts, ih]
    | token t =>
      rw [pieces]
      split
      · simpa [Piece.groupTexts, Atom.groupTexts] using ih
      · simpa [groupTexts_castNext, Atom.groupTexts] using ih
      · simpa [Piece.groupTexts, Atom.groupTexts, groupTexts_word] using ih

theorem groupTexts_rows (ps : List Piece) :
    Operand.groupTextsOfRows (rows ps) = ps.flatMap Piece.groupTexts := by
  fun_induction rows ps with
  | case1 => rfl
  | case2 t rest ih => exact ih
  | case3 o t rest hrows ih =>
    rw [hrows] at ih
    simpa [Operand.groupTextsOfRows, Operand.groupTextsOfRow, Operand.groupTexts,
      Piece.groupTexts] using ih
  | case4 o t rest row more hrows ih =>
    rw [hrows] at ih
    simpa [Operand.groupTextsOfRows, Operand.groupTextsOfRow, Piece.groupTexts] using ih
  | case5 o rest _ ih =>
    simp [Operand.groupTextsOfRows, Operand.groupTextsOfRow, Piece.groupTexts, ih]

theorem groupTexts_statement (row : List Atom) :
    (statement row).groupTexts = row.flatMap Atom.groupTexts := by
  unfold statement
  split
  · split
    · rw [Statement.groupTexts, groupTexts_rows, groupTexts_pieces]
      rfl
    · rw [Statement.groupTexts, groupTexts_rows, groupTexts_pieces]
  · rw [Statement.groupTexts, groupTexts_rows, groupTexts_pieces]

theorem groupTexts_of_isKind {kind : TokenKind} {a : Atom} (h : a.isKind kind = true) :
    a.groupTexts = [] := by
  cases a with
  | token t => rfl
  | bracketed o => cases h

theorem groupTexts_of_ends {a : Atom}
    (h : (a.isKind .newline || a.isKind .separator) = true) : a.groupTexts = [] :=
  (Bool.or_eq_true _ _ ▸ h).elim groupTexts_of_isKind groupTexts_of_isKind

/-- What is dropped between statements is no block. -/
theorem groupTexts_cut (current row : List Atom) :
    (cut current row).flatMap (fun s => s.flatMap Atom.groupTexts) =
      (current.reverse ++ row).flatMap Atom.groupTexts := by
  fun_induction cut current row with
  | case1 current hempty => simp [List.isEmpty_iff.mp hempty]
  | case2 current _ => simp
  | case3 current a rest hjoin ih =>
    have ha := groupTexts_of_isKind (Bool.and_eq_true _ _ ▸ hjoin).1
    simp [ih, ha]
  | case4 current a rest _ hend hempty ih =>
    simp [ih, groupTexts_of_ends hend, List.isEmpty_iff.mp hempty]
  | case5 current a rest _ hend _ ih =>
    simp [ih, groupTexts_of_ends hend]
  | case6 current a rest _ _ ih => simp [ih]

theorem groupTextsOfAll_eq (ss : List Statement) :
    Statement.groupTextsOfAll ss = ss.flatMap Statement.groupTexts := by
  induction ss with
  | nil => rfl
  | cons s ss ih => rw [Statement.groupTextsOfAll, ih, List.flatMap_cons]

/-- **Statements keep the blocks of the row they are cut from.** -/
theorem groupTexts_statements (row : List Atom) :
    Statement.groupTextsOfAll (statements row) = row.flatMap Atom.groupTexts := by
  rw [groupTextsOfAll_eq, statements, List.flatMap_map]
  simp only [groupTexts_statement]
  exact groupTexts_cut [] row

/-! ## Groups of paired brackets -/

mutual

/-- The texts of the outermost brace groups of a nest. -/
def nestTexts (source : List Char) : Nest → List String
  | .token _ => []
  | .bracket opener inner closer =>
    if opener.kind = .groupStart then [between source opener closer]
    else nestTextsOfAll source inner

/-- The texts of the outermost brace groups of a row of nests. -/
def nestTextsOfAll (source : List Char) : List Nest → List String
  | [] => []
  | n :: ns => nestTexts source n ++ nestTextsOfAll source ns

end

theorem nestTextsOfAll_append (source : List Char) (ns ms : List Nest) :
    nestTextsOfAll source (ns ++ ms) = nestTextsOfAll source ns ++ nestTextsOfAll source ms := by
  induction ns with
  | nil => rfl
  | cons n ns ih => rw [List.cons_append, nestTextsOfAll, nestTextsOfAll, ih, List.append_assoc]

mutual

/-- An atom has the blocks of its nest. -/
theorem groupTexts_atom (source : List Char) :
    ∀ n : Nest, (atom source n).groupTexts = nestTexts source n
  | .token t => rfl
  | .bracket opener inner closer => by
    rw [atom, nestTexts, Atom.groupTexts]
    split
    · rfl
    · rw [Operand.groupTexts, groupTexts_statements, groupTexts_atoms]

/-- Atoms have the blocks of their nests. -/
theorem groupTexts_atoms (source : List Char) :
    ∀ ns : List Nest, (atoms source ns).flatMap Atom.groupTexts = nestTextsOfAll source ns
  | [] => rfl
  | n :: ns => by
    rw [atoms, nestTextsOfAll, List.flatMap_cons, groupTexts_atom, groupTexts_atoms]

end

end Script

namespace Nest

open Script (nestTextsOfAll)

/-- The texts of the outermost groups of the rows that are still open, the innermost last. -/
def outerTexts (source : List Char) : List (Token × List Nest) → List String
  | [] => []
  | (_, before) :: outer => outerTexts source outer ++ nestTextsOfAll source before.reverse

/-- The texts of the outermost groups that were closed so far, while no brace is open. -/
def Open.texts (source : List Char) (s : Open) : List String :=
  outerTexts source s.outer ++ nestTextsOfAll source s.row.reverse

/-- Whether all open brackets are parentheses. -/
def Open.OutsideBraces (s : Open) : Prop :=
  ∀ p ∈ s.outer, p.1.kind = .parenStart

/-- Outside of all braces a token that opens no group leaves the groups as they are. -/
theorem step_texts {s s' : Open} {t : Token} (h : step s t = some s') (hs : s.OutsideBraces)
    (hstart : t.kind ≠ .groupStart) (source : List Char) :
    s'.OutsideBraces ∧ s'.texts source = s.texts source := by
  obtain ⟨ht, rfl⟩ | ⟨-, opener, before, outer, houter, rfl⟩ | ⟨-, -, rfl⟩ := step_cases h
  · have hparen : t.kind = .parenStart := by
      unfold TokenKind.isOpener at ht
      split at ht
      · contradiction
      · assumption
      · cases ht
    exact ⟨List.forall_mem_cons.mpr ⟨hparen, hs⟩, by simp [Open.texts, outerTexts, nestTextsOfAll]⟩
  · rw [Open.OutsideBraces, houter] at hs
    obtain ⟨hopener, hrest⟩ := List.forall_mem_cons.mp hs
    refine ⟨hrest, ?_⟩
    simp [Open.texts, outerTexts, houter, nestTextsOfAll, Script.nestTextsOfAll_append,
      Script.nestTexts, show opener.kind = .parenStart from hopener]
  · refine ⟨hs, ?_⟩
    simp [Open.texts, nestTextsOfAll, Script.nestTextsOfAll_append, Script.nestTexts]

open Lexer (Part Stretch Readable rowOf tokensAt textOf openingBrace closingBrace)

/-- A walk over a brace group adds the group to the row it stands in. -/
theorem exists_run_group (s : Open) {inner : List Stretch} (hinner : Readable true [] inner)
    (pos pos₁ pos₂ : Position) (offset offset₁ offset₂ : Nat) (ts : List Token) :
    ∃ row, run s (Token.significant (openingBrace pos offset ::
        (tokensAt pos₁ offset₁ (inner.map (Stretch.raise 1)) ++ closingBrace pos₂ offset₂ :: ts))) =
      run ⟨.bracket (openingBrace pos offset) row (closingBrace pos₂ offset₂) :: s.row, s.outer⟩
        (Token.significant ts) := by
  have hkinds : (tokensAt pos₁ offset₁ (inner.map (Stretch.raise 1))).map Token.kind =
      inner.filterMap Stretch.kind? := by
    rw [Lexer.map_kind_tokensAt, Lexer.filterMap_kind?_raise]
  obtain ⟨row, hrun⟩ := exists_run_of_empty hinner hkinds
    ((openingBrace pos offset, s.row) :: s.outer)
  refine ⟨row.reverse, ?_⟩
  have hsplit : Token.significant (openingBrace pos offset ::
      (tokensAt pos₁ offset₁ (inner.map (Stretch.raise 1)) ++ closingBrace pos₂ offset₂ :: ts)) =
        openingBrace pos offset ::
          (Token.significant (tokensAt pos₁ offset₁ (inner.map (Stretch.raise 1))) ++
            closingBrace pos₂ offset₂ :: Token.significant ts) := by
    simp [Token.significant, List.filter_append, openingBrace, closingBrace,
      TokenKind.isSignificant]
  rw [hsplit, run, step_opener rfl, Option.bind_some, run_append]
  rw [hrun, Option.bind_some, run, step_closer rfl rfl, Option.bind_some]

/-- **A walk over an outline comes to the groups of the outline.** -/
theorem run_texts {parts : List Part} (hparts : ∀ p ∈ parts, p.Proper) (before : List Char)
    (pos : Position) {s s' : Open} (hs : s.OutsideBraces)
    (h : run s (Token.significant (tokensAt pos before.length (rowOf parts))) = some s') :
    s'.texts (before ++ textOf (rowOf parts)) =
      s.texts (before ++ textOf (rowOf parts)) ++ parts.filterMap Part.text? := by
  induction parts generalizing before pos s with
  | nil =>
    cases h
    simp
  | cons p parts ih =>
    obtain ⟨hp, htail⟩ := List.forall_mem_cons.mp hparts
    cases p with
    | stretch stretch =>
      have hrest := @ih htail (before ++ stretch.chars) (pos.advanceAll stretch.chars)
      rw [List.length_append, List.append_assoc, ← Lexer.textOf_cons] at hrest
      cases stretch with
      | blank c => exact hrest hs h
      | token kind text depth =>
        obtain ⟨hstart, -⟩ := hp
        rw [Lexer.rowOf_stretch, tokensAt, Token.significant, List.filter_cons] at h
        split at h
        · obtain ⟨next, hstep, hrun⟩ := Option.bind_eq_some_iff.mp h
          obtain ⟨hnext, htexts⟩ := step_texts hstep hs hstart
            (before ++ textOf (rowOf (.stretch (.token kind text depth) :: parts)))
          rw [← htexts]
          exact hrest hnext hrun
        · exact hrest hs h
    | group inner =>
      obtain ⟨pos₁, pos₂, pos₃, htokens⟩ :=
        Lexer.exists_tokensAt_group pos before.length inner parts
      obtain ⟨row, hrun⟩ := exists_run_group s hp pos pos₁ pos₂ before.length (before.length + 1)
        (before.length + 1 + (textOf inner).length)
        (tokensAt pos₃ (before.length + 1 + (textOf inner).length + 1) (rowOf parts))
      have hrest := @ih htail (before ++ '{' :: (textOf inner ++ ['}'])) pos₃
      rw [Lexer.length_group, Lexer.textOf_group] at hrest
      rw [htokens, hrun] at h
      have hgroup : Open.OutsideBraces ⟨.bracket (openingBrace pos before.length) row
          (closingBrace pos₂ (before.length + 1 + (textOf inner).length)) :: s.row, s.outer⟩ := hs
      have hcut : Script.between (before ++ '{' :: (textOf inner ++ '}' :: textOf (rowOf parts)))
          (openingBrace pos before.length)
          (closingBrace pos₂ (before.length + 1 + (textOf inner).length)) =
            String.ofList (textOf inner) := Lexer.between_eq before (textOf inner) _ rfl rfl
      rw [Lexer.textOf_rowOf_group, hrest hgroup h]
      simp [Open.texts, Script.nestTextsOfAll_append, nestTextsOfAll, Script.nestTexts, hcut,
        show (openingBrace pos before.length).kind = .groupStart from rfl, Part.text?]

end Nest

/-! ## What a request yields -/

open Lexer

namespace Script

/-- The texts of the brace groups that stand in no other one, in order. -/
def groupTexts (source : String) (ts : List Token) : List String :=
  (Token.outerGroups ts).map fun g => between source.toList g.1 g.2

theorem groupTexts_rowOf {parts : List Part} (h : ∀ p ∈ parts, p.Proper) :
    groupTexts (String.ofList (textOf (rowOf parts))) (tokensAt .start 0 (rowOf parts)) =
      parts.filterMap Part.text? := by
  rw [groupTexts, String.toList_ofList]
  exact map_between_outerGroups [] .start h

/-- **The statements of a text have the groups of its outline.** -/
theorem groupTexts_ofTokens {parts : List Part} (h : ∀ p ∈ parts, p.Proper)
    (hrow : Readable true [] (rowOf parts)) :
    Statement.groupTextsOfAll (ofTokens (String.ofList (textOf (rowOf parts)))
      (tokensAt .start 0 (rowOf parts))) = parts.filterMap Part.text? := by
  obtain ⟨row, hrun⟩ := Nest.exists_run_of_empty hrow (map_kind_tokensAt .start 0 _) []
  have htexts := Nest.run_texts h [] .start (s := ⟨[], []⟩) nofun hrun
  rw [ofTokens, Nest.read, hrun]
  dsimp only
  rw [groupTexts_statements, groupTexts_atoms, String.toList_ofList]
  exact htexts

end Script

/-- **Making a block ready keeps the texts of its groups.** The groups of the compiled text that
stand in no other group have, one by one, the texts of those of the text as written, and these are
the blocks that its statements come to. -/
theorem compile_keeps_groups {config : CompilerConfig} (hconfig : config.check = .ok ())
    {name : String} (hname : config.elementConstructor = .str name) (hword : IsCommandWord name)
    {host : CompilerHost} (htokenizes : host.tokenizes = true) {known : String → Bool}
    (hknows : host.knows = some known) {cache : Cache}
    (hcache : cache.Reached config.settings host) (registry : Registry) {source : String}
    {ts : List Token} (h : tokenize source = .ok ts) :
    ∃ t, (cache.compile config.settings host registry source).outcome = .ok t ∧
      tokenize t.compiled = .ok t.tokens ∧
      Script.groupTexts t.compiled t.tokens = Script.groupTexts source ts ∧
      Statement.groupTextsOfAll (Script.ofTemplate t) = Script.groupTexts source ts ∧
      ∀ E env scope text line s, Build.operand E env scope (.group text line) s =
        (.ok (.block ⟨text, some scope, line⟩), s) := by
  obtain ⟨row, htext, hrow, rfl⟩ := tokenize_eq_ok_iff.mp h
  obtain ⟨t, houtcome, hcompiled, htokens⟩ :=
    outcome_textOf hconfig hname hword htokenizes hknows hcache registry htext hrow
  have hrespelled : Readable true [] (respell known registry name row) :=
    hrow.respell (begins_of_isCommandWord hword)
  obtain ⟨parts, rfl, hparts⟩ := hrow.exists_parts rfl
  obtain ⟨parts', hrow', hparts', hsame⟩ := @exists_parts_respell known registry name parts hparts
  rw [← hrow'] at hcompiled htokens hrespelled
  obtain rfl : source = String.ofList (textOf (rowOf parts)) := by
    rw [htext, String.ofList_toList]
  rw [Script.groupTexts_rowOf hparts, ← hsame]
  refine ⟨t, houtcome, ?_, ?_, ?_, ?_⟩
  · rw [hcompiled, htokens]
    exact tokenize_textOf hrespelled
  · rw [hcompiled, htokens, Script.groupTexts_rowOf hparts']
  · rw [Script.ofTemplate, hcompiled, htokens, Script.groupTexts_ofTokens hparts' hrespelled]
  · exact fun E env scope text line s => by rw [Build.operand]; rfl

/-- A group behind an element word that stands between parentheses. -/
theorem compile_keeps_groups_paren :
    ∃ t, (Cache.empty.compile ({} : CompilerConfig).settings
        ⟨true, some fun _ => false, none⟩ .empty "a (b {c d})").outcome = .ok t ∧
      Script.groupTexts t.compiled t.tokens = ["c d"] ∧
      Statement.groupTextsOfAll (Script.ofTemplate t) = ["c d"] := by
  have hread : tokenize "a (b {c d})" =
      .ok [⟨.command, "a", ⟨1, 1⟩, 1, 0, 0⟩, ⟨.parenStart, "(", ⟨1, 3⟩, 1, 0, 2⟩,
        ⟨.command, "b", ⟨1, 4⟩, 1, 0, 3⟩, ⟨.groupStart, "\x7b", ⟨1, 6⟩, 1, 0, 5⟩,
        ⟨.command, "c", ⟨1, 7⟩, 1, 1, 6⟩, ⟨.argument, "d", ⟨1, 9⟩, 1, 1, 8⟩,
        ⟨.groupEnd, "\x7d", ⟨1, 10⟩, 1, 0, 9⟩, ⟨.parenEnd, ")", ⟨1, 11⟩, 1, 0, 10⟩] := rfl
  obtain ⟨t, houtcome, -, hcompiled, hstatements, -⟩ := @compile_keeps_groups {} rfl _ rfl
    ⟨_, rfl, rfl, rfl⟩ ⟨true, some fun _ => false, none⟩ rfl _ rfl _ .empty .empty _ _ hread
  exact ⟨t, houtcome, hcompiled.trans rfl, hstatements.trans rfl⟩

end TagScript
