import TagScript.Proofs.Build.ConstructorCalls
import TagScript.Proofs.Script.GroupTexts

/-!
# Statements between parentheses

A statement stands in the row of its text, or between parentheses in an operand of another one. The
element words outside of all brace groups are found in both places alike, and in both the compiled
text has a call of the constructor for a word with which a statement begins.

* `Statement.Within` — the statements of a row and those between parentheses in them.
* `Nest.Opens` — the words with which a statement begins, at any level of parentheses.
* **`Nest.Respelled.within`** — the calls of the constructor in compiled text.
* `Template.exists_respelled` — the statements of a template, by the row of its text.
-/

namespace TagScript

/-- Whether an operand is a row of statements between parentheses, perhaps with casts before it. -/
inductive Operand.Encloses (body : List Statement) : Operand → Prop where
  | paren : Operand.Encloses body (.paren body)
  | cast {type : Token} {o : Operand} : Operand.Encloses body o →
      Operand.Encloses body (.cast type o)

/-- Whether a statement is one of a row, or stands between parentheses in one of them. -/
inductive Statement.Within (st : Statement) : List Statement → Prop where
  | here {ss : List Statement} : st ∈ ss → Statement.Within st ss
  | inner {ss body : List Statement} {command : Option String} {rows : List (List Operand)}
      {row : List Operand} {o : Operand} : .mk command rows ∈ ss → row ∈ rows → o ∈ row →
        o.Encloses body → Statement.Within st body → Statement.Within st ss

/-! ## Parentheses in a row -/

namespace Script

variable {body : List Statement}

/-- A cast is put before the first operand, and what the operand encloses stays enclosed. -/
theorem exists_mem_castNext (t : Token) {o : Operand} {ps : List Piece} (h : .operand o ∈ ps)
    (ho : o.Encloses body) : ∃ o', .operand o' ∈ castNext t ps ∧ o'.Encloses body := by
  unfold castNext
  split
  · rcases List.mem_cons.mp h with heq | h
    · cases heq
      exact ⟨_, List.mem_cons_self, ho.cast⟩
    · exact ⟨o, List.mem_cons_of_mem _ h, ho⟩
  · exact ⟨o, List.mem_cons_of_mem _ h, ho⟩

theorem exists_mem_pieces {row : List Atom} (h : .bracketed (.paren body) ∈ row) :
    ∃ o, .operand o ∈ pieces row ∧ o.Encloses body := by
  induction row with
  | nil => cases h
  | cons a row ih =>
    rcases List.mem_cons.mp h with rfl | h
    · exact ⟨_, List.mem_cons_self, .paren⟩
    · obtain ⟨o, hmem, ho⟩ := ih h
      cases a with
      | bracketed o' => exact ⟨o, List.mem_cons_of_mem _ hmem, ho⟩
      | token t =>
        rw [pieces]
        split
        · exact ⟨o, List.mem_cons_of_mem _ hmem, ho⟩
        · exact exists_mem_castNext t hmem ho
        · exact ⟨o, List.mem_cons_of_mem _ hmem, ho⟩

/-- Every operand stands in one of the rows. -/
theorem exists_mem_rows {o : Operand} {ps : List Piece} (h : .operand o ∈ ps) :
    ∃ row ∈ rows ps, o ∈ row := by
  fun_induction rows ps with
  | case1 => cases h
  | case2 t rest ih =>
    obtain ⟨row, hrow, ho⟩ := ih ((List.mem_cons.mp h).resolve_left Piece.noConfusion)
    exact ⟨row, List.mem_cons_of_mem _ hrow, ho⟩
  | case3 first t rest hrest ih =>
    rcases List.mem_cons.mp h with heq | h
    · cases heq
      exact ⟨_, List.mem_cons_self, List.mem_cons_self⟩
    · obtain ⟨row, hrow, -⟩ := ih ((List.mem_cons.mp h).resolve_left Piece.noConfusion)
      rw [hrest] at hrow
      cases hrow
  | case4 first t rest row more hrest ih =>
    rcases List.mem_cons.mp h with heq | h
    · cases heq
      exact ⟨_, List.mem_cons_self, List.mem_cons_self⟩
    · obtain ⟨row', hrow, ho⟩ := ih ((List.mem_cons.mp h).resolve_left Piece.noConfusion)
      rw [hrest] at hrow
      rcases List.mem_cons.mp hrow with rfl | hrow
      · exact ⟨_, List.mem_cons_self, List.mem_cons_of_mem _ ho⟩
      · exact ⟨row', List.mem_cons_of_mem _ hrow, ho⟩
  | case5 first rest _ ih =>
    rcases List.mem_cons.mp h with heq | h
    · cases heq
      exact ⟨_, List.mem_cons_self, List.mem_cons_self⟩
    · obtain ⟨row, hrow, ho⟩ := ih h
      exact ⟨row, List.mem_cons_of_mem _ hrow, ho⟩

/-- Cutting a row loses nothing but newlines and semicolons. -/
theorem exists_mem_cut {a : Atom} (hnewline : a.isKind .newline = false)
    (hseparator : a.isKind .separator = false) {current row : List Atom}
    (h : a ∈ current ∨ a ∈ row) : ∃ s ∈ cut current row, a ∈ s := by
  have hends {b : Atom} {rest : List Atom}
      (hb : (b.isKind .newline || b.isKind .separator) = true) (hmem : a ∈ b :: rest) :
      a ∈ rest := by
    refine (List.mem_cons.mp hmem).resolve_left fun heq => ?_
    subst heq
    rw [hnewline, hseparator] at hb
    cases hb
  fun_induction cut current row with
  | case1 current hempty =>
    rw [List.isEmpty_iff.mp hempty] at h
    rcases h with h | h <;> cases h
  | case2 current _ =>
    exact ⟨_, List.mem_singleton_self _, List.mem_reverse.mpr (h.resolve_right List.not_mem_nil)⟩
  | case3 current b rest hb ih =>
    refine ih (h.imp_right fun h => hends ?_ h)
    rw [Bool.and_eq_true] at hb
    rw [hb.1, Bool.true_or]
  | case4 current b rest _ hb hempty ih =>
    rw [List.isEmpty_iff.mp hempty] at h
    exact ih (.inr (hends hb (h.resolve_left List.not_mem_nil)))
  | case5 current b rest _ hb _ ih =>
    rcases h with h | h
    · exact ⟨_, List.mem_cons_self, List.mem_reverse.mpr h⟩
    · obtain ⟨s, hs, ha⟩ := ih (.inr (hends hb h))
      exact ⟨s, List.mem_cons_of_mem _ hs, ha⟩
  | case6 current b rest _ _ ih =>
    refine ih ?_
    rcases h with h | h
    · exact .inl (List.mem_cons_of_mem b h)
    · rcases List.mem_cons.mp h with rfl | h
      · exact .inl List.mem_cons_self
      · exact .inr h

/-- What stands between parentheses in a statement is enclosed by one of its operands. -/
theorem exists_encloses {row : List Atom} (h : .bracketed (.paren body) ∈ row) :
    ∃ command rows, statement row = .mk command rows ∧
      ∃ operands ∈ rows, ∃ o ∈ operands, o.Encloses body := by
  have hrows {row : List Atom} (h : .bracketed (.paren body) ∈ row) :
      ∃ operands ∈ rows (pieces row), ∃ o ∈ operands, o.Encloses body := by
    obtain ⟨o, hmem, ho⟩ := exists_mem_pieces h
    obtain ⟨operands, hoperands, hin⟩ := exists_mem_rows hmem
    exact ⟨operands, hoperands, o, hin, ho⟩
  unfold statement
  split
  · split
    · exact ⟨_, _, rfl, hrows ((List.mem_cons.mp h).resolve_left nofun)⟩
    · exact ⟨_, _, rfl, hrows h⟩
  · exact ⟨_, _, rfl, hrows h⟩

/-- A statement between parentheses stands within the row. -/
theorem within_of_bracketed {st : Statement} {row : List Atom}
    (h : .bracketed (.paren body) ∈ row) (hst : st.Within body) : st.Within (statements row) := by
  obtain ⟨s, hs, ha⟩ := @exists_mem_cut _ rfl rfl [] row (.inr h)
  obtain ⟨command, rows, hstatement, operands, hoperands, o, ho, hencloses⟩ := exists_encloses ha
  have hmem : Statement.mk command rows ∈ statements row := by
    rw [← hstatement]
    exact List.mem_map_of_mem hs
  exact .inner hmem hoperands ho hencloses hst

end Script

/-! ## Words that open statements -/

namespace Nest

/-- Whether a word begins a statement of a row, or of parentheses in it, and no comma follows. -/
inductive Opens (w : Token) : List Nest → Prop where
  | here {row rest : List Nest} : .token w :: rest ∈ cut [] row →
      rest.head?.any (isKind .comma) = false → Opens w row
  | inner {row inner : List Nest} {opener closer : Token} : .bracket opener inner closer ∈ row →
      opener.kind ≠ .groupStart → Opens w inner → Opens w row

variable {source : List Char} {known : String → Bool} {registry : Registry} {name : String}

/-- Brackets in a row of the text as written are brackets in that of the compiled text. -/
theorem Respelled.exists_bracket {ns ms : List Nest}
    (h : Nest.Respelled source known registry name ns ms) {opener closer : Token}
    {inner : List Nest} (hmem : .bracket opener inner closer ∈ ns) :
    ∃ opener' inner' closer', .bracket opener' inner' closer' ∈ ms ∧
      opener'.kind = opener.kind ∧ Nest.Respelled source known registry name inner inner' := by
  induction h with
  | nil => cases hmem
  | keep _ _ _ ih =>
    obtain ⟨opener', inner', closer', hin, hsame⟩ := ih ((List.mem_cons.mp hmem).resolve_left nofun)
    exact ⟨opener', inner', closer', List.mem_cons_of_mem _ hin, hsame⟩
  | bracket hopener _ hinner _ _ ih =>
    rcases List.mem_cons.mp hmem with heq | hmem
    · cases heq
      exact ⟨_, _, _, List.mem_cons_self, Token.kind_eq_of_face hopener, hinner⟩
    · obtain ⟨opener', inner', closer', hin, hsame⟩ := ih hmem
      exact ⟨opener', inner', closer', List.mem_cons_of_mem _ hin, hsame⟩
  | call _ _ _ _ ih =>
    obtain ⟨opener', inner', closer', hin, hsame⟩ := ih ((List.mem_cons.mp hmem).resolve_left nofun)
    exact ⟨opener', inner', closer', List.mem_cons_of_mem _ (List.mem_cons_of_mem _ hin), hsame⟩
  | joined _ _ _ _ _ _ ih =>
    have hrest := (List.mem_cons.mp hmem).resolve_left nofun
    obtain ⟨opener', inner', closer', hin, hsame⟩ :=
      ih ((List.mem_cons.mp hrest).resolve_left nofun)
    exact ⟨opener', inner', closer', List.mem_cons_of_mem _ (List.mem_cons_of_mem _ hin), hsame⟩

/-- The statements of a row of nests. -/
theorem statements_atoms (source : List Char) (row : List Nest) :
    Script.statements (Script.atoms source row) =
      (cut [] row).map fun s => Script.statement (Script.atoms source s) := by
  have hcut := cut_atoms source [] row
  rw [Script.atoms] at hcut
  rw [Script.statements, hcut, List.map_map]
  rfl

/-- A call of the constructor with a literal that no comma follows. -/
theorem exists_statement_call {c l : Token} {clark : String} (hc : c.face = ⟨.command, name, 0⟩)
    (hl : l.face = ⟨.string, Text.literal clark, 0⟩) {rest : List Nest}
    (hrest : rest.head?.any (isKind .comma) = false) (text : List Char) :
    ∃ more, Script.statement (Script.atoms text (.token c :: .token l :: rest)) =
      .mk (some name) ([.constant (.str clark)] :: more) := by
  have hcomma :
      (Script.pieces (Script.atoms text rest)).head?.any Script.Piece.isComma = false := by
    rw [Script.head?_pieces, any_head?_atoms]
    exact hrest
  refine ⟨Script.rows (Script.pieces (Script.atoms text rest)), ?_⟩
  rw [Script.atoms, Script.atoms, Script.atom, Script.atom, Build.statement_literal hc hl,
    Script.rows_operand _ hcomma]

/-- Of two rows that correspond, every item of the first one has its partner in the second one. -/
theorem exists_mem_of_forall₂ {α β : Type} {R : α → β → Prop} {as : List α} {bs : List β}
    (h : List.Forall₂ R as bs) {a : α} (ha : a ∈ as) : ∃ b ∈ bs, R a b := by
  induction h with
  | nil => cases ha
  | cons hab _ ih =>
    rcases List.mem_cons.mp ha with rfl | ha
    · exact ⟨_, List.mem_cons_self, hab⟩
    · obtain ⟨b, hb, hab⟩ := ih ha
      exact ⟨b, List.mem_cons_of_mem _ hb, hab⟩

/-- **Compiled text calls the constructor for every word that opens a statement**, unless a string
in apostrophes stands right behind the word. -/
theorem Respelled.within {ns ms : List Nest} {w : Token}
    (h : Nest.Respelled source known registry name ns ms) (hopens : Opens w ns)
    (hword : (w.depth == 0 && w.isElementWord known) = true)
    (happos : source[w.offset + w.length]? ≠ some '\'') (text : List Char) :
    ∃ more, Statement.Within
      (.mk (some name) ([.constant (.str (registry.spelled w.text))] :: more))
      (Script.statements (Script.atoms text ms)) := by
  induction hopens generalizing ms with
  | @here row rest hcut hcomma =>
    obtain ⟨row', hrow', hrespelled⟩ := exists_mem_of_forall₂ (cut_respelled h) hcut
    cases hrespelled with
    | keep hother => exact absurd hword (ne_true_of_eq_false hother)
    | joined _ hstring => exact absurd hstring happos
    | call _ hc hl hrest =>
      obtain ⟨more, hstatement⟩ :=
        exists_statement_call hc hl (hrest.head?_comma.trans hcomma) text
      refine ⟨more, .here ?_⟩
      rw [statements_atoms, ← hstatement]
      exact List.mem_map_of_mem hrow'
  | @inner row inner opener closer hmem hparen _ ih =>
    obtain ⟨opener', inner', closer', hin, hkind, hinner⟩ := h.exists_bracket hmem
    obtain ⟨more, hwithin⟩ := ih hinner
    refine ⟨more, Script.within_of_bracketed ?_ hwithin⟩
    have hatom : Script.atom text (.bracket opener' inner' closer') =
        .bracketed (.paren (Script.statements (Script.atoms text inner'))) := by
      rw [Script.atom, if_neg (hkind ▸ hparen)]
    rw [atoms_eq_map, ← hatom]
    exact List.mem_map_of_mem hin

end Nest

/-- **The statements of a template are those of a row that corresponds to the row of its text.** -/
theorem Template.exists_respelled {known : String → Bool} {registry : Registry}
    {constructor : Constructor} (hname : Lexer.Begins true .command constructor.word.toList [])
    {source : String} {t : Template}
    (ht : (Template.ofSource known registry constructor source).2 = .ok t) :
    ∃ ts ns ms, tokenize source = .ok ts ∧ Nest.read (Token.significant ts) = some ns ∧
      Nest.Respelled source.toList known registry constructor.word ns ms ∧
      Script.ofTemplate t = Script.statements (Script.atoms t.compiled.toList ms) := by
  cases hread : tokenize source with
  | error fault =>
    rw [Template.ofSource_snd, hread] at ht
    cases ht
  | ok ts =>
    obtain ⟨ns, hns⟩ := Nest.exists_read hread
    obtain ⟨row, htext, hrow, rfl⟩ := Lexer.tokenize_eq_ok_iff.mp hread
    obtain ⟨t', ht', -, htokens⟩ := Lexer.ofSource_textOf hname htext hrow
    obtain rfl : t' = t := Except.ok.inj (ht'.symm.trans ht)
    have hrespelled :=
      @Lexer.Readable.respelled known registry constructor.word _ _ _ hrow .start .start [] 0
    rw [List.nil_append, htext, List.length_nil, ← htokens] at hrespelled
    obtain ⟨ms, hms, hnests⟩ := Nest.read_respelled hrespelled.significant hns
    refine ⟨_, ns, ms, rfl, hns, hnests, ?_⟩
    rw [Script.ofTemplate, Script.ofTokens, hms]

end TagScript
