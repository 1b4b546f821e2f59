import Mathlib.Data.List.Chain
import TagScript.Proofs.Script.NestedStatements
import TagScript.Proofs.Value.Every

/-!
# Texts that name elements by words

An element is named by an element word, or by the first argument of the command that builds
elements. In the statements of a text that does the former only, that command stands where an
element word stood, and before a literal in which the word is spelled out.

* `Token.NamesByWords` — tokens that neither invoke the command themselves nor cast to a name, and
  whose element words are followed neither by a comma nor by a string in apostrophes.
* `NamedByWords` — a text of such tokens, and so the texts of its groups.
* `Statement.Spells` — a statement in which the command that builds elements has the name of the
  element in a literal, and in which nothing else can be a name.
* **`NamedByWords.spells`** — the statements that such a text is made to.
-/

namespace TagScript

open Script

/-- The texts of the groups of a template are those of its text. -/
theorem Template.groupTexts_ofTemplate {known : String → Bool} {registry : Registry}
    {constructor : Constructor} (hword : IsCommandWord constructor.word) {source : String}
    {ts : List Token} (hread : tokenize source = .ok ts) {t : Template}
    (ht : (Template.ofSource known registry constructor source).2 = .ok t) :
    Statement.groupTextsOfAll (ofTemplate t) = groupTexts source ts := by
  obtain ⟨row, htext, hrow, rfl⟩ := Lexer.tokenize_eq_ok_iff.mp hread
  have hname := Lexer.begins_of_isCommandWord hword
  obtain ⟨t', ht', hcompiled, htokens⟩ := Lexer.ofSource_textOf hname htext hrow
  obtain rfl : t' = t := Except.ok.inj (ht'.symm.trans ht)
  have hrespelled : Lexer.Readable true [] (Lexer.respell known registry constructor.word row) :=
    hrow.respell hname
  obtain ⟨parts, rfl, hparts⟩ := hrow.exists_parts rfl
  obtain ⟨parts', hrow', hparts', hsame⟩ :=
    @Lexer.exists_parts_respell known registry constructor.word parts hparts
  rw [← hrow'] at hcompiled htokens hrespelled
  obtain rfl : source = String.ofList (Lexer.textOf (Lexer.rowOf parts)) := by
    rw [htext, String.ofList_toList]
  rw [ofTemplate, hcompiled, htokens, groupTexts_ofTokens hparts' hrespelled,
    groupTexts_rowOf hparts, hsame]

variable (table : CommandTable)

/-! ## The tokens of a text -/

/-- Whether tokens of a text name elements by element words only. -/
structure Token.NamesByWords (source : List Char) (ts : List Token) : Prop where
  /-- No word invokes the command that builds elements. -/
  commands : ∀ t ∈ ts, t.kind = .command → ∀ c, table.lookup t.text = .ok c →
    c.action ≠ .acting .newElement
  /-- No cast makes a name. -/
  casts : ∀ t ∈ ts, t.kind = .cast → Cast.ofName? (Build.castType t) ≠ some .name
  /-- No comma follows an element word. -/
  commas : ts.IsChain fun t u => t.isElementWord table.canResolve = true → u.kind ≠ .comma
  /-- No string in apostrophes stands right behind an element word. -/
  strings : ∀ t ∈ ts, t.isElementWord table.canResolve = true →
    source[t.offset + t.length]? ≠ some '\''

/-- Whether a text names elements by element words only, and so do the texts of its groups. -/
inductive NamedByWords : String → Prop where
  | intro {source : String}
      (tokens : ∀ ts, tokenize source = .ok ts →
        Token.NamesByWords table source.toList (Token.significant ts))
      (groups : ∀ ts, tokenize source = .ok ts → ∀ text ∈ groupTexts source ts,
        NamedByWords text) : NamedByWords source

/-! ## Statements -/

variable (safe : String → Prop)

mutual

/-- Whether elements are named by literals in the statements of an operand, and no cast makes a
name. -/
def Operand.Spells : Operand → Prop
  | .constant v => v.isCompound = false ∧ v.Harmless
  | .group source _ => NamedByWords table source
  | .paren body => Statement.SpellsAll body
  | .cast type o => Cast.ofName? (Build.castType type) ≠ some .name ∧ o.Spells
  | .string .. | .variable .. | .faulty _ => True

/-- Whether it is so with all operands of a row. -/
def Operand.SpellsRow : List Operand → Prop
  | [] => True
  | o :: os => o.Spells ∧ Operand.SpellsRow os

/-- Whether it is so with all operands of a statement. -/
def Operand.SpellsRows : List (List Operand) → Prop
  | [] => True
  | row :: rows => Operand.SpellsRow row ∧ Operand.SpellsRows rows

/-- Whether it is so with a statement, and the element that it builds is named by a literal. -/
def Statement.Spells : Statement → Prop
  | .mk command rows =>
    (∀ word c, command = some word → table.lookup word = .ok c → c.action = .acting .newElement →
      ∃ text more, rows = [.constant (.str text)] :: more ∧ safe text) ∧ Operand.SpellsRows rows

/-- Whether it is so with all statements of a row. -/
def Statement.SpellsAll : List Statement → Prop
  | [] => True
  | s :: ss => s.Spells ∧ Statement.SpellsAll ss

end

/-- Whether it is so with an atom. -/
def Script.Atom.Spells : Atom → Prop
  | .token t => t.kind = .cast → Cast.ofName? (Build.castType t) ≠ some .name
  | .bracketed o => o.Spells table safe

/-- Whether it is so with an operand or a comma. -/
def Script.Piece.Spells : Piece → Prop
  | .operand o => o.Spells table safe
  | .comma _ => True

variable {table safe}

theorem Statement.spellsAll_iff {ss : List Statement} :
    SpellsAll table safe ss ↔ ∀ s ∈ ss, s.Spells table safe := by
  induction ss with
  | nil => exact iff_of_true trivial (List.forall_mem_nil _)
  | cons s ss ih => rw [SpellsAll, List.forall_mem_cons, ih]

namespace Script

/-- A token alone names nothing. -/
theorem spells_word (t : Token) : (word t).Spells table safe := by
  have hnumber : (number t.text).Spells table safe := by
    fun_cases number t.text with
    | case1 | case4 => exact ⟨rfl, trivial⟩
    | _ => trivial
  have hstring : (quotedString t).Spells table safe := by
    unfold quotedString
    split
    · exact ⟨rfl, trivial⟩
    · trivial
  have hvariable : (variableWithMembers t).Spells table safe := by
    unfold variableWithMembers
    split <;> trivial
  unfold word
  split
  · exact hstring
  · exact hnumber
  · exact hvariable
  · exact ⟨rfl, trivial⟩
  · exact ⟨rfl, trivial⟩
  · exact ⟨rfl, trivial⟩
  · trivial

theorem spells_castNext {t : Token} (ht : Cast.ofName? (Build.castType t) ≠ some .name)
    {ps : List Piece} (hps : ∀ p ∈ ps, p.Spells table safe) :
    ∀ p ∈ castNext t ps, p.Spells table safe := by
  unfold castNext
  split
  · obtain ⟨ho, hrest⟩ := List.forall_mem_cons.mp hps
    exact List.forall_mem_cons.mpr ⟨⟨ht, ho⟩, hrest⟩
  · exact List.forall_mem_cons.mpr ⟨trivial, hps⟩

theorem spells_pieces {row : List Atom} (hrow : ∀ a ∈ row, a.Spells table safe) :
    ∀ p ∈ pieces row, p.Spells table safe := by
  induction row with
  | nil => exact List.forall_mem_nil _
  | cons a row ih =>
    obtain ⟨ha, hrow⟩ := List.forall_mem_cons.mp hrow
    have hrest := ih hrow
    cases a with
    | bracketed o => exact List.forall_mem_cons.mpr ⟨ha, hrest⟩
    | token t =>
      rw [pieces]
      split
      · exact List.forall_mem_cons.mpr ⟨trivial, hrest⟩
      · rename_i hkind
        exact spells_castNext (ha hkind) hrest
      · exact List.forall_mem_cons.mpr ⟨spells_word t, hrest⟩

theorem spells_rows {ps : List Piece} (hps : ∀ p ∈ ps, p.Spells table safe) :
    Operand.SpellsRows table safe (rows ps) := by
  fun_induction rows ps with
  | case1 => trivial
  | case2 t rest ih => exact ⟨⟨trivial, trivial⟩, ih (List.forall_mem_cons.mp hps).2⟩
  | case3 o t rest _ _ =>
    exact ⟨⟨(List.forall_mem_cons.mp hps).1, trivial, trivial⟩, trivial⟩
  | case4 o t rest row more hrows ih =>
    obtain ⟨ho, hrest⟩ := List.forall_mem_cons.mp hps
    have hmore := ih (List.forall_mem_cons.mp hrest).2
    rw [hrows] at hmore
    exact ⟨⟨ho, hmore.1⟩, hmore.2⟩
  | case5 o rest _ ih =>
    obtain ⟨ho, hrest⟩ := List.forall_mem_cons.mp hps
    exact ⟨⟨ho, trivial⟩, ih hrest⟩

theorem spellsRows_statement {row : List Atom} (hrow : ∀ a ∈ row, a.Spells table safe)
    {command : Option String} {rows : List (List Operand)} (h : statement row = .mk command rows) :
    Operand.SpellsRows table safe rows := by
  unfold statement at h
  split at h
  · split at h
    · cases h
      exact spells_rows (spells_pieces (List.forall_mem_cons.mp hrow).2)
    · cases h
      exact spells_rows (spells_pieces hrow)
  · cases h
    exact spells_rows (spells_pieces hrow)

/-- A statement whose command, if it has one, does not build elements. -/
theorem spells_statement {row : List Atom} (hrow : ∀ a ∈ row, a.Spells table safe)
    (hhead : ∀ t rest, row = .token t :: rest → t.kind = .command → ∀ c,
      table.lookup t.text = .ok c → c.action ≠ .acting .newElement) :
    (statement row).Spells table safe := by
  cases hstatement : statement row with
  | mk command rows =>
    refine ⟨fun word c hcommand hlookup hbuilds => ?_, spellsRows_statement hrow hstatement⟩
    subst hcommand
    unfold statement at hstatement
    split at hstatement
    · split at hstatement
      · rename_i t rest hkind
        cases hstatement
        exact absurd hbuilds (hhead t rest rfl hkind c hlookup)
      · cases hstatement
    · cases hstatement

end Script

/-! ## Rows of nests -/

namespace Nest

/-- What is cut stood in the row. -/
theorem mem_of_mem_cut {current row s : List Nest} (hs : s ∈ cut current row) {n : Nest}
    (hn : n ∈ s) : n ∈ current ∨ n ∈ row := by
  fun_induction cut current row with
  | case1 current _ => cases hs
  | case2 current _ =>
    rw [List.mem_singleton.mp hs] at hn
    exact .inl (List.mem_reverse.mp hn)
  | case3 current m rest _ ih => exact (ih hs).imp_right (List.mem_cons_of_mem m)
  | case4 current m rest _ _ _ ih =>
    exact .inr (List.mem_cons_of_mem m ((ih hs).resolve_left List.not_mem_nil))
  | case5 current m rest _ _ _ ih =>
    rcases List.mem_cons.mp hs with rfl | hs
    · exact .inl (List.mem_reverse.mp hn)
    · exact .inr (List.mem_cons_of_mem m ((ih hs).resolve_left List.not_mem_nil))
  | case6 current m rest _ _ ih =>
    rcases ih hs with hm | hrest
    · rcases List.mem_cons.mp hm with rfl | hcurrent
      · exact .inr List.mem_cons_self
      · exact .inl hcurrent
    · exact .inr (List.mem_cons_of_mem m hrest)

/-- What holds of neighbours in a row holds of those in its statements, if it is not asked of
commas, behind which a newline is dropped. -/
theorem isChain_of_mem_cut {R : Nest → Nest → Prop}
    (hcomma : ∀ n m, n.isKind .comma = true → R n m) {current row s : List Nest}
    (h : (current.reverse ++ row).IsChain R) (hs : s ∈ cut current row) : s.IsChain R := by
  fun_induction cut current row with
  | case1 current _ => cases hs
  | case2 current _ =>
    rw [List.mem_singleton.mp hs]
    rwa [List.append_nil] at h
  | case3 current m rest hm ih =>
    refine ih ?_ hs
    rw [Bool.and_eq_true] at hm
    rw [List.isChain_append] at h ⊢
    refine ⟨h.1, h.2.1.tail, fun x hx y _ => hcomma x y ?_⟩
    rw [List.getLast?_reverse] at hx
    rw [Option.mem_def.mp hx] at hm
    exact hm.2
  | case4 current m rest _ _ _ ih => exact ih (List.isChain_append.mp h).2.1.tail hs
  | case5 current m rest _ _ _ ih =>
    rcases List.mem_cons.mp hs with rfl | hs
    · exact (List.isChain_append.mp h).1
    · exact ih (List.isChain_append.mp h).2.1.tail hs
  | case6 current m rest _ _ ih =>
    refine ih ?_ hs
    rwa [List.reverse_cons, List.append_assoc]

/-- Neighbouring tokens of a row of nests are neighbours among the tokens. -/
theorem isChain_of_tokensOfAll {R : Token → Token → Prop} {ns : List Nest}
    (h : (tokensOfAll ns).IsChain R) :
    ns.IsChain fun n m => ∀ t u, n = .token t → m = .token u → R t u := by
  induction ns with
  | nil => exact .nil
  | cons n ns ih =>
    rw [tokensOfAll, List.isChain_append] at h
    cases ns with
    | nil => exact .singleton n
    | cons m ns =>
      refine List.isChain_cons_cons.mpr ⟨?_, ih h.2.1⟩
      rintro t u rfl rfl
      exact h.2.2 t rfl u rfl

/-- Whether the literals of the element words of a row are safe. -/
def SafeWords (table : CommandTable) (safe : String → Prop) (registry : Registry)
    (ts : List Token) : Prop :=
  ∀ w ∈ ts, (w.depth == 0 && w.isElementWord table.canResolve) = true →
    safe (registry.spelled w.text)

end Nest

theorem Token.NamesByWords.part {source : List Char} {ts us : List Token}
    (h : Token.NamesByWords table source us) (hpart : ts <:+: us) :
    Token.NamesByWords table source ts where
  commands t ht := h.commands t (hpart.subset ht)
  casts t ht := h.casts t (hpart.subset ht)
  commas := List.IsChain.infix h.commas hpart
  strings t ht := h.strings t (hpart.subset ht)

namespace Nest

variable {source : List Char} {registry : Registry} {name : String} {ns ms : List Nest}

/-- No comma follows an element word in a statement of the row. -/
theorem head?_of_mem_cut (h : Token.NamesByWords table source (tokensOfAll ns)) {w : Token}
    {rest : List Nest} (hcut : .token w :: rest ∈ cut [] ns)
    (hw : w.isElementWord table.canResolve = true) :
    rest.head?.any (isKind .comma) = false := by
  let R (n m : Nest) : Prop := ∀ t u, n = .token t → m = .token u →
    t.isElementWord table.canResolve = true → u.kind ≠ .comma
  have hcomma (n m : Nest) (hn : n.isKind .comma = true) : R n m := by
    rintro t u rfl - ht -
    simp only [Token.isElementWord, Bool.and_eq_true, beq_iff_eq] at ht
    rw [isKind, ht.1.1] at hn
    cases hn
  have hchain : (Nest.token w :: rest).IsChain R :=
    @isChain_of_mem_cut R hcomma [] ns _ (isChain_of_tokensOfAll h.commas) hcut
  cases rest with
  | nil => rfl
  | cons n rest =>
    cases n with
    | bracket _ _ _ => rfl
    | token u =>
      have hne := (List.isChain_cons_cons.mp hchain).1 w u rfl rfl hw
      simpa [isKind] using hne

/-- **The statements of a row of compiled text**, if its atoms are as they should be. -/
theorem Respelled.spells_statements
    (h : Nest.Respelled source table.canResolve registry name ns ms)
    (hns : Token.NamesByWords table source (tokensOfAll ns))
    (hsafe : SafeWords table safe registry (tokensOfAll ns)) {text : List Char}
    (hatoms : ∀ a ∈ atoms text ms, a.Spells table safe) :
    Statement.SpellsAll table safe (statements (atoms text ms)) := by
  rw [Statement.spellsAll_iff, statements_atoms, List.forall_mem_map]
  intro row' hrow'
  obtain ⟨row, hrow, hrespelled⟩ := exists_mem_of_forall₂ (cut_respelled h).flip hrow'
  have hin {n : Nest} (hn : n ∈ row) : n ∈ ns :=
    (mem_of_mem_cut hrow hn).resolve_left List.not_mem_nil
  have hspells : ∀ a ∈ atoms text row', a.Spells table safe := by
    intro a ha
    rw [atoms_eq_map] at ha hatoms
    obtain ⟨n, hn, rfl⟩ := List.mem_map.mp ha
    exact hatoms _ (List.mem_map_of_mem ((mem_of_mem_cut hrow' hn).resolve_left List.not_mem_nil))
  cases hrespelled with
  | nil => exact spells_statement hspells nofun
  | @keep t t' rest rest' hother hface _ =>
    refine spells_statement hspells fun u more heq hkind c hlookup => ?_
    cases heq
    have hmem := mem_tokensOfAll (hin List.mem_cons_self)
    have htext : t'.text = t.text := congrArg Token.Face.text hface
    exact hns.commands t hmem ((Token.kind_eq_of_face hface).symm.trans hkind) c (htext ▸ hlookup)
  | bracket _ _ _ _ => exact spells_statement hspells nofun
  | @call w c l rest rest' hword hc hl hrest =>
    have hmem := mem_tokensOfAll (hin List.mem_cons_self)
    have hcomma := hrest.head?_comma.trans
      (head?_of_mem_cut hns hrow (Bool.and_eq_true _ _ ▸ hword).2)
    obtain ⟨more, hstatement⟩ := exists_statement_call hc hl hcomma text
    have hrows := spellsRows_statement hspells hstatement
    rw [hstatement]
    exact ⟨fun _ _ _ _ _ => ⟨_, more, rfl, hsafe w hmem hword⟩, hrows⟩
  | joined hword hstring =>
    have hmem := mem_tokensOfAll (hin List.mem_cons_self)
    exact absurd hstring (hns.strings _ hmem (Bool.and_eq_true _ _ ▸ hword).2)

/-- The atoms of a row of compiled text are as they should be, if the texts of its groups are. -/
theorem Respelled.spells_atoms
    (h : Nest.Respelled source table.canResolve registry name ns ms)
    (hns : Token.NamesByWords table source (tokensOfAll ns))
    (hsafe : SafeWords table safe registry (tokensOfAll ns)) {text : List Char}
    (htexts : ∀ group ∈ nestTextsOfAll text ms, NamedByWords table group) :
    ∀ a ∈ atoms text ms, a.Spells table safe := by
  -- neither the constructor nor a literal is a cast
  have hplain {t : Token} (ht : t.kind ≠ .cast) : (Atom.token t).Spells table safe :=
    fun hcast => absurd hcast ht
  have hbehind {n : Nest} {ns : List Nest} : tokensOfAll ns <:+: tokensOfAll (n :: ns) :=
    (List.suffix_append _ _).isInfix
  induction h with
  | nil => exact List.forall_mem_nil _
  | @keep t t' ns ms _ hface _ ih =>
    have htoken : (Atom.token t').Spells table safe := by
      intro hcast
      have htext : t'.text = t.text := congrArg Token.Face.text hface
      rw [Build.castType, htext]
      exact hns.casts t List.mem_cons_self ((Token.kind_eq_of_face hface).symm.trans hcast)
    exact List.forall_mem_cons.mpr
      ⟨htoken, ih (hns.part hbehind) (fun w hw => hsafe w (hbehind.subset hw)) htexts⟩
  | @bracket opener opener' closer closer' inner inner' ns ms hopener _ hinner _ ihinner ih =>
    have hwithin : tokensOfAll inner <:+: tokensOfAll (.bracket opener inner closer :: ns) :=
      ⟨[opener], [closer] ++ tokensOfAll ns, by simp [tokensOfAll, tokens]⟩
    rw [nestTextsOfAll, List.forall_mem_append] at htexts
    refine List.forall_mem_cons.mpr
      ⟨?_, ih (hns.part hbehind) (fun w hw => hsafe w (hbehind.subset hw)) htexts.2⟩
    have hgroups := htexts.1
    rw [nestTexts] at hgroups
    rw [atom]
    split
    · rename_i hgroup
      rw [if_pos hgroup] at hgroups
      exact hgroups _ (List.mem_singleton_self _)
    · rename_i hparen
      rw [if_neg hparen] at hgroups
      have hsafe' : SafeWords table safe registry (tokensOfAll inner) :=
        fun w hw => hsafe w (hwithin.subset hw)
      exact hinner.spells_statements (hns.part hwithin) hsafe'
        (ihinner (hns.part hwithin) hsafe' hgroups)
  | @call w c l ns ms _ hc hl _ ih =>
    have hrest := ih (hns.part hbehind) (fun w hw => hsafe w (hbehind.subset hw)) htexts
    refine List.forall_mem_cons.mpr ⟨hplain ?_, List.forall_mem_cons.mpr ⟨hplain ?_, hrest⟩⟩
    · rw [Token.kind_of_face hc]
      exact TokenKind.noConfusion
    · rw [Token.kind_of_face hl]
      exact TokenKind.noConfusion
  | @joined w q c l ns ms hword hstring _ _ _ _ _ =>
    exact absurd hstring (hns.strings w List.mem_cons_self (Bool.and_eq_true _ _ ▸ hword).2)

end Nest

/-- **The statements of a text that names elements by words** name them by the literals of the
words. -/
theorem NamedByWords.spells {source : String} (h : NamedByWords table source)
    {constructor : Constructor} (hword : IsCommandWord constructor.word) {registry : Registry}
    {t : Template}
    (ht : (Template.ofSource table.canResolve registry constructor source).2 = .ok t)
    (hsafe : ∀ ts, tokenize source = .ok ts →
      ∀ w ∈ Token.elementWords table.canResolve true ts, safe (registry.spelled w.text)) :
    Statement.SpellsAll table safe (ofTemplate t) := by
  obtain ⟨ts, ns, ms, hread, hns, hrespelled, hscript⟩ :=
    Template.exists_respelled (Lexer.begins_of_isCommandWord hword) ht
  obtain ⟨htokens, hgroups⟩ := h
  have hsignificant := (Nest.read_spec hns).1
  have hnames := htokens ts hread
  rw [← hsignificant] at hnames
  have hwords : Nest.SafeWords table safe registry (Nest.tokensOfAll ns) := by
    intro w hw hkeep
    rw [hsignificant] at hw
    refine hsafe ts hread w (List.mem_filter.mpr ⟨(List.mem_filter.mp hw).1, ?_⟩)
    rw [Bool.not_true, Bool.false_or]
    exact hkeep
  have htexts := Template.groupTexts_ofTemplate hword hread ht
  rw [hscript, groupTexts_statements, groupTexts_atoms] at htexts
  rw [hscript]
  refine hrespelled.spells_statements hnames hwords (hrespelled.spells_atoms hnames hwords ?_)
  rw [htexts]
  exact hgroups ts hread

end TagScript
