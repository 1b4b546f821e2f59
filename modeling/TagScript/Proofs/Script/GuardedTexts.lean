import TagScript.Proofs.Script.NamedByWords

/-!
# Guarded texts

A block that is run once for each item finds the item in a variable. The item may be a block, so a
block may come to run itself. That takes a statement whose block was not written in it and whose
items may be blocks. In the statements of a guarded text one of the two is never so.

* `Nest.StandsIn` — the statements of a row, at any level of parentheses.
* `Guarded` — a text whose statements run the blocks that stand in them, or run blocks for literals
  only; and so the texts of its groups.
* `Statement.Guarded` — the same of a statement.
* **`Guarded.statements_ofTemplate`** — the statements that such a text is made to.
* `roomOf` — how deep the blocks of texts can be nested, by the braces in them.
* **`roomOf_groupTexts_le`** — the groups of a text need no more room than there are braces in it.
* `checkGuarded`, `Guarded.of_check` — guarded texts can be found.
-/

namespace TagScript

open Script

/-! ## Rows of nests -/

namespace Nest

/-- Whether the value of a nest may be a block that was written elsewhere: it is a variable, or
stands between parentheses. -/
def recalls : Nest → Bool
  | .token t => t.kind == .variable
  | .bracket opener _ _ => opener.kind != .groupStart

/-- Whether a nest is a token that is no variable. -/
def isLiteral : Nest → Bool
  | .token t => t.kind != .variable
  | .bracket .. => false

/-- Whether a row of nests is a statement of a row, or of parentheses in it. -/
inductive StandsIn (s : List Nest) : List Nest → Prop where
  | here {row : List Nest} : s ∈ cut [] row → StandsIn s row
  | inner {row inner : List Nest} {opener closer : Token} : .bracket opener inner closer ∈ row →
      opener.kind ≠ .groupStart → StandsIn s inner → StandsIn s row

/-- Whether a statement that runs a block for each item has the block written in it, or literals
before it. -/
def Guarded (table : CommandTable) : List Nest → Prop
  | .token t :: rest => t.kind = .command → ∀ c, table.lookup t.text = .ok c →
      c.action = .acting .forEachItem →
        (∀ n ∈ rest.getLast?, n.recalls = false) ∨ ∀ n ∈ rest.dropLast, n.isLiteral = true
  | _ => True

end Nest

variable (table : CommandTable)

/-- Whether all statements of a text are guarded, and so are those of the texts of its groups. -/
inductive Guarded : String → Prop where
  | intro {source : String}
      (statements : ∀ ts ns, tokenize source = .ok ts → Nest.read (Token.significant ts) = some ns →
        ∀ s, Nest.StandsIn s ns → Nest.Guarded table s)
      (groups : ∀ ts, tokenize source = .ok ts → ∀ text ∈ groupTexts source ts,
        Guarded text) : Guarded source

/-! ## Statements -/

namespace Operand

/-- Whether the value of an operand may be a block that was written elsewhere. -/
def recalls : Operand → Bool
  | .variable .. | .paren _ => true
  | _ => false

/-- Whether an operand is written out: a text, a number or a cast of one. -/
def isLiteral : Operand → Bool
  | .constant _ | .string .. | .faulty _ => true
  | .cast _ o => o.isLiteral
  | _ => false

/-- Whether the last operand does not recall a block, or the operands before it are literals. -/
def GuardRun (rows : List (List Operand)) : Prop :=
  (∀ row ∈ rows.getLast?, ∀ o ∈ row.getLast?, o.recalls = false) ∨
    ∀ row ∈ rows.dropLast, ∀ o ∈ row, o.isLiteral = true

end Operand

mutual

/-- Whether the statements of an operand are guarded. -/
def Operand.Guarded : Operand → Prop
  | .constant v => v.isCompound = false ∧ v.isContentBlock = false
  | .group source _ => TagScript.Guarded table source
  | .paren body => Statement.GuardedAll body
  | .cast _ o => o.Guarded
  | .faulty fault => fault ≠ .exhausted
  | .string .. | .variable .. => True

/-- Whether it is so with all operands of a row. -/
def Operand.GuardedRow : List Operand → Prop
  | [] => True
  | o :: os => o.Guarded ∧ Operand.GuardedRow os

/-- Whether it is so with all operands of a statement. -/
def Operand.GuardedRows : List (List Operand) → Prop
  | [] => True
  | row :: rows => Operand.GuardedRow row ∧ Operand.GuardedRows rows

/-- Whether it is so with a statement, and it is guarded itself if it runs a block for each item. -/
def Statement.Guarded : Statement → Prop
  | .mk command rows =>
    (∀ word c, command = some word → table.lookup word = .ok c →
      c.action = .acting .forEachItem → Operand.GuardRun rows) ∧ Operand.GuardedRows rows

/-- Whether it is so with all statements of a row. -/
def Statement.GuardedAll : List Statement → Prop
  | [] => True
  | s :: ss => s.Guarded ∧ Statement.GuardedAll ss

end

variable {table}

theorem Statement.guardedAll_iff {ss : List Statement} :
    GuardedAll table ss ↔ ∀ s ∈ ss, s.Guarded table := by
  induction ss with
  | nil => exact iff_of_true trivial (List.forall_mem_nil _)
  | cons s ss ih => rw [GuardedAll, List.forall_mem_cons, ih]

namespace Script

/-! ### The last operand and those before it -/

/-- Whether the value of an atom may be a block that was written elsewhere. -/
def Atom.recalls : Atom → Bool
  | .token t => t.kind == .variable
  | .bracketed o => o.recalls

/-- Whether an atom is a token that is no variable. -/
def Atom.isLiteral : Atom → Bool
  | .token t => t.kind != .variable
  | .bracketed _ => false

/-- Whether the value of a piece may be a block that was written elsewhere. -/
def Piece.recalls : Piece → Bool
  | .operand o => o.recalls
  | .comma _ => false

/-- Whether a piece is a literal or a comma. -/
def Piece.isLiteral : Piece → Bool
  | .operand o => o.isLiteral
  | .comma _ => true

theorem recalls_atom (source : List Char) (n : Nest) : (atom source n).recalls = n.recalls := by
  cases n with
  | token t => rfl
  | bracket opener inner closer =>
    rw [atom, Atom.recalls, Nest.recalls]
    split
    · rename_i hgroup
      rw [hgroup]
      rfl
    · rename_i hparen
      simpa [Operand.recalls] using hparen

theorem isLiteral_atom (source : List Char) (n : Nest) :
    (atom source n).isLiteral = n.isLiteral := by
  cases n with
  | token t => rfl
  | bracket opener inner closer => rw [atom, Atom.isLiteral, Nest.isLiteral]

/-- A token that is no variable stands for a literal. -/
theorem isLiteral_word {t : Token} (ht : t.kind ≠ .variable) :
    (word t).isLiteral = true ∧ (word t).recalls = false := by
  have hnumber : (number t.text).isLiteral = true ∧ (number t.text).recalls = false := by
    fun_cases number t.text <;> exact ⟨rfl, rfl⟩
  have hstring : (quotedString t).isLiteral = true ∧ (quotedString t).recalls = false := by
    unfold quotedString
    split <;> exact ⟨rfl, rfl⟩
  unfold word
  split
  · exact hstring
  · exact hnumber
  · rename_i hkind
    exact absurd hkind ht
  all_goals exact ⟨rfl, rfl⟩

/-- What holds of the end of a row holds of its first item if that is all, and of the end of what
follows it. -/
theorem forall_mem_getLast?_cons {α : Type} {p : α → Prop} {a : α} {as : List α} :
    (∀ b ∈ (a :: as).getLast?, p b) ↔ (as = [] → p a) ∧ ∀ b ∈ as.getLast?, p b := by
  cases as with
  | nil => simp
  | cons c as => simp [List.getLast?_cons_cons]

theorem forall_mem_getLast?_nil {α : Type} {p : α → Prop} :
    ∀ b ∈ ([] : List α).getLast?, p b := by
  intro b hb
  cases hb

/-- What holds before the end of a row holds of its first item if more follows, and before the end
of what follows it. -/
theorem forall_mem_dropLast_cons {α : Type} {p : α → Prop} {a : α} {as : List α} :
    (∀ b ∈ (a :: as).dropLast, p b) ↔ (as ≠ [] → p a) ∧ ∀ b ∈ as.dropLast, p b := by
  cases as with
  | nil => simp
  | cons c as => simp

theorem pieces_eq_nil_iff {row : List Atom} : pieces row = [] ↔ row = [] := by
  refine ⟨fun h => ?_, fun h => h ▸ rfl⟩
  cases row with
  | nil => rfl
  | cons a row =>
    cases a with
    | bracketed o => cases h
    | token t =>
      rw [pieces] at h
      split at h
      · cases h
      · unfold castNext at h
        split at h <;> cases h
      · cases h

theorem rows_eq_nil_iff {ps : List Piece} : rows ps = [] ↔ ps = [] := by
  refine ⟨fun h => ?_, fun h => h ▸ rfl⟩
  fun_cases rows ps with
  | case1 => rfl
  | case2 t rest => simp [rows] at h
  | case3 o t rest hrows => simp [rows, hrows] at h
  | case4 o t rest row more hrows => simp [rows, hrows] at h
  | case5 o rest hcomma => simp [rows] at h

theorem ne_nil_of_mem_rows {ps : List Piece} {row : List Operand} (h : row ∈ rows ps) :
    row ≠ [] := by
  fun_induction rows ps with
  | case1 => cases h
  | case2 t rest ih =>
    rcases List.mem_cons.mp h with rfl | h
    · exact List.cons_ne_nil _ _
    · exact ih h
  | case3 o t rest _ _ =>
    rw [List.mem_singleton.mp h]
    exact List.cons_ne_nil _ _
  | case4 o t rest first more hrows ih =>
    rcases List.mem_cons.mp h with rfl | h
    · exact List.cons_ne_nil _ _
    · exact ih (hrows ▸ List.mem_cons_of_mem _ h)
  | case5 o rest _ ih =>
    rcases List.mem_cons.mp h with rfl | h
    · exact List.cons_ne_nil _ _
    · exact ih h

/-- A cast does not recall a block, whatever it is put before. -/
theorem recalls_castNext (t : Token) {ps : List Piece}
    (h : ∀ p ∈ ps.getLast?, p.recalls = false) :
    ∀ p ∈ (castNext t ps).getLast?, p.recalls = false := by
  unfold castNext
  split
  · exact forall_mem_getLast?_cons.mpr ⟨fun _ => rfl, (forall_mem_getLast?_cons.mp h).2⟩
  · exact forall_mem_getLast?_cons.mpr ⟨fun _ => rfl, h⟩

/-- The operand at the end of a statement recalls no block if the nest there does not. -/
theorem recalls_pieces {row : List Atom} (h : ∀ a ∈ row.getLast?, a.recalls = false) :
    ∀ p ∈ (pieces row).getLast?, p.recalls = false := by
  induction row with
  | nil => exact forall_mem_getLast?_nil
  | cons a row ih =>
    obtain ⟨ha, hrow⟩ := forall_mem_getLast?_cons.mp h
    have hrest := ih hrow
    cases a with
    | bracketed o =>
      exact forall_mem_getLast?_cons.mpr ⟨fun hnil => ha (pieces_eq_nil_iff.mp hnil), hrest⟩
    | token t =>
      rw [pieces]
      split
      · exact forall_mem_getLast?_cons.mpr ⟨fun _ => rfl, hrest⟩
      · exact recalls_castNext t hrest
      · refine forall_mem_getLast?_cons.mpr ⟨fun hnil => (isLiteral_word ?_).2, hrest⟩
        simpa [Atom.recalls] using ha (pieces_eq_nil_iff.mp hnil)

theorem recalls_rows {ps : List Piece} (h : ∀ p ∈ ps.getLast?, p.recalls = false) :
    ∀ row ∈ (rows ps).getLast?, ∀ o ∈ row.getLast?, o.recalls = false := by
  have hone {o : Operand} (ho : o.recalls = false) : ∀ o' ∈ [o].getLast?, o'.recalls = false :=
    forall_mem_getLast?_cons.mpr ⟨fun _ => ho, forall_mem_getLast?_nil⟩
  fun_induction rows ps with
  | case1 => exact forall_mem_getLast?_nil
  | case2 t rest ih =>
    exact forall_mem_getLast?_cons.mpr ⟨fun _ => hone rfl, ih (forall_mem_getLast?_cons.mp h).2⟩
  | case3 o t rest _ _ =>
    refine forall_mem_getLast?_cons.mpr ⟨fun _ => ?_, forall_mem_getLast?_nil⟩
    exact forall_mem_getLast?_cons.mpr
      ⟨fun hnil => absurd hnil (List.cons_ne_nil _ _), hone rfl⟩
  | case4 o t rest first more hrows ih =>
    have hmem : first ∈ rows rest := hrows ▸ List.mem_cons_self
    have hlast := ih (forall_mem_getLast?_cons.mp (forall_mem_getLast?_cons.mp h).2).2
    rw [hrows] at hlast
    obtain ⟨hfirst, hmore⟩ := forall_mem_getLast?_cons.mp hlast
    refine forall_mem_getLast?_cons.mpr ⟨fun hnil => ?_, hmore⟩
    exact forall_mem_getLast?_cons.mpr
      ⟨fun hempty => absurd hempty (ne_nil_of_mem_rows hmem), hfirst hnil⟩
  | case5 o rest _ ih =>
    obtain ⟨ho, hrest⟩ := forall_mem_getLast?_cons.mp h
    exact forall_mem_getLast?_cons.mpr ⟨fun hnil => hone (ho (rows_eq_nil_iff.mp hnil)), ih hrest⟩

theorem isLiteral_castNext (t : Token) {ps : List Piece}
    (h : ∀ p ∈ ps.dropLast, p.isLiteral = true) :
    ∀ p ∈ (castNext t ps).dropLast, p.isLiteral = true := by
  unfold castNext
  split
  · exact forall_mem_dropLast_cons.mpr (forall_mem_dropLast_cons.mp h)
  · exact forall_mem_dropLast_cons.mpr ⟨fun _ => rfl, h⟩

/-- The operands before the end of a statement are literals if the nests there are. -/
theorem isLiteral_pieces {row : List Atom} (h : ∀ a ∈ row.dropLast, a.isLiteral = true) :
    ∀ p ∈ (pieces row).dropLast, p.isLiteral = true := by
  induction row with
  | nil => exact List.forall_mem_nil _
  | cons a row ih =>
    obtain ⟨ha, hrow⟩ := forall_mem_dropLast_cons.mp h
    have hrest := ih hrow
    have hnext (hne : pieces row ≠ []) : a.isLiteral = true := ha (mt pieces_eq_nil_iff.mpr hne)
    cases a with
    | bracketed o =>
      exact forall_mem_dropLast_cons.mpr ⟨fun hne => absurd (hnext hne) Bool.false_ne_true, hrest⟩
    | token t =>
      rw [pieces]
      split
      · exact forall_mem_dropLast_cons.mpr ⟨fun _ => rfl, hrest⟩
      · exact isLiteral_castNext t hrest
      · refine forall_mem_dropLast_cons.mpr ⟨fun hne => (isLiteral_word ?_).1, hrest⟩
        simpa [Atom.isLiteral] using hnext hne

theorem isLiteral_rows {ps : List Piece} (h : ∀ p ∈ ps.dropLast, p.isLiteral = true) :
    ∀ row ∈ (rows ps).dropLast, ∀ o ∈ row, o.isLiteral = true := by
  fun_induction rows ps with
  | case1 => exact List.forall_mem_nil _
  | case2 t rest ih =>
    refine forall_mem_dropLast_cons.mpr ⟨fun _ => ?_, ih (forall_mem_dropLast_cons.mp h).2⟩
    exact List.forall_mem_singleton.mpr rfl
  | case3 o t rest _ _ => exact List.forall_mem_nil _
  | case4 o t rest first more hrows ih =>
    obtain ⟨ho, hrest⟩ := forall_mem_dropLast_cons.mp h
    have hbefore := ih (forall_mem_dropLast_cons.mp hrest).2
    rw [hrows] at hbefore
    obtain ⟨hfirst, hmore⟩ := forall_mem_dropLast_cons.mp hbefore
    refine forall_mem_dropLast_cons.mpr ⟨fun hne => ?_, hmore⟩
    exact List.forall_mem_cons.mpr ⟨ho (List.cons_ne_nil _ _), hfirst hne⟩
  | case5 o rest _ ih =>
    obtain ⟨ho, hrest⟩ := forall_mem_dropLast_cons.mp h
    refine forall_mem_dropLast_cons.mpr ⟨fun hne => ?_, ih hrest⟩
    exact List.forall_mem_singleton.mpr (ho (mt rows_eq_nil_iff.mpr hne))

/-! ### Operands -/

/-- Whether the statements of an atom are guarded. -/
def Atom.Guarded (table : CommandTable) : Atom → Prop
  | .token _ => True
  | .bracketed o => o.Guarded table

/-- Whether the statements of a piece are guarded. -/
def Piece.Guarded (table : CommandTable) : Piece → Prop
  | .operand o => o.Guarded table
  | .comma _ => True

theorem guarded_word (t : Token) : (word t).Guarded table := by
  have hnumber : (number t.text).Guarded table := by
    fun_cases number t.text with
    | case1 | case4 => exact ⟨rfl, rfl⟩
    | _ => exact Fault.noConfusion
  have hstring : (quotedString t).Guarded table := by
    unfold quotedString
    split
    · exact ⟨rfl, rfl⟩
    · trivial
  have hvariable : (variableWithMembers t).Guarded table := by
    unfold variableWithMembers
    split <;> trivial
  unfold word
  split
  · exact hstring
  · exact hnumber
  · exact hvariable
  · exact ⟨rfl, rfl⟩
  · exact ⟨rfl, rfl⟩
  · exact ⟨rfl, rfl⟩
  · exact Fault.noConfusion

theorem guarded_castNext (t : Token) {ps : List Piece} (hps : ∀ p ∈ ps, p.Guarded table) :
    ∀ p ∈ castNext t ps, p.Guarded table := by
  unfold castNext
  split
  · obtain ⟨ho, hrest⟩ := List.forall_mem_cons.mp hps
    exact List.forall_mem_cons.mpr ⟨ho, hrest⟩
  · exact List.forall_mem_cons.mpr ⟨Fault.noConfusion, hps⟩

theorem guarded_pieces {row : List Atom} (hrow : ∀ a ∈ row, a.Guarded table) :
    ∀ p ∈ pieces row, p.Guarded table := by
  induction row with
  | nil => exact List.forall_mem_nil _
  | cons a row ih =>
    obtain ⟨ha, hrow⟩ := List.forall_mem_cons.mp hrow
    have hrest := ih hrow
    cases a with
    | bracketed o => exact List.forall_mem_cons.mpr ⟨ha, hrest⟩
    | token t =>
      rw [pieces]
      split
      · exact List.forall_mem_cons.mpr ⟨trivial, hrest⟩
      · exact guarded_castNext t hrest
      · exact List.forall_mem_cons.mpr ⟨guarded_word t, hrest⟩

theorem guarded_rows {ps : List Piece} (hps : ∀ p ∈ ps, p.Guarded table) :
    Operand.GuardedRows table (rows ps) := by
  fun_induction rows ps with
  | case1 => trivial
  | case2 t rest ih => exact ⟨⟨Fault.noConfusion, trivial⟩, ih (List.forall_mem_cons.mp hps).2⟩
  | case3 o t rest _ _ =>
    exact ⟨⟨(List.forall_mem_cons.mp hps).1, Fault.noConfusion, trivial⟩, trivial⟩
  | case4 o t rest row more hrows ih =>
    obtain ⟨ho, hrest⟩ := List.forall_mem_cons.mp hps
    have hmore := ih (List.forall_mem_cons.mp hrest).2
    rw [hrows] at hmore
    exact ⟨⟨ho, hmore.1⟩, hmore.2⟩
  | case5 o rest _ ih =>
    obtain ⟨ho, hrest⟩ := List.forall_mem_cons.mp hps
    exact ⟨⟨ho, trivial⟩, ih hrest⟩

/-- **A statement is guarded** if its operands are, and those of a command that runs a block for
each item end as they should. -/
theorem guarded_statement {row : List Atom} (hrow : ∀ a ∈ row, a.Guarded table)
    (hrun : ∀ t rest, row = .token t :: rest → t.kind = .command → ∀ c,
      table.lookup t.text = .ok c → c.action = .acting .forEachItem →
        (∀ a ∈ rest.getLast?, a.recalls = false) ∨ ∀ a ∈ rest.dropLast, a.isLiteral = true) :
    (statement row).Guarded table := by
  have hplain : Operand.GuardedRows table (rows (pieces row)) := guarded_rows (guarded_pieces hrow)
  unfold statement
  split
  · rename_i t rest
    split
    · rename_i hkind
      refine ⟨fun word c hword hlookup haction => ?_, ?_⟩
      · cases hword
        rcases hrun t rest rfl hkind c hlookup haction with hlast | hbefore
        · exact .inl (recalls_rows (recalls_pieces hlast))
        · exact .inr (isLiteral_rows (isLiteral_pieces hbefore))
      · exact guarded_rows (guarded_pieces (List.forall_mem_cons.mp hrow).2)
    · exact ⟨fun word _ hnone => absurd hnone.symm (Option.some_ne_none word), hplain⟩
  · exact ⟨fun word _ hnone => absurd hnone.symm (Option.some_ne_none word), hplain⟩

end Script

/-! ## Compiled text -/

namespace Nest

variable {source : List Char} {known : String → Bool} {registry : Registry} {name : String}
  {ns ms : List Nest}

theorem Respelled.eq_nil_iff (h : Nest.Respelled source known registry name ns ms) :
    ms = [] ↔ ns = [] := by
  cases h <;> simp

/-- A row of compiled text ends like the row of the text as written, or in a literal. -/
theorem Respelled.recalls (h : Nest.Respelled source known registry name ns ms)
    (hns : ∀ n ∈ ns.getLast?, n.recalls = false) : ∀ m ∈ ms.getLast?, m.recalls = false := by
  have hstring {l : Token} {text : String} {depth : Int} (hl : l.face = ⟨.string, text, depth⟩) :
      (Nest.token l).recalls = false := by
    simp [Nest.recalls, Token.kind_of_face hl]
  induction h with
  | nil => exact hns
  | keep _ hface hrest ih =>
    obtain ⟨hn, hns⟩ := forall_mem_getLast?_cons.mp hns
    refine forall_mem_getLast?_cons.mpr ⟨fun hnil => ?_, ih hns⟩
    rw [← hn (hrest.eq_nil_iff.mp hnil), Nest.recalls.eq_def, Nest.recalls.eq_def]
    simp [Token.kind_eq_of_face hface]
  | bracket hopener _ _ hrest _ ih =>
    obtain ⟨hn, hns⟩ := forall_mem_getLast?_cons.mp hns
    refine forall_mem_getLast?_cons.mpr ⟨fun hnil => ?_, ih hns⟩
    rw [← hn (hrest.eq_nil_iff.mp hnil), Nest.recalls.eq_def, Nest.recalls.eq_def]
    simp [Token.kind_eq_of_face hopener]
  | call _ _ hl _ ih =>
    obtain ⟨-, hns⟩ := forall_mem_getLast?_cons.mp hns
    refine forall_mem_getLast?_cons.mpr ⟨fun hnil => absurd hnil (List.cons_ne_nil _ _), ?_⟩
    exact forall_mem_getLast?_cons.mpr ⟨fun _ => hstring hl, ih hns⟩
  | joined _ _ _ _ hl _ ih =>
    obtain ⟨-, hns⟩ := forall_mem_getLast?_cons.mp (forall_mem_getLast?_cons.mp hns).2
    refine forall_mem_getLast?_cons.mpr ⟨fun hnil => absurd hnil (List.cons_ne_nil _ _), ?_⟩
    exact forall_mem_getLast?_cons.mpr ⟨fun _ => hstring hl, ih hns⟩

/-- What stands before the end of a row of compiled text are literals if it is so in the text as
written. -/
theorem Respelled.isLiteral (h : Nest.Respelled source known registry name ns ms)
    (hns : ∀ n ∈ ns.dropLast, n.isLiteral = true) : ∀ m ∈ ms.dropLast, m.isLiteral = true := by
  have htoken {t : Token} {kind : TokenKind} {text : String} {depth : Int}
      (ht : t.face = ⟨kind, text, depth⟩) (hkind : kind ≠ .variable) :
      (Nest.token t).isLiteral = true := by
    simpa [Nest.isLiteral, Token.kind_of_face ht] using hkind
  induction h with
  | nil => exact hns
  | keep _ hface hrest ih =>
    obtain ⟨hn, hns⟩ := forall_mem_dropLast_cons.mp hns
    refine forall_mem_dropLast_cons.mpr ⟨fun hne => ?_, ih hns⟩
    rw [← hn (mt hrest.eq_nil_iff.mpr hne), Nest.isLiteral.eq_def, Nest.isLiteral.eq_def]
    simp [Token.kind_eq_of_face hface]
  | bracket _ _ _ hrest _ ih =>
    obtain ⟨hn, hns⟩ := forall_mem_dropLast_cons.mp hns
    refine forall_mem_dropLast_cons.mpr ⟨fun hne => ?_, ih hns⟩
    exact absurd (hn (mt hrest.eq_nil_iff.mpr hne)) Bool.false_ne_true
  | call _ hc hl _ ih =>
    obtain ⟨-, hns⟩ := forall_mem_dropLast_cons.mp hns
    refine forall_mem_dropLast_cons.mpr ⟨fun _ => htoken hc TokenKind.noConfusion, ?_⟩
    exact forall_mem_dropLast_cons.mpr ⟨fun _ => htoken hl TokenKind.noConfusion, ih hns⟩
  | joined _ _ _ hc hl _ ih =>
    obtain ⟨-, hns⟩ := forall_mem_dropLast_cons.mp (forall_mem_dropLast_cons.mp hns).2
    refine forall_mem_dropLast_cons.mpr ⟨fun _ => htoken hc TokenKind.noConfusion, ?_⟩
    exact forall_mem_dropLast_cons.mpr ⟨fun _ => htoken hl TokenKind.noConfusion, ih hns⟩

/-- A statement of compiled text is guarded if that of the text as written is. -/
theorem Respelled.guarded_statement
    (h : Nest.Respelled source known registry name ns ms) (hns : Nest.Guarded table ns)
    (hname : ∀ c, table.lookup name = .ok c → c.action ≠ .acting .forEachItem) {text : List Char}
    (hatoms : ∀ a ∈ atoms text ms, a.Guarded table) :
    (Script.statement (atoms text ms)).Guarded table := by
  refine Script.guarded_statement hatoms fun u rest heq hkind c hlookup haction => ?_
  cases h with
  | nil => cases heq
  | bracket => cases heq
  | call _ hc =>
    cases heq
    have htext : u.text = name := congrArg Token.Face.text hc
    exact absurd haction (hname c (htext ▸ hlookup))
  | joined _ _ _ hc =>
    cases heq
    have htext : u.text = name := congrArg Token.Face.text hc
    exact absurd haction (hname c (htext ▸ hlookup))
  | @keep t t' ns ms _ hface hrest =>
    cases heq
    have htext : u.text = t.text := congrArg Token.Face.text hface
    have hguard := hns ((Token.kind_eq_of_face hface).symm.trans hkind) c (htext ▸ hlookup) haction
    refine hguard.imp (fun hlast => ?_) fun hbefore => ?_
    · have hms := hrest.recalls hlast
      rw [atoms_eq_map, List.getLast?_map]
      intro a ha
      obtain ⟨m, hm, rfl⟩ := Option.map_eq_some_iff.mp ha
      exact (recalls_atom text m).trans (hms m hm)
    · have hms := hrest.isLiteral hbefore
      rw [atoms_eq_map, ← List.map_dropLast]
      intro a ha
      obtain ⟨m, hm, rfl⟩ := List.mem_map.mp ha
      exact (isLiteral_atom text m).trans (hms m hm)

/-- **The statements of a row of compiled text are guarded** if those of the row as written are. -/
theorem Respelled.guarded_statements
    (h : Nest.Respelled source known registry name ns ms)
    (hns : ∀ s ∈ cut [] ns, Nest.Guarded table s)
    (hname : ∀ c, table.lookup name = .ok c → c.action ≠ .acting .forEachItem) {text : List Char}
    (hatoms : ∀ a ∈ atoms text ms, a.Guarded table) :
    Statement.GuardedAll table (statements (atoms text ms)) := by
  rw [Statement.guardedAll_iff, statements_atoms, List.forall_mem_map]
  intro row' hrow'
  obtain ⟨row, hrow, hrespelled⟩ := exists_mem_of_forall₂ (cut_respelled h).flip hrow'
  refine hrespelled.guarded_statement (hns row hrow) hname fun a ha => hatoms a ?_
  rw [atoms_eq_map] at ha ⊢
  obtain ⟨n, hn, rfl⟩ := List.mem_map.mp ha
  exact List.mem_map_of_mem ((mem_of_mem_cut hrow' hn).resolve_left List.not_mem_nil)

/-- The atoms of a row of compiled text are guarded, if the statements between its parentheses are
and the texts of its groups. -/
theorem Respelled.guarded_atoms
    (h : Nest.Respelled source known registry name ns ms)
    (hns : ∀ opener inner closer, .bracket opener inner closer ∈ ns → opener.kind ≠ .groupStart →
      ∀ s, StandsIn s inner → Nest.Guarded table s)
    (hname : ∀ c, table.lookup name = .ok c → c.action ≠ .acting .forEachItem) {text : List Char}
    (htexts : ∀ group ∈ nestTextsOfAll text ms, TagScript.Guarded table group) :
    ∀ a ∈ atoms text ms, a.Guarded table := by
  induction h with
  | nil => exact List.forall_mem_nil _
  | keep _ _ _ ih =>
    refine List.forall_mem_cons.mpr ⟨trivial, ih (fun opener inner closer hmem => ?_) htexts⟩
    exact hns opener inner closer (List.mem_cons_of_mem _ hmem)
  | @bracket opener opener' closer closer' inner inner' ns ms hopener _ hinner _ ihinner ih =>
    rw [nestTextsOfAll, List.forall_mem_append, nestTexts] at htexts
    obtain ⟨hgroups, htexts⟩ := htexts
    refine List.forall_mem_cons.mpr ⟨?_, ih (fun opener inner closer hmem => ?_) htexts⟩
    · rw [atom]
      split
      · rename_i hgroup
        rw [if_pos hgroup] at hgroups
        exact hgroups _ (List.mem_singleton_self _)
      · rename_i hparen
        rw [if_neg hparen] at hgroups
        have hstatements := hns opener inner closer List.mem_cons_self
          (Token.kind_eq_of_face hopener ▸ hparen)
        refine hinner.guarded_statements (fun s hs => hstatements s (.here hs)) hname ?_
        refine ihinner (fun opener inner closer hmem hkind s hs => ?_) hgroups
        exact hstatements s (.inner hmem hkind hs)
    · exact hns opener inner closer (List.mem_cons_of_mem _ hmem)
  | call _ _ _ _ ih =>
    refine List.forall_mem_cons.mpr ⟨trivial, List.forall_mem_cons.mpr ⟨trivial, ?_⟩⟩
    exact ih (fun opener inner closer hmem =>
      hns opener inner closer (List.mem_cons_of_mem _ hmem)) htexts
  | joined _ _ _ _ _ _ ih =>
    refine List.forall_mem_cons.mpr ⟨trivial, List.forall_mem_cons.mpr ⟨trivial, ?_⟩⟩
    exact ih (fun opener inner closer hmem =>
      hns opener inner closer (List.mem_cons_of_mem _ (List.mem_cons_of_mem _ hmem))) htexts

end Nest

/-- **The statements of a guarded text are guarded**, unless the constructor itself runs a block for
each item. -/
theorem Guarded.statements_ofTemplate {source : String} (h : Guarded table source)
    {constructor : Constructor} (hword : IsCommandWord constructor.word)
    (hname : ∀ c, table.lookup constructor.word = .ok c → c.action ≠ .acting .forEachItem)
    {registry : Registry} {t : Template}
    (ht : (Template.ofSource table.canResolve registry constructor source).2 = .ok t) :
    Statement.GuardedAll table (ofTemplate t) := by
  obtain ⟨ts, ns, ms, hread, hns, hrespelled, hscript⟩ :=
    Template.exists_respelled (Lexer.begins_of_isCommandWord hword) ht
  obtain ⟨hstatements, hgroups⟩ := h
  have hguarded := hstatements ts ns hread hns
  have htexts := Template.groupTexts_ofTemplate hword hread ht
  rw [hscript, groupTexts_statements, groupTexts_atoms] at htexts
  rw [hscript]
  refine hrespelled.guarded_statements (fun s hs => hguarded s (.here hs)) hname ?_
  refine hrespelled.guarded_atoms (fun opener inner closer hmem hkind s hs => ?_) hname ?_
  · exact hguarded s (.inner hmem hkind hs)
  · rw [htexts]
    exact hgroups ts hread

/-! ## Room -/

/-- How many braces are opened in a text. -/
def braceCount (text : String) : Nat :=
  text.toList.count '{'

/-- How deep blocks with these texts can be nested in one another: each counts once, and once for
each brace that is opened in it. -/
def roomOf : List String → Nat
  | [] => 0
  | text :: texts => braceCount text + 1 + roomOf texts

@[simp] theorem roomOf_nil : roomOf [] = 0 := rfl

@[simp] theorem roomOf_cons (text : String) (texts : List String) :
    roomOf (text :: texts) = braceCount text + 1 + roomOf texts := rfl

@[simp] theorem roomOf_append (texts more : List String) :
    roomOf (texts ++ more) = roomOf texts + roomOf more := by
  induction texts with
  | nil => simp
  | cons text texts ih => simp [ih, Nat.add_assoc]

/-- A statement needs no more room than the row it stands in. -/
theorem Statement.roomOf_le_of_mem {s : Statement} {ss : List Statement} (h : s ∈ ss) :
    roomOf s.groupTexts ≤ roomOf (groupTextsOfAll ss) := by
  induction ss with
  | nil => cases h
  | cons first ss ih =>
    rw [groupTextsOfAll, roomOf_append]
    rcases List.mem_cons.mp h with rfl | h
    · exact Nat.le_add_right _ _
    · exact Nat.le_add_left_of_le (ih h)

open Lexer (Part textOf rowOf) in
/-- The groups of an outline need no more room than there are braces in it. -/
theorem roomOf_parts_le (parts : List Part) :
    roomOf (parts.filterMap Part.text?) ≤ (textOf (rowOf parts)).count '{' := by
  induction parts with
  | nil => exact Nat.le_refl _
  | cons p parts ih =>
    cases p with
    | stretch s =>
      rw [Lexer.rowOf_stretch, Lexer.textOf_cons, List.count_append]
      exact Nat.le_add_left_of_le ih
    | group inner =>
      have hcount : (textOf (rowOf (.group inner :: parts))).count '{' =
          (textOf inner).count '{' + 1 + (textOf (rowOf parts)).count '{' := by
        rw [Lexer.textOf_rowOf_group, List.count_cons_self, List.count_append,
          List.count_cons_of_ne (by decide)]
        omega
      have htexts : (Part.group inner :: parts).filterMap Part.text? =
          String.ofList (textOf inner) :: parts.filterMap Part.text? := rfl
      rw [hcount, htexts, roomOf_cons, braceCount, String.toList_ofList]
      omega

/-- **The groups of a text need no more room than there are braces in it.** -/
theorem roomOf_groupTexts_le {source : String} {ts : List Token}
    (hread : tokenize source = .ok ts) : roomOf (groupTexts source ts) ≤ braceCount source := by
  obtain ⟨row, htext, hrow, rfl⟩ := Lexer.tokenize_eq_ok_iff.mp hread
  obtain ⟨parts, rfl, hparts⟩ := hrow.exists_parts rfl
  obtain rfl : source = String.ofList (Lexer.textOf (Lexer.rowOf parts)) := by
    rw [htext, String.ofList_toList]
  rw [groupTexts_rowOf hparts, braceCount, String.toList_ofList]
  exact roomOf_parts_le parts

/-- The blocks in the statements of a template need no more room than there are braces in its text.
-/
theorem roomOf_ofTemplate_le {known : String → Bool} {registry : Registry}
    {constructor : Constructor} (hword : IsCommandWord constructor.word) {source : String}
    {t : Template} (ht : (Template.ofSource known registry constructor source).2 = .ok t) :
    roomOf (Statement.groupTextsOfAll (ofTemplate t)) ≤ braceCount source := by
  cases hread : tokenize source with
  | error fault =>
    rw [Template.ofSource_snd, hread] at ht
    cases ht
  | ok ts =>
    rw [Template.groupTexts_ofTemplate hword hread ht]
    exact roomOf_groupTexts_le hread

/-! ## Checking texts -/

/-- Whether a name leads to a command that runs a block for each item. -/
def CommandTable.runsEach (table : CommandTable) (name : String) : Bool :=
  match (table.lookup name).map Command.action with
  | .ok (.acting .forEachItem) => true
  | _ => false

namespace Nest

/-- Whether a statement is found to be guarded. -/
def checkStatement (table : CommandTable) : List Nest → Bool
  | .token t :: rest => t.kind != .command || !table.runsEach t.text ||
    rest.getLast?.all (!·.recalls) || rest.dropLast.all isLiteral
  | _ => true

mutual

/-- Whether the statements between parentheses are found to be guarded. -/
def checkParens (table : CommandTable) : Nest → Bool
  | .token _ => true
  | .bracket opener inner _ => opener.kind == .groupStart ||
    (cut [] inner).all (checkStatement table) && checkAllParens table inner

/-- Whether it is so with all nests of a row. -/
def checkAllParens (table : CommandTable) : List Nest → Bool
  | [] => true
  | n :: ns => checkParens table n && checkAllParens table ns

end

/-- Whether the statements of a row are found to be guarded, at any level of parentheses. -/
def checkRow (table : CommandTable) (row : List Nest) : Bool :=
  (cut [] row).all (checkStatement table) && checkAllParens table row

theorem guarded_of_checkStatement {s : List Nest} (h : checkStatement table s = true) :
    Guarded table s := by
  unfold Guarded
  split
  · rename_i t rest
    intro hkind c hlookup haction
    have hruns : table.runsEach t.text = true := by
      rw [CommandTable.runsEach, hlookup, Except.map, haction]
    simpa [checkStatement, hkind, hruns, Option.all_eq_true] using h
  · trivial

theorem checkParens_of_mem {ns : List Nest} (h : checkAllParens table ns = true) {n : Nest}
    (hn : n ∈ ns) : checkParens table n = true := by
  induction ns with
  | nil => cases hn
  | cons m ns ih =>
    rw [checkAllParens, Bool.and_eq_true] at h
    rcases List.mem_cons.mp hn with rfl | hn
    · exact h.1
    · exact ih h.2 hn

theorem guarded_of_checkRow {row s : List Nest} (h : checkRow table row = true)
    (hs : StandsIn s row) : Guarded table s := by
  induction hs with
  | here hmem =>
    rw [checkRow, Bool.and_eq_true] at h
    exact guarded_of_checkStatement (List.all_eq_true.mp h.1 _ hmem)
  | inner hmem hparen _ ih =>
    rw [checkRow, Bool.and_eq_true] at h
    have hinner := checkParens_of_mem h.2 hmem
    rw [checkParens, Bool.or_eq_true] at hinner
    exact ih (hinner.resolve_left (by simpa using hparen))

end Nest

/-- Whether a text is found to be guarded, with groups nested up to a bound. -/
def checkGuarded (table : CommandTable) : Nat → String → Bool
  | 0, _ => false
  | n + 1, source =>
    match tokenize source with
    | .error _ => true
    | .ok ts => (Nest.read (Token.significant ts)).all (Nest.checkRow table) &&
      (groupTexts source ts).all (checkGuarded table n)

/-- **A text that is found to be guarded is guarded.** -/
theorem Guarded.of_check {n : Nat} {source : String} (h : checkGuarded table n source = true) :
    Guarded table source := by
  induction n generalizing source with
  | zero => cases h
  | succ n ih =>
    refine .intro (fun ts ns hread hns s hs => ?_) fun ts hread text htext => ?_
    · rw [checkGuarded, hread] at h
      dsimp only at h
      rw [hns] at h
      exact Nest.guarded_of_checkRow (Bool.and_eq_true_iff.mp h).1 hs
    · rw [checkGuarded, hread] at h
      exact ih (List.all_eq_true.mp (Bool.and_eq_true_iff.mp h).2 text htext)

end TagScript
