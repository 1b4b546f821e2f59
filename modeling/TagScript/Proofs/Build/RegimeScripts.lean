import TagScript.Proofs.Build.Regime
import TagScript.Proofs.Script.GroupTexts
import TagScript.Proofs.Script.NumberWords
import TagScript.Proofs.Template.Making

/-!
# Scripts under a regime

Whether the statements of a text keep to a regime is decided by its tokens and by the texts of its
brace groups: all that statements add to them are the faults of operands that are missing or stand
in the wrong place.

* `Regime.Reads` — what a regime must allow for the tokens of texts.
* `Regime.numbersMeet_of_read`, `Regime.operandMeets_word` — the tokens of a text keep to it.
* **`Regime.statementsMeet_ofTokens`** — so do the statements, if the groups do.
-/

namespace TagScript

open Script

namespace Regime

variable {R : Regime}

/-- What a regime must allow for the tokens of texts. -/
structure Reads (R : Regime) : Prop where
  /-- Texts are held. -/
  str : ∀ s, R.held (.str s)
  /-- Whole numbers are held. -/
  int : ∀ i, R.held (.int i)
  /-- Decimals are held. -/
  float : ∀ x, R.held (.float x)
  /-- Operands may be missing or stand in the wrong place. -/
  badSyntax : ∀ problem pos, R.fault (.badSyntax problem pos)
  /-- A whole number may be too long to be read. -/
  tooManyDigits : ∀ n, Number.digitLimit < n → R.fault (.invalid (.tooManyDigits n))

/-! ## Tokens -/

/-- Whether the tokens that are numbers keep to a regime as operands. -/
def NumbersMeet (R : Regime) (ts : List Token) : Prop :=
  ∀ t ∈ ts, t.kind = .number → R.OperandMeets (number t.text)

/-- The numbers of a text that is read are refused only if they are too long. -/
theorem numbersMeet_of_read (h : R.Reads) {source : String} {ts : List Token}
    (hread : tokenize source = .ok ts) : R.NumbersMeet ts := by
  intro t ht hkind
  rcases number_cases (Token.isNumber_text hread ht hkind) with ⟨i, hi⟩ | ⟨x, hx⟩ | ⟨n, hlimit, hn⟩
  · rw [hi]
    exact .leaf rfl (h.int i)
  · rw [hx]
    exact .leaf rfl (h.float x)
  · rw [hn]
    exact h.tooManyDigits n hlimit

/-- Where everything may fail, any tokens will do. -/
theorem numbersMeet_of_all (h : R.Reads) (hall : ∀ fault, R.fault fault) (ts : List Token) :
    R.NumbersMeet ts := by
  intro t _ _
  fun_cases number t.text with
  | case1 => exact .leaf rfl (h.int _)
  | case4 => exact .leaf rfl (h.float _)
  | _ => exact hall _

theorem operandMeets_quotedString (h : R.Reads) (t : Token) : R.OperandMeets (quotedString t) := by
  unfold quotedString
  split
  · exact .leaf rfl (h.str _)
  · trivial

theorem operandMeets_variableWithMembers (t : Token) : R.OperandMeets (variableWithMembers t) := by
  unfold variableWithMembers
  split <;> trivial

/-- Every token keeps to the regime as an operand, if numbers do. -/
theorem operandMeets_word (h : R.Reads) {ts : List Token} (hnumbers : R.NumbersMeet ts) :
    ∀ t ∈ ts, R.OperandMeets (word t) := by
  intro t ht
  unfold word
  cases hkind : t.kind with
  | string => exact operandMeets_quotedString h t
  | number => exact hnumbers t ht hkind
  | «variable» => exact operandMeets_variableWithMembers t
  | argument | parameter | command => exact .leaf rfl (h.str _)
  | _ => exact h.badSyntax _ _

/-! ## Statements -/

/-- Whether an atom keeps to a regime. -/
def AtomMeets (R : Regime) : Atom → Prop
  | .token t => R.OperandMeets (word t)
  | .bracketed o => R.OperandMeets o

/-- Whether an operand or a comma keeps to a regime. -/
def PieceMeets (R : Regime) : Piece → Prop
  | .operand o => R.OperandMeets o
  | .comma _ => True

section

variable (h : R.Reads)
include h

theorem castNext_meets (t : Token) {ps : List Piece} (hps : ∀ p ∈ ps, R.PieceMeets p) :
    ∀ p ∈ castNext t ps, R.PieceMeets p := by
  unfold castNext
  split
  · obtain ⟨ho, hrest⟩ := List.forall_mem_cons.mp hps
    exact List.forall_mem_cons.mpr ⟨ho, hrest⟩
  · exact List.forall_mem_cons.mpr ⟨h.badSyntax _ _, hps⟩

theorem pieces_meet {row : List Atom} (hrow : ∀ a ∈ row, R.AtomMeets a) :
    ∀ p ∈ pieces row, R.PieceMeets p := by
  induction row with
  | nil => exact List.forall_mem_nil _
  | cons a row ih =>
    obtain ⟨ha, hrow⟩ := List.forall_mem_cons.mp hrow
    have hrest := ih hrow
    cases a with
    | bracketed o => exact List.forall_mem_cons.mpr ⟨ha, hrest⟩
    | token t =>
      rw [pieces]
      split
      · exact List.forall_mem_cons.mpr ⟨trivial, hrest⟩
      · exact castNext_meets h t hrest
      · exact List.forall_mem_cons.mpr ⟨ha, hrest⟩

theorem rows_meet {ps : List Piece} (hps : ∀ p ∈ ps, R.PieceMeets p) : R.RowsMeet (rows ps) := by
  fun_induction rows ps with
  | case1 => trivial
  | case2 t rest ih =>
    exact ⟨⟨h.badSyntax _ _, trivial⟩, ih (List.forall_mem_cons.mp hps).2⟩
  | case3 o t rest _ _ =>
    exact ⟨⟨(List.forall_mem_cons.mp hps).1, h.badSyntax _ _, trivial⟩, trivial⟩
  | case4 o t rest row more hrows ih =>
    obtain ⟨ho, hrest⟩ := List.forall_mem_cons.mp hps
    have hmore := ih (List.forall_mem_cons.mp hrest).2
    rw [hrows] at hmore
    exact ⟨⟨ho, hmore.1⟩, hmore.2⟩
  | case5 o rest _ ih =>
    obtain ⟨ho, hrest⟩ := List.forall_mem_cons.mp hps
    exact ⟨⟨ho, trivial⟩, ih hrest⟩

theorem statement_meets {row : List Atom} (hrow : ∀ a ∈ row, R.AtomMeets a) :
    R.StatementMeets (statement row) := by
  unfold statement
  split
  · obtain ⟨-, hrest⟩ := List.forall_mem_cons.mp hrow
    split
    · exact rows_meet h (pieces_meet h hrest)
    · exact rows_meet h (pieces_meet h hrow)
  · exact rows_meet h (pieces_meet h hrow)

omit h in
/-- What is cut stood in the row. -/
theorem mem_of_mem_cut {current row s : List Atom} (hs : s ∈ cut current row) {a : Atom}
    (ha : a ∈ s) : a ∈ current ∨ a ∈ row := by
  fun_induction cut current row with
  | case1 current _ => cases hs
  | case2 current _ =>
    rw [List.mem_singleton.mp hs] at ha
    exact .inl (List.mem_reverse.mp ha)
  | case3 current b rest _ ih => exact (ih hs).imp_right (List.mem_cons_of_mem b)
  | case4 current b rest _ _ _ ih =>
    exact .inr (List.mem_cons_of_mem b ((ih hs).resolve_left List.not_mem_nil))
  | case5 current b rest _ _ _ ih =>
    rcases List.mem_cons.mp hs with rfl | hs
    · exact .inl (List.mem_reverse.mp ha)
    · exact .inr (List.mem_cons_of_mem b ((ih hs).resolve_left List.not_mem_nil))
  | case6 current b rest _ _ ih =>
    rcases ih hs with hb | hrest
    · rcases List.mem_cons.mp hb with rfl | hcurrent
      · exact .inr List.mem_cons_self
      · exact .inl hcurrent
    · exact .inr (List.mem_cons_of_mem b hrest)

theorem statements_meet {row : List Atom} (hrow : ∀ a ∈ row, R.AtomMeets a) :
    R.StatementsMeet (statements row) := by
  have hcut : ∀ s ∈ cut [] row, ∀ a ∈ s, R.AtomMeets a := fun s hs a ha =>
    hrow a ((mem_of_mem_cut hs ha).resolve_left List.not_mem_nil)
  unfold statements
  generalize cut [] row = ss at hcut
  induction ss with
  | nil => trivial
  | cons s ss ih =>
    obtain ⟨hs, hss⟩ := List.forall_mem_cons.mp hcut
    exact ⟨statement_meets h hs, ih hss⟩

end

/-! ## Nested brackets -/

mutual

/-- A nest keeps to the regime as an atom, if its tokens and its groups do. -/
theorem atom_meets (h : R.Reads) (source : List Char) : ∀ n : Nest, n.Paired →
    (∀ t ∈ n.tokens, R.OperandMeets (word t)) → (∀ t ∈ n.tokens, t.kind = .parenStart → R.parens) →
      (∀ text ∈ nestTexts source n, R.source text) → R.AtomMeets (atom source n)
  | .token t, _, htokens, _, _ => htokens t (List.mem_singleton.mpr rfl)
  | .bracket opener inner closer, hpaired, htokens, hparens, htexts => by
    rw [atom]
    rw [nestTexts] at htexts
    split
    · rename_i hgroup
      rw [if_pos hgroup] at htexts
      exact htexts _ (List.mem_singleton.mpr rfl)
    · rename_i hgroup
      rw [if_neg hgroup] at htexts
      cases hpaired with
      | bracket hopener _ hinner =>
        have hkind : opener.kind = .parenStart := by
          unfold TokenKind.isOpener at hopener
          split at hopener
          · contradiction
          · assumption
          · cases hopener
        have hmem : ∀ t ∈ Nest.tokensOfAll inner, t ∈ (Nest.bracket opener inner closer).tokens :=
          fun t ht => List.mem_cons_of_mem opener (List.mem_append_left [closer] ht)
        refine ⟨hparens opener List.mem_cons_self hkind, statements_meet h ?_⟩
        exact atoms_meet h source inner hinner (fun t ht => htokens t (hmem t ht))
          (fun t ht => hparens t (hmem t ht)) htexts

/-- A row of nests keeps to the regime, if its tokens and its groups do. -/
theorem atoms_meet (h : R.Reads) (source : List Char) : ∀ ns : List Nest, (∀ n ∈ ns, n.Paired) →
    (∀ t ∈ Nest.tokensOfAll ns, R.OperandMeets (word t)) →
    (∀ t ∈ Nest.tokensOfAll ns, t.kind = .parenStart → R.parens) →
      (∀ text ∈ nestTextsOfAll source ns, R.source text) → ∀ a ∈ atoms source ns, R.AtomMeets a
  | [], _, _, _, _ => List.forall_mem_nil _
  | n :: ns, hpaired, htokens, hparens, htexts => by
    obtain ⟨hn, hns⟩ := List.forall_mem_cons.mp hpaired
    rw [Nest.tokensOfAll] at htokens hparens
    rw [nestTextsOfAll] at htexts
    obtain ⟨htn, htns⟩ := List.forall_mem_append.mp htokens
    obtain ⟨hpn, hpns⟩ := List.forall_mem_append.mp hparens
    obtain ⟨hgn, hgns⟩ := List.forall_mem_append.mp htexts
    rw [atoms]
    exact List.forall_mem_cons.mpr
      ⟨atom_meets h source n hn htn hpn hgn, atoms_meet h source ns hns htns hpns hgns⟩

end

/-- **The statements of a text keep to a regime**, if its numbers and the texts of its brace groups
do and parentheses stand in it only where they may. -/
theorem statementsMeet_ofTokens (h : R.Reads) {source : String} {ts : List Token}
    (hnumbers : R.NumbersMeet ts) (hparens : ∀ t ∈ ts, t.kind = .parenStart → R.parens)
    (hgroups : ∀ text ∈ Statement.groupTextsOfAll (ofTokens source ts), R.source text) :
    R.StatementsMeet (ofTokens source ts) := by
  unfold ofTokens at hgroups ⊢
  split
  · rename_i nests hnests
    rw [hnests] at hgroups
    dsimp only at hgroups
    rw [groupTexts_statements, groupTexts_atoms] at hgroups
    obtain ⟨htokens, hpaired⟩ := Nest.read_spec hnests
    have hmem : ∀ t ∈ Nest.tokensOfAll nests, t ∈ ts := fun t ht =>
      (List.mem_filter.mp (htokens ▸ ht)).1
    exact statements_meet h (atoms_meet h source.toList nests hpaired
      (fun t ht => operandMeets_word h hnumbers t (hmem t ht)) (fun t ht => hparens t (hmem t ht))
      hgroups)
  · trivial

end Regime

end TagScript
