import TagScript.Proofs.Script.BracketCounters
import TagScript.Proofs.Script.CommaRows
import TagScript.Script.Evaluate

/-!
# Running flat rows of tokens

Statements can be run straight from their tokens, without nests: brackets are found by counting when
they are reached, and what is wrong with the tokens is raised there. On the tokens of a text this
comes to the same as running the nested statements.

* `Walk` — a walk over tokens, and what it raises where a bracket is not closed and where a token
  begins no operand.
* `Walk.exists_takes`, `Walk.exists_takesItems` — a walk over the nests of a statement takes the
  operand in front, and those that commas join to it.
* `Walk.operands_eq`, `Walk.statement_eq` — so it takes all operands, and runs the statement.
* **`Walk.runsInside_run`** — a walk runs the statements of a row.
* **`bracketsAgree`** — what the three ways to pair brackets have in common on every text that is
  read. What is raised at a bracket without its partner does not matter to a walk, nor does what is
  raised at a token that begins no operand, commas apart.
-/

namespace TagScript

open Script (Atom Piece pieces atoms word matching? splitStatements)
open Nest (tokensOfAll)

/-! ## Walks over tokens -/

/-- What stands between a bracket and the one that closes it, that one, and what stands behind. -/
def Script.enclosed? (t : Token) (rest : List Token) : Option (List Token × Token × List Token) :=
  (matching? (t :: rest) 0).bind fun j => (t :: rest)[j]?.map fun closer =>
    (((t :: rest).take j).drop 1, closer, (t :: rest).drop (j + 1))

/-- A walk over tokens: what it is given, and what it raises. -/
structure Walk where
  /-- What runs blocks. -/
  engine : Engine
  /-- The build. -/
  env : BuildEnv
  /-- The scope of the statements. -/
  scope : ScopeId
  /-- The text of the tokens. -/
  source : List Char
  /-- What is raised at an opening bracket that is not closed. -/
  unclosed : Token → Fault
  /-- What is raised at a token that begins no operand. -/
  unexpected : Token → Fault

namespace Walk

variable (w : Walk) (inside : List Token → Build (List Value))

/-- Takes the operand that begins with a token, and yields what stands behind it too. What stands
between parentheses is left to `inside`. -/
def operand (t : Token) (rest : List Token) : Build (Value × List Token) :=
  match t.kind with
  | .cast =>
    match rest with
    | [] => Build.fail (.badSyntax (.missingOperand t.text) t.pos)
    | u :: rest =>
      if u.kind = .comma ∨ u.kind = .newline then
        Build.fail (.badSyntax (.missingOperand t.text) t.pos)
      else do
        let r ← operand u rest
        let v ← Build.lift (Build.castValue (← Build.read (·.registry)) t r.1)
        pure (v, r.2)
  | .groupStart =>
    match Script.enclosed? t rest with
    | some (_, closer, left) =>
      pure (.block ⟨Script.between w.source t closer, some w.scope, t.pos.line⟩, left)
    | none => Build.fail (w.unclosed t)
  | .parenStart =>
    match Script.enclosed? t rest with
    | some (between, _, left) => do
      let vs ← inside between
      pure (Build.unwrapped vs, left)
    | none => Build.fail (w.unclosed t)
  | .string | .number | .variable | .argument | .parameter | .command => do
    let v ← Build.operand w.engine w.env w.scope (word t)
    pure (v, rest)
  | _ => Build.fail (w.unexpected t)
termination_by structural rest

/-- Takes the operands behind commas. A comma goes on over newlines. -/
def items : Nat → List Token → Build (List Value × List Token)
  | _, [] => pure ([], [])
  | 0, _ :: _ => Build.fail .exhausted
  | fuel + 1, c :: rest =>
    if c.kind = .comma then
      match rest.dropWhile (·.kind == .newline) with
      | [] => Build.fail (.badSyntax (.missingOperand (Text.quoted c.text)) c.pos)
      | t :: rest => do
        let r ← w.operand inside t rest
        let more ← items fuel r.2
        pure (r.1 :: more.1, more.2)
    else pure ([], c :: rest)

/-- Takes the operands of a statement, those joined by commas together. -/
def operands : Nat → List Token → Build (List Value)
  | _, [] => pure []
  | 0, _ :: _ => Build.fail .exhausted
  | fuel + 1, t :: rest =>
    if t.kind = .newline then operands fuel rest
    else do
      let r ← w.operand inside t rest
      let more ← w.items inside fuel r.2
      let vs ← operands fuel more.2
      pure (Build.joined (r.1 :: more.1) :: vs)

/-- Runs a statement. -/
def statement : List Token → Build (List Value)
  | [] => pure []
  | t :: rest =>
    if t.kind = .command then do
      let args ← w.operands inside rest.length rest
      let v ← Build.invoke w.engine w.env ⟨t.text, args, w.scope⟩
      pure v.spread
    else do
      let args ← w.operands inside (t :: rest).length (t :: rest)
      pure (Value.spreadAll args)

/-- Runs statements one after the other. -/
def statements : List (List Token) → Build (List Value)
  | [] => pure []
  | s :: ss => do
    let vs ← w.statement inside s
    let rest ← statements ss
    pure (vs ++ rest)

/-- Runs a row of tokens. Parentheses are nested up to a bound. -/
def run : Nat → List Token → Build (List Value)
  | 0, _ => Build.fail .exhausted
  | fuel + 1, row => w.statements (run fuel) (splitStatements row)

end Walk

namespace Nest

/-- Whether a nest can be walked over: its brackets are matched, and all of its tokens carry
meaning. -/
structure Walkable (n : Nest) : Prop where
  /-- Its brackets are matched. -/
  matched : ∃ pair d, n.Matched pair d
  /-- Its tokens carry meaning. -/
  significant : ∀ t ∈ n.tokens, t.kind.isSignificant = true

theorem Walkable.inner {opener closer : Token} {inner : List Nest}
    (h : (bracket opener inner closer).Walkable) : ∀ n ∈ inner, n.Walkable := by
  intro n hn
  obtain ⟨pair, d, hmatched⟩ := h.matched
  obtain ⟨d', hinner⟩ := hmatched.exists_inner
  refine ⟨⟨pair, d', hinner n hn⟩, fun t ht => h.significant t ?_⟩
  obtain ⟨earlier, later, rfl⟩ := List.append_of_mem hn
  simp [tokens, tokensOfAll_append, tokensOfAll, ht]

/-- A walk comes past a bracket to what stands behind the one that closes it. -/
theorem Walkable.enclosed? {opener closer : Token} {inner : List Nest}
    (h : (bracket opener inner closer).Walkable) (after : List Token) :
    Script.enclosed? opener (tokensOfAll inner ++ closer :: after) =
      some (tokensOfAll inner, closer, after) := by
  obtain ⟨pair, d, hmatched⟩ := h.matched
  have hmatching := Script.matching?_eq_some hmatched [] after
  rw [List.nil_append, List.length_nil, Nat.zero_add] at hmatching
  simp [Script.enclosed?, hmatching]

/-- Whether a nest can stand in a statement: it can be walked over, and it is no token between
statements. -/
def InStatement (n : Nest) : Prop :=
  n.Walkable ∧ n.separates = false

theorem eq_nil_of_tokensOfAll {g : List Nest} (h : tokensOfAll g = []) : g = [] := by
  cases g with
  | nil => rfl
  | cons n g =>
    obtain ⟨t, ts, htokens⟩ := n.exists_tokens_eq_cons
    simp [tokensOfAll, htokens] at h

/-- A row that begins with a token other than an opening bracket begins with it as a nest. -/
theorem exists_eq_token_cons {g : List Nest} (hg : ∀ n ∈ g, n.InStatement) {t : Token}
    {rest : List Token} (h : tokensOfAll g = t :: rest) (ht : t.kind.isOpener = false) :
    ∃ g', g = .token t :: g' ∧ rest = tokensOfAll g' := by
  cases g with
  | nil => cases h
  | cons n g =>
    cases n with
    | token u =>
      obtain ⟨rfl, rfl⟩ : u = t ∧ tokensOfAll g = rest := by
        simpa [tokensOfAll, tokens] using h
      exact ⟨g, rfl, rfl⟩
    | bracket opener inner closer =>
      obtain ⟨pair, d, hmatched⟩ := (hg _ List.mem_cons_self).1.matched
      obtain ⟨rfl, -⟩ : opener = t ∧ _ := by
        simpa [tokensOfAll, tokens] using h
      have hopener := (TokenKind.isOpener_of_closer? hmatched.closer?_eq).1
      exact absurd (ht.symm.trans hopener) Bool.false_ne_true

theorem kind_ne_newline {g : List Nest} (hg : ∀ n ∈ g, n.InStatement) {t : Token}
    {rest : List Token} (h : tokensOfAll g = t :: rest) : t.kind ≠ .newline := by
  intro hnewline
  obtain ⟨g, rfl, -⟩ := exists_eq_token_cons hg h (by rw [hnewline]; rfl)
  have hkept := (hg _ List.mem_cons_self).2
  rw [separates, hnewline] at hkept
  cases hkept

theorem length_tokensOfAll_le {ms ns : List Nest} (h : ms.Sublist ns) :
    (tokensOfAll ms).length ≤ (tokensOfAll ns).length := by
  induction h with
  | slnil => exact Nat.le_refl _
  | cons n _ ih => exact Nat.le_trans ih (by simp [tokensOfAll])
  | cons_cons n _ ih => simpa [tokensOfAll] using ih

/-- The pieces of a statement begin with a comma exactly if its tokens do. -/
theorem head?_pieces_atoms (source : List Char) {g : List Nest} (hg : ∀ n ∈ g, n.InStatement) :
    (pieces (atoms source g)).head?.any Piece.isComma =
      (tokensOfAll g).head?.any fun t => t.kind == .comma := by
  rw [Script.head?_pieces, atoms_eq_map]
  cases g with
  | nil => rfl
  | cons n g =>
    cases n with
    | token t => simp [tokensOfAll, tokens, Script.atom, Atom.isKind]
    | bracket opener inner closer =>
      obtain ⟨pair, d, hmatched⟩ := (hg _ List.mem_cons_self).1.matched
      have hopener := (TokenKind.isOpener_of_closer? hmatched.closer?_eq).1
      have hcomma : TokenKind.comma ≠ _ := TokenKind.ne_of_isOpener rfl hopener
      simp [tokensOfAll, tokens, Script.atom, Atom.isKind, hcomma.symm]

end Nest

namespace Build

/-- A failure ends what goes on with it. -/
theorem fail_bind {α β : Type} (fault : Fault) (f : α → Build β) :
    (fail fault >>= f) = fail fault := rfl

end Build

namespace Walk

/-- Whether a walk raises at a comma what is raised at it in a nested statement. -/
def TellsCommas (w : Walk) : Prop :=
  ∀ t, t.kind = .comma → w.unexpected t = .badSyntax (.unexpectedToken t.text) t.pos

variable {w : Walk} {inside : List Token → Build (List Value)}

/-- Whether what stands between parentheses is run as its nests are, for rows that are short
enough. -/
def RunsInside (w : Walk) (inside : List Token → Build (List Value)) (bound : Nat) : Prop :=
  ∀ ns : List Nest, (∀ n ∈ ns, n.Walkable) → (tokensOfAll ns).length < bound →
    inside (tokensOfAll ns) =
      Build.statements w.engine w.env w.scope (Script.statements (atoms w.source ns))

theorem RunsInside.mono {bound bound' : Nat} (h : RunsInside w inside bound)
    (hle : bound' ≤ bound) : RunsInside w inside bound' :=
  fun ns hns hlt => h ns hns (Nat.lt_of_lt_of_le hlt hle)

/-- Whether a walk takes an operand at the front of a statement, and stands at the nests `left` of
the statement behind it. -/
structure Takes (w : Walk) (inside : List Token → Build (List Value)) (g : List Nest) (t : Token)
    (rest : List Token) (o : Operand) (left : List Nest) : Prop where
  /-- What is left is the end of the statement. -/
  suffix : left <:+ g
  /-- A token was taken. -/
  shorter : (tokensOfAll left).length ≤ rest.length
  /-- The operand is the one that the nests begin with. -/
  pieces : pieces (atoms w.source g) = .operand o :: pieces (atoms w.source left)
  /-- The walk evaluates it. -/
  walk : w.operand inside t rest =
    Build.operand w.engine w.env w.scope o >>= fun v => pure (v, tokensOfAll left)

theorem takes_bracket {opener closer : Token} {inner g : List Nest}
    (h : (Nest.bracket opener inner closer).Walkable)
    (hrun : inside (tokensOfAll inner) =
      Build.statements w.engine w.env w.scope (Script.statements (atoms w.source inner))) :
    ∃ o, w.Takes inside (.bracket opener inner closer :: g) opener
      (tokensOfAll inner ++ closer :: tokensOfAll g) o g := by
  have hshorter : (tokensOfAll g).length ≤
      (tokensOfAll inner ++ closer :: tokensOfAll g).length := by
    rw [List.length_append, List.length_cons]
    omega
  refine ⟨_, List.suffix_cons _ _, hshorter, by rw [atoms, Script.atom, Script.pieces], ?_⟩
  obtain ⟨pair, d, hmatched⟩ := h.matched
  cases hmatched with
  | group ho =>
    rw [operand.eq_def, ho, if_pos rfl, Build.operand]
    simp [h.enclosed?]
  | paren ho =>
    rw [operand.eq_def, ho, if_neg (by simp), Build.operand]
    simp [h.enclosed?, hrun]

/-- A cast is taken with the operand behind it. -/
theorem Takes.cast {g left : List Nest} {u : Token} {rest : List Token} {o : Operand}
    (h : w.Takes inside g u rest o left) (htokens : tokensOfAll g = u :: rest)
    (hcomma : u.kind ≠ .comma) (hnewline : u.kind ≠ .newline) {t : Token} (ht : t.kind = .cast) :
    w.Takes inside (.token t :: g) t (tokensOfAll g) (.cast t o) left := by
  refine ⟨h.suffix.trans (List.suffix_cons _ _), ?_, ?_, ?_⟩
  · have hshorter := h.shorter
    rw [htokens, List.length_cons]
    omega
  · rw [atoms, Script.atom, Script.pieces, ht, h.pieces]
    rfl
  · rw [operand.eq_def, ht, htokens, Build.operand]
    simp [hcomma, hnewline, h.walk]

/-- A cast with no operand behind it is faulty. -/
theorem takes_missing {g : List Nest} (hg : ∀ n ∈ g, n.InStatement) {t : Token}
    (ht : t.kind = .cast) (hnext : ∀ u rest, tokensOfAll g = u :: rest → u.kind = .comma) :
    ∃ o, w.Takes inside (.token t :: g) t (tokensOfAll g) o g := by
  have hpieces (o : Operand) (ps : List Piece) : pieces (atoms w.source g) ≠ .operand o :: ps := by
    intro heq
    have hcomma := Nest.head?_pieces_atoms w.source hg
    rw [heq] at hcomma
    cases htokens : tokensOfAll g with
    | nil => simp [Nest.eq_nil_of_tokensOfAll htokens, atoms, pieces] at heq
    | cons u rest => simp [htokens, hnext u rest htokens, Piece.isComma] at hcomma
  refine ⟨.faulty (.badSyntax (.missingOperand t.text) t.pos), List.suffix_cons _ _, Nat.le_refl _,
    ?_, ?_⟩
  · rw [atoms, Script.atom, Script.pieces, ht]
    dsimp only
    unfold Script.castNext
    split
    · exact absurd ‹_› (hpieces _ _)
    · rfl
  · rw [operand.eq_def, ht, Build.operand, Build.fail_bind]
    cases htokens : tokensOfAll g with
    | nil => rfl
    | cons u rest => simp [hnext u rest htokens]

/-- **A walk takes the operand that a statement begins with.** -/
theorem exists_takes {g : List Nest} (hinside : RunsInside w inside (tokensOfAll g).length)
    (hg : ∀ n ∈ g, n.InStatement) {t : Token} {rest : List Token}
    (htokens : tokensOfAll g = t :: rest) (hcomma : t.kind ≠ .comma) :
    ∃ o left, w.Takes inside g t rest o left := by
  induction g generalizing t rest with
  | nil => cases htokens
  | cons n g ih =>
    obtain ⟨⟨hwalk, hkept⟩, hrest⟩ := List.forall_mem_cons.mp hg
    cases n with
    | bracket opener inner closer =>
      have hlt : (tokensOfAll inner).length <
          (tokensOfAll (.bracket opener inner closer :: g)).length := by
        simp only [tokensOfAll, Nest.tokens, List.cons_append, List.length_cons,
          List.length_append]
        omega
      have hrun := hinside inner hwalk.inner hlt
      obtain ⟨rfl, rfl⟩ : t = opener ∧ rest = tokensOfAll inner ++ closer :: tokensOfAll g := by
        simpa [tokensOfAll, Nest.tokens, eq_comm] using htokens
      obtain ⟨o, htakes⟩ := takes_bracket (g := g) hwalk hrun
      exact ⟨o, g, htakes⟩
    | token t' =>
      obtain ⟨rfl, rfl⟩ : t = t' ∧ rest = tokensOfAll g := by
        simpa [tokensOfAll, Nest.tokens, eq_comm] using htokens
      have hsignificant := hwalk.significant t (List.mem_singleton.mpr rfl)
      obtain ⟨pair, d, hmatched⟩ := hwalk.matched
      obtain ⟨hopener, hcloser⟩ : t.kind.isOpener = false ∧ t.kind.isCloser = false := by
        cases hmatched with
        | token hopener hcloser => exact ⟨hopener, hcloser⟩
      cases hkind : t.kind with
      | cast =>
        by_cases hnext : ∀ u more, tokensOfAll g = u :: more → u.kind = .comma
        · obtain ⟨o, htakes⟩ := takes_missing hrest hkind hnext
          exact ⟨o, g, htakes⟩
        · push Not at hnext
          obtain ⟨u, more, hu, hne⟩ := hnext
          have hle : (tokensOfAll g).length ≤ (tokensOfAll (.token t :: g)).length := by
            simp [tokensOfAll]
          obtain ⟨o, left, htakes⟩ := ih (hinside.mono hle) hrest hu hne
          exact ⟨_, left, htakes.cast hu hne (Nest.kind_ne_newline hrest hu) hkind⟩
      | comma => exact absurd hkind hcomma
      | newline | separator =>
        rw [Nest.separates, hkind] at hkept
        cases hkept
      | comment | continuation =>
        rw [hkind] at hsignificant
        cases hsignificant
      | groupStart | parenStart =>
        rw [hkind] at hopener
        cases hopener
      | groupEnd | parenEnd =>
        rw [hkind] at hcloser
        cases hcloser
      | _ =>
        refine ⟨word t, g, List.suffix_cons _ _, Nat.le_refl _, ?_, ?_⟩
        · rw [atoms, Script.atom, pieces, hkind]
        · rw [operand.eq_def, hkind]

/-- Whether a walk takes the operands behind commas at the front of a row, and stands at the nests
`left` of the row behind them. -/
structure TakesItems (w : Walk) (inside : List Token → Build (List Value)) (fuel : Nat)
    (g : List Nest) (os : List Operand) (left : List Nest) : Prop where
  /-- What is left is the end of the row. -/
  suffix : left <:+ g
  /-- The operands are those that are joined to one in front of the row. -/
  rows : ∀ o, Script.rows (.operand o :: pieces (atoms w.source g)) =
    (o :: os) :: Script.rows (pieces (atoms w.source left))
  /-- The walk evaluates them. -/
  walk : w.items inside fuel (tokensOfAll g) =
    Build.operands w.engine w.env w.scope os >>= fun vs => pure (vs, tokensOfAll left)

theorem operand_comma {t : Token} (hw : w.TellsCommas) (ht : t.kind = .comma)
    (rest : List Token) :
    w.operand inside t rest = Build.fail (.badSyntax (.unexpectedToken t.text) t.pos) := by
  rw [operand.eq_def, ht, ← hw t ht]

/-- Behind the last comma an operand is missing. -/
theorem takesItems_end {c : Token} (hc : c.kind = .comma) (fuel : Nat) :
    w.TakesItems inside (fuel + 1) [.token c]
      [.faulty (.badSyntax (.missingOperand (Text.quoted c.text)) c.pos)] [] := by
  refine ⟨List.nil_suffix, fun o => ?_, ?_⟩
  · simp only [atoms, Script.atom, pieces, hc]
    rfl
  · rw [Build.operands, Build.operand, Build.fail_bind, Build.fail_bind]
    simp [tokensOfAll, Nest.tokens, items, hc]

/-- A comma behind a comma begins no operand. -/
theorem takesItems_comma (hw : w.TellsCommas) {c c' : Token} (hc : c.kind = .comma)
    (hc' : c'.kind = .comma) {g : List Nest} (fuel : Nat) :
    w.TakesItems inside (fuel + 1) (.token c :: .token c' :: g)
      [.faulty (.badSyntax (.unexpectedToken c'.text) c'.pos)] g := by
  refine ⟨⟨[.token c, .token c'], rfl⟩, fun o => ?_, ?_⟩
  · simp only [atoms, Script.atom, pieces, hc, hc']
    rfl
  · rw [Build.operands, Build.operand, Build.fail_bind, Build.fail_bind]
    simp [tokensOfAll, Nest.tokens, items, hc, hc', operand_comma hw hc', Build.fail_bind]

/-- An operand behind a comma is taken with those that are joined to it. -/
theorem TakesItems.comma {fuel : Nat} {g left left' : List Nest} {c t : Token} {rest : List Token}
    {o : Operand} {os : List Operand} (h : w.TakesItems inside fuel left os left')
    (hc : c.kind = .comma) (htokens : tokensOfAll g = t :: rest) (ht : t.kind ≠ .newline)
    (htakes : w.Takes inside g t rest o left) :
    w.TakesItems inside (fuel + 1) (.token c :: g) (o :: os) left' := by
  refine ⟨(h.suffix.trans htakes.suffix).trans (List.suffix_cons _ _), fun o' => ?_, ?_⟩
  · simp only [atoms, Script.atom, pieces, hc, htakes.pieces]
    rw [Script.rows, h.rows]
  · simp [tokensOfAll, Nest.tokens, htokens, items, hc, ht, htakes.walk, h.walk, Build.operands]

/-- **A walk takes the operands that are joined to the one in front.** -/
theorem exists_takesItems (hw : w.TellsCommas) {g : List Nest}
    (hinside : RunsInside w inside (tokensOfAll g).length) (hg : ∀ n ∈ g, n.InStatement)
    {fuel : Nat} (hfuel : (tokensOfAll g).length ≤ fuel) :
    ∃ os left, w.TakesItems inside fuel g os left := by
  induction fuel generalizing g with
  | zero =>
    obtain rfl := Nest.eq_nil_of_tokensOfAll (List.eq_nil_of_length_eq_zero (Nat.le_zero.mp hfuel))
    exact ⟨[], [], List.suffix_refl _, fun o => rfl, rfl⟩
  | succ fuel ih =>
    cases htokens : tokensOfAll g with
    | nil =>
      obtain rfl := Nest.eq_nil_of_tokensOfAll htokens
      exact ⟨[], [], List.suffix_refl _, fun o => rfl, rfl⟩
    | cons c rest =>
      by_cases hcomma : c.kind = .comma
      · obtain ⟨g, rfl, rfl⟩ := Nest.exists_eq_token_cons hg htokens (by rw [hcomma]; rfl)
        cases hnext : tokensOfAll g with
        | nil =>
          obtain rfl := Nest.eq_nil_of_tokensOfAll hnext
          exact ⟨_, [], takesItems_end hcomma fuel⟩
        | cons t rest =>
          obtain ⟨-, hrest⟩ := List.forall_mem_cons.mp hg
          by_cases ht : t.kind = .comma
          · obtain ⟨g, rfl, -⟩ := Nest.exists_eq_token_cons hrest hnext (by rw [ht]; rfl)
            exact ⟨_, g, takesItems_comma hw hcomma ht fuel⟩
          · have hlength : (tokensOfAll (.token c :: g)).length = (tokensOfAll g).length + 1 := by
              simp [tokensOfAll, Nest.tokens]
            obtain ⟨o, left, htakes⟩ :=
              exists_takes (hinside.mono (hlength ▸ Nat.le_succ _)) hrest hnext ht
            have hshorter : (tokensOfAll left).length + 1 ≤ (tokensOfAll g).length := by
              simpa [hnext] using htakes.shorter
            obtain ⟨os, left', hitems⟩ := ih (hinside.mono (by omega))
              (fun n hn => hrest n (htakes.suffix.subset hn)) (by omega)
            exact ⟨_, left', hitems.comma hcomma hnext (Nest.kind_ne_newline hrest hnext) htakes⟩
      · refine ⟨[], g, List.suffix_refl _, fun o => ?_, ?_⟩
        · have hbegins := Nest.head?_pieces_atoms w.source hg
          rw [htokens] at hbegins
          exact Script.rows_operand o (hbegins.trans (by simpa using hcomma))
        · rw [htokens, items, if_neg hcomma]
          rfl

/-- **A walk takes the operands of a statement.** -/
theorem operands_eq (hw : w.TellsCommas) {g : List Nest}
    (hinside : RunsInside w inside (tokensOfAll g).length) (hg : ∀ n ∈ g, n.InStatement)
    {fuel : Nat} (hfuel : (tokensOfAll g).length ≤ fuel) :
    w.operands inside fuel (tokensOfAll g) =
      Build.rows w.engine w.env w.scope (Script.rows (pieces (atoms w.source g))) := by
  induction fuel generalizing g with
  | zero =>
    obtain rfl := Nest.eq_nil_of_tokensOfAll (List.eq_nil_of_length_eq_zero (Nat.le_zero.mp hfuel))
    rfl
  | succ fuel ih =>
    cases htokens : tokensOfAll g with
    | nil =>
      obtain rfl := Nest.eq_nil_of_tokensOfAll htokens
      rfl
    | cons t rest =>
      rw [operands, if_neg (Nest.kind_ne_newline hg htokens)]
      by_cases ht : t.kind = .comma
      · obtain ⟨g, rfl, -⟩ := Nest.exists_eq_token_cons hg htokens (by rw [ht]; rfl)
        rw [operand_comma hw ht, Build.fail_bind]
        simp only [atoms, Script.atom, pieces, ht]
        rfl
      · obtain ⟨o, left, htakes⟩ := exists_takes hinside hg htokens ht
        have hshorter : (tokensOfAll left).length + 1 ≤ (tokensOfAll g).length := by
          simpa [htokens] using htakes.shorter
        have hleft (n : Nest) (hn : n ∈ left) := hg n (htakes.suffix.subset hn)
        obtain ⟨os, left', hitems⟩ := exists_takesItems hw (hinside.mono (by omega)) hleft
          (Nat.le_of_succ_le_succ (Nat.le_trans hshorter hfuel))
        have hlength := Nest.length_tokensOfAll_le hitems.suffix.sublist
        have hrest := ih (hinside.mono (by omega))
          (fun n hn => hleft n (hitems.suffix.subset hn)) (by omega)
        rw [htakes.pieces, hitems.rows]
        simp [htakes.walk, hitems.walk, hrest, Build.rows, Build.operands]

/-- **A walk runs a statement.** -/
theorem statement_eq (hw : w.TellsCommas) {g : List Nest}
    (hinside : RunsInside w inside (tokensOfAll g).length) (hg : ∀ n ∈ g, n.InStatement)
    (hne : g ≠ []) :
    w.statement inside (tokensOfAll g) =
      Build.statement w.engine w.env w.scope (Script.statement (atoms w.source g)) := by
  cases htokens : tokensOfAll g with
  | nil => exact absurd (Nest.eq_nil_of_tokensOfAll htokens) hne
  | cons t rest =>
    rw [statement]
    split
    · rename_i ht
      obtain ⟨g, rfl, rfl⟩ := Nest.exists_eq_token_cons hg htokens (by rw [ht]; rfl)
      obtain ⟨-, hrest⟩ := List.forall_mem_cons.mp hg
      have hle : (tokensOfAll g).length ≤ (tokensOfAll (.token t :: g)).length := by
        simp [tokensOfAll]
      rw [operands_eq hw (hinside.mono hle) hrest (Nat.le_refl _), atoms, Script.atom,
        Script.statement, if_pos ht, Build.statement]
    · rename_i ht
      have hplain : Script.statement (atoms w.source g) =
          .mk none (Script.rows (pieces (atoms w.source g))) := by
        cases g with
        | nil => cases htokens
        | cons n g =>
          cases n with
          | bracket => simp only [atoms, Script.atom, Script.statement]
          | token u =>
            obtain rfl : u = t := (List.cons.inj htokens).1
            simp only [atoms, Script.atom, Script.statement, if_neg ht]
      rw [← htokens, operands_eq hw hinside hg (Nat.le_refl _), hplain, Build.statement]

theorem statements_eq {groups : List (List Nest)}
    (h : ∀ g ∈ groups, w.statement inside (tokensOfAll g) =
      Build.statement w.engine w.env w.scope (Script.statement (atoms w.source g))) :
    w.statements inside (groups.map tokensOfAll) =
      Build.statements w.engine w.env w.scope
        (groups.map fun g => Script.statement (atoms w.source g)) := by
  induction groups with
  | nil => rfl
  | cons g groups ih =>
    obtain ⟨hg, hgroups⟩ := List.forall_mem_cons.mp h
    rw [List.map_cons, List.map_cons, statements, Build.statements, hg, ih hgroups]

/-- The statements of a row of nests. -/
theorem statements_atoms (source : List Char) (ns : List Nest) :
    Script.statements (atoms source ns) =
      (Nest.cut [] ns).map fun g => Script.statement (atoms source g) := by
  have hcut := Nest.cut_atoms source [] ns
  rw [atoms] at hcut
  rw [Script.statements, hcut, List.map_map]
  rfl

/-- Every statement that a row is cut into is run as its nests are. -/
theorem statement_eq_of_mem_cut (hw : w.TellsCommas) {ns g : List Nest}
    (hns : ∀ n ∈ ns, n.Walkable) {bound : Nat} (hinside : RunsInside w inside bound)
    (hbound : (tokensOfAll ns).length ≤ bound) (hg : g ∈ Nest.cut [] ns) :
    w.statement inside (tokensOfAll g) =
      Build.statement w.engine w.env w.scope (Script.statement (atoms w.source g)) := by
  have hsub : g.Sublist ns := by
    have hflat := List.sublist_flatten_of_mem hg
    rw [Nest.flatten_cut] at hflat
    exact hflat.trans List.filter_sublist
  have hlength := Nest.length_tokensOfAll_le hsub
  refine statement_eq hw (hinside.mono (by omega)) (fun n hn => ?_) (Nest.ne_nil_of_mem_cut hg)
  obtain ⟨hmem, hkept⟩ := Nest.kept_of_mem_cut hg hn
  exact ⟨hns n hmem, hkept⟩

/-- **A walk runs a row of nests.** As many levels of parentheses are enough as there are tokens. -/
theorem runsInside_run (hw : w.TellsCommas) (fuel : Nat) : w.RunsInside (w.run fuel) fuel := by
  induction fuel with
  | zero => exact fun ns _ hlt => absurd hlt (Nat.not_lt_zero _)
  | succ fuel ih =>
    intro ns hns hlt
    have hpaired (n : Nest) (hn : n ∈ ns) : n.Paired := by
      obtain ⟨pair, d, hmatched⟩ := (hns n hn).matched
      exact hmatched.paired
    rw [run, Script.splitStatements_tokensOfAll hpaired, statements_atoms]
    exact statements_eq fun g hg => statement_eq_of_mem_cut hw hns ih (Nat.le_of_lt_succ hlt) hg

end Walk

/-! ## What the three ways to pair brackets agree on -/

/-- What is known of the brackets of a text with these tokens. They are paired while the text is
read; one count cuts rows of tokens into statements, and another one looks for closing brackets. -/
structure BracketsAgree (source : String) (ts : List Token) : Prop where
  /-- Braces close braces and parentheses close parentheses, as they were paired, and the depth of a
  token is the number of brace groups around it. -/
  nested : ∃ top, tokensOfAll top = ts ∧ ∀ n ∈ top, n.Matched (Lexer.Pairs ts) 0
  /-- Every row that is taken apart is nested like that, and the statements it is cut into are rows
  of its nests: none is empty, and together they hold all nests but the separators. -/
  cut : ∀ row, Script.Interpreted ts row → ∃ (d : Int) (ns : List Nest) (groups : List (List Nest)),
    tokensOfAll ns = row ∧ (∀ n ∈ ns, n.Matched (Lexer.Pairs ts) d) ∧
      splitStatements row = groups.map tokensOfAll ∧ (∀ g ∈ groups, g ≠ []) ∧
        groups.flatten = ns.filter fun n => !n.separates
  /-- Counting the brackets of one kind finds, for every opening bracket in a statement, the only
  bracket that it is paired with. -/
  closed : ∀ row, Script.Interpreted ts row → ∀ statement ∈ splitStatements row, ∀ i opener,
    statement[i]? = some opener → opener.kind.isOpener = true →
      ∃ j closer, matching? statement i = some j ∧ statement[j]? = some closer ∧
        Lexer.Pairs ts opener closer ∧ ∀ c, Lexer.Pairs ts opener c → c = closer
  /-- A walk over the tokens does statement by statement what the nested statements do, whatever is
  raised at a bracket that is not closed and at a token, other than a comma, that begins no
  operand. -/
  run : ∀ w : Walk, w.source = source.toList → w.TellsCommas →
    List.Forall₂ (fun tokens s => w.statement (w.run ts.length) tokens =
      Build.statement w.engine w.env w.scope s)
        (splitStatements (Token.significant ts)) (Script.ofTokens source ts)

/-- A walk over the tokens of a text runs its statements one by one. -/
theorem Walk.forall_statement_eq {source : String} {ts : List Token} (h : tokenize source = .ok ts)
    (w : Walk) (hsource : w.source = source.toList) (hw : w.TellsCommas) :
    List.Forall₂ (fun tokens s => w.statement (w.run ts.length) tokens =
      Build.statement w.engine w.env w.scope s)
        (splitStatements (Token.significant ts)) (Script.ofTokens source ts) := by
  obtain ⟨top, hread, htokens, hmatched⟩ :=
    Nest.exists_read_matched h TokenKind.not_bracket_of_not_significant
  have hwalk (n : Nest) (hn : n ∈ top) : n.Walkable := by
    refine ⟨⟨_, _, hmatched n hn⟩, fun t ht => ?_⟩
    have hmem : t ∈ tokensOfAll top := by
      obtain ⟨earlier, later, rfl⟩ := List.append_of_mem hn
      simp [Nest.tokensOfAll_append, tokensOfAll, ht]
    rw [htokens] at hmem
    exact (List.mem_filter.mp hmem).2
  have hlength : (tokensOfAll top).length ≤ ts.length := by
    rw [htokens]
    exact List.length_filter_le ..
  have hsplit : splitStatements (Token.significant ts) = (Nest.cut [] top).map tokensOfAll := by
    rw [Token.significant, ← htokens]
    exact Script.splitStatements_tokensOfAll fun n hn => (hmatched n hn).paired
  have hread : Nest.read (Token.significant ts) = some top := hread
  rw [hsplit, Script.ofTokens, hread]
  dsimp only
  rw [← hsource, Walk.statements_atoms, List.forall₂_map_left_iff, List.forall₂_map_right_iff,
    List.forall₂_same]
  exact fun g hg => Walk.statement_eq_of_mem_cut hw hwalk (Walk.runsInside_run hw _) hlength hg

/-- **The three ways to pair brackets agree on every text that is read.** The brackets are nested,
and the depth of a token tells how many brace groups are around it; no statement is cut inside of
brackets; counting finds the bracket that each was paired with, also in the statements between
parentheses, however deep; and what is raised where counting finds none, or where a token other than
a comma begins no operand, is never raised. -/
theorem bracketsAgree {source : String} {ts : List Token} (h : tokenize source = .ok ts) :
    BracketsAgree source ts where
  nested := by
    obtain ⟨top, -, htokens, hmatched⟩ :=
      @Nest.exists_read_matched source ts h (fun _ => true) (by simp)
    exact ⟨top, by simpa using htokens, hmatched⟩
  cut := by
    intro row hrow
    obtain ⟨d, ns, rfl, hns⟩ := hrow.exists_matched h
    refine ⟨d, ns, Nest.cut [] ns, rfl, hns, ?_, fun g hg => Nest.ne_nil_of_mem_cut hg,
      Nest.flatten_cut [] ns⟩
    exact Script.splitStatements_tokensOfAll fun n hn => (hns n hn).paired
  closed := by
    intro row hrow statement hstatement i opener hi hopener
    obtain ⟨d, ns, rfl, hns⟩ := hrow.exists_matched h
    rw [Script.splitStatements_tokensOfAll fun n hn => (hns n hn).paired] at hstatement
    obtain ⟨g, hg, rfl⟩ := List.mem_map.mp hstatement
    obtain ⟨j, closer, hj, hcloser, hpair, -⟩ :=
      Script.exists_matching (fun n hn => hns n (Nest.kept_of_mem_cut hg hn).1) hi hopener
    exact ⟨j, closer, hj, hcloser, hpair, fun c hc => Lexer.Pairs.unique h hpair hc⟩
  run := Walk.forall_statement_eq h

theorem bracketsAgree_group :
    tokenize "a (\x7bb\x7d)" = .ok [⟨.command, "a", ⟨1, 1⟩, 1, 0, 0⟩,
        ⟨.parenStart, "(", ⟨1, 3⟩, 1, 0, 2⟩, ⟨.groupStart, "\x7b", ⟨1, 4⟩, 1, 0, 3⟩,
        ⟨.command, "b", ⟨1, 5⟩, 1, 1, 4⟩, ⟨.groupEnd, "\x7d", ⟨1, 6⟩, 1, 0, 5⟩,
        ⟨.parenEnd, ")", ⟨1, 7⟩, 1, 0, 6⟩] ∧
      BracketsAgree "a (\x7bb\x7d)" [⟨.command, "a", ⟨1, 1⟩, 1, 0, 0⟩,
        ⟨.parenStart, "(", ⟨1, 3⟩, 1, 0, 2⟩, ⟨.groupStart, "\x7b", ⟨1, 4⟩, 1, 0, 3⟩,
        ⟨.command, "b", ⟨1, 5⟩, 1, 1, 4⟩, ⟨.groupEnd, "\x7d", ⟨1, 6⟩, 1, 0, 5⟩,
        ⟨.parenEnd, ")", ⟨1, 7⟩, 1, 0, 6⟩] :=
  ⟨rfl, bracketsAgree rfl⟩

end TagScript
