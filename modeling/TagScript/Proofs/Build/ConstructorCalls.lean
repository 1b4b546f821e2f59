import Mathlib.Data.List.Forall2
import TagScript.Build.Run
import TagScript.Proofs.Script.CommaRows
import TagScript.Proofs.Script.CompiledStatements

/-!
# Constructor calls

A statement of a text that begins with an element word invokes the constructor when it is compiled
and run. The name of the element stands before the operands that were written.

* `CallsConstructor` — the constructor is invoked with the name and the values of the operands, and
  what is wrong with the operands is wrong with the statement.
* `statement_call` — how a call is run whose operands do not begin with a comma.
* **`compiled_call_iff`** — a statement does as expected exactly if its operands do not begin with a
  comma, or it is a syntax error anyway.
-/

namespace TagScript

/-! ## Operands behind a literal -/

namespace Text

theorem undoubleApostrophes_cons {c : Char} (h : c ≠ '\'') (cs : List Char) :
    undoubleApostrophes (c :: cs) = c :: undoubleApostrophes cs := by
  cases cs with
  | nil => rfl
  | cons d cs => rw [undoubleApostrophes, if_neg fun hc => h hc.1]

/-- Doubling apostrophes is undone. -/
theorem undoubleApostrophes_doubleApostrophes (cs : List Char) :
    undoubleApostrophes (doubleApostrophes cs) = cs := by
  induction cs with
  | nil => rfl
  | cons c cs ih =>
    rw [doubleApostrophes]
    split
    · rename_i hc
      rw [undoubleApostrophes, if_pos ⟨rfl, rfl⟩, ih, hc]
    · rename_i hc
      rw [undoubleApostrophes_cons hc, ih]

end Text

namespace Script

/-- A literal is the text it was made of. -/
theorem quotedString_literal {t : Token} {s : String} (h : t.text = Text.literal s) :
    quotedString t = .constant (.str s) := by
  rw [quotedString, h, Lexer.literal_toList]
  simp only [List.dropLast_concat, Text.undoubleApostrophes_doubleApostrophes,
    String.ofList_toList]

end Script

namespace Build

/-! ## Running a call -/

/-- Whether a step fails because a text is malformed. -/
def IsSyntaxFault {α : Type} (body : Build α) (s : BuildState) : Prop :=
  ∃ problem pos s', body s = (.error (.badSyntax problem pos), s')

theorem not_isSyntaxFault {α : Type} {body : Build α} {s : BuildState}
    (h : (body s).1.isOk = true) : ¬ IsSyntaxFault body s := by
  rintro ⟨problem, pos, s', hfault⟩
  rw [hfault] at h
  cases h

variable (E : Engine) (env : BuildEnv) (scope : ScopeId)

/-- Invokes a command with arguments and spreads what it yields. -/
def spreadInvoke (name : String) (args : List Value) : Build (List Value) := do
  let v ← invoke E env ⟨name, args, scope⟩
  pure v.spread

/-- Whether a step is the invocation of a constructor with a name and the values that another step
yields. What is malformed for that step is malformed. -/
def CallsConstructor (name clark : String) (own whole : Build (List Value)) (s : BuildState) :
    Prop :=
  (∀ args s', own s = (.ok args, s') →
    whole s = spreadInvoke E env scope name (.str clark :: args) s') ∧
  (IsSyntaxFault own s → IsSyntaxFault whole s)

variable {E env scope}

/-- A value that stands first among the operands is the first argument. -/
theorem statement_constant (name : String) (v : Value) (more : List (List Operand)) :
    statement E env scope (.mk (some name) ([.constant v] :: more)) =
      (do
        let args ← rows E env scope more
        spreadInvoke E env scope name (v :: args)) := by
  simp [statement, rows, operands, operand, joined, spreadInvoke]

/-- The operands that stand behind a command and a literal. -/
theorem statement_literal {c l : Token} {name clark : String} (hc : c.face = ⟨.command, name, 0⟩)
    (hl : l.face = ⟨.string, Text.literal clark, 0⟩) (row : List Script.Atom) :
    Script.statement (.token c :: .token l :: row) =
      .mk (some name) (Script.rows (.operand (.constant (.str clark)) :: Script.pieces row)) := by
  have hword : Script.word l = .constant (.str clark) := by
    rw [Script.word, Token.kind_of_face hl]
    exact Script.quotedString_literal (congrArg Token.Face.text hl)
  have hname : c.text = name := congrArg Token.Face.text hc
  rw [Script.statement, if_pos (Token.kind_of_face hc), hname, Script.pieces, Token.kind_of_face hl,
    ← hword]

/-- **A call is run as the operands on their own, and then the constructor is invoked.** -/
theorem statement_call {c l : Token} {name clark : String} (hc : c.face = ⟨.command, name, 0⟩)
    (hl : l.face = ⟨.string, Text.literal clark, 0⟩) {row : List Script.Atom}
    (hrow : row.head?.any (Script.Atom.isKind .comma) = false) :
    statement E env scope (Script.statement (.token c :: .token l :: row)) =
      (do
        let args ← rows E env scope (Script.rows (Script.pieces row))
        spreadInvoke E env scope name (.str clark :: args)) := by
  rw [statement_literal hc hl, Script.rows_operand _ ((Script.head?_pieces row).trans hrow),
    statement_constant]

/-- Operands that begin with a comma are malformed. -/
theorem isSyntaxFault_of_comma {row : List Script.Atom}
    (hrow : row.head?.any (Script.Atom.isKind .comma) = true) (s : BuildState) :
    IsSyntaxFault (rows E env scope (Script.rows (Script.pieces row))) s := by
  obtain ⟨problem, pos, more, hrows⟩ :=
    Script.exists_rows_comma ((Script.head?_pieces row).trans hrow)
  rw [hrows]
  exact ⟨problem, pos, s, rfl⟩

/-- A call does as expected exactly if its operands do not begin with a comma, or it is malformed
itself. -/
theorem callsConstructor_iff {c l : Token} {name clark : String}
    (hc : c.face = ⟨.command, name, 0⟩) (hl : l.face = ⟨.string, Text.literal clark, 0⟩)
    (row : List Script.Atom) (s : BuildState) :
    CallsConstructor E env scope name clark
        (rows E env scope (Script.rows (Script.pieces row)))
        (statement E env scope (Script.statement (.token c :: .token l :: row))) s ↔
      row.head?.any (Script.Atom.isKind .comma) = false ∨
        IsSyntaxFault (statement E env scope (Script.statement (.token c :: .token l :: row)))
          s := by
  cases hrow : row.head?.any (Script.Atom.isKind .comma) with
  | false =>
    rw [statement_call hc hl hrow]
    refine iff_of_true ⟨fun args s' hown => ?_, fun hown => ?_⟩ (.inl rfl)
    · exact bind_of_ok hown _
    · obtain ⟨problem, pos, s', hown⟩ := hown
      exact ⟨problem, pos, s', bind_of_error hown _⟩
  | true =>
    have hfault := @isSyntaxFault_of_comma E env scope row hrow s
    constructor
    · exact fun h => .inr (h.2 hfault)
    · rintro (h | h)
      · cases h
      · obtain ⟨problem, pos, s', hown⟩ := hfault
        refine ⟨fun args s'' hargs => ?_, fun _ => h⟩
        rw [hown] at hargs
        cases hargs

end Build

/-! ## Statements of compiled text -/

/-- A row of compiled text begins with a comma when the row as written does. -/
theorem Nest.Respelled.head?_comma {source : List Char} {known : String → Bool}
    {registry : Registry} {name : String} {ns ms : List Nest}
    (h : Nest.Respelled source known registry name ns ms) :
    ms.head?.any (Nest.isKind .comma) = ns.head?.any (Nest.isKind .comma) := by
  cases h with
  | nil => rfl
  | keep _ hface _ => simp [Nest.isKind, Token.kind_eq_of_face hface]
  | bracket => rfl
  | call hword hc _ _ => simp [Nest.isKind, Token.kind_of_word hword, Token.kind_of_face hc]
  | joined hword _ _ hc _ _ =>
    simp [Nest.isKind, Token.kind_of_word hword, Token.kind_of_face hc]

theorem Nest.any_head?_atoms (source : List Char) (kind : TokenKind) (row : List Nest) :
    (Script.atoms source row).head?.any (Script.Atom.isKind kind) =
      row.head?.any (Nest.isKind kind) := by
  rw [atoms_eq_map, List.head?_map, Option.any_map]
  exact congrArg (row.head?.any ·) (funext (isKind_atom source kind))

namespace Build

variable (E : Engine) (env : BuildEnv) (scope : ScopeId) (source : String)

/-- What the operands of a row of nests come to on their own. -/
def ownArguments (row : List Nest) : Build (List Value) :=
  rows E env scope (Script.rows (Script.pieces (Script.atoms source.toList row)))

/-- What the statement of a row of nests yields. -/
def runRow (row : List Nest) : Build (List Value) :=
  statement E env scope (Script.statement (Script.atoms source.toList row))

end Build

/-- **A statement that begins with an element word does as expected exactly if its operands do not
begin with a comma, or it is malformed itself.** The statements of the compiled text come from those
of the text as written, one from one. -/
theorem compiled_call_iff {config : CompilerConfig} (hconfig : config.check = .ok ())
    {name : String} (hname : config.elementConstructor = .str name) (hword : IsCommandWord name)
    {host : CompilerHost} (htokenizes : host.tokenizes = true) {known : String → Bool}
    (hknows : host.knows = some known) {cache : Cache}
    (hcache : cache.Reached config.settings host) (registry : Registry) {source : String}
    {ts : List Token} (h : tokenize source = .ok ts) :
    ∃ t ns ms, (cache.compile config.settings host registry source).outcome = .ok t ∧
      Nest.read (Token.significant ts) = some ns ∧
      Nest.read (Token.significant t.tokens) = some ms ∧
      Script.ofTemplate t = (Nest.cut [] ms).map
        (fun row => Script.statement (Script.atoms t.compiled.toList row)) ∧
      List.Forall₂ (fun row row' => ∀ w rest, row = .token w :: rest →
        w ∈ Token.elementWords known true ts → source.toList[w.offset + w.length]? ≠ some '\'' →
          ∃ c l rest', row' = .token c :: .token l :: rest' ∧
            Nest.Respelled source.toList known registry name rest rest' ∧
            ∀ E env scope s,
              (Build.CallsConstructor E env scope name (registry.spelled w.text)
                  (Build.ownArguments E env scope t.compiled rest')
                  (Build.runRow E env scope t.compiled row') s ↔
                rest.head?.any (Nest.isKind .comma) = false ∨
                  Build.IsSyntaxFault (Build.runRow E env scope t.compiled row') s))
        (Nest.cut [] ns) (Nest.cut [] ms) := by
  obtain ⟨ns, hns⟩ := Nest.exists_read h
  obtain ⟨row, htext, hrow, rfl⟩ := Lexer.tokenize_eq_ok_iff.mp h
  obtain ⟨t, houtcome, hcompiled, htokens⟩ :=
    outcome_textOf hconfig hname hword htokenizes hknows hcache registry htext hrow
  have hrespelled := @Lexer.Readable.respelled known registry name _ _ _ hrow .start .start [] 0
  rw [List.nil_append, htext, List.length_nil, ← htokens] at hrespelled
  obtain ⟨ms, hms, hnests⟩ := Nest.read_respelled hrespelled.significant hns
  refine ⟨t, ns, ms, houtcome, hns, hms, ?_, (Nest.cut_respelled hnests).imp ?_⟩
  · have hcut := Nest.cut_atoms t.compiled.toList [] ms
    rw [Script.atoms] at hcut
    rw [Script.ofTemplate, Script.ofTokens, hms]
    simp only [Script.statements, hcut, List.map_map, Function.comp_def]
  · rintro _ row' hrow' w rest rfl hw hbehind
    have hkeep := (List.mem_filter.mp hw).2
    rw [Bool.not_true, Bool.false_or] at hkeep
    cases hrow' with
    | keep hother => exact absurd hkeep (ne_true_of_eq_false hother)
    | joined _ happos => exact absurd happos hbehind
    | @call _ c l _ rest' _ hc hl hrest =>
      refine ⟨c, l, rest', rfl, hrest, fun E env scope s => ?_⟩
      rw [← hrest.head?_comma, ← Nest.any_head?_atoms t.compiled.toList]
      exact Build.callsConstructor_iff hc hl _ s

theorem compiled_call_iff_operand :
    ∃ t c l rest, (Cache.empty.compile ({} : CompilerConfig).settings
        ⟨true, some fun _ => false, none⟩ .empty "a x").outcome = .ok t ∧
      Script.ofTemplate t = [Script.statement (Script.atoms t.compiled.toList
        (.token c :: .token l :: rest))] ∧
      ∀ E env scope s, Build.CallsConstructor E env scope "New-XElement"
        (Registry.empty.spelled "a") (Build.ownArguments E env scope t.compiled rest)
        (Build.runRow E env scope t.compiled (.token c :: .token l :: rest)) s := by
  have hread : tokenize "a x" =
      .ok [⟨.command, "a", ⟨1, 1⟩, 1, 0, 0⟩, ⟨.argument, "x", ⟨1, 3⟩, 1, 0, 2⟩] := rfl
  obtain ⟨t, ns, ms, houtcome, hns, -, hscript, hrows⟩ := @compiled_call_iff {} rfl _ rfl
    ⟨_, rfl, rfl, rfl⟩ ⟨true, some fun _ => false, none⟩ rfl _ rfl _ .empty .empty _ _ hread
  cases hns
  generalize Nest.cut [] ms = cut at hscript hrows
  cases hrows with
  | cons hrow hmore =>
    cases hmore
    obtain ⟨c, l, rest, rfl, -, hcalls⟩ := hrow _ _ rfl (by decide) (by decide)
    exact ⟨t, c, l, rest, houtcome, hscript,
      fun E env scope s => (hcalls E env scope s).mpr (.inl rfl)⟩

/-- Operands that begin with a comma are malformed, and the constructor is invoked with a list. -/
theorem compiled_call_takes_comma :
    ∃ t c l rest, (Cache.empty.compile ({} : CompilerConfig).settings
        ⟨true, some fun _ => false, none⟩ .empty "a , x").outcome = .ok t ∧
      Script.ofTemplate t = [Script.statement (Script.atoms t.compiled.toList
        (.token c :: .token l :: rest))] ∧
      ∃ E env scope s, Build.IsSyntaxFault (Build.ownArguments E env scope t.compiled rest) s ∧
        ¬ Build.IsSyntaxFault
          (Build.runRow E env scope t.compiled (.token c :: .token l :: rest)) s := by
  let row : List Lexer.Stretch := [.token .command ['a'] 0, .blank ' ', .token .comma [','] 0,
    .blank ' ', .token .argument ['x'] 0]
  have hrow : Lexer.Readable true [] row :=
    ⟨⟨'a', [], rfl, rfl⟩, [], rfl, rfl, ⟨',', [], rfl, rfl⟩, [], rfl, rfl, ⟨'x', [], rfl, rfl⟩, [],
      rfl, rfl⟩
  obtain ⟨t, houtcome, -, htokens⟩ := @outcome_textOf {} rfl _ rfl ⟨_, rfl, rfl, rfl⟩
    ⟨true, some fun _ => false, none⟩ rfl _ rfl _ .empty .empty "a , x" row rfl hrow
  let env : BuildEnv := ⟨({} : Config).settings, 0, none⟩
  let s : BuildState :=
    { registry := .empty, scopes := .empty, streams := .empty, words := none, cache := .empty
      commands := .withBuiltins true ⟨fun _ => "", fun _ _ _ => ""⟩, log := .empty .critical }
  refine ⟨t, ⟨.command, "New-XElement", ⟨1, 1⟩, 12, 0, 0⟩, ⟨.string, "'a'", ⟨1, 14⟩, 3, 0, 13⟩,
    [.token ⟨.comma, ",", ⟨1, 18⟩, 1, 0, 17⟩, .token ⟨.argument, "x", ⟨1, 20⟩, 1, 0, 19⟩],
    houtcome, ?_, engine env 0, env, 0, s, ?_, ?_⟩
  · rw [Script.ofTemplate, htokens]
    rfl
  · exact Build.isSyntaxFault_of_comma rfl s
  · exact Build.not_isSyntaxFault rfl

end TagScript
