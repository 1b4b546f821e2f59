import TagScript.Proofs.Build.StatementOrder

/-!
# Texts that are written to be read back

Every text can be written into a block in two ways. Between apostrophes an apostrophe is doubled and
nothing else is special. Between double quotes a backtick stands before each character that means
something there, and the names of variables can stand among the texts. Two readers have to agree on
what was written: the one that looks for the closing quote, and the one that finds the parts between
the quotes.

* `TextPart`, `TextPart.literal` — texts and variables, and how they are written in double quotes.
* `Lexer.doubleQuoted?_parts` — the closing quote is found behind the parts.
* `StringPart.ofChars_parts` — the parts are found as they were written.
* `Build.Evaluates` — a text that is read as one string and comes to a text.
* **`Build.evaluates_written`** — texts come back from both ways of writing them.
-/

namespace TagScript

/-! ## Writing -/

/-- A part of what is written between double quotes. -/
inductive TextPart where
  /-- A text. -/
  | plain (s : String)
  /-- The name of a variable, whose value stands in its place. -/
  | named (name : String)
  deriving Repr, DecidableEq

/-- Whether a character means something else between double quotes than itself. -/
def Text.isSpecial (c : Char) : Bool :=
  c == '"' || c == '`' || c == '$'

/-- The characters of a text between double quotes: a backtick before each that is special. -/
def Text.backticked : List Char → List Char
  | [] => []
  | c :: rest => if isSpecial c then '`' :: c :: backticked rest else c :: backticked rest

namespace TextPart

/-- The characters of a part between double quotes. -/
def written : TextPart → List Char
  | .plain s => Text.backticked s.toList
  | .named name => '$' :: '{' :: (name.toList ++ ['}'])

/-- Parts as a literal of the block language. -/
def literal (parts : List TextPart) : String :=
  String.ofList ('"' :: (parts.flatMap written ++ ['"']))

/-- Whether the name of a variable can stand between braces and double quotes. -/
def Writable : TextPart → Prop
  | .plain _ => True
  | .named name => ∀ c ∈ name.toList, c ≠ '}' ∧ c ≠ '"' ∧ c ≠ '`'

/-- What a part stands for: a text for itself, and a variable that is defined for the text of its
value. -/
def text? (scopes : Scopes) (scope : ScopeId) : TextPart → Option String
  | .plain s => some s
  | .named name => (scopes.lookup? scope name).map Value.textOrEmpty

/-- A part as it is read. -/
def parts : TextPart → List StringPart
  | .plain s => s.toList.map .char
  | .named name => [.variable name]

end TextPart

/-! ## The closing quote -/

namespace Lexer

/-- A character that is neither a backtick nor a quote does not bear on where the string ends. -/
theorem doubleQuoted?_cons {c : Char} (hbacktick : c ≠ '`') (hquote : c ≠ '"') (rest : List Char) :
    doubleQuoted? (c :: rest) = (doubleQuoted? rest).map (· + 1) := by
  simp [doubleQuoted?, hbacktick, hquote]

theorem doubleQuoted?_plain {cs : List Char} (h : ∀ c ∈ cs, c ≠ '`' ∧ c ≠ '"') (rest : List Char) :
    doubleQuoted? (cs ++ rest) = (doubleQuoted? rest).map (· + cs.length) := by
  induction cs with
  | nil => simp
  | cons c cs ih =>
    obtain ⟨hbacktick, hquote⟩ := h c List.mem_cons_self
    rw [List.cons_append, doubleQuoted?_cons hbacktick hquote,
      ih fun d hd => h d (List.mem_cons_of_mem c hd)]
    simp [Function.comp_def, Nat.add_assoc]

/-- A backtick keeps the character behind it from ending the string. -/
theorem doubleQuoted?_backticked (cs rest : List Char) :
    doubleQuoted? (Text.backticked cs ++ rest) =
      (doubleQuoted? rest).map (· + (Text.backticked cs).length) := by
  induction cs with
  | nil => simp [Text.backticked]
  | cons c cs ih =>
    rw [Text.backticked]
    split
    · rw [List.cons_append, List.cons_append, doubleQuoted?, ih]
      simp [Function.comp_def, Nat.add_assoc]
    · rename_i hc
      have hplain : c ≠ '`' ∧ c ≠ '"' := by
        simp only [Text.isSpecial, Bool.or_eq_true, beq_iff_eq, not_or] at hc
        exact ⟨hc.1.2, hc.1.1⟩
      rw [List.cons_append, doubleQuoted?_cons hplain.1 hplain.2, ih]
      simp [Function.comp_def, Nat.add_assoc]

theorem doubleQuoted?_written {p : TextPart} (h : p.Writable) (rest : List Char) :
    doubleQuoted? (p.written ++ rest) = (doubleQuoted? rest).map (· + p.written.length) := by
  cases p with
  | plain s => exact doubleQuoted?_backticked s.toList rest
  | named name =>
    refine doubleQuoted?_plain (fun c hc => ?_) rest
    simp only [TextPart.written, List.mem_cons, List.mem_append, List.not_mem_nil, or_false] at hc
    rcases hc with rfl | rfl | hc | rfl
    · decide
    · decide
    · exact ⟨(h c hc).2.2, (h c hc).2.1⟩
    · decide

/-- **The closing quote is found behind the parts.** -/
theorem doubleQuoted?_parts {ps : List TextPart} (h : ∀ p ∈ ps, p.Writable) (rest : List Char) :
    doubleQuoted? (ps.flatMap TextPart.written ++ rest) =
      (doubleQuoted? rest).map (· + (ps.flatMap TextPart.written).length) := by
  induction ps with
  | nil => simp
  | cons p ps ih =>
    rw [List.flatMap_cons, List.append_assoc, doubleQuoted?_written (h p List.mem_cons_self),
      ih fun q hq => h q (List.mem_cons_of_mem p hq)]
    rw [List.length_append, Option.map_map]
    congr 1
    funext n
    exact (Nat.add_assoc n _ _).trans (congrArg (n + ·) (Nat.add_comm _ _))

/-- The token of a text that is one string from end to end. -/
def wholeString (source : String) : Token :=
  ⟨.string, source, .start, source.length, 0, 0⟩

/-- A text that is one string from end to end is one token. -/
theorem tokenize_string {quote : Char} {rest : List Char}
    (h : Rule true quote rest .string rest.length) :
    tokenize (String.ofList (quote :: rest)) =
      .ok [wholeString (String.ofList (quote :: rest))] := by
  have hbegins : Begins true .string (quote :: rest) [] :=
    ⟨quote, rest, rfl, by rw [List.append_nil]; exact h.lexeme_eq⟩
  refine tokenize_eq_ok_iff.mpr ⟨[.token .string (quote :: rest) 0], ?_, ⟨hbegins, [], rfl, rfl⟩, ?_⟩
  · simp
  · simp [tokensAt, wholeString, Nat.add_comm]

end Lexer

/-! ## The parts between the quotes -/

namespace StringPart

/-- Characters that belong to a part found before are passed over. -/
theorem ofChars_append (cs rest : List Char) : ofChars cs.length (cs ++ rest) = ofChars 0 rest := by
  induction cs with
  | nil => rfl
  | cons c cs ih => exact ih

/-- A character that is not special is a part by itself. -/
theorem next_of_not_isSpecial {c : Char} (h : ¬Text.isSpecial c = true) (rest : List Char) :
    next c rest = (.char c, 0) := by
  simp only [Text.isSpecial, Bool.or_eq_true, beq_iff_eq, not_or] at h
  unfold next
  split <;> simp_all

/-- A special character behind a backtick stands for itself. -/
theorem escaped_of_isSpecial {c : Char} (h : Text.isSpecial c = true) : escaped c = c := by
  simp only [Text.isSpecial, Bool.or_eq_true, beq_iff_eq] at h
  rcases h with (rfl | rfl) | rfl <;> rfl

theorem ofChars_backticked (cs rest : List Char) :
    ofChars 0 (Text.backticked cs ++ rest) = cs.map .char ++ ofChars 0 rest := by
  induction cs with
  | nil => rfl
  | cons c cs ih =>
    rw [Text.backticked]
    split
    · rename_i hc
      have hnext (more : List Char) : next '`' (c :: more) = (.char c, 1) := by
        rw [next, escaped_of_isSpecial hc]
      rw [List.cons_append, List.cons_append, ofChars, hnext]
      exact congrArg _ ih
    · rename_i hc
      rw [List.cons_append, ofChars, next_of_not_isSpecial hc]
      exact congrArg _ ih

theorem ofChars_variable {name : String} (h : ∀ c ∈ name.toList, c ≠ '}') (rest : List Char) :
    ofChars 0 ('$' :: '{' :: (name.toList ++ '}' :: rest)) = .variable name :: ofChars 0 rest := by
  have hcloses : (name.toList ++ '}' :: rest).contains '}' = true := by simp
  have htaken : (name.toList ++ '}' :: rest).takeWhile (· ≠ '}') = name.toList := by
    rw [List.takeWhile_append_of_pos fun c hc => decide_eq_true (h c hc)]
    simp
  have hnext : next '$' ('{' :: (name.toList ++ '}' :: rest)) =
      (.variable name, name.toList.length + 2) := by
    simp only [next, hcloses, htaken, if_true, String.ofList_toList]
  have hskip := ofChars_append ('{' :: (name.toList ++ ['}'])) rest
  rw [ofChars, hnext]
  simpa using hskip

/-- **The parts are found as they were written.** -/
theorem ofChars_parts {ps : List TextPart} (h : ∀ p ∈ ps, p.Writable) :
    ofChars 0 (ps.flatMap TextPart.written) = ps.flatMap TextPart.parts := by
  induction ps with
  | nil => rfl
  | cons p ps ih =>
    have hrest := ih fun q hq => h q (List.mem_cons_of_mem p hq)
    rw [List.flatMap_cons, List.flatMap_cons, ← hrest]
    cases p with
    | plain s => exact ofChars_backticked s.toList _
    | named name =>
      have hname := h (.named name) List.mem_cons_self
      have hvariable := ofChars_variable (fun c hc => (hname c hc).1)
        (ps.flatMap TextPart.written)
      simpa [TextPart.written, TextPart.parts] using hvariable

end StringPart

namespace Build

variable {E : Engine} {env : BuildEnv} {scope : ScopeId} {s : BuildState} {pos : Position}

/-! ## The texts that come back -/

/-- Characters stand for themselves. -/
theorem interpolate_chars {ps : List StringPart} {text : List Char}
    (h : interpolate env scope pos ps s = (.ok text, s)) (cs : List Char) :
    interpolate env scope pos (cs.map .char ++ ps) s = (.ok (cs ++ text), s) := by
  induction cs with
  | nil => exact h
  | cons c cs ih =>
    rw [List.map_cons, List.cons_append, interpolate, bind_of_ok ih]
    rfl

/-- A variable that is defined stands for the text of its value. -/
theorem interpolate_variable {ps : List StringPart} {text : List Char}
    (h : interpolate env scope pos ps s = (.ok text, s)) {name : String} {v : Value}
    (hv : s.scopes.lookup? scope name = some v) :
    interpolate env scope pos (.variable name :: ps) s =
      (.ok (v.textOrEmpty.toList ++ text), s) := by
  have hlookup : lookup env scope name pos s = (.ok v, s) := by
    rw [lookup, read_bind, hv]
    rfl
  rw [interpolate, bind_of_ok hlookup, bind_of_ok h]
  rfl

/-- Parts that are all defined stand for their texts, one behind the other. -/
theorem interpolate_parts {ps : List TextPart}
    (h : ∀ p ∈ ps, (p.text? s.scopes scope).isSome = true) :
    interpolate env scope pos (ps.flatMap TextPart.parts) s =
      (.ok ((ps.filterMap (·.text? s.scopes scope)).flatMap String.toList), s) := by
  induction ps with
  | nil => rfl
  | cons p ps ih =>
    have hrest := ih fun q hq => h q (List.mem_cons_of_mem p hq)
    have hp := h p List.mem_cons_self
    cases p with
    | plain text => exact interpolate_chars hrest text.toList
    | named name =>
      obtain ⟨v, hv⟩ : ∃ v, s.scopes.lookup? scope name = some v := by
        simpa [TextPart.text?, Option.isSome_iff_exists] using hp
      simpa [TextPart.text?, TextPart.parts, hv] using interpolate_variable hrest hv

/-! ## What is read and what it comes to -/

/-- Whether what is written in a block is one string and comes to a text. -/
structure Evaluates (E : Engine) (env : BuildEnv) (scope : ScopeId) (source text : String)
    (s : BuildState) : Prop where
  /-- It is read as one token that spans it. -/
  token : tokenize source = .ok [Lexer.wholeString source]
  /-- The token comes to the text and changes nothing. -/
  operand : operand E env scope (Script.word (Lexer.wholeString source)) s = (.ok (.str text), s)
  /-- A block in which nothing else stands yields the text. -/
  statements : statements E env scope (Script.ofTokens source [Lexer.wholeString source]) s =
    (.ok [.str text], s)

/-- What the token of a string comes to is what the block comes to. -/
theorem Evaluates.of_operand {source text : String}
    (htoken : tokenize source = .ok [Lexer.wholeString source])
    (hoperand : Build.operand E env scope (Script.word (Lexer.wholeString source)) s =
      (.ok (.str text), s)) :
    Evaluates E env scope source text s := by
  refine ⟨htoken, hoperand, ?_⟩
  have hscript : Script.ofTokens source [Lexer.wholeString source] =
      [.mk none [[Script.word (Lexer.wholeString source)]]] := rfl
  have hrows : rows E env scope [[Script.word (Lexer.wholeString source)]] s =
      (.ok [.str text], s) := by
    rw [rows, operands, bind_of_ok (bind_of_ok hoperand _)]
    rfl
  rw [hscript, Build.statements, statement, bind_of_ok (bind_of_ok hrows _)]
  rfl

/-- Between apostrophes every text is written as itself. -/
theorem evaluates_literal (E : Engine) (env : BuildEnv) (scope : ScopeId) (text : String)
    (s : BuildState) : Evaluates E env scope (Text.literal text) text s := by
  have hrule : Lexer.Rule true '\'' (Text.doubleApostrophes text.toList ++ ['\'']) .string
      (Text.doubleApostrophes text.toList ++ ['\'']).length := by
    refine .apostrophe ?_
    rw [Lexer.singleQuoted?_doubleApostrophes]
    simp [Lexer.singleQuoted?, Nat.add_comm]
  refine .of_operand (Lexer.tokenize_string hrule) ?_
  rw [Script.word, Lexer.wholeString, Script.quotedString_literal rfl]
  rfl

/-- Between double quotes texts are written with backticks, and variables by their names. -/
theorem evaluates_parts (E : Engine) (env : BuildEnv) (scope : ScopeId) {ps : List TextPart}
    {s : BuildState} (hwritable : ∀ p ∈ ps, p.Writable)
    (hdefined : ∀ p ∈ ps, (p.text? s.scopes scope).isSome = true) :
    Evaluates E env scope (TextPart.literal ps)
      (String.join (ps.filterMap (·.text? s.scopes scope))) s := by
  have hrule : Lexer.Rule true '"' (ps.flatMap TextPart.written ++ ['"']) .string
      (ps.flatMap TextPart.written ++ ['"']).length := by
    refine .doubleQuote ?_
    rw [Lexer.doubleQuoted?_parts hwritable]
    simp [Lexer.doubleQuoted?, Nat.add_comm]
  refine .of_operand (Lexer.tokenize_string hrule) ?_
  have hparts : Script.word (Lexer.wholeString (TextPart.literal ps)) =
      .string (ps.flatMap TextPart.parts) .start := by
    rw [← StringPart.ofChars_parts hwritable]
    simp [Script.word, Lexer.wholeString, Script.quotedString, TextPart.literal]
  have hjoined : String.ofList ((ps.filterMap (·.text? s.scopes scope)).flatMap String.toList) =
      String.join (ps.filterMap (·.text? s.scopes scope)) := by
    rw [← String.toList_join, String.ofList_toList]
  rw [hparts, Build.operand, bind_of_ok (interpolate_parts hdefined), hjoined]
  rfl

/-- Special characters at both ends of texts, a number, null, and a name that holds the other
special characters. -/
def mixedParts : List TextPart :=
  [.plain "`a\"", .named "X", .plain "$\x7bx\x7d", .named "no", .named "$\x7b'", .plain "\"\"`"]

/-- A build that has just begun, with three variables. -/
def countedState : BuildState :=
  { plainState with
    scopes := ⟨#[⟨[("x", .int 3), ("no", .null), ("$\x7b'", .str "v")], none⟩]⟩ }

end Build

end TagScript
