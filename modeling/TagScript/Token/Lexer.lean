import TagScript.Text.Class
import TagScript.Token

/-!
# From text to tokens

`lexeme` says which token begins at a character and how many characters belong to it; `scan` walks
over the text character by character, so that positions and offsets are counted and never computed.
Brackets must be balanced: `scan` keeps the open ones with their places.
-/

namespace TagScript.Lexer

open Text (isNameChar isLetter isLetterOrNumber isDigit isDecimal)

/-! ## Lengths of tokens -/

/-- The characters that may follow a backtick on its line. -/
def isInlineSpace (c : Char) : Bool :=
  c == ' ' || c == '\t' || c == '\r'

/-- The characters that end a bare word. -/
def isDelimiter (c : Char) : Bool :=
  isInlineSpace c || c == '\n' || c == '{' || c == '}' || c == '(' || c == ')' || c == '[' ||
    c == ']' || c == ';' || c == ',' || c == '"' || c == '\'' || c == '$' || c == '#' || c == '`'

/-- How many characters follow the opening quote of a string in double quotes, the closing quote
included. A backtick keeps the next character from closing it, and so does a second quote. -/
def doubleQuoted? : List Char → Option Nat
  | [] => none
  | '`' :: _ :: rest => (doubleQuoted? rest).map (· + 2)
  | '"' :: '"' :: rest => (doubleQuoted? rest).map (· + 2)
  | '"' :: _ => some 1
  | _ :: rest => (doubleQuoted? rest).map (· + 1)

/-- How many characters follow the opening quote of a string in apostrophes. -/
def singleQuoted? : List Char → Option Nat
  | [] => none
  | '\'' :: '\'' :: rest => (singleQuoted? rest).map (· + 2)
  | '\'' :: _ => some 1
  | _ :: rest => (singleQuoted? rest).map (· + 1)

/-- How many characters continue a name and its members: name characters, and points before name
characters. -/
def memberTail : List Char → Nat
  | [] => 0
  | c :: rest =>
    if isNameChar c then memberTail rest + 1
    else if c = '.' ∧ (rest.head?.map isNameChar).getD false then memberTail rest + 1
    else 0

/-- How many characters of members follow a closing brace. -/
def members (cs : List Char) : Nat :=
  if cs.head? = some '.' then memberTail cs else 0

/-- How many characters of a variable follow the dollar sign. -/
def variableLength (rest : List Char) : Except SyntaxProblem Nat :=
  match rest with
  | '{' :: inner =>
    let name := inner.takeWhile (· ≠ '}')
    if !inner.contains '}' || name.contains '\n' then .error .unterminatedVariable
    else .ok (name.length + 2 + members (inner.drop (name.length + 1)))
  | c :: _ => if isNameChar c then .ok (memberTail rest) else .error .missingVariableName
  | [] => .error .missingVariableName

/-- Whether a text names a type: an ASCII letter, then name characters and points. A newline at the
very end is let through. -/
def isTypeName (name : List Char) : Bool :=
  match name with
  | [] => false
  | c :: rest =>
    let body := if rest.getLast? = some '\n' then rest.dropLast else rest
    c.isAlpha && body.all fun d => isNameChar d || d == '.'

/-- How many characters of a cast follow the opening bracket. -/
def castLength (rest : List Char) : Except SyntaxProblem Nat :=
  if rest.contains ']' then
    let name := rest.takeWhile (· ≠ ']')
    if isTypeName name then .ok (name.length + 1)
    else .error (.invalidTypeName (String.ofList name))
  else .error .unterminatedCast

/-- How many characters of a parameter follow the hyphen. -/
def parameterLength (rest : List Char) : Except SyntaxProblem Nat :=
  match rest with
  | c :: _ =>
    if isLetter c || c == '_' then
      .ok (rest.takeWhile fun d => isNameChar d || d == '-' || d == '.' || d == ':').length
    else .error .missingParameterName
  | [] => .error .missingParameterName

/-- How many characters of a line join follow the backtick: blanks and the end of the line. -/
def continuationLength (rest : List Char) : Except SyntaxProblem Nat :=
  let blanks := (rest.takeWhile isInlineSpace).length
  match rest.drop blanks with
  | [] => .ok blanks
  | c :: _ => if c = '\n' then .ok (blanks + 1) else .error .strayBacktick

/-! ## Numbers among the words -/

/-- Nothing, or `e` with a sign and at least one digit. -/
def isExponent : List Char → Bool
  | [] => true
  | c :: rest =>
    let digits := match rest with
      | '+' :: more | '-' :: more => more
      | _ => rest
    (c == 'e' || c == 'E') && !digits.isEmpty && digits.all isDecimal

/-- Whether a word is a number: digits, perhaps with a sign before, a fraction and an exponent. -/
def isNumber (word : List Char) : Bool :=
  let body := match word with
    | '-' :: rest => rest
    | _ => word
  let rest := body.dropWhile isDecimal
  let fraction := match rest with
    | '.' :: more => more.takeWhile isDecimal
    | _ => []
  !(body.takeWhile isDecimal).isEmpty &&
    (isExponent rest || (!fraction.isEmpty && isExponent (rest.drop (fraction.length + 1))))

/-- The kind of a bare word. -/
def wordKind (commandNext : Bool) (word : List Char) : TokenKind :=
  if isNumber word then .number else if commandNext then .command else .argument

/-! ## One token -/

/-- What begins at a character. -/
inductive Lexeme where
  /-- A blank between tokens. -/
  | blank
  /-- A token, and how many characters of it follow the first. -/
  | token (kind : TokenKind) (more : Nat)
  deriving Repr, DecidableEq

/-- Whether a hyphen begins a number. -/
def beginsNumber : List Char → Bool
  | '.' :: d :: _ => isDigit d
  | d :: _ => isDigit d
  | [] => false

/-- A bare word that begins with `c`. -/
def word (commandNext : Bool) (c : Char) (rest : List Char) : Lexeme :=
  let more := rest.takeWhile fun d => !isDelimiter d
  .token (wordKind commandNext (c :: more)) more.length

/-- The token that begins with `c` when `rest` follows. -/
def lexeme (commandNext : Bool) (c : Char) (rest : List Char) : Except SyntaxProblem Lexeme :=
  if isInlineSpace c then .ok .blank
  else if c = '\n' then .ok (.token .newline 0)
  else if c = '#' then .ok (.token .comment (rest.takeWhile (· ≠ '\n')).length)
  else if c = ';' then .ok (.token .separator 0)
  else if c = ',' then .ok (.token .comma 0)
  else if c = '{' then .ok (.token .groupStart 0)
  else if c = '}' then .ok (.token .groupEnd 0)
  else if c = '(' then .ok (.token .parenStart 0)
  else if c = ')' then .ok (.token .parenEnd 0)
  else if c = '`' then (continuationLength rest).map (.token .continuation)
  else if c = '"' then
    match doubleQuoted? rest with
    | some n => .ok (.token .string n)
    | none => .error .unterminatedString
  else if c = '\'' then
    match singleQuoted? rest with
    | some n => .ok (.token .string n)
    | none => .error .unterminatedString
  else if c = '$' then (variableLength rest).map (.token .variable)
  else if c = '[' then (castLength rest).map (.token .cast)
  else if c = '-' then
    if beginsNumber rest then .ok (word commandNext c rest)
    else (parameterLength rest).map (.token .parameter)
  else if isLetterOrNumber c || c == '_' || c == '.' then .ok (word commandNext c rest)
  else .error (.unexpectedCharacter c)

/-! ## The whole text -/

/-- The open brackets, innermost first, with their places. -/
abbrev Brackets := List (Char × Position)

/-- The number of braces among the open brackets. -/
def depth (opened : Brackets) : Nat :=
  opened.countP fun b => b.1 == '{'

/-- What a token of the given kind does to the open brackets, and the depth it has. A brace has the
depth outside of it. -/
def bracketStep (opened : Brackets) (kind : TokenKind) (pos : Position) :
    Except SyntaxProblem (Nat × Brackets) :=
  match kind, opened with
  | .groupStart, _ => .ok (depth opened, ('{', pos) :: opened)
  | .parenStart, _ => .ok (depth opened, ('(', pos) :: opened)
  | .groupEnd, ('{', _) :: outer => .ok (depth outer, outer)
  | .groupEnd, _ => .error (.unbalanced '}')
  | .parenEnd, ('(', _) :: outer => .ok (depth outer, outer)
  | .parenEnd, _ => .error (.unbalanced ')')
  | _, _ => .ok (depth opened, opened)

/-- Where a scan stands. -/
structure State where
  /-- The position of the next character. -/
  pos : Position
  /-- The number of characters before it. -/
  offset : Nat
  /-- How many of the next characters belong to a token that was read already. -/
  skip : Nat
  /-- The open brackets. -/
  opened : Brackets
  /-- Whether a bare word would begin a statement here. -/
  commandNext : Bool

/-- The state at the beginning of a text. -/
def State.start : State := ⟨.start, 0, 0, [], true⟩

/-- The state after a character. -/
def State.step (s : State) (c : Char) : State :=
  { s with pos := s.pos.advance c, offset := s.offset + 1, skip := s.skip - 1 }

/-- The tokens of the rest of a text. -/
def scan (s : State) : List Char → Except Fault (List Token)
  | [] =>
    match s.opened with
    | [] => .ok []
    | (opener, pos) :: _ => .error (.badSyntax (.unclosed opener) pos)
  | c :: rest =>
    if s.skip ≠ 0 then scan (s.step c) rest
    else
      match lexeme s.commandNext c rest with
      | .error problem => .error (.badSyntax problem s.pos)
      | .ok .blank => scan (s.step c) rest
      | .ok (.token kind more) =>
        match bracketStep s.opened kind s.pos with
        | .error problem => .error (.badSyntax problem s.pos)
        | .ok (depth, opened) =>
          let token : Token :=
            ⟨kind, String.ofList (c :: rest.take more), s.pos, more + 1, depth, s.offset⟩
          let next : State :=
            { s.step c with
              skip := more, opened, commandNext := kind.beginsStatement s.commandNext }
          (scan next rest).map (token :: ·)

end Lexer

/-- The tokens of a block text, or the first problem in it. -/
def tokenize (source : String) : Except Fault (List Token) :=
  Lexer.scan .start source.toList

end TagScript
