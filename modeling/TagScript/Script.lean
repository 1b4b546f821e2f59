import TagScript.Number.Reader
import TagScript.Script.Literal
import TagScript.Script.Nest
import TagScript.Template
import TagScript.Value

/-!
# Scripts

A script is a row of statements, and a statement is a row of operands with perhaps a command before
them. Operands joined by commas stand together. What is wrong with an operand is found out only when
the operands before it are evaluated, so a faulty operand is an operand too.
-/

namespace TagScript

mutual

/-- An operand. -/
inductive Operand where
  /-- A value that is known beforehand. -/
  | constant (v : Value)
  /-- A string in double quotes. -/
  | string (parts : List StringPart) (pos : Position)
  /-- A variable and the members behind it. -/
  | variable (name : String) (members : List String) (pos : Position)
  /-- A brace group: its text and its line. -/
  | group (source : String) (line : Nat)
  /-- Statements between parentheses. -/
  | paren (body : List Statement)
  /-- A cast of an operand. -/
  | cast (type : Token) (operand : Operand)
  /-- A faulty operand. -/
  | faulty (fault : Fault)

/-- A statement. -/
inductive Statement where
  /-- A command or none, and operands; those of one row are joined by commas. -/
  | mk (command : Option String) (rows : List (List Operand))

end

namespace Script

/-! ## Operands that are one token -/

/-- The value of a number. -/
def number (text : String) : Operand :=
  let digits := match text.toList with
    | '-' :: rest => rest
    | cs => cs
  if digits.all Text.isDecimal then
    match Number.readInt text with
    | .ok i => .constant (.int i)
    | .error (.tooLong n) => .faulty (.invalid (.tooManyDigits n))
    | .error .malformed => .faulty (.invalid (.notWhole text))
  else
    match Number.readFloat? text with
    | some x => .constant (.float x)
    | none => .faulty (.invalid (.notDecimal text))

/-- A string, in apostrophes or in double quotes. -/
def quotedString (t : Token) : Operand :=
  match t.text.toList with
  | '\'' :: rest => .constant (.str (String.ofList (Text.undoubleApostrophes rest.dropLast)))
  | cs => .string (StringPart.ofChars 0 (cs.drop 1).dropLast) t.pos

/-- Splits a text at its points. -/
def splitPoints : List Char → List (List Char)
  | [] => [[]]
  | c :: rest =>
    match splitPoints rest with
    | [] => [[c]]
    | part :: parts => if c = '.' then [] :: part :: parts else (c :: part) :: parts

/-- A variable, with its name in braces or not. -/
def variableWithMembers (t : Token) : Operand :=
  match t.text.toList.drop 1 with
  | '{' :: rest =>
    let members := (splitPoints ((rest.dropWhile (· ≠ '}')).drop 1)).drop 1
    .variable (String.ofList (rest.takeWhile (· ≠ '}'))) (members.map String.ofList) t.pos
  | cs =>
    let parts := splitPoints cs
    .variable (String.ofList (parts.headD [])) ((parts.drop 1).map String.ofList) t.pos

/-- A token that stands alone as an operand. -/
def word (t : Token) : Operand :=
  match t.kind with
  | .string => quotedString t
  | .number => number t.text
  | .variable => variableWithMembers t
  | .argument | .parameter | .command => .constant (.str t.text)
  | _ => .faulty (.badSyntax (.unexpectedToken t.text) t.pos)

/-! ## Statements -/

/-- What statements are made of: tokens that are no brackets, and operands in brackets. -/
inductive Atom where
  /-- A token. -/
  | token (t : Token)
  /-- An operand in brackets. -/
  | bracketed (o : Operand)

/-- Whether an atom is a token of a kind. -/
def Atom.isKind (kind : TokenKind) : Atom → Bool
  | .token t => t.kind == kind
  | .bracketed _ => false

/-- Cuts a row at its newlines and semicolons; a newline after a comma does not cut. `current` is
the statement before the cut, backwards. -/
def cut (current : List Atom) : List Atom → List (List Atom)
  | [] => if current.isEmpty then [] else [current.reverse]
  | a :: rest =>
    if a.isKind .newline && (current.head?.map (Atom.isKind .comma)).getD false then
      cut current rest
    else if a.isKind .newline || a.isKind .separator then
      if current.isEmpty then cut [] rest else current.reverse :: cut [] rest
    else cut (a :: current) rest

/-- An operand with the casts before it, or a comma between operands. -/
inductive Piece where
  /-- An operand. -/
  | operand (o : Operand)
  /-- A comma. -/
  | comma (t : Token)

/-- Puts a cast before the operand that follows it. -/
def castNext (t : Token) : List Piece → List Piece
  | .operand o :: rest => .operand (.cast t o) :: rest
  | rest => .operand (.faulty (.badSyntax (.missingOperand t.text) t.pos)) :: rest

/-- The operands and commas of a statement. -/
def pieces : List Atom → List Piece
  | [] => []
  | .bracketed o :: rest => .operand o :: pieces rest
  | .token t :: rest =>
    match t.kind with
    | .comma => .comma t :: pieces rest
    | .cast => castNext t (pieces rest)
    | _ => .operand (word t) :: pieces rest

/-- The operands of a statement, those joined by commas together. A comma needs an operand on both
sides. -/
def rows : List Piece → List (List Operand)
  | [] => []
  | .comma t :: rest => [.faulty (.badSyntax (.unexpectedToken t.text) t.pos)] :: rows rest
  | .operand o :: .comma t :: rest =>
    match rows rest with
    | [] => [[o, .faulty (.badSyntax (.missingOperand (Text.quoted t.text)) t.pos)]]
    | row :: more => (o :: row) :: more
  | .operand o :: rest => [o] :: rows rest

/-- The statement that a row of atoms is: a command word in front is its command. -/
def statement : List Atom → Statement
  | .token t :: rest =>
    if t.kind = .command then .mk (some t.text) (rows (pieces rest))
    else .mk none (rows (pieces (.token t :: rest)))
  | row => .mk none (rows (pieces row))

/-- The statements that a row of atoms is. -/
def statements (row : List Atom) : List Statement :=
  (cut [] row).map statement

/-- The text between two brackets. -/
def between (source : List Char) (opener closer : Token) : String :=
  String.ofList ((source.drop (opener.offset + 1)).take (closer.offset - (opener.offset + 1)))

mutual

/-- A nest as an atom of the statement it stands in. The text of a brace group stays as it is. -/
def atom (source : List Char) : Nest → Atom
  | .token t => .token t
  | .bracket opener inner closer =>
    .bracketed
      (if opener.kind = .groupStart then .group (between source opener closer) opener.pos.line
      else .paren (statements (atoms source inner)))

/-- A row of nests as atoms. -/
def atoms (source : List Char) : List Nest → List Atom
  | [] => []
  | n :: ns => atom source n :: atoms source ns

end

/-- The statements of a text with these tokens. -/
def ofTokens (source : String) (ts : List Token) : List Statement :=
  match Nest.read (Token.significant ts) with
  | some nests => statements (atoms source.toList nests)
  | none => []

/-- The statements of a template. -/
def ofTemplate (t : Template) : List Statement :=
  ofTokens t.compiled t.tokens

end Script

end TagScript
