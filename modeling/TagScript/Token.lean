import TagScript.Fault

/-!
# Tokens of block text

A block text is a row of tokens with blanks between them. A token knows where it stands: its
position, its offset, how many characters it takes, and how many brace groups surround it.
-/

namespace TagScript

/-- The kinds of tokens. -/
inductive TokenKind where
  /-- A bare word where a statement begins. -/
  | command
  /-- A bare word elsewhere. -/
  | argument
  /-- A word after a hyphen. -/
  | parameter
  /-- A text in quotes. -/
  | string
  /-- A whole number or a decimal. -/
  | number
  /-- A variable, perhaps with members. -/
  | variable
  /-- A type name in brackets. -/
  | cast
  /-- An opening brace. -/
  | groupStart
  /-- A closing brace. -/
  | groupEnd
  /-- An opening parenthesis. -/
  | parenStart
  /-- A closing parenthesis. -/
  | parenEnd
  /-- A comma, which joins operands to a list. -/
  | comma
  /-- The end of a line, which separates statements. -/
  | newline
  /-- A semicolon, which separates statements. -/
  | separator
  /-- A remark up to the end of its line. -/
  | comment
  /-- A backtick that joins two lines. -/
  | continuation
  deriving Repr, DecidableEq, Inhabited

namespace TokenKind

/-- All kinds. -/
def all : List TokenKind := [.command, .argument, .parameter, .string, .number, .variable, .cast,
  .groupStart, .groupEnd, .parenStart, .parenEnd, .comma, .newline, .separator, .comment,
  .continuation]

/-- The name of a kind. -/
def label : TokenKind → String
  | .command => "COMMAND"
  | .argument => "ARGUMENT"
  | .parameter => "PARAMETER"
  | .string => "STRING"
  | .number => "NUMBER"
  | .variable => "VARIABLE"
  | .cast => "TYPE"
  | .groupStart => "GROUP_START"
  | .groupEnd => "GROUP_END"
  | .parenStart => "SUBEXPR_START"
  | .parenEnd => "SUBEXPR_END"
  | .comma => "COMMA"
  | .newline => "NEWLINE"
  | .separator => "SEPARATOR"
  | .comment => "COMMENT"
  | .continuation => "CONTINUATION"

/-- The kind with this name. -/
def ofLabel? (name : String) : Option TokenKind :=
  all.find? fun k => k.label == name

/-- The kind with this name, which must exist. -/
def read (name : String) : Except Fault TokenKind :=
  (ofLabel? name).elim (.error (.missingKey name)) .ok

/-- Whether tokens of the kind carry meaning. -/
def isSignificant : TokenKind → Bool
  | .comment | .continuation => false
  | _ => true

/-- Whether a bare word after a token of the kind begins a statement; tokens without meaning leave
the question as it was. -/
def beginsStatement (before : Bool) : TokenKind → Bool
  | .comment | .continuation => before
  | .newline | .separator | .groupStart | .parenStart => true
  | _ => false

end TokenKind

/-- A token and its place. -/
structure Token where
  /-- What it is. -/
  kind : TokenKind
  /-- The characters it consists of. -/
  text : String
  /-- Where it begins. -/
  pos : Position
  /-- How many characters it takes on its line. -/
  length : Nat
  /-- The number of brace groups around it. -/
  depth : Int
  /-- The number of characters before it. -/
  offset : Nat
  deriving Repr, DecidableEq, Inhabited

namespace Token

/-- The token with these measures, which must not be below their least values. -/
def of (kind : TokenKind) (text : String) (line column length depth : Int) :
    Except Fault Token :=
  if line < 1 then .error (.invalid .tokenLine)
  else if column < 1 then .error (.invalid .tokenColumn)
  else if length < 0 then .error (.invalid .tokenLength)
  else .ok ⟨kind, text, ⟨line.toNat, column.toNat⟩, length.toNat, depth, 0⟩

/-- The column after a token that does not span lines. -/
def endColumn (t : Token) : Nat :=
  t.pos.column + t.length

/-- The tokens that carry meaning. -/
def significant (ts : List Token) : List Token :=
  ts.filter fun t => t.kind.isSignificant

end Token

end TagScript
