import TagScript.Json.Shown
import TagScript.Value

/-!
# Values as text

A value is shown in two ways: `Value.plain` is what it contributes to a text, and `Value.shown` is
how it stands inside lists and in messages, where a text is quoted and a name shows its fields.
-/

namespace TagScript

/-- A script block, as messages show it: the beginning of its text on one line. -/
def ScriptBlock.describe (b : ScriptBlock) : String :=
  let line := (Text.trim b.source.toList).map fun c => if c = '\n' then ' ' else c
  let preview := if 40 < line.length then line.take 37 ++ ['.', '.', '.'] else line
  "ScriptBlock(" ++ Text.quoted (String.ofList preview) ++ ", line=" ++ toString b.line ++ ")"

/-- A template, as messages show it. -/
def Template.describe (t : Template) : String :=
  "CompiledBlock(source=" ++ Text.quoted t.source ++ ", compiled_source=" ++ Text.quoted t.compiled
    ++ ")"

/-- A kind of tokens, as messages show it: its name and its place among the kinds. -/
def TokenKind.describe (k : TokenKind) : String :=
  "<TokenKind." ++ k.label ++ ": " ++ toString (TokenKind.all.idxOf k + 1) ++ ">"

/-- The fields of a token, as messages show it. -/
def Token.describe (t : Token) : String :=
  "Token(kind=" ++ t.kind.describe ++ ", text=" ++ Text.quoted t.text ++ ", line="
    ++ toString t.pos.line ++ ", column=" ++ toString t.pos.column ++ ", length="
    ++ toString t.length ++ ", depth=" ++ toString t.depth ++ ", offset=" ++ toString t.offset
    ++ ")"

/-- The fields of a document, as messages show it. The reports and counts of a build are no part of
a document that is a value. -/
def Document.describe (d : Document) : String :=
  "Document(root=" ++ d.root.describe ++ ", version=" ++ Text.quoted d.version.text ++ ", encoding="
    ++ d.encoding.shown ++ ", standalone=" ++ Text.quoted (standaloneText d.standalone)
    ++ ", diagnostics=[], metrics=None, correlation_id="
    ++ (Json.ofOption d.correlationId).shown ++ ")"

namespace Value

/-- A value of a configuration as a value. -/
def ofJson : Json → Value
  | .null => .null
  | .bool b => .bool b
  | .int i => .int i
  | .float x => .float x
  | .str s => .str s
  | .arr vs => .list (ofJsonAll vs)
  | .obj fields => .map (ofFields fields)
where
  /-- The items of a list. -/
  ofJsonAll : List Json → List Value
    | [] => []
    | v :: vs => ofJson v :: ofJsonAll vs
  /-- The fields of an object. -/
  ofFields : List (String × Json) → List (Value × Value)
    | [] => []
    | (k, v) :: rest => (.str k, ofJson v) :: ofFields rest

mutual

/-- A value inside a list or a message. -/
def shown : Value → String
  | .null => "None"
  | .bool b => boolText b
  | .int i => toString i
  | .float x => Number.floatText x
  | .str s => Text.quoted s
  | .list vs => "[" ++ ", ".intercalate (shownAll vs) ++ "]"
  | .tuple vs => Node.describeRow (shownAll vs)
  | .map entries => bracedRow (shownEntries entries)
  | .object _ => "<object>"
  | .name q => q.describe
  | .ns n => n.describe
  | .text s => (Node.text s).describe
  | .element e => e.describe
  | .attribute a => a.describe
  | .document d => d.describe
  | .block b => b.describe
  | .template t => t.describe
  | .routine .. => "<python block>"
  | .stream _ => "<ArgumentStream>"
  | .xml t _ => t.markup
  | .xmlAttributes entries =>
    bracedRow (entries.map fun e => Text.quoted e.1 ++ ": " ++ Text.quoted e.2)
  | .scope _ => "<Scope>"
  | .token t => t.describe
  | .tokenKind k => k.describe
  | .operation _ => "<operation>"
  | .generator _ => "<generator>"
  | .reader => "<reader>"
  | .unknown label => "<opaque " ++ label ++ ">"

/-- The values of a row, each as inside a list. -/
def shownAll : List Value → List String
  | [] => []
  | v :: vs => shown v :: shownAll vs

/-- The entries of a map, each as key and value. -/
def shownEntries : List (Value × Value) → List String
  | [] => []
  | (k, v) :: rest => (shown k ++ ": " ++ shown v) :: shownEntries rest

end

/-- What a value contributes to a text. -/
def plain : Value → String
  | .str s => s
  | .name q => q.clark
  | .ns n => n.uri
  | .block b => b.source
  | .tokenKind k => "TokenKind." ++ k.label
  | v => shown v

end Value

end TagScript
