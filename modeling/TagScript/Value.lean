import TagScript.Document
import TagScript.Template
import TagScript.Xml.Tree

/-!
# Values

What statements yield, variables hold and elements are built from. Beside plain data there are the
parts of trees and content that is produced when it is needed: script blocks, templates, routines,
streams, and operations that values offer.
-/

namespace TagScript

/-- The number of a scope in the store of scopes. -/
abbrev ScopeId := Nat

/-- The number of a stream in the store of streams. -/
abbrev StreamId := Nat

/-- Block text that is not made ready yet, with the scope it was written in. -/
structure ScriptBlock where
  /-- The text between the braces. -/
  source : String
  /-- The scope it was written in, if it has one. -/
  scope : Option ScopeId
  /-- The line of its opening brace. -/
  line : Int
  deriving Repr, DecidableEq, Inhabited

/-- How a routine hands over what its steps yield. -/
inductive RoutineMode where
  /-- As a list, when all steps are done. -/
  | list
  /-- One by one, as they are asked for. -/
  | onDemand
  /-- Only the first value; the steps after it are not done. -/
  | single
  deriving Repr, DecidableEq, Inhabited

/-- An operation that a value offers under a name. Scripts cannot hand arguments to it: it is run as
content, and then given the surroundings of the content, which most operations do not accept. -/
structure Operation where
  /-- Whether it is an operation of plain data. -/
  isOfData : Bool
  /-- What it yields when it is run. -/
  outcome : Except Fault Json

mutual

/-- A value. -/
inductive Value where
  /-- Nothing. -/
  | null
  /-- A truth value. -/
  | bool (b : Bool)
  /-- A whole number. -/
  | int (i : Int)
  /-- A double. -/
  | float (x : Float)
  /-- A text. -/
  | str (s : String)
  /-- A list. -/
  | list (items : List Value)
  /-- A row of fixed length. -/
  | tuple (items : List Value)
  /-- Keys and values in order. -/
  | map (entries : List (Value × Value))
  /-- A thing with named members. -/
  | object (members : List (String × Value))
  /-- A qualified name. -/
  | name (q : QName)
  /-- A namespace. -/
  | ns (n : Namespace)
  /-- A text node. -/
  | text (s : String)
  /-- An element. -/
  | element (e : Element)
  /-- An attribute. -/
  | attribute (a : Attribute)
  /-- A document. -/
  | document (d : Document)
  /-- A script block. -/
  | block (b : ScriptBlock)
  /-- A template. -/
  | template (t : Template)
  /-- A block given as steps instead of text. -/
  | routine (mode : RoutineMode) (steps : List Step)
  /-- Arguments that are handed over in chunks, each chunk once. -/
  | stream (id : StreamId)
  /-- A node of an XML tree and the text behind it. -/
  | xml (t : Xml.Tree) (tail : Option String)
  /-- The attributes of an XML element, by their names in brace notation. -/
  | xmlAttributes (entries : List (String × String))
  /-- A scope. -/
  | scope (id : ScopeId)
  /-- A token. -/
  | token (t : Token)
  /-- A kind of tokens. -/
  | tokenKind (k : TokenKind)
  /-- An operation. -/
  | operation (o : Operation)
  /-- Values that are produced one by one. -/
  | generator (items : List Value)
  /-- A reader of a stream, by itself; only its kind is known. -/
  | reader
  /-- A thing nobody here knows anything of but its name. -/
  | unknown (name : String)

/-- A step of a routine. -/
inductive Step where
  /-- Yields an element. -/
  | element (tag : Value) (args : List Value)
  /-- Yields a text node. -/
  | text (v : Value)
  /-- Yields a variable, or a default when it is not defined. -/
  | get (name : String) (default : Value)
  /-- Sets a variable and yields nothing. -/
  | set (name : String) (v : Value)
  /-- Yields the qualified name of a text. -/
  | qname (text : String)
  /-- Yields the list of bound prefixes. -/
  | prefixes
  /-- Yields a value. -/
  | value (v : Value)
  /-- Fails with a message. -/
  | fail (message : String)

end

namespace Value

instance : Inhabited Value := ⟨.null⟩

/-- The name of the kind of a value. -/
def typeName : Value → String
  | .null => "NoneType"
  | .bool _ => "bool"
  | .int _ => "int"
  | .float _ => "float"
  | .str _ => "str"
  | .list _ => "list"
  | .tuple _ => "tuple"
  | .map _ => "dict"
  | .object _ => "object"
  | .name _ => "QualifiedName"
  | .ns _ => "Namespace"
  | .text _ => "Text"
  | .element _ => "Element"
  | .attribute _ => "Attribute"
  | .document _ => "Document"
  | .block _ => "ScriptBlock"
  | .template _ => "CompiledBlock"
  | .routine .. => "PythonBlock"
  | .stream _ => "ArgumentStream"
  | .xml (.comment _) _ => "_Comment"
  | .xml (.instruction ..) _ => "_ProcessingInstruction"
  | .xml .. => "_Element"
  | .xmlAttributes _ => "_Attrib"
  | .scope _ => "Scope"
  | .token _ => "Token"
  | .tokenKind _ => "TokenKind"
  | .operation ⟨true, _⟩ => "builtin_function_or_method"
  | .operation ⟨false, _⟩ => "method"
  | .generator _ => "generator"
  | .reader => "list_iterator"
  | .unknown _ => "Opaque"

/-- The name of the kind of a value with the library it comes from, as casts to numbers show it. -/
def fullTypeName (v : Value) : String :=
  match v with
  | .xml .. | .xmlAttributes _ => "lxml.etree." ++ v.typeName
  | v => v.typeName

/-- Whether a value is content that is produced by running it. -/
def isContentBlock : Value → Bool
  | .block _ | .template _ | .routine .. | .operation _ => true
  | _ => false

/-- Whether a value counts as true: not null, false, zero or empty. -/
def truthy : Value → Bool
  | .null => false
  | .bool b => b
  | .int i => i != 0
  | .float x => x != 0.0
  | .str s => !s.isEmpty
  | .list items => !items.isEmpty
  | .tuple items => !items.isEmpty
  | .map entries => !entries.isEmpty
  | .xml (.element _ _ _ content) _ => content.any fun t => !t.isText
  | .xml .. => false
  | .xmlAttributes entries => !entries.isEmpty
  | _ => true

/-- The value of a node. -/
def ofNode : Node → Value
  | .text s => .text s
  | .element tag attributes children => .element ⟨tag, attributes, children⟩

/-- Whether two values are the same tree: the same text, element or document. -/
def sameNode : Value → Value → Bool
  | .text a, .text b => a == b
  | .element a, .element b => a.same b
  | .document a, .document b => a.same b
  | _, _ => false

/-- A text or null. -/
def ofOption : Option String → Value
  | some s => .str s
  | none => .null

/-- The items of a value that is walked through: those of a list or row, none of null, otherwise the
value alone. -/
def items : Value → List Value
  | .null => []
  | .list vs => vs
  | .tuple vs => vs
  | v => [v]

mutual

/-- The values that a yielded value stands for: lists, rows and generators are spread, and null is
left out. -/
def spread : Value → List Value
  | .null => []
  | .list vs => spreadAll vs
  | .tuple vs => spreadAll vs
  | .generator vs => spreadAll vs
  | v => [v]

/-- The values that a row of yielded values stands for. -/
def spreadAll : List Value → List Value
  | [] => []
  | v :: vs => spread v ++ spreadAll vs

end

theorem spreadAll_append (vs ws : List Value) :
    spreadAll (vs ++ ws) = spreadAll vs ++ spreadAll ws := by
  induction vs with
  | nil => rfl
  | cons v vs ih => simp [spreadAll, ih]

end Value

end TagScript
