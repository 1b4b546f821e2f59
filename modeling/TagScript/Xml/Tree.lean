import TagScript.Name

/-!
# XML trees

The trees that markup stands for: every name has its prefix, and namespace declarations are kept
apart from the attributes.
-/

namespace TagScript.Xml

/-- A name with the prefix it is written with. -/
structure TagName where
  /-- The prefix. -/
  pfx : Option String
  /-- The local part. -/
  localName : String
  /-- The namespace URI. -/
  uri : Option String
  deriving Repr, DecidableEq, Inhabited

/-- An attribute that is no namespace declaration. -/
structure TagAttribute where
  /-- The name. -/
  name : TagName
  /-- The value. -/
  value : String
  deriving Repr, DecidableEq, Inhabited

/-- Namespace declarations in order: prefixes, nothing standing for the default namespace, and
URIs. -/
abbrev Declarations := List (Option String × String)

/-- A node of an XML tree. Two texts never stand beside each other. -/
inductive Tree where
  /-- A text. -/
  | text (value : String)
  /-- An element: its name, its declarations, its attributes and what it contains. -/
  | element (name : TagName) (declarations : Declarations) (attributes : List TagAttribute)
      (content : List Tree)
  /-- A comment. -/
  | comment (text : String)
  /-- A processing instruction. -/
  | instruction (target text : String)
  deriving Inhabited

/-- The name in brace notation. -/
def TagName.clark (name : TagName) : String :=
  (QName.mk name.localName name.uri).clark

/-- The name as written. -/
def TagName.written (name : TagName) : String :=
  match name.pfx with
  | some p => p ++ ":" ++ name.localName
  | none => name.localName

/-- The bindings inside an element: its declarations, then those from outside that they do not
hide. -/
def bindingsInside (declarations outside : Declarations) : Declarations :=
  declarations ++ outside.filter fun b => !declarations.any fun d => d.1 == b.1

/-- Whether a node is an element. -/
def Tree.isElement : Tree → Bool
  | .element .. => true
  | _ => false

/-- Whether a node is a text. -/
def Tree.isText : Tree → Bool
  | .text _ => true
  | _ => false

/-- A comment or a processing instruction as markup. -/
def Tree.markup : Tree → String
  | .comment inner => "<!--" ++ inner ++ "-->"
  | .instruction target inner =>
    "<?" ++ target ++ (if inner = "" then "" else " " ++ inner) ++ "?>"
  | _ => ""

/-- Adds a node behind others, joining texts that come to stand beside each other. -/
def appendNode (content : List Tree) (node : Tree) : List Tree :=
  match content, node with
  | [.text a], .text b => [.text (a ++ b)]
  | [], node => [node]
  | first :: rest, node => first :: appendNode rest node

end TagScript.Xml
