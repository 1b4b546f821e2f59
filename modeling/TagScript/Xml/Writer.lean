import TagScript.Xml.OfElement

/-!
# Writing XML

The text of an XML tree. Without added space everything stands in one line; with it, each child of
an element that contains no text stands on a line of its own.
-/

namespace TagScript.Xml

/-- How a character of a text is written. -/
def writeTextChar (c : Char) : List Char :=
  if c = '&' then "&amp;".toList
  else if c = '<' then "&lt;".toList
  else if c = '>' then "&gt;".toList
  else if c = '\r' then "&#13;".toList
  else [c]

/-- How a character of an attribute value is written. -/
def writeValueChar (c : Char) : List Char :=
  if c = '"' then "&quot;".toList
  else if c = '\n' then "&#10;".toList
  else if c = '\t' then "&#9;".toList
  else writeTextChar c

/-- A declaration with the blank before it. The prefix `xml` is never declared. -/
def writeDeclaration (d : Option String × String) : List Char :=
  let name := match d.1 with
    | some pfx => "xmlns:".toList ++ pfx.toList
    | none => "xmlns".toList
  if d.1 = some "xml" then []
  else ' ' :: name ++ '=' :: '"' :: d.2.toList.flatMap writeValueChar ++ ['"']

/-- An attribute with the blank before it. -/
def writeAttribute (a : TagAttribute) : List Char :=
  ' ' :: a.name.written.toList ++ '=' :: '"' :: a.value.toList.flatMap writeValueChar
    ++ ['"']

/-- A new line and the space before a child so many levels deep; at most sixty blanks. -/
def newLine (level : Nat) : List Char :=
  '\n' :: List.replicate (2 * min level 30) ' '

mutual

/-- The text of a node. `level` is its depth when space is added, and nothing when not. -/
def write (level : Option Nat) : Tree → List Char
  | .text value => value.toList.flatMap writeTextChar
  | .comment text => (Tree.comment text).markup.toList
  | .instruction target text => (Tree.instruction target text).markup.toList
  | .element name declarations attributes content =>
    let head := '<' :: name.written.toList ++ declarations.flatMap writeDeclaration
      ++ attributes.flatMap writeAttribute
    if content.isEmpty then head ++ ['/', '>']
    else
      let inner := if content.any Tree.isText then none else level
      let close := match inner with
        | some n => newLine n
        | none => []
      head ++ '>' :: writeAll (inner.map (· + 1)) content ++ close
        ++ '<' :: '/' :: name.written.toList ++ ['>']

/-- The text of a row of nodes, each on a new line when space is added. -/
def writeAll (level : Option Nat) : List Tree → List Char
  | [] => []
  | t :: ts =>
    (match level with
      | some n => newLine n
      | none => []) ++ write level t ++ writeAll level ts

end

/-- The text of a whole tree. -/
def writeRoot (pretty : Bool) (tree : Tree) : List Char :=
  if pretty then write (some 0) tree ++ ['\n'] else write none tree

end TagScript.Xml
