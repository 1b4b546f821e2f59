import TagScript.Json.Basic
import TagScript.Name
import TagScript.Row

/-!
# Element trees

An element has a qualified name, attributes and children in order; children are texts and elements.
Prefixes do not occur in a tree: a namespace declaration is an attribute whose name lies in the
namespace of declarations.
-/

namespace TagScript

/-- An attribute of an element. -/
structure Attribute where
  /-- The name. -/
  name : QName
  /-- The value. -/
  value : String
  deriving Repr, DecidableEq, Inhabited

/-- A node of a tree. -/
inductive Node where
  /-- A text. -/
  | text (value : String)
  /-- An element: its name, its attributes and its children. -/
  | element (tag : QName) (attributes : List Attribute) (children : List Node)
  deriving Inhabited

/-- An element. -/
structure Element where
  /-- The name. -/
  tag : QName
  /-- The attributes in order. -/
  attributes : List Attribute
  /-- The children in order. -/
  children : List Node
  deriving Inhabited

namespace Attribute

/-- Whether the attribute declares a namespace. -/
def isDeclaration (a : Attribute) : Bool :=
  a.name.isDeclaration

/-- The fields of an attribute, as messages show it. -/
def describe (a : Attribute) : String :=
  "Attribute(name=" ++ a.name.describe ++ ", value=" ++ Text.quoted a.value ++ ")"

end Attribute

namespace Node

/-- The element as a node. -/
def ofElement (e : Element) : Node :=
  .element e.tag e.attributes e.children

/-- The element that a node is. -/
def element? : Node → Option Element
  | .text _ => none
  | .element tag attributes children => some ⟨tag, attributes, children⟩

mutual

/-- Whether two nodes are the same tree. -/
def same : Node → Node → Bool
  | .text a, .text b => a == b
  | .element t a c, .element t' a' c' => t == t' && a == a' && sameAll c c'
  | _, _ => false

/-- Whether two rows of nodes are the same. -/
def sameAll : List Node → List Node → Bool
  | [], [] => true
  | n :: ns, m :: ms => same n m && sameAll ns ms
  | _, _ => false

end

mutual

/-- The elements of a node in document order, itself first. -/
def elements : Node → List Element
  | .text _ => []
  | .element tag attributes children =>
    ⟨tag, attributes, children⟩ :: elementsOfAll children

/-- The elements of a row of nodes in document order. -/
def elementsOfAll : List Node → List Element
  | [] => []
  | n :: ns => elements n ++ elementsOfAll ns

end

mutual

/-- A node as data. Attributes with one display name collapse to the last of them. -/
def toJson : Node → Json
  | .text value => .obj [("text", .str value)]
  | .element tag attributes children =>
    let shown := Fields.ofList (attributes.map fun a => (a.name.display, Json.str a.value))
    .obj ([("tag", .str tag.clark)]
      ++ (if attributes.isEmpty then [] else [("attributes", .obj shown)])
      ++ (if children.isEmpty then [] else [("children", .arr (toJsonAll children))]))

/-- A row of nodes as data. -/
def toJsonAll : List Node → List Json
  | [] => []
  | n :: ns => toJson n :: toJsonAll ns

end

/-- Items of a row between parentheses, as messages show it; a row of one has a comma at its end. -/
def describeRow (items : List String) : String :=
  match items with
  | [item] => "(" ++ item ++ ",)"
  | _ => "(" ++ ", ".intercalate items ++ ")"

mutual

/-- The fields of a node, as messages show it. -/
def describe : Node → String
  | .text value => "Text(value=" ++ Text.quoted value ++ ")"
  | .element tag attributes children =>
    "Element(tag=" ++ tag.describe ++ ", attributes="
      ++ describeRow (attributes.map Attribute.describe) ++ ", children="
      ++ describeRow (describeAll children) ++ ")"

/-- A row of nodes, as messages show them. -/
def describeAll : List Node → List String
  | [] => []
  | n :: ns => describe n :: describeAll ns

end

/-- The text of a text node; nothing for an element. -/
def ownText : Node → String
  | .text value => value
  | .element .. => ""

end Node

/-- A name to look for: in brace notation, or qualified. -/
inductive Wanted where
  /-- A name in brace notation. -/
  | text (name : String)
  /-- A qualified name. -/
  | qualified (name : QName)

/-- Whether an element name is the one looked for. -/
def Wanted.matchesTag (w : Wanted) (name : QName) : Bool :=
  match w with
  | .text wanted => name.clark == wanted
  | .qualified wanted => name == wanted

/-- Whether an attribute name is the one looked for; it may also be given as markup shows it. -/
def Wanted.matchesAttribute (w : Wanted) (name : QName) : Bool :=
  match w with
  | .text wanted => name.clark == wanted || name.display == wanted
  | .qualified wanted => name == wanted

namespace Element

/-- The texts among the children, joined. -/
def text (e : Element) : String :=
  String.join (e.children.map Node.ownText)

/-- The elements among the children. -/
def childElements (e : Element) : List Element :=
  e.children.filterMap Node.element?

/-- The prefixes declared on the element and their URIs. -/
def declarations (e : Element) : List (String × String) :=
  Fields.ofList ((e.attributes.filter Attribute.isDeclaration).map fun a =>
    (a.name.localName, a.value))

/-- The value of an attribute. -/
def attribute? (e : Element) (w : Wanted) : Option String :=
  (e.attributes.find? fun a => w.matchesAttribute a.name).map (·.value)

/-- The element and all elements below it in document order. -/
def all (e : Element) : List Element :=
  (Node.ofElement e).elements

/-- The elements below the element in document order. -/
def descendants (e : Element) : List Element :=
  Node.elementsOfAll e.children

/-- The elements below with a name, in document order. -/
def findAll (e : Element) (w : Wanted) : List Element :=
  e.descendants.filter fun d => w.matchesTag d.tag

/-- The first element below with a name. -/
def find? (e : Element) (w : Wanted) : Option Element :=
  e.descendants.find? fun d => w.matchesTag d.tag

/-- The element at the end of a row of places among child elements; a negative place counts from the
end. -/
def descend (e : Element) : List Int → Except Fault Element
  | [] => .ok e
  | place :: rest => do descend (← Row.item e.childElements place) rest

/-- Whether two elements are the same tree. -/
def same (e f : Element) : Bool :=
  (Node.ofElement e).same (.ofElement f)

/-- The element as data. -/
def toJson (e : Element) : Json :=
  (Node.ofElement e).toJson

/-- The fields of an element, as messages show it. -/
def describe (e : Element) : String :=
  (Node.ofElement e).describe

theorem all_eq (e : Element) : e.all = e :: e.descendants := by
  simp [all, descendants, Node.ofElement, Node.elements]

end Element

end TagScript
