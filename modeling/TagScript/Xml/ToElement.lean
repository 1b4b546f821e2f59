import TagScript.Element
import TagScript.Xml.Naming

/-!
# From XML trees to element trees

Declarations become attributes: on each element those bindings that do not hold around it already.
Comments and processing instructions are left out, and texts that are not empty are kept.
-/

namespace TagScript.Xml

/-- The attributes that declare the prefixes of `inside` which `known` does not bind alike. -/
def declarationAttributes (known inside : Declarations) : List Attribute :=
  inside.filterMap fun d =>
    match d.1 with
    | some pfx =>
      if Fields.get? known (some pfx) = some d.2 then none
      else some ⟨⟨pfx, some declarationUri⟩, d.2⟩
    | none => none

/-- An attribute of an XML element as an attribute. -/
def toAttribute (a : TagAttribute) : Attribute :=
  ⟨⟨a.name.localName, a.name.uri⟩, a.value⟩

mutual

/-- The nodes of an XML tree: one, or none for what is left out. `outside` holds the bindings around
it and `known` those that the result states already. -/
def toNodes (known outside : Declarations) : Tree → List Node
  | .text value => if value = "" then [] else [.text value]
  | .comment _ => []
  | .instruction _ _ => []
  | .element name declarations attributes content =>
    let inside := bindingsInside declarations outside
    [.element ⟨name.localName, name.uri⟩
      (declarationAttributes known inside ++ attributes.map toAttribute)
      (toNodesAll inside content)]

/-- The nodes of a row of XML trees inside an element. -/
def toNodesAll (inside : Declarations) : List Tree → List Node
  | [] => []
  | t :: ts => toNodes inside inside t ++ toNodesAll inside ts

end

/-- The element of an XML element, when the bindings `known` are stated already. -/
def toElement (known : Declarations) (tree : Tree) : Except Fault Element :=
  match toNodes known [] tree with
  | [.element tag attributes children] => .ok ⟨tag, attributes, children⟩
  | _ => .error (.invalid .notElementNode)

end TagScript.Xml
