import TagScript.Document
import TagScript.Xml.Naming

/-!
# From element trees to XML trees

Declarations become declarations of XML elements, and an element whose namespace nobody declared
gets a declaration: a default one, unless an element below has no namespace, because inside a
default namespace there is no way to write it.
-/

namespace TagScript.Xml

/-- How a name is given to the XML tree. An unqualified name that kept its prefix is written without
it; the change is noted. -/
def givenName (name : QName) : Naming String := do
  match name.uri, splitColon name.localName with
  | none, some (_, rest) =>
    let short :=
      if rest = "" then
        String.ofList (name.localName.toList.map fun c => if c = ':' then '_' else c)
      else rest
    modify fun s => { s with shortened := s.shortened ++ [(name.localName, short)] }
    pure short
  | _, _ => pure name.clark

/-- Whether a default declaration on an element would capture an unqualified element below. -/
def capturesUnqualified (children : List Node) : Bool :=
  (Node.elementsOfAll children).any fun e => e.tag.uri.isNone

/-- The first numbered prefix that none of the bindings uses. -/
def freePrefix (own inScope : Declarations) : String :=
  let used := fun n => (own ++ inScope).any fun d => d.1 == some ("ns" ++ toString n)
  let free := (List.range (own.length + inScope.length + 1)).find? fun n => !used n
  "ns" ++ toString (free.getD 0)

/-- The declarations asked for by an element: its own, and one for its namespace if nobody declared
it. -/
def askedDeclarations (tag : QName) (attributes : List Attribute) (children : List Node)
    (inScope : Declarations) : Declarations :=
  let own : Declarations :=
    (Element.declarations ⟨tag, attributes, children⟩).map fun d => (some d.1, d.2)
  match tag.uri with
  | none => own
  | some uri =>
    let bound (ds : Declarations) : Bool := ds.any fun d => d.2 == uri
    if uri = xmlUri || bound own || bound inScope then own
    else if capturesUnqualified children then own ++ [(some (freePrefix own inScope), uri)]
    else own ++ [(none, uri)]

mutual

/-- The XML tree of a node inside the given declarations. `inScope` holds the bindings asked for
around it. -/
def ofNode (outer : Around) (inScope : Declarations) : Node → Naming Tree
  | .text value => do
    liftExcept (checkText value)
    pure (.text value)
  | .element tag attributes children => do
    let asked := askedDeclarations tag attributes children inScope
    let given ← givenName tag
    let (name, own) ← makeHead outer given asked
    let plain := attributes.filter fun a => !a.isDeclaration
    let (own, set) ← ofAttributes outer own [] plain
    let content ← ofNodes (.ofElement name own :: outer) (Fields.update inScope asked) [] children
    pure (.element name own set content)

/-- The XML trees of a row of nodes, behind what was made before. -/
def ofNodes (outer : Around) (inScope : Declarations) (before : List Tree) :
    List Node → Naming (List Tree)
  | [] => pure before
  | n :: ns => do
    let tree ← ofNode outer inScope n
    ofNodes outer inScope (appendNode before tree) ns

/-- The attributes of a new element. -/
def ofAttributes (outer : Around) (own : Declarations) (done : List TagAttribute) :
    List Attribute → Naming (Declarations × List TagAttribute)
  | [] => pure (own, done)
  | a :: rest => do
    let given ← givenName a.name
    let (own, done) ← setAttribute outer own done given a.value
    ofAttributes outer own done rest

end

/-- The XML tree of an element, and the names that were shortened on the way. -/
def ofElement (e : Element) : Except Fault Tree × List (String × String) :=
  let (result, state) := (ofNode [] [] (Node.ofElement e)).run
  (result, state.shortened)

end TagScript.Xml
