import TagScript.Xml.Char
import TagScript.Xml.Tree
import TagScript.Xml.Uri

/-!
# Giving names their prefixes

An element is made from a name in brace notation and the declarations asked for. Its URI gets a
prefix that is bound to it where the element stands: one of the declarations, one from outside that
nothing nearer hides, or a new one. New prefixes are numbered through one tree.
-/

namespace TagScript.Xml

/-- What is kept while a tree is made. -/
structure NamingState where
  /-- The number of the next new prefix. -/
  nextNumber : Nat
  /-- The names that had to be written without their prefix, and what is written instead. -/
  shortened : List (String × String)

/-- Making a tree: it can fail, and what it did until then is kept. -/
abbrev Naming := ExceptT Fault (StateM NamingState)

/-- What the search for a prefix sees of an element. -/
structure Place where
  /-- The declarations of the element. -/
  declarations : Declarations
  /-- The prefix and the URI of the element's own name, once it has one. -/
  owner : Option (Option String × String) := none
  deriving Repr, DecidableEq, Inhabited

/-- The elements around a place, innermost first. -/
abbrev Around := List Place

/-- An element whose name and declarations are settled. -/
def Place.ofElement (name : TagName) (declarations : Declarations) : Place :=
  ⟨declarations, name.uri.map fun uri => (name.pfx, uri)⟩

/-- The URI a prefix is bound to. -/
def lookupPrefix (around : Around) (pfx : Option String) : Option String :=
  if pfx = some "xml" then some xmlUri
  else around.findSome? fun place => Fields.get? place.declarations pfx

/-- The prefix of a URI: in the nearest element that declares it or uses it for its own name, the
first one that nothing nearer hides. Attributes do not use default declarations, and no declaration
binds the prefix `xml`. -/
def lookupUri (forAttribute : Bool) (uri : String) (nearer : Around) :
    Around → Option (Option String)
  | [] => none
  | place :: outer =>
    let usable := fun (d : Option String × String) =>
      d.2 == uri && d.1 != some "xml" && !(forAttribute && d.1 == none) &&
        !nearer.any fun near => (Fields.get? near.declarations d.1).isSome
    match (place.declarations ++ place.owner.toList).find? usable with
    | some d => some d.1
    | none => lookupUri forAttribute uri (place :: nearer) outer

/-- Refuses a text that a document may not hold. -/
def checkText (s : String) : Except Fault Unit :=
  if s.toList.all isAllowed then .ok () else .error (.invalid .forbiddenCharacter)

/-- Splits a name in brace notation into its URI and its local part. -/
def splitClark (text : String) : Except Fault (Option String × String) := do
  checkText text
  match text.toList with
  | [] => .error (.invalid (.complaint "Empty tag name"))
  | '{' :: rest =>
    if !rest.contains '}' then .error (.invalid (.complaint "Invalid tag name"))
    else
      let uri := String.ofList (rest.takeWhile (· ≠ '}'))
      let localName := String.ofList ((rest.dropWhile (· ≠ '}')).drop 1)
      if localName = "" then .error (.invalid (.complaint "Empty tag name"))
      else .ok (if uri = "" then none else some uri, localName)
  | _ => .ok (none, text)

/-- Refuses a text that is no URI. -/
def checkUri (uri : String) : Except Fault Unit :=
  if Uri.isReference uri then .ok () else .error (.invalid (.namespaceUri uri))

/-- Prefixes that are preferred for well-known URIs. -/
def wellKnown : List (String × String) := [
  (xmlUri, "xml"), ("http://www.w3.org/1999/xhtml", "html"),
  ("http://www.w3.org/1999/XSL/Transform", "xsl"),
  ("http://www.w3.org/1999/02/22-rdf-syntax-ns#", "rdf"),
  ("http://schemas.xmlsoap.org/wsdl/", "wsdl"), ("http://www.w3.org/2001/XMLSchema", "xs"),
  ("http://www.w3.org/2001/XMLSchema-instance", "xsi"), ("http://purl.org/dc/elements/1.1/", "dc"),
  ("http://codespeak.net/lxml/objectify/pytype", "py")]

/-- A new prefix that is not bound yet; the numbers are tried from `n` on. Also the next number. -/
def numberedPrefix (around : Around) : Nat → Nat → String × Nat
  | 0, n => ("ns" ++ toString n, n + 1)
  | fuel + 1, n =>
    let candidate := "ns" ++ toString n
    if (lookupPrefix around (some candidate)).isSome then numberedPrefix around fuel (n + 1)
    else (candidate, n + 1)

/-- A new prefix for a URI. Each number is used once in a tree. -/
def newPrefix (around : Around) (uri : String) : Naming String := do
  let taken := (around.map fun place => place.declarations.length).foldl (· + ·) 0
  let numbered : Naming String := do
    let s ← get
    let (pfx, next) := numberedPrefix around taken s.nextNumber
    set { s with nextNumber := next }
    pure pfx
  match Fields.get? wellKnown uri with
  | some pfx => if (lookupPrefix around (some pfx)).isSome then numbered else pure pfx
  | none => numbered

/-- Adds the declarations asked for that do not hold around already. Also the prefix of the first
one with the URI that is looked for. -/
def declareAll (outer : Around) (wanted : Option String) :
    Declarations → Declarations → Option (Option String) →
      Except Fault (Declarations × Option (Option String))
  | own, [], found => .ok (own, found)
  | own, (pfx, uri) :: rest, found => do
    checkText uri
    checkUri uri
    match pfx with
    | some p =>
      checkText p
      if !isName p then .error (.invalid (.prefixName p))
    | none => pure ()
    let own :=
      if lookupPrefix (⟨own, none⟩ :: outer) pfx = some uri then own else own ++ [(pfx, uri)]
    let found := if found.isNone && wanted = some uri then some pfx else found
    declareAll outer wanted own rest found

/-- The declarations asked for, the default one last. -/
def defaultLast (asked : Declarations) : Declarations :=
  asked.filter (fun d => d.1.isSome) ++ asked.filter (fun d => d.1.isNone)

/-- The name and declarations of a new element. -/
def makeHead (outer : Around) (tag : String) (asked : Declarations) :
    Naming (TagName × Declarations) := do
  let (uri, localName) ← liftExcept (splitClark tag)
  if !isName localName then throw (.invalid (.tagName localName))
  let (own, found) ← liftExcept (declareAll outer uri [] (defaultLast asked) none)
  match uri, found with
  | none, _ => pure (⟨none, localName, none⟩, own)
  | some uri, some pfx => pure (⟨pfx, localName, some uri⟩, own)
  | some uri, none =>
    liftExcept (checkUri uri)
    if uri = xmlUri then pure (⟨some "xml", localName, some uri⟩, own)
    else
      match lookupUri false uri [] (⟨own, none⟩ :: outer) with
      | some pfx => pure (⟨pfx, localName, some uri⟩, own)
      | none =>
        let pfx ← newPrefix (⟨own, none⟩ :: outer) uri
        pure (⟨some pfx, localName, some uri⟩, own ++ [(some pfx, uri)])

/-- Sets an attribute of a new element: a known one gets the new value at its place. -/
def setAttribute (outer : Around) (own : Declarations) (attributes : List TagAttribute)
    (name value : String) : Naming (Declarations × List TagAttribute) := do
  let (uri, localName) ← liftExcept (splitClark name)
  if !isName localName then throw (.invalid (.attributeName localName))
  liftExcept (checkText value)
  let (pfx, own) ← choosePrefix uri
  let known := attributes.any fun a => a.name.localName == localName && a.name.uri == uri
  let attributes :=
    if known then attributes.map fun a =>
      if a.name.localName == localName && a.name.uri == uri then { a with value } else a
    else attributes ++ [⟨⟨pfx, localName, uri⟩, value⟩]
  pure (own, attributes)
where
  /-- The prefix of the attribute, and the declarations it needs. -/
  choosePrefix (uri : Option String) : Naming (Option String × Declarations) := do
    match uri with
    | none => pure (none, own)
    | some uri =>
      if uri = xmlUri then pure (some "xml", own)
      else
        match lookupUri true uri [] (⟨own, none⟩ :: outer) with
        | some pfx => pure (pfx, own)
        | none =>
          let pfx ← newPrefix (⟨own, none⟩ :: outer) uri
          pure (some pfx, own ++ [(some pfx, uri)])

/-- Sets attributes in order. -/
def setAttributes (outer : Around) :
    Declarations → List TagAttribute → List (String × String) →
      Naming (Declarations × List TagAttribute)
  | own, attributes, [] => pure (own, attributes)
  | own, attributes, (name, value) :: rest => do
    let (own, attributes) ← setAttribute outer own attributes name value
    setAttributes outer own attributes rest

/-- What a tree is made from: names in brace notation, the declarations asked for, and the text that
follows each node. -/
inductive Draft where
  /-- An element. -/
  | element (tag : String) (asked : Declarations) (attributes : List (String × String))
      (text : Option String) (children : List Draft) (tail : Option String)
  /-- A comment. -/
  | comment (text : String) (tail : Option String)
  /-- A processing instruction. -/
  | instruction (target text : String) (tail : Option String)

/-- A text, if there is one, as content. -/
def textNode (text : Option String) : Except Fault (List Tree) :=
  match text with
  | some s => (checkText s).map fun _ => [.text s]
  | none => .ok []

/-- Whether a text stands somewhere in a row of characters. -/
def holds (part : List Char) : List Char → Bool
  | [] => part.isEmpty
  | c :: rest => part.isPrefixOf (c :: rest) || holds part rest

/-- Refuses the text of a comment that would end it too early. -/
def checkComment (text : String) : Except Fault Unit := do
  checkText text
  if holds ['-', '-'] text.toList || text.toList.getLast? = some '-' then
    .error (.invalid .commentText)

/-- Refuses a processing instruction whose target is no name, or is kept for the declaration of a
document, or whose text would end it too early. -/
def checkInstruction (target text : String) : Except Fault Unit := do
  checkText target
  if !isName target then .error (.invalid (.tagName target))
  else if target.toList.map Char.toLower = ['x', 'm', 'l'] then
    .error (.invalid (.instructionTarget target))
  else
    checkText text
    if holds ['?', '>'] text.toList then .error (.invalid .instructionText)

mutual

/-- The tree made from a draft, and the text behind it. -/
def Draft.make (outer : Around) : Draft → Naming (List Tree)
  | .element tag asked attributes text children tail => do
    let (name, own) ← makeHead outer tag asked
    let (own, attributes) ← setAttributes outer own [] attributes
    let first ← liftExcept (textNode text)
    let rest ← Draft.makeAll (.ofElement name own :: outer) children
    let last ← liftExcept (textNode tail)
    pure (.element name own attributes (first ++ rest) :: last)
  | .comment text tail => do
    liftExcept (checkComment text)
    let last ← liftExcept (textNode tail)
    pure (.comment text :: last)
  | .instruction target text tail => do
    liftExcept (checkInstruction target text)
    let last ← liftExcept (textNode tail)
    pure (.instruction target text :: last)

/-- The trees made from a row of drafts. -/
def Draft.makeAll (outer : Around) : List Draft → Naming (List Tree)
  | [] => pure []
  | d :: ds => do
    let trees ← Draft.make outer d
    let more ← Draft.makeAll outer ds
    pure (trees ++ more)

end

/-- Runs the making of a tree. -/
def Naming.run {α : Type} (m : Naming α) : Except Fault α × NamingState :=
  Id.run (StateT.run (ExceptT.run m) ⟨0, []⟩)

end TagScript.Xml
