import TagScript.Fault

/-!
# Qualified names

A name is a local part and perhaps a namespace URI. In text it stands in brace notation,
the URI between braces before the local part.
-/

namespace TagScript

/-- The namespace of namespace declarations. -/
def declarationUri : String := "http://www.w3.org/2000/xmlns/"

/-- The namespace that the prefix `xml` is always bound to. -/
def xmlUri : String := "http://www.w3.org/XML/1998/namespace"

/-- Splits a name at its first colon. -/
def splitColon (text : String) : Option (String × String) :=
  if text.toList.contains ':' then
    some (String.ofList (text.toList.takeWhile (· ≠ ':')),
      String.ofList ((text.toList.dropWhile (· ≠ ':')).drop 1))
  else none

/-- A local part, and a namespace URI unless the name is in no namespace. -/
structure QName where
  /-- The local part. -/
  localName : String
  /-- The namespace URI. -/
  uri : Option String
  deriving Repr, DecidableEq, Inhabited

namespace QName

/-- The name with these parts; the empty URI stands for no namespace. -/
def of (uri : Option String) (localName : String) : Except Fault QName :=
  if localName = "" then .error (.invalid .emptyLocalName)
  else .ok ⟨localName, if uri = some "" then none else uri⟩

/-- The name in brace notation. -/
def clark (name : QName) : String :=
  match name.uri with
  | some uri => "\x7b" ++ uri ++ "\x7d" ++ name.localName
  | none => name.localName

/-- Reads brace notation; a text that does not open with a brace is a local part. -/
def parse (text : String) : Except Fault QName :=
  match text.toList with
  | '{' :: rest =>
    if rest.contains '}' then
      QName.of (some (String.ofList (rest.takeWhile (· ≠ '}'))))
        (String.ofList ((rest.dropWhile (· ≠ '}')).drop 1))
    else .error (.invalid (.malformedName text))
  | _ => QName.of none text

/-- Whether the name declares a namespace. -/
def isDeclaration (name : QName) : Bool :=
  name.uri == some declarationUri

/-- The name as markup shows it for the two reserved namespaces, in brace notation otherwise. -/
def display (name : QName) : String :=
  if name.uri = some declarationUri then "xmlns:" ++ name.localName
  else if name.uri = some xmlUri then "xml:" ++ name.localName
  else name.clark

/-- The fields of a name, as messages show it. -/
def describe (name : QName) : String :=
  "QualifiedName(local_name=" ++ Text.quoted name.localName ++ ", namespace_uri="
    ++ (match name.uri with
      | some uri => Text.quoted uri
      | none => "None") ++ ")"

theorem clark_of_none (localName : String) : clark ⟨localName, none⟩ = localName := rfl

end QName

/-- A namespace URI as a value of its own. -/
structure Namespace where
  /-- The URI. -/
  uri : String
  deriving Repr, DecidableEq, Inhabited

namespace Namespace

/-- The namespace with this URI, which must not be empty. -/
def of (uri : String) : Except Fault Namespace :=
  if uri = "" then .error (.invalid .emptyNamespace) else .ok ⟨uri⟩

/-- A name in the namespace. -/
def name (ns : Namespace) (localName : String) : Except Fault QName :=
  QName.of (some ns.uri) localName

/-- The field of a namespace, as messages show it. -/
def describe (ns : Namespace) : String :=
  "Namespace(uri=" ++ Text.quoted ns.uri ++ ")"

end Namespace

end TagScript
