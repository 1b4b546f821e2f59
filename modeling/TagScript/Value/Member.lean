import TagScript.Number.Amount
import TagScript.Text.Case
import TagScript.Value.Text
import TagScript.Xml.Encoding

/-!
# Members of values

What stands behind a point after a variable: a key of a map, in any case if it is not found as
written, or a named part or operation of a value. Whatever has no such member yields null.
-/

namespace TagScript.Value

/-- The entry of a map with a key, then the first one whose key is the same in lower case. -/
def entryOf? (entries : List (Value × Value)) (key : String) : Option Value :=
  let exactly := entries.find? fun e =>
    match e.1 with
    | .str k => k == key
    | _ => false
  let folded := entries.find? fun e =>
    match e.1 with
    | .str k => Text.lower k == Text.lower key
    | _ => false
  (exactly.or folded).map (·.2)

/-- The number that a value is; truth values count as zero and one. -/
def amount? : Value → Option Number.Amount
  | .bool b => some (.whole (if b then 1 else 0))
  | .int i => some (.whole i)
  | .float x => some (.real x)
  | _ => none

/-- The number that a value must be. -/
def toAmount (v : Value) : Except Fault Number.Amount :=
  v.amount?.elim (.error (.wrongKind .unsupported)) .ok

mutual

/-- Whether two keys of a map are the same: numbers by their value, names, nodes and blocks by their
parts. -/
def sameKey : Value → Value → Bool
  | .null, .null => true
  | .str a, .str b => a == b
  | .tuple as, .tuple bs => sameKeys as bs
  | .name a, .name b => a == b
  | .ns a, .ns b => a == b
  | .text a, .text b => a == b
  | .element a, .element b => a.same b
  | .block a, .block b => a.source == b.source
  | .template a, .template b => a.same b
  | a, b =>
    match a.amount?, b.amount? with
    | some m, some n => m.same n
    | _, _ => false

/-- Whether two rows hold the same keys. -/
def sameKeys : List Value → List Value → Bool
  | [], [] => true
  | a :: as, b :: bs => sameKey a b && sameKeys as bs
  | _, _ => false

end

mutual

/-- Whether a value can be a key: lists, maps and documents can change. -/
def canBeKey : Value → Bool
  | .list _ | .map _ | .document _ => false
  | .tuple vs => canBeKeys vs
  | _ => true

/-- Whether all values of a row can be keys. -/
def canBeKeys : List Value → Bool
  | [] => true
  | v :: vs => canBeKey v && canBeKeys vs

end

/-- Sets a key of a map: a known key keeps its place, a new one goes to the end. -/
def setEntry (entries : List (Value × Value)) (key v : Value) : List (Value × Value) :=
  if entries.any fun e => e.1.sameKey key then
    entries.map fun e => if e.1.sameKey key then (e.1, v) else e
  else entries ++ [(key, v)]

/-- The map with these entries; of a repeated key the last value counts, at the first place. -/
def ofEntries (entries : List (Value × Value)) : Except Fault Value :=
  if canBeKeys (entries.map (·.1)) then
    .ok (.map (entries.foldl (fun done e => setEntry done e.1 e.2) []))
  else .error (.wrongKind .unsupported)

/-- A row of pairs of texts. -/
def pairs (ps : List (String × String)) : Value :=
  .tuple (ps.map fun p => .tuple [.str p.1, .str p.2])

/-! ## Operations -/

/-- An operation of plain data that accepts no surroundings. -/
def dataOperation : Value :=
  .operation ⟨true, .error (.wrongKind .unsupported)⟩

/-- An operation of plain data that yields something whatever it is given. -/
def dataOperationYielding (result : Json) : Value :=
  .operation ⟨true, .ok result⟩

/-- An operation of the parts of trees and of scopes. -/
def operationWith (outcome : Except Fault Json) : Value :=
  .operation ⟨false, outcome⟩

/-- Operations of texts. -/
def textOperations : List String := [
  "capitalize", "casefold", "center", "count", "encode", "endswith", "expandtabs", "find", "index",
  "isalnum", "isalpha", "isascii", "isdecimal", "isdigit", "isidentifier", "islower", "isnumeric",
  "isprintable", "isspace", "istitle", "isupper", "join", "ljust", "lower", "lstrip", "maketrans",
  "partition", "removeprefix", "removesuffix", "replace", "rfind", "rindex", "rjust", "rpartition",
  "rsplit", "rstrip", "split", "splitlines", "startswith", "strip", "swapcase", "title",
  "translate", "upper", "zfill"]

/-- An operation of a text. A text without braces is its own format. -/
def textMember? (s : String) (key : String) : Option Value :=
  if key = "format" || key = "format_map" then
    if s.toList.any fun c => c == '{' || c == '}' then some dataOperation
    else some (dataOperationYielding (.str s))
  else if textOperations.contains key then some dataOperation
  else none

/-- Operations of lists. -/
def listOperations : List String := [
  "clear", "copy", "extend", "insert", "pop", "reverse", "sort"]

/-- An operation of a list. No list holds the surroundings it is given. -/
def listMember? (key : String) : Option Value :=
  if key = "append" then some (dataOperationYielding .null)
  else if key = "count" then some (dataOperationYielding (.int 0))
  else if key = "index" || key = "remove" then
    some (.operation ⟨true, .error (.invalid (.complaint "list.remove(x): x not in list"))⟩)
  else if listOperations.contains key then some dataOperation
  else none

/-- An operation of a row of fixed length. -/
def tupleMember? (key : String) : Option Value :=
  if key = "count" then some (dataOperationYielding (.int 0))
  else if key = "index" then
    some (.operation ⟨true, .error (.invalid (.complaint "tuple.index(x): x not in tuple"))⟩)
  else none

/-- Operations of whole numbers. -/
def intOperations : List String := [
  "as_integer_ratio", "bit_count", "bit_length", "conjugate", "from_bytes", "to_bytes"]

/-- Operations of doubles. -/
def floatOperations : List String := [
  "as_integer_ratio", "conjugate", "fromhex", "hex", "is_integer"]

/-- An operation of an element or a document. The surroundings are no name of anything in it. -/
def treeOperation? (key : String) : Option Value :=
  match key with
  | "find" => some (operationWith (.ok .null))
  | "find_all" => some (operationWith (.ok (.arr [])))
  | "iter_elements" | "to_dict" => some (operationWith (.error (.wrongKind .unsupported)))
  | _ => none

/-! ## Parts -/

/-- A named part of an element. -/
def elementMember? (e : Element) (key : String) : Option Value :=
  match key with
  | "tag" => some (.name e.tag)
  | "attributes" => some (.tuple (e.attributes.map .attribute))
  | "children" => some (.tuple (e.children.map ofNode))
  | "local_name" => some (.str e.tag.localName)
  | "namespace_uri" => some (ofOption e.tag.uri)
  | "text" => some (.str e.text)
  | "elements" => some (.list (e.childElements.map .element))
  | "namespace_declarations" =>
    some (.map (e.declarations.map fun d => (.str d.1, .str d.2)))
  | "get_attribute" => some (operationWith (.ok .null))
  | "has_attribute" => some (operationWith (.ok (.bool false)))
  | key => treeOperation? key

/-- A named part of a text node. -/
def textNodeMember? (s : String) (key : String) : Option Value :=
  match key with
  | "value" => some (.str s)
  | "to_dict" => some (operationWith (.error (.wrongKind .unsupported)))
  | _ => none

/-- A named part of a qualified name. -/
def nameMember? (q : QName) (key : String) : Option Value :=
  match key with
  | "local_name" => some (.str q.localName)
  | "namespace_uri" => some (ofOption q.uri)
  | "clark" => some (.str q.clark)
  | "is_qualified" => some (.bool q.uri.isSome)
  | "parse" => some (operationWith (.error (.wrongKind .unsupported)))
  | _ => none

/-- A named part of an attribute. -/
def attributeMember? (a : Attribute) (key : String) : Option Value :=
  match key with
  | "name" => some (.name a.name)
  | "value" => some (.str a.value)
  | "display_name" => some (.str a.name.display)
  | "is_namespace_declaration" => some (.bool a.isDeclaration)
  | _ => none

/-- A named part of a document. A document that is a value has no reports and no counts; the
surroundings it is given are taken for the wish to be written on several lines. -/
def documentMember? (d : Document) (key : String) : Option Value :=
  match key with
  | "root" => some (.element d.root)
  | "version" => some (.str d.version.text)
  | "encoding" => some (ofJson d.encoding)
  | "standalone" => some (.str (standaloneText d.standalone))
  | "correlation_id" => some (ofOption d.correlationId)
  | "diagnostics" => some (.list [])
  | "metrics" => some .null
  | "to_string" =>
    some (operationWith ((Xml.writeDocument true d).1.bind fun w => w.text.map .str))
  | "to_lxml" | "xpath" => some (operationWith (.error (.wrongKind .unsupported)))
  | key => treeOperation? key

/-- A named part of a template. -/
def templateMember? (t : Template) (key : String) : Option Value :=
  match key with
  | "source" => some (.str t.source)
  | "compiled_source" => some (.str t.compiled)
  | "namespaces" => some (pairs t.bindings)
  | "tokens" => some (.tuple (t.tokens.map .token))
  | "duds" => some (.tuple (t.words.map .token))
  | "unresolved" => some (.tuple (t.unresolved.map .token))
  | "element_ctor_name" => some (ofJson t.constructor.setting)
  | "was_rewritten" => some (.bool t.wasRewritten)
  | _ => none

/-- A named part of a whole number. -/
def intMember? (i : Int) (key : String) : Option Value :=
  match key with
  | "real" | "numerator" => some (.int i)
  | "imag" => some (.int 0)
  | "denominator" => some (.int 1)
  | key => if intOperations.contains key then some dataOperation else none

/-- A named part of a double. -/
def floatMember? (x : Float) (key : String) : Option Value :=
  match key with
  | "real" => some (.float x)
  | "imag" => some (.float 0.0)
  | key => if floatOperations.contains key then some dataOperation else none

/-- A named part of a script block. -/
def blockMember? (b : ScriptBlock) (key : String) : Option Value :=
  match key with
  | "source" => some (.str b.source)
  | "line" => some (.int b.line)
  | "scope" => some ((b.scope.map Value.scope).getD .null)
  | "with_scope" => some (operationWith (.error (.wrongKind .unsupported)))
  | _ => none

/-- A named part of a scope with this scope around it. Its operations ask for names and variables.
-/
def scopeMember? (parent : Option ScopeId) (key : String) : Option Value :=
  match key with
  | "parent" => some ((parent.map Value.scope).getD .null)
  | "get" | "lookup" | "child" => some (operationWith (.error .missingMember))
  | "set" | "as_dict" => some (operationWith (.error (.wrongKind .unsupported)))
  | _ => none

/-- A named part of a token. -/
def tokenMember? (t : Token) (key : String) : Option Value :=
  match key with
  | "kind" => some (.tokenKind t.kind)
  | "text" => some (.str t.text)
  | "line" => some (.int t.pos.line)
  | "column" => some (.int t.pos.column)
  | "length" => some (.int t.length)
  | "depth" => some (.int t.depth)
  | "offset" => some (.int t.offset)
  | "end_column" => some (.int t.endColumn)
  | "position" => some (ofJson (.obj t.pos.fields))
  | _ => none

/-- A named part of a kind of tokens. -/
def tokenKindMember? (k : TokenKind) (key : String) : Option Value :=
  match key with
  | "name" => some (.str k.label)
  | "value" => some (.int (TokenKind.all.idxOf k + 1 : Nat))
  | _ => none

/-- The bindings that declarations make, by their prefixes. -/
def bindings (declarations : Xml.Declarations) : Value :=
  .map (declarations.map fun d => (ofOption d.1, .str d.2))

/-- Operations of XML nodes. -/
def xmlOperations : List String := [
  "addnext", "addprevious", "append", "clear", "cssselect", "extend", "find", "findall",
  "findtext", "get", "getchildren", "getiterator", "getnext", "getparent", "getprevious",
  "getroottree", "index", "insert", "items", "iter", "iterancestors", "iterchildren",
  "iterdescendants", "iterfind", "itersiblings", "itertext", "keys", "makeelement", "remove",
  "replace", "set", "values", "xpath"]

/-- A named part of an XML node. -/
def xmlMember? (t : Xml.Tree) (tail : Option String) (key : String) : Option Value :=
  match t, key with
  | _, "tail" => some (ofOption tail)
  | .element tagName _ _ _, "tag" => some (.str tagName.clark)
  | .element tagName _ _ _, "prefix" => some (ofOption tagName.pfx)
  | .element _ declarations _ _, "nsmap" => some (bindings declarations)
  | _, "nsmap" => some (bindings [])
  | .element _ _ attributes _, "attrib" =>
    some (.xmlAttributes (attributes.map fun a => (a.name.clark, a.value)))
  | .element _ _ _ (.text s :: _), "text" => some (.str s)
  | .comment s, "text" => some (.str s)
  | .instruction _ s, "text" => some (.str s)
  | .instruction target _, "target" => some (.str target)
  | _, key =>
    if xmlOperations.contains key then some (operationWith (.error (.wrongKind .unsupported)))
    else none

/-! ## Members of values -/

/-- A member of a value, if it has one of that name. `around` tells the scope around a scope. -/
def member? (around : ScopeId → Option ScopeId) (key : String) : Value → Option Value
  | .map entries => entryOf? entries key
  | .object members => Fields.get? members key
  | .str s => textMember? s key
  | .list _ => listMember? key
  | .tuple _ => tupleMember? key
  | .element e => elementMember? e key
  | .text s => textNodeMember? s key
  | .ns n => if key = "uri" then some (.str n.uri) else none
  | .name q => nameMember? q key
  | .attribute a => attributeMember? a key
  | .document d => documentMember? d key
  | .block b => blockMember? b key
  | .template t => templateMember? t key
  | .int i => intMember? i key
  | .bool b => intMember? (if b then 1 else 0) key
  | .float x => floatMember? x key
  | .xml t tail => xmlMember? t tail key
  | .xmlAttributes entries => entryOf? (entries.map fun e => (.str e.1, .str e.2)) key
  | .scope id => scopeMember? (around id) key
  | .token t => tokenMember? t key
  | .tokenKind k => tokenKindMember? k key
  | .stream _ => if key = "chunks" then some .reader else none
  | _ => none

/-- The value at the end of a row of members; a missing one is null. -/
def path (around : ScopeId → Option ScopeId) (v : Value) (keys : List String) : Value :=
  keys.foldl (fun v key => (member? around key v).getD .null) v

@[simp] theorem member?_null (around : ScopeId → Option ScopeId) (key : String) :
    member? around key .null = none := rfl

/-- Nothing has no members, however many are asked for. -/
theorem path_null (around : ScopeId → Option ScopeId) (keys : List String) :
    path around .null keys = .null := by
  induction keys with
  | nil => rfl
  | cons key keys ih => simpa [path] using ih

end TagScript.Value
