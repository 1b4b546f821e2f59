import TagScript.Build
import TagScript.Xml.ToElement

/-!
# Arguments of elements

An element is built from a row of arguments. Content becomes children where it stands; a name waits
for the argument after it, which decides what the two mean: content behind the content marker, a
namespace declaration, an attribute, or a name that had no value. `Parts` holds what was made so far
and the name that is waiting, and `Parts.feed` takes one more argument.
-/

namespace TagScript

/-- How content inside an element is produced. -/
structure Engine where
  /-- Runs a block with variables, in a scope unless it has its own. -/
  run : Value → List (String × Value) → ScopeId → Build (List Value)
  /-- The text that a row of values makes as an attribute. -/
  texts : List Value → Build String

/-- The name written by an argument: without one hyphen before it and one colon behind it. -/
def argumentName (text : String) : String :=
  let cs := match text.toList with
    | '-' :: rest => rest
    | cs => cs
  String.ofList (if cs.getLast? = some ':' then cs.dropLast else cs)

/-- Whether a value is written like a parameter: a hyphen, and a name character that is no digit. -/
def Value.isFlag (v : Value) : Bool :=
  match v with
  | .null => false
  | v =>
    match v.plain.toList with
    | '-' :: c :: _ => Text.isNameChar c && !Text.isDecimal c
    | _ => false

/-- A name that waits for the argument after it. -/
inductive Head where
  /-- As written. -/
  | word (text : String)
  /-- A qualified name. -/
  | name (q : QName)
  deriving Repr, DecidableEq

namespace Head

/-- The argument that the name was given as, as messages show it. -/
def shown : Head → String
  | .word text => Text.quoted text
  | .name q => q.describe

/-- The name without its decoration, as messages show it. -/
def nameShown : Head → String
  | .word text => Text.quoted (argumentName text)
  | .name q => q.describe

/-- The name without its decoration; of a qualified name the local part. -/
def bare : Head → String
  | .word text => argumentName text
  | .name q => q.localName

/-- Whether the name is a beginning of the content marker. A marker that is no text cannot be asked
for its beginnings. -/
def marksContent (marker : Option String) : Head → Except Fault Bool
  | .name _ => .ok false
  | .word text =>
    if argumentName text = "" then .ok false
    else
      match marker with
      | some marker =>
        .ok ((Text.lower (argumentName text)).toList.isPrefixOf (Text.lower marker).toList)
      | none => .error .missingMember

end Head

/-- What a name and the argument after it mean. -/
inductive Reading where
  /-- The argument is content. -/
  | content
  /-- The name is a prefix and the argument its namespace. -/
  | declaration (n : Namespace)
  /-- The name had no value; the argument is a name itself. -/
  | flag
  /-- The name is an attribute and the argument its value. -/
  | attribute
  /-- There is no value. -/
  | nothing
  deriving Repr, DecidableEq

/-- What a name and the argument after it mean. -/
def Head.reading (marker : Option String) (head : Head) (second : Value) :
    Except Fault Reading := do
  if second.isContentBlock then
    if ← head.marksContent marker then return .content
  match second with
  | .ns n => return .declaration n
  | .null => return .nothing
  | _ => return if second.isFlag then .flag else .attribute

/-- The parts of an element that is being built. -/
structure Parts where
  /-- The attributes in order. -/
  attributes : List Attribute := []
  /-- The children in order. -/
  children : List Node := []
  /-- The name that waits for the argument after it. -/
  pending : Option Head := none

namespace Build

/-- The logger of this module's reports. -/
def elementLogger (env : BuildEnv) : Logger :=
  env.logger "element_builder"

/-- Warns in the log and in the list of reports. -/
def warn (env : BuildEnv) (logMessage : String) (logFields : List (String × Json))
    (message : String) (code : DiagnosticCode) (details : List (String × Json)) : Build Unit := do
  record (elementLogger env) .warning logMessage logFields
  report (Diagnostic.warning message "element_builder" code [] details env.correlationId)

/-- Drops an argument that cannot be used, or fails. -/
def malformed (env : BuildEnv) (tag : QName) (problem : ArgumentProblem) (value : String) :
    Build Unit :=
  if env.settings.strictArguments then fail (.malformed problem tag.clark value)
  else
    warn env problem.message [("tag", .str tag.clark)] problem.message .malformedArgument
      [("tag", .str tag.clark), ("value", .str value)]

/-- Binds a prefix. A second URI is refused, or reported and passed over. -/
def bindPrefix (env : BuildEnv) (tag : QName) (pfx uri : String) : Build Unit := do
  match ← read fun s => s.registry.add pfx uri with
  | .ok (_, registry) => change fun s => { s with registry }
  | .error (.collision pfx existing rebound) =>
    let fault := Fault.collision pfx existing rebound
    if env.settings.strictCollisions then fail fault
    else
      warn env "Namespace prefix rebound, keeping first binding" fault.details fault.message
        .namespaceCollision (("tag", .str tag.clark) :: fault.details)
  | .error fault => fail fault

/-- Whether there is an attribute with a name. -/
def hasAttribute (attributes : List Attribute) (name : QName) : Bool :=
  attributes.any fun a => a.name == name

/-- Adds an attribute; a second one with the same name is handled as the policy says. -/
def addAttribute (env : BuildEnv) (tag : QName) (parts : Parts) (name : QName) (value : String) :
    Build Parts :=
  if !hasAttribute parts.attributes name then
    pure { parts with attributes := parts.attributes ++ [⟨name, value⟩] }
  else
    match env.settings.duplicates with
    | some .reject => fail (.duplicateAttribute tag.clark name.display)
    | none => fail .missingMember
    | some policy => do
      warn env "Duplicate attribute"
        [("tag", .str tag.clark), ("attribute", .str name.display), ("policy", .str policy.label)]
        ("Duplicate attribute '" ++ name.display ++ "' on '" ++ tag.clark ++ "', kept the "
          ++ policy.word ++ " value")
        .duplicateAttribute [("tag", .str tag.clark), ("attribute", .str name.display)]
      pure (if policy = .last then
          { parts with
            attributes := parts.attributes.map fun a => if a.name = name then ⟨name, value⟩ else a }
        else parts)

/-- The prefix that a declaration binds: without `xmlns:` before it. -/
def declaredPrefix (name : String) : String :=
  let marker := "xmlns:".toList
  if marker.isPrefixOf name.toList then String.ofList (name.toList.drop marker.length) else name

/-- Declares a namespace. The name `xmlns` alone binds the default namespace for the elements below
and leaves no attribute. -/
def declare (env : BuildEnv) (tag : QName) (parts : Parts) (head : Head) (n : Namespace) :
    Build Parts := do
  if head.bare = "xmlns" then
    bindPrefix env tag "" n.uri
    pure parts
  else
    let pfx := declaredPrefix head.bare
    if pfx = "" || pfx.toList.contains ':' then
      malformed env tag (.invalidPrefix head.nameShown) head.nameShown
      pure parts
    else
      let parts ← addAttribute env tag parts ⟨pfx, some declarationUri⟩ n.uri
      bindPrefix env tag pfx n.uri
      pure parts

/-- The qualified name of an attribute. An unbound prefix is reported and kept; an empty name cannot
be used. -/
def attributeName (env : BuildEnv) (tag : QName) : Head → Build (Option QName)
  | .name q => pure (some q)
  | .word text => do
    let name := argumentName text
    if name = "" then
      malformed env tag .emptyName (Text.quoted name)
      pure none
    else
      let (q, resolved) ← lift (← read fun s => s.registry.resolveAttribute name)
      if !resolved then
        warn env "Unresolved attribute prefix, keeping unqualified name"
          [("attribute", .str name), ("tag", .str tag.clark)]
          ("Prefix of attribute '" ++ name ++ "' is not bound to a namespace") .unresolvedPrefix
          [("tag", .str tag.clark), ("attribute", .str name)]
      pure (some q)

mutual

/-- The text that a value makes as an attribute: content is run first, rows are joined. -/
def attributeText (E : Engine) (env : BuildEnv) : Value → Build String
  | .list vs => attributeTexts E env vs
  | .tuple vs => attributeTexts E env vs
  | .element e => pure e.text
  | .text s => pure s
  | .null => pure ""
  | v =>
    if v.isContentBlock then do E.texts (← E.run v [] env.rootScope)
    else pure v.plain

/-- The texts of a row of values, joined. -/
def attributeTexts (E : Engine) (env : BuildEnv) : List Value → Build String
  | [] => pure ""
  | v :: vs => do
    let first ← attributeText E env v
    let rest ← attributeTexts E env vs
    pure (first ++ rest)

end

/-- The child that a value makes, if any. -/
def child? (env : BuildEnv) (tag : QName) (v : Value) : Build (Option Node) :=
  match v with
  | .null => pure none
  | .element e => pure (some (.ofElement e))
  | .text s => pure (some (.text s))
  | .str _ | .int _ | .float _ | .bool _ | .ns _ => pure (some (.text v.plain))
  | .xml (.element name declarations attributes content) _ => do
    let e ← lift (Xml.toElement [] (.element name declarations attributes content))
    pure (some (.ofElement e))
  | .xml t _ => do
    malformed env tag .notElementContent t.markup
    pure none
  | v => do
    malformed env tag (.notContent v.typeName) v.shown
    pure none

/-- Adds the children that a row of values makes. -/
def addChildren (env : BuildEnv) (tag : QName) (parts : Parts) : List Value → Build Parts
  | [] => pure parts
  | v :: vs => do
    let child ← child? env tag v
    addChildren env tag { parts with children := parts.children ++ child.toList } vs

/-- Runs content and adds what it yields. -/
def addContent (E : Engine) (env : BuildEnv) (tag : QName) (parts : Parts) (block : Value) :
    Build Parts := do
  addChildren env tag parts (← E.run block [] env.rootScope)

/-- Takes an argument while no name is waiting. -/
def takeFirst (E : Engine) (env : BuildEnv) (tag : QName) (parts : Parts) (v : Value) :
    Build Parts :=
  match v with
  | .null => pure parts
  | .str s => pure { parts with pending := some (.word s) }
  | .name q => pure { parts with pending := some (.name q) }
  | .element _ | .text _ | .xml .. => addChildren env tag parts [v]
  | v =>
    if v.isContentBlock then addContent E env tag parts v
    else do
      malformed env tag (.notAName v.shown) v.shown
      pure parts

/-- Takes an argument while a name is waiting. -/
def takeSecond (E : Engine) (env : BuildEnv) (tag : QName) (parts : Parts) (head : Head)
    (v : Value) : Build Parts := do
  match ← lift (head.reading env.settings.contentMarker v) with
  | .content => addContent E env tag parts v
  | .declaration n => declare env tag parts head n
  | .flag => takeFirst E env tag parts v
  | .attribute =>
    let name ← attributeName env tag head
    let text ← attributeText E env v
    match name with
    | some name => addAttribute env tag parts name text
    | none => pure parts
  | .nothing =>
    malformed env tag (.noValue head.shown) head.shown
    pure parts

/-- Takes an argument that is not a stream. -/
def take (E : Engine) (env : BuildEnv) (tag : QName) (parts : Parts) (v : Value) : Build Parts :=
  match parts.pending with
  | none => takeFirst E env tag parts v
  | some head => takeSecond E env tag { parts with pending := none } head v

/-- Takes an argument; a stream stands for the arguments in those of its chunks that nobody took
before. At most `limit` chunks are taken one within another or one after another. -/
def feed (E : Engine) (env : BuildEnv) (tag : QName) : Nat → Parts → Value → Build Parts
  | 0, _, .stream _ => fail .exhausted
  | limit + 1, parts, .stream id => do
    match ← nextChunk id with
    | none => pure parts
    | some chunk =>
      let parts ← chunk.foldlM (feed E env tag limit) parts
      feed E env tag limit parts (.stream id)
  | _, parts, v => take E env tag parts v

/-- Takes a row of arguments. No stream hands over more chunks than are left now. -/
def feedAll (E : Engine) (env : BuildEnv) (tag : QName) (vs : List Value) (parts : Parts) :
    Build Parts := do
  let left ← read fun s => s.streams.count
  vs.foldlM (feed E env tag (left + 1)) parts

/-- What is done when no argument is left: a name that still waits has no value. -/
def finish (env : BuildEnv) (tag : QName) (parts : Parts) : Build Parts :=
  match parts.pending with
  | none => pure parts
  | some head => do
    malformed env tag (.noValue head.shown) head.shown
    pure { parts with pending := none }

end Build

end TagScript
