import TagScript.Config.EncodingName
import TagScript.Json.Basic
import TagScript.Text.Class
import TagScript.Value.Text

/-!
# Configurations

How blocks are made ready and run, how elements are built and what documents declare. Settings are
kept as they were given, because a configuration read from data may hold anything; `Config.check`
says whether it may be used.
-/

namespace TagScript

/-- What to do when a prefix is bound to a second URI. -/
inductive CollisionPolicy where
  /-- Report it and keep the first binding. -/
  | warn
  /-- Fail. -/
  | strict
  deriving Repr, DecidableEq, Inhabited

namespace CollisionPolicy

/-- All policies. -/
def all : List CollisionPolicy := [.warn, .strict]

/-- The name of a policy. -/
def label : CollisionPolicy → String
  | .warn => "WARN"
  | .strict => "STRICT"

end CollisionPolicy

/-- What to do when an element gets an attribute twice. -/
inductive DuplicatePolicy where
  /-- Fail. -/
  | reject
  /-- Keep the first value and report the second. -/
  | first
  /-- Keep the last value and report the replacement. -/
  | last
  deriving Repr, DecidableEq, Inhabited

namespace DuplicatePolicy

/-- All policies. -/
def all : List DuplicatePolicy := [.reject, .first, .last]

/-- The name of a policy. -/
def label : DuplicatePolicy → String
  | .reject => "REJECT"
  | .first => "FIRST"
  | .last => "LAST"

/-- The name of a policy in the middle of a sentence. -/
def word : DuplicatePolicy → String
  | .reject => "reject"
  | .first => "first"
  | .last => "last"

end DuplicatePolicy

/-- A setting that should be one of a few choices. -/
inductive Choice (α : Type) where
  /-- One of the choices. -/
  | known (a : α)
  /-- Something else. -/
  | other (v : Json)

/-- A choice as data. -/
def Choice.toJson {α : Type} (label : α → String) : Choice α → Json
  | .known a => .str (label a)
  | .other v => v

/-- How blocks are made ready. -/
structure CompilerConfig where
  /-- The constructor command. -/
  elementConstructor : Json := .str "New-XElement"
  /-- Whether templates are kept. -/
  keepsTemplates : Json := .bool true
  /-- How many templates are kept. -/
  cacheLimit : Json := .int 256

/-- How blocks are run. -/
structure RuntimeConfig where
  /-- Whether reading a variable that nobody defined fails. -/
  strictVariables : Json := .bool false
  /-- Whether command names are the same in any case. -/
  foldsCommandCase : Json := .bool true
  /-- Whether the built-in commands are there. -/
  hasBuiltins : Json := .bool true

/-- How elements are built. -/
structure BuilderConfig where
  /-- What to do when a prefix is bound to a second URI. -/
  collisions : Choice CollisionPolicy := .known .warn
  /-- What to do when an element gets an attribute twice. -/
  duplicates : Choice DuplicatePolicy := .known .reject
  /-- Whether an argument that cannot be used fails. -/
  strictArguments : Json := .bool false
  /-- How deep elements may be nested. -/
  maxDepth : Json := .int 64
  /-- The word whose beginnings mark content. -/
  contentMarker : Json := .str "CONTENT"

/-- What documents declare. -/
structure DocumentConfig where
  /-- The version. -/
  version : Json := .str "1.0"
  /-- The encoding. -/
  encoding : Json := .str "utf-8"
  /-- The standalone flag. -/
  standalone : Json := .str "yes"

/-- A configuration. -/
structure Config where
  /-- How blocks are made ready. -/
  compiler : CompilerConfig := {}
  /-- How blocks are run. -/
  runtime : RuntimeConfig := {}
  /-- How elements are built. -/
  builder : BuilderConfig := {}
  /-- What documents declare. -/
  document : DocumentConfig := {}
  /-- A name for the configuration. -/
  name : Json := .null
  /-- What the configuration is for. -/
  description : Json := .null

/-! ## Checks -/

namespace Json

/-- The name of the kind of a value. -/
def typeName (v : Json) : String :=
  (Value.ofJson v).typeName

/-- Whether a number is below zero, or below or at zero; `sign` is the comparison in a message. -/
def compareZero (sign : String) (v : Json) (ints : Int → Bool) (floats : Float → Bool) :
    Except Fault Bool :=
  match v with
  | .int i => .ok (ints i)
  | .bool b => .ok (ints (if b then 1 else 0))
  | .float x => .ok (floats x)
  | _ => .error (.wrongKind (.noOrder sign v.typeName "int"))

/-- Whether a text, or a text in a list, is a single blank row; what is no text has no blanks to
look for. -/
def holdsBlank : Json → Except Fault Bool
  | .str s => .ok (s.toList.any Text.isBlank)
  | .arr items => anyBlank items
  | .obj fields => .ok (fields.any fun f => isBlankText f.1)
  | v => .error (.wrongKind (.notIterable v.typeName))
where
  /-- Whether a text consists of blanks. -/
  isBlankText (s : String) : Bool := !s.isEmpty && s.toList.all Text.isBlank
  /-- Whether some text of a list consists of blanks. -/
  anyBlank : List Json → Except Fault Bool
    | [] => .ok false
    | .str s :: rest => if isBlankText s then .ok true else anyBlank rest
    | _ :: _ => .error .missingMember

end Json

/-- The constructor name is a word, and the cache size not negative. -/
def CompilerConfig.check (c : CompilerConfig) : Except Fault Unit := do
  if !c.elementConstructor.truthy then .error (.invalid .constructorName)
  else
    if ← c.elementConstructor.holdsBlank then .error (.invalid .constructorName)
    if ← c.cacheLimit.compareZero "<" (· < 0) (· < 0.0) then .error (.invalid .cacheSize)

/-- The greatest depth is positive, and the content marker a word of letters. -/
def BuilderConfig.check (c : BuilderConfig) : Except Fault Unit := do
  if ← c.maxDepth.compareZero "<=" (· ≤ 0) (· ≤ 0.0) then .error (.invalid .maxDepth)
  if !c.contentMarker.truthy then .error (.invalid .contentMarker)
  else
    match c.contentMarker with
    | .str s => if s.toList.all Text.isLetter then .ok () else .error (.invalid .contentMarker)
    | _ => .error .missingMember

/-- The version, the standalone flag and the encoding are known. -/
def DocumentConfig.check (c : DocumentConfig) : Except Fault Unit := do
  let _ ← XmlVersion.read c.version
  let _ ← readStandaloneWord c.standalone
  match c.encoding with
  | .str s =>
    if s.toList.contains '\x00' then .error (.invalid .nullCharacter)
    else if isEncodingName s then .ok ()
    else .error (.invalid (.encoding s))
  | .null => .error (.wrongKind (.notEncodingName "None"))
  | v => .error (.wrongKind (.notEncodingName v.typeName))

/-- A refused value as a fault of the configuration. -/
def Fault.inConfig (component : Option String) : Fault → Fault
  | .invalid problem => .config (.component problem.message component)
  | f => f

/-- Whether the configuration may be used: each component passes its checks, and the constructor
command exists. -/
def Config.check (c : Config) : Except Fault Unit := do
  (c.compiler.check >>= fun _ => c.builder.check >>= fun _ => c.document.check).mapError
    (Fault.inConfig none)
  match c.compiler.elementConstructor with
  | .str "New-XElement" =>
    if c.runtime.hasBuiltins.truthy then .ok () else .error (.config .missingConstructor)
  | _ => .ok ()

namespace Config

/-- A configuration that passes its checks. -/
def checked (c : Config) : Except Fault Config :=
  c.check.map fun _ => c

/-- The default configuration. -/
def default : Config := {}

/-- Reports what can be tolerated, and keeps building. -/
def lenient : Config where
  builder := { duplicates := .known .last }
  name := .str "lenient"
  description := .str "Report recoverable problems as diagnostics and keep building"

/-- Fails on the first questionable construct. -/
def strict : Config where
  runtime := { strictVariables := .bool true }
  builder := { collisions := .known .strict, strictArguments := .bool true }
  name := .str "strict"
  description := .str
    "Raise on namespace collisions, dropped arguments and undefined variables"

end Config

end TagScript
