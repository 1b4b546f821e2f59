import TagScript.Config
import TagScript.Json.Reader
import TagScript.Json.Writer

/-!
# Configurations as data

A configuration is written as an object of objects and read back from one. What an object leaves out
keeps its default, and keys nobody knows are passed over.
-/

namespace TagScript

/-! ## Writing -/

/-- The compiler settings as fields. -/
def CompilerConfig.fields (c : CompilerConfig) : List (String × Json) := [
  ("element_ctor_name", c.elementConstructor), ("enable_template_cache", c.keepsTemplates),
  ("cache_size_limit", c.cacheLimit)]

/-- The settings for running blocks as fields. -/
def RuntimeConfig.fields (c : RuntimeConfig) : List (String × Json) := [
  ("strict_variables", c.strictVariables), ("case_insensitive_commands", c.foldsCommandCase),
  ("register_builtins", c.hasBuiltins)]

/-- The settings for building elements as fields. -/
def BuilderConfig.fields (c : BuilderConfig) : List (String × Json) := [
  ("namespace_collision_policy", c.collisions.toJson CollisionPolicy.label),
  ("duplicate_attribute_policy", c.duplicates.toJson DuplicatePolicy.label),
  ("strict_arguments", c.strictArguments), ("max_depth", c.maxDepth),
  ("content_marker", c.contentMarker)]

/-- The declaration settings as fields. -/
def DocumentConfig.fields (c : DocumentConfig) : List (String × Json) := [
  ("version", c.version), ("encoding", c.encoding), ("standalone", c.standalone)]

namespace Config

/-- A configuration as data. -/
def toJson (c : Config) : Json :=
  .obj [("compiler", .obj c.compiler.fields), ("runtime", .obj c.runtime.fields),
    ("builder", .obj c.builder.fields), ("document", .obj c.document.fields), ("name", c.name),
    ("description", c.description)]

/-- A configuration as text, unless one of its numbers has too many digits. -/
def write (c : Config) (indent : Option Nat) : Except Fault String :=
  if c.toJson.isWritable then .ok (c.toJson.write indent)
  else .error (.invalid .tooManyDigitsToWrite)

end Config

/-! ## Reading -/

/-- The field of an object, if it has one. What is no object has no fields, but only an object, a
list or a text can be asked for them. -/
def Json.askField (data : Json) (key : String) : Except Fault (Option Json) :=
  match data with
  | .obj fields => .ok (Fields.get? fields key)
  | .arr items =>
    let held := items.any fun v => match v with
      | .str s => s == key
      | _ => false
    if held then .error (.wrongKind .unsupported) else .ok none
  | .str s =>
    if (s.splitOn key).length > 1 then .error (.wrongKind .unsupported) else .ok none
  | v => .error (.wrongKind (.notIterable v.typeName))

/-- The field of an object, or a default. -/
def Json.askFieldOr (data : Json) (key : String) (default : Json) : Except Fault Json :=
  (data.askField key).map fun v => v.getD default

/-- A field that should be one of a few choices: a text must name one. -/
def Json.askChoice {α : Type} (data : Json) (key : String) (all : List α) (label : α → String)
    (default : Choice α) : Except Fault (Choice α) := do
  match ← data.askField key with
  | none => .ok default
  | some (.str s) =>
    match all.find? fun a => label a == s with
    | some a => .ok (.known a)
    | none => .error (.config (.unknownPolicy (Text.quoted s) key (all.map label)))
  | some v => .ok (.other v)

namespace CompilerConfig

/-- Reads the compiler settings. -/
def read (data : Json) : Except Fault CompilerConfig := do
  let d : CompilerConfig := {}
  let c : CompilerConfig := {
    elementConstructor := ← data.askFieldOr "element_ctor_name" d.elementConstructor
    keepsTemplates := ← data.askFieldOr "enable_template_cache" d.keepsTemplates
    cacheLimit := ← data.askFieldOr "cache_size_limit" d.cacheLimit }
  (c.check.mapError (Fault.inConfig none)).map fun _ => c

end CompilerConfig

namespace RuntimeConfig

/-- Reads the settings for running blocks. -/
def read (data : Json) : Except Fault RuntimeConfig := do
  let d : RuntimeConfig := {}
  .ok {
    strictVariables := ← data.askFieldOr "strict_variables" d.strictVariables
    foldsCommandCase := ← data.askFieldOr "case_insensitive_commands" d.foldsCommandCase
    hasBuiltins := ← data.askFieldOr "register_builtins" d.hasBuiltins }

end RuntimeConfig

namespace BuilderConfig

/-- Reads the settings for building elements. -/
def read (data : Json) : Except Fault BuilderConfig := do
  let d : BuilderConfig := {}
  let c : BuilderConfig := {
    collisions := ← data.askChoice "namespace_collision_policy" CollisionPolicy.all
      CollisionPolicy.label d.collisions
    duplicates := ← data.askChoice "duplicate_attribute_policy" DuplicatePolicy.all
      DuplicatePolicy.label d.duplicates
    strictArguments := ← data.askFieldOr "strict_arguments" d.strictArguments
    maxDepth := ← data.askFieldOr "max_depth" d.maxDepth
    contentMarker := ← data.askFieldOr "content_marker" d.contentMarker }
  (c.check.mapError (Fault.inConfig none)).map fun _ => c

end BuilderConfig

namespace DocumentConfig

/-- Reads the declaration settings. -/
def read (data : Json) : Except Fault DocumentConfig := do
  let d : DocumentConfig := {}
  let c : DocumentConfig := {
    version := ← data.askFieldOr "version" d.version
    encoding := ← data.askFieldOr "encoding" d.encoding
    standalone := ← data.askFieldOr "standalone" d.standalone }
  (c.check.mapError (Fault.inConfig none)).map fun _ => c

end DocumentConfig

namespace Config

/-- Reads a component, or takes its default. -/
def readComponent {α : Type} (data : Json) (key : String) (default : α)
    (read : Json → Except Fault α) : Except Fault α := do
  match ← data.askField key with
  | none => .ok default
  | some v => read v

/-- Reads a configuration from data. -/
def read (data : Json) : Except Fault Config := do
  let c : Config := {
    compiler := ← readComponent data "compiler" {} CompilerConfig.read
    runtime := ← readComponent data "runtime" {} RuntimeConfig.read
    builder := ← readComponent data "builder" {} BuilderConfig.read
    document := ← readComponent data "document" {} DocumentConfig.read
    name := ← data.askFieldOr "name" .null
    description := ← data.askFieldOr "description" .null }
  c.checked

/-- Reads a configuration from text. -/
def readText (s : String) : Except Fault Config :=
  match Json.read s with
  | .ok data => read data
  | .error .malformed => .error (.invalid .notJson)
  | .error (.tooLong digits) => .error (.invalid (.tooManyDigits digits))

end Config

end TagScript
