import TagScript.Config.Data
import TagScript.Json.Same

/-!
# Changing configurations

Settings are changed by name, either one by one (`builder__max_depth`) or a component at a time. The
result is checked like any other configuration. `assign` sets a setting without a check.

What a setting is given is data, or one of the policies: `override` takes data only, `overrideWith`
takes both.
-/

namespace TagScript

/-- The compiler settings with one of them changed, if it exists. -/
def CompilerConfig.set? (c : CompilerConfig) (field : String) (v : Json) : Option CompilerConfig :=
  match field with
  | "element_ctor_name" => some { c with elementConstructor := v }
  | "enable_template_cache" => some { c with keepsTemplates := v }
  | "cache_size_limit" => some { c with cacheLimit := v }
  | _ => none

/-- The settings for running blocks with one of them changed, if it exists. -/
def RuntimeConfig.set? (c : RuntimeConfig) (field : String) (v : Json) : Option RuntimeConfig :=
  match field with
  | "strict_variables" => some { c with strictVariables := v }
  | "case_insensitive_commands" => some { c with foldsCommandCase := v }
  | "register_builtins" => some { c with hasBuiltins := v }
  | _ => none

/-- The settings for building elements with one of them changed, if it exists. Data given for a
policy are not looked up by name. -/
def BuilderConfig.set? (c : BuilderConfig) (field : String) (v : Json) : Option BuilderConfig :=
  match field with
  | "namespace_collision_policy" => some { c with collisions := .other v }
  | "duplicate_attribute_policy" => some { c with duplicates := .other v }
  | "strict_arguments" => some { c with strictArguments := v }
  | "max_depth" => some { c with maxDepth := v }
  | "content_marker" => some { c with contentMarker := v }
  | _ => none

/-- The declaration settings with one of them changed, if it exists. -/
def DocumentConfig.set? (c : DocumentConfig) (field : String) (v : Json) : Option DocumentConfig :=
  match field with
  | "version" => some { c with version := v }
  | "encoding" => some { c with encoding := v }
  | "standalone" => some { c with standalone := v }
  | _ => none

/-- What a setting is given. -/
inductive Setting where
  /-- Data. -/
  | data (v : Json)
  /-- What to do when a prefix is bound to a second URI. -/
  | collisions (p : CollisionPolicy)
  /-- What to do when an element gets an attribute twice. -/
  | duplicates (p : DuplicatePolicy)

/-- What a setting is given, as data. -/
def Setting.toJson : Setting → Json
  | .data v => v
  | .collisions p => .str p.label
  | .duplicates p => .str p.label

/-- Changes a component that has no policies. -/
def giveData? {α : Type} (set? : α → String → Json → Option α) (c : α) (field : String) :
    Setting → Option α
  | .data v => set? c field v
  | _ => none

/-- Changes the settings for building elements; a policy is given for its own setting. -/
def BuilderConfig.give? (c : BuilderConfig) (field : String) : Setting → Option BuilderConfig
  | .data v => c.set? field v
  | .collisions p => some { c with collisions := .known p }
  | .duplicates p => some { c with duplicates := .known p }

/-- The name that a component has for itself; no setting may be called like that. -/
def ownName : String := "self"

/-- Changes settings of a component; the first one that does not exist is refused. -/
def setAll {α β : Type} (component : String) (set? : α → String → β → Option α) (c : α) :
    List (String × β) → Except Fault α
  | [] => .ok c
  | (field, v) :: rest =>
    match set? c field v with
    | some c => setAll component set? c rest
    | none =>
      if field = ownName then .error (.wrongKind (.repeatedField component field))
      else .error (.wrongKind (.unknownField component field))

/-- A change of a configuration. -/
inductive Change where
  /-- A setting, or a component, is given data by its name. -/
  | data (name : String) (v : Json)
  /-- What to do when a prefix is bound to a second URI. -/
  | collisions (p : CollisionPolicy)
  /-- What to do when an element gets an attribute twice. -/
  | duplicates (p : DuplicatePolicy)

namespace Change

/-- The name of what is changed. -/
def name : Change → String
  | .data name _ => name
  | .collisions _ => "builder__namespace_collision_policy"
  | .duplicates _ => "builder__duplicate_attribute_policy"

/-- What is given. -/
def setting : Change → Setting
  | .data _ v => .data v
  | .collisions p => .collisions p
  | .duplicates p => .duplicates p

end Change

/-- What is given for a component, or for a setting outside of the components. -/
inductive Given where
  /-- Settings by their names. -/
  | settings (fields : List (String × Setting))
  /-- Data that hold no settings. -/
  | value (v : Json)

namespace Given

/-- The settings of an object, or other data. -/
def ofJson : Json → Given
  | .obj fields => .settings (fields.map fun f => (f.1, .data f.2))
  | v => .value v

/-- What is given, as data. -/
def toJson : Given → Json
  | .settings fields => .obj (fields.map fun f => (f.1, f.2.toJson))
  | .value v => v

end Given

namespace Config

/-- The components of a configuration. -/
def components : List String := ["compiler", "runtime", "builder", "document"]

/-- Splits the name of a setting at its first double underscore. -/
def splitName (before : List Char) : List Char → Option (String × String)
  | '_' :: '_' :: rest => some (String.ofList before.reverse, String.ofList rest)
  | c :: rest => splitName (c :: before) rest
  | [] => none

/-- Groups changes by component. A change of one setting is added to what is there for its
component. -/
def group (grouped : List (String × Given)) :
    List Change → Except Fault (List (String × Given))
  | [] => .ok grouped
  | change :: rest =>
    match splitName [] change.name.toList with
    | none => group (Fields.insert grouped change.name (.ofJson change.setting.toJson)) rest
    | some (component, field) =>
      if !components.contains component then
        .error (.config (.unknownComponent component change.name))
      else
        match (Fields.get? grouped component).getD (.settings []) with
        | .settings fields =>
          let fields := Fields.insert fields field change.setting
          group (Fields.insert grouped component (.settings fields)) rest
        | .value _ => .error (.wrongKind .unsupported)

/-- A refused value or an unknown setting as a fault of the component. -/
def inComponent (component : String) : Fault → Fault
  | .invalid problem => .config (.component problem.message (some component))
  | .wrongKind problem => .config (.component problem.message (some component))
  | f => f

/-- Applies the changes of one component or of a setting outside of the components. What holds no
settings changes no component; `checkParts` refuses it. -/
def change (c : Config) (key : String) (given : Given) : Except Fault Config :=
  let update {α : Type} (named : String) (give? : α → String → Setting → Option α)
      (check : α → Except Fault Unit) (part : α) (put : α → Config) : Except Fault Config :=
    match given with
    | .settings fields =>
      ((setAll named give? part fields).bind fun part =>
        (check part).map fun _ => put part).mapError (inComponent key)
    | .value _ => .ok c
  match key with
  | "compiler" =>
    update "CompilerConfig" (giveData? CompilerConfig.set?) CompilerConfig.check c.compiler
      fun part => { c with compiler := part }
  | "runtime" =>
    update "RuntimeConfig" (giveData? RuntimeConfig.set?) (fun _ => .ok ()) c.runtime
      fun part => { c with runtime := part }
  | "builder" =>
    update "BuilderConfig" BuilderConfig.give? BuilderConfig.check c.builder
      fun part => { c with builder := part }
  | "document" =>
    update "DocumentConfig" (giveData? DocumentConfig.set?) DocumentConfig.check c.document
      fun part => { c with document := part }
  | "name" => .ok { c with name := given.toJson }
  | "description" => .ok { c with description := given.toJson }
  | _ => .ok c

/-- Checks the components in order; those in `replaced` were replaced by something that cannot be
checked. -/
def checkParts (c : Config) (replaced : List String) : Except Fault Unit := do
  let part (component : String) (check : Except Fault Unit) : Except Fault Unit :=
    if replaced.contains component then .error .missingMember
    else check.mapError (Fault.inConfig none)
  part "compiler" c.compiler.check
  part "runtime" (.ok ())
  part "builder" c.builder.check
  part "document" c.document.check

/-- The configuration with changes. Every component is changed before an unknown setting outside of
the components is refused. -/
def overrideWith (c : Config) (changes : List Change) : Except Fault Config := do
  if changes.any fun change => change.name = ownName then
    .error (.wrongKind (.repeatedField "override" ownName))
  else
    let grouped ← group [] changes
    let c ← grouped.foldlM (fun c p => change c p.1 p.2) c
    match grouped.find? fun p => !(components ++ ["name", "description"]).contains p.1 with
    | some p => .error (.wrongKind (.unknownField "XmlBlockConfig" p.1))
    | none =>
      let replaced := grouped.filter fun p => match p.2 with
        | .settings _ => false
        | .value _ => components.contains p.1
      checkParts c (replaced.map (·.1))
      c.checked

/-- The configuration with changes that are given as data. -/
def override (c : Config) (changes : List (String × Json)) : Except Fault Config :=
  c.overrideWith (changes.map fun p => .data p.1 p.2)

/-- Sets a setting of a component without a check; what does not exist is passed over. -/
def assign (c : Config) (component field : String) (v : Json) : Except Fault Config :=
  match component with
  | "compiler" => .ok { c with compiler := (c.compiler.set? field v).getD c.compiler }
  | "runtime" => .ok { c with runtime := (c.runtime.set? field v).getD c.runtime }
  | "builder" => .ok { c with builder := (c.builder.set? field v).getD c.builder }
  | "document" => .ok { c with document := (c.document.set? field v).getD c.document }
  | _ => .error .missingMember

end Config

/-! ## Equality -/

/-- Whether two choices are equal; a choice is never equal to something else. -/
def Choice.same {α : Type} [DecidableEq α] : Choice α → Choice α → Bool
  | .known a, .known b => a == b
  | .other v, .other w => v.same w
  | _, _ => false

/-- Whether two configurations have equal settings. -/
def Config.same (c d : Config) : Bool :=
  Json.sameFieldValues c.compiler.fields d.compiler.fields
    && Json.sameFieldValues c.runtime.fields d.runtime.fields
    && c.builder.collisions.same d.builder.collisions
    && c.builder.duplicates.same d.builder.duplicates
    && Json.sameFieldValues (c.builder.fields.drop 2) (d.builder.fields.drop 2)
    && Json.sameFieldValues c.document.fields d.document.fields
    && c.name.same d.name && c.description.same d.description

end TagScript
