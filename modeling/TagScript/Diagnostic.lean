import TagScript.Fault
import TagScript.Fields

/-!
# Diagnostics

Problems that a build tolerates are reported in a list, each with its severity, a code and the place
or the names it is about.
-/

namespace TagScript

/-- How serious a report is. -/
inductive Severity where
  /-- Of use when looking for errors. -/
  | debug
  /-- Of interest. -/
  | info
  /-- A tolerated problem. -/
  | warning
  /-- A problem that ended part of a build. -/
  | error
  /-- A problem that ended a build. -/
  | critical
  deriving Repr, DecidableEq, Inhabited

namespace Severity

/-- All severities, from the least on. -/
def all : List Severity := [.debug, .info, .warning, .error, .critical]

/-- The name of a severity. -/
def label : Severity → String
  | .debug => "DEBUG"
  | .info => "INFO"
  | .warning => "WARNING"
  | .error => "ERROR"
  | .critical => "CRITICAL"

/-- The severity with this name. -/
def ofLabel? (name : String) : Option Severity :=
  all.find? fun s => s.label == name

/-- The severity with this name, which must exist. -/
def read (name : String) : Except Fault Severity :=
  (ofLabel? name).elim (.error (.missingKey name)) .ok

theorem ofLabel?_label (s : Severity) : ofLabel? s.label = some s := by
  cases s <;> decide

end Severity

/-- What a report is about. -/
inductive DiagnosticCode where
  /-- A name whose prefix is unbound. -/
  | unresolvedPrefix
  /-- A prefix bound to two URIs. -/
  | namespaceCollision
  /-- An argument of an element that cannot be used. -/
  | malformedArgument
  /-- An attribute given twice. -/
  | duplicateAttribute
  /-- A variable nobody defined. -/
  | undefinedVariable
  /-- Anything else. -/
  | general
  deriving Repr, DecidableEq, Inhabited

namespace DiagnosticCode

/-- All codes. -/
def all : List DiagnosticCode := [.unresolvedPrefix, .namespaceCollision, .malformedArgument,
  .duplicateAttribute, .undefinedVariable, .general]

/-- The name of a code. -/
def label : DiagnosticCode → String
  | .unresolvedPrefix => "UNRESOLVED_PREFIX"
  | .namespaceCollision => "NAMESPACE_COLLISION"
  | .malformedArgument => "MALFORMED_ARGUMENT"
  | .duplicateAttribute => "DUPLICATE_ATTRIBUTE"
  | .undefinedVariable => "UNDEFINED_VARIABLE"
  | .general => "GENERAL"

/-- The code with this name. -/
def ofLabel? (name : String) : Option DiagnosticCode :=
  all.find? fun c => c.label == name

/-- The code with this name, which must exist. -/
def read (name : String) : Except Fault DiagnosticCode :=
  (ofLabel? name).elim (.error (.missingKey name)) .ok

theorem ofLabel?_label (c : DiagnosticCode) : ofLabel? c.label = some c := by
  cases c <;> decide

end DiagnosticCode

/-- One report. -/
structure Diagnostic where
  /-- How serious it is. -/
  severity : Severity
  /-- What it is about. -/
  code : DiagnosticCode
  /-- What it says. -/
  message : String
  /-- The part of the program that reports it. -/
  component : String
  /-- The place it is about; no fields if there is none. -/
  position : List (String × Json)
  /-- The names it is about. -/
  details : List (String × Json)
  /-- The build it belongs to. -/
  correlationId : Option String

namespace Diagnostic

/-- A report, which needs a message and a component. -/
def of (severity : Severity) (message component : String) (code : DiagnosticCode)
    (position details : List (String × Json)) (correlationId : Option String) :
    Except Fault Diagnostic :=
  if message = "" then .error (.invalid .emptyMessage)
  else if component = "" then .error (.invalid .emptyComponent)
  else .ok ⟨severity, code, message, component, position, details, correlationId⟩

/-- A warning. -/
def warning (message component : String) (code : DiagnosticCode)
    (position details : List (String × Json)) (correlationId : Option String) : Diagnostic :=
  ⟨.warning, code, message, component, position, details, correlationId⟩

/-- A report as data; the place and the names only if there are any. -/
def toJson (d : Diagnostic) : Json :=
  let optional (key : String) (fields : List (String × Json)) : List (String × Json) :=
    if fields.isEmpty then [] else [(key, .obj fields)]
  .obj ([("severity", .str d.severity.label), ("code", .str d.code.label),
    ("message", .str d.message), ("component", .str d.component)]
    ++ optional "position" d.position ++ optional "details" d.details)

/-- The reports of a severity. -/
def bySeverity (ds : List Diagnostic) (severity : Severity) : List Diagnostic :=
  ds.filter fun d => d.severity == severity

/-- The reports with a code. -/
def byCode (ds : List Diagnostic) (code : DiagnosticCode) : List Diagnostic :=
  ds.filter fun d => d.code == code

/-- Whether some report is more serious than a warning. -/
def hasErrors (ds : List Diagnostic) : Bool :=
  ds.any fun d => d.severity == .error || d.severity == .critical

/-- The report of an element word whose prefix is unbound. -/
def unresolvedWord (text : String) (pos : Position) (correlationId : Option String) : Diagnostic :=
  warning ("Prefix of '" ++ text ++ "' is not bound to a namespace") "source_rewriter"
    .unresolvedPrefix pos.fields [("name", .str text)] correlationId

end Diagnostic

end TagScript
