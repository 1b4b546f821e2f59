import TagScript.Diagnostic

/-!
# The log

A log keeps the records at or above its level. A logger adds to each record which part of the
program and which build it comes from, and fields that were bound to it.
-/

namespace TagScript

/-- The levels of a log are the severities of reports. -/
abbrev LogLevel := Severity

namespace LogLevel

/-- The rank of a level. -/
def rank : LogLevel → Nat
  | .debug => 0
  | .info => 1
  | .warning => 2
  | .error => 3
  | .critical => 4

/-- The level with this name. -/
def read (name : String) : Except Fault LogLevel :=
  match Severity.ofLabel? name with
  | some level => .ok level
  | none => .error (.invalid .logLevel)

end LogLevel

/-- One record of a log. -/
structure LogRecord where
  /-- The level. -/
  level : LogLevel
  /-- The message. -/
  message : String
  /-- The fields passed with it. -/
  fields : List (String × Json)
  /-- Whether the fault that is being handled is recorded with it. -/
  hasTrace : Bool

/-- The records at or above a level, in order. -/
structure Log where
  /-- The least level that is kept. -/
  threshold : LogLevel
  /-- The records. -/
  records : Array LogRecord

namespace Log

/-- A log without records. -/
def empty (threshold : LogLevel) : Log := ⟨threshold, #[]⟩

/-- Whether records of a level are kept. -/
def keeps (log : Log) (level : LogLevel) : Bool :=
  log.threshold.rank ≤ level.rank

/-- Adds a record if its level is kept. -/
def add (log : Log) (record : LogRecord) : Log :=
  if log.keeps record.level then { log with records := log.records.push record } else log

end Log

/-- What is added to the records written through it. -/
structure Logger where
  /-- The part of the program. -/
  component : String
  /-- The build. -/
  correlationId : Option String
  /-- Bound fields. -/
  context : List (String × Json) := []

namespace Logger

/-- The logger of a dotted name: without a component of its own it takes the last part. -/
def ofName (name : String) (correlationId component : Option String) : Logger :=
  let own := (component.filter (· ≠ "")).getD
    (String.ofList (name.toList.reverse.takeWhile (· ≠ '.')).reverse)
  ⟨own, correlationId, []⟩

/-- The same logger with more bound fields. -/
def bind (logger : Logger) (fields : List (String × Json)) : Logger :=
  { logger with context := Fields.update logger.context fields }

/-- The fields of a record: own ones, bound ones, and those of the call; later ones win. -/
def fields (logger : Logger) (extra : List (String × Json)) : List (String × Json) :=
  Fields.update (Fields.update
    [("component", .str logger.component), ("correlation_id", Json.ofOption logger.correlationId)]
    logger.context) extra

/-- A record as the logger writes it. -/
def record (logger : Logger) (level : LogLevel) (message : String)
    (extra : List (String × Json)) (hasTrace : Bool) : LogRecord :=
  ⟨level, message, logger.fields extra, hasTrace⟩

/-- Names that every record uses itself and no field may have. -/
def reservedFields : List String := [
  "name", "msg", "args", "levelname", "levelno", "pathname", "filename", "module", "exc_info",
  "exc_text", "stack_info", "lineno", "funcName", "created", "msecs", "relativeCreated", "thread",
  "threadName", "processName", "process", "message", "asctime"]

/-- Writes a record with fields from outside. A kept record must not have a field with a reserved
name. -/
def write (logger : Logger) (log : Log) (level : LogLevel) (message : String)
    (extra : List (String × Json)) : Except Fault Log :=
  let record := logger.record level message extra false
  if log.keeps level then
    match record.fields.find? fun f => reservedFields.contains f.1 with
    | some f => .error (.missingKey f.1)
    | none => .ok (log.add record)
  else .ok log

end Logger

end TagScript
