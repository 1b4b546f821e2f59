import TagScript.Log

/-!
# Reports of the writer
-/

namespace TagScript.Xml

/-- The log record of a name that was written without its unbound prefix: the name as it was and as
it was written. -/
def shortenedRecord (names : String × String) : LogRecord :=
  (Logger.mk "serializer" none []).record .warning
    "Unresolved prefixed name serialized without its prefix"
    [("qualified_name", .str names.1), ("serialized_as", .str names.2)] false

end TagScript.Xml
