import TagScript.Number.Reader
import TagScript.Registry
import TagScript.Value.Text

/-!
# Casts

A cast makes a value of another kind. A value that it does not accept is refused with a reason.
-/

namespace TagScript

/-- What a value is cast to. -/
inductive Cast where
  /-- A namespace. -/
  | namespace
  /-- A text. -/
  | string
  /-- A whole number. -/
  | whole
  /-- A double. -/
  | decimal
  /-- A truth value. -/
  | truth
  /-- A qualified name. -/
  | name
  /-- A list. -/
  | list
  deriving Repr, DecidableEq

namespace Value

/-- The whole number that a value stands for: doubles are cut, texts are read. -/
def toWhole : Value → Except Fault Int
  | .int i => .ok i
  | .bool b => .ok (if b then 1 else 0)
  | .float x =>
    match Number.Binary.ofFloat x with
    | .nan => .error (.invalid .wholeOfNan)
    | .infinite _ => .error (.overflow "cannot convert float infinity to integer")
    | .finite negative mantissa exponent =>
      let n : Int := Number.truncate mantissa exponent
      .ok (if negative then -n else n)
  | .str s =>
    match Number.readInt s with
    | .ok i => .ok i
    | .error .malformed => .error (.invalid (.notWhole s))
    | .error (.tooLong digits) => .error (.invalid (.tooManyDigits digits))
  | v => .error (.wrongKind (.notWhole v.fullTypeName))

/-- The double nearest to a whole number. -/
def wholeToDecimal (i : Int) : Except Fault Float :=
  match Number.ofInt? i with
  | some x => .ok x
  | none => .error (.overflow "int too large to convert to float")

/-- The double that a value stands for: texts are read. -/
def toDecimal : Value → Except Fault Float
  | .float x => .ok x
  | .int i => wholeToDecimal i
  | .bool b => .ok (if b then 1.0 else 0.0)
  | .str s =>
    match Number.readFloat? s with
    | some x => .ok x
    | none => .error (.invalid (.notDecimal s))
  | v => .error (.wrongKind (.notDecimal v.fullTypeName))

/-- The namespace that a value stands for. -/
def toNamespace : Value → Except Fault Namespace
  | .null => .error (.invalid .missingNamespace)
  | .ns n => .ok n
  | v => Namespace.of v.plain

/-- The text of a value; null has none. -/
def textOrEmpty : Value → String
  | .null => ""
  | v => v.plain

end Value

/-- The qualified name of a text: in brace notation, or resolved against the bindings. -/
def Registry.nameOf (r : Registry) (text : String) : Except Fault QName :=
  if text.toList.head? = some '{' then QName.parse text else (r.resolve text).map (·.1)

/-- The qualified name that a value stands for. -/
def Registry.nameOfValue (r : Registry) : Value → Except Fault QName
  | .name q => .ok q
  | v => r.nameOf v.plain

namespace Cast

/-- The cast with this name in lower case. -/
def ofName? (name : String) : Option Cast :=
  match name with
  | "ns" | "namespace" => some .namespace
  | "string" => some .string
  | "int" => some .whole
  | "float" | "double" => some .decimal
  | "bool" => some .truth
  | "qname" => some .name
  | "array" => some .list
  | _ => none

/-- Casts a value; names are resolved against the bindings. -/
def apply (r : Registry) (v : Value) : Cast → Except Fault Value
  | .namespace => v.toNamespace.map .ns
  | .string => .ok (.str v.textOrEmpty)
  | .whole => v.toWhole.map .int
  | .decimal => v.toDecimal.map .float
  | .truth => .ok (.bool v.truthy)
  | .name => (r.nameOfValue v).map .name
  | .list => .ok (.list v.items)

end Cast

end TagScript
