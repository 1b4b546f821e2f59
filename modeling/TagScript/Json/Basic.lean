import TagScript.Fields

/-!
# JSON values

The data that configurations are read from and written to. Objects keep the order in which their
keys were first written.
-/

namespace TagScript

/-- A JSON value. Whole numbers are exact; other numbers are doubles. -/
inductive Json where
  /-- The null value. -/
  | null
  /-- A truth value. -/
  | bool (b : Bool)
  /-- A whole number. -/
  | int (i : Int)
  /-- Any other number. -/
  | float (x : Float)
  /-- A text. -/
  | str (s : String)
  /-- A list. -/
  | arr (items : List Json)
  /-- An object: keys and values in order. -/
  | obj (fields : List (String × Json))
  deriving Inhabited

namespace Json

/-- The value of a key of an object. -/
def get? (key : String) : Json → Option Json
  | .obj fields => Fields.get? fields key
  | _ => none

/-- A text or null. -/
def ofOption : Option String → Json
  | some s => .str s
  | none => .null

/-- Whether a value counts as true: not null, false, zero or empty. -/
def truthy : Json → Bool
  | .null => false
  | .bool b => b
  | .int i => i != 0
  | .float x => x != 0.0
  | .str s => !s.isEmpty
  | .arr items => !items.isEmpty
  | .obj fields => !fields.isEmpty

end Json

end TagScript
