import TagScript.Json.Basic
import TagScript.Number.Shortest
import TagScript.Text.Quoted

/-!
# Data in messages

How a setting is shown in a message: texts in quotes, numbers in digits, lists and objects with
their parts.
-/

namespace TagScript

/-- A truth value as text. -/
def boolText (b : Bool) : String :=
  if b then "True" else "False"

/-- Items of a row between braces. -/
def bracedRow (items : List String) : String :=
  "\x7b" ++ ", ".intercalate items ++ "\x7d"

namespace Json

mutual

/-- A value inside a message. -/
def shown : Json → String
  | .null => "None"
  | .bool b => boolText b
  | .int i => toString i
  | .float x => Number.floatText x
  | .str s => Text.quoted s
  | .arr vs => "[" ++ ", ".intercalate (shownItems vs) ++ "]"
  | .obj fields => bracedRow (shownFields fields)

/-- The items of a list. -/
def shownItems : List Json → List String
  | [] => []
  | v :: vs => shown v :: shownItems vs

/-- The fields of an object. -/
def shownFields : List (String × Json) → List String
  | [] => []
  | (k, v) :: rest => (Text.quoted k ++ ": " ++ shown v) :: shownFields rest

end

/-- What a value contributes to a text: a text stands for itself. -/
def plain : Json → String
  | .str s => s
  | v => v.shown

end Json

end TagScript
