import TagScript.Json.Basic
import TagScript.Number.Reader
import TagScript.Number.Shortest
import TagScript.Text.Quoted

/-!
# Writing JSON

The text of a JSON value in ASCII. With an indentation each item stands on a line of its own;
without one, items are parted by a comma and a blank.
-/

namespace TagScript.Json

/-- A sixteen-bit unit as an escape. -/
def unitEscape (n : Nat) : List Char :=
  '\\' :: 'u' :: Text.hex 4 n

/-- How one character of a text is written. -/
def writeChar (c : Char) : List Char :=
  if c = '"' ∨ c = '\\' then ['\\', c]
  else if c = '\n' then ['\\', 'n']
  else if c = '\r' then ['\\', 'r']
  else if c = '\t' then ['\\', 't']
  else if c = '\x0c' then ['\\', 'f']
  else if c = '\x08' then ['\\', 'b']
  else if 32 ≤ c.toNat ∧ c.toNat ≤ 126 then [c]
  else if c.toNat < 0x10000 then unitEscape c.toNat
  else
    let n := c.toNat - 0x10000
    unitEscape (0xd800 + n / 0x400) ++ unitEscape (0xdc00 + n % 0x400)

/-- A text between double quotes. -/
def writeString (s : String) : String :=
  String.ofList ('"' :: s.toList.flatMap writeChar ++ ['"'])

/-- A number that is not whole. -/
def writeFloat (x : Float) : String :=
  match Number.Binary.ofFloat x with
  | .nan => "NaN"
  | .infinite negative => if negative then "-Infinity" else "Infinity"
  | .finite .. => Number.floatText x

mutual

/-- Whether a value can be written: none of its whole numbers has too many digits. -/
def isWritable : Json → Bool
  | .int i => (Nat.toDigits 10 i.natAbs).length ≤ Number.digitLimit
  | .arr items => areWritable items
  | .obj fields => haveWritable fields
  | _ => true

/-- Whether all items of a list can be written. -/
def areWritable : List Json → Bool
  | [] => true
  | v :: rest => isWritable v && areWritable rest

/-- Whether the values of all fields of an object can be written. -/
def haveWritable : List (String × Json) → Bool
  | [] => true
  | (_, v) :: rest => isWritable v && haveWritable rest

end

/-- What stands between the items of a list or object `level` levels deep. -/
def lineBreak (indent : Option Nat) (level : Nat) : String :=
  match indent with
  | some n => String.ofList ('\n' :: List.replicate (n * level) ' ')
  | none => ""

/-- Items between brackets, at the given depth. -/
def bracket (indent : Option Nat) (level : Nat) (opener closer : String) (items : List String) :
    String :=
  if items.isEmpty then opener ++ closer
  else
    let separator := match indent with
      | some _ => "," ++ lineBreak indent (level + 1)
      | none => ", "
    opener ++ lineBreak indent (level + 1) ++ separator.intercalate items
      ++ lineBreak indent level ++ closer

mutual

/-- The text of a value that stands `level` levels deep. -/
def writeAt (indent : Option Nat) (level : Nat) : Json → String
  | .null => "null"
  | .bool b => if b then "true" else "false"
  | .int i => toString i
  | .float x => writeFloat x
  | .str s => writeString s
  | .arr items => bracket indent level "[" "]" (writeItems indent (level + 1) items)
  | .obj fields => bracket indent level "\x7b" "\x7d" (writeFields indent (level + 1) fields)

/-- The texts of the items of a list. -/
def writeItems (indent : Option Nat) (level : Nat) : List Json → List String
  | [] => []
  | v :: rest => writeAt indent level v :: writeItems indent level rest

/-- The texts of the fields of an object. -/
def writeFields (indent : Option Nat) (level : Nat) : List (String × Json) → List String
  | [] => []
  | (key, v) :: rest =>
    (writeString key ++ ": " ++ writeAt indent level v) :: writeFields indent level rest

end

/-- The text of a value. -/
def write (indent : Option Nat) (v : Json) : String :=
  writeAt indent 0 v

end TagScript.Json
