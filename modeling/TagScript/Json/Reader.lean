import TagScript.Json.Basic
import TagScript.Number.Reader

/-!
# Reading JSON

A reader of one JSON value with nothing but blanks around it. It also takes `NaN`, `Infinity` and
`-Infinity` for numbers; of a key written twice the last value counts.
-/

namespace TagScript.Json

/-- Why a text is no JSON value. -/
inductive Problem where
  /-- It is not written like one. -/
  | malformed
  /-- It holds a whole number with too many digits; their number. -/
  | tooLong (digits : Nat)
  deriving Repr, DecidableEq

/-- What a reader of part of a text returns: what it read, and the rest. -/
abbrev Parsed (α : Type) := Except Problem (α × List Char)

/-- The blanks of JSON. -/
def isSpace (c : Char) : Bool :=
  c == ' ' || c == '\t' || c == '\n' || c == '\r'

/-- Passes over blanks. -/
def skipSpace (cs : List Char) : List Char :=
  cs.dropWhile isSpace

/-- The value of a hexadecimal digit. -/
def hexValue? (c : Char) : Option Nat :=
  if c.isDigit then some (c.toNat - '0'.toNat)
  else if 'a' ≤ c ∧ c ≤ 'f' then some (c.toNat - 'a'.toNat + 10)
  else if 'A' ≤ c ∧ c ≤ 'F' then some (c.toNat - 'A'.toNat + 10)
  else none

/-- Four hexadecimal digits. -/
def unit? : List Char → Option (Nat × List Char)
  | a :: b :: c :: d :: rest => do
    let a ← hexValue? a
    let b ← hexValue? b
    let c ← hexValue? c
    let d ← hexValue? d
    some (((a * 16 + b) * 16 + c) * 16 + d, rest)
  | _ => none

/-- What an escape of one letter stands for. -/
def simpleEscape? (c : Char) : Option Char :=
  if c = '"' ∨ c = '\\' ∨ c = '/' then some c
  else if c = 'n' then some '\n'
  else if c = 'r' then some '\r'
  else if c = 't' then some '\t'
  else if c = 'b' then some '\x08'
  else if c = 'f' then some '\x0c'
  else none

/-- The character of one unit; half of a surrogate pair alone is no character and becomes the
replacement character. -/
def unitChar (n : Nat) : Char :=
  if n.isValidChar then Char.ofNat n else '\ufffd'

/-- The rest of a text after its opening quote; at most `fuel` characters and escapes. -/
def stringBody : Nat → List Char → Parsed (List Char)
  | 0, _ => .error .malformed
  | fuel + 1, cs =>
    match cs with
    | [] => .error .malformed
    | '"' :: rest => .ok ([], rest)
    | '\\' :: 'u' :: rest =>
      match unit? rest with
      | none => .error .malformed
      | some (high, more) =>
        let paired : Option (Nat × List Char) :=
          if 0xd800 ≤ high ∧ high < 0xdc00 then
            match more with
            | '\\' :: 'u' :: tail =>
              (unit? tail).filter fun (low, _) => 0xdc00 ≤ low && low < 0xe000
            | _ => none
          else none
        let (c, more) := match paired with
          | some (low, tail) =>
            (Char.ofNat (0x10000 + (high - 0xd800) * 0x400 + (low - 0xdc00)), tail)
          | none => (unitChar high, more)
        (stringBody fuel more).map fun (s, rest) => (c :: s, rest)
    | '\\' :: e :: rest =>
      match simpleEscape? e with
      | some c => (stringBody fuel rest).map fun (s, rest) => (c :: s, rest)
      | none => .error .malformed
    | c :: rest =>
      if c.toNat < 32 ∨ c = '\\' then .error .malformed
      else (stringBody fuel rest).map fun (s, rest) => (c :: s, rest)

/-- A text, its opening quote included. -/
def string (cs : List Char) : Parsed String :=
  match cs with
  | '"' :: rest => (stringBody (rest.length + 1) rest).map fun (s, rest) => (String.ofList s, rest)
  | _ => .error .malformed

/-- The fraction of a number: a point and digits, if there are any. -/
def fraction (cs : List Char) : List Char × List Char :=
  match cs with
  | '.' :: rest =>
    if (rest.takeWhile Char.isDigit).isEmpty then ([], cs)
    else (rest.takeWhile Char.isDigit, rest.dropWhile Char.isDigit)
  | _ => ([], cs)

/-- The exponent of a number, if there is one. -/
def exponent? (cs : List Char) : Option (Int × List Char) :=
  match cs with
  | c :: rest =>
    if c = 'e' ∨ c = 'E' then
      let (negative, body) := Number.splitSign rest
      let digits := body.takeWhile Char.isDigit
      if digits.isEmpty then none
      else
        let n : Int := Number.ofDigits (digits.filterMap Text.decimalValue?)
        some (if negative then -n else n, body.dropWhile Char.isDigit)
    else none
  | [] => none

/-- Whether a number begins with a minus sign, and what follows the sign. -/
def splitMinus (cs : List Char) : Bool × List Char :=
  match cs with
  | '-' :: rest => (true, rest)
  | _ => (false, cs)

/-- The whole part of a number: a zero, or all digits at the front. -/
def wholePart (body : List Char) : List Char :=
  match body with
  | '0' :: _ => ['0']
  | _ => body.takeWhile Char.isDigit

/-- A number: a whole part without leading zeros, and perhaps a fraction and an exponent. -/
def number (cs : List Char) : Parsed Json :=
  let (negative, body) := splitMinus cs
  let whole := wholePart body
  if whole.isEmpty then .error .malformed
  else
    let value (ds : List Char) : Nat := Number.ofDigits (ds.filterMap Text.decimalValue?)
    let (part, rest) := fraction (body.drop whole.length)
    match exponent? rest, part with
    | none, [] =>
      if Number.digitLimit < whole.length then .error (.tooLong whole.length)
      else .ok (.int (if negative then -(value whole : Int) else value whole), rest)
    | none, _ =>
      .ok (.float (Number.nearestDecimal negative (value (whole ++ part)) (-part.length)), rest)
    | some (e, more), _ =>
      .ok (.float (Number.nearestDecimal negative (value (whole ++ part)) (e - part.length)), more)

/-- A word that stands for a value, and the value. -/
def words : List (List Char × Json) := [
  ("null".toList, .null), ("true".toList, .bool true), ("false".toList, .bool false),
  ("NaN".toList, .float (0.0 / 0.0)), ("Infinity".toList, .float (1.0 / 0.0)),
  ("-Infinity".toList, .float (-1.0 / 0.0))]

/-- A word that stands for a value, or a number. -/
def scalar (cs : List Char) : Parsed Json :=
  match words.find? fun w => w.1.isPrefixOf cs with
  | some (word, v) => .ok (v, cs.drop word.length)
  | none => number cs

mutual

/-- A value at the front of a text, nested at most `fuel` deep. -/
def value : Nat → List Char → Parsed Json
  | 0, _ => .error .malformed
  | fuel + 1, cs =>
    match cs with
    | '"' :: _ => (string cs).map fun (s, rest) => (.str s, rest)
    | '[' :: rest =>
      match skipSpace rest with
      | ']' :: more => .ok (.arr [], more)
      | more => (items fuel more).map fun (vs, rest) => (.arr vs, rest)
    | '{' :: rest =>
      match skipSpace rest with
      | '}' :: more => .ok (.obj [], more)
      | more => (fields fuel [] more).map fun (fs, rest) => (.obj fs, rest)
    | _ => scalar cs

/-- The items of a list up to its closing bracket. -/
def items : Nat → List Char → Except Problem (List Json × List Char)
  | 0, _ => .error .malformed
  | fuel + 1, cs => do
    let (v, rest) ← value fuel cs
    match skipSpace rest with
    | ',' :: more =>
      let (vs, rest) ← items fuel (skipSpace more)
      .ok (v :: vs, rest)
    | ']' :: more => .ok ([v], more)
    | _ => .error .malformed

/-- The fields of an object up to its closing brace, added to those read before. -/
def fields :
    Nat → List (String × Json) → List Char → Except Problem (List (String × Json) × List Char)
  | 0, _, _ => .error .malformed
  | fuel + 1, before, cs => do
    let (key, rest) ← string cs
    match skipSpace rest with
    | ':' :: more =>
      let (v, rest) ← value fuel (skipSpace more)
      let known := Fields.insert before key v
      match skipSpace rest with
      | ',' :: more => fields fuel known (skipSpace more)
      | '}' :: more => .ok (known, more)
      | _ => .error .malformed
    | _ => .error .malformed

end

/-- Reads a text that holds one value. Every step of the reader consumes a character, so the length
of the text bounds the nesting. -/
def read (s : String) : Except Problem Json :=
  let cs := skipSpace s.toList
  match value (2 * cs.length + 2) cs with
  | .error p => .error p
  | .ok (v, rest) => if (skipSpace rest).isEmpty then .ok v else .error .malformed

end TagScript.Json
