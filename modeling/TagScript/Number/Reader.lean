import TagScript.Number.Rounding
import TagScript.Text.Class

/-!
# Reading numbers from text

Whole numbers and decimals as a person may type them: blanks around them, a sign, decimal digits of
any script, single underscores between digits, and for decimals a point, an exponent, or the names
of the infinity and of the number that is none.
-/

namespace TagScript.Number

/-- A whole number with more digits than this is refused. -/
def digitLimit : Nat := 4300

/-- Whether a character may surround a number: blank, and not one of the separators of ASCII. -/
def isMargin (c : Char) : Bool :=
  Text.isBlank c && !(28 ≤ c.toNat && c.toNat ≤ 31)

/-- The text between the margins. -/
def trimMargin (cs : List Char) : List Char :=
  ((cs.dropWhile isMargin).reverse.dropWhile isMargin).reverse

/-- A sign at the front, and what follows it. -/
def splitSign : List Char → Bool × List Char
  | '-' :: rest => (true, rest)
  | '+' :: rest => (false, rest)
  | cs => (false, cs)

/-- The decimal digits at the front, in which single underscores may stand between two digits, and
what follows them. There must be a digit, and an underscore may not stand elsewhere. `afterDigit`
says whether the last character was a digit. -/
def digitRow? (afterDigit : Bool) : List Char → Option (List Nat × List Char)
  | [] => if afterDigit then some ([], []) else none
  | c :: rest =>
    match Text.decimalValue? c with
    | some d => (digitRow? true rest).map fun row => (d :: row.1, row.2)
    | none =>
      if !afterDigit then none
      else if c = '_' then digitRow? false rest
      else some ([], c :: rest)

/-- The number written by a row of digits. -/
def ofDigits (digits : List Nat) : Nat :=
  digits.foldl (fun n d => 10 * n + d) 0

/-- Why a text is no whole number. -/
inductive IntProblem where
  /-- It is not written like one. -/
  | malformed
  /-- It has more digits than `digitLimit`; their number. -/
  | tooLong (digits : Nat)
  deriving Repr, DecidableEq

/-- Reads a whole number. The digits are counted before anything is made of what follows them. -/
def readInt (s : String) : Except IntProblem Int :=
  let (negative, body) := splitSign (s.toList.dropWhile isMargin)
  match digitRow? false body with
  | none => .error .malformed
  | some (digits, rest) =>
    if digitLimit < digits.length then .error (.tooLong digits.length)
    else if !rest.all isMargin then .error .malformed
    else .ok (if negative then -(ofDigits digits : Int) else ofDigits digits)

/-- Takes away the underscores between digits; `none` when one stands elsewhere. -/
def dropUnderscores? (afterDigit : Bool) : List Char → Option (List Char)
  | [] => some []
  | c :: rest =>
    if c = '_' then
      match rest with
      | d :: _ =>
        if afterDigit && Text.isDecimal d then dropUnderscores? false rest else none
      | [] => none
    else (dropUnderscores? (Text.isDecimal c) rest).map (c :: ·)

/-- The digits at the front and what follows them. -/
def spanDigits (cs : List Char) : List Nat × List Char :=
  ((cs.takeWhile Text.isDecimal).filterMap Text.decimalValue?, cs.dropWhile Text.isDecimal)

/-- The exponent of a decimal: nothing, or `e` with a whole number. -/
def exponent? : List Char → Option Int
  | [] => some 0
  | c :: rest =>
    if c = 'e' ∨ c = 'E' then
      let (negative, body) := splitSign rest
      match spanDigits body with
      | (d :: ds, []) =>
        let n : Int := ofDigits (d :: ds)
        some (if negative then -n else n)
      | _ => none
    else none

/-- A decimal without sign, as its digits and its exponent. -/
def decimal? (cs : List Char) : Option (Nat × Int) :=
  let (whole, rest) := spanDigits cs
  let (fraction, rest) := match rest with
    | '.' :: more => spanDigits more
    | _ => ([], rest)
  if whole.isEmpty && fraction.isEmpty then none
  else (exponent? rest).map fun e => (ofDigits (whole ++ fraction), e - fraction.length)

/-- The double that a text names instead of writing it in digits. -/
def namedFloat? (cs : List Char) : Option Float :=
  let word := String.ofList (cs.map Char.toLower)
  if word = "inf" ∨ word = "infinity" then some (1.0 / 0.0)
  else if word = "nan" then some (0.0 / 0.0)
  else none

/-- Reads a double: the one nearest to the written decimal. -/
def readFloat? (s : String) : Option Float :=
  match dropUnderscores? false (trimMargin s.toList) with
  | none => none
  | some cs =>
    let (negative, body) := splitSign cs
    match namedFloat? body with
    | some x => some (if negative then -x else x)
    | none => (decimal? body).map fun (digits, e) => nearestDecimal negative digits e

end TagScript.Number
