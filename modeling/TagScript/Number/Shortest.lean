import TagScript.Number.Binary

/-!
# The shortest decimal of a double

A double is written with the fewest decimal digits that read back as the same double; of several
such decimals the nearest one is taken, and a decimal half way to an even last digit. The search is
in exact arithmetic: for one, two, … seventeen digits the two neighbours of the value on that
decimal grid are tried.
-/

namespace TagScript.Number

/-- The numbers `low / 4 * 2 ^ exponent` to `high / 4 * 2 ^ exponent` that round to the double
`value / 4 * 2 ^ exponent`; the ends belong to it when `closed`. -/
structure Rounding where
  /-- The lower end. -/
  low : Nat
  /-- The double itself. -/
  value : Nat
  /-- The upper end. -/
  high : Nat
  /-- Whether the ends round to the double. -/
  closed : Bool

/-- The interval of numbers that round to `mantissa * 2 ^ exponent`. Below a power of two the
neighbouring double is half as far away. -/
def Rounding.ofBinary (mantissa : Nat) (exponent : Int) : Rounding where
  low := if mantissa = Nat.pow 2 52 ∧ -1074 < exponent then 4 * mantissa - 1 else 4 * mantissa - 2
  value := 4 * mantissa
  high := 4 * mantissa + 2
  closed := mantissa % 2 == 0

/-- The factors that bring `x * 2 ^ binary` and `n * 10 ^ decimal` to whole numbers of one scale. -/
def scales (binary decimal : Int) : Nat × Nat :=
  let up (base : Nat) (e : Int) : Nat := Nat.pow base e.toNat
  (up 2 binary * up 10 (-decimal), up 2 (-binary) * up 10 decimal)

/-- Whether the decimal whose scaled value is `n` rounds to the double. -/
def Rounding.holds (r : Rounding) (scale n : Nat) : Bool :=
  if r.closed then r.low * scale ≤ n && n ≤ r.high * scale
  else r.low * scale < n && n < r.high * scale

/-- The neighbour of the double on the grid of multiples of `10 ^ decimal` that reads back, the
nearer one if both do. -/
def Rounding.onGrid? (r : Rounding) (exponent decimal : Int) : Option Nat :=
  let (scale, unit) := scales (exponent - 2) decimal
  let below := r.value * scale / unit
  let rest := r.value * scale % unit
  let above := below + 1
  match r.holds scale (below * unit), r.holds scale (above * unit) with
  | true, true =>
    if 2 * rest < unit then some below
    else if unit < 2 * rest then some above
    else some (if below % 2 = 0 then below else above)
  | true, false => some below
  | false, true => some above
  | false, false => none

/-- The number of decimal digits of the whole part of `mantissa * 2 ^ exponent`; for a number below
one, minus the number of zeros after the point. -/
def pointPosition (mantissa : Nat) (exponent : Int) : Int :=
  if 0 ≤ exponent then (Nat.toDigits 10 (mantissa * Nat.pow 2 exponent.toNat)).length
  else
    let power := Nat.pow 2 (-exponent).toNat
    if power ≤ mantissa then (Nat.toDigits 10 (mantissa / power)).length
    else
      -- the quotient of 10 ^ 400 and the number has a known count of digits
      let reach := Nat.pow 10 400 * mantissa / power
      (Nat.toDigits 10 reach).length - 400

/-- Tries grids of `count`, `count + 1`, … digits, at most `fuel` of them. -/
def shortestFrom (r : Rounding) (exponent point : Int) : Nat → Nat → Option (Nat × Int)
  | 0, _ => none
  | fuel + 1, count =>
    match r.onGrid? exponent (point - count) with
    | some n => some (n, point - count)
    | none => shortestFrom r exponent point fuel (count + 1)

/-- The digits without zeros at the end, and the exponent that belongs to them. -/
def dropZeros : Nat → Nat → Int → Nat × Int
  | 0, n, e => (n, e)
  | fuel + 1, n, e => if n % 10 = 0 then dropZeros fuel (n / 10) (e + 1) else (n, e)

/-- The shortest decimal `digits * 10 ^ exponent` of a positive double. Seventeen digits always
suffice. -/
def shortest (mantissa : Nat) (exponent : Int) : Nat × Int :=
  let r := Rounding.ofBinary mantissa exponent
  match shortestFrom r exponent (pointPosition mantissa exponent) 17 1 with
  | some (n, e) => dropZeros 20 n e
  | none => (0, 0)

/-- How a decimal is laid out as text. -/
structure Layout where
  /-- The position of the point from which on a number is written without an exponent. -/
  firstPlain : Int
  /-- The last position of the point for which a number is written without an exponent. -/
  lastPlain : Int
  /-- What follows a whole number. -/
  wholeEnd : List Char
  /-- The least number of digits of an exponent. -/
  exponentWidth : Nat

/-- Numbers from `0.0001` up to sixteen digits before the point are written without an exponent, a
whole number ends in `.0`, and an exponent has a sign and two digits or more. -/
def plainLayout : Layout := ⟨-3, 16, ['.', '0'], 2⟩

/-- The text of `digits * 10 ^ exponent`. -/
def Layout.render (layout : Layout) (digits : Nat) (exponent : Int) : List Char :=
  let ds := Nat.toDigits 10 digits
  let point : Int := ds.length + exponent
  if layout.firstPlain ≤ point ∧ point ≤ layout.lastPlain then
    if 0 ≤ exponent then ds ++ List.replicate exponent.toNat '0' ++ layout.wholeEnd
    else if 0 < point then ds.take point.toNat ++ '.' :: ds.drop point.toNat
    else '0' :: '.' :: List.replicate (-point).toNat '0' ++ ds
  else
    let power := Nat.toDigits 10 (point - 1).natAbs
    let padded := List.replicate (layout.exponentWidth - power.length) '0' ++ power
    let sign := if point - 1 < 0 then '-' else '+'
    let mantissa := match ds with
      | [d] => [d]
      | d :: rest => d :: '.' :: rest
      | [] => []
    mantissa ++ 'e' :: sign :: padded

/-- The text of a double: the shortest decimal that reads back, `nan` or `inf`. -/
def floatText (x : Float) : String :=
  match Binary.ofFloat x with
  | .nan => "nan"
  | .infinite negative => if negative then "-inf" else "inf"
  | .finite negative mantissa exponent =>
    let magnitude :=
      if mantissa = 0 then ['0', '.', '0']
      else
        let (digits, e) := shortest mantissa exponent
        plainLayout.render digits e
    String.ofList (if negative then '-' :: magnitude else magnitude)

end TagScript.Number
