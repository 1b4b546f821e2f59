import TagScript.Number.Rounding

/-!
# Amounts

Numbers of both kinds together: whole numbers are exact, all others are doubles. Whole numbers are
compared and divided without making doubles of them first; an operation that needs a double of a
whole number too large for any has no result.
-/

namespace TagScript.Number

/-- A whole number or a double. -/
inductive Amount where
  /-- A whole number. -/
  | whole (i : Int)
  /-- A double. -/
  | real (x : Float)

/-- Whether a double has exactly the value of a whole number. -/
def isWhole (x : Float) (i : Int) : Bool :=
  match Binary.ofFloat x with
  | .finite negative mantissa exponent =>
    let scaled := i.natAbs * Nat.pow 2 (-exponent).toNat
    scaled == mantissa * Nat.pow 2 exponent.toNat && (mantissa == 0 || negative == decide (i < 0))
  | _ => false

namespace Amount

/-- Whether two amounts have the same value. -/
def same : Amount → Amount → Bool
  | .whole i, .whole j => i == j
  | .real x, .real y => x == y
  | .whole i, .real x => isWhole x i
  | .real x, .whole i => isWhole x i

/-- Whether an amount is zero. -/
def isZero : Amount → Bool
  | .whole i => i == 0
  | .real x => x == 0.0

/-- Whether an amount is zero or below. -/
def isNotPositive : Amount → Bool
  | .whole i => i ≤ 0
  | .real x => x ≤ 0.0

/-- The double nearest to an amount. -/
def toFloat? : Amount → Option Float
  | .whole i => ofInt? i
  | .real x => some x

/-- The sum of two amounts. -/
def add? : Amount → Amount → Option Amount
  | .whole i, .whole j => some (.whole (i + j))
  | a, b => do
    let x ← a.toFloat?
    let y ← b.toFloat?
    pure (.real (x + y))

/-- The double nearest to the quotient of two amounts, the second of which is not zero. -/
def divide? : Amount → Amount → Option Float
  | .whole i, .whole j => nearest? (decide (i < 0) != decide (j < 0)) i.natAbs j.natAbs
  | a, b => do
    let x ← a.toFloat?
    let y ← b.toFloat?
    pure (x / y)

theorem same_whole (i j : Int) : same (.whole i) (.whole j) = (i == j) := rfl

end Amount

end TagScript.Number
