import TagScript.Number.Binary

/-!
# Nearest doubles

The double nearest to a fraction of two whole numbers, in exact arithmetic; of two doubles that are
equally near the one with the even mantissa. The bits of the doubles from zero on are in the order
of their values, so a mantissa that rounding makes one bit longer needs no special care.
-/

namespace TagScript.Number

/-- The exponent of the last bit that a double near `num / den` has: fifty-three bits are kept, and
no double has bits below `2 ^ -1074`. -/
def lastExponent (num den : Nat) : Int :=
  let guess : Int := (num.log2 : Int) - den.log2 - 53
  let bits := scaledQuotient num den guess
  max (if Nat.pow 2 53 ≤ bits then guess + 1 else guess) (-1074)
where
  /-- The whole part of `num / den / 2 ^ exponent`. -/
  scaledQuotient (num den : Nat) (exponent : Int) : Nat :=
    num * Nat.pow 2 (-exponent).toNat / (den * Nat.pow 2 exponent.toNat)

/-- The whole number nearest to `num / den`; a half goes to the even one. -/
def roundHalfEven (num den : Nat) : Nat :=
  let below := num / den
  let rest := num % den
  if 2 * rest < den then below
  else if den < 2 * rest then below + 1
  else below + below % 2

/-- The bits of the positive infinity. -/
def infinityBits : Nat := 2047 * Nat.pow 2 52

/-- The bits of the double nearest to `num / den`: those of the infinity when that is too large. -/
def nearestBits (num den : Nat) : Nat :=
  if num = 0 then 0
  else
    let exponent := lastExponent num den
    let mantissa := roundHalfEven (num * Nat.pow 2 (-exponent).toNat)
      (den * Nat.pow 2 exponent.toNat)
    min ((exponent + 1074).toNat * Nat.pow 2 52 + mantissa) infinityBits

/-- The double nearest to `± num / den`. -/
def nearest (negative : Bool) (num den : Nat) : Float :=
  .ofBits (.ofNat (nearestBits num den + if negative then Nat.pow 2 63 else 0))

/-- The double nearest to `± num / den`, unless it is too large for any. -/
def nearest? (negative : Bool) (num den : Nat) : Option Float :=
  if nearestBits num den = infinityBits then none else some (nearest negative num den)

/-- The double nearest to `± digits * 10 ^ exponent`. Exponents that lie beyond every double are
answered without computing the power. -/
def nearestDecimal (negative : Bool) (digits : Nat) (exponent : Int) : Float :=
  let size : Int := (Nat.toDigits 10 digits).length + exponent
  if digits = 0 ∨ size < -400 then nearest negative 0 1
  else if 400 < size then nearest negative (Nat.pow 2 1024) 1
  else nearest negative (digits * Nat.pow 10 exponent.toNat) (Nat.pow 10 (-exponent).toNat)

/-- The double nearest to a whole number, or `none` when it is too large for any. -/
def ofInt? (i : Int) : Option Float :=
  nearest? (i < 0) i.natAbs 1

/-- Rounding changes no whole number. -/
theorem roundHalfEven_one (n : Nat) : roundHalfEven n 1 = n := by
  simp [roundHalfEven, Nat.mod_one]

/-- A rounded fraction is one of the two whole numbers around it. -/
theorem roundHalfEven_bounds (num den : Nat) :
    num / den ≤ roundHalfEven num den ∧ roundHalfEven num den ≤ num / den + 1 := by
  have := Nat.mod_lt (num / den) (show 0 < 2 by decide)
  simp only [roundHalfEven]
  split
  · omega
  · split <;> omega

end TagScript.Number
