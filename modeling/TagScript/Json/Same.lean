import TagScript.Json.Basic
import TagScript.Number.Amount

/-!
# Equality of JSON values

Numbers of both kinds are equal when they have the same value, truth values count as zero and one,
and the order of fields does not matter.
-/

namespace TagScript

namespace Json

/-- The number a value is compared as: truth values count as zero and one. -/
def amount? : Json → Option Number.Amount
  | .bool b => some (.whole (if b then 1 else 0))
  | .int i => some (.whole i)
  | .float x => some (.real x)
  | _ => none

mutual

/-- Whether two values are equal; numbers are equal when they have the same value, and the order of
fields does not matter. The double that is no number is kept as one thing, which equals itself. -/
def same : Json → Json → Bool
  | .null, .null => true
  | .str s, .str t => s == t
  | .arr vs, .arr ws => sameItems vs ws
  | .obj fs, .obj gs => fs.length == gs.length && sameFields fs gs
  | .float x, .float y => x == y || (x.isNaN && y.isNaN)
  | v, w =>
    match v.amount?, w.amount? with
    | some m, some n => m.same n
    | _, _ => false

/-- Whether two lists hold equal values. -/
def sameItems : List Json → List Json → Bool
  | [], [] => true
  | v :: vs, w :: ws => same v w && sameItems vs ws
  | _, _ => false

/-- Whether all fields have equal values in a second object. -/
def sameFields : List (String × Json) → List (String × Json) → Bool
  | [], _ => true
  | (k, v) :: rest, gs =>
    (match Fields.get? gs k with
      | some w => same v w
      | none => false) && sameFields rest gs

end

/-- Whether two rows of fields have equal values. -/
def sameFieldValues (fs gs : List (String × Json)) : Bool :=
  sameItems (fs.map (·.2)) (gs.map (·.2))

end Json

end TagScript
