import TagScript.Command.Parameter

/-!
# Dates as text

A date format is a text in which a percent sign begins a directive: flags, a width, a modifier and
the letter of a field of the date. The fields come from a clock; this module knows the directives
that are not about dates, and what becomes of those that nobody knows. The zone is filled in first,
because the rest of the format is filled in without knowing it.
-/

namespace TagScript

/-- Tells the date and time, in the local zone or in universal time. -/
structure Clock where
  /-- The date and time in full. -/
  full : (universal : Bool) → String
  /-- A field of the date or time, by its letter and the modifier before it. -/
  field : (universal : Bool) → (modifier : Option Char) → Char → String

namespace Clock

/-! ## The zone -/

/-- The difference to universal time; local times do not tell it. -/
def offset (universal : Bool) : String :=
  if universal then "+0000" else ""

/-- The name of the zone; local times do not tell it. -/
def zone (universal : Bool) : String :=
  if universal then "UTC" else ""

/-- Fills in the zone and the fractions of the second, where they stand right behind a percent sign.
-/
def fillZone (clock : Clock) (universal : Bool) : List Char → List Char
  | '%' :: c :: rest =>
    let text :=
      if c = 'z' then (offset universal).toList
      else if c = 'Z' then (zone universal).toList
      else if c = 'f' then (clock.field universal none 'f').toList
      else ['%', c]
    text ++ fillZone clock universal rest
  | c :: rest => c :: fillZone clock universal rest
  | [] => []

end Clock

/-! ## Directives -/

/-- A piece of a filled-in format: a text and the width it is brought to. -/
structure DatePiece where
  /-- The text. -/
  text : List Char
  /-- The width. -/
  width : Nat := 0
  /-- What stands before a text that is not as wide. -/
  filler : Char := ' '

namespace DatePiece

/-- The number of characters of a piece. -/
def length (p : DatePiece) : Nat :=
  max p.width p.text.length

/-- The characters of a piece. -/
def chars (p : DatePiece) : List Char :=
  List.replicate (p.width - p.text.length) p.filler ++ p.text

end DatePiece

/-- What may come next in a directive. -/
inductive DirectiveStage where
  /-- A flag. -/
  | flags
  /-- A digit of the width. -/
  | width
  /-- The letter of the field, behind a modifier. -/
  | field
  deriving Repr, DecidableEq

/-- The part of a directive that was read so far. -/
structure Directive where
  /-- Its characters, backwards. -/
  written : List Char := ['%']
  /-- What may come next. -/
  stage : DirectiveStage := .flags
  /-- What stands before a text that is not as wide. -/
  filler : Char := ' '
  /-- Whether letters become capitals. -/
  capitals : Bool := false
  /-- The width. -/
  width : Nat := 0
  /-- The modifier. -/
  modifier : Option Char := none

namespace Directive

/-- The greatest width. -/
def widthLimit : Nat := Nat.pow 2 31 - 1

/-- The letters of the fields of a date, but for the zone's difference. -/
def fieldLetters : List Char := "aAbBcCdDeFgGhHIjklmMpPrRsSTuUVwWxXyYZ".toList

/-- The letters of fields that do not take a modifier. -/
def unmodified : Option Char → List Char
  | none => []
  | some c => if c = 'E' then "aADFbhBdeHIkljmMSUVgGWw".toList else "aADFcxXY".toList

/-- A text at the place of the directive. -/
def piece (d : Directive) (text : List Char) : DatePiece :=
  ⟨text, d.width, d.filler⟩

/-- A directive that nobody knows, as it is written. -/
def unknown (d : Directive) (written : List Char) : DatePiece :=
  d.piece (if d.capitals then written.map Char.toUpper else written)

/-- What a directive stands for when it ends in a letter. Only the last percent sign and what
follows it is left of a directive that nobody knows. The difference to universal time is told right
behind a percent sign only; a directive that asks for it in another way is left out whatever its
width. -/
def close (clock : Clock) (universal : Bool) (d : Directive) (c : Char) : DatePiece :=
  if c = '%' then if d.modifier.isNone then d.piece ['%'] else d.unknown ['%']
  else if c = 'n' then d.piece ['\n']
  else if c = 't' then d.piece ['\t']
  else if c = 'z' then { text := [] }
  else if fieldLetters.contains c && !(unmodified d.modifier).contains c then
    d.piece (clock.field universal d.modifier c).toList
  else d.unknown (c :: d.written).reverse

/-- Reads one more character of a directive: the directive so far, or what it stands for. -/
def read (clock : Clock) (universal : Bool) (d : Directive) (c : Char) : Directive ⊕ DatePiece :=
  let next : Directive := { d with written := c :: d.written }
  if d.stage = .flags ∧ (c = '_' ∨ c = '-') then .inl { next with filler := ' ' }
  else if d.stage = .flags ∧ c = '0' then .inl { next with filler := '0' }
  else if d.stage = .flags ∧ c = '^' then .inl { next with capitals := true }
  else if d.stage = .flags ∧ c = '#' then .inl next
  else if d.stage ≠ .field ∧ c.isDigit then
    .inl { next with
      stage := .width
      width := min widthLimit (10 * d.width + (c.toNat - '0'.toNat)) }
  else if d.stage ≠ .field ∧ (c = 'E' ∨ c = 'O') then
    .inl { next with stage := .field, modifier := some c }
  else .inr (d.close clock universal c)

end Directive

namespace Clock

/-- Fills in the directives of a format behind an open one. -/
def fill (clock : Clock) (universal : Bool) : Option Directive → List Char → List DatePiece
  | none, [] => []
  | some d, [] => [d.unknown d.written.reverse]
  | none, c :: rest =>
    if c = '%' then fill clock universal (some {}) rest
    else { text := [c] } :: fill clock universal none rest
  | some d, c :: rest =>
    match d.read clock universal c with
    | .inl d => fill clock universal (some d) rest
    | .inr piece => piece :: fill clock universal none rest

/-- The room for the text of a format of this length: the first of 1024, 2048, … that is 256 times
as much. -/
def room (length : Nat) : Nat :=
  256 * max 4 length.nextPowerOfTwo

/-- The date as a format asks for it; the format ends before its first null character. A text for
which there is no room is left out. -/
def format (clock : Clock) (universal : Bool) (text : String) : String :=
  let cs := clock.fillZone universal (text.toList.takeWhile (· ≠ '\x00'))
  let pieces := clock.fill universal none cs
  if room cs.length ≤ (pieces.map DatePiece.length).foldl (· + ·) 0 then ""
  else String.ofList (pieces.flatMap DatePiece.chars)

/-- A text without percent signs has no zone to fill in. -/
theorem fillZone_plain (clock : Clock) (universal : Bool) {cs : List Char} (h : '%' ∉ cs) :
    clock.fillZone universal cs = cs := by
  induction cs with
  | nil => rfl
  | cons c cs ih =>
    have hc : c ≠ '%' := fun e => h (by simp [e])
    have : clock.fillZone universal (c :: cs) = c :: clock.fillZone universal cs := by
      cases cs <;> simp [fillZone, hc]
    rw [this, ih fun hm => h (List.mem_cons_of_mem _ hm)]

/-- A text without percent signs is its own date. -/
theorem fill_plain (clock : Clock) (universal : Bool) {cs : List Char} (h : '%' ∉ cs) :
    (clock.fill universal none cs).flatMap DatePiece.chars = cs := by
  induction cs with
  | nil => rfl
  | cons c cs ih =>
    have hc : c ≠ '%' := fun e => h (by simp [e])
    simp [fill, hc, DatePiece.chars, ih fun hm => h (List.mem_cons_of_mem _ hm)]

end Clock

/-- The date command: the date in full, or as the option asks for it. -/
def dateText (clock : Clock) (args : List Value) : Except Fault Value := do
  let p ← Parameters.ofArguments ["UtcNow"] ["Format"] args
  if p.positional.isEmpty then
    let universal := (p.get? "utcnow").isSome
    match p.get? "format" with
    | some v => .ok (.str (clock.format universal v.plain))
    | none => .ok (.str (clock.full universal))
  else .error (.runtime (.unexpectedArguments (Value.list p.positional).shown))

end TagScript
