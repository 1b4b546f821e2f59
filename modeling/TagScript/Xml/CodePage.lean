/-!
# Encodings of one byte

Encodings in which the bytes below 128 are the characters of ASCII, but for a few, and every byte
from 128 on is a character of its own or none. A page lists those characters in the order of their
bytes; the replacement character stands for a byte that is none.
-/

namespace TagScript.Xml

/-- An encoding of one byte for each character. -/
structure CodePage where
  /-- Its names, in lower case. -/
  names : List String
  /-- The characters of the bytes from 128 on. -/
  upper : List Char
  /-- Characters whose byte is another one than those rules give; below 128 they take the place of
  a character of ASCII. -/
  special : List (Char × Nat) := []
  /-- Characters that are written as a row of others. -/
  parts : List (Char × List Char) := []
  /-- Characters that readers take for others, or refuse. -/
  readings : List (Char × Option Char) := []
  deriving Repr, DecidableEq

namespace CodePage

/-- The page with these characters from 128 on. -/
def full (names rows : List String) : CodePage :=
  { names, upper := rows.flatMap String.toList }

/-- The page whose bytes from 128 to 159 are control characters, with these characters from 160
on. -/
def half (names rows : List String) : CodePage :=
  { names, upper := ((List.range 32).map fun n => Char.ofNat (128 + n)) ++
      rows.flatMap String.toList }

/-- The page without bytes from 128 on. -/
def low (names : List String) : CodePage :=
  { names, upper := [] }

/-- The byte of a character. -/
def byte? (page : CodePage) (c : Char) : Option Nat :=
  match page.special.lookup c with
  | some byte => some byte
  | none =>
    if c.toNat < 128 then
      if page.special.any fun entry => entry.2 = c.toNat then none else some c.toNat
    else if c = '\ufffd' then none
    else (page.upper.idxOf? c).map (· + 128)

/-- The characters that a character is written as; a row of others counts only if the page has all
of them. -/
def spelling? (page : CodePage) (c : Char) : Option (List Char) :=
  if (page.byte? c).isSome then some [c]
  else (page.parts.lookup c).filter fun row => row.all fun part => (page.byte? part).isSome

/-- The bytes of a character. -/
def bytes? (page : CodePage) (c : Char) : Option (List UInt8) :=
  (page.spelling? c).map fun row => (row.filterMap page.byte?).map UInt8.ofNat

/-- What a reader takes the bytes of a character for, if it can read them. -/
def reading? (page : CodePage) (c : Char) : Option (List Char) :=
  match page.readings.lookup c with
  | some read => read.map ([·])
  | none => some ((page.spelling? c).getD [c])

end CodePage

end TagScript.Xml
