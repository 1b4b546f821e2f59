/-!
# Tables of characters

Large sets of characters are tables with a numbered place for each. Most places follow each other
without a gap, so a table is a list of rows of characters in neighbouring places.
-/

namespace TagScript.Xml

/-- Characters in neighbouring places. -/
structure GridRow where
  /-- The place of the first character. -/
  start : Nat
  /-- The characters in the order of their places. -/
  cells : List Char
  deriving Repr, DecidableEq

/-- A table of characters. -/
structure Grid where
  /-- The characters, row by row. -/
  rows : List GridRow
  deriving Repr, DecidableEq

namespace Grid

/-- The characters of several texts in places from `start` on. -/
def row (start : Nat) (texts : List String) : GridRow :=
  ⟨start, texts.flatMap String.toList⟩

/-- The place of a character. -/
def place? (grid : Grid) (c : Char) : Option Nat :=
  grid.rows.findSome? fun row => (row.cells.idxOf? c).map (row.start + ·)

/-- Whether a table has a character. -/
def has (grid : Grid) (c : Char) : Bool :=
  grid.rows.any fun row => row.cells.contains c

/-- How many characters of a table come before a character in Unicode. -/
def countBelow (grid : Grid) (c : Char) : Nat :=
  (grid.rows.map fun row => row.cells.countP (· < c)).foldl (· + ·) 0

end Grid

end TagScript.Xml
