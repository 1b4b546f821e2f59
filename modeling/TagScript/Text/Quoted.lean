import TagScript.Text.Class

/-!
# Quoted text

Two ways to write a text between quotes. `quoted` is the form used in messages and inside lists: any
character that does not print is escaped. `literal` is the form a block reads back: the text between
apostrophes, an apostrophe written twice.
-/

namespace TagScript.Text

/-- The lower-case hexadecimal digits of a number, at least `width` of them. -/
def hex (width n : Nat) : List Char :=
  let digits := Nat.toDigits 16 n
  List.replicate (width - digits.length) '0' ++ digits

/-- The escape of a character that does not print. -/
def escapeCode (c : Char) : List Char :=
  if c.toNat < 0x100 then '\\' :: 'x' :: hex 2 c.toNat
  else if c.toNat < 0x10000 then '\\' :: 'u' :: hex 4 c.toNat
  else '\\' :: 'U' :: hex 8 c.toNat

/-- How one character stands between two `quote` characters. -/
def quotedChar (quote c : Char) : List Char :=
  if c = quote ∨ c = '\\' then ['\\', c]
  else if c = '\n' then ['\\', 'n']
  else if c = '\r' then ['\\', 'r']
  else if c = '\t' then ['\\', 't']
  else if isPrintable c then [c]
  else escapeCode c

/-- The quote around a text: the apostrophe, or the double quote for a text that holds apostrophes
and no double quote. -/
def quoteFor (cs : List Char) : Char :=
  if cs.contains '\'' && !cs.contains '"' then '"' else '\''

/-- A text in quotes, with escapes for what does not print. -/
def quoted (s : String) : String :=
  let quote := quoteFor s.toList
  String.ofList (quote :: s.toList.flatMap (quotedChar quote) ++ [quote])

/-- The first `limit` characters of a text in quotes. The closing quote is among them only when it
fits, and an escape may be cut. -/
def quotedExcerpt (limit : Nat) (s : String) : String :=
  String.ofList ((quoted s).toList.take limit)

/-- The characters of a literal between its apostrophes. -/
def doubleApostrophes : List Char → List Char
  | [] => []
  | c :: rest => if c = '\'' then '\'' :: '\'' :: doubleApostrophes rest
    else c :: doubleApostrophes rest

/-- A text as a literal of the block language, read back without interpolation. -/
def literal (s : String) : String :=
  String.ofList ('\'' :: doubleApostrophes s.toList ++ ['\''])

/-- Reads what stands between the apostrophes of a literal: of two apostrophes one is kept. -/
def undoubleApostrophes : List Char → List Char
  | [] => []
  | [c] => [c]
  | c :: d :: rest =>
    if c = '\'' ∧ d = '\'' then '\'' :: undoubleApostrophes rest
    else c :: undoubleApostrophes (d :: rest)

/-- Text without an apostrophe stands in a literal as it is. -/
theorem doubleApostrophes_eq_self {cs : List Char} (h : '\'' ∉ cs) :
    doubleApostrophes cs = cs := by
  induction cs with
  | nil => rfl
  | cons c rest ih =>
    have hc : c ≠ '\'' := fun e => h (by simp [e])
    simp [doubleApostrophes, hc, ih (fun m => h (List.mem_cons_of_mem _ m))]

end TagScript.Text
