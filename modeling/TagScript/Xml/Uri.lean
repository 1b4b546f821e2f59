/-!
# URI references

Which texts may be the URI of a namespace: URI references, absolute or relative, in ASCII. Each part
of their grammar is a function that takes its characters from the front and leaves the rest; a text
is a reference when nothing is left.
-/

namespace TagScript.Xml.Uri

/-- Whether a character needs no escape anywhere. -/
def isUnreserved (c : Char) : Bool :=
  c.isAlphanum || c == '-' || c == '.' || c == '_' || c == '~'

/-- Whether a character may part the pieces of a component. -/
def isSubDelimiter (c : Char) : Bool :=
  "!$&'()*+,;=".toList.contains c

/-- Whether a character may stand in the name of a host. -/
def isHostChar (c : Char) : Bool :=
  isUnreserved c || isSubDelimiter c

/-- Whether a character may stand in a segment of a path. -/
def isSegmentChar (c : Char) : Bool :=
  isHostChar c || c == ':' || c == '@'

/-- Whether a character may stand in a path. -/
def isPathChar (c : Char) : Bool :=
  isSegmentChar c || c == '/'

/-- Whether a character may stand in a query. -/
def isQueryChar (c : Char) : Bool :=
  isPathChar c || c == '?'

/-- Whether a character may stand in a fragment. -/
def isFragmentChar (c : Char) : Bool :=
  isQueryChar c || c == '[' || c == ']'

/-- Whether a character is a hexadecimal digit. -/
def isHexDigit (c : Char) : Bool :=
  c.isDigit || ('a' ≤ c && c ≤ 'f') || ('A' ≤ c && c ≤ 'F')

/-- Leaves out the characters in front that `plain` accepts, and escapes: a percent sign with two
hexadecimal digits. -/
def skip (plain : Char → Bool) : List Char → List Char
  | '%' :: a :: b :: rest =>
    if isHexDigit a && isHexDigit b then skip plain rest else '%' :: a :: b :: rest
  | c :: rest => if plain c then skip plain rest else c :: rest
  | [] => []

/-- Leaves out a scheme and its colon. -/
def scheme? : List Char → Option (List Char)
  | [] => none
  | c :: rest =>
    let isSchemeChar (c : Char) : Bool := c.isAlphanum || c == '+' || c == '-' || c == '.'
    match c.isAlpha, rest.dropWhile isSchemeChar with
    | true, ':' :: rest => some rest
    | _, _ => none

/-- The greatest number behind a host. -/
def hostNumberLimit : Nat := Nat.pow 2 31 - 1

/-- Leaves out a colon and a number, if there are any. -/
def hostNumber? : List Char → Option (List Char)
  | ':' :: rest =>
    let digits := rest.takeWhile Char.isDigit
    let number := digits.foldl (fun n c => 10 * n + (c.toNat - '0'.toNat)) 0
    if digits.isEmpty || hostNumberLimit < number then none
    else some (rest.dropWhile Char.isDigit)
  | cs => some cs

/-- Leaves out a host: anything between brackets, or a name. -/
def host? : List Char → Option (List Char)
  | '[' :: rest =>
    match rest.dropWhile (· ≠ ']') with
    | _ :: more => some more
    | [] => none
  | cs => some (skip isHostChar cs)

/-- Leaves out an authority: perhaps a user and an at sign, then the host and its number. -/
def authority? (cs : List Char) : Option (List Char) :=
  let afterUser := match skip (fun c => isHostChar c || c == ':') cs with
    | '@' :: rest => rest
    | _ => cs
  (host? afterUser).bind hostNumber?

/-- Leaves out a path that is empty or begins with a slash. -/
def slashPath : List Char → List Char
  | '/' :: rest => skip isPathChar rest
  | cs => cs

/-- Leaves out an authority behind two slashes and its path, or else the path that `path` takes. -/
def hierarchy? (path : List Char → List Char) : List Char → Option (List Char)
  | '/' :: '/' :: rest => (authority? rest).map slashPath
  | cs => some (path cs)

/-- Leaves out a path whose first segment holds no colon. -/
def relativePath (cs : List Char) : List Char :=
  slashPath (skip (fun c => isSegmentChar c && c != ':') cs)

/-- Leaves out a query and a fragment, if there are any. -/
def tail (cs : List Char) : List Char :=
  let afterQuery := match cs with
    | '?' :: rest => skip isQueryChar rest
    | cs => cs
  match afterQuery with
  | '#' :: rest => skip isFragmentChar rest
  | cs => cs

/-- Whether nothing is left behind a hierarchy, a query and a fragment. -/
def isWhole (hierarchy : Option (List Char)) : Bool :=
  match hierarchy with
  | some rest => (tail rest).isEmpty
  | none => false

/-- Whether a text is a URI reference. -/
def isReference (s : String) : Bool :=
  isWhole ((scheme? s.toList).bind (hierarchy? (skip isPathChar)))
    || isWhole (hierarchy? relativePath s.toList)

/-- Skipping takes nothing but characters from the front. -/
theorem skip_suffix (plain : Char → Bool) (cs : List Char) : skip plain cs <:+ cs := by
  fun_induction skip plain cs with
  | case1 a b rest h ih => exact ih.trans ⟨['%', a, b], rfl⟩
  | case2 => exact List.suffix_refl _
  | case3 c rest _ h ih => exact ih.trans (List.suffix_cons c rest)
  | case4 => exact List.suffix_refl _
  | case5 => exact List.suffix_refl _

end TagScript.Xml.Uri
