import TagScript.Text.Class

/-!
# Characters of XML

Which characters a document may hold and which form names, by the fifth edition of XML 1.0. Names
here hold no colon: prefixes are kept apart from local names.
-/

namespace TagScript.Xml

/-- Whether a document may hold the character. -/
def isAllowed (c : Char) : Bool :=
  c == '\t' || c == '\n' || c == '\r' || (32 ≤ c.toNat && c.toNat ≠ 0xfffe && c.toNat ≠ 0xffff)

/-- The code points from 128 on that may begin a name. -/
def nameStartRanges : List (Nat × Nat) := [
  (0xc0, 0xd6), (0xd8, 0xf6), (0xf8, 0x2ff), (0x370, 0x37d), (0x37f, 0x1fff), (0x200c, 0x200d),
  (0x2070, 0x218f), (0x2c00, 0x2fef), (0x3001, 0xd7ff), (0xf900, 0xfdcf), (0xfdf0, 0xfffd),
  (0x10000, 0xeffff)]

/-- The code points from 128 on that may stand in a name but not begin it. -/
def nameInnerRanges : List (Nat × Nat) := [(0xb7, 0xb7), (0x300, 0x36f), (0x203f, 0x2040)]

/-- Whether a character may begin a name. -/
def isNameStart (c : Char) : Bool :=
  c.isAlpha || c == '_' || Text.inRanges nameStartRanges c.toNat

/-- Whether a character may stand in a name. -/
def isNameInner (c : Char) : Bool :=
  isNameStart c || c.isDigit || c == '-' || c == '.' || Text.inRanges nameInnerRanges c.toNat

/-- Whether a text is a name without a colon. -/
def isName (s : String) : Bool :=
  match s.toList with
  | [] => false
  | c :: rest => isNameStart c && rest.all isNameInner

end TagScript.Xml
