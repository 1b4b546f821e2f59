import TagScript.Xml.CodePage.Latin
import TagScript.Xml.Grid.Cns
import TagScript.Xml.Grid.Hanja
import TagScript.Xml.Grid.Hanzi
import TagScript.Xml.Grid.Kanji

/-!
# Coded sets of characters

The sets that encodings put together. A set gives each of its characters a code of one or two bytes
below 128.
-/

namespace TagScript.Xml

/-- A coded set of characters. -/
inductive CharSet where
  /-- ASCII. -/
  | ascii
  /-- ASCII with each tilde written twice. -/
  | asciiTwoTildes
  /-- The Japanese form of ASCII, with signs of its own for the backslash and the tilde. -/
  | roman
  /-- The Japanese syllables of half width. -/
  | katakana
  /-- JIS X 0208. -/
  | kanji
  /-- JIS X 0212. -/
  | kanjiSupplement
  /-- GB 2312. -/
  | hanzi
  /-- KS X 1001. -/
  | hanja
  /-- The first plane of CNS 11643. -/
  | cnsFirst
  /-- The second plane of CNS 11643. -/
  | cnsSecond
  /-- The upper half of ISO 8859-1. -/
  | latin
  /-- The upper half of ISO 8859-7. -/
  | greek
  deriving Repr, DecidableEq

namespace CharSet

/-- A place in rows of ninety-four, as two bytes. -/
def pair (place : Nat) : List UInt8 :=
  [UInt8.ofNat (0x21 + place / 94), UInt8.ofNat (0x21 + place % 94)]

/-- The number of a character in the upper half of a page, less 128. -/
def upperHalf? (byte : Option Nat) : Option (List UInt8) :=
  (byte.filter (0xa0 ≤ ·)).map fun n => [UInt8.ofNat (n - 128)]

/-- The place of a character in GB 2312. -/
def hanziPlace? (c : Char) : Option Nat :=
  (Grid.hanziSigns.place? c).or (Grid.hanzi.place? c)

/-- The place of a character in KS X 1001. -/
def hanjaPlace? (c : Char) : Option Nat :=
  (Grid.hangul.place? c).or (Grid.hanja.place? c)

/-- The byte of a character in the page of ISO 8859-7. -/
def greekByte? (c : Char) : Option Nat :=
  (CodePage.latin.find? fun page => page.names.contains "iso-8859-7").bind fun page => page.byte? c

/-- The code of a character. -/
def code? : CharSet → Char → Option (List UInt8)
  | .ascii, c => if c.toNat < 128 then some [UInt8.ofNat c.toNat] else none
  | .asciiTwoTildes, c =>
    if c = '~' then some [0x7e, 0x7e]
    else if c.toNat < 128 then some [UInt8.ofNat c.toNat]
    else none
  | .roman, c =>
    if c = '¥' then some [0x5c]
    else if c = '‾' then some [0x7e]
    else if c.toNat < 128 ∧ c ≠ '\\' ∧ c ≠ '~' then some [UInt8.ofNat c.toNat]
    else none
  | .katakana, c =>
    if '｡' ≤ c ∧ c ≤ 'ﾟ' then some [UInt8.ofNat (0x21 + c.toNat - '｡'.toNat)] else none
  | .kanji, c => (Grid.kanji.place? c).map pair
  | .kanjiSupplement, c => (Grid.kanjiSupplement.place? c).map pair
  | .hanzi, c => (hanziPlace? c).map pair
  | .hanja, c => (hanjaPlace? c).map pair
  | .cnsFirst, c => (Grid.cnsFirst.place? c).map pair
  | .cnsSecond, c => (Grid.cnsSecond.place? c).map pair
  | .latin, c => upperHalf? (if c.toNat < 256 then some c.toNat else none)
  | .greek, c => upperHalf? (greekByte? c)

end CharSet

end TagScript.Xml
