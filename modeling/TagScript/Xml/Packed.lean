import TagScript.Xml.CharSet
import TagScript.Xml.Grid.Big5

/-!
# Packed sets of characters

Encodings that hold several sets of characters at once: the first byte of a character says how many
bytes belong to it and which set it is from. All of them begin with ASCII.
-/

namespace TagScript.Xml

/-- An encoding of one to four bytes for each character. -/
inductive Packed where
  /-- EUC for Japanese. -/
  | eucJapanese
  /-- Shift JIS; readers may take it for that of the vendor. -/
  | shiftJis (asVendor : Bool)
  /-- Code page 932, the Shift JIS of a vendor. -/
  | page932
  /-- EUC for simplified Chinese. -/
  | eucChinese
  /-- GBK. -/
  | gbk
  /-- Code page 936: GBK with the euro sign in one byte. -/
  | page936
  /-- GB 18030, which has all characters. -/
  | gb18030
  /-- Big5. -/
  | big5
  /-- Code page 950, the Big5 of a vendor. -/
  | page950
  /-- Big5 with the supplementary set of Hong Kong. -/
  | hongKong
  /-- EUC for traditional Chinese. -/
  | eucTaiwan
  /-- EUC for Korean. -/
  | eucKorean
  /-- Code page 949: EUC for Korean with all syllables. -/
  | page949
  /-- Johab. -/
  | johab
  deriving Repr, DecidableEq

namespace Packed

/-- Bytes by their numbers. -/
def ofNats (ns : List Nat) : List UInt8 :=
  ns.map UInt8.ofNat

/-- A place in rows of ninety-four, as two bytes from 161 on. -/
def upperPair (place : Nat) : List UInt8 :=
  ofNats [0xa1 + place / 94, 0xa1 + place % 94]

/-- The second byte of a column: from `start` on without 127. -/
def column (start n : Nat) : Nat :=
  if start + n < 0x7f then start + n else start + n + 1

/-- A place in rows of a hundred and eighty-eight, as two bytes; the first ones skip those of
syllables of half width. -/
def shiftPair (place : Nat) : List UInt8 :=
  let row := place / 188
  ofNats [if row < 0x1f then 0x81 + row else 0xc1 + row, column 0x40 (place % 188)]

/-- The place of a character of JIS X 0208 in rows of a hundred and eighty-eight: two rows of
ninety-four are one. -/
def shiftKanji? (c : Char) : Option (List UInt8) :=
  (Grid.kanji.place? c).map shiftPair

/-- A Japanese syllable of half width, as one byte. -/
def katakana? (c : Char) : Option (List UInt8) :=
  (CharSet.katakana.code? c).map fun code => code.map (· + 0x80)

/-- A place in rows of a hundred and ninety, as two bytes. -/
def gbkPair (place : Nat) : List UInt8 :=
  ofNats [0x81 + place / 190, column 0x40 (place % 190)]

/-- A place in rows of a hundred and fifty-seven, as two bytes; `lead` is the first byte of the
first row. -/
def big5Pair (lead place : Nat) : List UInt8 :=
  let n := place % 157
  ofNats [lead + place / 157, if n < 63 then 0x40 + n else 0xa1 + (n - 63)]

/-- The place of a character of private use in the rows behind those of code page 932. -/
def privateShift? (c : Char) : Option Nat :=
  if '\ue000' ≤ c ∧ c ≤ '\ue757' then some (8836 + (c.toNat - 0xe000)) else none

/-- Whether a character is a unified ideograph of the first version of Unicode. -/
def isIdeograph (c : Char) : Bool :=
  '\u4e00' ≤ c ∧ c ≤ '\u9fa5'

/-- An ideograph in GBK: those of GB 2312 keep their places; the others fill first the thirty-two
rows in front of them and then the left half of the rows behind, in the order of Unicode. -/
def gbkIdeograph (c : Char) : List UInt8 :=
  match Grid.hanzi.place? c with
  | some place => upperPair place
  | none =>
    let rank := c.toNat - 0x4e00 - Grid.hanzi.countBelow c
    if rank < 6080 then gbkPair rank
    else ofNats [0xaa + (rank - 6080) / 96, column 0x40 ((rank - 6080) % 96)]

/-- The signs of GB 2312 that GBK does not have in their places. -/
def displacedSigns : List Char :=
  ['\u30fb', '\u2015']

/-- A character in GBK. -/
def gbk? (c : Char) : Option (List UInt8) :=
  if isIdeograph c then some (gbkIdeograph c)
  else ((Grid.hanziExtended.place? c).map gbkPair).or <|
    if c ∈ displacedSigns then none else (Grid.hanziSigns.place? c).map upperPair

/-- Rows of characters of private use that GB 18030 has in two bytes: the place of the first one,
its number in Unicode, and how many there are. -/
def privateRows : List (Nat × Nat × Nat) := [
  (6080, 0xe4c6, 96), (6270, 0xe526, 96), (6376, 0xe766, 6), (6433, 0xe76d, 1),
  (6444, 0xe76e, 2), (6458, 0xe770, 2), (6460, 0xe586, 96), (6650, 0xe5e6, 96),
  (6829, 0xe772, 11), (6840, 0xe646, 96), (7022, 0xe77d, 8), (7030, 0xe6a6, 96),
  (7150, 0xe785, 8), (7182, 0xe78d, 7), (7201, 0xe794, 2), (7208, 0xe796, 1), (7211, 0xe797, 9),
  (7220, 0xe706, 96), (7349, 0xe7a0, 15), (7397, 0xe7af, 13), (7495, 0xe7bc, 11),
  (7533, 0xe7c7, 1), (7538, 0xe7c9, 4), (7579, 0xe7cd, 21), (7624, 0xe7e2, 1),
  (7627, 0xe7e3, 1), (7629, 0xe7e4, 3), (7686, 0xe7f4, 13), (7775, 0xe801, 15),
  (7886, 0xe000, 94), (8076, 0xe05e, 94), (8266, 0xe0bc, 94), (8456, 0xe11a, 94),
  (8646, 0xe178, 94), (8836, 0xe1d6, 94), (16525, 0xe810, 5), (22706, 0xe234, 94),
  (22896, 0xe292, 94), (23086, 0xe2f0, 94), (23276, 0xe34e, 94), (23466, 0xe3ac, 94),
  (23656, 0xe40a, 94), (23767, 0xe816, 3), (23775, 0xe81e, 1), (23783, 0xe826, 1),
  (23788, 0xe82b, 2), (23794, 0xe831, 2), (23804, 0xe83b, 1), (23812, 0xe843, 1),
  (23829, 0xe854, 2), (23845, 0xe864, 1), (23846, 0xe468, 94)]

/-- The place of a character of private use. -/
def privatePlace? (c : Char) : Option Nat :=
  privateRows.findSome? fun (place, first, count) =>
    if first ≤ c.toNat ∧ c.toNat < first + count then some (place + (c.toNat - first)) else none

/-- How many characters of two bytes in GB 18030 come before a character in Unicode. -/
def twoByteCount (c : Char) : Nat :=
  let n := c.toNat
  Grid.hanziSigns.countBelow c - displacedSigns.countP (· < c) + Grid.hanziExtended.countBelow c
    + Grid.hanziAdded.countBelow c + min (n - 0x4e00) (0x9fa6 - 0x4e00)
    + (privateRows.map fun (_, first, count) => min (n - first) count).foldl (· + ·) 0

/-- The number of a character of four bytes in GB 18030. Those of the first plane are counted
without the surrogates; the other planes begin after room for all of them. -/
def fourByteNumber (c : Char) : Nat :=
  let n := c.toNat
  if n < 0x10000 then n - 0x80 - twoByteCount c - (if n < 0xe000 then 0 else 0x800)
  else 189000 + (n - 0x10000)

/-- A character in GB 18030, as first laid down. -/
def firstGb18030 (c : Char) : List UInt8 :=
  match (gbk? c).or (((Grid.hanziAdded.place? c).or (privatePlace? c)).map gbkPair) with
  | some bytes => bytes
  | none =>
    let n := fourByteNumber c
    ofNats [0x81 + n / 12600, 0x30 + n / 1260 % 10, 0x81 + n / 10 % 126, 0x30 + n % 10]

/-- The letter that changed its place with a character of private use when GB 18030 was revised,
and that character. -/
def exchanged : List (Char × Char) :=
  [('\u1e3f', '\ue7c7'), ('\ue7c7', '\u1e3f')]

/-- A character in the revised GB 18030. -/
def revisedGb18030 (c : Char) : List UInt8 :=
  firstGb18030 ((exchanged.lookup c).getD c)

/-- The characters of Big5 that code page 950 has others for. -/
def replacedSigns : List Char :=
  ['¢', '£', '¥', '•', '‾', '∼', '☉', '♁', '､']

/-- The number of a Korean syllable among all of them. -/
def syllableNumber? (c : Char) : Option Nat :=
  if '\uac00' ≤ c ∧ c ≤ '\ud7a3' then some (c.toNat - 0xac00) else none

/-- A syllable that KS X 1001 does not have, in code page 949: they fill first the thirty-two rows
in front and then the left parts of the rows of KS X 1001, in the order of Unicode. -/
def extraSyllable (c : Char) (number : Nat) : List UInt8 :=
  let rank := number - Grid.hangul.countBelow c
  let second (n : Nat) := if n < 26 then 0x41 + n else if n < 52 then 0x47 + n else 0x4d + n
  if rank < 5696 then ofNats [0x81 + rank / 178, second (rank % 178)]
  else ofNats [0xa1 + (rank - 5696) / 84, second ((rank - 5696) % 84)]

/-- The codes of the medial letters of syllables in Johab. -/
def medialCodes : List Nat :=
  [3, 4, 5, 6, 7, 10, 11, 12, 13, 14, 15, 18, 19, 20, 21, 22, 23, 26, 27, 28, 29]

/-- The codes of single Korean letters in Johab, from the first on. -/
def letterCodes : List Nat := [
  0x8841, 0x8c41, 0x8444, 0x9041, 0x8446, 0x8447, 0x9441, 0x9841, 0x9c41, 0x844a, 0x844b,
  0x844c, 0x844d, 0x844e, 0x844f, 0x8450, 0xa041, 0xa441, 0xa841, 0x8454, 0xac41, 0xb041,
  0xb441, 0xb841, 0xbc41, 0xc041, 0xc441, 0xc841, 0xcc41, 0xd041, 0x8461, 0x8481, 0x84a1,
  0x84c1, 0x84e1, 0x8541, 0x8561, 0x8581, 0x85a1, 0x85c1, 0x85e1, 0x8641, 0x8661, 0x8681,
  0x86a1, 0x86c1, 0x86e1, 0x8741, 0x8761, 0x8781, 0x87a1]

/-- A syllable in Johab: five bits for each of its letters. -/
def johabSyllable (number : Nat) : List UInt8 :=
  let final := number % 28
  let code := 0x8000 + (number / 588 + 2) * 1024 + medialCodes.getD (number / 28 % 21) 0 * 32
    + (if final < 17 then final + 1 else final + 2)
  ofNats [code / 256, code % 256]

/-- A sign or an ideograph of KS X 1001 in Johab, by its place: two rows of ninety-four are one,
counted from the first sign and from the first ideograph. -/
def johabPair (place : Nat) : List UInt8 :=
  let row := place / 94
  let (first, row) := if row < 12 then (0xd9, row) else (0xe0, row - 41)
  let n := row % 2 * 94 + place % 94
  ofNats [first + row / 2, if n < 0x4e then 0x31 + n else 0x91 + (n - 0x4e)]

/-- A character in Johab, but for those of ASCII. -/
def johab? (c : Char) : Option (List UInt8) :=
  match syllableNumber? c with
  | some number => some (johabSyllable number)
  | none =>
    if '\u3131' ≤ c ∧ c ≤ '\u3163' then
      (letterCodes[c.toNat - 0x3131]?).map fun code => ofNats [code / 256, code % 256]
    else (Grid.hanja.place? c).map johabPair

/-- The signs that Japanese encodings put in places of ASCII. -/
def romanSign? (c : Char) : Option (List UInt8) :=
  if c = '¥' then some [0x5c] else if c = '‾' then some [0x7e] else none

/-- The bytes of a character that is not from ASCII. -/
def upperBytes? : Packed → Char → Option (List UInt8)
  | .eucJapanese, c =>
    ((Grid.kanji.place? c).map upperPair).or <|
    ((katakana? c).map (0x8e :: ·)).or <|
    ((Grid.kanjiSupplement.place? c).map fun place => 0x8f :: upperPair place).or (romanSign? c)
  | .shiftJis _, c => (romanSign? c).or <| (katakana? c).or (shiftKanji? c)
  | .page932, c =>
    (katakana? c).or <| (shiftKanji? c).or <|
    (((Grid.kanjiVendor.place? c).or (privateShift? c)).map shiftPair).or (romanSign? c)
  | .eucChinese, c => (CharSet.hanziPlace? c).map upperPair
  | .gbk, c => gbk? c
  | .page936, c => if c = '€' then some [0x80] else gbk? c
  | .gb18030, c => some (revisedGb18030 c)
  | .big5, c => (Grid.big5.place? c).map (big5Pair 0xa1)
  | .page950, c =>
    ((Grid.big5Vendor.place? c).or <|
      if c ∈ replacedSigns then none else Grid.big5.place? c).map (big5Pair 0xa1)
  | .hongKong, c =>
    ((Grid.big5HongKong.place? c).map (big5Pair 0x81)).or <|
    (Grid.big5.place? c).map (big5Pair 0xa1)
  | .eucTaiwan, c =>
    ((Grid.cnsFirst.place? c).map upperPair).or <|
    (Grid.cnsSecond.place? c).map fun place => [0x8e, 0xa2] ++ upperPair place
  | .eucKorean, c => (CharSet.hanjaPlace? c).map upperPair
  | .page949, c =>
    ((CharSet.hanjaPlace? c).map upperPair).or <| (syllableNumber? c).map (extraSyllable c)
  | .johab, c => if c = '₩' then some [0x5c] else johab? c

/-- The characters of ASCII that others stand in the place of. -/
def missingAscii : Packed → List Char
  | .shiftJis _ => ['\\', '~']
  | .johab => ['\\']
  | _ => []

/-- The bytes of a character. -/
def bytes? (packed : Packed) (c : Char) : Option (List UInt8) :=
  if c.toNat < 128 then
    if c ∈ packed.missingAscii then none else some [UInt8.ofNat c.toNat]
  else packed.upperBytes? c

/-- The signs of JIS X 0208 that the vendor takes for others. -/
def vendorReadings : List (Char × Option Char) :=
  [('¢', '￠'), ('£', '￡'), ('¬', '￢'), ('‖', '∥'), ('−', '－'), ('〜', '～')].map fun (c, read) =>
    (c, some read)

/-- The signs in places of ASCII, which readers take for those of ASCII. -/
def romanReadings : List (Char × Option Char) :=
  [('¥', some '\\'), ('‾', some '~')]

/-- What readers take characters for when they do not take them for what they are; they refuse
those that are taken for none. -/
def readings : Packed → List (Char × Option Char)
  | .eucJapanese => ('～', some '~') :: romanReadings
  | .shiftJis asVendor => romanReadings ++ if asVendor then vendorReadings else []
  | .page932 => romanReadings ++ vendorReadings
  | .page936 => [('€', none)]
  | .gb18030 => exchanged.map fun (c, read) => (c, some read)
  | .eucKorean => [('\u3164', none)]
  | .johab => [('₩', some '\\')]
  | _ => []

/-- What a reader takes the bytes of a character for, if it can read them. -/
def reading? (packed : Packed) (c : Char) : Option (List Char) :=
  match packed.readings.lookup c with
  | some read => read.map ([·])
  | none => some [c]

/-- GB 18030 lacks no character. -/
theorem bytes?_gb18030 (c : Char) : (bytes? .gb18030 c).isSome := by
  unfold bytes?
  split
  · simp [missingAscii]
  · simp [upperBytes?]

end Packed

end TagScript.Xml
