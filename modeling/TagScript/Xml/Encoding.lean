import TagScript.Config.EncodingName
import TagScript.Text.Quoted
import TagScript.Xml.CodePage.Macintosh
import TagScript.Xml.CodePage.National
import TagScript.Xml.CodePage.Vendor
import TagScript.Xml.OfElement
import TagScript.Xml.Packed
import TagScript.Xml.Shifting
import TagScript.Xml.Utf7
import TagScript.Xml.Writer

/-!
# Encodings of documents

The encodings that documents can be written in: which characters each of them has, and its bytes. A
character that an encoding lacks is written by its number, wherever it stands. What was written can
be read as text again only when the encoding is one that configurations may ask for; then readers
take a few characters of some encodings for others, and refuse a few.
-/

namespace TagScript.Xml

/-- The order of the bytes of a unit. -/
inductive ByteOrder where
  /-- The low byte first. -/
  | little
  /-- The high byte first. -/
  | big
  deriving Repr, DecidableEq

/-- An encoding that documents can be written in. -/
inductive Encoding where
  /-- All characters, in one to four bytes. -/
  | utf8
  /-- All characters, in one or two units of two bytes, behind a byte order mark if it is `marked`.
  -/
  | utf16 (marked : Bool) (order : ByteOrder)
  /-- All characters, in units of four bytes, behind a byte order mark if it is `marked`. -/
  | utf32 (marked : Bool) (order : ByteOrder)
  /-- All characters, in bytes below 128. -/
  | utf7
  /-- The characters of one unit of two bytes. -/
  | ucs2 (order : ByteOrder)
  /-- All characters; those from `bound` on as escape sequences, which are in units of two bytes
  unless they are `wide`. -/
  | escaped (bound : Nat) (wide : Bool)
  /-- The characters below 256, in one byte. -/
  | latin1
  /-- The characters below 128, in one byte. -/
  | ascii
  /-- The characters of a page, in one byte. -/
  | page (p : CodePage)
  /-- Several sets of characters, told apart by the first byte. -/
  | packed (p : Packed)
  /-- Several sets of characters, named by escape sequences. -/
  | shifting (s : Shifting)
  /-- A set of characters that has none of those that documents are marked up with. -/
  | bare
  deriving Repr, DecidableEq

namespace Encoding

/-- Names of encodings in lower case, but for those of pages. -/
def names : List (List String × Encoding) := [
  (["utf-8", "utf8", "", "char"], .utf8),
  (["utf-16", "utf16"], .utf16 true .little),
  (["utf-16le"], .utf16 false .little),
  (["utf-16be"], .utf16 false .big),
  (["utf-32"], .utf32 true .big),
  (["utf-32le", "ucs-4le", "ucs-4-internal", "wchar_t"], .utf32 false .little),
  (["utf-32be", "ucs-4", "ucs-4be", "iso-10646-ucs-4", "csucs4", "ucs-4-swapped"],
    .utf32 false .big),
  (["utf-7", "unicode-1-1-utf-7", "csunicode11utf7"], .utf7),
  (["ucs-2", "iso-10646-ucs-2", "csunicode", "ucs-2be", "unicodebig", "unicode-1-1",
    "csunicode11", "ucs-2-swapped"], .ucs2 .big),
  (["ucs-2le", "unicodelittle", "ucs-2-internal"], .ucs2 .little),
  (["c99"], .escaped 160 true),
  (["java"], .escaped 128 false),
  (["iso-8859-1", "iso_8859-1", "iso_8859-1:1987", "iso8859-1", "iso-latin-1", "iso latin 1",
    "iso-ir-100", "latin1", "l1", "cp819", "ibm819", "csisolatin1"], .latin1),
  (["ascii", "us-ascii", "us", "iso646-us", "iso_646.irv:1991", "iso-ir-6", "ansi_x3.4-1968",
    "ansi_x3.4-1986", "cp367", "ibm367", "csascii"], .ascii),
  (["euc-jp", "eucjp", "extended_unix_code_packed_format_for_japanese", "cseucpkdfmtjapanese"],
    .packed .eucJapanese),
  (["shift_jis", "shift-jis", "sjis", "csshiftjis"], .packed (.shiftJis false)),
  (["ms_kanji"], .packed (.shiftJis true)),
  (["cp932"], .packed .page932),
  (["euc-cn", "euccn", "gb2312", "cn-gb", "csgb2312"], .packed .eucChinese),
  (["gbk"], .packed .gbk),
  (["cp936", "ms936", "windows-936"], .packed .page936),
  (["gb18030"], .packed .gb18030),
  (["big5", "big-5", "big-five", "bigfive", "cn-big5", "csbig5"], .packed .big5),
  (["cp950"], .packed .page950),
  (["big5-hkscs", "big5hkscs", "big5-hkscs:1999", "big5-hkscs:2001", "big5-hkscs:2004",
    "big5-hkscs:2008"], .packed .hongKong),
  (["euc-tw", "euctw", "cseuctw"], .packed .eucTaiwan),
  (["euc-kr", "euckr", "cseuckr"], .packed .eucKorean),
  (["cp949", "uhc"], .packed .page949),
  (["johab", "cp1361"], .packed .johab),
  (["iso-2022-jp", "csiso2022jp"], .shifting .japanese),
  (["iso-2022-jp-1"], .shifting .japaneseFirst),
  (["iso-2022-jp-2", "csiso2022jp2"], .shifting .japaneseSecond),
  (["iso-2022-jp-ms", "cp50221"], .shifting .japaneseVendor),
  (["iso-2022-kr", "csiso2022kr"], .shifting .korean),
  (["iso-2022-cn", "csiso2022cn", "iso-2022-cn-ext"], .shifting .chinese),
  (["hz", "hz-gb-2312"], .shifting .tilde),
  (["jis_x0208", "jis_x0208-1983", "jis_x0208-1990", "jis0208", "x0208", "iso-ir-87",
    "jis_c6226-1983", "csiso87jisx0208", "jis_x0212", "jis_x0212.1990-0", "jis_x0212-1990",
    "x0212", "iso-ir-159", "csiso159jisx02121990", "gb_2312-80", "iso-ir-58", "csiso58gb231280",
    "chinese", "iso-ir-165", "cn-gb-isoir165", "ks_c_5601-1987", "ksc_5601", "ks_c_5601-1989",
    "iso-ir-149", "csksc56011987", "korean"], .bare)]

/-- The known pages. -/
def pages : List CodePage :=
  CodePage.latin ++ CodePage.vendor ++ CodePage.macintosh ++ CodePage.national

/-- The encoding with this name, in any case. -/
def ofName? (name : String) : Option Encoding :=
  let folded := String.ofList (name.toList.map Char.toLower)
  ((names.find? fun e => e.1.contains folded).map (·.2)).or
    ((pages.find? fun page => page.names.contains folded).map .page)

/-- The bytes of a unit, so many of them. -/
def unitBytes (order : ByteOrder) (width n : Nat) : List UInt8 :=
  let low := (List.range width).map fun i => UInt8.ofNat (n / Nat.pow 256 i)
  match order with
  | .little => low
  | .big => low.reverse

/-- The units of two bytes of a character. -/
def units (c : Char) : List Nat :=
  if c.toNat < 0x10000 then [c.toNat]
  else
    let n := c.toNat - 0x10000
    [0xd800 + n / 0x400, 0xdc00 + n % 0x400]

/-- The escape sequence of a character. -/
def escapeSequence (wide : Bool) (c : Char) : List Char :=
  if wide && 0x10000 ≤ c.toNat then '\\' :: 'U' :: Text.hex 8 c.toNat
  else (units c).flatMap fun unit => '\\' :: 'u' :: Text.hex 4 unit

/-- The bytes of a character that stands alone, without a byte order mark; nothing for a character
that is missing. -/
def charBytes? : Encoding → Char → Option (List UInt8)
  | .utf8, c => some (String.singleton c).toUTF8.toList
  | .utf16 _ order, c => some ((units c).flatMap (unitBytes order 2))
  | .utf32 _ order, c => some (unitBytes order 4 c.toNat)
  | .utf7, c => some (Utf7.write [c]).bytes
  | .ucs2 order, c => if c.toNat < 0x10000 then some (unitBytes order 2 c.toNat) else none
  | .escaped bound wide, c =>
    if c.toNat < bound then some [UInt8.ofNat c.toNat]
    else some ((escapeSequence wide c).map fun c => UInt8.ofNat c.toNat)
  | .latin1, c => if c.toNat < 256 then some [UInt8.ofNat c.toNat] else none
  | .ascii, c => if c.toNat < 128 then some [UInt8.ofNat c.toNat] else none
  | .page p, c => p.bytes? c
  | .packed p, c => p.bytes? c
  | .shifting s, c => (s.find? c).map (·.2)
  | .bare, _ => none

/-- A character by its number. -/
def numbered (c : Char) : List Char :=
  '&' :: '#' :: Nat.toDigits 10 c.toNat ++ [';']

/-- Whether a character is one of the old marks of language, which say nothing by themselves. -/
def isLanguageMark (c : Char) : Bool :=
  0xe0000 ≤ c.toNat ∧ c.toNat < 0xe0080

/-- Whether an encoding without marks of language leaves them out. -/
def dropsLanguageMarks : Encoding → Bool
  | .latin1 | .ascii => false
  | _ => true

/-- A text with a number for each character that the encoding lacks. -/
def fit (encoding : Encoding) (cs : List Char) : List Char :=
  cs.flatMap fun c =>
    if (encoding.charBytes? c).isSome then [c]
    else if encoding.dropsLanguageMarks && isLanguageMark c then []
    else numbered c

/-- The byte order mark, if there is one. -/
def mark : Encoding → List Char
  | .utf16 marked _ | .utf32 marked _ => if marked then ['\ufeff'] else []
  | _ => []

/-- The bytes of a text. -/
def bytes (encoding : Encoding) (cs : List Char) : List UInt8 :=
  match encoding with
  | .utf7 => (Utf7.write cs).bytes
  | .shifting s => s.bytes cs
  | _ => (encoding.mark ++ cs).flatMap fun c => (encoding.charBytes? c).getD []

/-- The encoding that a declaration of its own is written in: the one of the document, but that it
keeps ASCII where it can and has the low bytes first where a mark says so. -/
def ofDeclaration : Encoding → Encoding
  | .utf7 => .ascii
  | .utf32 true _ => .utf32 true .little
  | encoding => encoding

/-- What a reader takes a character for, if it can read it. -/
def reading? : Encoding → Char → Option (List Char)
  | .page p, c => p.reading? c
  | .packed p, c => p.reading? c
  | .shifting s, c => (s.reading? c).map ([·])
  | _, c => some [c]

/-- How a reader refuses the last character of bytes that it reads so far. `before` and `through`
are the numbers of bytes in front of the character and to its end. -/
def refusal (encoding : Encoding) (before through byte : Nat) : InvalidValue :=
  match encoding with
  | .shifting _ =>
    .notDecodable "iso2022_jp_2" (through - 3) (through - 1) none "illegal multibyte sequence"
  | .page _ => .notDecodable "charmap" before before (some byte) "character maps to <undefined>"
  | .packed .eucKorean =>
    .notDecodable "euc_kr" before before (some byte) "illegal multibyte sequence"
  | _ => .notDecodable "gbk" before before (some byte) "illegal multibyte sequence"

/-- What a reader takes a text for whose bytes begin at `start`. -/
def readingOf (encoding : Encoding) (start : Nat) (cs : List Char) : Except Fault (List Char) :=
  match cs.findIdx? fun c => (encoding.reading? c).isNone with
  | none => .ok (cs.flatMap fun c => (encoding.reading? c).getD [])
  | some i =>
    let before := encoding.bytes (cs.take i)
    let through := encoding.bytes (cs.take (i + 1))
    .error (.invalid (encoding.refusal (start + before.length) (start + through.length)
      (through.getD before.length 0).toNat))

/-- The setting that stands for a text without an encoding. -/
def isUndeclared (name : String) : Bool :=
  name.toList.map Char.toLower = "unicode".toList

/-- The encoding that a setting asks for; no setting asks for ASCII. -/
def ofSetting : Json → Except Fault Encoding
  | .null => .ok .ascii
  | .str name => do
    checkText name
    match ofName? name with
    | some encoding => .ok encoding
    | none => .error (.unknownEncoding name)
  | _ => .error .missingMember

/-- Refuses a setting whose bytes cannot be read as text again. -/
def checkReadable : Json → Except Fault Unit
  | .str name => if isEncodingName name then .ok () else .error (.unknownEncoding name)
  | _ => .error (.wrongKind .unsupported)

/-- Refuses a text that the encoding has no signs to mark up. -/
def checkMarkup (encoding : Encoding) : Except Fault Unit :=
  if encoding = .bare then .error .notWritable else .ok ()

/-- A text in UTF-8 lacks no character. -/
theorem fit_utf8 (cs : List Char) : fit .utf8 cs = cs := by
  simp [fit, charBytes?]

end Encoding

/-- The XML declaration of a document. -/
def declaration (d : Document) : List Char :=
  let encoding := match d.encoding with
    | .str name => name
    | _ => "ASCII"
  "<?xml version='".toList ++ d.version.text.toList ++ "' encoding='".toList ++ encoding.toList
    ++ "' standalone='".toList ++ (standaloneText d.standalone).toList ++ "'?>\n".toList

/-- A document as written: its encoding, the declaration and the root. Of version 1.1 the two parts
are encoded one by one. -/
structure Written where
  /-- The encoding. -/
  encoding : Encoding
  /-- The setting that asked for the encoding. -/
  setting : Json
  /-- What is encoded first. -/
  front : List Char
  /-- What is encoded next, if the parts are encoded one by one. -/
  back : Option (List Char)

namespace Written

/-- The bytes of a written document. -/
def bytes (w : Written) : List UInt8 :=
  match w.back with
  | none => w.encoding.bytes w.front
  | some back => w.encoding.ofDeclaration.bytes w.front ++ w.encoding.bytes back

/-- Refuses bytes that end in an open run of UTF-7 with bits left over. `start` is the number of
bytes in front of the text. -/
def checkRun (encoding : Encoding) (start : Nat) (cs : List Char) : Except Fault Unit :=
  match encoding with
  | .utf7 =>
    let out := Utf7.write cs
    match out.unfinished? with
    | none => .ok ()
    | some place =>
      .error (.invalid (.notDecodable "utf7" (start + place) (start + out.written.size - 1) none
        "unterminated shift sequence"))
  | _ => .ok ()

/-- The text that the bytes stand for. Of two byte order marks only the first is one; the second is
read as a character, or as none if its bytes are in the other order. -/
def text (w : Written) : Except Fault String := do
  Encoding.checkReadable w.setting
  match w.back with
  | none =>
    checkRun w.encoding 0 w.front
    return String.ofList (← w.encoding.readingOf 0 w.front)
  | some back =>
    let start := (w.encoding.ofDeclaration.bytes w.front).length
    if w.encoding.ofDeclaration ≠ w.encoding ∧ w.encoding ≠ .utf7 then
      .error (.invalid (.notDecodable "utf-32-le" start (start + 3) none
        "code point not in range(0x110000)"))
    checkRun w.encoding start back
    return String.ofList (w.front ++ w.encoding.mark ++ (← w.encoding.readingOf start back))

end Written

/-- Writes an element without a declaration. Also the names that were shortened on the way. -/
def writeElement (pretty : Bool) (e : Element) :
    Except Fault Written × List (String × String) :=
  let (tree, shortened) := ofElement e
  (tree.map fun t => ⟨.utf8, .str "utf-8", writeRoot pretty t, none⟩, shortened)

/-- Writes the tree of a document. A declaration of version 1.1 is encoded on its own, which needs
an encoding that can be read again. -/
def writeTree (pretty : Bool) (d : Document) (tree : Tree) : Except Fault Written := do
  let undeclared := match d.encoding with
    | .str name => Encoding.isUndeclared name
    | _ => false
  if undeclared && d.version = .first then .error (.invalid .undeclaredEncoding)
  else
    let encoding ← Encoding.ofSetting d.encoding
    encoding.checkMarkup
    let body := encoding.fit (writeRoot pretty tree)
    match d.version with
    | .first => .ok ⟨encoding, d.encoding, declaration d ++ body, none⟩
    | .second =>
      Encoding.checkReadable d.encoding
      .ok ⟨encoding, d.encoding, declaration d, some body⟩

/-- Writes a document. The encoding is looked up when the tree is ready. Also the names that were
shortened on the way. -/
def writeDocument (pretty : Bool) (d : Document) :
    Except Fault Written × List (String × String) :=
  let (tree, shortened) := ofElement d.root
  (tree.bind (writeTree pretty d), shortened)

end TagScript.Xml
