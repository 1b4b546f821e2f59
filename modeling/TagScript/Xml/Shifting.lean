import TagScript.Xml.CharSet

/-!
# Shifting encodings

Encodings of two to eight sets of characters in bytes below 128. What a byte means depends on what
came before it: a set is named by an escape sequence before its first character, and the text goes
back to ASCII in the same way.
-/

namespace TagScript.Xml

/-- How a set is used once it is named. -/
inductive SetUse where
  /-- In place of the set before. -/
  | direct
  /-- Beside ASCII, between a byte that shifts out and one that shifts in. -/
  | shifted
  /-- For one character at a time, each behind a sequence of two bytes. -/
  | single
  deriving Repr, DecidableEq

/-- A set of characters in a shifting encoding. -/
structure NamedSet where
  /-- The set. -/
  set : CharSet
  /-- How it is used. -/
  use : SetUse
  /-- The sequence that names it. -/
  sequence : List UInt8
  deriving Repr, DecidableEq

/-- A shifting encoding. -/
inductive Shifting where
  /-- ISO-2022-JP. -/
  | japanese
  /-- ISO-2022-JP-1. -/
  | japaneseFirst
  /-- ISO-2022-JP-2. -/
  | japaneseSecond
  /-- ISO-2022-JP-MS. -/
  | japaneseVendor
  /-- ISO-2022-KR. -/
  | korean
  /-- ISO-2022-CN. -/
  | chinese
  /-- HZ. -/
  | tilde
  deriving Repr, DecidableEq

namespace Shifting

/-- The byte that begins escape sequences. -/
def escape : UInt8 := 0x1b

/-- The byte that shifts out of ASCII. -/
def shiftOut : UInt8 := 0x0e

/-- The byte that shifts into ASCII. -/
def shiftIn : UInt8 := 0x0f

/-- The bytes of a sequence of characters of ASCII. -/
def ascii (text : String) : List UInt8 :=
  text.toList.map fun c => UInt8.ofNat c.toNat

/-- A set that an escape sequence with these characters names. -/
def named (set : CharSet) (use : SetUse) (text : String) : NamedSet :=
  ⟨set, use, escape :: ascii text⟩

/-- The sets of ISO-2022-JP. -/
def japaneseSets : List NamedSet := [
  named .ascii .direct "(B", named .roman .direct "(J", named .kanji .direct "$B"]

/-- The set that ISO-2022-JP-1 adds. -/
def supplement : NamedSet :=
  named .kanjiSupplement .direct "$(D"

/-- The sets of an encoding; a character is taken from the first one that has it. -/
def sets : Shifting → List NamedSet
  | .japanese => japaneseSets
  | .japaneseFirst => japaneseSets ++ [supplement]
  | .japaneseSecond => japaneseSets ++ [supplement, named .latin .single ".A",
      named .greek .single ".F", named .hanzi .direct "$A", named .hanja .direct "$(C"]
  | .japaneseVendor => [
      named .ascii .direct "(B", named .roman .direct "(J", named .katakana .direct "(I",
      named .kanji .direct "$B", supplement]
  | .korean => [named .ascii .direct "(B", named .hanja .shifted "$)C"]
  | .chinese => [
      named .ascii .direct "(B", named .hanzi .shifted "$)A", named .cnsFirst .shifted "$)G",
      named .cnsSecond .single "$*H"]
  | .tilde => [⟨.asciiTwoTildes, .direct, ascii "~\x7d"⟩, ⟨.hanzi, .direct, ascii "~\x7b"⟩]

/-- The set that a text begins with. -/
def firstSet : Shifting → CharSet
  | .tilde => .asciiTwoTildes
  | _ => .ascii

/-- The set for a character and the character's code in it. -/
def find? (shifting : Shifting) (c : Char) : Option (NamedSet × List UInt8) :=
  shifting.sets.findSome? fun s => (s.set.code? c).map (s, ·)

/-- The signs that ISO 8859-7 has only in its second edition. -/
def laterGreek : List Char :=
  ['€', '₯', 'ͺ']

/-- What a reader takes a character for, if it can read it: the wide tilde of JIS X 0212 is that of
ASCII, and the later signs of ISO 8859-7 are unknown. -/
def reading? (shifting : Shifting) (c : Char) : Option Char :=
  match shifting.find? c with
  | some (⟨.kanjiSupplement, _, _⟩, _) => some (if c = '～' then '~' else c)
  | some (⟨.greek, _, _⟩, _) => if c ∈ laterGreek then none else some c
  | _ => some c

/-- What a byte means at some point of a text. -/
structure Shift where
  /-- The set in use. -/
  direct : CharSet
  /-- The set to shift to, if one was named on this line. -/
  shifted : Option CharSet
  /-- The set for single characters, if one was named on this line. -/
  single : Option CharSet
  /-- Whether the text is shifted out of ASCII. -/
  isOut : Bool
  deriving Repr, DecidableEq

/-- The bytes of a character at some point of a text, and the point behind it. -/
def step (shift : Shift) (s : NamedSet) (code : List UInt8) : Shift × List UInt8 :=
  match s.use with
  | .direct =>
    ({ shift with direct := s.set, isOut := false },
      (if shift.isOut then [shiftIn] else []) ++ (if shift.direct = s.set then [] else s.sequence)
        ++ code)
  | .shifted =>
    ({ shift with shifted := some s.set, isOut := true },
      (if shift.shifted = some s.set then [] else s.sequence)
        ++ (if shift.isOut then [] else [shiftOut]) ++ code)
  | .single =>
    ({ shift with single := some s.set },
      (if shift.single = some s.set then [] else s.sequence) ++ escape :: ascii "N" ++ code)

/-- Whether a character ends a line, and with it the use of most sets. -/
def endsLine (c : Char) : Bool :=
  c = '\n' || c = '\x0d'

/-- The bytes of a text from some point on, in front of others. Characters that the encoding lacks
are left out. -/
def bytesFrom (shifting : Shifting) (shift : Shift) (done : Array UInt8) :
    List Char → Array UInt8
  | [] => done
  | c :: rest =>
    match shifting.find? c with
    | none => bytesFrom shifting shift done rest
    | some (s, code) =>
      let (next, bytes) := step shift s code
      let next := if endsLine c then { next with shifted := none, single := none } else next
      bytesFrom shifting next (done ++ bytes.toArray) rest

/-- The bytes of a text. -/
def bytes (shifting : Shifting) (cs : List Char) : List UInt8 :=
  (shifting.bytesFrom ⟨shifting.firstSet, none, none, false⟩ #[] cs).toList

/-- No text has no bytes. -/
theorem bytes_nil (shifting : Shifting) : shifting.bytes [] = [] := rfl

end Shifting

end TagScript.Xml
