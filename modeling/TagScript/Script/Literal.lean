import TagScript.Text.Class
import TagScript.Token

/-!
# Strings with variables in them

What stands between double quotes: characters, characters after a backtick, and variables. The parts
are found from left to right, and a variable that is not closed is a problem only when the parts
before it are evaluated.
-/

namespace TagScript

/-- A part of a string in double quotes. -/
inductive StringPart where
  /-- A character. -/
  | char (c : Char)
  /-- The text of a variable. -/
  | variable (name : String)
  /-- A variable in braces that is not closed. -/
  | unterminated
  deriving Repr, DecidableEq

namespace StringPart

/-- The character that a backtick and a character stand for. -/
def escaped (c : Char) : Char :=
  match c with
  | 'n' => '\n'
  | 't' => '\t'
  | 'r' => '\r'
  | '0' => '\x00'
  | 'a' => '\x07'
  | 'b' => '\x08'
  | 'f' => '\x0c'
  | 'v' => '\x0b'
  | 'e' => '\x1b'
  | c => c

/-- The part that begins with a character, and how many characters after it belong to it. -/
def next (c : Char) (rest : List Char) : StringPart × Nat :=
  match c, rest with
  | '`', d :: _ => (.char (escaped d), 1)
  | '"', '"' :: _ => (.char '"', 1)
  | '$', '{' :: inner =>
    let name := inner.takeWhile (· ≠ '}')
    if inner.contains '}' then (.variable (String.ofList name), name.length + 2)
    else (.unterminated, rest.length)
  | '$', _ =>
    let name := rest.takeWhile Text.isNameChar
    if name.isEmpty then (.char '$', 0) else (.variable (String.ofList name), name.length)
  | c, _ => (.char c, 0)

/-- The parts of a text after `skip` characters that belong to a part found before. -/
def ofChars (skip : Nat) : List Char → List StringPart
  | [] => []
  | c :: rest =>
    match skip with
    | skip + 1 => ofChars skip rest
    | 0 =>
      let (part, more) := next c rest
      part :: ofChars more rest

/-- A text without special characters is its characters. -/
theorem ofChars_plain {cs : List Char} (h : ∀ c ∈ cs, c ≠ '`' ∧ c ≠ '"' ∧ c ≠ '$') :
    ofChars 0 cs = cs.map .char := by
  induction cs with
  | nil => rfl
  | cons c cs ih =>
    obtain ⟨h₁, h₂, h₃⟩ := h c (by simp)
    have : next c cs = (.char c, 0) := by
      unfold next
      split <;> simp_all
    simp [ofChars, this, ih fun d hd => h d (by simp [hd])]

end StringPart

end TagScript
