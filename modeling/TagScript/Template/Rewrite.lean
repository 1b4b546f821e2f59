import TagScript.Registry
import TagScript.Text.Lines
import TagScript.Token

/-!
# Writing element words as constructor calls

Each element word is replaced, in its place, by the constructor command and the resolved name of the
element as a literal. Words are replaced from the last to the first: a replacement moves only the
text behind it, so the places of the words that are still to come stay true.
-/

namespace TagScript

/-- Whether a position stands before another. -/
def Position.isBefore (p q : Position) : Bool :=
  p.line < q.line || (p.line == q.line && p.column < q.column)

/-- Replaces `length` characters at a place of a list of lines. -/
def splice (lines : List (List Char)) (pos : Position) (length : Nat) (replacement : List Char) :
    List (List Char) :=
  lines.modify (pos.line - 1) fun line =>
    line.take (pos.column - 1) ++ replacement ++ line.drop (pos.column - 1 + length)

/-- `splice` at a place whose line must exist. -/
def splice? (lines : List (List Char)) (pos : Position) (length : Nat) (replacement : List Char) :
    Except Fault (List (List Char)) :=
  if pos.line ≤ lines.length then .ok (splice lines pos length replacement)
  else .error .outOfRange

/-- What an element word with the name `clark` is replaced by. -/
def constructorCall (constructorName clark : String) : String :=
  constructorName ++ " " ++ Text.literal clark

/-- The name of an element word, and whether its prefix is bound. -/
def resolveWord (registry : Registry) (word : Token) : Except Fault (QName × Bool) :=
  registry.resolve word.text

/-- The words from the last to the first; words at one place keep their order. -/
def backwards (words : List Token) : List Token :=
  words.mergeSort fun a b => !a.pos.isBefore b.pos

/-- Whether the prefix of an element word is unbound. -/
def isUnresolved (registry : Registry) (word : Token) : Bool :=
  match resolveWord registry word with
  | .ok (_, resolved) => !resolved
  | .error _ => false

/-- The words whose prefix is unbound, in the order in which rewriting comes to them. -/
def unresolvedInRewriting (words : List Token) (registry : Registry) : List Token :=
  (backwards words).filter (isUnresolved registry)

/-- Replaces one word of a list of lines. -/
def rewriteWord (registry : Registry) (constructorName : String) (lines : List (List Char))
    (word : Token) : Except Fault (List (List Char)) := do
  let (name, _) ← resolveWord registry word
  splice? lines word.pos word.length (constructorCall constructorName name.clark).toList

/-- The text in which every listed word is a constructor call. -/
def rewrite (source : String) (words : List Token) (registry : Registry)
    (constructorName : String) : Except Fault String := do
  if words.isEmpty then .ok source
  else
    let lines ← (backwards words).foldlM (rewriteWord registry constructorName)
      (Text.splitLines source.toList)
    .ok (String.ofList (Text.joinLines lines))

/-- A text without element words stays as it is. -/
theorem rewrite_nil (source : String) (registry : Registry) (constructorName : String) :
    rewrite source [] registry constructorName = .ok source := rfl

end TagScript
