import TagScript.Token

/-!
# Element words

A bare word at the beginning of a statement is a command or the name of an element. Command names
hold a hyphen or are known to the command table; every other such word names an element.
-/

namespace TagScript

/-- Whether a token names an element, when `known` says which words are commands. -/
def Token.isElementWord (known : String → Bool) (t : Token) : Bool :=
  t.kind == .command && !t.text.toList.contains '-' && !known t.text

/-- The element words among tokens, in order. Words inside brace groups are left out when only the
top level counts; they are looked for when their group is compiled. -/
def Token.elementWords (known : String → Bool) (topLevelOnly : Bool) (ts : List Token) :
    List Token :=
  ts.filter fun t => (!topLevelOnly || t.depth == 0) && t.isElementWord known

/-- An element word is never one that the command table knows. -/
theorem Token.not_known_of_isElementWord {known : String → Bool} {t : Token}
    (h : t.isElementWord known = true) : known t.text = false := by
  simp only [isElementWord, Bool.and_eq_true, Bool.not_eq_true'] at h
  exact h.2

end TagScript
