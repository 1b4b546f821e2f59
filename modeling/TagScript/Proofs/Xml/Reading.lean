import TagScript.Proofs.Xml.Accepted
import TagScript.Xml.Writer

/-!
# Reading markup by the rules of namespaces

A reader of elements, their attributes in double quotes, and texts. It takes one character at a
time and keeps the elements that are open with what is bound inside them. An element is in the
namespace that its prefix is bound to, or without a prefix in the default one; an attribute without
a prefix is in no namespace.

* `Markup.read` — the names of the elements and of their attributes in a text, in their order.
* `Node.marks`, `Tree.marks` — the names that are expected.
* `Tree.Sound` — every prefix in a tree is bound to the URI of its name.
* **`Markup.read_writeRoot`** — the text of a sound tree is read as the names in it.
-/

namespace TagScript.Xml

namespace Markup

/-- What is met in markup. -/
inductive Mark where
  /-- An element begins: its name, and the names of its attributes that declare nothing. -/
  | start (name : QName) (attributes : List QName)
  /-- An element ends. -/
  | stop
  deriving DecidableEq

/-- A start tag as far as it was read: the name, and labels and values in quotes. -/
structure Tag where
  /-- The name as written. -/
  name : List Char
  /-- The labels and values. -/
  settings : List (List Char × List Char) := []

/-- Where the reader stands. -/
inductive Mode where
  /-- Outside of tags. -/
  | text
  /-- Behind the bracket that opens a tag. -/
  | opened
  /-- In the name of a start tag. -/
  | name (read : List Char)
  /-- Between the settings of a start tag. -/
  | between (tag : Tag)
  /-- In a label. -/
  | label (tag : Tag) (read : List Char)
  /-- Behind a label and its equals sign. -/
  | equals (tag : Tag) (label : List Char)
  /-- In a value. -/
  | value (tag : Tag) (label read : List Char)
  /-- In a reference in a value. -/
  | reference (tag : Tag) (label read ref : List Char)
  /-- Behind the quotes of a value. -/
  | quoted (tag : Tag)
  /-- Behind the slash of an element without content. -/
  | slash (tag : Tag)
  /-- In an end tag. -/
  | ending (read : List Char)

/-- The reader: where it stands, the names and the bindings of the open elements, innermost first,
and what it has met. -/
structure Reader where
  /-- Where it stands. -/
  mode : Mode
  /-- The open elements. -/
  stack : List (List Char × Declarations)
  /-- What it has met. -/
  marks : List Mark

/-- The character that a reference stands for. -/
def referenced : List Char → Option Char
  | ['a', 'm', 'p'] => some '&'
  | ['l', 't'] => some '<'
  | ['g', 't'] => some '>'
  | ['q', 'u', 'o', 't'] => some '"'
  | ['a', 'p', 'o', 's'] => some '\''
  | '#' :: digits =>
    if digits ≠ [] ∧ digits.all Char.isDigit then
      some (Char.ofNat (digits.foldl (fun n c => 10 * n + (c.toNat - '0'.toNat)) 0))
    else none
  | _ => none

/-- Whether a character parts the pieces of a tag. -/
def isBlank (c : Char) : Bool :=
  c == ' ' || c == '\t' || c == '\n' || c == '\r'

/-- The declaration that a label and its value make. -/
def declaration? : List Char × List Char → Option (Option String × String)
  | (['x', 'm', 'l', 'n', 's'], value) => some (none, String.ofList value)
  | ('x' :: 'm' :: 'l' :: 'n' :: 's' :: ':' :: pfx, value) =>
    some (some (String.ofList pfx), String.ofList value)
  | _ => none

/-- The URI that a prefix is bound to. -/
def bound (bindings : Declarations) (pfx : String) : Option String :=
  if pfx = "xml" then some xmlUri else Fields.get? bindings (some pfx)

/-- The name of an element. Without a prefix it is in the default namespace, if there is one. -/
def elementName (bindings : Declarations) (written : List Char) : Option QName :=
  match splitColon (String.ofList written) with
  | some (pfx, localName) => (bound bindings pfx).map fun uri => ⟨localName, uri⟩
  | none =>
    let uri := Fields.get? bindings none
    some ⟨String.ofList written, if uri = some "" then none else uri⟩

/-- The name of an attribute. Without a prefix it is in no namespace. -/
def attributeName (bindings : Declarations) (written : List Char) : Option QName :=
  match splitColon (String.ofList written) with
  | some (pfx, localName) => (bound bindings pfx).map fun uri => ⟨localName, uri⟩
  | none => some ⟨String.ofList written, none⟩

/-- The bindings inside the innermost open element. -/
def innermost : List (List Char × Declarations) → Declarations
  | (_, bindings) :: _ => bindings
  | [] => []

/-- The end of a start tag: the element is open. -/
def Reader.start (r : Reader) (tag : Tag) : Option Reader := do
  let bindings := tag.settings.filterMap declaration? ++ innermost r.stack
  let name ← elementName bindings tag.name
  let plain := tag.settings.filter fun setting => (declaration? setting).isNone
  let names ← plain.mapM fun setting => attributeName bindings setting.1
  some ⟨.text, (tag.name, bindings) :: r.stack, r.marks ++ [.start name names]⟩

/-- The end of an element with this name. -/
def Reader.stop (r : Reader) (name : List Char) : Option Reader :=
  match r.stack with
  | (opened, _) :: rest =>
    if opened = name then some ⟨.text, rest, r.marks ++ [.stop]⟩ else none
  | [] => none

/-- What follows a piece of a start tag. -/
def Reader.behind (r : Reader) (tag : Tag) (c : Char) (otherwise : Option Mode) : Option Reader :=
  if isBlank c then some { r with mode := .between tag }
  else if c = '/' then some { r with mode := .slash tag }
  else if c = '>' then r.start tag
  else otherwise.map fun mode => { r with mode }

/-- Reads one character. -/
def Reader.step (r : Reader) (c : Char) : Option Reader :=
  match r.mode with
  | .text => some (if c = '<' then { r with mode := .opened } else r)
  | .opened =>
    if c = '/' then some { r with mode := .ending [] }
    else if isNameStart c then some { r with mode := .name [c] }
    else none
  | .name read => r.behind ⟨read, []⟩ c (some (.name (read ++ [c])))
  | .between tag => r.behind tag c (some (.label tag [c]))
  | .label tag read =>
    some { r with mode := if c = '=' then .equals tag read else .label tag (read ++ [c]) }
  | .equals tag label => if c = '"' then some { r with mode := .value tag label [] } else none
  | .value tag label read =>
    if c = '"' then
      some { r with mode := .quoted { tag with settings := tag.settings ++ [(label, read)] } }
    else if c = '&' then some { r with mode := .reference tag label read [] }
    else some { r with mode := .value tag label (read ++ [if isBlank c then ' ' else c]) }
  | .reference tag label read ref =>
    if c = ';' then
      (referenced ref).map fun d => { r with mode := .value tag label (read ++ [d]) }
    else some { r with mode := .reference tag label read (ref ++ [c]) }
  | .quoted tag => r.behind tag c none
  | .slash tag => if c = '>' then (r.start tag).bind fun r' => r'.stop tag.name else none
  | .ending read =>
    if c = '>' then r.stop read else some { r with mode := .ending (read ++ [c]) }

/-- Reads a row of characters. -/
def Reader.run (r : Reader) (cs : List Char) : Option Reader :=
  cs.foldlM Reader.step r

/-- The names in a text: none if it is no markup, or if something is left open. -/
def read (cs : List Char) : Option (List Mark) :=
  match Reader.run ⟨.text, [], []⟩ cs with
  | some ⟨.text, [], marks⟩ => some marks
  | _ => none

end Markup

/-! ## Trees that can be read -/

open Markup

/-- A name as a qualified name. -/
def TagName.expanded (name : TagName) : QName :=
  ⟨name.localName, name.uri⟩

mutual

/-- What is met when the text of a tree is read. -/
def Tree.marks : Tree → List Mark
  | .element name _ attributes content =>
    .start name.expanded (attributes.map (·.name.expanded)) :: (Tree.marksAll content ++ [.stop])
  | .text _ | .comment _ | .instruction .. => []

/-- What is met when the text of a row of trees is read. -/
def Tree.marksAll : List Tree → List Mark
  | [] => []
  | t :: ts => t.marks ++ Tree.marksAll ts

end

/-- A name whose parts are names of XML. -/
structure TagName.Written (name : TagName) : Prop where
  localPart : isName name.localName = true
  pfx : ∀ p ∈ name.pfx, isName p = true

/-- The name of an element is read as it is: its prefix is bound to its URI, and without a URI there
is no default namespace. -/
structure TagName.Sound (inside : Declarations) (name : TagName) : Prop extends name.Written where
  bound : ∀ p ∈ name.pfx, Markup.bound inside p = name.uri ∧ name.uri.isSome = true
  unbound : name.pfx = none → Fields.get? inside none = name.uri ∧ name.uri ≠ some ""

/-- The name of an attribute is read as it is: with a URI it has a prefix that is bound to it, and it
is no declaration. -/
structure TagAttribute.Sound (inside : Declarations) (a : TagAttribute) : Prop
    extends a.name.Written where
  bound : ∀ p ∈ a.name.pfx, Markup.bound inside p = a.name.uri ∧ a.name.uri.isSome = true
  unbound : a.name.pfx = none → a.name.uri = none
  ne_xmlns : a.name.pfx.getD a.name.localName ≠ "xmlns"

/-- A declaration that can be written: of a prefix that markup does not keep for itself, or of the
default namespace. -/
def WritableDeclaration (d : Option String × String) : Prop :=
  ∀ p ∈ d.1, isName p = true ∧ p ≠ "xml"

mutual

/-- Every name in the tree is read as it is when it stands inside of these bindings. -/
def Tree.Sound (outside : Declarations) : Tree → Prop
  | .element name declarations attributes content =>
    (∀ d ∈ declarations, WritableDeclaration d) ∧ name.Sound (declarations ++ outside) ∧
      (∀ a ∈ attributes, a.Sound (declarations ++ outside)) ∧
      Tree.SoundAll (declarations ++ outside) content
  | .text _ => True
  | .comment _ | .instruction .. => False

/-- Every name in the trees is read as it is. -/
def Tree.SoundAll (outside : Declarations) : List Tree → Prop
  | [] => True
  | t :: ts => t.Sound outside ∧ Tree.SoundAll outside ts

end

namespace Markup

variable {stack : List (List Char × Declarations)} {marks : List Mark} {tag : Tag}

/-! ## Reading what was written -/

theorem Reader.run_append (r : Reader) (cs ds : List Char) :
    r.run (cs ++ ds) = (r.run cs).bind fun r' => r'.run ds :=
  List.foldlM_append

theorem Reader.run_cons (r : Reader) (c : Char) (cs : List Char) :
    r.run (c :: cs) = (r.step c).bind fun r' => r'.run cs :=
  List.foldlM_cons

/-- Outside of tags, everything but an opening bracket is passed over. -/
theorem Reader.run_text {cs : List Char} (h : '<' ∉ cs) :
    Reader.run ⟨.text, stack, marks⟩ cs = some ⟨.text, stack, marks⟩ := by
  induction cs with
  | nil => rfl
  | cons c cs ih =>
    have hc : c ≠ '<' := fun heq => h (heq ▸ List.mem_cons_self)
    rw [Reader.run_cons, Reader.step]
    simp only [if_neg hc, Option.bind_some]
    exact ih fun hmem => h (List.mem_cons_of_mem c hmem)

/-- No opening bracket is written for a text. -/
theorem not_mem_writeTextChar (value : List Char) : '<' ∉ value.flatMap writeTextChar := by
  intro h
  obtain ⟨c, -, hc⟩ := List.mem_flatMap.mp h
  rw [writeTextChar] at hc
  split at hc
  · simp at hc
  split at hc
  · simp at hc
  split at hc
  · simp at hc
  split at hc
  · simp at hc
  · rename_i hne _ _
    exact hne (List.mem_singleton.mp hc).symm

/-- Characters that a name or a label may hold, colons included. -/
def Plain (cs : List Char) : Prop :=
  ∀ c ∈ cs, isNameInner c = true ∨ c = ':'

theorem plain_written {name : TagName} (h : name.Written) : Plain name.written.toList := by
  intro c hc
  rw [TagName.written] at hc
  cases hp : name.pfx with
  | none =>
    rw [hp] at hc
    exact .inl (isNameInner_of_mem h.localPart hc)
  | some p =>
    rw [hp, String.toList_append, String.toList_append] at hc
    rcases List.mem_append.mp hc with hc | hc
    · rcases List.mem_append.mp hc with hc | hc
      · exact .inl (isNameInner_of_mem (h.pfx p hp) hc)
      · exact .inr (List.mem_singleton.mp hc)
    · exact .inl (isNameInner_of_mem h.localPart hc)

/-- No character of a name or a label ends it. -/
theorem Plain.head {c : Char} {cs : List Char} (h : Plain (c :: cs)) :
    isBlank c = false ∧ c ≠ '/' ∧ c ≠ '>' ∧ c ≠ '=' := by
  have hne : ∀ d : Char, isNameInner d = false → d ≠ ':' → c ≠ d := by
    rintro d hd hcolon rfl
    rcases h c List.mem_cons_self with hname | heq
    · exact Bool.noConfusion (hd.symm.trans hname)
    · exact hcolon heq
  refine ⟨?_, hne _ rfl (by decide), hne _ rfl (by decide), hne _ rfl (by decide)⟩
  simp [isBlank, hne ' ' rfl (by decide), hne '\t' rfl (by decide), hne '\n' rfl (by decide),
    hne '\r' rfl (by decide)]

theorem Plain.tail {c : Char} {cs : List Char} (h : Plain (c :: cs)) : Plain cs :=
  fun d hd => h d (List.mem_cons_of_mem c hd)

theorem Reader.run_name {cs : List Char} (h : Plain cs) (read : List Char) :
    Reader.run ⟨.name read, stack, marks⟩ cs = some ⟨.name (read ++ cs), stack, marks⟩ := by
  induction cs generalizing read with
  | nil => rw [List.append_nil]; rfl
  | cons c cs ih =>
    obtain ⟨hblank, hslash, hclose, -⟩ := h.head
    have hnext := ih h.tail (read ++ [c])
    rw [List.append_assoc, List.singleton_append] at hnext
    rw [Reader.run_cons, Reader.step]
    simp only [Reader.behind, hblank, if_neg hslash, if_neg hclose]
    exact hnext

theorem Reader.run_label {cs : List Char} (h : Plain cs) (read : List Char) :
    Reader.run ⟨.label tag read, stack, marks⟩ cs =
      some ⟨.label tag (read ++ cs), stack, marks⟩ := by
  induction cs generalizing read with
  | nil => rw [List.append_nil]; rfl
  | cons c cs ih =>
    have hnext := ih h.tail (read ++ [c])
    rw [List.append_assoc, List.singleton_append] at hnext
    rw [Reader.run_cons, Reader.step]
    simp only [if_neg h.head.2.2.2]
    exact hnext

theorem Reader.run_ending {cs : List Char} (h : Plain cs) (read : List Char) :
    Reader.run ⟨.ending read, stack, marks⟩ cs = some ⟨.ending (read ++ cs), stack, marks⟩ := by
  induction cs generalizing read with
  | nil => rw [List.append_nil]; rfl
  | cons c cs ih =>
    have hnext := ih h.tail (read ++ [c])
    rw [List.append_assoc, List.singleton_append] at hnext
    rw [Reader.run_cons, Reader.step]
    simp only [if_neg h.head.2.2.1]
    exact hnext

theorem Reader.run_reference {label read cs : List Char} (h : ';' ∉ cs) (ref : List Char) :
    Reader.run ⟨.reference tag label read ref, stack, marks⟩ cs =
      some ⟨.reference tag label read (ref ++ cs), stack, marks⟩ := by
  induction cs generalizing ref with
  | nil => rw [List.append_nil]; rfl
  | cons c cs ih =>
    have hc : c ≠ ';' := fun heq => h (heq ▸ List.mem_cons_self)
    have hnext := ih (fun hmem => h (List.mem_cons_of_mem c hmem)) (ref ++ [c])
    rw [List.append_assoc, List.singleton_append] at hnext
    rw [Reader.run_cons, Reader.step]
    simp only [if_neg hc]
    exact hnext

/-- A character of a value is read back, escaped or not. -/
theorem Reader.run_valueChar {label read : List Char} (c : Char) :
    Reader.run ⟨.value tag label read, stack, marks⟩ (writeValueChar c) =
      some ⟨.value tag label (read ++ [c]), stack, marks⟩ := by
  have hescaped : ∀ ref : List Char, ';' ∉ ref → referenced ref = some c →
      Reader.run ⟨.value tag label read, stack, marks⟩ ('&' :: (ref ++ [';'])) =
        some ⟨.value tag label (read ++ [c]), stack, marks⟩ := by
    intro ref hopen href
    rw [Reader.run_cons, Reader.step]
    change Reader.run ⟨.reference tag label read [], stack, marks⟩ (ref ++ [';']) = _
    rw [Reader.run_append, Reader.run_reference hopen]
    change (referenced ref).map _ >>= _ = _
    rw [href]
    rfl
  rw [writeValueChar, writeTextChar]
  split
  · rename_i heq
    exact hescaped ['q', 'u', 'o', 't'] (by decide) (heq ▸ rfl)
  split
  · rename_i heq
    exact hescaped ['#', '1', '0'] (by decide) (heq ▸ rfl)
  split
  · rename_i heq
    exact hescaped ['#', '9'] (by decide) (heq ▸ rfl)
  split
  · rename_i heq
    exact hescaped ['a', 'm', 'p'] (by decide) (heq ▸ rfl)
  split
  · rename_i heq
    exact hescaped ['l', 't'] (by decide) (heq ▸ rfl)
  split
  · rename_i heq
    exact hescaped ['g', 't'] (by decide) (heq ▸ rfl)
  split
  · rename_i heq
    exact hescaped ['#', '1', '3'] (by decide) (heq ▸ rfl)
  · rename_i hquote hline htab hamp _ _ hreturn
    have hsame : (if isBlank c then ' ' else c) = c := by
      split
      · rename_i hblank
        simp only [isBlank, beq_eq_false_iff_ne.mpr hline, beq_eq_false_iff_ne.mpr htab,
          beq_eq_false_iff_ne.mpr hreturn, Bool.or_false, beq_iff_eq] at hblank
        exact hblank.symm
      · rfl
    rw [Reader.run_cons, Reader.step]
    simp only [if_neg hquote, if_neg hamp, hsame]
    rfl

/-- A value is read back. -/
theorem Reader.run_value {label : List Char} (value read : List Char) :
    Reader.run ⟨.value tag label read, stack, marks⟩ (value.flatMap writeValueChar) =
      some ⟨.value tag label (read ++ value), stack, marks⟩ := by
  induction value generalizing read with
  | nil => rw [List.append_nil]; rfl
  | cons c value ih =>
    rw [List.flatMap_cons, Reader.run_append, Reader.run_valueChar, Option.bind_some, ih,
      List.append_assoc, List.singleton_append]

/-- The reader stands behind a piece of a start tag: behind the name, or behind a value. -/
inductive Mode.IsBehind (tag : Tag) : Mode → Prop
  /-- Behind the name. -/
  | name (unset : tag.settings = []) : IsBehind tag (.name tag.name)
  /-- Behind the quotes of a value. -/
  | quoted : IsBehind tag (.quoted tag)

/-- A label and a value as they are written in a start tag. -/
def writeSetting (setting : List Char × List Char) : List Char :=
  ' ' :: setting.1 ++ '=' :: '"' :: setting.2.flatMap writeValueChar ++ ['"']

/-- A setting is read behind the others. -/
theorem Reader.run_setting {mode : Mode} (hmode : mode.IsBehind tag)
    {setting : List Char × List Char} (hne : setting.1 ≠ []) (hplain : Plain setting.1) :
    Reader.run ⟨mode, stack, marks⟩ (writeSetting setting) =
      some ⟨.quoted { tag with settings := tag.settings ++ [setting] }, stack, marks⟩ := by
  obtain ⟨label, value⟩ := setting
  obtain ⟨c, rest, rfl⟩ := List.exists_cons_of_ne_nil hne
  obtain ⟨hblank, hslash, hclose, -⟩ := hplain.head
  have hbetween : Reader.step ⟨mode, stack, marks⟩ ' ' = some ⟨.between tag, stack, marks⟩ := by
    cases hmode with
    | name hunset =>
      have htag : (⟨tag.name, []⟩ : Tag) = tag := by rw [← hunset]
      rw [Reader.step]
      simp only [htag]
      rfl
    | quoted => rfl
  have hfirst : Reader.step ⟨.between tag, stack, marks⟩ c =
      some ⟨.label tag [c], stack, marks⟩ := by
    rw [Reader.step]
    simp only [Reader.behind, hblank, if_neg hslash, if_neg hclose]
    rfl
  have hwritten : writeSetting (c :: rest, value) =
      ' ' :: c :: (rest ++ ('=' :: '"' :: (value.flatMap writeValueChar ++ ['"']))) := by
    simp [writeSetting]
  rw [hwritten, Reader.run_cons, hbetween, Option.bind_some, Reader.run_cons, hfirst,
    Option.bind_some, Reader.run_append, Reader.run_label hplain.tail, Option.bind_some]
  change Reader.run ⟨.value tag ([c] ++ rest) [], stack, marks⟩
    (value.flatMap writeValueChar ++ ['"']) = _
  rw [Reader.run_append, Reader.run_value]
  rfl

/-- Settings are read behind the others. -/
theorem Reader.run_settings {mode : Mode} (hmode : mode.IsBehind tag)
    {settings : List (List Char × List Char)}
    (h : ∀ setting ∈ settings, setting.1 ≠ [] ∧ Plain setting.1) :
    ∃ mode', Reader.run ⟨mode, stack, marks⟩ (settings.flatMap writeSetting) =
        some ⟨mode', stack, marks⟩ ∧
      mode'.IsBehind { tag with settings := tag.settings ++ settings } := by
  induction settings generalizing tag mode with
  | nil => exact ⟨mode, rfl, by rwa [List.append_nil]⟩
  | cons setting settings ih =>
    obtain ⟨hne, hplain⟩ := h setting List.mem_cons_self
    let next : Tag := { tag with settings := tag.settings ++ [setting] }
    have hquoted : Mode.IsBehind next (.quoted next) := .quoted
    obtain ⟨mode', hrun, hbehind⟩ := ih hquoted
      fun s hs => h s (List.mem_cons_of_mem setting hs)
    refine ⟨mode', ?_, ?_⟩
    · rw [List.flatMap_cons, Reader.run_append, Reader.run_setting hmode hne hplain]
      exact hrun
    · simp only [next, List.append_assoc, List.singleton_append] at hbehind
      exact hbehind

/-! ## Names in a start tag -/

/-- The label and the value of a declaration. -/
def declarationSetting (d : Option String × String) : List Char × List Char :=
  (match d.1 with
    | some pfx => "xmlns:".toList ++ pfx.toList
    | none => "xmlns".toList, d.2.toList)

/-- The label and the value of an attribute. -/
def attributeSetting (a : TagAttribute) : List Char × List Char :=
  (a.name.written.toList, a.value.toList)

theorem writeDeclaration_eq {d : Option String × String} (h : WritableDeclaration d) :
    writeDeclaration d = writeSetting (declarationSetting d) := by
  have hne : d.1 ≠ some "xml" := fun heq => (h "xml" heq).2 rfl
  rw [writeDeclaration]
  simp only [if_neg hne]
  rfl

theorem plain_declarationSetting {d : Option String × String} (h : WritableDeclaration d) :
    Plain (declarationSetting d).1 := by
  have hreserved : Plain "xmlns".toList := by
    intro c hc
    have hall : "xmlns".toList.all isNameInner = true := by decide
    exact .inl (List.all_eq_true.mp hall c hc)
  intro c hc
  obtain ⟨pfx, uri⟩ := d
  cases pfx with
  | none => exact hreserved c hc
  | some pfx =>
    have hlist : "xmlns:".toList = "xmlns".toList ++ [':'] := by decide
    simp only [declarationSetting, hlist, List.mem_append, List.mem_singleton] at hc
    rcases hc with (hc | hc) | hc
    · exact hreserved c hc
    · exact .inr hc
    · exact .inl (isNameInner_of_mem (h pfx rfl).1 hc)

theorem declaration?_declarationSetting (d : Option String × String) :
    declaration? (declarationSetting d) = some d := by
  obtain ⟨pfx, uri⟩ := d
  cases pfx with
  | none => simp [declarationSetting, declaration?]
  | some pfx => simp [declarationSetting, declaration?]

/-- The parts of a name as written. -/
theorem splitColon_written {name : TagName} (h : name.Written) :
    splitColon name.written = name.pfx.map fun p => (p, name.localName) := by
  have hlocal : ':' ∉ name.localName.toList := not_mem_of_isName h.localPart rfl
  rw [TagName.written]
  cases hp : name.pfx with
  | none =>
    rw [splitColon, if_neg (by simpa using hlocal)]
    rfl
  | some p =>
    have hpfx : ∀ c ∈ p.toList, decide (c ≠ ':') = true := fun c hc =>
      decide_eq_true fun heq => not_mem_of_isName (h.pfx p hp) (c := ':') rfl (heq ▸ hc)
    have hlist : (p ++ ":" ++ name.localName).toList = p.toList ++ ':' :: name.localName.toList := by
      simp
    simp only [splitColon, hlist]
    rw [List.takeWhile_append_of_pos hpfx, List.dropWhile_append_of_pos hpfx, if_pos (by simp)]
    simp

/-- A label that makes a declaration begins with the word `xmlns`. -/
theorem declaration?_eq_none {name : TagName} (h : name.Written) (value : List Char)
    (hne : name.pfx.getD name.localName ≠ "xmlns") :
    declaration? (name.written.toList, value) = none := by
  have hsplit := splitColon_written h
  generalize hlabel : name.written.toList = label at hsplit
  have hwritten : name.written = String.ofList label := by rw [← hlabel, String.ofList_toList]
  rw [hwritten] at hsplit
  unfold declaration?
  split
  · rename_i heq
    cases heq
    cases hp : name.pfx with
    | none =>
      refine absurd ?_ hne
      rw [hp, Option.getD_none]
      rw [TagName.written, hp] at hlabel
      exact String.toList_inj.mp hlabel
    | some p =>
      rw [hp] at hsplit
      cases hsplit
  · rename_i pfx _ heq
    cases heq
    cases hp : name.pfx with
    | none =>
      rw [hp] at hsplit
      simp [splitColon] at hsplit
    | some p =>
      rw [hp] at hsplit
      obtain ⟨hpfx, -⟩ : "xmlns" = p ∧ String.ofList pfx = name.localName := by
        simpa [splitColon] using hsplit
      rw [hp, Option.getD_some] at hne
      exact absurd hpfx.symm hne
  · rfl

variable {inside : Declarations}

/-- The name of an element is read as it is. -/
theorem elementName_written {name : TagName} (h : name.Sound inside) :
    elementName inside name.written.toList = some name.expanded := by
  rw [elementName, String.ofList_toList, splitColon_written h.toWritten]
  cases hp : name.pfx with
  | none =>
    obtain ⟨huri, hne⟩ := h.unbound hp
    have hwritten : name.written = name.localName := by rw [TagName.written, hp]
    simp [huri, hne, hwritten, TagName.expanded]
  | some p =>
    obtain ⟨huri, hsome⟩ := h.bound p hp
    obtain ⟨uri, hname⟩ := Option.isSome_iff_exists.mp hsome
    simp [huri, hname, TagName.expanded]

/-- The name of an attribute is read as it is. -/
theorem attributeName_written {a : TagAttribute} (h : a.Sound inside) :
    attributeName inside a.name.written.toList = some a.name.expanded := by
  rw [attributeName, String.ofList_toList, splitColon_written h.toWritten]
  cases hp : a.name.pfx with
  | none =>
    have hwritten : a.name.written = a.name.localName := by rw [TagName.written, hp]
    simp [hwritten, h.unbound hp, TagName.expanded]
  | some p =>
    obtain ⟨huri, hsome⟩ := h.bound p hp
    obtain ⟨uri, hname⟩ := Option.isSome_iff_exists.mp hsome
    simp [huri, hname, TagName.expanded]

/-- What stands in the start tag of an element. -/
def headTag (name : TagName) (declarations : Declarations) (attributes : List TagAttribute) : Tag :=
  ⟨name.written.toList, declarations.map declarationSetting ++ attributes.map attributeSetting⟩

/-- The start tag of an element is read as its name and the names of its attributes. -/
theorem Reader.start_headTag (r : Reader) {name : TagName} {declarations : Declarations}
    {attributes : List TagAttribute} (hname : name.Sound (declarations ++ innermost r.stack))
    (hattributes : ∀ a ∈ attributes, a.Sound (declarations ++ innermost r.stack)) :
    r.start (headTag name declarations attributes) =
      some ⟨.text, (name.written.toList, declarations ++ innermost r.stack) :: r.stack,
        r.marks ++ [.start name.expanded (attributes.map (·.name.expanded))]⟩ := by
  have hplain : ∀ a ∈ attributes, declaration? (attributeSetting a) = none := fun a ha =>
    declaration?_eq_none (hattributes a ha).toWritten _ (hattributes a ha).ne_xmlns
  have hdeclared : (headTag name declarations attributes).settings.filterMap declaration? =
      declarations := by
    have hnone : (attributes.map attributeSetting).filterMap declaration? = [] := by
      rw [List.filterMap_map]
      exact List.filterMap_eq_nil_iff.mpr hplain
    have hall : (declarations.map declarationSetting).filterMap declaration? = declarations := by
      rw [List.filterMap_map]
      exact (congrArg (List.filterMap · declarations)
        (funext declaration?_declarationSetting)).trans List.filterMap_some
    rw [headTag, List.filterMap_append, hnone, hall, List.append_nil]
  have hkept : ((headTag name declarations attributes).settings.filter fun setting =>
      (declaration? setting).isNone) = attributes.map attributeSetting := by
    rw [headTag, List.filter_append, List.filter_eq_nil_iff.mpr, List.filter_eq_self.mpr,
      List.nil_append]
    · intro setting hs
      obtain ⟨a, ha, rfl⟩ := List.mem_map.mp hs
      rw [hplain a ha]
      rfl
    · intro setting hs
      obtain ⟨d, -, rfl⟩ := List.mem_map.mp hs
      simp [declaration?_declarationSetting]
  have hnames : (attributes.map attributeSetting).mapM
      (fun setting => attributeName (declarations ++ innermost r.stack) setting.1) =
        some (attributes.map (·.name.expanded)) := by
    clear hplain hdeclared hkept
    induction attributes with
    | nil => rfl
    | cons a rest ih =>
      rw [List.map_cons, List.mapM_cons, ih fun b hb => hattributes b (List.mem_cons_of_mem a hb)]
      have ha := attributeName_written (hattributes a List.mem_cons_self)
      rw [attributeSetting, ha]
      rfl
  rw [Reader.start]
  simp only [hdeclared, hkept, hnames]
  rw [headTag, elementName_written hname]
  rfl

/-- A written name begins as names do. -/
theorem exists_cons_written {name : TagName} (h : name.Written) :
    ∃ c rest, name.written.toList = c :: rest ∧ isNameStart c = true := by
  have hbegins : ∀ s : String, isName s = true →
      ∃ c rest, s.toList = c :: rest ∧ isNameStart c = true := by
    intro s hs
    rw [isName] at hs
    split at hs
    · cases hs
    · rename_i c rest heq
      exact ⟨c, rest, heq, (Bool.and_eq_true_iff.mp hs).1⟩
  rw [TagName.written]
  cases hp : name.pfx with
  | none => exact hbegins _ h.localPart
  | some p =>
    obtain ⟨c, rest, hlist, hc⟩ := hbegins p (h.pfx p hp)
    exact ⟨c, rest ++ ':' :: name.localName.toList, by simp [hlist], hc⟩

theorem flatMap_writeDeclaration {declarations : Declarations}
    (h : ∀ d ∈ declarations, WritableDeclaration d) :
    declarations.flatMap writeDeclaration =
      (declarations.map declarationSetting).flatMap writeSetting := by
  induction declarations with
  | nil => rfl
  | cons d rest ih =>
    rw [List.flatMap_cons, List.map_cons, List.flatMap_cons,
      writeDeclaration_eq (h d List.mem_cons_self),
      ih fun e he => h e (List.mem_cons_of_mem d he)]

/-- The head of an element is read as the pieces of its start tag. -/
theorem Reader.run_head (stack : List (List Char × Declarations)) (marks : List Mark)
    {name : TagName} {declarations : Declarations} {attributes : List TagAttribute}
    (hdeclarations : ∀ d ∈ declarations, WritableDeclaration d) (hname : name.Written)
    (hattributes : ∀ a ∈ attributes, a.name.Written) :
    ∃ mode, Reader.run ⟨.text, stack, marks⟩ ('<' :: name.written.toList ++
        declarations.flatMap writeDeclaration ++ attributes.flatMap writeAttribute) =
          some ⟨mode, stack, marks⟩ ∧ mode.IsBehind (headTag name declarations attributes) := by
  have hopen : Reader.run ⟨.text, stack, marks⟩ ('<' :: name.written.toList) =
      some ⟨.name name.written.toList, stack, marks⟩ := by
    have hplain := plain_written hname
    obtain ⟨c, rest, hlist, hc⟩ := exists_cons_written hname
    rw [hlist] at hplain ⊢
    have hslash : c ≠ '/' := hplain.head.2.1
    have hfirst : Reader.step ⟨.opened, stack, marks⟩ c = some ⟨.name [c], stack, marks⟩ := by
      simp [Reader.step, hslash, hc]
    rw [Reader.run_cons, Reader.step]
    change Reader.run ⟨.opened, stack, marks⟩ (c :: rest) = _
    rw [Reader.run_cons, hfirst, Option.bind_some, Reader.run_name hplain.tail,
      List.singleton_append]
  have hwritten : declarations.flatMap writeDeclaration ++ attributes.flatMap writeAttribute =
      (declarations.map declarationSetting ++ attributes.map attributeSetting).flatMap
        writeSetting := by
    rw [List.flatMap_append, flatMap_writeDeclaration hdeclarations]
    exact congrArg _ (List.flatMap_map attributeSetting writeSetting attributes).symm
  have hsettings : ∀ setting ∈
      declarations.map declarationSetting ++ attributes.map attributeSetting,
        setting.1 ≠ [] ∧ Plain setting.1 := by
    intro setting hs
    rcases List.mem_append.mp hs with hs | hs
    · obtain ⟨d, hd, rfl⟩ := List.mem_map.mp hs
      refine ⟨?_, plain_declarationSetting (hdeclarations d hd)⟩
      rw [declarationSetting]
      cases d.1 <;> simp
    · obtain ⟨a, ha, rfl⟩ := List.mem_map.mp hs
      obtain ⟨c, rest, hlist, -⟩ := exists_cons_written (hattributes a ha)
      exact ⟨by simp [attributeSetting, hlist], plain_written (hattributes a ha)⟩
  let bare : Tag := ⟨name.written.toList, []⟩
  have hbare : Mode.IsBehind bare (.name bare.name) := .name rfl
  obtain ⟨mode, hrun, hbehind⟩ := Reader.run_settings hbare hsettings
  refine ⟨mode, ?_, hbehind⟩
  rw [List.append_assoc, hwritten, Reader.run_append, hopen]
  exact hrun

/-- Behind a piece of a start tag, the tag can end. -/
theorem Mode.IsBehind.step_close {mode : Mode} (h : mode.IsBehind tag) :
    Reader.step ⟨mode, stack, marks⟩ '>' = Reader.start ⟨mode, stack, marks⟩ tag := by
  cases h with
  | quoted => rfl
  | name hunset =>
    have htag : (⟨tag.name, []⟩ : Tag) = tag := by rw [← hunset]
    rw [Reader.step]
    simp only [htag]
    rfl

theorem Mode.IsBehind.step_slash {mode : Mode} (h : mode.IsBehind tag) :
    Reader.step ⟨mode, stack, marks⟩ '/' = some ⟨.slash tag, stack, marks⟩ := by
  cases h with
  | quoted => rfl
  | name hunset =>
    have htag : (⟨tag.name, []⟩ : Tag) = tag := by rw [← hunset]
    rw [Reader.step]
    simp only [htag]
    rfl

/-- An end tag is read as the end of the innermost open element. -/
theorem Reader.run_endTag {name : List Char} {bindings : Declarations} (h : Plain name) :
    Reader.run ⟨.text, (name, bindings) :: stack, marks⟩ ('<' :: '/' :: name ++ ['>']) =
      some ⟨.text, stack, marks ++ [.stop]⟩ := by
  change Reader.run ⟨.ending [], (name, bindings) :: stack, marks⟩ (name ++ ['>']) = _
  rw [Reader.run_append, Reader.run_ending h, Option.bind_some, Reader.run_cons, Reader.step]
  simp only [List.nil_append, Reader.stop]
  rfl

/-- The text in front of what an element contains. -/
def writeHead (name : TagName) (declarations : Declarations) (attributes : List TagAttribute) :
    List Char :=
  '<' :: name.written.toList ++ declarations.flatMap writeDeclaration
    ++ attributes.flatMap writeAttribute

section

variable {name : TagName} {declarations : Declarations} {attributes : List TagAttribute}

/-- An element without content is read as its beginning and its end. -/
theorem Reader.run_empty (hdeclarations : ∀ d ∈ declarations, WritableDeclaration d)
    (hname : name.Sound (declarations ++ innermost stack))
    (hattributes : ∀ a ∈ attributes, a.Sound (declarations ++ innermost stack)) :
    Reader.run ⟨.text, stack, marks⟩ (writeHead name declarations attributes ++ ['/', '>']) =
      some ⟨.text, stack, marks ++
        [.start name.expanded (attributes.map (·.name.expanded)), .stop]⟩ := by
  obtain ⟨mode, hrun, hbehind⟩ := Reader.run_head stack marks hdeclarations hname.toWritten
    fun a ha => (hattributes a ha).toWritten
  have hstart := Reader.start_headTag
    ⟨.slash (headTag name declarations attributes), stack, marks⟩ hname hattributes
  have hend : Reader.step ⟨.slash (headTag name declarations attributes), stack, marks⟩ '>' =
      some ⟨.text, stack, marks ++
        [.start name.expanded (attributes.map (·.name.expanded)), .stop]⟩ := by
    change (Reader.start _ _).bind _ = _
    rw [hstart]
    simp [Reader.stop, headTag]
  rw [writeHead, Reader.run_append, hrun, Option.bind_some, Reader.run_cons, hbehind.step_slash,
    Option.bind_some, Reader.run_cons, hend]
  rfl

/-- An element with content is read as its beginning, what is read inside, and its end. -/
theorem Reader.run_element (hdeclarations : ∀ d ∈ declarations, WritableDeclaration d)
    (hname : name.Sound (declarations ++ innermost stack))
    (hattributes : ∀ a ∈ attributes, a.Sound (declarations ++ innermost stack))
    {inner : List Char} {met : List Mark}
    (hinner : ∀ before, Reader.run
        ⟨.text, (name.written.toList, declarations ++ innermost stack) :: stack, before⟩ inner =
      some ⟨.text, (name.written.toList, declarations ++ innermost stack) :: stack, before ++ met⟩) :
    Reader.run ⟨.text, stack, marks⟩ (writeHead name declarations attributes ++
        '>' :: (inner ++ ('<' :: '/' :: name.written.toList ++ ['>']))) =
      some ⟨.text, stack, marks ++
        .start name.expanded (attributes.map (·.name.expanded)) :: (met ++ [.stop])⟩ := by
  obtain ⟨mode, hrun, hbehind⟩ := Reader.run_head stack marks hdeclarations hname.toWritten
    fun a ha => (hattributes a ha).toWritten
  have hstart := Reader.start_headTag ⟨mode, stack, marks⟩ hname hattributes
  rw [writeHead, Reader.run_append, hrun, Option.bind_some, Reader.run_cons, hbehind.step_close,
    hstart, Option.bind_some, Reader.run_append]
  simp only [hinner, Option.bind_some]
  rw [Reader.run_endTag (plain_written hname.toWritten)]
  simp

end

/-- The space in front of an end tag that stands on a line of its own. -/
def closing : Option Nat → List Char
  | some n => newLine n
  | none => []

/-- The text of an element with content. -/
theorem write_element (level : Option Nat) (name : TagName) (declarations : Declarations)
    (attributes : List TagAttribute) {content : List Tree} (h : content.isEmpty = false) :
    ∃ within : Option Nat, write level (.element name declarations attributes content) =
      writeHead name declarations attributes ++
        '>' :: (writeAll (within.map (· + 1)) content ++ closing within ++
          ('<' :: '/' :: name.written.toList ++ ['>'])) := by
  refine ⟨if content.any Tree.isText then none else level, ?_⟩
  rw [write, h]
  simp only [Bool.false_eq_true, if_false]
  generalize (if content.any Tree.isText = true then none else level) = within
  cases within <;> simp [writeHead, closing]

theorem not_mem_newLine (n : Nat) : '<' ∉ newLine n := by
  intro h
  simp [newLine] at h

end Markup

/-! ## Reading a tree -/

open Markup in
mutual

/-- The text of a sound tree is read as the names in it. -/
theorem Tree.run_write (level : Option Nat) {stack : List (List Char × Declarations)}
    {marks : List Mark} : (t : Tree) → t.Sound (innermost stack) →
      Reader.run ⟨.text, stack, marks⟩ (write level t) =
        some ⟨.text, stack, marks ++ t.marks⟩
  | .text value, _ => by
    rw [write, Reader.run_text (not_mem_writeTextChar value.toList), Tree.marks, List.append_nil]
  | .comment _, h | .instruction .., h => by
    simp [Tree.Sound] at h
  | .element name declarations attributes content, h => by
    rw [Tree.Sound] at h
    obtain ⟨hdeclarations, hname, hattributes, hcontent⟩ := h
    rw [Tree.marks]
    cases hcase : content.isEmpty with
    | true =>
      rw [List.isEmpty_iff.mp hcase, Tree.marksAll]
      exact Reader.run_empty hdeclarations hname hattributes
    | false =>
      obtain ⟨within, hwritten⟩ := write_element level name declarations attributes hcase
      have hinside : Tree.SoundAll
          (innermost ((name.written.toList, declarations ++ innermost stack) :: stack)) content :=
        hcontent
      rw [hwritten]
      refine Reader.run_element hdeclarations hname hattributes fun before => ?_
      -- what is written behind the last child is passed over
      rw [Reader.run_append, Tree.run_writeAll (within.map (· + 1)) content hinside,
        Option.bind_some]
      cases within with
      | none => rfl
      | some n => exact Reader.run_text (not_mem_newLine n)

/-- The text of a row of sound trees is read as the names in them. -/
theorem Tree.run_writeAll (level : Option Nat) {stack : List (List Char × Declarations)}
    {marks : List Mark} : (ts : List Tree) →
      Tree.SoundAll (innermost stack) ts →
      Reader.run ⟨.text, stack, marks⟩ (writeAll level ts) =
        some ⟨.text, stack, marks ++ Tree.marksAll ts⟩
  | [], _ => by
    rw [writeAll, Tree.marksAll, List.append_nil]
    rfl
  | t :: ts, h => by
    rw [Tree.SoundAll] at h
    have hrest : Reader.run ⟨.text, stack, marks⟩ (write level t ++ writeAll level ts) =
        some ⟨.text, stack, marks ++ Tree.marksAll (t :: ts)⟩ := by
      rw [Reader.run_append, Tree.run_write level t h.1, Option.bind_some,
        Tree.run_writeAll level ts h.2, Tree.marksAll, List.append_assoc]
    cases level with
    | none => exact hrest
    | some n =>
      change Reader.run ⟨.text, stack, marks⟩
        (newLine n ++ write (some n) t ++ writeAll (some n) ts) = _
      rw [List.append_assoc, Reader.run_append, Reader.run_text (not_mem_newLine n)]
      exact hrest

end

/-- **The text of a sound tree is read as the names in it**, with space between the elements or
without. -/
theorem Markup.read_writeRoot (pretty : Bool) {t : Tree} (h : t.Sound []) :
    read (writeRoot pretty t) = some t.marks := by
  have hrun : ∀ level, Reader.run ⟨.text, [], []⟩ (write level t) =
      some ⟨.text, [], t.marks⟩ := fun level => t.run_write level h
  rw [read, writeRoot]
  cases pretty with
  | false => simp only [Bool.false_eq_true, if_false, hrun]
  | true =>
    rw [if_pos rfl, Reader.run_append, hrun]
    rfl

end TagScript.Xml
