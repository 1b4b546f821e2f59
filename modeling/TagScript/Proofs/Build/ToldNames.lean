import Mathlib.Data.List.TakeWhile
import TagScript.Proofs.Build.BuiltinCommands
import TagScript.Proofs.Build.ReportedWords
import TagScript.Proofs.Script.NamedByWords

/-!
# Reported names

A name is kept as it stands when its prefix is unbound. Whoever meets it later cannot see that, but
a report tells it. While a build runs there are only ever more reports, so a name that is told of
stays told of, and so do the values, elements and statements in which only such names occur.

* `Told` — a name without a namespace is no name with an unbound prefix, or it was reported.
* `Value.Tame` — the ends of values that hold told names only.
* `Wording` — what a build is given whose texts name elements by words.
* `Wording.Sound` — a state in which all variables hold told names.
* `Wording.Tells` — a step that keeps the state sound and comes to what is told by the reports.
* **`Tells.bind`**, `Tells.deeper`, `Tells.foldlM` — steps that tell may be put together.
-/

namespace TagScript

/-! ## Names -/

/-- Whether the prefix of a text was reported as unbound. -/
def Reported (D : List Diagnostic) (text : String) : Prop :=
  ∃ r ∈ D, r.code = .unresolvedPrefix ∧
    (("name", .str text) ∈ r.details ∨ ("attribute", .str text) ∈ r.details)

/-- Whether a name that kept an unbound prefix was reported. A brace that was closed can only be
left over from a URI that holds one. -/
def Told (D : List Diagnostic) (q : QName) : Prop :=
  q.uri = none → ':' ∈ q.localName.toList → '}' ∉ q.localName.toList → Reported D q.localName

section

variable {D D' : List Diagnostic}

theorem Reported.mono {text : String} (h : Reported D text) (hD : D ⊆ D') : Reported D' text := by
  obtain ⟨r, hr, htext⟩ := h
  exact ⟨r, hD hr, htext⟩

theorem Told.mono {q : QName} (h : Told D q) (hD : D ⊆ D') : Told D' q :=
  fun huri hcolon hbrace => (h huri hcolon hbrace).mono hD

theorem told_of_uri {q : QName} {uri : String} (h : q.uri = some uri) : Told D q :=
  fun hnone => absurd (h.symm.trans hnone) (Option.some_ne_none uri)

end

/-- A text with a colon has a prefix. -/
theorem splitColon_eq_some {text : String} (h : ':' ∈ text.toList) :
    ∃ pfx localName, splitColon text = some (pfx, localName) := by
  rw [splitColon, if_pos (by simpa using h)]
  exact ⟨_, _, rfl⟩

theorem QName.localName_of {uri : Option String} {text : String} {q : QName}
    (h : QName.of uri text = .ok q) : q.localName = text := by
  unfold QName.of at h
  split at h
  · cases h
  · cases h
    rfl

namespace Registry

variable {D : List Diagnostic}

/-- A name that is kept as it stands is told of if its prefix is bound, or was reported. -/
theorem told_self {r : Registry} (hr : r.Proper) {text : String} {resolved : Bool}
    (h : r.resolve text = .ok (⟨text, none⟩, resolved))
    (hreported : resolved = false → Reported D text) : Told D ⟨text, none⟩ := by
  intro _ hcolon _
  obtain ⟨pfx, localName, hsplit⟩ := splitColon_eq_some hcolon
  rcases Registry.resolve_of_splitColon hr hsplit with hself | ⟨uri, hbound⟩
  · rw [h] at hself
    cases hself
    exact hreported rfl
  · have hsame := h.symm.trans (hbound r r.extends_refl)
    cases hsame

/-- An attribute name that is kept as it stands is told of, if it was reported. -/
theorem told_of_resolveAttribute {r : Registry} (hr : r.Proper) {text : String} {q : QName}
    {resolved : Bool} (h : r.resolveAttribute text = .ok (q, resolved))
    (hreported : resolved = false → Reported D text) : Told D q := by
  cases hsplit : splitColon text with
  | none =>
    rw [resolveAttribute, hsplit] at h
    obtain ⟨_, hof, heq⟩ := exists_of_map_ok h
    cases heq
    intro _ hcolon _
    rw [QName.localName_of hof] at hcolon
    obtain ⟨pfx, localName, hsome⟩ := splitColon_eq_some hcolon
    rw [hsplit] at hsome
    cases hsome
  | some parts =>
    have hsame : r.resolveAttribute text = r.resolve text := by
      rw [resolveAttribute, resolve, hsplit]
    rw [hsame] at h
    rcases Registry.resolve_of_splitColon hr hsplit with hself | ⟨uri, hbound⟩
    · have heq := h.symm.trans hself
      cases heq
      exact told_self hr hself fun _ => hreported rfl
    · have heq := h.symm.trans (hbound r r.extends_refl)
      cases heq
      exact told_of_uri rfl

end Registry

/-- What is read of a name in brace notation has a URI, or a brace is left over. -/
theorem QName.told_of_parse {D : List Diagnostic} {uri localName : String} (huri : uri ≠ "")
    (hlocal : localName ≠ "") {q : QName}
    (h : QName.parse (QName.clark ⟨localName, some uri⟩) = .ok q) : Told D q := by
  by_cases hbrace : '}' ∈ uri.toList
  · obtain ⟨c, rest, hdrop⟩ : ∃ c rest, uri.toList.dropWhile (· ≠ '}') = c :: rest := by
      cases hdrop : uri.toList.dropWhile (· ≠ '}') with
      | nil => exact absurd rfl (of_decide_eq_true (List.dropWhile_eq_nil_iff.mp hdrop '}' hbrace))
      | cons c rest => exact ⟨c, rest, rfl⟩
    have hclark : (QName.clark ⟨localName, some uri⟩).toList =
        '{' :: (uri.toList ++ '}' :: localName.toList) := by
      simp [QName.clark]
    have hcloses : (uri.toList ++ '}' :: localName.toList).contains '}' = true := by simp
    rw [QName.parse, hclark] at h
    simp only [hcloses, if_true, List.dropWhile_append, hdrop, List.isEmpty_cons] at h
    intro _ _ hnone
    rw [QName.localName_of h] at hnone
    exact absurd (by simp) hnone
  · rw [QName.parse_clark huri hlocal hbrace] at h
    cases h
    exact told_of_uri rfl

/-- **The literal of an element word names what is told of**, whatever is bound later, if the word
was reported in case that its prefix was unbound. -/
theorem Registry.told_of_spelled {D : List Diagnostic} {early late : Registry}
    (hearly : early.Proper) (hlate : late.Proper) {text : String} (hne : text ≠ "")
    (hopen : text.toList.head? ≠ some '{')
    (hreported : ∀ name, early.resolve text = .ok (name, false) → Reported D text) {q : QName}
    (h : late.nameOf (early.spelled text) = .ok q) : Told D q := by
  rcases Registry.resolve_cases hearly hne with
    ⟨resolved, hself⟩ | ⟨uri, localName, huri, hlocal, -, hbound⟩
  · have htold := told_self hearly hself fun hunbound => hreported _ (hunbound ▸ hself)
    rw [spelled, hself] at h
    change late.nameOf text = .ok q at h
    rw [nameOf, if_neg hopen] at h
    rcases Registry.resolve_cases hlate hne with
      ⟨lateResolved, hlateSelf⟩ | ⟨uri, localName, -, -, -, hlateBound⟩
    · rw [hlateSelf] at h
      cases h
      exact htold
    · rw [hlateBound late late.extends_refl] at h
      cases h
      exact told_of_uri rfl
  · rw [spelled, hbound early early.extends_refl] at h
    change late.nameOf (QName.clark ⟨localName, some uri⟩) = .ok q at h
    rw [nameOf, if_pos (by simp [QName.clark])] at h
    exact QName.told_of_parse huri hlocal h

/-! ## Values -/

/-- Whether all names in a node are told of. -/
def Node.Told (D : List Diagnostic) (n : Node) : Prop :=
  ∀ e ∈ n.elements, TagScript.Told D e.tag ∧ ∀ a ∈ e.attributes, TagScript.Told D a.name

/-- Whether all names in an element are told of, its own name apart. -/
structure Element.ToldWithin (D : List Diagnostic) (e : Element) : Prop where
  /-- The names of its attributes are. -/
  attributes : ∀ a ∈ e.attributes, Told D a.name
  /-- So are those in its children. -/
  children : ∀ n ∈ e.children, n.Told D

section

variable {D D' : List Diagnostic}

theorem Node.Told.mono {n : Node} (h : n.Told D) (hD : D ⊆ D') : n.Told D' :=
  fun e he => ⟨(h e he).1.mono hD, fun a ha => ((h e he).2 a ha).mono hD⟩

theorem Element.ToldWithin.mono {e : Element} (h : e.ToldWithin D) (hD : D ⊆ D') :
    e.ToldWithin D' :=
  ⟨fun a ha => (h.attributes a ha).mono hD, fun n hn => (h.children n hn).mono hD⟩

theorem Node.mem_elementsOfAll {e : Element} {ns : List Node} :
    e ∈ Node.elementsOfAll ns ↔ ∃ n ∈ ns, e ∈ n.elements := by
  induction ns with
  | nil => simp [elementsOfAll]
  | cons n ns ih => simp [elementsOfAll, ih]

/-- The names in an element are its own name and those in it. -/
theorem Element.told_iff {e : Element} :
    (Node.ofElement e).Told D ↔ Told D e.tag ∧ e.ToldWithin D := by
  have hall : (Node.ofElement e).elements = e :: Node.elementsOfAll e.children := e.all_eq
  rw [Node.Told, hall, List.forall_mem_cons]
  constructor
  · rintro ⟨⟨htag, hattributes⟩, hchildren⟩
    exact ⟨htag, hattributes, fun n hn f hf =>
      hchildren f (Node.mem_elementsOfAll.mpr ⟨n, hn, hf⟩)⟩
  · rintro ⟨htag, hattributes, hchildren⟩
    refine ⟨⟨htag, hattributes⟩, fun f hf => ?_⟩
    obtain ⟨n, hn, hf⟩ := Node.mem_elementsOfAll.mp hf
    exact hchildren n hn f hf

end

/-- Whether all names that a value holds are told of. It holds no name that was not written in a
text: no markup, no document, no template and no routine; and the texts of its blocks name elements
by words. -/
def Value.Tame (table : CommandTable) (D : List Diagnostic) : Value → Prop
  | .name q => Told D q
  | .attribute a => Told D a.name
  | .element e => (Node.ofElement e).Told D
  | .block b => NamedByWords table b.source
  | .document _ | .template _ | .routine .. | .xml .. => False
  | _ => True

section

variable {table : CommandTable} {D D' : List Diagnostic}

theorem Value.Tame.mono {v : Value} (h : v.Tame table D) (hD : D ⊆ D') : v.Tame table D' := by
  cases v with
  | name q => exact TagScript.Told.mono h hD
  | «attribute» a => exact TagScript.Told.mono h hD
  | element e => exact Node.Told.mono h hD
  | _ => exact h

theorem Value.keepsMembers_tame : KeepsMembers (Tame table D) where
  harmless v h := by
    cases v with
    | name _ | «attribute» _ | element _ | block _ | document _ | template _ | routine _ _
    | xml _ _ => exact h.elim
    | _ => trivial
  element e h := by
    obtain ⟨htag, hattributes, hchildren⟩ := Element.told_iff.mp h
    refine ⟨htag, hattributes, fun child hchild => ?_⟩
    obtain ⟨n, hn, hsome⟩ := List.mem_filterMap.mp hchild
    cases n with
    | text s => cases hsome
    | element tag attributes children =>
      cases hsome
      exact hchildren _ hn
  attributeName _ h := h
  document _ h := h.elim
  block _ _ _ _ := trivial

end

/-! ## Builds -/

/-- What a build is given whose texts name elements by words. -/
structure Wording where
  /-- The settings and the scope of the parameters. -/
  env : BuildEnv
  /-- The commands, by which command words are told from element words too. -/
  table : CommandTable
  /-- They are built-in commands. -/
  builtin : ∀ entry ∈ table.entries, ∃ clock, entry.2.2 ∈ Command.builtins clock
  /-- The constructor is a word. -/
  word : IsCommandWord env.settings.compiler.constructor.word

namespace Wording

variable (W : Wording)

/-- Whether all names that a value holds are told of. -/
def Holds (D : List Diagnostic) (v : Value) : Prop :=
  v.Every (Value.Tame W.table D)

/-- Whether all names that variables hold are told of. -/
def ScopesHold (D : List Diagnostic) (scopes : Scopes) : Prop :=
  ∀ scope ∈ scopes.all, ∀ b ∈ scope.own, W.Holds D b.2

/-- Whether the names that a state holds are told of by its reports. -/
structure Sound (s : BuildState) : Prop where
  /-- No prefix is bound to the empty URI. -/
  proper : s.registry.Proper
  /-- The commands are the ones given. -/
  commands : s.commands = W.table
  /-- So are the command words. -/
  words : s.wordTable = W.table
  /-- No template that is out of date is kept. -/
  cache : Workshop.Invariant W.env.settings.compiler ⟨W.table, s.cache⟩
  /-- All variables hold told names. -/
  scopes : W.ScopesHold s.diagnostics.toList s.scopes
  /-- Streams have nothing left. -/
  streams : ∀ id, s.streams.take? id = none

/-- Whether a step that begins when so much was reported keeps the state sound and the reports, and
comes to what is told by the reports that there are then. -/
def Tells (D : List Diagnostic) {α : Type} (Q : List Diagnostic → α → Prop) (m : Build α) : Prop :=
  ∀ s a s', W.Sound s → D ⊆ s.diagnostics.toList → m s = (.ok a, s') →
    W.Sound s' ∧ s.diagnostics.toList ⊆ s'.diagnostics.toList ∧ Q s'.diagnostics.toList a

variable {W} {D D' : List Diagnostic} {s s' : BuildState}

theorem Holds.mono {v : Value} (h : W.Holds D v) (hD : D ⊆ D') : W.Holds D' v :=
  Value.Every.mono (fun _ hw => hw.mono hD) h

theorem holds_mono {vs : List Value} (h : ∀ v ∈ vs, W.Holds D v) (hD : D ⊆ D') :
    ∀ v ∈ vs, W.Holds D' v :=
  fun v hv => (h v hv).mono hD

/-- Plain data holds no name. -/
theorem holds_of_harmless {v : Value} (simple : v.isCompound = false) (h : v.Harmless) :
    W.Holds D v :=
  Value.keepsMembers_tame.every simple h

theorem ScopesHold.mono {scopes : Scopes} (h : W.ScopesHold D scopes) (hD : D ⊆ D') :
    W.ScopesHold D' scopes :=
  fun scope hscope b hb => (h scope hscope b hb).mono hD

/-- Counts, the log and the depth do not matter, and there may be more reports. -/
theorem Sound.of_eq (h : W.Sound s) (hregistry : s'.registry = s.registry)
    (hcommands : s'.commands = s.commands) (hwords : s'.words = s.words)
    (hcache : s'.cache = s.cache) (hscopes : s'.scopes = s.scopes)
    (hstreams : s'.streams = s.streams)
    (hreports : s.diagnostics.toList ⊆ s'.diagnostics.toList) : W.Sound s' where
  proper := hregistry ▸ h.proper
  commands := hcommands.trans h.commands
  words := by
    rw [BuildState.wordTable, hwords, hcommands]
    exact h.words
  cache := hcache ▸ h.cache
  scopes := by
    rw [hscopes]
    exact h.scopes.mono hreports
  streams := hstreams ▸ h.streams

theorem Sound.withRegistry (h : W.Sound s) {registry : Registry} (hr : registry.Proper) :
    W.Sound { s with registry } :=
  ⟨hr, h.commands, h.words, h.cache, h.scopes, h.streams⟩

theorem Sound.withScopes (h : W.Sound s) {scopes : Scopes}
    (hscopes : W.ScopesHold s.diagnostics.toList scopes) : W.Sound { s with scopes } :=
  ⟨h.proper, h.commands, h.words, h.cache, hscopes, h.streams⟩

namespace Tells

variable {α β : Type} {Q : List Diagnostic → α → Prop} {Q' : List Diagnostic → β → Prop}
  {m : Build α} {f : α → Build β}

theorem pure {a : α} (h : ∀ D', D ⊆ D' → Q D' a) : W.Tells D Q (pure a) := by
  intro s b s' hs hD hrun
  cases hrun
  exact ⟨hs, List.Subset.refl _, h _ hD⟩

/-- Nothing is asked of a step that fails. -/
theorem fail {fault : Fault} : W.Tells D Q (Build.fail fault) := by
  intro s a s' _ _ hrun
  cases hrun

/-- What can fail without changing the build. -/
theorem lift {r : Except Fault α} (h : ∀ a, r = .ok a → ∀ D', D ⊆ D' → Q D' a) :
    W.Tells D Q (Build.lift r) := by
  cases r with
  | ok a => exact pure (h a rfl)
  | error fault => exact fail

theorem read {g : BuildState → α}
    (h : ∀ s, W.Sound s → D ⊆ s.diagnostics.toList → Q s.diagnostics.toList (g s)) :
    W.Tells D Q (Build.read g) := by
  intro s a s' hs hD hrun
  cases hrun
  exact ⟨hs, List.Subset.refl _, h s hs hD⟩

/-- A change of the counts or the log, or a report more. -/
theorem change {g : BuildState → BuildState} {Q : List Diagnostic → Unit → Prop}
    (hsound : ∀ s, W.Sound s → W.Sound (g s))
    (hreports : ∀ s, s.diagnostics.toList ⊆ (g s).diagnostics.toList)
    (h : ∀ s, W.Sound s → D ⊆ s.diagnostics.toList → Q (g s).diagnostics.toList ()) :
    W.Tells D Q (Build.change g) := by
  intro s a s' hs hD hrun
  cases hrun
  exact ⟨hsound s hs, hreports s, h s hs hD⟩

/-- What a step comes to may be told of less closely. -/
theorem mono {P : List Diagnostic → α → Prop} (h : W.Tells D Q m)
    (hQ : ∀ D' a, D ⊆ D' → Q D' a → P D' a) : W.Tells D P m := by
  intro s a s' hs hD hrun
  obtain ⟨hs', hreports, ha⟩ := h s a s' hs hD hrun
  exact ⟨hs', hreports, hQ _ a (List.Subset.trans hD hreports) ha⟩

/-- **Two steps one after the other.** -/
theorem bind (h : W.Tells D Q m) (hf : ∀ D' a, D ⊆ D' → Q D' a → W.Tells D' Q' (f a)) :
    W.Tells D Q' (m >>= f) := by
  intro s b s' hs hD hrun
  obtain ⟨a, s₁, hm, hrest⟩ := Build.exists_of_bind_ok hrun
  obtain ⟨hs₁, hreports, ha⟩ := h s a s₁ hs hD hm
  obtain ⟨hs', hreports', hb⟩ :=
    hf _ a (List.Subset.trans hD hreports) ha s₁ b s' hs₁ (List.Subset.refl _) hrest
  exact ⟨hs', List.Subset.trans hreports hreports', hb⟩

/-- A step one element deeper. -/
theorem deeper (h : W.Tells D Q m) : W.Tells D Q (Build.deeper m) := by
  intro s a s' hs hD hrun
  have hdown : W.Sound { s with depth := s.depth + 1 } :=
    hs.of_eq rfl rfl rfl rfl rfl rfl (List.Subset.refl _)
  rcases hm : m { s with depth := s.depth + 1 } with ⟨r, s₁⟩
  rw [Build.deeper_of_eq hm] at hrun
  cases hrun
  obtain ⟨hs₁, hreports, ha⟩ := h _ a s₁ hdown hD hm
  exact ⟨hs₁.of_eq rfl rfl rfl rfl rfl rfl (List.Subset.refl _), hreports, ha⟩

/-- A row of steps, one for each item. -/
theorem foldlM {step : α → β → Build α} {items : List β}
    (hQ : ∀ D D' a, D ⊆ D' → Q D a → Q D' a)
    (h : ∀ D' a b, D ⊆ D' → Q D' a → b ∈ items → W.Tells D' Q (step a b)) {a : α} (ha : Q D a) :
    W.Tells D Q (items.foldlM step a) := by
  induction items generalizing D a with
  | nil => exact pure fun D' hD => hQ D D' a hD ha
  | cons b items ih =>
    rw [List.foldlM_cons]
    refine bind (h D a b (List.Subset.refl D) ha List.mem_cons_self) fun D' a' hD ha' => ?_
    refine ih (fun D'' a c hD' hQ hc => ?_) ha'
    exact h D'' a c (List.Subset.trans hD hD') hQ (List.mem_cons_of_mem b hc)

end Tells

end Wording

end TagScript
