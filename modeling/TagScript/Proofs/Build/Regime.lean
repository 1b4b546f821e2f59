import TagScript.Proofs.Build.CommandTables
import TagScript.Proofs.Value.Refusals

/-!
# Regimes

What values, block texts and faults may turn up while a build runs is decided by where it begins: by
the parameters, the commands and the content. A regime says what may turn up, and a step obeys it if
it keeps to it. Two states are alike under a regime when they differ only in what the regime does
not let the build look at: in what is kept of earlier templates, in scopes that no value names, in
reports, counts and the log. A step that obeys a regime comes to the same result from both.

* `Regime` — what may turn up, by the ends of the values.
* `Regime.Lawful` — what makes a regime one that builds can keep to.
* `Regime.Alike` — states that a build under the regime cannot tell apart.
* `Regime.Obeys` — a step that keeps to the regime and cannot tell alike states apart.
* **`Obeys.bind`**, `Obeys.deeper`, `Obeys.foldlM` — steps that obey may be put together.
-/

namespace TagScript

/-- What values, texts and faults may turn up while a build runs. -/
structure Regime where
  /-- What the build is given. -/
  env : BuildEnv
  /-- The ends of the values that operands have and variables hold. -/
  held : Value → Prop
  /-- The ends of the values that blocks yield while so many elements are being built. -/
  yielded : Nat → Value → Prop
  /-- The faults. -/
  fault : Fault → Prop
  /-- The texts of blocks. -/
  source : String → Prop
  /-- Whether statements stand between parentheses. -/
  parens : Prop
  /-- The scopes that values name. -/
  scope : ScopeId → Prop
  /-- Those of them that the build makes itself. -/
  own : ScopeId → Prop
  /-- Whether routines are run and commands of every kind are invoked. -/
  lax : Prop

namespace Regime

variable (R : Regime)

/-! ## What may turn up -/

/-- Whether a value may be that of an operand or of a variable. -/
def Holds (v : Value) : Prop :=
  v.Every R.held

/-- Whether a value may be yielded while so many elements are being built. -/
def Yields (d : Nat) (v : Value) : Prop :=
  v.Every (R.yielded d)

/-- Whether an element may come about while so many others are being built. -/
def Grows (d : Nat) (e : Element) : Prop :=
  R.yielded d (.element e)

/-- Whether a node may become the child of an element while so many are being built. -/
def Bears (d : Nat) : Node → Prop
  | .text _ => True
  | .element tag attributes children => R.Grows d ⟨tag, attributes, children⟩

/-- Whether variables may be given to a block. -/
def Lends (vars : List (String × Value)) : Prop :=
  ∀ b ∈ vars, (b.1 = "" → R.lax) ∧ R.Holds b.2

mutual

/-- Whether an operand keeps to the regime. -/
def OperandMeets : Operand → Prop
  | .constant v => R.Holds v
  | .string .. => True
  | .variable .. => True
  | .group source _ => R.source source
  | .paren body => R.parens ∧ StatementsMeet body
  | .cast _ o => OperandMeets o
  | .faulty fault => R.fault fault

/-- Whether all operands of a row keep to the regime. -/
def OperandsMeet : List Operand → Prop
  | [] => True
  | o :: os => OperandMeets o ∧ OperandsMeet os

/-- Whether all operands of a statement keep to the regime. -/
def RowsMeet : List (List Operand) → Prop
  | [] => True
  | row :: rows => OperandsMeet row ∧ RowsMeet rows

/-- Whether a statement keeps to the regime. -/
def StatementMeets : Statement → Prop
  | .mk _ rows => RowsMeet rows

/-- Whether all statements of a row keep to the regime. -/
def StatementsMeet : List Statement → Prop
  | [] => True
  | s :: ss => StatementMeets s ∧ StatementsMeet ss

end

/-- Whether a command keeps to the regime. -/
def Admits (c : Command) : Prop :=
  match c.action with
  | .plain f => ∀ args, (∀ v ∈ args, R.Holds v) →
    match c.applyPlain f args with
    | .ok v => R.Holds v
    | .error fault => R.fault fault
  | .acting .newElement | .acting .newNamespace | .acting .forEachItem => True
  | .acting (.runBlock vars) => R.lax ∧ R.Lends vars
  | .acting _ => R.lax

/-- What makes a regime one that builds can keep to. -/
structure Lawful : Prop where
  /-- Members are held if the values are whose members they are. -/
  members : Value.KeepsMembers R.held
  /-- Names are held. -/
  name : ∀ q, R.held (.name q)
  /-- Scopes are held if they may be named. -/
  scope_iff : ∀ id, R.held (.scope id) ↔ R.scope id
  /-- The build names the scopes that it makes. -/
  scope_of_own : ∀ id, R.own id → R.scope id
  /-- The scope of the parameters is one of them. -/
  own_root : R.own R.env.rootScope
  /-- A block is held by its text and its scope. -/
  block : ∀ source id line, R.source source → R.scope id → R.held (.block ⟨source, some id, line⟩)
  /-- Only texts of blocks stand in blocks. -/
  source_of_block : ∀ b, R.held (.block b) → R.source b.source
  /-- The statements of a template keep to the regime. -/
  template : ∀ t, R.held (.template t) → R.StatementsMeet (Script.ofTemplate t)
  /-- So do those of the template that a text is made to, kept or not. -/
  compiles : ∀ knows version registry source c,
    Cache.Holds R.env.settings.compiler knows version c → R.source source →
      match (Cache.compile R.env.settings.compiler ⟨true, some knows, version⟩ registry source
        c).outcome with
      | .ok t => R.StatementsMeet (Script.ofTemplate t)
      | .error fault => R.fault fault
  /-- What is kept does not decide what a text is made to. -/
  steady : ∀ knows version registry source c c',
    Cache.Holds R.env.settings.compiler knows version c →
    Cache.Holds R.env.settings.compiler knows version c' →
      (Cache.compile R.env.settings.compiler ⟨true, some knows, version⟩ registry source
        c').outcome =
      (Cache.compile R.env.settings.compiler ⟨true, some knows, version⟩ registry source c).outcome
  /-- Operations fail as the regime allows. -/
  operation : ∀ o fault, R.held (.operation o) → o.outcome = .error fault → R.fault fault
  /-- Routines are held only where everything may be done. -/
  routine : ∀ mode steps, R.held (.routine mode steps) → R.lax
  /-- What is held may be yielded. -/
  yields : ∀ d v, R.held v → R.yielded d v
  /-- Content that is yielded is held. -/
  content : ∀ d v, R.Yields d v → v.isContentBlock = true → R.Holds v
  /-- Between parentheses everything is held that is yielded. -/
  paren : R.parens → ∀ d v, R.yielded d v → R.held v
  /-- An element is made of children that came about one deeper, if that is not too deep. -/
  grows : ∀ d tag attributes children,
    R.env.settings.maxDepth.isExceededBy (d + 1) = .ok false →
      (∀ n ∈ children, R.Bears (d + 1) n) → R.Grows d ⟨tag, attributes, children⟩
  /-- A yielded XML element is an element, or is refused. -/
  xml : ∀ d t tail, R.yielded d (.xml t tail) →
    match Xml.toElement [] t with
    | .ok e => R.Grows d e
    | .error fault => R.fault fault
  /-- The faults of builds may come about. -/
  ofBuild : ∀ fault : Fault, fault.isOfBuild = true → R.fault fault
  /-- Blocks may be nested deeper than the evaluator goes. -/
  exhausted : R.fault .exhausted
  /-- A name may be empty. -/
  emptyLocalName : R.fault (.invalid .emptyLocalName)
  /-- A name may open a brace that it does not close. -/
  malformedName : ∀ text, R.fault (.invalid (.malformedName text))
  /-- A namespace may be empty. -/
  emptyNamespace : R.fault (.invalid .emptyNamespace)
  /-- A number may be too large. -/
  overflow : ∀ wording, R.fault (.overflow wording)
  /-- Settings that are none of the choices cannot be used. -/
  marker : R.env.settings.contentMarker = none → R.fault .missingMember
  /-- Settings that are none of the choices cannot be used. -/
  duplicates : R.env.settings.duplicates = none → R.fault .missingMember
  /-- A limit that is no number cannot be compared. -/
  limit : ∀ n fault, R.env.settings.maxDepth.isExceededBy n = .error fault → R.fault fault
  /-- Where everything may be done, everything may fail. -/
  all : R.lax → ∀ fault, R.fault fault

/-! ## States that cannot be told apart -/

/-- Whether two stores of scopes are the same as far as a build may look at them, and hold only what
it may find there. -/
structure ScopesAlike (s s' : Scopes) : Prop where
  /-- The next scopes have the same numbers. -/
  size : s'.all.size = s.all.size
  /-- The scopes that may be named are the same. -/
  same : ∀ id, R.scope id → s'.all[id]? = s.all[id]?
  /-- Their variables are held, and they stand inside scopes that may be named. -/
  bound : ∀ id scope, R.scope id → s.all[id]? = some scope →
    (∀ b ∈ scope.own, R.Holds b.2) ∧ ∀ outer, scope.parent = some outer → R.scope outer
  /-- The scopes that are still to be made are the build's own. -/
  later : ∀ id, s.all.size ≤ id → R.own id

/-- Whether the scopes that a build did not make are as before. -/
def Leaves (s s' : Scopes) : Prop :=
  ∀ id, ¬ R.own id → s'.all[id]? = s.all[id]?

/-- Whether two states, in which so many elements are being built, are the same as far as a build
may look at them. -/
structure Alike (d : Nat) (s s' : BuildState) : Prop where
  /-- The number of elements being built in the first state. -/
  depth : s.depth = d
  /-- The number of elements being built in the second state. -/
  depth' : s'.depth = d
  /-- The bindings are the same. -/
  registry : s'.registry = s.registry
  /-- The streams are the same. -/
  streams : s'.streams = s.streams
  /-- The commands are the same. -/
  commands : s'.commands = s.commands
  /-- The command words are the same. -/
  words : s'.words = s.words
  /-- The scopes are alike. -/
  scopes : R.ScopesAlike s.scopes s'.scopes
  /-- No template that is out of date is kept in the first state. -/
  cache : Workshop.Invariant R.env.settings.compiler ⟨s.wordTable, s.cache⟩
  /-- No template that is out of date is kept in the second state. -/
  cache' : Workshop.Invariant R.env.settings.compiler ⟨s.wordTable, s'.cache⟩
  /-- The commands keep to the regime. -/
  admits : ∀ entry ∈ s.commands.entries, R.Admits entry.2.2
  /-- So do the arguments that are left in streams. -/
  chunks : ∀ left ∈ s.streams.left.toList, ∀ chunk ∈ left, ∀ v ∈ chunk, R.Holds v

/-- What comes of a step from two states that cannot be told apart. -/
structure Outcome {α : Type} (d : Nat) (Q : α → Prop) (s s' : BuildState)
    (r r' : Except Fault α × BuildState) : Prop where
  /-- The states cannot be told apart afterwards. -/
  alike : R.Alike d r.2 r'.2
  /-- The results are the same. -/
  same : r'.1 = r.1
  /-- A value is one that the step may come to. -/
  value : ∀ a, r.1 = .ok a → Q a
  /-- A fault is one that may come about. -/
  fault : ∀ f, r.1 = .error f → R.fault f
  /-- The scopes of others are as before in the first state. -/
  leaves : R.Leaves s.scopes r.2.scopes
  /-- The scopes of others are as before in the second state. -/
  leaves' : R.Leaves s'.scopes r'.2.scopes

/-- Whether a step keeps to the regime while so many elements are being built: from states that
cannot be told apart it comes to the same result, to such a value or such a fault. -/
def Obeys (d : Nat) {α : Type} (Q : α → Prop) (m : Build α) : Prop :=
  ∀ s s', R.Alike d s s' → R.Outcome d Q s s' (m s) (m s')

variable {R} {d : Nat} {s s' t t' : BuildState}

theorem leaves_refl (s : Scopes) : R.Leaves s s :=
  fun _ _ => rfl

theorem Leaves.trans {s t u : Scopes} (h : R.Leaves s t) (h' : R.Leaves t u) : R.Leaves s u :=
  fun id hid => (h' id hid).trans (h id hid)

/-! ## Changes that are not looked at -/

/-- Whether a change leaves everything that a build may look at. -/
structure Unseen (s t : BuildState) : Prop where
  /-- What the course of the build depends on is as before. -/
  view : t.view = s.view
  /-- The command words are as before. -/
  words : t.words = s.words
  /-- The kept templates are as before. -/
  cache : t.cache = s.cache

theorem Unseen.scopes (h : Unseen s t) : t.scopes = s.scopes :=
  congrArg BuildView.scopes h.view

/-- States that show the same as two that cannot be told apart cannot be told apart either, if no
template that is out of date is kept in them. -/
theorem Alike.of_view (h : R.Alike d s s') (hview : t.view = s.view) (hwords : t.words = s.words)
    (hview' : t'.view = s'.view) (hwords' : t'.words = s'.words)
    (hcache : Workshop.Invariant R.env.settings.compiler ⟨s.wordTable, t.cache⟩)
    (hcache' : Workshop.Invariant R.env.settings.compiler ⟨s.wordTable, t'.cache⟩) :
    R.Alike d t t' := by
  have hregistry : t.registry = s.registry := congrArg BuildView.registry hview
  have hscopes : t.scopes = s.scopes := congrArg BuildView.scopes hview
  have hstreams : t.streams = s.streams := congrArg BuildView.streams hview
  have hcommands : t.commands = s.commands := congrArg BuildView.commands hview
  have hdepth : t.depth = s.depth := congrArg BuildView.depth hview
  have hregistry' : t'.registry = s'.registry := congrArg BuildView.registry hview'
  have hscopes' : t'.scopes = s'.scopes := congrArg BuildView.scopes hview'
  have hstreams' : t'.streams = s'.streams := congrArg BuildView.streams hview'
  have hcommands' : t'.commands = s'.commands := congrArg BuildView.commands hview'
  have hdepth' : t'.depth = s'.depth := congrArg BuildView.depth hview'
  have htable : t.wordTable = s.wordTable := by
    rw [BuildState.wordTable, BuildState.wordTable, hwords, hcommands]
  constructor
  case depth => exact hdepth.trans h.depth
  case depth' => exact hdepth'.trans h.depth'
  case registry => rw [hregistry', hregistry, h.registry]
  case streams => rw [hstreams', hstreams, h.streams]
  case commands => rw [hcommands', hcommands, h.commands]
  case words => rw [hwords', hwords, h.words]
  case scopes =>
    rw [hscopes', hscopes]
    exact h.scopes
  case cache =>
    rw [htable]
    exact hcache
  case cache' =>
    rw [htable]
    exact hcache'
  case admits =>
    rw [hcommands]
    exact h.admits
  case chunks =>
    rw [hstreams]
    exact h.chunks

theorem Alike.unseen (h : R.Alike d s s') (ht : Unseen s t) (ht' : Unseen s' t') :
    R.Alike d t t' := by
  refine h.of_view ht.view ht.words ht'.view ht'.words ?_ ?_
  · rw [ht.cache]
    exact h.cache
  · rw [ht'.cache]
    exact h.cache'

/-- The number of elements being built may be another one. -/
theorem Alike.atDepth (h : R.Alike d s s') (e : Nat) :
    R.Alike e { s with depth := e } { s' with depth := e } :=
  ⟨rfl, rfl, h.registry, h.streams, h.commands, h.words, h.scopes, h.cache, h.cache', h.admits,
    h.chunks⟩

/-- Both states may get the same bindings. -/
theorem Alike.withRegistry (h : R.Alike d s s') (registry : Registry) :
    R.Alike d { s with registry } { s' with registry } :=
  ⟨h.depth, h.depth', rfl, h.streams, h.commands, h.words, h.scopes, h.cache, h.cache', h.admits,
    h.chunks⟩

/-- Both states may get scopes that are alike. -/
theorem Alike.withScopes (h : R.Alike d s s') {scopes scopes' : Scopes}
    (hscopes : R.ScopesAlike scopes scopes') :
    R.Alike d { s with scopes } { s' with scopes := scopes' } :=
  ⟨h.depth, h.depth', h.registry, h.streams, h.commands, h.words, hscopes, h.cache, h.cache',
    h.admits, h.chunks⟩

/-- A step that comes to the same value from both states. -/
theorem Outcome.of_ok {α : Type} {Q : α → Prop} {a : α} (ha : Q a) (halike : R.Alike d t t')
    (hleaves : R.Leaves s.scopes t.scopes) (hleaves' : R.Leaves s'.scopes t'.scopes) :
    R.Outcome d Q s s' (.ok a, t) (.ok a, t') := by
  refine ⟨halike, rfl, fun b hb => ?_, fun _ hf => (by cases hf), hleaves, hleaves'⟩
  cases hb
  exact ha

/-- A step that fails in the same way from both states. -/
theorem Outcome.of_error {α : Type} {Q : α → Prop} {fault : Fault} (hfault : R.fault fault)
    (halike : R.Alike d t t') (hleaves : R.Leaves s.scopes t.scopes)
    (hleaves' : R.Leaves s'.scopes t'.scopes) :
    R.Outcome (α := α) d Q s s' (.error fault, t) (.error fault, t') := by
  refine ⟨halike, rfl, fun _ hb => (by cases hb), fun f hf => ?_, hleaves, hleaves'⟩
  cases hf
  exact hfault

/-! ## Steps put together -/

namespace Obeys

variable {α β : Type} {Q : α → Prop} {Q' : β → Prop} {m : Build α} {f : α → Build β}

/-- A step that comes to a value and changes nothing that is looked at. -/
theorem of_unseen {a : α} (ha : Q a) (h : ∀ s, (m s).1 = .ok a ∧ Unseen s (m s).2) :
    R.Obeys d Q m := by
  intro s s' halike
  obtain ⟨hvalue, hunseen⟩ := h s
  obtain ⟨hvalue', hunseen'⟩ := h s'
  have halike' := halike.unseen hunseen hunseen'
  have hleaves : R.Leaves s.scopes (m s).2.scopes := hunseen.scopes ▸ leaves_refl _
  have hleaves' : R.Leaves s'.scopes (m s').2.scopes := hunseen'.scopes ▸ leaves_refl _
  refine ⟨halike', by rw [hvalue, hvalue'], fun b hb => ?_, fun f hf => ?_, hleaves, hleaves'⟩
  · rw [hvalue] at hb
    cases hb
    exact ha
  · rw [hvalue] at hf
    cases hf

theorem pure {a : α} (ha : Q a) : R.Obeys d Q (pure a) :=
  of_unseen ha fun _ => ⟨rfl, rfl, rfl, rfl⟩

/-- A change of the reports, the counts or the log. -/
theorem change {g : BuildState → BuildState} (h : ∀ s, Unseen s (g s)) :
    R.Obeys d (fun _ => True) (Build.change g) :=
  of_unseen trivial fun s => ⟨rfl, h s⟩

theorem fail {fault : Fault} (h : R.fault fault) : R.Obeys d Q (Build.fail fault) := by
  intro s s' halike
  exact .of_error h halike (leaves_refl _) (leaves_refl _)

/-- What can fail without changing the build. -/
theorem lift {r : Except Fault α} (hok : ∀ a, r = .ok a → Q a)
    (herror : ∀ fault, r = .error fault → R.fault fault) : R.Obeys d Q (Build.lift r) := by
  cases r with
  | ok a => exact pure (hok a rfl)
  | error fault => exact fail (herror fault rfl)

/-- What is read is the same in states that cannot be told apart. -/
theorem read {g : BuildState → α} (h : ∀ s s', R.Alike d s s' → g s' = g s ∧ Q (g s)) :
    R.Obeys d Q (Build.read g) := by
  intro s s' halike
  obtain ⟨hsame, hvalue⟩ := h s s' halike
  unfold Build.read
  rw [hsame]
  exact .of_ok hvalue halike (leaves_refl _) (leaves_refl _)

theorem mono {P : α → Prop} (h : R.Obeys d Q m) (hQ : ∀ a, Q a → P a) : R.Obeys d P m := by
  intro s s' halike
  obtain ⟨halike', hsame, hvalue, hfault, hleaves, hleaves'⟩ := h s s' halike
  exact ⟨halike', hsame, fun a ha => hQ a (hvalue a ha), hfault, hleaves, hleaves'⟩

/-- **Two steps one after the other.** -/
theorem bind (h : R.Obeys d Q m) (hf : ∀ a, Q a → R.Obeys d Q' (f a)) :
    R.Obeys d Q' (m >>= f) := by
  intro s s' halike
  obtain ⟨halike₁, hsame, hvalue, hfault, hleaves, hleaves'⟩ := h s s' halike
  rcases hrun : m s with ⟨fault | a, t⟩
  · rcases hrun' : m s' with ⟨r', t'⟩
    rw [hrun, hrun'] at halike₁ hsame
    rw [hrun] at hleaves hfault
    rw [hrun'] at hleaves'
    obtain rfl : r' = .error fault := hsame
    rw [Build.bind_of_error hrun, Build.bind_of_error hrun']
    refine ⟨halike₁, rfl, fun _ hb => (by cases hb), fun g hg => ?_, hleaves, hleaves'⟩
    cases hg
    exact hfault fault rfl
  · rcases hrun' : m s' with ⟨r', t'⟩
    rw [hrun, hrun'] at halike₁ hsame
    rw [hrun] at hleaves hvalue
    rw [hrun'] at hleaves'
    obtain rfl : r' = .ok a := hsame
    rw [Build.bind_of_ok hrun, Build.bind_of_ok hrun']
    obtain ⟨halike₂, hsame₂, hvalue₂, hfault₂, hleaves₂, hleaves₂'⟩ :=
      hf a (hvalue a rfl) t t' halike₁
    exact ⟨halike₂, hsame₂, hvalue₂, hfault₂, hleaves.trans hleaves₂, hleaves'.trans hleaves₂'⟩

/-- A step one element deeper. -/
theorem deeper (h : R.Obeys (d + 1) Q m) : R.Obeys d Q (Build.deeper m) := by
  intro s s' halike
  obtain rfl : s.depth = d := halike.depth
  have hdepth' : s'.depth = s.depth := halike.depth'
  have hdown := halike.atDepth (s.depth + 1)
  obtain ⟨halike₁, hsame, hvalue, hfault, hleaves, hleaves'⟩ := h _ _ hdown
  rcases hrun : m { s with depth := s.depth + 1 } with ⟨r, t⟩
  rcases hrun' : m { s' with depth := s.depth + 1 } with ⟨r', t'⟩
  rw [hrun, hrun'] at halike₁ hsame
  rw [hrun] at hvalue hfault hleaves
  rw [hrun'] at hleaves'
  rw [Build.deeper_of_eq hrun, Build.deeper_of_eq (by rw [hdepth']; exact hrun')]
  have hup : t.depth - 1 = s.depth := by rw [halike₁.depth, Nat.add_sub_cancel]
  have hup' : t'.depth - 1 = s.depth := by rw [halike₁.depth', Nat.add_sub_cancel]
  rw [hup, hup']
  exact ⟨halike₁.atDepth s.depth, hsame, hvalue, hfault, hleaves, hleaves'⟩

/-- A row of steps, one for each item. -/
theorem foldlM {step : α → β → Build α} {items : List β}
    (h : ∀ a b, Q a → b ∈ items → R.Obeys d Q (step a b)) {a : α} (ha : Q a) :
    R.Obeys d Q (items.foldlM step a) := by
  induction items generalizing a with
  | nil => exact pure ha
  | cons b items ih =>
    rw [List.foldlM_cons]
    refine bind (h a b ha List.mem_cons_self) fun a' ha' => ?_
    exact ih (fun a c hQ hc => h a c hQ (List.mem_cons_of_mem b hc)) ha'

end Obeys

end Regime

end TagScript
