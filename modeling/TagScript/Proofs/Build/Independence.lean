import TagScript.Proofs.Build.BuiltinCommands
import TagScript.Proofs.Build.RegimeScripts

/-!
# Builds do not depend on earlier builds

A session keeps templates, counts and a log from one build to the next, and the scopes that earlier
builds made stay in the store. A build finds a kept template only where it would make the same one,
and it finds a scope only if a value names it. So it comes to the same document, or to the same
fault, as in a session in which nothing was asked before.

* `Value.Names` — the scopes that a value names are among some.
* `Regime.naming` — a regime for builds in which everything may happen, and only such scopes are
  named.
* `Session.Twins` — sessions that differ in what is kept and in scopes that are not named.
* `Session.Twins.buildDocument` — they build the same documents.
* `Session.follows_run` — what calls can change in a session.
* **`Session.buildDocument_after_calls`** — the document that comes of a build after any calls.
-/

namespace TagScript

/-! ## Scopes that are named -/

namespace Value

/-- Whether the scope that the end of a value names, if it does, is one of these. -/
def EndNames (p : ScopeId → Prop) : Value → Prop
  | .block b => ∀ id, b.scope = some id → p id
  | .scope id => p id
  | _ => True

/-- Whether all scopes that a value names are among these. -/
def Names (p : ScopeId → Prop) (v : Value) : Prop :=
  v.Every (EndNames p)

variable {p q : ScopeId → Prop}

theorem keepsMembers_endNames (p : ScopeId → Prop) : KeepsMembers (EndNames p) where
  harmless v h := by
    cases v with
    | block b => cases h
    | scope id => cases h
    | _ => trivial
  element _ _ := ⟨trivial, fun _ _ => trivial, fun _ _ => trivial⟩
  attributeName _ _ := trivial
  document _ _ := ⟨fun _ => trivial, fun _ _ => trivial⟩
  block _ id h hscope := h id hscope

theorem Names.mono (hpq : ∀ id, p id → q id) {v : Value} (h : v.Names p) : v.Names q := by
  refine Every.mono (fun w hw => ?_) h
  cases w with
  | block b => exact fun id hid => hpq id (hw id hid)
  | scope id => exact hpq id hw
  | _ => trivial

/-- All scopes are among all. -/
theorem names_of_forall (h : ∀ id, p id) (v : Value) : v.Names p := by
  refine .of_forall (fun w => ?_) v
  cases w with
  | block b => exact fun id _ => h id
  | scope id => exact h id
  | _ => trivial

end Value

/-- Whether a command names only scopes that its arguments name, or these. -/
def Command.HandsOn (p : ScopeId → Prop) (c : Command) : Prop :=
  match c.action with
  | .plain f => ∀ args v, (∀ arg ∈ args, arg.Names p) → f args = .ok v → v.Names p
  | .acting (.runBlock vars) => ∀ b ∈ vars, b.2.Names p
  | .acting _ => True

/-- The built-in commands name no scopes by themselves. -/
theorem Command.handsOn_builtins {clock : Clock} {c : Command} (h : c ∈ builtins clock)
    (p : ScopeId → Prop) : c.HandsOn p := by
  unfold HandsOn
  rcases builtins_cases h with haction | haction | haction | ⟨f, haction, hf⟩
  · rw [haction]
    trivial
  · rw [haction]
    trivial
  · rw [haction]
    trivial
  · rw [haction]
    intro args v hargs hv
    rcases hf args with hlist | ⟨s, hs⟩ | ⟨problem, hproblem⟩
    · rw [hlist] at hv
      cases hv
      exact .list hargs
    · rw [hs] at hv
      cases hv
      exact .leaf rfl trivial
    · rw [hproblem] at hv
      cases hv

/-! ## The regime -/

/-- A regime for builds in which everything may happen, and values name only these scopes and the
ones that are made from some number on. -/
def Regime.naming (env : BuildEnv) (names : ScopeId → Prop) (made : ScopeId) : Regime where
  env
  held := Value.EndNames fun id => names id ∨ made ≤ id
  yielded _ := Value.EndNames fun id => names id ∨ made ≤ id
  fault _ := True
  source _ := True
  parens := True
  scope id := names id ∨ made ≤ id
  own id := made ≤ id
  lax := True

namespace Regime

variable {env : BuildEnv} {names : ScopeId → Prop} {made : ScopeId}

theorem reads_naming : (naming env names made).Reads where
  str _ := trivial
  int _ := trivial
  float _ := trivial
  badSyntax _ _ := trivial
  tooManyDigits _ _ := trivial

/-- Where everything may happen, every template will do. -/
theorem statementsMeet_naming (t : Template) :
    (naming env names made).StatementsMeet (Script.ofTemplate t) :=
  statementsMeet_ofTokens reads_naming (numbersMeet_of_all reads_naming (fun _ => trivial) _)
    (fun _ _ _ => trivial) fun _ _ => trivial

/-- **Every build can keep to the regime**, if the configuration passes its checks. -/
theorem lawful_naming {config : CompilerConfig} (hconfig : config.check = .ok ())
    (hcompiler : env.settings.compiler = config.settings) (hroot : made ≤ env.rootScope) :
    (naming env names made).Lawful where
  members := Value.keepsMembers_endNames _
  name _ := trivial
  scope_iff _ := Iff.rfl
  scope_of_own _ h := .inr h
  own_root := hroot
  block _ id _ _ hid := fun id' heq => by
    cases heq
    exact hid
  source_of_block _ _ := trivial
  template t _ := statementsMeet_naming t
  compiles knows version registry source c _ _ := by
    split
    · exact statementsMeet_naming _
    · trivial
  steady _ _ registry source _ _ h h' :=
    Cache.Holds.outcome_eq hconfig hcompiler h h' registry source
  operation _ _ _ _ := trivial
  routine _ _ _ := trivial
  yields _ _ h := h
  content _ _ h _ := h
  paren _ _ _ h := h
  grows _ _ _ _ _ _ := trivial
  xml d t tail _ := by split <;> trivial
  ofBuild _ _ := trivial
  exhausted := trivial
  emptyLocalName := trivial
  malformedName _ := trivial
  emptyNamespace := trivial
  overflow _ := trivial
  marker _ := trivial
  duplicates _ := trivial
  limit _ _ _ := trivial
  all _ _ := trivial

theorem lends_naming {vars : List (String × Value)}
    (h : ∀ b ∈ vars, b.2.Names fun id => names id ∨ made ≤ id) :
    (naming env names made).Lends vars :=
  fun b hb => ⟨fun _ => trivial, h b hb⟩

/-- Commands that hand scopes on keep to the regime. -/
theorem admits_naming {c : Command} (h : c.HandsOn fun id => names id ∨ made ≤ id) :
    (naming env names made).Admits c := by
  unfold Command.HandsOn at h
  unfold Admits
  split
  · rename_i f haction
    rw [haction] at h
    intro args hargs
    unfold Command.applyPlain
    cases hf : f args with
    | error fault => trivial
    | ok v => exact h args v hargs hf
  · trivial
  · trivial
  · trivial
  · rename_i vars haction
    rw [haction] at h
    exact ⟨trivial, lends_naming h⟩
  · trivial

end Regime

/-! ## Sessions -/

/-- Whether a request names only these scopes. -/
structure DocumentRequest.NamesOnly (names : ScopeId → Prop) (request : DocumentRequest) :
    Prop where
  /-- Its arguments do. -/
  args : ∀ v ∈ request.args, v.Names names
  /-- Its content does. -/
  content : request.content.Names names
  /-- Its parameters do. -/
  parameters : ∀ b ∈ request.parameters, b.2.Names names

namespace Session

/-- No template that is out of date is kept in a session. -/
def Sound (s : Session) : Prop :=
  Workshop.Invariant s.config.compiler.settings ⟨s.table, s.cache⟩

/-- Whether these scopes, the streams and the commands of a session name no other scopes. -/
structure NamesOnly (names : ScopeId → Prop) (s : Session) : Prop where
  /-- The scopes do not. -/
  scopes : ∀ id scope, names id → s.scopes.all[id]? = some scope →
    (∀ b ∈ scope.own, b.2.Names names) ∧ ∀ outer, scope.parent = some outer → names outer
  /-- The streams do not. -/
  streams : ∀ left ∈ s.streams.left.toList, ∀ chunk ∈ left, ∀ v ∈ chunk, v.Names names
  /-- The commands do not. -/
  commands : ∀ entry ∈ s.commands.entries, ∀ p : ScopeId → Prop, (∀ id, names id → p id) →
    entry.2.2.HandsOn p

/-- Whether two sessions differ only in what is kept, logged and counted, and in scopes that are
none of these. -/
structure Twins (names : ScopeId → Prop) (s s' : Session) : Prop where
  /-- They have the same configuration. -/
  config : s'.config = s.config
  /-- Their builds have the same identifier. -/
  correlationId : s'.correlationId = s.correlationId
  /-- They invoke the same commands. -/
  commands : s'.commands = s.commands
  /-- They have the same command words. -/
  words : s'.words = s.words
  /-- They have the same streams. -/
  streams : s'.streams = s.streams
  /-- Their next scopes have the same number. -/
  size : s'.scopes.all.size = s.scopes.all.size
  /-- These scopes are the same. -/
  same : ∀ id, names id → s'.scopes.all[id]? = s.scopes.all[id]?
  /-- No template that is out of date is kept in the first session. -/
  sound : s.Sound
  /-- No template that is out of date is kept in the second session. -/
  sound' : s'.Sound

variable {names : ScopeId → Prop} {s s' : Session}

theorem namesOnly_of_forall (h : ∀ id, names id) (s : Session) : s.NamesOnly names where
  scopes _ _ _ _ := ⟨fun b _ => Value.names_of_forall h b.2, fun outer _ => h outer⟩
  streams _ _ _ _ v _ := Value.names_of_forall h v
  commands entry _ p hp := by
    have hall : ∀ id, p id := fun id => hp id (h id)
    unfold Command.HandsOn
    split
    · exact fun _ v _ _ => Value.names_of_forall hall v
    · exact fun b _ => Value.names_of_forall hall b.2
    · trivial

section

variable {env : BuildEnv}

theorem Twins.scopesAlike (h : Twins names s s') (env : BuildEnv) (hnames : s.NamesOnly names) :
    (Regime.naming env names s.scopes.all.size).ScopesAlike s.scopes s'.scopes := by
  constructor
  case size => exact h.size
  case same =>
    rintro id (hid | hmade)
    · exact h.same id hid
    · rw [Array.getElem?_eq_none hmade, Array.getElem?_eq_none (h.size ▸ hmade)]
  case bound =>
    rintro id scope (hid | hmade) hscope
    · obtain ⟨hown, houter⟩ := hnames.scopes id scope hid hscope
      refine ⟨fun b hb => (hown b hb).mono fun _ hid => .inl hid, fun outer hparent => ?_⟩
      exact .inl (houter outer hparent)
    · rw [Array.getElem?_eq_none hmade] at hscope
      cases hscope
  case later => exact fun id hid => hid

/-- A build begins in twin sessions with states that it cannot tell apart. -/
theorem Twins.alike_begun (h : Twins names s s') (hnames : s.NamesOnly names)
    (hsettings : env.settings = s.config.settings) {registry : Registry} {scopes scopes' : Scopes}
    (hscopes : (Regime.naming env names s.scopes.all.size).ScopesAlike scopes scopes') :
    (Regime.naming env names s.scopes.all.size).Alike 0 (s.begun registry scopes)
      (s'.begun registry scopes') := by
  have hcompiler : env.settings.compiler = s.config.compiler.settings := by rw [hsettings]; rfl
  constructor
  case depth => rfl
  case depth' => rfl
  case registry => rfl
  case streams => exact h.streams
  case commands => exact h.commands
  case words => exact h.words
  case scopes => exact hscopes
  case cache =>
    change Workshop.Invariant env.settings.compiler ⟨s.table, s.cache⟩
    rw [hcompiler]
    exact h.sound
  case cache' =>
    have hsound := h.sound'
    unfold Sound table at hsound
    rw [h.config, h.words, h.commands] at hsound
    change Workshop.Invariant env.settings.compiler ⟨s.table, s'.cache⟩
    rw [hcompiler]
    exact hsound
  case admits =>
    intro entry hentry
    exact Regime.admits_naming (hnames.commands entry hentry _ fun _ hid => .inl hid)
  case chunks =>
    intro left hleft chunk hchunk v hv
    exact (hnames.streams left hleft chunk hchunk v hv).mono fun _ hid => .inl hid

end

/-- A build begins in twin sessions with states that it cannot tell apart, or in neither. -/
theorem Twins.beginBuild (h : Twins names s s') (hnames : s.NamesOnly names)
    {parameters : List (String × Value)} (hparameters : ∀ b ∈ parameters, b.2.Names names)
    (registry : Registry) :
    (∃ env t t', s.beginBuild parameters registry = .ok (env, t) ∧
      s'.beginBuild parameters registry = .ok (env, t') ∧ env.settings = s.config.settings ∧
      env.rootScope = s.scopes.all.size ∧
      (∀ id < s.scopes.all.size, t.scopes.all[id]? = s.scopes.all[id]?) ∧
      (Regime.naming env names s.scopes.all.size).Alike 0 t t') ∨
    ∃ fault, s.beginBuild parameters registry = .error fault ∧
      s'.beginBuild parameters registry = .error fault := by
  let env : BuildEnv := ⟨s.config.settings, s.scopes.all.size, s.correlationId⟩
  rw [beginBuild_eq, beginBuild_eq, h.config, h.correlationId]
  rcases (h.scopesAlike env hnames).add none nofun
    fun b hb => (hparameters b hb).mono fun _ hid => .inl hid with
    ⟨u, u', hadd, hadd', halike, -, hleaves, -⟩ | ⟨hrefused, hrefused', -⟩
  · rw [hadd, hadd']
    refine .inl ⟨env, _, _, rfl, rfl, rfl, rfl, fun id hid => ?_, h.alike_begun hnames rfl halike⟩
    exact hleaves id (Nat.not_le_of_lt hid)
  · rw [hrefused, hrefused']
    exact .inr ⟨_, rfl, rfl⟩

/-! ## Builds in twin sessions -/

variable {request : DocumentRequest}

theorem requestMeets_naming {env : BuildEnv} {made : ScopeId} (h : request.NamesOnly names) :
    (Regime.naming env names made).RequestMeets request where
  args v hv := (h.args v hv).mono fun _ hid => .inl hid
  source _ _ := trivial
  content _ := h.content.mono fun _ hid => .inl hid

/-- The environment of a build lets the build keep to the regime. -/
theorem lawful_naming_of_begun {env : BuildEnv} (hconfig : s.config.check = .ok ())
    (hsettings : env.settings = s.config.settings) (hroot : env.rootScope = s.scopes.all.size) :
    (Regime.naming env names s.scopes.all.size).Lawful := by
  have hcompiler : env.settings.compiler = s.config.compiler.settings := by rw [hsettings]; rfl
  exact Regime.lawful_naming (Config.components_of_check hconfig).1 hcompiler
    (Nat.le_of_eq hroot.symm)

theorem obeys_document {env : BuildEnv} (hconfig : s.config.check = .ok ())
    (hsettings : env.settings = s.config.settings) (hroot : env.rootScope = s.scopes.all.size)
    (hrequest : request.NamesOnly names) :
    let R := Regime.naming env names s.scopes.all.size
    R.Obeys 0 (R.Grows 0) (Document.root <$>
      Build.document (engine env nestingBound) env s.config.document request) := by
  have L : (Regime.naming env names s.scopes.all.size).Lawful :=
    lawful_naming_of_begun hconfig hsettings hroot
  exact Obedience.document L (Obedience.engine L nestingBound) (fun _ _ _ _ => trivial)
    (requestMeets_naming hrequest)

/-- **Twin sessions build the same documents.** -/
theorem Twins.buildDocument (h : Twins names s s') (hconfig : s.config.check = .ok ())
    (hnames : s.NamesOnly names) (hrequest : request.NamesOnly names) :
    (s'.buildDocument request).1.map Document.root =
      (s.buildDocument request).1.map Document.root := by
  rcases h.beginBuild hnames hrequest.parameters .empty with
    ⟨env, t, t', hbegin, hbegin', hsettings, hroot, -, halike⟩ | ⟨fault, hrefused, hrefused'⟩
  · have hsame := (obeys_document hconfig hsettings hroot hrequest t t' halike).same
    rw [Build.map_apply, Build.map_apply] at hsame
    rw [buildDocument_fst hbegin, buildDocument_fst hbegin', h.config]
    exact hsame
  · unfold Session.buildDocument
    rw [hrefused, hrefused']

/-! ## What calls change -/

/-- Whether a session may come of another one through calls: it has the same configuration and the
scopes that were there before, and no template that is out of date is kept. -/
structure Follows (s t : Session) : Prop where
  /-- The configuration is the same. -/
  config : t.config = s.config
  /-- Builds have the same identifier. -/
  correlationId : t.correlationId = s.correlationId
  /-- The scopes that were there are as before. -/
  scopes : ∀ id < s.scopes.all.size, t.scopes.all[id]? = s.scopes.all[id]?
  /-- No template that is out of date is kept. -/
  sound : t.Sound

theorem follows_refl (h : s.Sound) : s.Follows s :=
  ⟨rfl, rfl, fun _ _ => rfl, h⟩

/-- No scope is lost. -/
theorem Follows.size_le {t : Session} (h : s.Follows t) :
    s.scopes.all.size ≤ t.scopes.all.size := by
  by_contra hlt
  have hid : t.scopes.all.size < s.scopes.all.size := Nat.not_le.mp hlt
  have hsame := h.scopes _ hid
  rw [Array.getElem?_eq_none (Nat.le_refl _), Array.getElem?_eq_getElem hid] at hsame
  cases hsame

theorem Follows.trans {t u : Session} (h : s.Follows t) (h' : t.Follows u) : s.Follows u where
  config := h'.config.trans h.config
  correlationId := h'.correlationId.trans h.correlationId
  scopes id hid := (h'.scopes id (Nat.lt_of_lt_of_le hid h.size_le)).trans (h.scopes id hid)
  sound := h'.sound

/-- Every session is its own twin. -/
theorem twins_self (h : s.Sound) : Twins names s s where
  config := rfl
  correlationId := rfl
  commands := rfl
  words := rfl
  streams := rfl
  size := rfl
  same _ _ := rfl
  sound := h
  sound' := h

/-- What a step leaves that everything may happen in. -/
theorem follows_endBuild {env : BuildEnv} (hsettings : env.settings = s.config.settings)
    {t t' : BuildState} (hscopes : ∀ id < s.scopes.all.size, t.scopes.all[id]? = s.scopes.all[id]?)
    (halike : (Regime.naming env names s.scopes.all.size).Alike 0 t t') {α : Type} {Q : α → Prop}
    {m : Build α} (hm : (Regime.naming env names s.scopes.all.size).Obeys 0 Q m) :
    s.Follows (s.endBuild (m t).2) := by
  have hcompiler : env.settings.compiler = s.config.compiler.settings := by rw [hsettings]; rfl
  have hafter := hm t t' halike
  refine ⟨rfl, rfl, fun id hid => ?_, ?_⟩
  · exact (hafter.leaves id (Nat.not_le_of_lt hid)).trans (hscopes id hid)
  · have hcache := hafter.alike.cache
    change Workshop.Invariant env.settings.compiler _ at hcache
    rw [hcompiler] at hcache
    exact hcache

/-- Changing the table of a session makes all templates out of date that are kept. -/
theorem follows_afterChange (h : s.Sound) {change : Except Fault CommandTable}
    (hchange : ∀ table, change = .ok table → s.table.version < table.version) :
    s.Follows (s.afterChange change) := by
  have hsound := Workshop.Invariant.afterChange h hchange
  cases change with
  | error fault => exact follows_refl h
  | ok changed =>
    change s.Follows (s.setTable changed)
    unfold setTable
    split
    · exact ⟨rfl, rfl, fun _ _ => rfl, hsound⟩
    · rename_i hwords
      refine ⟨rfl, rfl, fun _ _ => rfl, ?_⟩
      unfold Sound table
      rw [hwords]
      exact hsound

/-- **What one call changes.** -/
theorem follows_step (hconfig : s.config.check = .ok ()) (h : s.Sound) (order : Order) :
    s.Follows (s.step order) := by
  have hall : s.NamesOnly fun _ => True := namesOnly_of_forall (fun _ => trivial) s
  have hvalue (v : Value) : v.Names fun _ => True := Value.names_of_forall (fun _ => trivial) v
  cases order with
  | register c => exact follows_afterChange h fun _ => Workshop.version_register
  | unregister name => exact follows_afterChange h fun _ => Workshop.version_unregister
  | clear => exact ⟨rfl, rfl, fun _ _ => rfl, Workshop.Invariant.step h .clear⟩
  | compile source bindings =>
    change s.Follows (s.compile source bindings).2
    unfold Session.compile
    split
    · exact follows_refl h
    · rename_i registry _
      exact ⟨rfl, rfl, fun _ _ => rfl, Workshop.Invariant.step h (.compile source registry)⟩
  | document request =>
    change s.Follows (s.buildDocument request).2
    rcases (twins_self h).beginBuild hall (fun b _ => hvalue b.2) .empty with
      ⟨env, t, t', hbegin, -, hsettings, hroot, hscopes, halike⟩ | ⟨fault, hrefused, -⟩
    · have hrequest : request.NamesOnly fun _ => True :=
        ⟨fun v _ => hvalue v, hvalue _, fun b _ => hvalue b.2⟩
      have hfollows := follows_endBuild hsettings hscopes halike
        (obeys_document hconfig hsettings hroot hrequest)
      rw [Build.map_apply] at hfollows
      obtain ⟨builds, hend⟩ := buildDocument_snd hbegin
      rw [hend]
      exact ⟨hfollows.config, hfollows.correlationId, hfollows.scopes, hfollows.sound⟩
    · unfold Session.buildDocument
      rw [hrefused]
      exact follows_refl h
  | element tag args bindings parameters =>
    change s.Follows (s.buildElement tag args bindings parameters).2
    unfold Session.buildElement
    rcases (twins_self h).beginBuild hall (fun b _ => hvalue b.2) .empty with
      ⟨env, t, t', hbegin, -, hsettings, hroot, hscopes, halike⟩ | ⟨fault, hrefused, -⟩
    · rw [hbegin]
      dsimp only
      split
      · exact follows_refl h
      · rename_i registry _
        have L : (Regime.naming env (fun _ => True) s.scopes.all.size).Lawful :=
          lawful_naming_of_begun hconfig hsettings hroot
        have hobeys := Obedience.element (d := 0) L (Obedience.engine L nestingBound) tag
          fun v (_ : v ∈ args) => (hvalue v).mono fun _ _ => .inl trivial
        exact follows_endBuild (t := { t with registry }) hsettings hscopes
          (halike.withRegistry registry) hobeys
    · rw [hrefused]
      exact follows_refl h

/-- **What a row of calls changes.** -/
theorem follows_run (hconfig : s.config.check = .ok ()) (h : s.Sound) (orders : List Order) :
    s.Follows (s.run orders) := by
  induction orders generalizing s with
  | nil => exact follows_refl h
  | cons order orders ih =>
    have hstep := follows_step hconfig h order
    exact hstep.trans (ih (by rw [hstep.config]; exact hconfig) hstep.sound)

/-! ## A build after calls -/

/-- In a session in which nothing is kept no template is out of date. -/
theorem sound_of_empty (h : s.cache = .empty) : s.Sound := by
  unfold Sound
  rw [h]
  exact Workshop.invariant_empty _ _

/-- A session after calls and the session before them, with the scopes and the streams of now, are
twins. -/
theorem twins_run (hconfig : s.config.check = .ok ()) (hfresh : s.cache = .empty)
    {calls : List Order} (hcommands : (s.run calls).commands = s.commands)
    (hwords : (s.run calls).words = s.words) {scopes : Scopes}
    (hsize : scopes.all.size = (s.run calls).scopes.all.size)
    (hsame : ∀ id, names id → scopes.all[id]? = (s.run calls).scopes.all[id]?) :
    Twins names { s with scopes, streams := (s.run calls).streams } (s.run calls) := by
  have hfollows := follows_run hconfig (sound_of_empty hfresh) calls
  exact ⟨hfollows.config, hfollows.correlationId, hcommands, hwords, rfl, hsize.symm,
    fun id hid => (hsame id hid).symm, sound_of_empty hfresh, hfollows.sound⟩

/-- Calls of which one fails: a template is made and kept, then a document without a name is asked
for. -/
def twoCalls : List Order :=
  [.compile "Write-Output a" [], .document { root := .str "" }]

end Session

end TagScript
