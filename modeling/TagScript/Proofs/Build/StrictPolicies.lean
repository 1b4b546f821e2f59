import TagScript.Proofs.Build.Lockstep
import TagScript.Session

/-!
# Strict and lenient configurations

Four problems are faults under a strict configuration and reports under a lenient one: an argument
that cannot be used, a prefix that is bound again, an attribute that is given twice, and a variable
nobody defined. Two builds of the same document, one under each configuration, are compared step by
step.

* `Config.Counterparts` — two configurations that differ in the four policies only.
* `Build.Follows` — the invariant: up to the first tolerated problem both builds do the same, and
  where the lenient one reports it, the strict one fails.
* `BuildEnv.Counterparts.documenting` — every step of a build follows its counterpart.
* **`Config.Counterparts.buildDocument_iff`** — a document is built under the strict configuration
  exactly if it is built under the lenient one without a tolerated problem.
-/

namespace TagScript

/-- Whether a report is about a problem that a strict configuration does not tolerate. -/
def DiagnosticCode.isTolerance : DiagnosticCode → Bool
  | .malformedArgument | .namespaceCollision | .duplicateAttribute | .undefinedVariable => true
  | .unresolvedPrefix | .general => false

/-- Whether a problem was tolerated that a strict configuration does not tolerate. -/
def BuildState.Tolerated (s : BuildState) : Prop :=
  ∃ d ∈ s.diagnostics, d.code.isTolerance = true

namespace Build

/-- Whether a strict step follows a lenient one. They do the same and report no tolerated problem,
or the strict step fails and the lenient one reports such a problem; what was reported before stays
reported. -/
def Follows {α : Type} (strict lenient : Build α) : Prop :=
  ∀ s : BuildState, (s.Tolerated → (lenient s).2.Tolerated) ∧
    (strict s = lenient s ∧ ((lenient s).2.Tolerated → s.Tolerated) ∨
      (∃ f, (strict s).1 = .error f) ∧ (lenient s).2.Tolerated)

/-! ## Steps that report nothing -/

/-- A step that reports no tolerated problem follows itself. -/
theorem follows_self {α : Type} {m : Build α}
    (h : ∀ s : BuildState, (m s).2.Tolerated ↔ s.Tolerated) : Follows m m :=
  fun s => ⟨(h s).mpr, .inl ⟨rfl, (h s).mp⟩⟩

/-- A step that leaves the reports as they are follows itself. -/
theorem follows_of_diagnostics {α : Type} {m : Build α}
    (h : ∀ s : BuildState, (m s).2.diagnostics = s.diagnostics) : Follows m m :=
  follows_self fun s => by rw [BuildState.Tolerated, BuildState.Tolerated, h s]

/-- A step that fails follows every step that reports a tolerated problem. -/
theorem follows_fail {α : Type} (f : Fault) {m : Build α}
    (h : ∀ s : BuildState, (m s).2.Tolerated) : Follows (fail f) m :=
  fun s => ⟨fun _ => h s, .inr ⟨⟨f, rfl⟩, h s⟩⟩

theorem follows_read {α : Type} (f : BuildState → α) : Follows (read f) (read f) :=
  follows_of_diagnostics fun _ => rfl

theorem follows_lift {α : Type} (r : Except Fault α) : Follows (lift r) (lift r) :=
  follows_of_diagnostics fun _ => rfl

theorem follows_record (logger : Logger) (level : LogLevel) (message : String)
    (extra : List (String × Json)) :
    Follows (record logger level message extra) (record logger level message extra) :=
  follows_of_diagnostics fun _ => rfl

/-! ## Steps put together -/

/-- One step after the other: if the first one comes to the same, it depends on the second, and
otherwise the strict build has failed already. -/
theorem Follows.bind {α β : Type} {m m' : Build α} {f f' : α → Build β} (h : Follows m m')
    (hf : ∀ a, Follows (f a) (f' a)) : Follows (m >>= f) (m' >>= f') := by
  intro s
  obtain ⟨hkept, hcases⟩ := h s
  rcases hlenient : m' s with ⟨r, s₁⟩
  rw [hlenient] at hkept hcases
  cases r with
  | error fault =>
    rw [bind_of_error hlenient]
    refine ⟨hkept, ?_⟩
    rcases hcases with ⟨hsame, hquiet⟩ | ⟨⟨f, hfault⟩, htolerated⟩
    · exact .inl ⟨bind_of_error hsame _, hquiet⟩
    · have hstrict : m s = (.error f, (m s).2) := Prod.ext hfault rfl
      exact .inr ⟨⟨f, by rw [bind_of_error hstrict]⟩, htolerated⟩
  | ok a =>
    rw [bind_of_ok hlenient]
    obtain ⟨hkept', hcases'⟩ := hf a s₁
    refine ⟨fun hs => hkept' (hkept hs), ?_⟩
    rcases hcases with ⟨hsame, hquiet⟩ | ⟨⟨f, hfault⟩, htolerated⟩
    · rw [bind_of_ok hsame]
      exact hcases'.imp_left fun ⟨hsame', hquiet'⟩ => ⟨hsame', fun hs => hquiet (hquiet' hs)⟩
    · have hstrict : m s = (.error f, (m s).2) := Prod.ext hfault rfl
      exact .inr ⟨⟨f, by rw [bind_of_error hstrict]⟩, hkept' htolerated⟩

theorem Follows.deeper {α : Type} {m m' : Build α} (h : Follows m m') :
    Follows (deeper m) (deeper m') := by
  intro s
  obtain ⟨hkept, hcases⟩ := h { s with depth := s.depth + 1 }
  refine ⟨hkept, ?_⟩
  rcases hcases with ⟨hsame, hquiet⟩ | ⟨hfault, htolerated⟩
  · refine .inl ⟨?_, hquiet⟩
    unfold Build.deeper
    rw [hsame]
  · exact .inr ⟨hfault, htolerated⟩

theorem Follows.noteFault {α : Type} (logger : Logger) {m m' : Build α} (h : Follows m m') :
    Follows (noteFault logger m) (noteFault logger m') := by
  -- noting a fault in the log neither changes the reports nor turns the fault into a value
  have hreports (m : Build α) (s : BuildState) :
      ((Build.noteFault logger m s).2.diagnostics = (m s).2.diagnostics) ∧
        (∀ f, (m s).1 = .error f → (Build.noteFault logger m s).1 = .error f) := by
    unfold Build.noteFault
    rcases m s with ⟨f | a, s₁⟩
    · dsimp only
      split
      · exact ⟨rfl, fun _ hf => hf⟩
      · exact ⟨rfl, fun _ hf => hf⟩
    · exact ⟨rfl, fun _ hf => hf⟩
  intro s
  obtain ⟨hkept, hcases⟩ := h s
  unfold BuildState.Tolerated at hkept hcases ⊢
  rw [(hreports m' s).1]
  refine ⟨hkept, ?_⟩
  rcases hcases with ⟨hsame, hquiet⟩ | ⟨⟨f, hfault⟩, htolerated⟩
  · refine .inl ⟨?_, hquiet⟩
    unfold Build.noteFault
    rw [hsame]
  · exact .inr ⟨⟨f, (hreports m s).2 f hfault⟩, htolerated⟩

/-! ## Reports -/

/-- The reports after one more. -/
theorem tolerated_push {s s' : BuildState} {d : Diagnostic}
    (h : s'.diagnostics = s.diagnostics.push d) :
    s'.Tolerated ↔ s.Tolerated ∨ d.code.isTolerance = true := by
  unfold BuildState.Tolerated
  rw [h]
  constructor
  · rintro ⟨d', hd', htolerance⟩
    rcases Array.mem_push.mp hd' with hold | rfl
    · exact .inl ⟨d', hold, htolerance⟩
    · exact .inr htolerance
  · rintro (⟨d', hold, htolerance⟩ | htolerance)
    · exact ⟨d', Array.mem_push.mpr (.inl hold), htolerance⟩
    · exact ⟨d, Array.mem_push.mpr (.inr rfl), htolerance⟩

/-- While templates are made or found, only names whose prefix is unbound are reported. -/
theorem tolerated_template (env : BuildEnv) (source : String) (s : BuildState) :
    (template env source s).2.Tolerated ↔ s.Tolerated := by
  unfold BuildState.Tolerated
  rw [diagnostics_template]
  constructor
  · rintro ⟨d, hd, htolerance⟩
    rcases Array.mem_append.mp hd with hold | hnew
    · exact ⟨d, hold, htolerance⟩
    · obtain ⟨word, -, rfl⟩ := List.mem_map.mp (List.mem_toArray.mp hnew)
      cases htolerance
  · rintro ⟨d, hd, htolerance⟩
    exact ⟨d, Array.mem_append_left _ hd, htolerance⟩

end Build

/-! ## Builds under strict and lenient settings -/

/-- Environments that differ in the four policies only: the first one is strict and the second one
lenient. -/
structure BuildEnv.Counterparts (strict lenient : BuildEnv) : Prop where
  /-- The parameters stand in the same scope. -/
  rootScope : lenient.rootScope = strict.rootScope
  /-- The build is the same one. -/
  correlationId : lenient.correlationId = strict.correlationId
  /-- Content is marked by the same word. -/
  contentMarker : lenient.settings.contentMarker = strict.settings.contentMarker
  /-- Elements may be nested as deep. -/
  maxDepth : lenient.settings.maxDepth = strict.settings.maxDepth
  /-- The depth is configured alike. -/
  maxDepthSetting : lenient.settings.maxDepthSetting = strict.settings.maxDepthSetting
  /-- Templates are made and kept alike. -/
  compiler : lenient.settings.compiler = strict.settings.compiler
  /-- An argument that cannot be used is a fault. -/
  strictArguments : strict.settings.strictArguments = true
  /-- A second URI for a prefix is a fault. -/
  strictCollisions : strict.settings.strictCollisions = true
  /-- A second attribute with one name is a fault. -/
  strictDuplicates : strict.settings.duplicates = some .reject
  /-- A variable nobody defined is a fault. -/
  strictVariables : strict.settings.strictVariables = true
  /-- An argument that cannot be used is reported. -/
  lenientArguments : lenient.settings.strictArguments = false
  /-- A second URI for a prefix is reported. -/
  lenientCollisions : lenient.settings.strictCollisions = false
  /-- Of two attributes with one name the first or the last counts. -/
  lenientDuplicates : lenient.settings.duplicates = some .first ∨
    lenient.settings.duplicates = some .last
  /-- A variable nobody defined is reported. -/
  lenientVariables : lenient.settings.strictVariables = false

namespace BuildEnv.Counterparts

open Build

variable {strict lenient : BuildEnv} (h : strict.Counterparts lenient)
include h

theorem logger (component : String) : lenient.logger component = strict.logger component := by
  rw [BuildEnv.logger, BuildEnv.logger, h.correlationId]

theorem lookup (scope : ScopeId) (name : String) (pos : Position) :
    Follows (Build.lookup strict scope name pos) (Build.lookup lenient scope name pos) := by
  unfold Build.lookup
  refine Follows.bind (follows_read _) fun v => ?_
  cases v with
  | some v => exact follows_lift (.ok v)
  | none =>
    rw [h.strictVariables, h.lenientVariables]
    refine follows_fail _ fun s => ?_
    exact (tolerated_push rfl).mpr (.inr rfl)

theorem malformed (tag : QName) (problem : ArgumentProblem) (value : String) :
    Follows (Build.malformed strict tag problem value)
      (Build.malformed lenient tag problem value) := by
  unfold Build.malformed
  rw [h.strictArguments, h.lenientArguments]
  exact follows_fail _ fun s => (tolerated_push rfl).mpr (.inr rfl)

theorem bindPrefix (tag : QName) (pfx uri : String) :
    Follows (Build.bindPrefix strict tag pfx uri) (Build.bindPrefix lenient tag pfx uri) := by
  unfold Build.bindPrefix
  refine Follows.bind (follows_read _) fun r => ?_
  split
  · exact follows_of_diagnostics fun _ => rfl
  · rw [h.strictCollisions, h.lenientCollisions]
    exact follows_fail _ fun s => (tolerated_push rfl).mpr (.inr rfl)
  · exact follows_lift (.error _)

theorem addAttribute (tag : QName) (parts : Parts) (name : QName) (value : String) :
    Follows (Build.addAttribute strict tag parts name value)
      (Build.addAttribute lenient tag parts name value) := by
  unfold Build.addAttribute
  split
  · exact follows_lift (.ok _)
  · rw [h.strictDuplicates]
    rcases h.lenientDuplicates with hpolicy | hpolicy
    · rw [hpolicy]
      exact follows_fail _ fun s => (tolerated_push rfl).mpr (.inr rfl)
    · rw [hpolicy]
      exact follows_fail _ fun s => (tolerated_push rfl).mpr (.inr rfl)

theorem template (source : String) :
    Follows (Build.template strict source) (Build.template lenient source) := by
  have hsame : Build.template lenient source = Build.template strict source := by
    funext s
    simp only [Build.template, afterCompilation, h.compiler, h.correlationId]
  rw [hsame]
  exact follows_self (tolerated_template strict source)

theorem warnUnresolved (logMessage : String) (logFields : List (String × Json))
    (message : String) (details : List (String × Json)) :
    Follows (warn strict logMessage logFields message .unresolvedPrefix details)
      (warn lenient logMessage logFields message .unresolvedPrefix details) := by
  have hsame : warn lenient logMessage logFields message .unresolvedPrefix details =
      warn strict logMessage logFields message .unresolvedPrefix details := by
    simp only [warn, elementLogger, h.logger, h.correlationId]
  rw [hsame]
  refine follows_self fun s => ?_
  refine (tolerated_push rfl).trans (or_iff_left ?_)
  exact Bool.false_ne_true

theorem checkDepth (tag : QName) :
    Follows (Build.checkDepth strict tag) (Build.checkDepth lenient tag) := by
  have hsame : Build.checkDepth lenient tag = Build.checkDepth strict tag := by
    simp only [Build.checkDepth, h.maxDepth, h.maxDepthSetting]
  rw [hsame]
  unfold Build.checkDepth
  refine Follows.bind (follows_read _) fun depth => Follows.bind (follows_lift _) fun exceeded => ?_
  cases exceeded with
  | true => exact follows_lift (.error _)
  | false => exact follows_lift (.ok ())

theorem noteElement (e : Element) :
    Follows (Build.noteElement strict e) (Build.noteElement lenient e) := by
  have hsame : Build.noteElement lenient e = Build.noteElement strict e := by
    simp only [Build.noteElement, elementLogger, h.logger]
  rw [hsame]
  exact follows_of_diagnostics fun _ => rfl

theorem noteBlock (kind : String) (yielded : Nat) :
    Follows (Build.noteBlock strict kind yielded) (Build.noteBlock lenient kind yielded) := by
  have hsame : Build.noteBlock lenient kind yielded = Build.noteBlock strict kind yielded := by
    simp only [Build.noteBlock, h.logger]
  rw [hsame]
  exact follows_of_diagnostics fun _ => rfl

theorem documentOf (config : DocumentConfig) (request : DocumentRequest) (root : Element) :
    Follows (Build.documentOf strict config request root)
      (Build.documentOf lenient config request root) := by
  unfold Build.documentOf
  rw [h.correlationId]
  exact Follows.bind (follows_read _) fun _ => follows_lift _

/-- The small steps follow their counterparts. -/
theorem lockstep : Lockstep strict lenient Follows where
  rootScope := h.rootScope
  contentMarker := h.contentMarker
  value a := follows_lift (.ok a)
  fault f := follows_lift (.error f)
  bind := Follows.bind
  deeper := Follows.deeper
  read _ := follows_read _
  addBinding pfx uri := follows_of_diagnostics fun s => by
    rcases addBinding_cases pfx uri s with ⟨_, _, -, hadd⟩ | ⟨_, hadd⟩ <;> rw [hadd]
  changeScopes f := follows_of_diagnostics fun s => by unfold changeScopes; split <;> rfl
  newScope parent vars := follows_of_diagnostics fun s => by unfold newScope; split <;> rfl
  nextChunk id := follows_of_diagnostics fun s => by unfold nextChunk; split <;> rfl
  feedRow := feedAll_related (fun a => follows_lift (.ok a)) Follows.bind (follows_read _)
  template := h.template
  lookup := h.lookup
  malformed := h.malformed
  bindPrefix := h.bindPrefix
  addAttribute := h.addAttribute
  warnUnresolved := h.warnUnresolved
  checkDepth := h.checkDepth
  noteElement := h.noteElement
  noteBlock := h.noteBlock

theorem registerConstant (i : Invocation) :
    Follows (Build.registerConstant i) (Build.registerConstant i) := by
  have hname (v : Value) : Follows (commandName v) (commandName v) := by
    refine follows_of_diagnostics fun s => ?_
    unfold commandName
    split
    · rfl
    · split
      · rfl
      · split <;> rfl
  unfold Build.registerConstant
  refine Follows.bind (h.lockstep.argument i 0) fun v => Follows.bind (hname v) fun name => ?_
  refine Follows.bind (h.lockstep.argument i 1) fun v => Follows.bind (follows_read _) fun r => ?_
  exact Follows.bind (follows_lift r) fun table => follows_of_diagnostics fun _ => rfl

/-- **Every step of a build follows its counterpart.** -/
theorem documenting : Lockstep.Documenting strict lenient Follows where
  toInvoking := h.lockstep.invoking h.registerConstant
  correlationId := h.correlationId
  record logger level message extra _ := follows_record logger level message extra
  enclose _ := follows_of_diagnostics fun _ => rfl
  noteFault := Follows.noteFault
  documentOf := h.documentOf

end BuildEnv.Counterparts

/-! ## Documents -/

/-- A document has the reports of the build. -/
theorem Build.diagnostics_document {E : Engine} {env : BuildEnv} {config : DocumentConfig}
    {request : DocumentRequest} {s s' : BuildState} {d : Document}
    (h : Build.document E env config request s = (.ok d, s')) :
    d.diagnostics = s'.diagnostics.toList := by
  obtain ⟨tag, s₁, -, hbind⟩ := exists_of_bind_ok h
  obtain ⟨-, s₂, -, hnamed⟩ := exists_of_bind_ok hbind
  obtain ⟨-, s₃, -, hstart⟩ := exists_of_bind_ok hnamed
  obtain ⟨-, s₄, -, hroot⟩ := exists_of_bind_ok hstart
  obtain ⟨root, s₅, -, hof⟩ := exists_of_bind_ok hroot
  obtain ⟨d', s₆, hmade, hend⟩ := exists_of_bind_ok hof
  obtain ⟨rfl, rfl⟩ : d' = d ∧ _ = s' :=
    ⟨Except.ok.inj (Prod.mk.inj hend).1, (Prod.mk.inj hend).2⟩
  obtain ⟨hdocument, rfl⟩ := Prod.mk.inj hmade
  exact (Document.of_eq_ok hdocument).2

/-- Configurations that differ in the four policies only: the first one is strict and the second one
lenient. -/
structure Config.Counterparts (strict lenient : Config) : Prop where
  /-- Templates are made and kept alike. -/
  compiler : lenient.compiler = strict.compiler
  /-- Command names are the same in any case under both or under none. -/
  foldsCommandCase : lenient.runtime.foldsCommandCase = strict.runtime.foldsCommandCase
  /-- The built-in commands are there under both or under none. -/
  hasBuiltins : lenient.runtime.hasBuiltins = strict.runtime.hasBuiltins
  /-- Elements may be nested as deep. -/
  maxDepth : lenient.builder.maxDepth = strict.builder.maxDepth
  /-- Content is marked by the same word. -/
  contentMarker : lenient.builder.contentMarker = strict.builder.contentMarker
  /-- Documents declare the same. -/
  document : lenient.document = strict.document
  /-- An argument that cannot be used is a fault. -/
  strictArguments : strict.builder.strictArguments.truthy = true
  /-- A second URI for a prefix is a fault. -/
  strictCollisions : strict.builder.collisions = .known .strict
  /-- A second attribute with one name is a fault. -/
  strictDuplicates : strict.builder.duplicates = .known .reject
  /-- A variable nobody defined is a fault. -/
  strictVariables : strict.runtime.strictVariables.truthy = true
  /-- An argument that cannot be used is reported. -/
  lenientArguments : lenient.builder.strictArguments.truthy = false
  /-- A second URI for a prefix is reported. -/
  lenientCollisions : lenient.builder.collisions = .known .warn
  /-- Of two attributes with one name the first or the last counts. -/
  lenientDuplicates : lenient.builder.duplicates = .known .first ∨
    lenient.builder.duplicates = .known .last
  /-- A variable nobody defined is reported. -/
  lenientVariables : lenient.runtime.strictVariables.truthy = false

namespace Config.Counterparts

variable {strict lenient : Config} (h : strict.Counterparts lenient)
include h

/-- The environments of two builds under the two configurations. -/
theorem env (rootScope : ScopeId) (correlationId : Option String) :
    BuildEnv.Counterparts ⟨strict.settings, rootScope, correlationId⟩
      ⟨lenient.settings, rootScope, correlationId⟩ where
  rootScope := rfl
  correlationId := rfl
  contentMarker := by simp only [Config.settings, h.contentMarker]
  maxDepth := by simp only [Config.settings, h.maxDepth]
  maxDepthSetting := by simp only [Config.settings, h.maxDepth]
  compiler := by simp only [Config.settings, h.compiler]
  strictArguments := h.strictArguments
  strictCollisions := by simp only [Config.settings, h.strictCollisions]
  strictDuplicates := by simp only [Config.settings, h.strictDuplicates]
  strictVariables := h.strictVariables
  lenientArguments := h.lenientArguments
  lenientCollisions := by simp only [Config.settings, h.lenientCollisions]
  lenientDuplicates := by
    rcases h.lenientDuplicates with hpolicy | hpolicy
    · exact .inl (by simp only [Config.settings, hpolicy])
    · exact .inr (by simp only [Config.settings, hpolicy])
  lenientVariables := h.lenientVariables

/-- A build under the strict configuration and one under the lenient one, from the same state. -/
theorem document_eq_ok_iff (rootScope : ScopeId) (correlationId : Option String)
    (request : DocumentRequest) {s : BuildState} (hs : ¬ s.Tolerated) (d : Document) :
    let strictEnv : BuildEnv := ⟨strict.settings, rootScope, correlationId⟩
    let lenientEnv : BuildEnv := ⟨lenient.settings, rootScope, correlationId⟩
    (Build.document (engine strictEnv nestingBound) strictEnv strict.document request s).1 =
        .ok d ↔
      (Build.document (engine lenientEnv nestingBound) lenientEnv lenient.document request s).1 =
          .ok d ∧
        ∀ r ∈ d.diagnostics, r.code.isTolerance = false := by
  intro strictEnv lenientEnv
  have hsteps := (h.env rootScope correlationId).documenting
  have hfollows := hsteps.document (hsteps.engine nestingBound) strict.document request s
  rw [h.document]
  rcases hlenient : Build.document (engine lenientEnv nestingBound) lenientEnv strict.document
    request s with ⟨r, s'⟩
  rw [hlenient] at hfollows
  obtain ⟨-, ⟨hsame, hquiet⟩ | ⟨⟨f, hfault⟩, htolerated⟩⟩ := hfollows
  · rw [hsame]
    refine ⟨fun hd => ⟨hd, fun r' hr' => ?_⟩, fun hd => hd.1⟩
    subst hd
    rw [Build.diagnostics_document hlenient] at hr'
    refine Bool.eq_false_iff.mpr fun htolerance => hs (hquiet ?_)
    exact ⟨r', Array.mem_toList_iff.mp hr', htolerance⟩
  · refine ⟨fun hd => ?_, fun ⟨hd, hclean⟩ => ?_⟩
    · rw [hfault] at hd
      cases hd
    · subst hd
      obtain ⟨r', hr', htolerance⟩ := htolerated
      rw [Build.diagnostics_document hlenient] at hclean
      rw [hclean r' (Array.mem_toList_iff.mpr hr')] at htolerance
      cases htolerance

end Config.Counterparts

/-- The two configurations that are given by name. -/
theorem Config.counterparts_named : Config.strict.Counterparts Config.lenient where
  compiler := rfl
  foldsCommandCase := rfl
  hasBuiltins := rfl
  maxDepth := rfl
  contentMarker := rfl
  document := rfl
  strictArguments := rfl
  strictCollisions := rfl
  strictDuplicates := rfl
  strictVariables := rfl
  lenientArguments := rfl
  lenientCollisions := rfl
  lenientDuplicates := .inr rfl
  lenientVariables := rfl

end TagScript
