import TagScript.Proofs.Build.Lockstep

/-!
# What small steps are made of

The small steps of elements, statements and blocks read something, write a record or a report,
change a count or the bindings, or fail. A relation that every such primitive step stands in with
itself, and that is kept by putting steps together, holds of the small steps too.

* `Build.tryBinding` — adding a binding, or saying why it is refused.
* `Primitive` — a relation that the primitive steps stand in.
* `Primitive.lookup`, `Primitive.bindPrefix` and so on — so do the small steps.
* **`Primitive.elementwise`** — so do all steps of elements, if taking chunks does.
-/

namespace TagScript

namespace Build

/-- Adds a binding and says whether it is new; or says why it is refused. -/
def tryBinding (pfx uri : String) : Build (Except Fault Bool) := do
  match ← read fun s => s.registry.add pfx uri with
  | .ok (created, registry) =>
    change fun s => { s with registry }
    pure (.ok created)
  | .error fault => pure (.error fault)

theorem addBinding_eq (pfx uri : String) :
    addBinding pfx uri = tryBinding pfx uri >>= fun added => lift added := by
  funext s
  rw [addBinding, tryBinding, read_bind, bind_assoc, read_bind]
  cases s.registry.add pfx uri <;> rfl

/-- A refused binding is reported, or it is the fault that the step fails with. -/
theorem bindPrefix_eq (env : BuildEnv) (tag : QName) (pfx uri : String) :
    bindPrefix env tag pfx uri = tryBinding pfx uri >>= fun added =>
      match added with
      | .ok _ => pure ()
      | .error (.collision pfx existing rebound) =>
        let fault := Fault.collision pfx existing rebound
        if env.settings.strictCollisions then fail fault
        else
          warn env "Namespace prefix rebound, keeping first binding" fault.details fault.message
            .namespaceCollision (("tag", .str tag.clark) :: fault.details)
      | .error fault => fail fault := by
  funext s
  rw [bindPrefix, tryBinding, read_bind, bind_assoc, read_bind]
  cases s.registry.add pfx uri with
  | ok added => rfl
  | error fault => cases fault <;> rfl

end Build

/-- The counts that are kept of requests for templates. -/
def Metrics.requests (m : Metrics) : Nat × Nat × Nat :=
  (m.cacheHits, m.cacheMisses, m.blocksCompiled)

open Build in
/-- A relation between steps that every primitive step stands in with itself, and that is kept when
steps are put together. -/
structure Primitive (R : StepRelation) : Prop where
  /-- Coming to a value. -/
  value : ∀ {α : Type} (a : α), R (pure a) (pure a)
  /-- Failing. -/
  fault : ∀ {α : Type} (f : Fault), @R α (fail f) (fail f)
  /-- Two steps one after the other. -/
  bind : ∀ {α β : Type} {m m' : Build α} {f f' : α → Build β}, R m m' → (∀ a, R (f a) (f' a)) →
    R (m >>= f) (m' >>= f')
  /-- A step one element deeper. -/
  deeper : ∀ {α : Type} {m m' : Build α}, R m m' → R (deeper m) (deeper m')
  /-- Reading what single steps look at. -/
  read : ∀ {α : Type} (f : BuildSight → α), R (read fun s => f s.sight) (read fun s => f s.sight)
  /-- Writing a record that is not critical. -/
  record : ∀ logger level message extra, level ≠ .critical →
    R (record logger level message extra) (record logger level message extra)
  /-- Reporting a problem that is not about an element word. -/
  report : ∀ d : Diagnostic, d.component ≠ "source_rewriter" → R (report d) (report d)
  /-- Changing the counts that are not kept of requests for templates. -/
  count : ∀ f : Metrics → Metrics, (∀ m, (f m).requests = m.requests) → R (count f) (count f)
  /-- Adding a binding. -/
  tryBinding : ∀ pfx uri, R (tryBinding pfx uri) (tryBinding pfx uri)

namespace Primitive

variable {R : StepRelation} (P : Primitive R)
include P

theorem lift {α : Type} (r : Except Fault α) : R (Build.lift r) (Build.lift r) := by
  cases r with
  | ok a => exact P.value a
  | error f => exact P.fault f

variable (env : BuildEnv)

theorem warn (logMessage : String) (logFields : List (String × Json)) (message : String)
    (code : DiagnosticCode) (details : List (String × Json)) :
    R (Build.warn env logMessage logFields message code details)
      (Build.warn env logMessage logFields message code details) :=
  P.bind (P.record _ _ _ _ nofun) fun _ => P.report _ (show "element_builder" ≠ _ by decide)

theorem malformed (tag : QName) (problem : ArgumentProblem) (value : String) :
    R (Build.malformed env tag problem value) (Build.malformed env tag problem value) := by
  unfold Build.malformed
  split
  · exact P.fault _
  · exact P.warn env _ _ _ _ _

omit env in
theorem addBinding (pfx uri : String) :
    R (Build.addBinding pfx uri) (Build.addBinding pfx uri) := by
  rw [Build.addBinding_eq]
  exact P.bind (P.tryBinding pfx uri) P.lift

theorem bindPrefix (tag : QName) (pfx uri : String) :
    R (Build.bindPrefix env tag pfx uri) (Build.bindPrefix env tag pfx uri) := by
  rw [Build.bindPrefix_eq]
  refine P.bind (P.tryBinding pfx uri) fun added => ?_
  split
  · exact P.value ()
  · dsimp only
    split
    · exact P.fault _
    · exact P.warn env _ _ _ _ _
  · exact P.fault _

theorem addAttribute (tag : QName) (parts : Parts) (name : QName) (value : String) :
    R (Build.addAttribute env tag parts name value)
      (Build.addAttribute env tag parts name value) := by
  unfold Build.addAttribute
  split
  · exact P.value _
  · split
    · exact P.fault _
    · exact P.fault _
    · exact P.bind (P.warn env _ _ _ _ _) fun _ => P.value _

theorem lookup (scope : ScopeId) (name : String) (pos : Position) :
    R (Build.lookup env scope name pos) (Build.lookup env scope name pos) := by
  unfold Build.lookup
  refine P.bind (P.read fun v => v.scopes.lookup? scope name) fun v => ?_
  split
  · exact P.value _
  · split
    · exact P.fault _
    · refine P.bind (P.record _ _ _ _ nofun) fun _ => P.bind (P.report _ ?_) fun _ => P.value _
      exact show "interpreter" ≠ _ by decide

theorem checkDepth (tag : QName) :
    R (Build.checkDepth env tag) (Build.checkDepth env tag) := by
  unfold Build.checkDepth
  refine P.bind (P.read fun v => v.depth) fun depth => P.bind (P.lift _) fun exceeded => ?_
  cases exceeded with
  | true => exact P.fault _
  | false => exact P.value ()

theorem noteElement (e : Element) :
    R (Build.noteElement env e) (Build.noteElement env e) :=
  P.bind (P.count _ fun _ => rfl) fun _ =>
    P.bind (P.read fun v => v.depth) fun _ => P.record _ _ _ _ nofun

theorem noteBlock (kind : String) (yielded : Nat) :
    R (Build.noteBlock env kind yielded) (Build.noteBlock env kind yielded) :=
  P.bind (P.count _ fun _ => rfl) fun _ => P.record _ _ _ _ nofun

omit env in
theorem commandName (v : Value) : R (Build.commandName v) (Build.commandName v) := by
  unfold Build.commandName
  split
  · exact P.value _
  · split
    · exact P.fault _
    · split <;> exact P.fault _

omit env in
theorem argument (i : Build.Invocation) (n : Nat) :
    R (Build.argument i n) (Build.argument i n) := by
  unfold Build.argument
  split
  · exact P.value _
  · exact P.fault _

omit env in
/-- Commands are registered in lockstep where the table is changed in lockstep. -/
theorem registerConstant
    (hcommands : ∀ table : CommandTable, R (Build.change fun s => { s with commands := table })
      (Build.change fun s => { s with commands := table })) (i : Build.Invocation) :
    R (Build.registerConstant i) (Build.registerConstant i) := by
  unfold Build.registerConstant
  refine P.bind (P.argument i 0) fun v => P.bind (P.commandName v) fun name => ?_
  refine P.bind (P.argument i 1) fun w => ?_
  refine P.bind (P.read fun v => v.commands.register (.constant name w [])) fun r => ?_
  exact P.bind (P.lift r) hcommands

/-- **The small steps of elements are made of primitive steps**, but for taking chunks of
streams. -/
theorem elementwise (hchunk : ∀ id, R (Build.nextChunk id) (Build.nextChunk id))
    (hrow : ∀ {E E' : Engine} (tag : QName),
      (∀ limit parts v,
        R (Build.feed E env tag limit parts v) (Build.feed E' env tag limit parts v)) →
          ∀ vs parts, R (Build.feedAll E env tag vs parts) (Build.feedAll E' env tag vs parts)) :
    Elementwise env env R where
  rootScope := rfl
  contentMarker := rfl
  value := P.value
  fault := P.fault
  bind := P.bind
  deeper := P.deeper
  read := P.read
  addBinding := P.addBinding
  nextChunk := hchunk
  feedRow := hrow
  lookup := P.lookup env
  malformed := P.malformed env
  bindPrefix := P.bindPrefix env
  addAttribute := P.addAttribute env
  warnUnresolved _ _ _ _ := P.warn env _ _ _ _ _
  checkDepth := P.checkDepth env
  noteElement := P.noteElement env

end Primitive

end TagScript
