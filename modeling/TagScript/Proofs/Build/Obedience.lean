import TagScript.Proofs.Build.Scoping

/-!
# Steps that obey a regime

Whatever a build does is made of few kinds of steps. Under a lawful regime the small ones obey it:
reading variables, changing scopes and bindings, making templates. So does everything that is put
together from them, up to an element and its arguments, if the engine that runs its content does.

* `Regime.Drives` — an engine whose runs obey the regime.
* `Obedience.template` — making a template or finding one that was kept.
* `Obedience.feedAll` — taking a row of arguments.
* **`Obedience.element`** — building an element.
-/

namespace TagScript

namespace Regime

/-- Whether an engine keeps to a regime. -/
structure Drives (R : Regime) (E : Engine) : Prop where
  /-- A block that is held yields what may be yielded. -/
  run : ∀ d block vars scope, R.Holds block → R.Lends vars → R.own scope →
    R.Obeys d (fun vs => ∀ v ∈ vs, R.Yields d v) (E.run block vars scope)
  /-- What may be yielded has a text. -/
  texts : ∀ d vs, (∀ v ∈ vs, R.Yields d v) → R.Obeys d (fun _ => True) (E.texts vs)

/-- Whether what a block does in one go keeps to the regime. -/
def TaskMeets (R : Regime) : Task → Prop
  | .statement s => R.StatementMeets s
  | .routine _ steps => R.lax ∧ ∀ step ∈ steps, ∀ v ∈ step.values, R.Holds v
  | .operation o => R.held (.operation o)

/-- Whether a running block keeps to the regime. -/
structure CourseMeets (R : Regime) (c : Course) : Prop where
  /-- It runs in a scope that the build made. -/
  own_scope : R.own c.scope
  /-- Its tasks keep to the regime. -/
  tasks : ∀ t ∈ c.tasks, R.TaskMeets t

/-- Whether the children that an element has so far may be its children. -/
def PartsMeet (R : Regime) (d : Nat) (parts : Parts) : Prop :=
  ∀ n ∈ parts.children, R.Bears d n

/-- Whether a command is invoked with what the regime allows. -/
structure InvocationMeets (R : Regime) (i : Build.Invocation) : Prop where
  /-- The arguments are held. -/
  args : ∀ v ∈ i.args, R.Holds v
  /-- It is invoked in a scope that the build made. -/
  own_scope : R.own i.scope

end Regime

/-- A chunk that is taken was the first one of its stream. -/
theorem Streams.exists_of_take? {s s' : Streams} {id : StreamId} {chunk : List Value}
    (h : s.take? id = some (chunk, s')) :
    ∃ rest, s.left[id]? = some (chunk :: rest) ∧ s' = ⟨s.left.setIfInBounds id rest⟩ := by
  unfold take? at h
  split at h
  · rename_i rest hleft
    cases h
    exact ⟨rest, hleft, rfl⟩
  · cases h

/-- Only a marker that is no text keeps a name from being compared with it. -/
theorem Head.marksContent_cases (marker : Option String) (head : Head) :
    (∃ b, head.marksContent marker = .ok b) ∨
      marker = none ∧ head.marksContent marker = .error .missingMember := by
  cases head with
  | name q => exact .inl ⟨false, rfl⟩
  | word text =>
    unfold marksContent
    dsimp only
    split
    · exact .inl ⟨false, rfl⟩
    · cases marker with
      | some marker => exact .inl ⟨_, rfl⟩
      | none => exact .inr ⟨rfl, rfl⟩

/-- Only content is read as content, and only a marker that is no text keeps an argument from being
read. -/
theorem Head.reading_cases (marker : Option String) (head : Head) (v : Value) :
    (∃ r, head.reading marker v = .ok r ∧ (r = .content → v.isContentBlock = true)) ∨
      marker = none ∧ head.reading marker v = .error .missingMember := by
  cases hcontent : v.isContentBlock with
  | false =>
    have hread : ∃ r, head.reading marker v = .ok r ∧ r ≠ .content := by
      unfold reading
      rw [hcontent]
      cases v with
      | ns n => exact ⟨.declaration n, rfl, Reading.noConfusion⟩
      | null => exact ⟨.nothing, rfl, Reading.noConfusion⟩
      | _ => exact ⟨_, rfl, by split <;> exact Reading.noConfusion⟩
    obtain ⟨r, hr, hne⟩ := hread
    exact .inl ⟨r, hr, fun heq => absurd heq hne⟩
  | true =>
    unfold reading
    rw [hcontent, if_pos rfl]
    rcases head.marksContent_cases marker with ⟨marks, hmarks⟩ | ⟨hnone, hfault⟩
    · rw [hmarks]
      cases marks with
      | true => exact .inl ⟨.content, rfl, fun _ => rfl⟩
      | false =>
        cases v with
        | _ => exact .inl ⟨_, rfl, fun _ => rfl⟩
    · rw [hfault]
      exact .inr ⟨hnone, rfl⟩

namespace Obedience

variable {R : Regime} {d : Nat}

/-! ## Notes and readings -/

section

variable (L : R.Lawful)
include L

/-- Plain data may turn up anywhere. -/
theorem held {v : Value} (simple : v.isCompound = false) (h : v.Harmless) : R.Holds v :=
  L.members.every simple h

theorem yields {v : Value} (h : R.Holds v) : R.Yields d v :=
  h.mono (L.yields d)

theorem yieldsAll {vs : List Value} (h : ∀ v ∈ vs, R.Holds v) : ∀ v ∈ vs, R.Yields d v :=
  fun v hv => yields L (h v hv)

/-- A fault of the build. -/
theorem failOfBuild {α : Type} {Q : α → Prop} {fault : Fault} (h : fault.isOfBuild = true) :
    R.Obeys d Q (Build.fail fault) :=
  .fail (L.ofBuild fault h)

/-- Where everything may be done, whatever can fail may fail. -/
theorem liftLax {α : Type} (hlax : R.lax) (r : Except Fault α) :
    R.Obeys d (fun _ => True) (Build.lift r) :=
  .lift (fun _ _ => trivial) fun fault _ => L.all hlax fault

omit L in
theorem record (logger : Logger) (level : LogLevel) (message : String)
    (extra : List (String × Json)) :
    R.Obeys d (fun _ => True) (Build.record logger level message extra) :=
  .change fun _ => ⟨rfl, rfl, rfl⟩

omit L in
theorem report (diagnostic : Diagnostic) :
    R.Obeys d (fun _ => True) (Build.report diagnostic) :=
  .change fun _ => ⟨rfl, rfl, rfl⟩

omit L in
theorem count (f : Metrics → Metrics) : R.Obeys d (fun _ => True) (Build.count f) :=
  .change fun _ => ⟨rfl, rfl, rfl⟩

omit L in
theorem warn (env : BuildEnv) (logMessage : String) (logFields : List (String × Json))
    (message : String) (code : DiagnosticCode) (details : List (String × Json)) :
    R.Obeys d (fun _ => True) (Build.warn env logMessage logFields message code details) :=
  .bind (record _ _ _ _) fun _ _ => report _

theorem malformed (tag : QName) (problem : ArgumentProblem) (value : String) :
    R.Obeys d (fun _ => True) (Build.malformed R.env tag problem value) := by
  unfold Build.malformed
  split
  · exact failOfBuild L rfl
  · exact warn _ _ _ _ _ _

/-- A variable that is defined is held, and any other one is null. -/
theorem lookup {scope : ScopeId} (hscope : R.scope scope) (name : String) (pos : Position) :
    R.Obeys d R.Holds (Build.lookup R.env scope name pos) := by
  have hread : R.Obeys d (fun v? => ∀ v, v? = some v → R.Holds v)
      (Build.read fun s => s.scopes.lookup? scope name) :=
    .read fun s s' halike => halike.scopes.lookup? L hscope name
  unfold Build.lookup
  refine hread.bind fun v? hv => ?_
  cases v? with
  | some v => exact .pure (hv v rfl)
  | none =>
    dsimp only
    split
    · exact failOfBuild L rfl
    · refine .bind (record _ _ _ _) fun _ _ => .bind (report _) fun _ _ => ?_
      exact .pure (held L rfl trivial)

omit L in
/-- The bindings are the same. -/
theorem readRegistry {α : Type} {Q : α → Prop} {f : Registry → α} (h : ∀ r, Q (f r)) :
    R.Obeys d Q (Build.read fun s => f s.registry) :=
  .read fun s s' halike => ⟨by rw [halike.registry], h s.registry⟩

omit L in
/-- What the bindings make of something may fail. -/
theorem readRegistryLift {α : Type} {Q : α → Prop} {f : Registry → Except Fault α}
    (hok : ∀ r a, f r = .ok a → Q a) (herror : ∀ r fault, f r = .error fault → R.fault fault) :
    R.Obeys d Q (do Build.lift (← Build.read fun s => f s.registry)) := by
  have hread : R.Obeys d
      (fun r => (∀ a, r = .ok a → Q a) ∧ ∀ fault, r = .error fault → R.fault fault)
      (Build.read fun s => f s.registry) :=
    readRegistry fun r => ⟨hok r, herror r⟩
  exact hread.bind fun r hr => .lift hr.1 hr.2

/-! ## Changes -/

omit L in
/-- A change of the scopes that is the same wherever a build looks. -/
theorem onScopes {α : Type} {Q : α → Prop} {m : Build α}
    {g : Scopes → Except Fault (α × Scopes)}
    (hm : ∀ s, m s = match g s.scopes with
      | .ok (a, scopes) => (.ok a, { s with scopes })
      | .error fault => (.error fault, s))
    (hg : ∀ s s', R.ScopesAlike s s' →
      (∃ a t t', g s = .ok (a, t) ∧ g s' = .ok (a, t') ∧ Q a ∧ R.ScopesAlike t t' ∧ R.Leaves s t ∧
        R.Leaves s' t') ∨
      ∃ fault, g s = .error fault ∧ g s' = .error fault ∧ R.fault fault) :
    R.Obeys d Q m := by
  intro s s' halike
  rw [hm, hm]
  rcases hg s.scopes s'.scopes halike.scopes with
    ⟨a, t, t', hok, hok', ha, hscopes, hleaves, hleaves'⟩ | ⟨fault, herror, herror', hfault⟩
  · rw [hok, hok']
    exact .of_ok ha (halike.withScopes hscopes) hleaves hleaves'
  · rw [herror, herror']
    exact Regime.Obeys.fail hfault s s' halike

/-- A new scope for a block is the build's own. -/
theorem newScope {parent : ScopeId} (hparent : R.scope parent) {vars : List (String × Value)}
    (hvars : R.Lends vars) : R.Obeys d R.own (Build.newScope parent vars) := by
  refine onScopes (g := fun s => s.add (some parent) vars) (fun s => ?_) fun s s' hscopes => ?_
  · rw [Build.newScope_apply]
    cases s.scopes.add (some parent) vars with
    | ok added => rfl
    | error fault => rfl
  · have hparent' : ∀ outer, some parent = some outer → R.scope outer := by
      intro outer houter
      cases houter
      exact hparent
    rcases hscopes.add (some parent) hparent' fun b hb => (hvars b hb).2 with
      ⟨t, t', hok, hok', halike, hown, hleaves, hleaves'⟩ | ⟨herror, herror', b, hb, hempty⟩
    · exact .inl ⟨_, t, t', hok, hok', hown, halike, hleaves, hleaves'⟩
    · exact .inr ⟨_, herror, herror', L.all ((hvars b hb).1 hempty) _⟩

/-- Setting a variable. -/
theorem setVariable (hlax : R.lax) {scope : ScopeId} (hscope : R.own scope) (name : Value)
    {v : Value} (hv : R.Holds v) : R.Obeys d (fun _ => True) (Build.setVariable scope name v) := by
  unfold Build.setVariable
  split
  · rename_i text
    refine onScopes (g := fun s => (s.set scope text v).map fun t => ((), t)) (fun s => ?_)
      fun s s' hscopes => ?_
    · unfold Build.changeScopes
      dsimp only
      cases s.scopes.set scope text v with
      | ok scopes => rfl
      | error fault => rfl
    · rcases hscopes.set L hscope text hv with
        ⟨t, t', hok, hok', halike, hleaves, hleaves'⟩ | ⟨fault, herror, herror'⟩
      · rw [hok, hok']
        exact .inl ⟨(), t, t', rfl, rfl, trivial, halike, hleaves, hleaves'⟩
      · rw [herror, herror']
        exact .inr ⟨fault, rfl, rfl, L.all hlax fault⟩
  · split
    · exact .fail (L.all hlax _)
    · exact .fail (L.all hlax _)

/-- Adding a binding. -/
theorem addBinding (pfx uri : String) :
    R.Obeys d (fun _ => True) (Build.addBinding pfx uri) := by
  intro s s' halike
  rw [Build.addBinding, Build.read_bind, Build.read_bind, halike.registry]
  rcases s.registry.add_cases pfx uri with ⟨created, registry, hadd⟩ | ⟨known, -, -, hadd⟩ | hadd
  · rw [hadd]
    exact .of_ok trivial (halike.withRegistry registry) (Regime.leaves_refl _)
      (Regime.leaves_refl _)
  · rw [hadd]
    exact failOfBuild L rfl s s' halike
  · rw [hadd]
    exact Regime.Obeys.fail L.emptyNamespace s s' halike

/-- Binding a prefix. -/
theorem bindPrefix (tag : QName) (pfx uri : String) :
    R.Obeys d (fun _ => True) (Build.bindPrefix R.env tag pfx uri) := by
  intro s s' halike
  rw [Build.bindPrefix, Build.read_bind, Build.read_bind, halike.registry]
  rcases s.registry.add_cases pfx uri with ⟨created, registry, hadd⟩ | ⟨known, -, -, hadd⟩ | hadd
  · rw [hadd]
    exact .of_ok trivial (halike.withRegistry registry) (Regime.leaves_refl _)
      (Regime.leaves_refl _)
  · rw [hadd]
    dsimp only
    split
    · exact failOfBuild L rfl s s' halike
    · exact warn _ _ _ _ _ _ s s' halike
  · rw [hadd]
    exact Regime.Obeys.fail L.emptyNamespace s s' halike

/-- Making the template of a block text. -/
theorem template {source : String} (hsource : R.source source) :
    R.Obeys d (fun t => R.StatementsMeet (Script.ofTemplate t)) (Build.template R.env source) := by
  intro s s' halike
  have htable : s'.wordTable = s.wordTable := by
    rw [BuildState.wordTable, BuildState.wordTable, halike.words, halike.commands]
  have hcompiles := L.compiles s.wordTable.canResolve (some s.wordTable.version) s.registry source
    s.cache halike.cache.holds hsource
  have hsteady := L.steady s.wordTable.canResolve (some s.wordTable.version) s.registry source
    s.cache s'.cache halike.cache.holds halike.cache'.holds
  have hcache := halike.cache.step (.compile source s.registry)
  have hcache' := halike.cache'.step (.compile source s.registry)
  unfold Build.template
  rw [Build.compilerHost_eq, Build.compilerHost_eq, htable, halike.registry]
  dsimp only
  rw [hsteady]
  cases houtcome : (Cache.compile R.env.settings.compiler
      ⟨true, some s.wordTable.canResolve, some s.wordTable.version⟩ s.registry source
      s.cache).outcome with
  | ok t =>
    rw [houtcome] at hcompiles
    refine .of_ok hcompiles ?_ (Regime.leaves_refl _) (Regime.leaves_refl _)
    refine halike.of_view rfl rfl rfl rfl ?_ ?_
    · exact hcache
    · exact hcache'
  | error fault =>
    rw [houtcome] at hcompiles
    refine .of_error hcompiles ?_ (Regime.leaves_refl _) (Regime.leaves_refl _)
    refine halike.of_view rfl rfl rfl rfl ?_ ?_
    · exact hcache
    · exact hcache'

omit L in
/-- Taking a chunk of a stream. -/
theorem nextChunk (id : StreamId) :
    R.Obeys d (fun chunk => ∀ vs, chunk = some vs → ∀ v ∈ vs, R.Holds v) (Build.nextChunk id) := by
  intro s s' halike
  unfold Build.nextChunk
  rw [halike.streams]
  cases htake : s.streams.take? id with
  | none =>
    exact .of_ok (fun vs hvs => by cases hvs) halike (Regime.leaves_refl _) (Regime.leaves_refl _)
  | some taken =>
    obtain ⟨chunk, streams⟩ := taken
    obtain ⟨rest, hleft, rfl⟩ := Streams.exists_of_take? htake
    have hheld := halike.chunks _ (Array.mem_toList_iff.mpr (Array.mem_of_getElem? hleft))
    refine .of_ok ?_ ?_ (Regime.leaves_refl _) (Regime.leaves_refl _)
    · intro vs hvs
      cases hvs
      exact hheld chunk List.mem_cons_self
    · refine ⟨halike.depth, halike.depth', halike.registry, rfl, halike.commands, halike.words,
        halike.scopes, halike.cache, halike.cache', halike.admits, fun left hmem => ?_⟩
      rw [Array.mem_toList_iff] at hmem
      rcases Array.mem_or_eq_of_mem_setIfInBounds hmem with hmem | rfl
      · exact halike.chunks left (Array.mem_toList_iff.mpr hmem)
      · exact fun c hc => hheld c (List.mem_cons_of_mem chunk hc)

/-! ## Arguments of elements -/

/-- Adding an attribute leaves the children. -/
theorem addAttribute (tag : QName) {parts : Parts} {e : Nat} (hparts : R.PartsMeet e parts)
    (name : QName) (value : String) :
    R.Obeys d (R.PartsMeet e) (Build.addAttribute R.env tag parts name value) := by
  unfold Build.addAttribute
  split
  · exact .pure hparts
  · split
    · exact failOfBuild L rfl
    · rename_i hnone
      exact .fail (L.duplicates hnone)
    · refine .bind (warn _ _ _ _ _ _) fun _ _ => .pure ?_
      split
      · exact hparts
      · exact hparts

theorem declare (tag : QName) {parts : Parts} {e : Nat} (hparts : R.PartsMeet e parts) (head : Head)
    (n : Namespace) : R.Obeys d (R.PartsMeet e) (Build.declare R.env tag parts head n) := by
  unfold Build.declare
  split
  · exact .bind (bindPrefix L tag "" n.uri) fun _ _ => .pure hparts
  · dsimp only
    split
    · exact .bind (malformed L tag _ _) fun _ _ => .pure hparts
    · refine .bind (addAttribute L tag hparts _ n.uri) fun parts' hparts' => ?_
      exact .bind (bindPrefix L tag _ n.uri) fun _ _ => .pure hparts'

theorem attributeName (tag : QName) (head : Head) :
    R.Obeys d (fun _ => True) (Build.attributeName R.env tag head) := by
  cases head with
  | name q => exact .pure trivial
  | word text =>
    unfold Build.attributeName
    dsimp only
    split
    · exact .bind (malformed L tag _ _) fun _ _ => .pure trivial
    · have hread : R.Obeys d (fun r => ∀ fault, r = .error fault → R.fault fault)
          (Build.read fun s => s.registry.resolveAttribute (argumentName text)) :=
        readRegistry (f := fun registry => registry.resolveAttribute (argumentName text))
          fun registry fault h => Registry.resolveAttribute_error h ▸ L.emptyLocalName
      refine hread.bind fun r hr => .bind (.lift (fun _ _ => trivial) hr) fun named _ => ?_
      split
      · exact .bind (warn _ _ _ _ _ _) fun _ _ => .pure trivial
      · exact .pure trivial

/-- What may be yielded makes a child that the element may have. -/
theorem child? (tag : QName) {v : Value} (hv : R.Yields d v) :
    R.Obeys d (fun child => ∀ n, child = some n → R.Bears d n) (Build.child? R.env tag v) := by
  have hnone : ∀ n, (none : Option Node) = some n → R.Bears d n := nofun
  have htext (s : String) : ∀ n, some (Node.text s) = some n → R.Bears d n := by
    intro n hn
    cases hn
    trivial
  have helement {e : Element} (he : R.Grows d e) :
      ∀ n, some (Node.ofElement e) = some n → R.Bears d n := by
    intro n hn
    cases hn
    exact he
  unfold Build.child?
  split
  case h_1 => exact .pure hnone
  case h_2 => exact .pure (helement (hv.holds_of_leaf rfl))
  case h_9 =>
    have hxml := L.xml d _ _ (hv.holds_of_leaf rfl)
    refine .bind (.lift (Q := R.Grows d) (fun e he => ?_) fun fault hfault => ?_)
      fun e he => .pure (helement he)
    · rw [he] at hxml
      exact hxml
    · rw [hfault] at hxml
      exact hxml
  case h_10 => exact .bind (malformed L tag _ _) fun _ _ => .pure hnone
  case h_11 => exact .bind (malformed L tag _ _) fun _ _ => .pure hnone
  all_goals exact .pure (htext _)

theorem addChildren (tag : QName) {parts : Parts} (hparts : R.PartsMeet d parts) {vs : List Value}
    (hvs : ∀ v ∈ vs, R.Yields d v) :
    R.Obeys d (R.PartsMeet d) (Build.addChildren R.env tag parts vs) := by
  induction vs generalizing parts with
  | nil => exact .pure hparts
  | cons v vs ih =>
    obtain ⟨hv, hvs⟩ := List.forall_mem_cons.mp hvs
    refine .bind (child? L tag hv) fun child hchild => ih ?_ hvs
    intro n hn
    rcases List.mem_append.mp hn with hn | hn
    · exact hparts n hn
    · exact hchild n (Option.mem_toList.mp hn)

theorem finish (tag : QName) {parts : Parts} {e : Nat} (hparts : R.PartsMeet e parts) :
    R.Obeys d (R.PartsMeet e) (Build.finish R.env tag parts) := by
  unfold Build.finish
  split
  · exact .pure hparts
  · exact .bind (malformed L tag _ _) fun _ _ => .pure hparts

theorem refusedName {text : String} {fault : Fault}
    (h : fault = .invalid .emptyLocalName ∨ fault = .invalid (.malformedName text)) :
    R.fault fault := by
  rcases h with rfl | rfl
  · exact L.emptyLocalName
  · exact L.malformedName text

theorem elementName (tag : Value) : R.Obeys d (fun _ => True) (Build.elementName tag) := by
  unfold Build.elementName
  split
  · exact .pure trivial
  · rename_i text
    exact readRegistryLift (f := fun r => r.nameOf text) (fun _ _ _ => trivial)
      fun registry fault h => refusedName L (Registry.nameOf_error h)
  · exact .lift (fun _ _ => trivial) fun fault h => refusedName L (QName.parse_error h)

/-- Elements are begun only where they may be nested. -/
theorem checkDepth (tag : QName) :
    R.Obeys d (fun _ => R.env.settings.maxDepth.isExceededBy d = .ok false)
      (Build.checkDepth R.env tag) := by
  have hread : R.Obeys d (fun n => n = d) (Build.read (·.depth)) :=
    .read fun s s' halike => ⟨halike.depth'.trans halike.depth.symm, halike.depth⟩
  unfold Build.checkDepth
  refine hread.bind fun n hn => ?_
  obtain rfl : n = d := hn
  have hlift : R.Obeys n (fun b => R.env.settings.maxDepth.isExceededBy n = .ok b)
      (Build.lift (R.env.settings.maxDepth.isExceededBy n)) :=
    .lift (fun _ h => h) fun fault h => L.limit n fault h
  refine hlift.bind fun exceeded hexceeded => ?_
  cases exceeded with
  | true => exact failOfBuild L rfl
  | false => exact .pure hexceeded

omit L in
theorem noteElement (e : Element) : R.Obeys d (fun _ => True) (Build.noteElement R.env e) := by
  have hread : R.Obeys d (fun _ => True) (Build.read (·.depth)) :=
    .read fun s s' halike => ⟨halike.depth'.trans halike.depth.symm, trivial⟩
  exact .bind (count _) fun _ _ => hread.bind fun _ _ => record _ _ _ _

omit L in
theorem noteBlock (kind : String) (yielded : Nat) :
    R.Obeys d (fun _ => True) (Build.noteBlock R.env kind yielded) :=
  .bind (count _) fun _ _ => record _ _ _ _

/-- **An element comes about if its parts are gathered one deeper.** -/
theorem elementWith (tag : QName) {gather : Parts → Build Parts}
    (hgather : R.Obeys (d + 1) (R.PartsMeet (d + 1)) (gather {})) :
    R.Obeys d (R.Grows d) (Build.elementWith R.env tag gather) := by
  unfold Build.elementWith
  have hbody : R.Obeys (d + 1) (R.Grows d) (do
      Build.checkDepth R.env tag
      let parts ← Build.finish R.env tag (← gather {})
      pure (Element.mk tag parts.attributes parts.children)) := by
    refine .bind (checkDepth L tag) fun _ hdepth => .bind hgather fun parts hparts => ?_
    refine .bind (finish L tag hparts) fun parts' hparts' => .pure ?_
    exact L.grows d tag _ _ hdepth hparts'
  exact .bind hbody.deeper fun e he => .bind (noteElement e) fun _ _ => .pure he

omit L in
theorem lends_nil : R.Lends [] :=
  nofun

variable {E : Engine} (hE : R.Drives E)
include hE

/-- Content that is yielded is run in the scope of the parameters. -/
theorem content {v : Value} (hv : R.Yields d v) (hcontent : v.isContentBlock = true) :
    R.Obeys d (fun vs => ∀ v ∈ vs, R.Yields d v) (E.run v [] R.env.rootScope) :=
  hE.run d v [] R.env.rootScope (L.content d v hv hcontent) lends_nil L.own_root

/-- The texts of a value and of a row of values. -/
theorem attributeText_and_texts :
    (∀ v, R.Yields d v → R.Obeys d (fun _ => True) (Build.attributeText E R.env v)) ∧
      ∀ vs, (∀ v ∈ vs, R.Yields d v) →
        R.Obeys d (fun _ => True) (Build.attributeTexts E R.env vs) := by
  apply Build.attributeText.mutual_induct
  case case1 =>
    intro vs ih hv
    rw [Build.attributeText]
    exact ih hv.of_list
  case case2 =>
    intro vs ih hv
    rw [Build.attributeText]
    exact ih hv.of_tuple
  case case3 =>
    intro e _
    rw [Build.attributeText]
    exact .pure trivial
  case case4 =>
    intro s _
    rw [Build.attributeText]
    exact .pure trivial
  case case5 =>
    intro _
    rw [Build.attributeText]
    exact .pure trivial
  case case6 =>
    intro v _ _ _ _ _ hcontent hv
    simp only [Build.attributeText, hcontent, if_true]
    exact .bind (content L hE hv hcontent) fun vs hvs => hE.texts d vs hvs
  case case7 =>
    intro v _ _ _ _ _ hplain hv
    simp only [Build.attributeText, hplain]
    exact .pure trivial
  case case8 =>
    intro _
    rw [Build.attributeTexts]
    exact .pure trivial
  case case9 =>
    intro v vs ihv ihvs hvs
    obtain ⟨hv, hvs⟩ := List.forall_mem_cons.mp hvs
    rw [Build.attributeTexts]
    exact .bind (ihv hv) fun _ _ => .bind (ihvs hvs) fun _ _ => .pure trivial

theorem addContent (tag : QName) {parts : Parts} (hparts : R.PartsMeet d parts) {v : Value}
    (hv : R.Yields d v) (hcontent : v.isContentBlock = true) :
    R.Obeys d (R.PartsMeet d) (Build.addContent E R.env tag parts v) := by
  unfold Build.addContent
  exact .bind (content L hE hv hcontent) fun vs hvs => addChildren L tag hparts hvs

theorem takeFirst (tag : QName) {parts : Parts} (hparts : R.PartsMeet d parts) {v : Value}
    (hv : R.Yields d v) : R.Obeys d (R.PartsMeet d) (Build.takeFirst E R.env tag parts v) := by
  have hone : ∀ w ∈ [v], R.Yields d w := List.forall_mem_singleton.mpr hv
  unfold Build.takeFirst
  split
  case h_1 => exact .pure hparts
  case h_2 => exact .pure hparts
  case h_3 => exact .pure hparts
  case h_4 => exact addChildren L tag hparts hone
  case h_5 => exact addChildren L tag hparts hone
  case h_6 => exact addChildren L tag hparts hone
  case h_7 =>
    split
    · rename_i hcontent
      exact addContent L hE tag hparts hv hcontent
    · exact .bind (malformed L tag _ _) fun _ _ => .pure hparts

omit hE in
/-- How a name is read with the argument behind it: only content is read as content. -/
theorem reading (head : Head) (v : Value) :
    R.Obeys d (fun reading => reading = .content → v.isContentBlock = true)
      (Build.lift (head.reading R.env.settings.contentMarker v)) := by
  rcases head.reading_cases R.env.settings.contentMarker v with ⟨r, hr, hcontent⟩ | ⟨hnone, hfault⟩
  · rw [hr]
    exact .pure hcontent
  · rw [hfault]
    exact .fail (L.marker hnone)

theorem takeSecond (tag : QName) {parts : Parts} (hparts : R.PartsMeet d parts) (head : Head)
    {v : Value} (hv : R.Yields d v) :
    R.Obeys d (R.PartsMeet d) (Build.takeSecond E R.env tag parts head v) := by
  unfold Build.takeSecond
  refine .bind (reading L head v) fun r hr => ?_
  match r, hr with
  | .content, hr => exact addContent L hE tag hparts hv (hr rfl)
  | .declaration n, _ => exact declare L tag hparts head n
  | .flag, _ => exact takeFirst L hE tag hparts hv
  | .attribute, _ =>
    refine .bind (attributeName L tag head) fun name _ => ?_
    refine .bind ((attributeText_and_texts L hE).1 v hv) fun text _ => ?_
    cases name with
    | some name => exact addAttribute L tag hparts name text
    | none => exact .pure hparts
  | .nothing, _ => exact .bind (malformed L tag _ _) fun _ _ => .pure hparts

theorem take (tag : QName) {parts : Parts} (hparts : R.PartsMeet d parts) {v : Value}
    (hv : R.Yields d v) : R.Obeys d (R.PartsMeet d) (Build.take E R.env tag parts v) := by
  unfold Build.take
  split
  · exact takeFirst L hE tag hparts hv
  · have hwaiting : R.PartsMeet d { parts with pending := none } := hparts
    exact takeSecond L hE tag hwaiting _ hv

theorem feed (tag : QName) (limit : Nat) {parts : Parts} (hparts : R.PartsMeet d parts) {v : Value}
    (hv : R.Yields d v) : R.Obeys d (R.PartsMeet d) (Build.feed E R.env tag limit parts v) := by
  -- the limit goes down both for the arguments of a chunk and for the chunks behind it
  induction limit generalizing parts v with
  | zero =>
    cases v with
    | stream id => exact .fail L.exhausted
    | _ => exact take L hE tag hparts hv
  | succ limit ih =>
    cases v with
    | stream id =>
      rw [Build.feed]
      refine .bind (nextChunk id) fun chunk hchunk => ?_
      cases chunk with
      | none => exact .pure hparts
      | some chunk =>
        have heach : ∀ parts v, R.PartsMeet d parts → v ∈ chunk →
            R.Obeys d (R.PartsMeet d) (Build.feed E R.env tag limit parts v) :=
          fun parts v hparts hmem => ih hparts (yields L (hchunk chunk rfl v hmem))
        exact .bind (.foldlM heach hparts) fun parts' hparts' => ih hparts' hv
    | _ => exact take L hE tag hparts hv

theorem feedAll (tag : QName) {vs : List Value} (hvs : ∀ v ∈ vs, R.Yields d v) {parts : Parts}
    (hparts : R.PartsMeet d parts) :
    R.Obeys d (R.PartsMeet d) (Build.feedAll E R.env tag vs parts) := by
  have hread : R.Obeys d (fun _ => True) (Build.read fun s => s.streams.count) :=
    .read fun s s' halike => ⟨by rw [halike.streams], trivial⟩
  unfold Build.feedAll
  refine hread.bind fun left _ => .foldlM (fun parts v hparts hmem => ?_) hparts
  exact feed L hE tag (left + 1) hparts (hvs v hmem)

/-- **Building an element obeys the regime.** -/
theorem element (tag : Value) {args : List Value} (hargs : ∀ v ∈ args, R.Holds v) :
    R.Obeys d (R.Grows d) (Build.element E R.env tag args) := by
  unfold Build.element
  refine .bind (elementName L tag) fun name _ => elementWith L name ?_
  exact feedAll L hE name (yieldsAll L hargs) nofun

end

end Obedience

end TagScript
