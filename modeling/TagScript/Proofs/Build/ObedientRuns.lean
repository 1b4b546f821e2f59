import TagScript.Proofs.Build.Documents
import TagScript.Proofs.Build.Obedience

/-!
# Runs that obey a regime

Under a lawful regime doing what a command does obeys it, and so does running statements, blocks and
documents. Blocks that are nested are run by an engine, which obeys the regime because the engine
one level further inside does.

* `Regime.RequestMeets` — what a document must be built from.
* `Obedience.invoke`, `Obedience.statement` — invoking a command and running a statement.
* **`Obedience.engine`** — running blocks, however deep they are nested.
* **`Obedience.document`** — building a document, as far as its root element goes.
-/

namespace TagScript

namespace Regime

/-- Whether the content of a root element keeps to the regime. -/
def ContentMeets (R : Regime) : RootContent → Prop
  | .arguments vs => ∀ v ∈ vs, R.Holds v
  | .block v => R.Holds v

/-- Whether what a document is built from keeps to the regime. -/
structure RequestMeets (R : Regime) (request : DocumentRequest) : Prop where
  /-- The arguments before the content are held. -/
  args : ∀ v ∈ request.args, R.Holds v
  /-- A text as content may be the text of a block. -/
  source : ∀ source, request.content = .str source → R.source source
  /-- Any other content is held. -/
  content : (∀ source, request.content ≠ .str source) → R.Holds request.content

end Regime

/-- The commands of a table to which one was added are those of before and this one. -/
theorem CommandTable.mem_entries_install {t : CommandTable} {c : Command}
    {entry : String × Nat × Command} (h : entry ∈ (t.install c).entries) :
    entry ∈ t.entries ∨ entry.2.2 = c := by
  have hfold (names : List String) (entries : List (String × Nat × Command))
      (hmem : entry ∈ names.foldl
        (fun entries name => Fields.insert entries (t.key name) (t.version, c)) entries) :
      entry ∈ entries ∨ entry.2.2 = c := by
    induction names generalizing entries with
    | nil => exact .inl hmem
    | cons name names ih =>
      rcases ih _ hmem with hmem | hnew
      · rcases Fields.mem_of_mem_insert hmem with hmem | rfl
        · exact .inl hmem
        · exact .inr rfl
      · exact .inr hnew
  exact hfold (c.name :: c.aliases) t.entries h

/-- Templates that are kept are not handed out any more once a command is added. -/
theorem Workshop.Invariant.install {settings : CompilerSettings} {table : CommandTable}
    {cache : Cache} (h : Workshop.Invariant settings ⟨table, cache⟩) (c : Command) :
    Workshop.Invariant settings ⟨table.install c, cache⟩ := by
  have hafter : Workshop.Invariant settings
      (Workshop.afterChange ⟨table, cache⟩ (.ok (table.install c))) := by
    refine h.afterChange fun table' htable' => ?_
    cases htable'
    exact Nat.lt_succ_self _
  exact hafter

/-- Both states may get a command that keeps to the regime. -/
theorem Regime.Alike.install {R : Regime} {d : Nat} {s s' : BuildState} (h : R.Alike d s s')
    {c : Command} (hc : R.Admits c) :
    R.Alike d { s with commands := s.commands.install c }
      { s' with commands := s.commands.install c } := by
  have hcaches {cache : Cache}
      (hcache : Workshop.Invariant R.env.settings.compiler ⟨s.wordTable, cache⟩) :
      Workshop.Invariant R.env.settings.compiler
        ⟨BuildState.wordTable { s with commands := s.commands.install c }, cache⟩ := by
    unfold BuildState.wordTable at hcache ⊢
    cases hwords : s.words with
    | some words =>
      rw [hwords] at hcache
      exact hcache
    | none =>
      rw [hwords] at hcache
      exact hcache.install c
  refine ⟨h.depth, h.depth', h.registry, h.streams, rfl, h.words, h.scopes, hcaches h.cache,
    hcaches h.cache', fun entry hentry => ?_, h.chunks⟩
  rcases CommandTable.mem_entries_install hentry with hold | hnew
  · exact h.admits entry hold
  · rw [hnew]
    exact hc

namespace Obedience

variable {R : Regime} {d : Nat} (L : R.Lawful)

/-! ## Commands -/

section

include L

theorem argument (hlax : R.lax) {i : Build.Invocation} (hi : R.InvocationMeets i) (n : Nat) :
    R.Obeys d R.Holds (Build.argument i n) := by
  unfold Build.argument
  split
  · rename_i v hv
    exact .pure (hi.args v (List.mem_of_getElem? hv))
  · exact .fail (L.all hlax _)

theorem newNamespace {i : Build.Invocation} :
    R.Obeys d (R.Yields d) (Build.newNamespace i) := by
  unfold Build.newNamespace
  split
  · exact failOfBuild L rfl
  · rename_i v _
    unfold Namespace.of
    split
    · exact .fail L.emptyNamespace
    · exact .pure (yields L (held L rfl trivial))
  · exact failOfBuild L rfl

theorem declarePrefix (hlax : R.lax) {i : Build.Invocation} (hi : R.InvocationMeets i) :
    R.Obeys d (R.Yields d) (Build.declarePrefix i) := by
  unfold Build.declarePrefix
  refine .bind (argument L hlax hi 0) fun v _ => .bind (argument L hlax hi 1) fun uri _ => ?_
  cases v with
  | str pfx =>
    have hbound : R.Obeys d (R.Yields d)
        (Build.addBinding pfx uri.plain >>= fun created => pure (Value.bool created)) :=
      .bind (addBinding L pfx uri.plain) fun created _ => .pure (yields L (held L rfl trivial))
    rwa [← Build.addBinding_bind] at hbound
  | _ => exact .bind (liftLax L hlax _) fun _ _ => .fail (L.all hlax _)

theorem commandName (hlax : R.lax) (v : Value) :
    R.Obeys d (fun _ => True) (Build.commandName v) := by
  unfold Build.commandName
  split
  · exact .pure trivial
  · split
    · exact .fail (L.all hlax _)
    · split <;> exact .fail (L.all hlax _)

/-- Registering a command that yields a value which is held. -/
theorem registerConstant (hlax : R.lax) {i : Build.Invocation} (hi : R.InvocationMeets i) :
    R.Obeys d (fun _ => True) (Build.registerConstant i) := by
  unfold Build.registerConstant
  refine .bind (argument L hlax hi 0) fun v _ => .bind (commandName L hlax v) fun name _ => ?_
  refine .bind (argument L hlax hi 1) fun v hv => ?_
  intro s s' halike
  rw [Build.read_bind, Build.read_bind, halike.commands]
  cases hregister : s.commands.register (.constant name v []) with
  | error fault => exact Regime.Obeys.fail (L.all hlax fault) s s' halike
  | ok table =>
    have htable := CommandTable.eq_install_of_register hregister
    subst htable
    have hconstant : R.Admits (.constant name v []) := fun _ _ => hv
    exact .of_ok trivial (halike.install hconstant) (Regime.leaves_refl _) (Regime.leaves_refl _)

omit L in
theorem spreadLists {args : List Value} (hargs : ∀ v ∈ args, R.Holds v) :
    ∀ v ∈ Build.spreadLists args, R.Holds v := by
  intro v hv
  unfold Build.spreadLists at hv
  obtain ⟨arg, harg, hmem⟩ := List.mem_flatMap.mp hv
  split at hmem
  · exact (hargs _ harg).of_list v hmem
  · rw [List.mem_singleton.mp hmem]
    exact hargs arg harg

variable {E : Engine} (hE : R.Drives E)
include hE

theorem newElement {i : Build.Invocation} (hi : R.InvocationMeets i) :
    R.Obeys d (R.Yields d) (Build.newElement E R.env i) := by
  unfold Build.newElement
  split
  · exact failOfBuild L rfl
  · exact failOfBuild L rfl
  · rename_i tag args _ hargs
    have hheld : ∀ v ∈ args, R.Holds v := by
      intro v hv
      refine hi.args v ?_
      rw [hargs]
      exact List.mem_cons_of_mem tag hv
    exact .bind (element L hE _ (spreadLists hheld)) fun e he => .pure (.leaf rfl he)

omit L in
theorem forEach {block : Value} (hblock : R.Holds block) {scope : ScopeId} (hscope : R.own scope)
    {items : List Value} (hitems : ∀ v ∈ items, R.Holds v) :
    R.Obeys d (fun vs => ∀ v ∈ vs, R.Yields d v) (Build.forEach E block scope items) := by
  induction items with
  | nil => exact .pure (List.forall_mem_nil _)
  | cons item items ih =>
    obtain ⟨hitem, hitems⟩ := List.forall_mem_cons.mp hitems
    have hlends : R.Lends [("_", item)] := by
      have hname : "_" ≠ "" := by decide
      exact List.forall_mem_singleton.mpr ⟨fun hempty => absurd hempty hname, hitem⟩
    refine .bind (hE.run d block [("_", item)] scope hblock hlends hscope) fun first hfirst => ?_
    refine .bind (ih hitems) fun more hmore => .pure ?_
    exact List.forall_mem_append.mpr ⟨hfirst, hmore⟩

theorem forEachItem {i : Build.Invocation} (hi : R.InvocationMeets i) :
    R.Obeys d (R.Yields d) (Build.forEachItem E i) := by
  unfold Build.forEachItem
  split
  · rename_i items block hargs
    split
    · have hitems : R.Holds items := hi.args items (by rw [hargs]; simp)
      have hblock : R.Holds block := hi.args block (by rw [hargs]; simp)
      exact .bind (forEach hE hblock hi.own_scope hitems.items) fun vs hvs => .pure (.list hvs)
    · exact failOfBuild L rfl
  · exact failOfBuild L rfl

/-- **What a command does keeps to the regime.** -/
theorem act {i : Build.Invocation} (hi : R.InvocationMeets i) {a : Act}
    (ha : match a with
      | .newElement | .newNamespace | .forEachItem => True
      | .runBlock vars => R.lax ∧ R.Lends vars
      | _ => R.lax) :
    R.Obeys d (R.Yields d) (Build.act E R.env i a) := by
  cases a with
  | newElement => exact newElement L hE hi
  | newNamespace => exact newNamespace L
  | forEachItem => exact forEachItem L hE hi
  | buildElement =>
    have hrest : ∀ v ∈ i.args.drop 1, R.Holds v := fun v hv => hi.args v (List.mem_of_mem_drop hv)
    refine .bind (argument L ha hi 0) fun tag _ => ?_
    exact .bind (element L hE tag hrest) fun e he => .pure (.leaf rfl he)
  | listPrefixes =>
    refine readRegistry (f := fun r => Value.list (r.prefixes.map .str)) fun r => ?_
    refine .list fun v hv => ?_
    obtain ⟨pfx, -, rfl⟩ := List.mem_map.mp hv
    exact yields L (held L rfl trivial)
  | uriOfPrefix =>
    refine .bind (argument L ha hi 0) fun v _ => ?_
    cases v with
    | str pfx =>
      exact readRegistry (f := fun r => Value.str ((r.get? pfx).getD "none"))
        fun r => yields L (held L rfl trivial)
    | _ =>
      dsimp only
      split
      · exact .pure (yields L (held L rfl trivial))
      · exact .fail (L.all ha _)
  | bindPrefix => exact declarePrefix L ha hi
  | runBlock vars =>
    refine .bind (argument L ha.1 hi 0) fun block hblock => ?_
    refine .bind (hE.run d block vars i.scope hblock ha.2 hi.own_scope) fun vs hvs => ?_
    exact .pure (.list hvs)
  | runBlockTwice =>
    refine .bind (argument L ha hi 0) fun block hblock => ?_
    refine .bind (hE.run d block [] i.scope hblock lends_nil hi.own_scope) fun vs hvs => ?_
    exact .pure (.list (List.forall_mem_append.mpr ⟨hvs, hvs⟩))
  | setVariable =>
    refine .bind (argument L ha hi 0) fun name _ => .bind (argument L ha hi 1) fun v hv => ?_
    refine .bind (setVariable L ha hi.own_scope name hv) fun _ _ => .pure ?_
    exact yields L (held L rfl trivial)
  | listVariables =>
    have hscope := L.scope_of_own i.scope hi.own_scope
    refine .read fun s s' halike => ⟨by rw [halike.scopes.visible hscope], .list fun v hv => ?_⟩
    obtain ⟨name, -, rfl⟩ := List.mem_map.mp hv
    exact yields L (held L rfl trivial)
  | invokedName => exact .pure (yields L (held L rfl trivial))
  | nestingDepth =>
    refine .read fun s s' halike => ⟨?_, yields L (held L rfl trivial)⟩
    rw [halike.depth, halike.depth']
  | registerConstant =>
    refine .bind (registerConstant L ha hi) fun _ _ => .pure ?_
    exact yields L (held L rfl trivial)
  | fail fault => exact .fail (L.all ha fault)

theorem perform {c : Command} (hc : R.Admits c) {i : Build.Invocation} (hi : R.InvocationMeets i) :
    R.Obeys d (R.Yields d) (Build.perform E R.env c i) := by
  unfold Regime.Admits at hc
  unfold Build.perform
  cases haction : c.action with
  | plain f =>
    rw [haction] at hc
    have happlied := hc i.args hi.args
    refine .lift (fun v hv => ?_) fun fault hfault => ?_
    · rw [hv] at happlied
      exact yields L happlied
    · rw [hfault] at happlied
      exact happlied
  | acting a =>
    rw [haction] at hc
    refine act L hE hi ?_
    cases a <;> exact hc

/-- **Invoking a command obeys the regime.** -/
theorem invoke {i : Build.Invocation} (hi : R.InvocationMeets i) :
    R.Obeys d (R.Yields d) (Build.invoke E R.env i) := by
  have hread : R.Obeys d (fun r => (∀ c, r = .ok c → R.Admits c) ∧
      ∀ fault, r = .error fault → R.fault fault)
      (Build.read fun s => s.commands.lookup i.name) := by
    refine .read fun s s' halike => ⟨by rw [halike.commands], fun c hc => ?_, fun _ hfault => ?_⟩
    · obtain ⟨entry, hentry, rfl⟩ := CommandTable.exists_mem_of_lookup hc
      exact halike.admits entry hentry
    · unfold CommandTable.lookup at hfault
      split at hfault
      · cases hfault
      · cases hfault
        exact L.ofBuild _ rfl
  unfold Build.invoke
  exact hread.bind fun r hr => .bind (.lift hr.1 hr.2) fun c hc => perform L hE hc hi

end

/-! ## Statements -/

section

include L

theorem interpolate {scope : ScopeId} (hscope : R.scope scope) (pos : Position)
    (parts : List StringPart) :
    R.Obeys d (fun _ => True) (Build.interpolate R.env scope pos parts) := by
  induction parts with
  | nil => exact .pure trivial
  | cons part parts ih =>
    match part with
    | .char c => exact .bind ih fun _ _ => .pure trivial
    | .variable name =>
      exact .bind (lookup L hscope name pos) fun _ _ => .bind ih fun _ _ => .pure trivial
    | .unterminated => exact failOfBuild L rfl

/-- The members of what is held are the same in states that cannot be told apart, and are held. -/
theorem readPath {v : Value} (hv : R.Holds v) (members : List String) :
    R.Obeys d R.Holds (Build.read fun s => v.path s.scopes.parent? members) := by
  refine .read fun s s' halike => ?_
  have haround : ∀ id outer, R.held (.scope id) → s.scopes.parent? id = some outer →
      R.held (.scope outer) := fun id outer hid houter =>
    (L.scope_iff outer).mpr ((halike.scopes.parent? ((L.scope_iff id).mp hid)).2 outer houter)
  have hsame : ∀ id, R.held (.scope id) → s'.scopes.parent? id = s.scopes.parent? id :=
    fun id hid => (halike.scopes.parent? ((L.scope_iff id).mp hid)).1
  exact ⟨L.members.path_congr haround hsame hv members, L.members.every_path haround hv members⟩

/-- A cast of what is held is held. -/
theorem castValue (type : Token) {v : Value} (hv : R.Holds v) (registry : Registry) :
    R.Obeys d R.Holds (Build.lift (Build.castValue registry type v)) := by
  refine .lift (fun w hw => ?_) fun fault hfault => ?_
  · exact Build.every_castValue L.members hv (fun _ => L.name) hw
  · rcases Build.castValue_error hfault with ⟨problem, rfl⟩ | ⟨wording, rfl⟩
    · exact L.ofBuild _ rfl
    · exact L.overflow wording

omit L in
theorem joined {vs : List Value} (hvs : ∀ v ∈ vs, R.Holds v) : R.Holds (Build.joined vs) := by
  unfold Build.joined
  split
  · exact hvs _ (List.mem_singleton_self _)
  · exact .list hvs

theorem unwrapped (hparens : R.parens) {vs : List Value} (hvs : ∀ v ∈ vs, R.Yields d v) :
    R.Holds (Build.unwrapped vs) := by
  have hheld : ∀ v ∈ vs, R.Holds v := fun v hv => (hvs v hv).mono (L.paren hparens d)
  unfold Build.unwrapped
  split
  · exact held L rfl trivial
  · exact hheld _ (List.mem_singleton_self _)
  · exact .list hheld

variable {E : Engine} (hE : R.Drives E)
include hE

/-- Operands, their rows, statements and rows of statements. -/
theorem operand_and_statement {scope : ScopeId} (hown : R.own scope) :
    (∀ o, R.OperandMeets o → R.Obeys d R.Holds (Build.operand E R.env scope o)) ∧
      (∀ ss, R.StatementsMeet ss →
        R.Obeys d (fun vs => ∀ v ∈ vs, R.Yields d v) (Build.statements E R.env scope ss)) ∧
      (∀ s, R.StatementMeets s →
        R.Obeys d (fun vs => ∀ v ∈ vs, R.Yields d v) (Build.statement E R.env scope s)) ∧
      (∀ rows, R.RowsMeet rows →
        R.Obeys d (fun vs => ∀ v ∈ vs, R.Holds v) (Build.rows E R.env scope rows)) ∧
      ∀ os, R.OperandsMeet os →
        R.Obeys d (fun vs => ∀ v ∈ vs, R.Holds v) (Build.operands E R.env scope os) := by
  have hscope := L.scope_of_own scope hown
  apply Build.operand.mutual_induct
  case case1 =>
    intro v hv
    rw [Build.operand]
    exact .pure hv
  case case2 =>
    intro parts pos _
    rw [Build.operand]
    exact .bind (interpolate L hscope pos parts) fun _ _ => .pure (held L rfl trivial)
  case case3 =>
    intro name members pos _
    rw [Build.operand]
    exact .bind (lookup L hscope name pos) fun v hv => readPath L hv members
  case case4 =>
    intro source line hsource
    rw [Build.operand]
    exact .pure (.leaf rfl (L.block source scope line hsource hscope))
  case case5 =>
    intro body ih hbody
    rw [Build.operand]
    exact .bind (ih hbody.2) fun vs hvs => .pure (unwrapped L hbody.1 hvs)
  case case6 =>
    intro type o ih ho
    rw [Build.operand]
    have hread : R.Obeys d (fun _ => True) (Build.read (·.registry)) :=
      .read fun s s' halike => ⟨halike.registry, trivial⟩
    refine .bind (ih ho) fun v hv => hread.bind fun registry _ => ?_
    exact castValue L type hv registry
  case case7 =>
    intro fault hfault
    rw [Build.operand]
    exact .fail hfault
  case case8 =>
    intro command rows ih hrows
    rw [Build.statement]
    refine .bind (ih hrows) fun args hargs => ?_
    cases command with
    | some name => exact .bind (invoke L hE ⟨hargs, hown⟩) fun v hv => .pure hv.spread
    | none => exact .pure (Value.Every.spreadAll (yieldsAll L hargs))
  case case9 =>
    intro _
    rw [Build.statements]
    exact .pure (List.forall_mem_nil _)
  case case10 =>
    intro s ss ihs ihss hmeet
    rw [Build.statements]
    refine .bind (ihs hmeet.1) fun vs hvs => .bind (ihss hmeet.2) fun rest hrest => .pure ?_
    exact List.forall_mem_append.mpr ⟨hvs, hrest⟩
  case case11 =>
    intro _
    rw [Build.rows]
    exact .pure (List.forall_mem_nil _)
  case case12 =>
    intro row more ihrow ihmore hmeet
    rw [Build.rows]
    refine .bind (ihrow hmeet.1) fun vs hvs => .bind (ihmore hmeet.2) fun rest hrest => .pure ?_
    exact List.forall_mem_cons.mpr ⟨joined hvs, hrest⟩
  case case13 =>
    intro _
    rw [Build.operands]
    exact .pure (List.forall_mem_nil _)
  case case14 =>
    intro o os iho ihos hmeet
    rw [Build.operands]
    refine .bind (iho hmeet.1) fun v hv => .bind (ihos hmeet.2) fun vs hvs => .pure ?_
    exact List.forall_mem_cons.mpr ⟨hv, hvs⟩

/-- **Running a statement obeys the regime.** -/
theorem statement {scope : ScopeId} (hown : R.own scope) {s : Statement}
    (hs : R.StatementMeets s) :
    R.Obeys d (fun vs => ∀ v ∈ vs, R.Yields d v) (Build.statement E R.env scope s) :=
  (operand_and_statement L hE hown).2.2.1 s hs

/-! ## Blocks -/

theorem routineStep (hlax : R.lax) {scope : ScopeId} (hown : R.own scope) {step : Step}
    (hstep : ∀ v ∈ step.values, R.Holds v) :
    R.Obeys d (fun v? => ∀ v ∈ v?.toList, R.Yields d v)
      (Build.routineStep E R.env scope step) := by
  have hone {v : Value} (hv : R.Yields d v) : ∀ w ∈ (some v).toList, R.Yields d w :=
    List.forall_mem_singleton.mpr hv
  have hnone : ∀ w ∈ (none : Option Value).toList, R.Yields d w := List.forall_mem_nil _
  cases step with
  | element tag args =>
    have hargs : ∀ v ∈ args, R.Holds v := (List.forall_mem_cons.mp hstep).2
    have hread : R.Obeys d (fun _ => True) (Build.read fun s => s.registry.nameOfValue tag) :=
      readRegistry (f := fun r => r.nameOfValue tag) fun _ => trivial
    refine hread.bind fun r _ => .bind (liftLax L hlax r) fun name _ => ?_
    exact .bind (element L hE (.name name) hargs) fun e he => .pure (hone (.leaf rfl he))
  | text v => exact .pure (hone (yields L (held L rfl trivial)))
  | get name default =>
    have hdefault : R.Holds default := List.forall_mem_singleton.mp hstep
    refine .read fun s s' halike => ?_
    obtain ⟨hsame, hheld⟩ := halike.scopes.lookup? L (L.scope_of_own scope hown) name
    rw [hsame]
    refine ⟨rfl, hone (yields L ?_)⟩
    cases hfound : s.scopes.lookup? scope name with
    | none => exact hdefault
    | some v => exact hheld v hfound
  | set name v =>
    have hv : R.Holds v := List.forall_mem_singleton.mp hstep
    exact .bind (setVariable L hlax hown (.str name) hv) fun _ _ => .pure hnone
  | qname text =>
    have hread : R.Obeys d (fun _ => True) (Build.read fun s => s.registry.nameOf text) :=
      readRegistry (f := fun r => r.nameOf text) fun _ => trivial
    refine hread.bind fun r _ => .bind (liftLax L hlax r) fun name _ => .pure (hone ?_)
    exact yields L (.leaf rfl (L.name name))
  | prefixes =>
    refine readRegistry (f := fun r => some (Value.list (r.prefixes.map .str)))
      fun r => hone (.list fun v hv => ?_)
    obtain ⟨pfx, -, rfl⟩ := List.mem_map.mp hv
    exact yields L (held L rfl trivial)
  | value v => exact .pure (hone (yields L (List.forall_mem_singleton.mp hstep)))
  | fail message => exact .fail (L.all hlax _)

theorem routineSteps (hlax : R.lax) {scope : ScopeId} (hown : R.own scope) {steps : List Step}
    (hsteps : ∀ step ∈ steps, ∀ v ∈ step.values, R.Holds v) :
    R.Obeys d (fun vs => ∀ v ∈ vs, R.Yields d v)
      (Build.routineSteps E R.env scope steps) := by
  induction steps with
  | nil => exact .pure (List.forall_mem_nil _)
  | cons step steps ih =>
    obtain ⟨hstep, hsteps⟩ := List.forall_mem_cons.mp hsteps
    refine .bind (routineStep L hE hlax hown hstep) fun v hv => .bind (ih hsteps) fun vs hvs => ?_
    exact .pure (List.forall_mem_append.mpr ⟨hv, hvs⟩)

theorem firstOfSteps (hlax : R.lax) {scope : ScopeId} (hown : R.own scope) {steps : List Step}
    (hsteps : ∀ step ∈ steps, ∀ v ∈ step.values, R.Holds v) :
    R.Obeys d (R.Yields d) (Build.firstOfSteps E R.env scope steps) := by
  induction steps with
  | nil => exact .pure (yields L (held L rfl trivial))
  | cons step steps ih =>
    obtain ⟨hstep, hsteps⟩ := List.forall_mem_cons.mp hsteps
    refine .bind (routineStep L hE hlax hown hstep) fun v hv => ?_
    cases v with
    | some v => exact .pure (List.forall_mem_singleton.mp hv)
    | none => exact ih hsteps

/-- **What a block does in one go keeps to the regime.** -/
theorem task {scope : ScopeId} (hown : R.own scope) {t : Task} (ht : R.TaskMeets t) :
    R.Obeys d (fun vs => ∀ v ∈ vs, R.Yields d v) (Build.task E R.env scope t) := by
  cases t with
  | statement s => exact statement L hE hown ht
  | routine mode steps =>
    obtain ⟨hlax, hsteps⟩ := ht
    cases mode with
    | single =>
      exact .bind (firstOfSteps L hE hlax hown hsteps) fun v hv => .pure hv.spread
    | list | onDemand =>
      exact .bind (routineSteps L hE hlax hown hsteps) fun vs hvs =>
        .pure (Value.Every.spreadAll hvs)
  | operation o =>
    refine .lift (fun vs hvs => ?_) fun fault hfault => ?_
    · obtain ⟨result, -, rfl⟩ := exists_of_map_ok hvs
      exact (yields L (L.members.every_ofJson result)).spread
    · exact L.operation o fault ht (error_of_map_error hfault)

omit L hE in
/-- The statements of a row that keeps to the regime keep to it. -/
theorem statementMeets {ss : List Statement} (hss : R.StatementsMeet ss) :
    ∀ s ∈ ss, R.StatementMeets s := by
  induction ss with
  | nil => exact List.forall_mem_nil _
  | cons s ss ih => exact List.forall_mem_cons.mpr ⟨hss.1, ih hss.2⟩

omit L hE in
theorem taskMeets {ss : List Statement} (hss : R.StatementsMeet ss) :
    ∀ t ∈ ss.map Task.statement, R.TaskMeets t := by
  intro t ht
  obtain ⟨s, hs, rfl⟩ := List.mem_map.mp ht
  exact statementMeets hss s hs

omit hE in
/-- A block that is held is made ready in a scope of the build's own. -/
theorem start {block : Value} (hblock : R.Holds block) {vars : List (String × Value)}
    (hvars : R.Lends vars) {outer : ScopeId} (houter : R.scope outer) :
    R.Obeys d R.CourseMeets (Build.start R.env block vars outer) := by
  unfold Build.start
  split
  · rename_i b
    have hheld : R.held (.block b) := hblock.holds_of_leaf rfl
    have hscope : R.scope (b.scope.getD outer) := by
      cases hwritten : b.scope with
      | none => exact houter
      | some id => exact (L.scope_iff id).mp (L.members.block b id hheld hwritten)
    refine .bind (template L (L.source_of_block b hheld)) fun t ht => ?_
    exact .bind (newScope L hscope hvars) fun scope hown => .pure ⟨hown, taskMeets ht⟩
  · rename_i t
    have ht := L.template t (hblock.holds_of_leaf rfl)
    exact .bind (newScope L houter hvars) fun scope hown => .pure ⟨hown, taskMeets ht⟩
  · rename_i mode steps
    obtain ⟨hheld, hsteps⟩ := hblock.of_routine
    refine .bind (newScope L houter hvars) fun scope hown => .pure ⟨hown, ?_⟩
    exact List.forall_mem_singleton.mpr ⟨L.routine mode steps hheld, hsteps⟩
  · rename_i o
    have hheld : R.held (.operation o) := hblock.holds_of_leaf rfl
    refine .bind (newScope L houter hvars) fun scope hown => .pure ⟨hown, ?_⟩
    exact List.forall_mem_singleton.mpr hheld
  · exact failOfBuild L rfl

theorem drain {σ : Type} {Q : σ → Prop} {consume : σ → List Value → Build σ}
    (hconsume : ∀ acc vs, Q acc → (∀ v ∈ vs, R.Yields d v) → R.Obeys d Q (consume acc vs))
    {scope : ScopeId} (hown : R.own scope) (kind : String) {tasks : List Task}
    (htasks : ∀ t ∈ tasks, R.TaskMeets t) (yielded : Nat) {acc : σ} (hacc : Q acc) :
    R.Obeys d Q (Build.drain E R.env scope kind consume tasks yielded acc) := by
  induction tasks generalizing yielded acc with
  | nil => exact .bind (noteBlock kind yielded) fun _ _ => .pure hacc
  | cons t tasks ih =>
    obtain ⟨ht, htasks⟩ := List.forall_mem_cons.mp htasks
    refine .bind (task L hE hown ht) fun vs hvs => ?_
    exact .bind (hconsume acc vs hacc hvs) fun acc' hacc' => ih htasks _ hacc'

/-- **Running a block obeys the regime**, if the consumer of its values does. -/
theorem chunks {σ : Type} {Q : σ → Prop} {consume : σ → List Value → Build σ}
    (hconsume : ∀ acc vs, Q acc → (∀ v ∈ vs, R.Yields d v) → R.Obeys d Q (consume acc vs))
    {block : Value} (hblock : R.Holds block) {vars : List (String × Value)} (hvars : R.Lends vars)
    {outer : ScopeId} (houter : R.scope outer) {acc : σ} (hacc : Q acc) :
    R.Obeys d Q (Build.chunks E R.env block vars outer consume acc) :=
  .bind (start L hblock hvars houter) fun c hc =>
    drain L hE hconsume hc.own_scope c.kind hc.tasks c.yielded hacc

theorem run {block : Value} (hblock : R.Holds block) {vars : List (String × Value)}
    (hvars : R.Lends vars) {outer : ScopeId} (houter : R.scope outer) :
    R.Obeys d (fun vs => ∀ v ∈ vs, R.Yields d v) (Build.run E R.env block vars outer) :=
  chunks L hE (fun _ _ hacc hvs => .pure (List.forall_mem_append.mpr ⟨hacc, hvs⟩)) hblock hvars
    houter (List.forall_mem_nil _)

omit hE in
/-- **Running blocks obeys the regime, however deep they are nested.** -/
theorem engine (n : Nat) : R.Drives (TagScript.engine R.env n) := by
  induction n with
  | zero => exact ⟨fun _ _ _ _ _ _ _ => .fail L.exhausted, fun _ _ _ => .fail L.exhausted⟩
  | succ n ih =>
    refine ⟨fun d block vars scope hblock hvars hown => ?_, fun d vs hvs => ?_⟩
    · exact run L ih hblock hvars (L.scope_of_own scope hown)
    · exact (attributeText_and_texts L ih).2 vs hvs

/-! ## Documents -/

omit L hE in
theorem noteFault {α : Type} {Q : α → Prop} (logger : Logger) {m : Build α} (h : R.Obeys d Q m) :
    R.Obeys d Q (Build.noteFault logger m) := by
  have hnoted {r : Except Fault α} {s t : BuildState} (hm : m s = (r, t)) :
      ∃ t', Build.noteFault logger m s = (r, t') ∧ Regime.Unseen t t' := by
    unfold Build.noteFault
    rw [hm]
    cases r with
    | ok a => exact ⟨t, rfl, rfl, rfl, rfl⟩
    | error fault =>
      dsimp only
      split <;> exact ⟨_, rfl, rfl, rfl, rfl⟩
  intro s s' halike
  obtain ⟨halike₁, hsame, hvalue, hfault, hleaves, hleaves'⟩ := h s s' halike
  rcases hm : m s with ⟨r, t⟩
  rcases hm' : m s' with ⟨r', t'⟩
  rw [hm, hm'] at halike₁ hsame
  rw [hm] at hvalue hfault hleaves
  rw [hm'] at hleaves'
  obtain ⟨u, hu, hunseen⟩ := hnoted hm
  obtain ⟨u', hu', hunseen'⟩ := hnoted hm'
  rw [hu, hu']
  refine ⟨halike₁.unseen hunseen hunseen', hsame, hvalue, hfault, ?_, ?_⟩
  · rw [hunseen.scopes]
    exact hleaves
  · rw [hunseen'.scopes]
    exact hleaves'

omit hE in
/-- The content of a root element is what the request gives. -/
theorem contentMeets {request : DocumentRequest} (hrequest : R.RequestMeets request) :
    R.ContentMeets (RootContent.ofValue R.env.rootScope request.content) := by
  have hroot := L.scope_of_own _ L.own_root
  have hblock {source : String} {line : Int} (hsource : R.source source) :
      R.Holds (.block ⟨source, some R.env.rootScope, line⟩) :=
    .leaf rfl (L.block source _ line hsource hroot)
  have hcontent := hrequest.content
  unfold RootContent.ofValue
  split
  · exact List.forall_mem_nil _
  · rename_i vs heq
    rw [heq] at hcontent
    exact (hcontent nofun).of_list
  · rename_i vs heq
    rw [heq] at hcontent
    exact (hcontent nofun).of_tuple
  · rename_i source heq
    exact hblock (hrequest.source source heq)
  · rename_i b heq
    rw [heq] at hcontent
    exact hblock (L.source_of_block b ((hcontent nofun).holds_of_leaf rfl))
  · rename_i hstr _
    have hheld := hcontent hstr
    split
    · exact hheld
    · exact List.forall_mem_singleton.mpr hheld

/-- The arguments and the content of the root element are gathered. -/
theorem gatherRoot (tag : QName) {args : List Value} (hargs : ∀ v ∈ args, R.Holds v)
    {content : RootContent} (hcontent : R.ContentMeets content) {parts : Parts}
    (hparts : R.PartsMeet d parts) :
    R.Obeys d (R.PartsMeet d) (Build.gatherRoot E R.env tag args content parts) := by
  unfold Build.gatherRoot
  refine .bind (feedAll L hE tag (yieldsAll L hargs) hparts) fun parts' hparts' => ?_
  cases content with
  | arguments vs => exact feedAll L hE tag (yieldsAll L hcontent) hparts'
  | block v =>
    exact chunks L hE (fun _ _ hacc hvs => feedAll L hE tag hvs hacc) hcontent lends_nil
      (L.scope_of_own _ L.own_root) hparts'

/-- **Building the root element of a document obeys the regime.** -/
theorem rootElement {request : DocumentRequest} (hrequest : R.RequestMeets request) (tag : QName) :
    R.Obeys d (R.Grows d) (Build.rootElement E R.env request tag) := by
  unfold Build.rootElement
  exact noteFault _ (elementWith L tag
    (gatherRoot L hE tag hrequest.args (contentMeets L hrequest) nofun))

omit hE in
/-- The parameters come to stand inside a scope that the content names. -/
theorem encloseParameters {request : DocumentRequest} (hrequest : R.RequestMeets request) :
    R.Obeys d (fun _ => True) (Build.encloseParameters R.env request.content) := by
  have hcontent := hrequest.content
  unfold Build.encloseParameters
  split
  · rename_i source scope line heq
    rw [heq] at hcontent
    have hheld : R.held (.block ⟨source, some scope, line⟩) := (hcontent nofun).holds_of_leaf rfl
    have hscope : R.scope scope := (L.scope_iff scope).mp (L.members.block _ scope hheld rfl)
    refine onScopes (g := fun s => .ok ((), s.enclose R.env.rootScope scope)) (fun s => rfl)
      fun s s' hscopes => ?_
    obtain ⟨halike, hleaves, hleaves'⟩ := hscopes.enclose L L.own_root hscope
    exact .inl ⟨(), _, _, rfl, rfl, trivial, halike, hleaves, hleaves'⟩
  · exact .pure trivial

omit hE in
theorem rootName (root : Value) : R.Obeys d (fun _ => True) (Build.rootName root) := by
  unfold Build.rootName
  split
  · exact .pure trivial
  · exact .lift (fun _ _ => trivial) fun fault h => refusedName L (QName.parse_error h)

omit hE in
theorem bindRoot (tag : QName) : R.Obeys d (fun _ => True) (Build.bindRoot tag) := by
  unfold Build.bindRoot
  split
  · exact .pure trivial
  · rename_i uri _
    have hbound : R.Obeys d (fun _ => True) (Build.addBinding "" uri >>= fun _ => pure ()) :=
      .bind (addBinding L "" uri) fun _ _ => .pure trivial
    rwa [← Build.addBinding_bind] at hbound

omit L hE in
/-- The document of a root element is made, or refused, whatever was reported and counted. -/
theorem documentOf {config : DocumentConfig} {request : DocumentRequest}
    (hdeclared : ∀ root s fault, (Build.documentOf R.env config request root s).1 = .error fault →
      R.fault fault) (logger : Logger) {root : Element} (hroot : R.Grows d root) :
    R.Obeys d (R.Grows d) (do
      let doc ← Build.documentOf R.env config request root
      Build.record logger .info "Document build completed"
        [("elements_built", .int (doc.metrics.getD {}).elementsBuilt),
          ("diagnostic_count", .int doc.diagnostics.length)]
      pure doc.root) := by
  rcases Build.documentOf_cases R.env config request root with hmade | ⟨fault, hrefused⟩
  · refine .of_unseen hroot fun s => ?_
    obtain ⟨doc, hdoc, hsame⟩ := hmade s
    rw [Build.bind_of_ok hdoc, ← hsame]
    exact ⟨rfl, rfl, rfl, rfl⟩
  · intro s s' halike
    have hfault : R.fault fault := hdeclared root s fault (by rw [hrefused])
    rw [Build.bind_of_error (hrefused s), Build.bind_of_error (hrefused s')]
    exact Regime.Obeys.fail hfault s s' halike

/-- **Building a document obeys the regime, as far as its root element goes.** -/
theorem document {config : DocumentConfig} {request : DocumentRequest}
    (hdeclared : ∀ root s fault, (Build.documentOf R.env config request root s).1 = .error fault →
      R.fault fault) (hrequest : R.RequestMeets request) :
    R.Obeys d (R.Grows d) (Document.root <$> Build.document E R.env config request) := by
  have hshape : Document.root <$> Build.document E R.env config request = (do
      let tag ← Build.rootName request.root
      Build.bindRoot tag
      let logger := Build.documentLogger R.env tag
      Build.record logger .info "Starting document build"
        [("content_type", .str request.content.typeName),
          ("parameter_count", .int (Fields.ofList request.parameters).length)]
      Build.encloseParameters R.env request.content
      let root ← Build.rootElement E R.env request tag
      let doc ← Build.documentOf R.env config request root
      Build.record logger .info "Document build completed"
        [("elements_built", .int (doc.metrics.getD {}).elementsBuilt),
          ("diagnostic_count", .int doc.diagnostics.length)]
      pure doc.root) := by
    simp only [Build.document, Build.documentNamed, map_bind, map_pure]
  rw [hshape]
  refine .bind (rootName L request.root) fun tag _ => .bind (bindRoot L tag) fun _ _ => ?_
  refine .bind (record _ _ _ _) fun _ _ => .bind (encloseParameters L hrequest) fun _ _ => ?_
  exact .bind (rootElement L hE hrequest tag) fun root hroot => documentOf hdeclared _ hroot

end

end Obedience

end TagScript
