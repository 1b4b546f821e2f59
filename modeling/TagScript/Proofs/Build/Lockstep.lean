import TagScript.Build.Document

/-!
# Running in lockstep

Building an element, running a statement and running a block are made of few kinds of steps. A
relation between steps under one environment and steps under another that holds of these, and is
kept when steps are put together, holds of everything that is made of them. The relation is a
parameter, so what is said here once is used for invariants of one run as well as for comparing two.

* `BuildView` — the parts of the state that the course of a run depends on; `BuildSight` — those of
  them that single steps look at, which are all but the streams.
* `Elementwise` — what a relation must satisfy: it holds of the small steps of elements and is kept
  by putting steps together.
* `Elementwise.element`, `Elementwise.perform` — it holds of building an element and of doing what a
  command does.
* `Elementwise.ActingIn` — it holds of what statements do in a scope, and so of running them there.
* `Elementwise.Framing` — it holds of what is done around the root element of a document.
* `Stepwise` — it holds of all changes of the scopes.
* `Stepwise.Acting` — it holds of invoking commands too, and so of running statements.
* `Lockstep` — it also holds of the small steps that running a block begins and ends with.
* **`Lockstep.Invoking.engine`** — it holds of running blocks, however deep they are nested.
* `Build.SameUnless` — such a relation: a step does the same as another one, or fails in some way.
-/

namespace TagScript

/-- The parts of the state of a build that its course depends on. -/
structure BuildView where
  /-- The namespace bindings. -/
  registry : Registry
  /-- The scopes. -/
  scopes : Scopes
  /-- The streams. -/
  streams : Streams
  /-- The commands that statements invoke. -/
  commands : CommandTable
  /-- The number of elements being built. -/
  depth : Nat

/-- What the course of a build depends on in a state. -/
def BuildState.view (s : BuildState) : BuildView :=
  ⟨s.registry, s.scopes, s.streams, s.commands, s.depth⟩

/-- The parts of the state of a build that single steps look at, other than taking chunks. -/
structure BuildSight where
  /-- The namespace bindings. -/
  registry : Registry
  /-- The scopes. -/
  scopes : Scopes
  /-- The commands that statements invoke. -/
  commands : CommandTable
  /-- The number of elements being built. -/
  depth : Nat

/-- What single steps look at in a state. -/
def BuildState.sight (s : BuildState) : BuildSight :=
  ⟨s.registry, s.scopes, s.commands, s.depth⟩

/-- A relation between steps that come to values of the same type. -/
abbrev StepRelation :=
  ∀ {α : Type}, Build α → Build α → Prop

/-- Engines whose runs are related. -/
structure Engine.Related (R : StepRelation) (E E' : Engine) : Prop where
  /-- Running a block. -/
  run : ∀ block vars scope, R (E.run block vars scope) (E'.run block vars scope)
  /-- The text of a row of values. -/
  texts : ∀ vs, R (E.texts vs) (E'.texts vs)

/-- Engines are the same if the relation is one that only a step and itself stand in. -/
theorem Engine.Related.eq {R : StepRelation} {E E' : Engine} (h : Engine.Related R E E')
    (hR : ∀ {α : Type} {m m' : Build α}, R m m' → m = m') : E = E' := by
  cases E
  cases E'
  congr 1
  · funext block vars scope
    exact hR (h.run block vars scope)
  · funext vs
    exact hR (h.texts vs)

namespace Build

/-- Adds a binding, or fails and leaves the bindings as they are; says whether it is new. -/
def addBinding (pfx uri : String) : Build Bool := do
  let added ← lift (← read fun s => s.registry.add pfx uri)
  change fun s => { s with registry := added.2 }
  pure added.1

/-- What goes on after a binding was added. -/
theorem addBinding_bind {β : Type} (pfx uri : String) (f : Bool → Build β) :
    (do
      let added ← lift (← read fun s => s.registry.add pfx uri)
      change fun s => { s with registry := added.2 }
      f added.1) = addBinding pfx uri >>= f := by
  simp only [addBinding, bind_assoc, pure_bind]

/-- Adding a binding fails and changes nothing, or changes the bindings only. -/
theorem addBinding_cases (pfx uri : String) (s : BuildState) :
    (∃ created registry, s.registry.add pfx uri = .ok (created, registry) ∧
      addBinding pfx uri s = (.ok created, { s with registry })) ∨
      ∃ fault, addBinding pfx uri s = (.error fault, s) := by
  rw [addBinding, read_bind]
  cases hadd : s.registry.add pfx uri with
  | ok added => exact .inl ⟨added.1, added.2, rfl, rfl⟩
  | error fault => exact .inr ⟨fault, rfl⟩

end Build

section

variable {R : StepRelation} (value : ∀ {α : Type} (a : α), R (pure a) (pure a))
  (bind : ∀ {α β : Type} {m m' : Build α} {f f' : α → Build β}, R m m' →
    (∀ a, R (f a) (f' a)) → R (m >>= f) (m' >>= f'))
include value bind

/-- A relation that is kept by putting steps together holds of a row of steps, one for each item. -/
theorem Build.foldlM_related {α β : Type} {f f' : α → β → Build α}
    (h : ∀ a b, R (f a b) (f' a b)) (items : List β) (a : α) :
    R (items.foldlM f a) (items.foldlM f' a) := by
  induction items generalizing a with
  | nil => exact value a
  | cons b items ih =>
    rw [List.foldlM_cons, List.foldlM_cons]
    exact bind (h a b) fun a' => ih a'

/-- If it holds of taking each argument, and of reading how many chunks are left, it holds of taking
a row of arguments. -/
theorem Build.feedAll_related {env env' : BuildEnv} {E E' : Engine}
    (hread : R (read fun s => s.streams.count) (read fun s => s.streams.count)) (tag : QName)
    (hfeed : ∀ limit parts v,
      R (feed E env tag limit parts v) (feed E' env' tag limit parts v))
    (vs : List Value) (parts : Parts) :
    R (feedAll E env tag vs parts) (feedAll E' env' tag vs parts) :=
  bind hread fun left => foldlM_related value bind (hfeed (left + 1)) vs parts

end

open Build in
/-- A relation between the steps under two environments that the small steps of elements stand in,
and that is kept when steps are put together. -/
structure Elementwise (env env' : BuildEnv) (R : StepRelation) : Prop where
  /-- The parameters stand in the same scope. -/
  rootScope : env'.rootScope = env.rootScope
  /-- Content is marked by the same word. -/
  contentMarker : env'.settings.contentMarker = env.settings.contentMarker
  /-- Coming to a value. -/
  value : ∀ {α : Type} (a : α), R (pure a) (pure a)
  /-- Failing. -/
  fault : ∀ {α : Type} (f : Fault), @R α (fail f) (fail f)
  /-- Two steps one after the other. -/
  bind : ∀ {α β : Type} {m m' : Build α} {f f' : α → Build β}, R m m' → (∀ a, R (f a) (f' a)) →
    R (m >>= f) (m' >>= f')
  /-- A step one element deeper. -/
  deeper : ∀ {α : Type} {m m' : Build α}, R m m' → R (deeper m) (deeper m')
  /-- Reading what single steps look at. -/
  read : ∀ {α : Type} (f : BuildSight → α), R (read fun s => f s.sight) (read fun s => f s.sight)
  /-- Adding a binding. -/
  addBinding : ∀ pfx uri, R (addBinding pfx uri) (addBinding pfx uri)
  /-- Taking a chunk of a stream. -/
  nextChunk : ∀ id, R (nextChunk id) (nextChunk id)
  /-- Taking a row of arguments, each of which is taken in lockstep. -/
  feedRow : ∀ {E E' : Engine} (tag : QName),
    (∀ limit parts v, R (feed E env tag limit parts v) (feed E' env' tag limit parts v)) →
      ∀ vs parts, R (feedAll E env tag vs parts) (feedAll E' env' tag vs parts)
  /-- Reading a variable. -/
  lookup : ∀ scope name pos, R (lookup env scope name pos) (lookup env' scope name pos)
  /-- Dropping an argument. -/
  malformed : ∀ tag problem value,
    R (malformed env tag problem value) (malformed env' tag problem value)
  /-- Binding a prefix. -/
  bindPrefix : ∀ tag pfx uri, R (bindPrefix env tag pfx uri) (bindPrefix env' tag pfx uri)
  /-- Adding an attribute. -/
  addAttribute : ∀ tag parts name value,
    R (addAttribute env tag parts name value) (addAttribute env' tag parts name value)
  /-- Reporting a name whose prefix is unbound. -/
  warnUnresolved : ∀ logMessage logFields message details,
    R (warn env logMessage logFields message .unresolvedPrefix details)
      (warn env' logMessage logFields message .unresolvedPrefix details)
  /-- Checking how deep elements are nested. -/
  checkDepth : ∀ tag, R (checkDepth env tag) (checkDepth env' tag)
  /-- Noting a finished element. -/
  noteElement : ∀ e, R (noteElement env e) (noteElement env' e)

open Build in
/-- A relation between the steps under two environments that the small steps of statements stand in
too. -/
structure Stepwise (env env' : BuildEnv) (R : StepRelation) : Prop
    extends Elementwise env env' R where
  /-- Changing the scopes. -/
  changeScopes : ∀ f, R (changeScopes f) (changeScopes f)

open Build in
/-- A relation between the steps under two environments that the small steps of running blocks
stand in too. -/
structure Lockstep (env env' : BuildEnv) (R : StepRelation) : Prop
    extends Stepwise env env' R where
  /-- Making a template. -/
  template : ∀ source, R (template env source) (template env' source)
  /-- Making a scope. -/
  newScope : ∀ parent vars, R (newScope parent vars) (newScope parent vars)
  /-- Noting a block that came to its end. -/
  noteBlock : ∀ kind yielded, R (noteBlock env kind yielded) (noteBlock env' kind yielded)

namespace Elementwise

variable {env env' : BuildEnv} {R : StepRelation} {E E' : Engine}

/-! ## Steps put together -/

section

variable (L : Elementwise env env' R)
include L

theorem lift {α : Type} (r : Except Fault α) : R (Build.lift r) (Build.lift r) := by
  cases r with
  | ok a => exact L.value a
  | error f => exact L.fault f

/-- Reading something that may fail. -/
theorem readLift {α : Type} (f : BuildSight → Except Fault α) :
    R (do Build.lift (← Build.read fun s => f s.sight))
      (do Build.lift (← Build.read fun s => f s.sight)) :=
  L.bind (L.read f) fun r => L.lift r

/-- A row of steps, one for each item. -/
theorem foldlM {α β : Type} {f f' : α → β → Build α} (h : ∀ a b, R (f a b) (f' a b))
    (items : List β) (a : α) : R (items.foldlM f a) (items.foldlM f' a) :=
  Build.foldlM_related L.value L.bind h items a

/-! ## Arguments of elements -/

theorem declare (tag : QName) (parts : Parts) (head : Head) (n : Namespace) :
    R (Build.declare env tag parts head n) (Build.declare env' tag parts head n) := by
  unfold Build.declare
  split
  · exact L.bind (L.bindPrefix tag "" n.uri) fun _ => L.value parts
  · dsimp only
    split
    · exact L.bind (L.malformed tag _ _) fun _ => L.value parts
    · refine L.bind (L.addAttribute tag parts _ n.uri) fun parts' => ?_
      exact L.bind (L.bindPrefix tag _ n.uri) fun _ => L.value parts'

theorem attributeName (tag : QName) (head : Head) :
    R (Build.attributeName env tag head) (Build.attributeName env' tag head) := by
  cases head with
  | name q => exact L.value (some q)
  | word text =>
    unfold Build.attributeName
    dsimp only
    split
    · exact L.bind (L.malformed tag _ _) fun _ => L.value none
    · refine L.bind (L.read fun v => v.registry.resolveAttribute (argumentName text)) fun r => ?_
      refine L.bind (L.lift r) fun p => ?_
      split
      · exact L.bind (L.warnUnresolved _ _ _ _) fun _ => L.value (some p.1)
      · exact L.value (some p.1)

theorem child? (tag : QName) (v : Value) :
    R (Build.child? env tag v) (Build.child? env' tag v) := by
  unfold Build.child?
  split
  case h_9 => exact L.bind (L.lift _) fun e => L.value _
  case h_10 => exact L.bind (L.malformed tag _ _) fun _ => L.value none
  case h_11 => exact L.bind (L.malformed tag _ _) fun _ => L.value none
  all_goals exact L.value _

theorem addChildren (tag : QName) (parts : Parts) (vs : List Value) :
    R (Build.addChildren env tag parts vs) (Build.addChildren env' tag parts vs) := by
  induction vs generalizing parts with
  | nil => exact L.value parts
  | cons v vs ih => exact L.bind (L.child? tag v) fun child => ih _

theorem finish (tag : QName) (parts : Parts) :
    R (Build.finish env tag parts) (Build.finish env' tag parts) := by
  unfold Build.finish
  split
  · exact L.value parts
  · exact L.bind (L.malformed tag _ _) fun _ => L.value _

theorem elementName (tag : Value) : R (Build.elementName tag) (Build.elementName tag) := by
  unfold Build.elementName
  split
  · exact L.value _
  · rename_i text
    exact L.readLift fun v => v.registry.nameOf text
  · exact L.lift _

variable (hE : Engine.Related R E E')
include hE

/-- The texts of a value and of a row of values. -/
theorem attributeText_and_texts :
    (∀ v, R (Build.attributeText E env v) (Build.attributeText E' env' v)) ∧
      ∀ vs, R (Build.attributeTexts E env vs) (Build.attributeTexts E' env' vs) := by
  apply Build.attributeText.mutual_induct
  case case1 =>
    intro vs ih
    rw [Build.attributeText, Build.attributeText]
    exact ih
  case case2 =>
    intro vs ih
    rw [Build.attributeText, Build.attributeText]
    exact ih
  case case3 => exact fun e => L.value e.text
  case case4 => exact fun s => L.value s
  case case5 => exact L.value ""
  case case6 =>
    intro v _ _ _ _ _ hcontent
    simp only [Build.attributeText, hcontent, if_true]
    rw [L.rootScope]
    exact L.bind (hE.run v [] env.rootScope) fun vs => hE.texts vs
  case case7 =>
    intro v _ _ _ _ _ hplain
    simp only [Build.attributeText, hplain]
    exact L.value v.plain
  case case8 => exact L.value ""
  case case9 =>
    intro v vs ihv ihvs
    rw [Build.attributeTexts, Build.attributeTexts]
    refine L.bind ihv fun first => ?_
    exact L.bind ihvs fun rest => L.value (first ++ rest)

theorem addContent (tag : QName) (parts : Parts) (block : Value) :
    R (Build.addContent E env tag parts block) (Build.addContent E' env' tag parts block) := by
  unfold Build.addContent
  rw [L.rootScope]
  exact L.bind (hE.run block [] env.rootScope) fun vs => L.addChildren tag parts vs

theorem takeFirst (tag : QName) (parts : Parts) (v : Value) :
    R (Build.takeFirst E env tag parts v) (Build.takeFirst E' env' tag parts v) := by
  unfold Build.takeFirst
  split
  case h_1 => exact L.value parts
  case h_2 => exact L.value _
  case h_3 => exact L.value _
  case h_4 => exact L.addChildren tag parts _
  case h_5 => exact L.addChildren tag parts _
  case h_6 => exact L.addChildren tag parts _
  case h_7 =>
    split
    · exact L.addContent hE tag parts v
    · exact L.bind (L.malformed tag _ _) fun _ => L.value parts

theorem takeSecond (tag : QName) (parts : Parts) (head : Head) (v : Value) :
    R (Build.takeSecond E env tag parts head v) (Build.takeSecond E' env' tag parts head v) := by
  unfold Build.takeSecond
  rw [L.contentMarker]
  refine L.bind (L.lift _) fun reading => ?_
  match reading with
  | .content => exact L.addContent hE tag parts v
  | .declaration n => exact L.declare tag parts head n
  | .flag => exact L.takeFirst hE tag parts v
  | .attribute =>
    refine L.bind (L.attributeName tag head) fun name => ?_
    refine L.bind ((L.attributeText_and_texts hE).1 v) fun text => ?_
    cases name with
    | some name => exact L.addAttribute tag parts name text
    | none => exact L.value parts
  | .nothing => exact L.bind (L.malformed tag _ _) fun _ => L.value parts

theorem take (tag : QName) (parts : Parts) (v : Value) :
    R (Build.take E env tag parts v) (Build.take E' env' tag parts v) := by
  unfold Build.take
  split
  · exact L.takeFirst hE tag parts v
  · exact L.takeSecond hE tag _ _ v

theorem feed (tag : QName) (limit : Nat) (parts : Parts) (v : Value) :
    R (Build.feed E env tag limit parts v) (Build.feed E' env' tag limit parts v) := by
  -- the limit goes down both for the arguments of a chunk and for the chunks behind it
  induction limit generalizing parts v with
  | zero =>
    cases v with
    | stream id => exact L.fault .exhausted
    | _ => exact L.take hE tag parts _
  | succ limit ih =>
    cases v with
    | stream id =>
      rw [Build.feed, Build.feed]
      refine L.bind (L.nextChunk id) fun chunk => ?_
      cases chunk with
      | none => exact L.value parts
      | some chunk =>
        refine L.bind (L.foldlM (fun parts v => ih parts v) chunk parts) fun parts' => ?_
        exact ih parts' (.stream id)
    | _ => exact L.take hE tag parts _

theorem feedAll (tag : QName) (vs : List Value) (parts : Parts) :
    R (Build.feedAll E env tag vs parts) (Build.feedAll E' env' tag vs parts) :=
  L.feedRow tag (fun limit parts v => L.feed hE tag limit parts v) vs parts

omit hE in
theorem elementWith (tag : QName) {gather gather' : Parts → Build Parts}
    (hgather : ∀ parts, R (gather parts) (gather' parts)) :
    R (Build.elementWith env tag gather) (Build.elementWith env' tag gather') := by
  unfold Build.elementWith
  refine L.bind (L.deeper ?_) fun e => L.bind (L.noteElement e) fun _ => L.value e
  refine L.bind (L.checkDepth tag) fun _ => L.bind (hgather {}) fun parts => ?_
  exact L.bind (L.finish tag parts) fun parts' => L.value _

/-- **Elements are built in lockstep.** -/
theorem element (tag : Value) (args : List Value) :
    R (Build.element E env tag args) (Build.element E' env' tag args) := by
  unfold Build.element
  refine L.bind (L.elementName tag) fun name => ?_
  exact L.elementWith name fun parts => L.feedAll hE name args parts

/-! ## Commands -/

omit hE in
theorem argument (i : Build.Invocation) (n : Nat) :
    R (Build.argument i n) (Build.argument i n) := by
  unfold Build.argument
  split
  · exact L.value _
  · exact L.fault _

theorem newElement (i : Build.Invocation) :
    R (Build.newElement E env i) (Build.newElement E' env' i) := by
  unfold Build.newElement
  split
  · exact L.fault _
  · exact L.fault _
  · exact L.bind (L.element hE _ _) fun e => L.value _

theorem forEach (block : Value) (scope : ScopeId) (items : List Value) :
    R (Build.forEach E block scope items) (Build.forEach E' block scope items) := by
  induction items with
  | nil => exact L.value []
  | cons item items ih =>
    refine L.bind (hE.run block [("_", item)] scope) fun first => ?_
    exact L.bind ih fun more => L.value (first ++ more)

theorem forEachItem (i : Build.Invocation) :
    R (Build.forEachItem E i) (Build.forEachItem E' i) := by
  unfold Build.forEachItem
  split
  · split
    · exact L.bind (L.forEach hE _ _ _) fun vs => L.value _
    · exact L.fault _
  · exact L.fault _

omit hE in
theorem newNamespace (i : Build.Invocation) :
    R (Build.newNamespace i) (Build.newNamespace i) := by
  unfold Build.newNamespace
  split
  · exact L.fault _
  · exact L.lift _
  · exact L.fault _

omit hE in
theorem declarePrefix (i : Build.Invocation) :
    R (Build.declarePrefix i) (Build.declarePrefix i) := by
  unfold Build.declarePrefix
  refine L.bind (L.argument i 0) fun pfx => L.bind (L.argument i 1) fun uri => ?_
  split
  · rename_i pfx
    have hbound := L.bind (L.addBinding pfx uri.plain) fun created => L.value (Value.bool created)
    rwa [← Build.addBinding_bind] at hbound
  · exact L.bind (L.lift _) fun _ => L.fault _

/-- Every command acts in lockstep, if those that set variables and register commands do or are
other ones. -/
theorem act (i : Build.Invocation) {a : Act}
    (hset : ∀ name v, R (Build.setVariable i.scope name v) (Build.setVariable i.scope name v))
    (hregister : a = .registerConstant →
      R (Build.registerConstant i) (Build.registerConstant i)) :
    R (Build.act E env i a) (Build.act E' env' i a) := by
  cases a with
  | newElement => exact L.newElement hE i
  | newNamespace => exact L.newNamespace i
  | forEachItem => exact L.forEachItem hE i
  | buildElement =>
    refine L.bind (L.argument i 0) fun tag => ?_
    exact L.bind (L.element hE tag _) fun e => L.value _
  | listPrefixes => exact L.read fun v => Value.list (v.registry.prefixes.map .str)
  | uriOfPrefix =>
    refine L.bind (L.argument i 0) fun v => ?_
    split
    · rename_i pfx
      exact L.read fun v => Value.str ((v.registry.get? pfx).getD "none")
    · split
      · exact L.value _
      · exact L.fault _
  | bindPrefix => exact L.declarePrefix i
  | runBlock vars =>
    refine L.bind (L.argument i 0) fun block => ?_
    exact L.bind (hE.run block _ i.scope) fun vs => L.value _
  | runBlockTwice =>
    refine L.bind (L.argument i 0) fun block => ?_
    exact L.bind (hE.run block [] i.scope) fun vs => L.value _
  | setVariable =>
    refine L.bind (L.argument i 0) fun name => L.bind (L.argument i 1) fun v => ?_
    exact L.bind (hset name v) fun _ => L.value Value.null
  | listVariables =>
    exact L.read fun v => Value.list
      ((((v.scopes.visible i.scope).map (·.1)).mergeSort fun a b => decide (a ≤ b)).map .str)
  | invokedName => exact L.value _
  | nestingDepth => exact L.read fun v => Value.int v.depth
  | registerConstant => exact L.bind (hregister rfl) fun _ => L.value Value.null
  | fail f => exact L.fault f

/-- **What a command does, it does in lockstep.** -/
theorem perform {c : Command} (i : Build.Invocation)
    (hset : ∀ name v, R (Build.setVariable i.scope name v) (Build.setVariable i.scope name v))
    (hregister : c.action = .acting .registerConstant →
      R (Build.registerConstant i) (Build.registerConstant i)) :
    R (Build.perform E env c i) (Build.perform E' env' c i) := by
  unfold Build.perform
  split
  · exact L.lift _
  · rename_i a ha
    exact L.act hE i hset fun heq => hregister (heq ▸ ha)

end

/-! ## Statements -/

/-- A relation that holds of what statements do in a scope, too. -/
structure ActingIn (env env' : BuildEnv) (R : StepRelation) (scope : ScopeId) : Prop
    extends Elementwise env env' R where
  /-- Setting a variable. -/
  setVariable : ∀ name v, R (Build.setVariable scope name v) (Build.setVariable scope name v)
  /-- Invoking a command. -/
  invoke : ∀ {E E' : Engine}, Engine.Related R E E' → ∀ (name : String) (args : List Value),
    R (Build.invoke E env ⟨name, args, scope⟩) (Build.invoke E' env' ⟨name, args, scope⟩)

theorem interpolate (L : Elementwise env env' R) (scope : ScopeId) (pos : Position)
    (parts : List StringPart) :
    R (Build.interpolate env scope pos parts) (Build.interpolate env' scope pos parts) := by
  induction parts with
  | nil => exact L.value []
  | cons part parts ih =>
    match part with
    | .char c => exact L.bind ih fun cs => L.value _
    | .variable name =>
      refine L.bind (L.lookup scope name pos) fun v => ?_
      exact L.bind ih fun cs => L.value _
    | .unterminated => exact L.fault _

namespace ActingIn

variable {scope : ScopeId} (L : ActingIn env env' R scope) (hE : Engine.Related R E E')
include L hE

/-- Operands, their rows, statements and rows of statements. -/
theorem operand_and_statement :
    (∀ o, R (Build.operand E env scope o) (Build.operand E' env' scope o)) ∧
      (∀ ss, R (Build.statements E env scope ss) (Build.statements E' env' scope ss)) ∧
      (∀ s, R (Build.statement E env scope s) (Build.statement E' env' scope s)) ∧
      (∀ rows, R (Build.rows E env scope rows) (Build.rows E' env' scope rows)) ∧
      ∀ os, R (Build.operands E env scope os) (Build.operands E' env' scope os) := by
  apply Build.operand.mutual_induct
  case case1 =>
    intro v
    rw [Build.operand, Build.operand]
    exact L.value v
  case case2 =>
    intro parts pos
    rw [Build.operand, Build.operand]
    exact L.bind (L.interpolate scope pos parts) fun cs => L.value _
  case case3 =>
    intro name members pos
    rw [Build.operand, Build.operand]
    refine L.bind (L.lookup scope name pos) fun v => ?_
    exact L.read fun view => v.path view.scopes.parent? members
  case case4 =>
    intro source line
    rw [Build.operand, Build.operand]
    exact L.value _
  case case5 =>
    intro body ih
    rw [Build.operand, Build.operand]
    exact L.bind ih fun vs => L.value _
  case case6 =>
    intro type o ih
    rw [Build.operand, Build.operand]
    refine L.bind ih fun v => ?_
    refine L.bind (L.read fun view => view.registry) fun registry => ?_
    exact L.lift _
  case case7 =>
    intro fault
    rw [Build.operand, Build.operand]
    exact L.fault fault
  case case8 =>
    intro command content ih
    rw [Build.statement, Build.statement]
    refine L.bind ih fun args => ?_
    cases command with
    | some name => exact L.bind (L.invoke hE name args) fun v => L.value _
    | none => exact L.value _
  case case9 =>
    rw [Build.statements, Build.statements]
    exact L.value []
  case case10 =>
    intro s ss ihs ihss
    rw [Build.statements, Build.statements]
    refine L.bind ihs fun vs => ?_
    exact L.bind ihss fun rest => L.value _
  case case11 =>
    rw [Build.rows, Build.rows]
    exact L.value []
  case case12 =>
    intro row more ihrow ihmore
    rw [Build.rows, Build.rows]
    refine L.bind ihrow fun vs => ?_
    exact L.bind ihmore fun rest => L.value _
  case case13 =>
    rw [Build.operands, Build.operands]
    exact L.value []
  case case14 =>
    intro o os iho ihos
    rw [Build.operands, Build.operands]
    refine L.bind iho fun v => ?_
    exact L.bind ihos fun vs => L.value _

/-- **Statements are run in lockstep.** -/
theorem statement (s : Statement) :
    R (Build.statement E env scope s) (Build.statement E' env' scope s) :=
  (L.operand_and_statement hE).2.2.1 s

/-! ## Tasks -/

theorem routineStep (step : Step) :
    R (Build.routineStep E env scope step) (Build.routineStep E' env' scope step) := by
  cases step with
  | element tag args =>
    refine L.bind (L.read fun v => v.registry.nameOfValue tag) fun r => ?_
    refine L.bind (L.lift r) fun name => ?_
    exact L.bind (L.element hE (.name name) args) fun e => L.value _
  | text v => exact L.value _
  | get name default => exact L.read fun v => some ((v.scopes.lookup? scope name).getD default)
  | set name v => exact L.bind (L.setVariable (.str name) v) fun _ => L.value none
  | qname text =>
    refine L.bind (L.read fun v => v.registry.nameOf text) fun r => ?_
    exact L.bind (L.lift r) fun name => L.value _
  | prefixes => exact L.read fun v => some (Value.list (v.registry.prefixes.map .str))
  | value v => exact L.value _
  | fail message => exact L.fault _

theorem routineSteps (steps : List Step) :
    R (Build.routineSteps E env scope steps) (Build.routineSteps E' env' scope steps) := by
  induction steps with
  | nil => exact L.value []
  | cons step steps ih =>
    refine L.bind (L.routineStep hE step) fun v => ?_
    exact L.bind ih fun vs => L.value _

theorem firstOfSteps (steps : List Step) :
    R (Build.firstOfSteps E env scope steps) (Build.firstOfSteps E' env' scope steps) := by
  induction steps with
  | nil => exact L.value _
  | cons step steps ih =>
    refine L.bind (L.routineStep hE step) fun v => ?_
    cases v with
    | some v => exact L.value v
    | none => exact ih

theorem routine (mode : RoutineMode) (steps : List Step) :
    R (Build.routine E env scope mode steps) (Build.routine E' env' scope mode steps) := by
  cases mode with
  | single => exact L.bind (L.firstOfSteps hE steps) fun v => L.value _
  | list => exact L.bind (L.routineSteps hE steps) fun vs => L.value _
  | onDemand => exact L.bind (L.routineSteps hE steps) fun vs => L.value _

theorem task (t : Task) :
    R (Build.task E env scope t) (Build.task E' env' scope t) := by
  cases t with
  | statement s => exact L.statement hE s
  | routine mode steps => exact L.routine hE mode steps
  | operation o => exact L.lift _

/-- Tasks are done in lockstep if the end of their block is noted in lockstep. -/
theorem drain {σ : Type} {consume consume' : σ → List Value → Build σ}
    (hnote : ∀ kind yielded,
      R (Build.noteBlock env kind yielded) (Build.noteBlock env' kind yielded))
    (hconsume : ∀ acc vs, R (consume acc vs) (consume' acc vs)) (kind : String)
    (tasks : List Task) (yielded : Nat) (acc : σ) :
    R (Build.drain E env scope kind consume tasks yielded acc)
      (Build.drain E' env' scope kind consume' tasks yielded acc) := by
  induction tasks generalizing yielded acc with
  | nil => exact L.bind (hnote kind yielded) fun _ => L.value acc
  | cons t tasks ih =>
    refine L.bind (L.task hE t) fun vs => ?_
    exact L.bind (hconsume acc vs) fun acc' => ih _ acc'

end ActingIn

/-! ## Documents -/

/-- The root element is gathered in lockstep if its content is run in lockstep. -/
theorem gatherRoot (L : Elementwise env env' R) (hE : Engine.Related R E E') {tag : QName}
    (hchunks : ∀ v parts,
      R (Build.chunks E env v [] env.rootScope
          (fun parts vs => Build.feedAll E env tag vs parts) parts)
        (Build.chunks E' env' v [] env.rootScope
          (fun parts vs => Build.feedAll E' env' tag vs parts) parts))
    (args : List Value) (content : RootContent) (parts : Parts) :
    R (Build.gatherRoot E env tag args content parts)
      (Build.gatherRoot E' env' tag args content parts) := by
  unfold Build.gatherRoot
  rw [L.rootScope]
  refine L.bind (L.feedAll hE tag args parts) fun parts' => ?_
  cases content with
  | arguments vs => exact L.feedAll hE tag vs parts'
  | block v => exact hchunks v parts'

/-- A relation that holds of what is done around the root element of a document too. -/
structure Framing (env env' : BuildEnv) (R : StepRelation) : Prop
    extends Elementwise env env' R where
  /-- The build is the same one. -/
  correlationId : env'.correlationId = env.correlationId
  /-- Writing a record that is not critical. -/
  record : ∀ logger level message extra, level ≠ .critical →
    R (Build.record logger level message extra) (Build.record logger level message extra)
  /-- Letting the parameters hide the variables of a scope. -/
  enclose : ∀ outer : ScopeId,
    R (Build.change fun s => { s with scopes := s.scopes.enclose env.rootScope outer })
      (Build.change fun s => { s with scopes := s.scopes.enclose env.rootScope outer })
  /-- Noting a fault in the log. -/
  noteFault : ∀ {α : Type} (logger : Logger) {m m' : Build α}, R m m' →
    R (Build.noteFault logger m) (Build.noteFault logger m')
  /-- Making the document of a root element. -/
  documentOf : ∀ config request root,
    R (Build.documentOf env config request root) (Build.documentOf env' config request root)

namespace Framing

variable (L : Framing env env' R)
include L

theorem encloseParameters (v : Value) :
    R (Build.encloseParameters env v) (Build.encloseParameters env' v) := by
  unfold Build.encloseParameters
  rw [L.rootScope]
  split
  · exact L.enclose _
  · exact L.value ()

theorem rootName (root : Value) : R (Build.rootName root) (Build.rootName root) := by
  unfold Build.rootName
  split
  · exact L.value _
  · exact L.lift _

theorem bindRoot (tag : QName) : R (Build.bindRoot tag) (Build.bindRoot tag) := by
  unfold Build.bindRoot
  split
  · exact L.value ()
  · rename_i uri _
    have hbound := L.bind (L.addBinding "" uri) fun _ => L.value ()
    rwa [← Build.addBinding_bind] at hbound

theorem logger (tag : QName) : Build.documentLogger env' tag = Build.documentLogger env tag := by
  rw [Build.documentLogger, Build.documentLogger, BuildEnv.logger, BuildEnv.logger, L.correlationId]

theorem rootElement
    (hgather : ∀ tag args content parts, R (Build.gatherRoot E env tag args content parts)
      (Build.gatherRoot E' env' tag args content parts)) (request : DocumentRequest) (tag : QName) :
    R (Build.rootElement E env request tag) (Build.rootElement E' env' request tag) := by
  unfold Build.rootElement
  rw [L.logger, L.rootScope]
  exact L.noteFault _ (L.elementWith tag fun parts => hgather tag request.args _ parts)

/-- **Documents are built in lockstep if their root elements are gathered in lockstep.** -/
theorem document
    (hgather : ∀ tag args content parts, R (Build.gatherRoot E env tag args content parts)
      (Build.gatherRoot E' env' tag args content parts)) (config : DocumentConfig)
    (request : DocumentRequest) :
    R (Build.document E env config request) (Build.document E' env' config request) := by
  unfold Build.document
  refine L.bind (L.rootName request.root) fun tag => L.bind (L.bindRoot tag) fun _ => ?_
  unfold Build.documentNamed
  rw [L.logger]
  refine L.bind (L.record _ _ _ _ nofun) fun _ => ?_
  refine L.bind (L.encloseParameters request.content) fun _ => ?_
  refine L.bind (L.rootElement hgather request tag) fun root => ?_
  refine L.bind (L.documentOf config request root) fun d => ?_
  exact L.bind (L.record _ _ _ _ nofun) fun _ => L.value d

end Framing

end Elementwise

namespace Stepwise

variable {env env' : BuildEnv} {R : StepRelation} {E E' : Engine}

/-! ## Statements in any scope -/

/-- Variables are set in lockstep where all changes of the scopes are made in lockstep. -/
theorem setVariable (L : Stepwise env env' R) (scope : ScopeId) (name v : Value) :
    R (Build.setVariable scope name v) (Build.setVariable scope name v) := by
  unfold Build.setVariable
  split
  · exact L.changeScopes _
  · split
    · exact L.fault _
    · exact L.fault _

/-- What a command does is done in lockstep, if registering commands is or it does not do that. -/
theorem perform (L : Stepwise env env' R) (hE : Engine.Related R E E') {c : Command}
    (i : Build.Invocation) (hregister : c.action = .acting .registerConstant →
      R (Build.registerConstant i) (Build.registerConstant i)) :
    R (Build.perform E env c i) (Build.perform E' env' c i) :=
  L.toElementwise.perform hE i (L.setVariable i.scope) hregister

/-- A relation that holds of invoking commands too. -/
structure Acting (env env' : BuildEnv) (R : StepRelation) : Prop
    extends Stepwise env env' R where
  /-- Invoking a command. -/
  invoke : ∀ {E E' : Engine}, Engine.Related R E E' → ∀ i : Build.Invocation,
    R (Build.invoke E env i) (Build.invoke E' env' i)

/-- Commands are invoked in lockstep if registering commands is in lockstep. -/
theorem acting (L : Stepwise env env' R)
    (hregister : ∀ i, R (Build.registerConstant i) (Build.registerConstant i)) :
    Acting env env' R where
  toStepwise := L
  invoke hE i := by
    unfold Build.invoke
    refine L.bind (L.read fun v => v.commands.lookup i.name) fun r => ?_
    exact L.bind (L.lift r) fun c => L.perform hE i fun _ => hregister i

/-- What statements do is done in lockstep in every scope. -/
theorem Acting.actingIn (L : Acting env env' R) (scope : ScopeId) :
    Elementwise.ActingIn env env' R scope where
  toElementwise := L.toElementwise
  setVariable := L.setVariable scope
  invoke hE name args := L.invoke hE ⟨name, args, scope⟩

namespace Acting

variable (L : Acting env env' R) (hE : Engine.Related R E E')
include L hE

theorem operand_and_statement (scope : ScopeId) :
    (∀ o, R (Build.operand E env scope o) (Build.operand E' env' scope o)) ∧
      (∀ ss, R (Build.statements E env scope ss) (Build.statements E' env' scope ss)) ∧
      (∀ s, R (Build.statement E env scope s) (Build.statement E' env' scope s)) ∧
      (∀ rows, R (Build.rows E env scope rows) (Build.rows E' env' scope rows)) ∧
      ∀ os, R (Build.operands E env scope os) (Build.operands E' env' scope os) :=
  (L.actingIn scope).operand_and_statement hE

theorem statement (scope : ScopeId) (s : Statement) :
    R (Build.statement E env scope s) (Build.statement E' env' scope s) :=
  (L.actingIn scope).statement hE s

theorem routineStep (scope : ScopeId) (step : Step) :
    R (Build.routineStep E env scope step) (Build.routineStep E' env' scope step) :=
  (L.actingIn scope).routineStep hE step

theorem task (scope : ScopeId) (t : Task) :
    R (Build.task E env scope t) (Build.task E' env' scope t) :=
  (L.actingIn scope).task hE t

theorem drain {σ : Type} {consume consume' : σ → List Value → Build σ}
    (hnote : ∀ kind yielded,
      R (Build.noteBlock env kind yielded) (Build.noteBlock env' kind yielded))
    (hconsume : ∀ acc vs, R (consume acc vs) (consume' acc vs)) (scope : ScopeId) (kind : String)
    (tasks : List Task) (yielded : Nat) (acc : σ) :
    R (Build.drain E env scope kind consume tasks yielded acc)
      (Build.drain E' env' scope kind consume' tasks yielded acc) :=
  (L.actingIn scope).drain hE hnote hconsume kind tasks yielded acc

end Acting

end Stepwise

/-! ## Blocks -/

namespace Lockstep

variable {env env' : BuildEnv} {R : StepRelation} {E E' : Engine}

/-- A relation that holds of running blocks and of invoking commands. -/
structure Invoking (env env' : BuildEnv) (R : StepRelation) : Prop
    extends Lockstep env env' R, Stepwise.Acting env env' R

/-- Commands are invoked in lockstep if registering commands is in lockstep. -/
theorem invoking (L : Lockstep env env' R)
    (hregister : ∀ i, R (Build.registerConstant i) (Build.registerConstant i)) :
    Invoking env env' R where
  toLockstep := L
  invoke := (L.acting hregister).invoke

namespace Invoking

variable (L : Invoking env env' R) (hE : Engine.Related R E E')
include L hE

omit hE in
theorem start (block : Value) (vars : List (String × Value)) (outer : ScopeId) :
    R (Build.start env block vars outer) (Build.start env' block vars outer) := by
  unfold Build.start
  split
  · refine L.bind (L.template _) fun t => ?_
    exact L.bind (L.newScope _ vars) fun scope => L.value _
  · exact L.bind (L.newScope outer vars) fun scope => L.value _
  · exact L.bind (L.newScope outer vars) fun scope => L.value _
  · exact L.bind (L.newScope outer vars) fun scope => L.value _
  · exact L.fault _

theorem drain {σ : Type} {consume consume' : σ → List Value → Build σ}
    (hconsume : ∀ acc vs, R (consume acc vs) (consume' acc vs)) (scope : ScopeId) (kind : String)
    (tasks : List Task) (yielded : Nat) (acc : σ) :
    R (Build.drain E env scope kind consume tasks yielded acc)
      (Build.drain E' env' scope kind consume' tasks yielded acc) :=
  L.toActing.drain hE L.noteBlock hconsume scope kind tasks yielded acc

theorem chunks {σ : Type} {consume consume' : σ → List Value → Build σ}
    (hconsume : ∀ acc vs, R (consume acc vs) (consume' acc vs)) (block : Value)
    (vars : List (String × Value)) (outer : ScopeId) (acc : σ) :
    R (Build.chunks E env block vars outer consume acc)
      (Build.chunks E' env' block vars outer consume' acc) :=
  L.bind (L.start block vars outer) fun c => L.drain hE hconsume c.scope c.kind c.tasks _ acc

theorem run (block : Value) (vars : List (String × Value)) (outer : ScopeId) :
    R (Build.run E env block vars outer) (Build.run E' env' block vars outer) :=
  L.chunks hE (fun acc vs => L.value (acc ++ vs)) block vars outer []

theorem gatherRoot (tag : QName) (args : List Value) (content : RootContent) (parts : Parts) :
    R (Build.gatherRoot E env tag args content parts)
      (Build.gatherRoot E' env' tag args content parts) := by
  refine L.toStepwise.gatherRoot hE (fun v parts => ?_) args content parts
  exact L.chunks hE (fun parts vs => L.feedAll hE tag vs parts) v [] env.rootScope parts

omit hE

/-- **Blocks are run in lockstep, however deep they are nested.** -/
theorem engine (n : Nat) :
    Engine.Related R (TagScript.engine env n) (TagScript.engine env' n) := by
  induction n with
  | zero => exact ⟨fun _ _ _ => L.fault .exhausted, fun _ => L.fault .exhausted⟩
  | succ n ih =>
    refine ⟨fun block vars scope => L.run ih block vars scope, fun vs => ?_⟩
    exact (L.attributeText_and_texts ih).2 vs

end Invoking

/-- A relation that holds of all that building a document is made of. -/
structure Documenting (env env' : BuildEnv) (R : StepRelation) : Prop
    extends Invoking env env' R, Elementwise.Framing env env' R

namespace Documenting

variable (L : Documenting env env' R) (hE : Engine.Related R E E')
include L hE

theorem rootElement (request : DocumentRequest) (tag : QName) :
    R (Build.rootElement E env request tag) (Build.rootElement E' env' request tag) :=
  L.toFraming.rootElement (fun tag args content parts => L.gatherRoot hE tag args content parts)
    request tag

/-- **Documents are built in lockstep.** -/
theorem document (config : DocumentConfig) (request : DocumentRequest) :
    R (Build.document E env config request) (Build.document E' env' config request) :=
  L.toFraming.document (fun tag args content parts => L.gatherRoot hE tag args content parts)
    config request

end Documenting

end Lockstep

/-! ## The same, but for a fault -/

namespace Build

/-- Whether a step does the same as another one, or fails with a fault of this kind. -/
def SameUnless (p : Fault → Prop) {α : Type} (m m' : Build α) : Prop :=
  ∀ s, m s = m' s ∨ ∃ fault, (m s).1 = .error fault ∧ p fault

variable {p : Fault → Prop} {α β : Type} {m m' : Build α}

theorem sameUnless_refl (m : Build α) : SameUnless p m m :=
  fun _ => .inl rfl

theorem SameUnless.bind {f f' : α → Build β} (h : SameUnless p m m')
    (hf : ∀ a, SameUnless p (f a) (f' a)) : SameUnless p (m >>= f) (m' >>= f') := by
  intro s
  rcases h s with hsame | ⟨fault, hfails, hfault⟩
  · rcases hrun : m' s with ⟨fault | a, s₁⟩
    · rw [hrun] at hsame
      rw [bind_of_error hsame, bind_of_error hrun]
      exact .inl rfl
    · rw [hrun] at hsame
      rw [bind_of_ok hsame, bind_of_ok hrun]
      exact hf a s₁
  · have hfailed : m s = (.error fault, (m s).2) := Prod.ext hfails rfl
    rw [bind_of_error hfailed]
    exact .inr ⟨fault, rfl, hfault⟩

theorem SameUnless.deeper (h : SameUnless p m m') : SameUnless p (deeper m) (deeper m') := by
  intro s
  unfold Build.deeper
  rcases h { s with depth := s.depth + 1 } with hsame | hfails
  · rw [hsame]
    exact .inl rfl
  · exact .inr hfails

theorem SameUnless.noteFault (logger : Logger) (h : SameUnless p m m') :
    SameUnless p (noteFault logger m) (noteFault logger m') := by
  intro s
  unfold Build.noteFault
  rcases h s with hsame | ⟨fault, hfails, hfault⟩
  · rw [hsame]
    exact .inl rfl
  · refine .inr ⟨fault, ?_, hfault⟩
    rcases hrun : m s with ⟨r, s₁⟩
    rw [hrun] at hfails
    obtain rfl : r = .error fault := hfails
    dsimp only
    split <;> rfl

theorem lockstep_sameUnless (p : Fault → Prop) (env : BuildEnv) :
    Lockstep env env (SameUnless p) where
  rootScope := rfl
  contentMarker := rfl
  value _ := sameUnless_refl _
  fault _ := sameUnless_refl _
  bind := SameUnless.bind
  deeper := SameUnless.deeper
  read _ := sameUnless_refl _
  addBinding _ _ := sameUnless_refl _
  changeScopes _ := sameUnless_refl _
  newScope _ _ := sameUnless_refl _
  nextChunk _ := sameUnless_refl _
  feedRow := feedAll_related (fun _ => sameUnless_refl _) SameUnless.bind (sameUnless_refl _)
  template _ := sameUnless_refl _
  lookup _ _ _ := sameUnless_refl _
  malformed _ _ _ := sameUnless_refl _
  bindPrefix _ _ _ := sameUnless_refl _
  addAttribute _ _ _ _ := sameUnless_refl _
  warnUnresolved _ _ _ _ := sameUnless_refl _
  checkDepth _ := sameUnless_refl _
  noteElement _ := sameUnless_refl _
  noteBlock _ _ := sameUnless_refl _

/-- Every step of a build does the same as itself, so builds differ only where their engines do. -/
theorem documenting_sameUnless (p : Fault → Prop) (env : BuildEnv) :
    Lockstep.Documenting env env (SameUnless p) where
  toInvoking := (lockstep_sameUnless p env).invoking fun _ => sameUnless_refl _
  correlationId := rfl
  record _ _ _ _ _ := sameUnless_refl _
  enclose _ := sameUnless_refl _
  noteFault logger _ _ h := h.noteFault logger
  documentOf _ _ _ := sameUnless_refl _

end Build

end TagScript
