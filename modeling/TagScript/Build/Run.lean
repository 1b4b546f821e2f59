import TagScript.Build.Compile
import TagScript.Script.Evaluate

/-!
# Running blocks

A running block is a row of tasks: the statements of a script or template, or a routine or an
operation as one task. Each task runs only when the values of the one before it have been taken, so
whoever takes the values can act on them first. `Build.chunks` hands the values of each task to a
consumer, `Build.next` takes one task at a time, and `engine` closes the circle from elements back
to blocks.
-/

namespace TagScript

/-- What a block does in one go. -/
inductive Task where
  /-- A statement. -/
  | statement (s : Statement)
  /-- A routine. -/
  | routine (mode : RoutineMode) (steps : List Step)
  /-- An operation. -/
  | operation (o : Operation)

/-- A block that is running. -/
structure Course where
  /-- What is left to do. -/
  tasks : List Task
  /-- The scope it runs in. -/
  scope : ScopeId
  /-- How many values it has yielded. -/
  yielded : Nat
  /-- The kind of the block. -/
  kind : String

namespace Build

/-! ## Routines -/

/-- What a step of a routine yields, if anything. -/
def routineStep (E : Engine) (env : BuildEnv) (scope : ScopeId) : Step → Build (Option Value)
  | .element tag args => do
    let name ← lift (← read fun s => s.registry.nameOfValue tag)
    pure (some (.element (← element E env (.name name) args)))
  | .text v => pure (some (.text v.textOrEmpty))
  | .get name default => read fun s => some ((s.scopes.lookup? scope name).getD default)
  | .set name v => do
    setVariable scope (.str name) v
    pure none
  | .qname text => do
    let name ← lift (← read fun s => s.registry.nameOf text)
    pure (some (.name name))
  | .prefixes => read fun s => some (.list (s.registry.prefixes.map .str))
  | .value v => pure (some v)
  | .fail message => fail (.runtime (.complaint message))

/-- What the steps of a routine yield. -/
def routineSteps (E : Engine) (env : BuildEnv) (scope : ScopeId) :
    List Step → Build (List Value)
  | [] => pure []
  | step :: rest => do
    let v ← routineStep E env scope step
    let vs ← routineSteps E env scope rest
    pure (v.toList ++ vs)

/-- What the first step that yields something yields; the steps after it are not done. -/
def firstOfSteps (E : Engine) (env : BuildEnv) (scope : ScopeId) : List Step → Build Value
  | [] => pure .null
  | step :: rest => do
    match ← routineStep E env scope step with
    | some v => pure v
    | none => firstOfSteps E env scope rest

/-- What a routine yields. -/
def routine (E : Engine) (env : BuildEnv) (scope : ScopeId) (mode : RoutineMode)
    (steps : List Step) : Build (List Value) := do
  match mode with
  | .single => pure (← firstOfSteps E env scope steps).spread
  | .list | .onDemand => pure (Value.spreadAll (← routineSteps E env scope steps))

/-! ## Courses -/

/-- What a task yields. -/
def task (E : Engine) (env : BuildEnv) (scope : ScopeId) : Task → Build (List Value)
  | .statement s => statement E env scope s
  | .routine mode steps => routine E env scope mode steps
  | .operation o => lift (o.outcome.map fun result => (Value.ofJson result).spread)

/-- Makes a block ready to run, in a new scope with variables inside its own scope or else in
`outer`. -/
def start (env : BuildEnv) (block : Value) (vars : List (String × Value)) (outer : ScopeId) :
    Build Course := do
  match block with
  | .block b =>
    let t ← template env b.source
    let scope ← newScope (b.scope.getD outer) vars
    pure ⟨(Script.ofTemplate t).map .statement, scope, 0, block.typeName⟩
  | .template t =>
    let scope ← newScope outer vars
    pure ⟨(Script.ofTemplate t).map .statement, scope, 0, block.typeName⟩
  | .routine mode steps =>
    let scope ← newScope outer vars
    pure ⟨[.routine mode steps], scope, 0, block.typeName⟩
  | .operation o =>
    let scope ← newScope outer vars
    pure ⟨[.operation o], scope, 0, block.typeName⟩
  | v => fail (.runtime (.notBlock v.typeName))

/-- Counts a block that came to its end, and notes it in the log. -/
def noteBlock (env : BuildEnv) (kind : String) (yielded : Nat) : Build Unit := do
  count fun m => { m with blocksExecuted := m.blocksExecuted + 1 }
  record (env.logger "block_executor") .debug "Block executed"
    [("block_type", .str kind), ("value_count", .int yielded)]

/-- The values of the next task, if one is left, and the course after it. -/
def next (E : Engine) (env : BuildEnv) (c : Course) : Build (Option (List Value × Course)) :=
  match c.tasks with
  | [] => do
    noteBlock env c.kind c.yielded
    pure none
  | t :: ts => do
    let vs ← task E env c.scope t
    pure (some (vs, { c with tasks := ts, yielded := c.yielded + vs.length }))

/-- A block whose values are taken one task at a time. -/
inductive Pull where
  /-- Nothing was taken yet: the block, its variables and the scope it runs in. -/
  | waiting (block : Value) (vars : List (String × Value)) (outer : ScopeId)
  /-- The block is running. -/
  | running (c : Course)
  /-- The block came to its end or failed. -/
  | ended

/-- The values of the next task, if one is left. A block that failed has no more. -/
def Pull.next (E : Engine) (env : BuildEnv) (p : Pull) (s : BuildState) :
    Except Fault (Option (List Value)) × Pull × BuildState :=
  let step : Build (Option (List Value × Course)) :=
    match p with
    | .waiting block vars outer => do Build.next E env (← start env block vars outer)
    | .running c => Build.next E env c
    | .ended => pure none
  match step s with
  | (.ok (some (vs, c)), s) => (.ok (some vs), .running c, s)
  | (.ok none, s) => (.ok none, .ended, s)
  | (.error fault, s) => (.error fault, .ended, s)

/-- Does all tasks, handing the values of each one to a consumer. -/
def drain {σ : Type} (E : Engine) (env : BuildEnv) (scope : ScopeId) (kind : String)
    (consume : σ → List Value → Build σ) : List Task → Nat → σ → Build σ
  | [], yielded, acc => do
    noteBlock env kind yielded
    pure acc
  | t :: ts, yielded, acc => do
    let vs ← task E env scope t
    drain E env scope kind consume ts (yielded + vs.length) (← consume acc vs)

/-- Runs a block, handing the values of each task to a consumer. -/
def chunks {σ : Type} (E : Engine) (env : BuildEnv) (block : Value)
    (vars : List (String × Value)) (outer : ScopeId) (consume : σ → List Value → Build σ)
    (acc : σ) : Build σ := do
  let c ← start env block vars outer
  drain E env c.scope c.kind consume c.tasks c.yielded acc

/-- Runs a block and collects what it yields. -/
def run (E : Engine) (env : BuildEnv) (block : Value) (vars : List (String × Value))
    (outer : ScopeId) : Build (List Value) :=
  chunks E env block vars outer (fun acc vs => pure (acc ++ vs)) []

end Build

/-! ## The engine -/

/-- The engine that runs blocks nested up to a bound. Beyond it a run is given up. -/
def engine (env : BuildEnv) : Nat → Engine
  | 0 => ⟨fun _ _ _ => Build.fail .exhausted, fun _ => Build.fail .exhausted⟩
  | n + 1 =>
    ⟨fun block vars scope => Build.run (engine env n) env block vars scope,
      fun vs => Build.attributeTexts (engine env n) env vs⟩

/-- How deep blocks may be nested. -/
def nestingBound : Nat := 100000

end TagScript
