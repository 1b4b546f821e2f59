import TagScript.Build.Element
import TagScript.Value.Member

/-!
# Invoking commands

What acting commands do with their arguments in the scope where they are invoked.
-/

namespace TagScript.Build

/-- What a command is invoked with. -/
structure Invocation where
  /-- The name as written. -/
  name : String
  /-- The arguments. -/
  args : List Value
  /-- The scope. -/
  scope : ScopeId

/-- The argument at a place, which must exist. -/
def argument (i : Invocation) (n : Nat) : Build Value :=
  match i.args[n]? with
  | some v => pure v
  | none => fail .outOfRange

/-- Refuses a value where a name is looked up: one that can change cannot be looked up at all, and
any other that is no text is no name. -/
def refuseName {α : Type} (v : Value) : Build α :=
  fail (if v.canBeKey then .missingMember else .wrongKind .unsupported)

/-- Spreads the lists among arguments, one level deep. -/
def spreadLists (args : List Value) : List Value :=
  args.flatMap fun v =>
    match v with
    | .list vs => vs
    | v => [v]

/-- Builds the element that the first argument names; lists among the other arguments are spread. -/
def newElement (E : Engine) (env : BuildEnv) (i : Invocation) : Build Value :=
  match i.args with
  | [] | .null :: _ => fail (.runtime (.elementNameRequired i.name))
  | tag :: args => do
    let tag := match tag with
      | .name q => Value.name q
      | v => .str v.plain
    pure (.element (← element E env tag (spreadLists args)))

/-- Makes the namespace of the only argument. -/
def newNamespace (i : Invocation) : Build Value :=
  match i.args with
  | [.null] => fail (.runtime (.oneUriRequired i.name))
  | [v] => lift ((Namespace.of v.plain).map .ns)
  | _ => fail (.runtime (.oneUriRequired i.name))

/-- Runs a block once for each item, with the item as the variable `_`. -/
def forEach (E : Engine) (block : Value) (scope : ScopeId) : List Value → Build (List Value)
  | [] => pure []
  | item :: rest => do
    let first ← E.run block [("_", item)] scope
    let more ← forEach E block scope rest
    pure (first ++ more)

/-- Runs the block that is the second argument once for each item of the first. -/
def forEachItem (E : Engine) (i : Invocation) : Build Value :=
  match i.args with
  | [items, block] =>
    if block.isContentBlock then do pure (.list (← forEach E block i.scope items.items))
    else fail (.runtime (.blockRequired i.name))
  | _ => fail (.runtime (.itemsAndBlockRequired i.name))

/-- Binds a prefix; yields whether the binding is new. -/
def declarePrefix (i : Invocation) : Build Value := do
  let pfx ← argument i 0
  let uri ← argument i 1
  match pfx with
  | .str pfx => do
    let (created, registry) ← lift (← read fun s => s.registry.add pfx uri.plain)
    change fun s => { s with registry }
    pure (.bool created)
  | pfx => do
    let _ ← lift (Namespace.of uri.plain)
    refuseName pfx

/-- Sets a variable. -/
def setVariable (scope : ScopeId) (name : Value) (v : Value) : Build Unit :=
  match name with
  | .str s => changeScopes fun scopes => scopes.set scope s v
  | name => if name.truthy then fail .missingMember else fail (.invalid .emptyVariableName)

/-- The name of a new command. What counts as false is no name, and whatever is not made of parts
cannot be one. -/
def commandName : Value → Build String
  | .str s => pure s
  | v =>
    if !v.truthy then fail (.invalid .commandName)
    else
      match v with
      | .list _ | .tuple _ | .map _ => fail .missingMember
      | _ => fail (.wrongKind .unsupported)

/-- Registers a command that yields a value. -/
def registerConstant (i : Invocation) : Build Unit := do
  let name ← commandName (← argument i 0)
  let v ← argument i 1
  let table ← lift (← read fun s => s.commands.register (.constant name v []))
  change fun s => { s with commands := table }

/-- What an acting command does. -/
def act (E : Engine) (env : BuildEnv) (i : Invocation) : Act → Build Value
  | .newElement => newElement E env i
  | .newNamespace => newNamespace i
  | .forEachItem => forEachItem E i
  | .buildElement => do
    pure (.element (← element E env (← argument i 0) (i.args.drop 1)))
  | .listPrefixes => read fun s => .list (s.registry.prefixes.map .str)
  | .uriOfPrefix => do
    match ← argument i 0 with
    | .str pfx => read fun s => .str ((s.registry.get? pfx).getD "none")
    | v => if v.canBeKey then pure (.str "none") else refuseName v
  | .bindPrefix => declarePrefix i
  | .runBlock vars => do pure (.list (← E.run (← argument i 0) vars i.scope))
  | .runBlockTwice => do
    let vs ← E.run (← argument i 0) [] i.scope
    pure (.list (vs ++ vs))
  | .setVariable => do
    setVariable i.scope (← argument i 0) (← argument i 1)
    pure .null
  | .listVariables => read fun s =>
    let names := (s.scopes.visible i.scope).map (·.1)
    .list ((names.mergeSort fun a b => decide (a ≤ b)).map .str)
  | .invokedName => pure (.str i.name)
  | .nestingDepth => read fun s => .int s.depth
  | .registerConstant => do
    registerConstant i
    pure .null
  | .fail fault => fail fault

/-- Does what a command does. -/
def perform (E : Engine) (env : BuildEnv) (c : Command) (i : Invocation) : Build Value :=
  match c.action with
  | .plain f => lift (c.applyPlain f i.args)
  | .acting a => act E env i a

/-- Invokes the command behind a name. -/
def invoke (E : Engine) (env : BuildEnv) (i : Invocation) : Build Value := do
  let c ← lift (← read fun s => s.commands.lookup i.name)
  perform E env c i

end TagScript.Build
