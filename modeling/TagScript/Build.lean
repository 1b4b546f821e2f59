import TagScript.Command.Table
import TagScript.Config
import TagScript.Log
import TagScript.Scope
import TagScript.Stream
import TagScript.Template.Cache

/-!
# Builds

What a build is given and what it changes while it runs. A build step is a computation that changes
the state and either yields something or fails; what it changed before it failed stays changed.
-/

namespace TagScript

/-- The settings of a configuration that builds look at. -/
structure BuildSettings where
  /-- Whether reading a variable that nobody defined fails. -/
  strictVariables : Bool
  /-- Whether binding a prefix to a second URI fails. -/
  strictCollisions : Bool
  /-- What to do when an element gets an attribute twice, if the setting is one of the choices. -/
  duplicates : Option DuplicatePolicy
  /-- Whether an argument that cannot be used fails. -/
  strictArguments : Bool
  /-- How deep elements may be nested. -/
  maxDepth : Limit
  /-- That depth as it was configured. -/
  maxDepthSetting : Json
  /-- The word whose beginnings mark content, if the setting is a text. -/
  contentMarker : Option String
  /-- How templates are made and kept. -/
  compiler : CompilerSettings

/-- The limit that a setting stands for. -/
def Limit.ofJson : Json → Limit
  | .int i => .whole i
  | .bool b => .whole (if b then 1 else 0)
  | .float x => .real x
  | _ => .incomparable

/-- How templates are made and kept under a configuration. -/
def CompilerConfig.settings (c : CompilerConfig) : CompilerSettings where
  constructor := ⟨c.elementConstructor, c.elementConstructor.plain⟩
  caching := c.keepsTemplates.truthy
  limit := .ofJson c.cacheLimit

/-- The settings that builds look at. -/
def Config.settings (c : Config) : BuildSettings where
  strictVariables := c.runtime.strictVariables.truthy
  strictCollisions := match c.builder.collisions with
    | .known .strict => true
    | _ => false
  duplicates := match c.builder.duplicates with
    | .known policy => some policy
    | .other _ => none
  strictArguments := c.builder.strictArguments.truthy
  maxDepth := .ofJson c.builder.maxDepth
  maxDepthSetting := c.builder.maxDepth
  contentMarker := match c.builder.contentMarker with
    | .str s => some s
    | _ => none
  compiler := c.compiler.settings

/-- What a build is given. -/
structure BuildEnv where
  /-- The settings. -/
  settings : BuildSettings
  /-- The scope of the parameters, in which all others stand. -/
  rootScope : ScopeId
  /-- The build. -/
  correlationId : Option String

/-- What a build changes. -/
structure BuildState where
  /-- The namespace bindings. -/
  registry : Registry
  /-- The scopes. -/
  scopes : Scopes
  /-- The streams. -/
  streams : Streams
  /-- The commands that statements invoke. -/
  commands : CommandTable
  /-- The table that tells command words from element words, if it is another one. -/
  words : Option CommandTable
  /-- The kept templates. -/
  cache : Cache
  /-- The number of elements being built. -/
  depth : Nat := 0
  /-- The tolerated problems. -/
  diagnostics : Array Diagnostic := #[]
  /-- What was counted. -/
  metrics : Metrics := {}
  /-- The log. -/
  log : Log

/-- A step of a build. -/
abbrev Build (α : Type) := ExceptT Fault (StateM BuildState) α

namespace Build

/-- What comes of something that can fail without changing the build. -/
def lift {α : Type} (r : Except Fault α) : Build α :=
  fun s => (r, s)

/-- Fails. -/
def fail {α : Type} (f : Fault) : Build α :=
  fun s => (.error f, s)

/-- Reads the state. -/
def read {α : Type} (f : BuildState → α) : Build α :=
  fun s => (.ok (f s), s)

/-- Changes the state. -/
def change (f : BuildState → BuildState) : Build Unit :=
  fun s => (.ok (), f s)

/-- Runs a step one element deeper. However the step ends, the depth is as before. -/
def deeper {α : Type} (body : Build α) : Build α :=
  fun s =>
    let (r, s) := body { s with depth := s.depth + 1 }
    (r, { s with depth := s.depth - 1 })

/-- Changes the counts. -/
def count (f : Metrics → Metrics) : Build Unit :=
  change fun s => { s with metrics := f s.metrics }

/-- Writes to the log. -/
def record (logger : Logger) (level : LogLevel) (message : String)
    (extra : List (String × Json)) : Build Unit :=
  change fun s => { s with log := s.log.add (logger.record level message extra false) }

/-- Reports a tolerated problem. -/
def report (d : Diagnostic) : Build Unit :=
  change fun s => { s with diagnostics := s.diagnostics.push d }

/-- Changes the scopes, or fails and leaves them. -/
def changeScopes (f : Scopes → Except Fault Scopes) : Build Unit :=
  fun s =>
    match f s.scopes with
    | .ok scopes => (.ok (), { s with scopes })
    | .error fault => (.error fault, s)

/-- Takes the next chunk of a stream, if there is one. -/
def nextChunk (id : StreamId) : Build (Option (List Value)) :=
  fun s =>
    match s.streams.take? id with
    | some (chunk, streams) => (.ok (some chunk), { s with streams })
    | none => (.ok none, s)

/-- A new scope inside another one. -/
def newScope (parent : ScopeId) (vars : List (String × Value)) : Build ScopeId :=
  fun s =>
    match Scopes.ownOf vars with
    -- the store is not handed to a function while the state holds it, so it grows in place
    | .ok own => (.ok s.scopes.all.size,
        { s with scopes := ⟨s.scopes.all.push ⟨own, some parent⟩⟩ })
    | .error fault => (.error fault, s)

/-- A new scope is added to the scopes, or refused. -/
theorem newScope_apply (parent : ScopeId) (vars : List (String × Value)) (s : BuildState) :
    newScope parent vars s =
      match s.scopes.add (some parent) vars with
      | .ok (id, scopes) => (.ok id, { s with scopes })
      | .error fault => (.error fault, s) := by
  unfold newScope Scopes.add
  cases Scopes.ownOf vars <;> rfl

/-! ## Running a row of steps -/

/-- What comes of two steps one after the other. -/
theorem bind_apply {α β : Type} (body : Build α) (f : α → Build β) (s : BuildState) :
    (body >>= f) s =
      match body s with
      | (.ok a, s') => f a s'
      | (.error fault, s') => (.error fault, s') := by
  change (StateT.bind body (ExceptT.bindCont f) : StateM BuildState (Except Fault β)) s = _
  rw [StateT.bind]
  rcases body s with ⟨fault | a, s'⟩ <;> rfl

/-- A step that comes to a value hands it on. -/
theorem bind_of_ok {α β : Type} {body : Build α} {s s' : BuildState} {a : α}
    (h : body s = (.ok a, s')) (f : α → Build β) : (body >>= f) s = f a s' := by
  rw [bind_apply, h]

/-- A step that fails ends what goes on with it. -/
theorem bind_of_error {α β : Type} {body : Build α} {s s' : BuildState} {fault : Fault}
    (h : body s = (.error fault, s')) (f : α → Build β) :
    (body >>= f) s = (.error fault, s') := by
  rw [bind_apply, h]

/-- Two steps come to a value only if both do. -/
theorem exists_of_bind_ok {α β : Type} {body : Build α} {f : α → Build β} {s s' : BuildState}
    {b : β} (h : (body >>= f) s = (.ok b, s')) :
    ∃ a s₁, body s = (.ok a, s₁) ∧ f a s₁ = (.ok b, s') := by
  rw [bind_apply] at h
  split at h
  · rename_i a s₁ hbody
    exact ⟨a, s₁, hbody, h⟩
  · cases h

/-- What is read is handed on. -/
theorem read_bind {α β : Type} (f : BuildState → α) (g : α → Build β) (s : BuildState) :
    (read f >>= g) s = g (f s) s :=
  bind_of_ok rfl g

/-- What comes of a step one element deeper. -/
theorem deeper_of_eq {α : Type} {body : Build α} {s s₁ : BuildState} {r : Except Fault α}
    (h : body { s with depth := s.depth + 1 } = (r, s₁)) :
    deeper body s = (r, { s₁ with depth := s₁.depth - 1 }) := by
  rw [deeper, h]

/-- A step one element deeper comes to a value only if it does there. -/
theorem exists_of_deeper_ok {α : Type} {body : Build α} {s s' : BuildState} {a : α}
    (h : deeper body s = (.ok a, s')) :
    ∃ s₁, body { s with depth := s.depth + 1 } = (.ok a, s₁) := by
  cases hbody : body { s with depth := s.depth + 1 } with
  | mk r s₁ =>
    rw [deeper_of_eq hbody] at h
    exact ⟨s₁, by rw [(Prod.mk.inj h).1]⟩

end Build

/-- The logger of a part of the program in this build. -/
def BuildEnv.logger (env : BuildEnv) (component : String) : Logger :=
  ⟨component, env.correlationId, []⟩

end TagScript
