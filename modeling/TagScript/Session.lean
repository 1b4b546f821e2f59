import TagScript.Build.Document

/-!
# Sessions

A session builds many documents with one configuration, one table of commands and one cache of
templates. Each build has its own bindings, variables, reports and counts.
-/

namespace TagScript

/-- What builds share. -/
structure Session where
  /-- The configuration. -/
  config : Config
  /-- The build identifier that all builds get. -/
  correlationId : Option String := none
  /-- The commands that statements invoke. -/
  commands : CommandTable
  /-- The table that tells command words from element words, if it is another one. -/
  words : Option CommandTable := none
  /-- The kept templates. -/
  cache : Cache := .empty
  /-- The scopes of all builds so far, and of blocks that were written outside of builds. -/
  scopes : Scopes := .empty
  /-- The streams that were made outside of builds. -/
  streams : Streams := .empty
  /-- The number of finished documents. -/
  builds : Nat := 0
  /-- The log. -/
  log : Log := .empty .critical

namespace Session

/-- The table of commands that a configuration asks for. -/
def newTable (config : Config) (clock : Clock) : CommandTable :=
  let foldsCase := config.runtime.foldsCommandCase.truthy
  if config.runtime.hasBuiltins.truthy then .withBuiltins foldsCase clock else .empty foldsCase

/-- A session with a table of commands. A table without commands is not invoked from: statements
then invoke from a table of their own, as the configuration asks for it. -/
def withTable (config : Config) (clock : Clock) (table : CommandTable) : Session :=
  if table.size = 0 then { config, commands := newTable config clock }
  else { config, commands := table }

/-- A session with the commands that the configuration asks for. -/
def ofConfig (config : Config) (clock : Clock) : Session :=
  { config, commands := newTable config clock }

/-- A session whose users may register commands. If it begins without commands, the table they
register to only tells command words from element words. -/
def create (config : Config) (clock : Clock) (correlationId : Option String) : Session :=
  let table := newTable config clock
  { config, correlationId, commands := table, words := if table.size = 0 then some table else none }

/-- The table that the users of the session register commands to. -/
def table (s : Session) : CommandTable :=
  s.words.getD s.commands

/-- The session with another table for its users. -/
def setTable (s : Session) (table : CommandTable) : Session :=
  match s.words with
  | some _ => { s with words := some table }
  | none => { s with commands := table }

/-- Forgets the kept templates. -/
def clearCache (s : Session) : Session :=
  { s with cache := s.cache.clear }

/-- What the session has done so far. -/
def statistics (s : Session) : List (String × Nat) := [
  ("total_builds", s.builds), ("template_cache_size", s.cache.size),
  ("template_cache_hits", s.cache.hits), ("template_cache_misses", s.cache.misses),
  ("commands", s.table.size)]

/-- Makes a template for many builds. -/
def compile (s : Session) (source : String) (bindings : List (String × String)) :
    Except Fault Template × Session :=
  match Registry.ofList bindings with
  | .error fault => (.error fault, s)
  | .ok registry =>
    let host : CompilerHost := ⟨true, some s.table.canResolve, some s.table.version⟩
    let c := Cache.compile s.config.compiler.settings host registry source s.cache
    (c.outcome,
      { s with
        cache := c.cache
        log := c.events.foldl (fun log e => log.add (e.logRecord s.correlationId)) s.log })

/-- Begins a build with parameters and bindings. -/
def beginBuild (s : Session) (parameters : List (String × Value)) (registry : Registry) :
    Except Fault (BuildEnv × BuildState) :=
  (s.scopes.add none parameters).map fun (rootScope, scopes) =>
    (⟨s.config.settings, rootScope, s.correlationId⟩,
      { registry, scopes, streams := s.streams, commands := s.commands, words := s.words
        cache := s.cache, log := s.log })

/-- The session after a build. Blocks that were written in it may be run later, so its scopes stay.
-/
def endBuild (s : Session) (state : BuildState) : Session :=
  { s with
    scopes := state.scopes
    streams := state.streams
    commands := state.commands
    words := state.words
    cache := state.cache
    log := state.log }

/-- Builds a document. -/
def buildDocument (s : Session) (request : DocumentRequest) : Except Fault Document × Session :=
  match s.beginBuild request.parameters .empty with
  | .error fault => (.error fault, s)
  | .ok (env, state) =>
    let E := engine env nestingBound
    let (result, state) := Build.document E env s.config.document request state
    let s := s.endBuild state
    match result with
    | .ok d => (.ok d, { s with builds := s.builds + 1 })
    | .error fault => (.error fault, s)

/-- What comes of a build is what comes of building the document. -/
theorem buildDocument_fst {s : Session} {request : DocumentRequest} {env : BuildEnv}
    {state : BuildState} (h : s.beginBuild request.parameters .empty = .ok (env, state)) :
    (s.buildDocument request).1 =
      (Build.document (engine env nestingBound) env s.config.document request state).1 := by
  unfold buildDocument
  rw [h]
  rcases hresult : Build.document (engine env nestingBound) env s.config.document request state with
    ⟨fault | d, state'⟩ <;> simp only [hresult]

/-- After a build the session goes on with what the build left. -/
theorem buildDocument_snd {s : Session} {request : DocumentRequest} {env : BuildEnv}
    {state : BuildState} (h : s.beginBuild request.parameters .empty = .ok (env, state)) :
    ∃ builds, (s.buildDocument request).2 =
      { s.endBuild
          (Build.document (engine env nestingBound) env s.config.document request state).2 with
        builds } := by
  unfold buildDocument
  rw [h]
  rcases hresult : Build.document (engine env nestingBound) env s.config.document request state with
    ⟨fault | d, state'⟩
  · exact ⟨s.builds, by simp only [hresult]; rfl⟩
  · exact ⟨s.builds + 1, by simp only [hresult]; rfl⟩

/-- Builds an element outside of any document. -/
def buildElement (s : Session) (tag : Value) (args : List Value)
    (bindings : List (String × String)) (parameters : List (String × Value)) :
    Except Fault Element × Session :=
  match s.beginBuild parameters .empty with
  | .error fault => (.error fault, s)
  | .ok (env, state) =>
    match Registry.ofList bindings with
    | .error fault => (.error fault, s)
    | .ok registry =>
      let (result, state) :=
        Build.element (engine env nestingBound) env tag args { state with registry }
      (result, s.endBuild state)

end Session

/-- Builds a document with a session of its own. -/
def buildDocument (config : Config) (clock : Clock) (request : DocumentRequest) :
    Except Fault Document :=
  ((Session.create config clock none).buildDocument request).1

/-- Makes a template with a session of its own. -/
def compileTemplate (config : Config) (clock : Clock) (source : String)
    (bindings : List (String × String)) : Except Fault Template :=
  ((Session.create config clock none).compile source bindings).1

end TagScript
