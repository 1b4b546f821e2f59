import TagScript.Build

/-!
# Templates during a build

A block is made ready against the bindings that are in force when it is reached. What happens
meanwhile is written to the log, and element words with an unbound prefix are reported, also when
the template was kept from before.
-/

namespace TagScript

/-- The log record of an event: the part of the program, whether it belongs to a build, the level,
the message and the fields. -/
def CompileEvent.logRecord (correlationId : Option String) : CompileEvent → LogRecord
  | .tokenized tokens lines =>
    (Logger.mk "script_tokenizer" correlationId []).record .debug "Tokenization completed"
      [("token_count", .int tokens), ("line_count", .int lines)] false
  | .classified words =>
    (Logger.mk "token_classifier" correlationId []).record .debug "Classified block tokens"
      [("dud_count", .int words), ("top_level_only", .bool true)] false
  | .unresolved word =>
    (Logger.mk "source_rewriter" none []).record .warning
      "Unresolved namespace prefix, keeping unqualified name"
      (("element_name", .str word.text) :: word.pos.fields) false
  | .compiled words tokens =>
    (Logger.mk "block_compiler" correlationId []).record .debug "Block compiled"
      [("dud_count", .int words), ("token_count", .int tokens)] false

/-- The reports that events give rise to. -/
def CompileEvent.reports (correlationId : Option String) (events : List CompileEvent) :
    List Diagnostic :=
  (unresolvedWords events).map fun word =>
    Diagnostic.unresolvedWord word.text word.pos correlationId

namespace Build

/-- What making templates asks of a build: which words are commands, and the version of that. -/
def compilerHost (s : BuildState) : CompilerHost :=
  let table := s.words.getD s.commands
  ⟨true, some table.canResolve, some table.version⟩

/-- The state after a request for a template. -/
def afterCompilation (env : BuildEnv) (s : BuildState) (c : Compilation) : BuildState :=
  { s with
    cache := c.cache
    log := c.events.foldl (fun log e => log.add (e.logRecord env.correlationId)) s.log
    diagnostics := s.diagnostics ++ (CompileEvent.reports env.correlationId c.events).toArray }

/-- The counts after a request for a template. -/
def countTemplate (found : Bool) (t : Template) (m : Metrics) : Metrics :=
  let m := { m with wordsRewritten := m.wordsRewritten + t.words.length }
  if found then { m with cacheHits := m.cacheHits + 1 }
  else { m with cacheMisses := m.cacheMisses + 1, blocksCompiled := m.blocksCompiled + 1 }

/-- The template of a block text under the bindings in force. -/
def template (env : BuildEnv) (source : String) : Build Template :=
  fun s =>
    let c := Cache.compile env.settings.compiler (compilerHost s) s.registry source s.cache
    let s := afterCompilation env s c
    match c.outcome with
    | .ok t => (.ok t, { s with metrics := countTemplate c.found t s.metrics })
    | .error fault => (.error fault, s)

/-- What is reported while a template is made or found is added to the reports. -/
theorem diagnostics_template (env : BuildEnv) (source : String) (s : BuildState) :
    (template env source s).2.diagnostics =
      s.diagnostics ++ (CompileEvent.reports env.correlationId
        (Cache.compile env.settings.compiler (compilerHost s) s.registry source
          s.cache).events).toArray := by
  unfold template
  dsimp only
  split <;> rfl

end Build

end TagScript
