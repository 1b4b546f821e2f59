import TagScript.Proofs.Build.Documents
import TagScript.Proofs.Build.Primitives
import TagScript.Proofs.Template.Caching

/-!
# Requests for templates, counted with the runs that make them

Each run of a block text asks for its template once. The request is counted twice: by the cache, if
templates are kept, and among what is counted for the document. To say how many runs there are, a
build is compared with a copy of itself that also notes the beginning of each run in the log. The
copy comes to the same, so its notes tell how often runs began in the build.

* `Build.noteStart`, `notingEngine` — the copy: the engine that notes when the run of a block text
  begins.
* `Build.Added` — how the two ways of counting go on together.
* `Build.Tallies` — a step and its copy do the same, and the requests that the step adds are as many
  as the runs noted by the copy, and as many more as are noted by nobody.
* `Build.tallies_template` — a request for a template is one that nobody noted.
* `Build.related_notingEngine` — an engine and its copy do the same, and all runs are noted.
* **`Build.tallies_document`** — so do whole documents, whose own content is the one run that is not
  noted.
-/

namespace TagScript

/-- The state with a log of critical records. -/
def BuildState.noting (s : BuildState) (records : Array LogRecord) : BuildState :=
  { s with log := ⟨.critical, records⟩ }

/-- Records that are not critical are not kept among critical ones. -/
theorem Log.add_of_not_critical (record : LogRecord) (h : record.level ≠ .critical)
    (records : Array LogRecord) : (Log.mk .critical records).add record = ⟨.critical, records⟩ := by
  have hdropped : (Log.mk .critical records).keeps record.level = false := by
    unfold Log.keeps
    cases hlevel : record.level with
    | critical => exact absurd hlevel h
    | _ => rfl
  rw [Log.add, hdropped, if_neg Bool.false_ne_true]

/-- No event of making a template is critical. -/
theorem CompileEvent.level_logRecord (correlationId : Option String) (e : CompileEvent) :
    (e.logRecord correlationId).level ≠ .critical := by
  cases e <;> exact nofun

namespace Cache

/-- How a request is counted that comes to a template: as one or the other if templates are kept,
and otherwise not at all. -/
structure CountsRequest (caching : Bool) (c : Cache) (r : Compilation) : Prop where
  /-- A template that was found counts as such. -/
  hits : r.cache.hits = c.hits + if r.found then 1 else 0
  /-- A template that was not found counts as such. -/
  misses : r.cache.misses = c.misses + if caching && !r.found then 1 else 0
  /-- Without templates that are kept none is found. -/
  notFound : caching = false → r.found = false

/-- **Every request that comes to a template is counted.** -/
theorem Request.counts {settings : CompilerSettings} {host : CompilerHost} {registry : Registry}
    {source : String} {c : Cache} {r : Compilation} {t : Template}
    (h : Request settings host registry source c r) (hok : r.outcome = .ok t) :
    CountsRequest settings.caching c r := by
  cases h with
  | unread | unknown | unfixed => cases hok
  | found hcaching =>
    rw [hcaching]
    exact ⟨rfl, rfl, nofun⟩
  | made _ _ hmaking =>
    obtain ⟨hhits, hmisses, hfound⟩ := hmaking.counts
    refine ⟨?_, ?_, fun _ => hfound⟩
    · rw [hhits, hfound]
      rfl
    · rw [hmisses, hfound, Bool.not_false, Bool.and_true]

end Cache

namespace Build

/-- Notes in the log that the run of a block text begins. Nothing else that is noted is critical. -/
def noteStart (env : BuildEnv) : Value → Build Unit
  | .block _ => record (env.logger "block_executor") .critical "Block started" []
  | _ => pure ()

/-- How many runs of a block text begin when a value is run, apart from those inside of it. -/
def starts : Value → Nat
  | .block _ => 1
  | _ => 0

end Build

/-- The engine that runs blocks nested up to a bound, and notes when the run of a block text
begins. -/
def notingEngine (env : BuildEnv) : Nat → Engine
  | 0 => ⟨fun _ _ _ => Build.fail .exhausted, fun _ => Build.fail .exhausted⟩
  | n + 1 =>
    ⟨fun block vars scope => do
        Build.noteStart env block
        Build.run (notingEngine env n) env block vars scope,
      fun vs => Build.attributeTexts (notingEngine env n) env vs⟩

/-- How many runs of a block text begin with the content of a root element, apart from those inside
of it. -/
def RootContent.starts : RootContent → Nat
  | .arguments _ => 0
  | .block v => Build.starts v

namespace Build

variable {caching : Bool} {k l : Nat} {α β : Type} {m m' : Build α}

/-! ## Two ways of counting -/

/-- What is added to the counts of a document and to those of the cache, when so many requests find
their template and so many do not. -/
structure Added (caching : Bool) (found missed : Nat) (s s' : BuildState) : Prop where
  /-- The document counts what was found. -/
  foundHere : s'.metrics.cacheHits = s.metrics.cacheHits + found
  /-- The document counts what was not found. -/
  missedHere : s'.metrics.cacheMisses = s.metrics.cacheMisses + missed
  /-- What was not found was made. -/
  made : s'.metrics.blocksCompiled = s.metrics.blocksCompiled + missed
  /-- The cache counts what was found. -/
  foundThere : s'.cache.hits = s.cache.hits + found
  /-- The cache counts what was not found, if templates are kept. -/
  missedThere : s'.cache.misses = s.cache.misses + if caching then missed else 0
  /-- Without templates that are kept none is found. -/
  noneFound : caching = false → found = 0

/-- A step that leaves the counts adds nothing to them. -/
theorem Added.of_same {s s' : BuildState} (hrequests : s'.metrics.requests = s.metrics.requests)
    (hcache : s'.cache = s.cache) : Added caching 0 0 s s' where
  foundHere := congrArg (·.1) hrequests
  missedHere := congrArg (·.2.1) hrequests
  made := congrArg (·.2.2) hrequests
  foundThere := congrArg Cache.hits hcache
  missedThere := by rw [hcache, ite_self]; rfl
  noneFound _ := rfl

theorem Added.trans {found missed found' missed' : Nat} {s s₁ s₂ : BuildState}
    (h : Added caching found missed s s₁) (h' : Added caching found' missed' s₁ s₂) :
    Added caching (found + found') (missed + missed') s s₂ where
  foundHere := by rw [h'.foundHere, h.foundHere, Nat.add_assoc]
  missedHere := by rw [h'.missedHere, h.missedHere, Nat.add_assoc]
  made := by rw [h'.made, h.made, Nat.add_assoc]
  foundThere := by rw [h'.foundThere, h.foundThere, Nat.add_assoc]
  missedThere := by
    rw [h'.missedThere, h.missedThere]
    split <;> omega
  noneFound hno := by rw [h.noneFound hno, h'.noneFound hno]

/-- **A step and a copy that notes in the log when runs begin.** The copy does the same otherwise.
If the step comes to a value, it has added as many requests as the copy has noted, and `k` more. -/
def Tallies (caching : Bool) (k : Nat) {α : Type} (m m' : Build α) : Prop :=
  ∀ s records, ∃ noted : Array LogRecord,
    m' (s.noting records) = ((m s).1, (m s).2.noting (records ++ noted)) ∧
      ∀ a, (m s).1 = .ok a → ∃ found missed, found + missed = noted.size + k ∧
        Added caching found missed s (m s).2

/-- A step that leaves the counts, and does the same with any log, is its own copy. -/
theorem tallies_of_same {m : Build α}
    (h : ∀ s, (∀ records, m (s.noting records) = ((m s).1, (m s).2.noting records)) ∧
      (m s).2.metrics.requests = s.metrics.requests ∧ (m s).2.cache = s.cache) :
    Tallies caching 0 m m := by
  intro s records
  obtain ⟨hlog, hrequests, hcache⟩ := h s
  exact ⟨#[], hlog records, fun _ _ => ⟨0, 0, rfl, .of_same hrequests hcache⟩⟩

/-! ## Steps put together -/

theorem Tallies.bind {f f' : α → Build β} (h : Tallies caching k m m')
    (hf : ∀ a, Tallies caching l (f a) (f' a)) :
    Tallies caching (k + l) (m >>= f) (m' >>= f') := by
  intro s records
  obtain ⟨noted, hcopy, hadds⟩ := h s records
  rcases hrun : m s with ⟨fault | a, s₁⟩
  · rw [hrun] at hcopy
    rw [bind_of_error hrun]
    exact ⟨noted, bind_of_error hcopy _, nofun⟩
  · rw [hrun] at hcopy hadds
    obtain ⟨found, missed, htotal, hadded⟩ := hadds a rfl
    obtain ⟨more, hcopy', hadds'⟩ := hf a s₁ (records ++ noted)
    rw [bind_of_ok hrun]
    refine ⟨noted ++ more, ?_, fun b hb => ?_⟩
    · rw [bind_of_ok hcopy, hcopy', Array.append_assoc]
    · obtain ⟨found', missed', htotal', hadded'⟩ := hadds' b hb
      refine ⟨found + found', missed + missed', ?_, hadded.trans hadded'⟩
      rw [Array.size_append]
      omega

theorem Tallies.deeper (h : Tallies caching k m m') :
    Tallies caching k (deeper m) (deeper m') := by
  intro s records
  obtain ⟨noted, hcopy, hadds⟩ := h { s with depth := s.depth + 1 } records
  refine ⟨noted, deeper_of_eq (s := s.noting records) hcopy, fun a ha => ?_⟩
  obtain ⟨found, missed, htotal, hadded⟩ := hadds a ha
  exact ⟨found, missed, htotal, hadded.foundHere, hadded.missedHere, hadded.made,
    hadded.foundThere, hadded.missedThere, hadded.noneFound⟩

/-- A fault of the build is noted, but not as critical. -/
theorem Tallies.noteFault (logger : Logger) (h : Tallies caching k m m') :
    Tallies caching k (noteFault logger m) (noteFault logger m') := by
  intro s records
  obtain ⟨noted, hcopy, hadds⟩ := h s records
  refine ⟨noted, ?_⟩
  unfold Build.noteFault
  rw [hcopy]
  rcases hrun : m s with ⟨fault | a, s₁⟩
  · let failure := logger.record .error "Document build failed"
      [("elements_built", .int s₁.metrics.elementsBuilt)] true
    have hdropped : (Log.mk .critical (records ++ noted)).add failure =
        ⟨.critical, records ++ noted⟩ :=
      Log.add_of_not_critical failure (show Severity.error ≠ .critical from nofun) _
    dsimp only
    split
    · exact ⟨Prod.ext rfl (congrArg (fun log => { s₁ with log }) hdropped), nofun⟩
    · exact ⟨rfl, nofun⟩
  · rw [hrun] at hadds
    exact ⟨rfl, hadds⟩

/-- A run that was not noted is noted before it begins. -/
theorem Tallies.noted (env : BuildEnv) (block : Value)
    (h : Tallies caching (starts block) m m') :
    Tallies caching 0 m (noteStart env block >>= fun _ => m') := by
  cases block
  case block b =>
    intro s records
    let start : LogRecord :=
      (env.logger "block_executor").record .critical "Block started" [] false
    obtain ⟨noted, hcopy, hadds⟩ := h s (records ++ #[start])
    refine ⟨#[start] ++ noted, ?_, fun a ha => ?_⟩
    · rw [← Array.append_assoc]
      exact hcopy
    · obtain ⟨found, missed, htotal, hadded⟩ := hadds a ha
      refine ⟨found, missed, ?_, hadded⟩
      rw [htotal, Array.size_append, Nat.add_comm]
      rfl
  all_goals exact h

/-! ## Small steps -/

theorem tallies_value (a : α) : Tallies caching 0 (pure a) (pure a : Build α) :=
  tallies_of_same fun _ => ⟨fun _ => rfl, rfl, rfl⟩

theorem tallies_fault (f : Fault) : Tallies caching 0 (fail f) (fail f : Build α) :=
  tallies_of_same fun _ => ⟨fun _ => rfl, rfl, rfl⟩

theorem tallies_record (logger : Logger) {level : LogLevel} (message : String)
    (extra : List (String × Json)) (hlevel : level ≠ .critical) :
    Tallies caching 0 (record logger level message extra) (record logger level message extra) := by
  refine tallies_of_same fun s => ⟨fun records => Prod.ext rfl ?_, rfl, rfl⟩
  exact congrArg (fun log => { s with log })
    (Log.add_of_not_critical (logger.record level message extra false) hlevel records)

theorem tallies_tryBinding (pfx uri : String) :
    Tallies caching 0 (tryBinding pfx uri) (tryBinding pfx uri) := by
  refine tallies_of_same fun s => ?_
  have hthere (records : Array LogRecord) :
      (s.noting records).registry.add pfx uri = s.registry.add pfx uri := rfl
  simp only [tryBinding, read_bind, hthere]
  cases s.registry.add pfx uri <;> exact ⟨fun _ => rfl, rfl, rfl⟩

theorem tallies_nextChunk (id : StreamId) :
    Tallies caching 0 (nextChunk id) (nextChunk id) := by
  refine tallies_of_same fun s => ?_
  have hthere (records : Array LogRecord) :
      (s.noting records).streams.take? id = s.streams.take? id := rfl
  simp only [nextChunk, hthere]
  cases s.streams.take? id <;> exact ⟨fun _ => rfl, rfl, rfl⟩

theorem tallies_changeScopes (f : Scopes → Except Fault Scopes) :
    Tallies caching 0 (changeScopes f) (changeScopes f) := by
  refine tallies_of_same fun s => ?_
  have hthere (records : Array LogRecord) : f (s.noting records).scopes = f s.scopes := rfl
  simp only [changeScopes, hthere]
  cases f s.scopes <;> exact ⟨fun _ => rfl, rfl, rfl⟩

theorem tallies_newScope (parent : ScopeId) (vars : List (String × Value)) :
    Tallies caching 0 (newScope parent vars) (newScope parent vars) := by
  refine tallies_of_same fun s => ?_
  unfold newScope
  cases Scopes.ownOf vars <;> exact ⟨fun _ => rfl, rfl, rfl⟩

/-- The primitive steps are their own copies. -/
theorem primitive_tallies (caching : Bool) : Primitive (Tallies caching 0) where
  value := tallies_value
  fault := tallies_fault
  bind := Tallies.bind
  deeper := Tallies.deeper
  read _ := tallies_of_same fun _ => ⟨fun _ => rfl, rfl, rfl⟩
  record logger _ message extra := tallies_record logger message extra
  report _ _ := tallies_of_same fun _ => ⟨fun _ => rfl, rfl, rfl⟩
  count _ hf := tallies_of_same fun s => ⟨fun _ => rfl, hf s.metrics, rfl⟩
  tryBinding := tallies_tryBinding

/-- So are the small steps of elements and statements. -/
theorem acting_tallies (caching : Bool) (env : BuildEnv) :
    Stepwise.Acting env env (Tallies caching 0) := by
  refine Stepwise.acting ⟨(primitive_tallies caching).elementwise env tallies_nextChunk ?_,
    tallies_changeScopes⟩ ?_
  · exact feedAll_related tallies_value Tallies.bind
      (tallies_of_same fun _ => ⟨fun _ => rfl, rfl, rfl⟩)
  · exact (primitive_tallies caching).registerConstant fun _ =>
      tallies_of_same fun _ => ⟨fun _ => rfl, rfl, rfl⟩

/-- So is what is done around the root element of a document. -/
theorem framing_tallies (caching : Bool) (env : BuildEnv) :
    Elementwise.Framing env env (Tallies caching 0) where
  toElementwise := (acting_tallies caching env).toElementwise
  correlationId := rfl
  record logger _ message extra := tallies_record logger message extra
  enclose _ := tallies_of_same fun _ => ⟨fun _ => rfl, rfl, rfl⟩
  noteFault logger _ _ h := h.noteFault logger
  documentOf config request root := by
    refine tallies_of_same fun s => ⟨fun records => ?_, rfl, rfl⟩
    rw [documentOf_apply, documentOf_apply]
    rfl

/-! ## Runs -/

variable (env : BuildEnv) {E E' : Engine}

/-- What making a template writes to the log is not critical. -/
theorem noting_afterCompilation (s : BuildState) (records : Array LogRecord) (c : Compilation) :
    afterCompilation env (s.noting records) c = (afterCompilation env s c).noting records := by
  have hlog : c.events.foldl (fun log e => log.add (e.logRecord env.correlationId))
      (Log.mk .critical records) = ⟨.critical, records⟩ := by
    induction c.events with
    | nil => rfl
    | cons e events ih =>
      rw [List.foldl_cons, Log.add_of_not_critical _ (e.level_logRecord _), ih]
  exact congrArg (fun log => { afterCompilation env s c with log }) hlog

section

variable {source : String} {s : BuildState}

/-- A request that comes to a template is counted. -/
theorem template_ok {t : Template} {c : Compilation}
    (hc : Cache.compile env.settings.compiler (compilerHost s) s.registry source s.cache = c)
    (h : c.outcome = .ok t) :
    template env source s = (.ok t, { afterCompilation env s c with
      metrics := countTemplate c.found t (afterCompilation env s c).metrics }) := by
  subst hc
  unfold template
  dsimp only
  rw [h]

/-- A request that fails is not counted. -/
theorem template_error {fault : Fault} {c : Compilation}
    (hc : Cache.compile env.settings.compiler (compilerHost s) s.registry source s.cache = c)
    (h : c.outcome = .error fault) :
    template env source s = (.error fault, afterCompilation env s c) := by
  subst hc
  unfold template
  dsimp only
  rw [h]

end

/-- **A request for a template is counted once**, in the same way twice. -/
theorem tallies_template (source : String) :
    Tallies env.settings.compiler.caching 1 (template env source) (template env source) := by
  intro s records
  let c := Cache.compile env.settings.compiler (compilerHost s) s.registry source s.cache
  refine ⟨#[], ?_⟩
  cases houtcome : c.outcome with
  | error fault =>
    have hcopy : template env source (s.noting records) = _ := template_error env rfl houtcome
    rw [template_error env rfl houtcome, hcopy, noting_afterCompilation]
    exact ⟨rfl, fun _ hok => by cases hok⟩
  | ok t =>
    have hcopy : template env source (s.noting records) = _ := template_ok env rfl houtcome
    rw [template_ok env rfl houtcome, hcopy, noting_afterCompilation]
    refine ⟨rfl, fun _ _ => ?_⟩
    have hcounts := (Cache.request_compile env.settings.compiler (compilerHost s) s.registry source
      s.cache).counts houtcome
    have hhits : c.cache.hits = s.cache.hits + if c.found then 1 else 0 := hcounts.hits
    have hmisses : c.cache.misses = s.cache.misses +
        if env.settings.compiler.caching && !c.found then 1 else 0 := hcounts.misses
    have hnone : env.settings.compiler.caching = false → c.found = false := hcounts.notFound
    cases hfound : c.found with
    | true =>
      rw [hfound] at hhits hmisses hnone
      rw [Bool.not_true, Bool.and_false, if_neg Bool.false_ne_true] at hmisses
      refine ⟨1, 0, rfl, rfl, rfl, rfl, hhits, ?_,
        fun hno => absurd (hnone hno).symm Bool.false_ne_true⟩
      rw [ite_self]
      exact hmisses
    | false =>
      rw [hfound] at hhits hmisses
      rw [Bool.not_false, Bool.and_true] at hmisses
      exact ⟨0, 1, rfl, rfl, rfl, rfl, hhits, hmisses, fun _ => rfl⟩

/-- Making a block ready to run is the request of that run, if it is the run of a block text. -/
theorem tallies_start (block : Value) (vars : List (String × Value)) (outer : ScopeId) :
    Tallies env.settings.compiler.caching (starts block) (start env block vars outer)
      (start env block vars outer) := by
  have hready (kind : String) (tasks : List Task) (parent : ScopeId) :
      Tallies env.settings.compiler.caching 0
        (newScope parent vars >>= fun scope => pure (Course.mk tasks scope 0 kind))
        (newScope parent vars >>= fun scope => pure (Course.mk tasks scope 0 kind)) :=
    (tallies_newScope parent vars).bind fun _ => tallies_value _
  cases block
  case block b => exact (tallies_template env b.source).bind fun t => hready _ _ _
  case template t => exact hready _ _ _
  case routine mode steps => exact hready _ _ _
  case operation o => exact hready _ _ _
  all_goals exact tallies_fault _

variable (hE : Engine.Related (Tallies env.settings.compiler.caching 0) E E')
include hE

theorem tallies_chunks {σ : Type} {consume consume' : σ → List Value → Build σ}
    (hconsume : ∀ acc vs,
      Tallies env.settings.compiler.caching 0 (consume acc vs) (consume' acc vs))
    (block : Value) (vars : List (String × Value)) (outer : ScopeId) (acc : σ) :
    Tallies env.settings.compiler.caching (starts block)
      (chunks E env block vars outer consume acc) (chunks E' env block vars outer consume' acc) :=
  (tallies_start env block vars outer).bind fun c =>
    (acting_tallies _ env).drain hE ((primitive_tallies _).noteBlock env) hconsume c.scope c.kind
      c.tasks c.yielded acc

/-- The root element is gathered with one run that is not noted, if its content is a block text. -/
theorem tallies_gatherRoot (tag : QName) (args : List Value) (content : RootContent)
    (parts : Parts) :
    Tallies env.settings.compiler.caching content.starts
      (gatherRoot E env tag args content parts) (gatherRoot E' env tag args content parts) := by
  have L := acting_tallies env.settings.compiler.caching env
  rw [← Nat.zero_add content.starts]
  refine (L.feedAll hE tag args parts).bind fun parts => ?_
  cases content with
  | arguments vs => exact L.feedAll hE tag vs parts
  | block v =>
    exact tallies_chunks env hE (fun parts vs => L.feedAll hE tag vs parts) v [] _ parts

theorem tallies_rootElement (request : DocumentRequest) (tag : QName) :
    Tallies env.settings.compiler.caching
      (RootContent.ofValue env.rootScope request.content).starts
      (rootElement E env request tag) (rootElement E' env request tag) := by
  have P := primitive_tallies env.settings.compiler.caching
  have L := acting_tallies env.settings.compiler.caching env
  have hgathered := fun parts => tallies_gatherRoot env hE tag request.args
    (RootContent.ofValue env.rootScope request.content) parts
  have hmade := fun parts => (L.finish tag parts).bind fun parts =>
    tallies_value (Element.mk tag parts.attributes parts.children)
  have hdeep := ((P.checkDepth env tag).bind fun _ => (hgathered {}).bind hmade).deeper
  have hnoted := hdeep.bind fun e => (P.noteElement env e).bind fun _ => tallies_value e
  rw [Nat.zero_add] at hnoted
  exact hnoted.noteFault _

/-- A document is built with one run that is not noted, if its content is a block text. -/
theorem tallies_document_of_related (config : DocumentConfig) (request : DocumentRequest) :
    Tallies env.settings.compiler.caching
      (RootContent.ofValue env.rootScope request.content).starts
      (document E env config request) (document E' env config request) := by
  have F := framing_tallies env.settings.compiler.caching env
  have hended (tag : QName) (root : Element) := (F.documentOf config request root).bind fun d =>
    (F.record (documentLogger env tag) .info "Document build completed"
      [("elements_built", .int (d.metrics.getD {}).elementsBuilt),
        ("diagnostic_count", .int d.diagnostics.length)] nofun).bind fun _ => tallies_value d
  have hroot (tag : QName) := (F.encloseParameters request.content).bind fun _ =>
    (tallies_rootElement env hE request tag).bind (hended tag)
  have hbegun (tag : QName) :=
    (F.record (documentLogger env tag) .info "Starting document build"
      [("content_type", .str request.content.typeName),
        ("parameter_count", .int (Fields.ofList request.parameters).length)] nofun).bind
      fun _ => hroot tag
  have hall := (F.rootName request.root).bind fun tag => (F.bindRoot tag).bind fun _ => hbegun tag
  simp only [Nat.zero_add] at hall
  exact hall

omit hE

/-- **An engine and its copy do the same, and all runs of block texts are noted.** -/
theorem related_notingEngine (n : Nat) :
    Engine.Related (Tallies env.settings.compiler.caching 0) (engine env n)
      (notingEngine env n) := by
  induction n with
  | zero => exact ⟨fun _ _ _ => tallies_fault .exhausted, fun _ => tallies_fault .exhausted⟩
  | succ n ih =>
    have L := acting_tallies env.settings.compiler.caching env
    refine ⟨fun block vars scope => ?_, fun vs => (L.attributeText_and_texts ih).2 vs⟩
    exact (tallies_chunks env ih (fun acc vs => tallies_value (acc ++ vs)) block vars scope
      []).noted env block

/-- **A document and its copy come to the same, and all runs of block texts are noted but the one of
its own content.** -/
theorem tallies_document (n : Nat) (config : DocumentConfig) (request : DocumentRequest) :
    Tallies env.settings.compiler.caching
      (RootContent.ofValue env.rootScope request.content).starts
      (document (engine env n) env config request)
      (document (notingEngine env n) env config request) :=
  tallies_document_of_related env (related_notingEngine env n) config request

end Build

end TagScript
