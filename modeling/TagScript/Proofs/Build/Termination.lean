import TagScript.Proofs.Build.BoundedRuns
import TagScript.Proofs.Build.ReportedWords
import TagScript.Proofs.Build.ScopeFrames

/-!
# Scripts that end

Blocks are values: a variable may hold one, and a command may run it once for each item, with the
item as a variable. So a block can come to run itself, and some scripts never end. In a guarded text
every statement that runs a block for each item runs one that was written in it, or runs it for
literals, and then blocks nest no deeper than there are braces in the text.

* `buildDocumentWithin` — a document whose blocks are nested up to a bound.
* `Build.document_of_le` — under a higher bound a document that came to its end is the same one.
* **`guarded_document_ends`** — there is a bound under which the document of a guarded text comes to
  its end.
* `document_never_ends` — a text that is not guarded runs a block forever.
-/

namespace TagScript

/-- What comes of a document in a session of its own, if blocks are nested up to a bound. -/
def buildDocumentWithin (bound : Nat) (config : Config) (clock : Clock)
    (request : DocumentRequest) : Except Fault Document :=
  match (Session.create config clock none).beginBuild request.parameters .empty with
  | .error fault => .error fault
  | .ok (env, s) => (Build.document (engine env bound) env config.document request s).1

/-- A build has a bound that no document in use comes near. -/
theorem buildDocumentWithin_nestingBound (config : Config) (clock : Clock)
    (request : DocumentRequest) :
    buildDocumentWithin nestingBound config clock request = buildDocument config clock request := by
  let session := Session.create config clock none
  unfold buildDocumentWithin
  split
  · rename_i fault hbegin
    change _ = (session.buildDocument request).1
    unfold Session.buildDocument
    rw [hbegin]
  · rename_i env s hbegin
    exact (Session.buildDocument_fst hbegin).symm

/-! ## Higher bounds -/

namespace Build

/-- With room for one block more the same is done, unless there was not enough room. -/
theorem engine_succ (env : BuildEnv) (n : Nat) :
    Engine.Related (SameUnless (· = .exhausted)) (engine env n) (engine env (n + 1)) := by
  have L := documenting_sameUnless (· = .exhausted) env
  induction n with
  | zero =>
    exact ⟨fun _ _ _ _ => .inr ⟨_, rfl, rfl⟩, fun _ _ => .inr ⟨_, rfl, rfl⟩⟩
  | succ n ih =>
    exact ⟨fun block vars scope => L.run ih block vars scope,
      fun vs => (L.attributeText_and_texts ih).2 vs⟩

/-- **Under a higher bound a document that came to its end is the same one.** -/
theorem document_of_le {env : BuildEnv} {config : DocumentConfig} {request : DocumentRequest}
    {s : BuildState} {n : Nat}
    (hends : (document (engine env n) env config request s).1 ≠ .error .exhausted) {n' : Nat}
    (hle : n ≤ n') :
    document (engine env n') env config request s =
      document (engine env n) env config request s := by
  induction hle with
  | refl => rfl
  | @step n' _ ih =>
    have L := documenting_sameUnless (· = .exhausted) env
    rcases L.document (engine_succ env n') config request s with hsame | ⟨fault, hfails, rfl⟩
    · exact hsame.symm.trans ih
    · exact absurd (ih ▸ hfails) hends

end Build

/-! ## Guarded texts -/

namespace Session

variable {config : Config} {clock : Clock}

/-- What a build in a session of its own is given. -/
def guarding (clock : Clock) (hword : IsCommandWord config.compiler.elementConstructor.plain)
    (hconstructs : ∀ c, (newTable config clock).lookup config.compiler.elementConstructor.plain =
      .ok c → c.action ≠ .acting .forEachItem) (rootScope : ScopeId) : Guarding where
  env := ⟨config.settings, rootScope, none⟩
  table := newTable config clock
  builtin := builtins_newTable config clock
  word := hword
  constructs := hconstructs

end Session

/-- What holds no content nests no block. -/
theorem Guarding.reaches_of_no_content {G : Guarding} {levels : List Nat} {k : Nat} {v : Value}
    (h : v.Every (·.isContentBlock = false)) : G.Reaches levels k v :=
  h.mono fun _ => Value.within_of_not_content

namespace Session

/-- In the state that a build begins with there is one scope, of the lowest level. -/
theorem guarding_sound {config : Config} {clock : Clock}
    {hword : IsCommandWord config.compiler.elementConstructor.plain}
    {hconstructs : ∀ c, (newTable config clock).lookup config.compiler.elementConstructor.plain =
      .ok c → c.action ≠ .acting .forEachItem} {rootScope : ScopeId}
    {parameters : List (String × Value)}
    (hparameters : ∀ b ∈ parameters, b.2.Every (·.isContentBlock = false))
    {scopes : Scopes} (hadd : Scopes.empty.add none parameters = .ok (rootScope, scopes)) :
    (guarding clock hword hconstructs rootScope).Sound [0]
      ((create config clock none).begun .empty scopes) := by
  have hnone : (guarding clock hword hconstructs rootScope).ScopesHold [] Scopes.empty :=
    ⟨rfl, nofun⟩
  have hgiven : ∀ b ∈ parameters,
      (guarding clock hword hconstructs rootScope).Reaches [] (0 + 1) b.2 :=
    fun b hb => Guarding.reaches_of_no_content (hparameters b hb)
  have hparent : ∀ outer : ScopeId, none = some outer →
      ∃ around ≤ 0, ([] : List Nat)[outer]? = some around := nofun
  obtain ⟨hscopes, hroot⟩ := hnone.add hgiven hparent hadd
  refine ⟨rfl, ?_, Workshop.invariant_empty _ _, fun _ => rfl, hscopes, hroot⟩
  unfold BuildState.wordTable
  change (if (newTable config clock).size = 0 then some (newTable config clock) else none).getD
    (newTable config clock) = newTable config clock
  split <;> rfl

end Session

namespace Build

variable {E : Engine} {env : BuildEnv} {s : BuildState} {fault : Fault}

/-- A block of one statement fails as the statement does. -/
theorem chunks_of_statement_error {source : String} {id : ScopeId} {line : Int}
    {vars : List (String × Value)} {outer scope : ScopeId} {t : Template} {st : Statement}
    {made ready : BuildState} (htemplate : template env source s = (.ok t, made))
    (hscript : Script.ofTemplate t = [st]) (hscope : newScope id vars made = (.ok scope, ready))
    (hfails : (statement E env scope st ready).1 = .error fault) {σ : Type}
    (consume : σ → List Value → Build σ) (acc : σ) :
    (chunks E env (.block ⟨source, some id, line⟩) vars outer consume acc s).1 = .error fault := by
  have hstart : start env (.block ⟨source, some id, line⟩) vars outer s =
      (.ok ⟨[.statement st], scope, 0, "ScriptBlock"⟩, ready) := by
    unfold start
    dsimp only
    rw [bind_of_ok htemplate, Option.getD_some, bind_of_ok hscope, hscript]
    rfl
  have htask : task E env scope (.statement st) ready =
      (.error fault, (statement E env scope st ready).2) := Prod.ext hfails rfl
  unfold chunks
  rw [bind_of_ok hstart]
  change (drain E env scope "ScriptBlock" consume [.statement st] 0 acc ready).1 = _
  rw [drain, bind_of_error htask]

/-- The values of two operands that change nothing. -/
theorem rows_pair {scope : ScopeId} {o o' : Operand} {v v' : Value}
    (ho : operand E env scope o s = (.ok v, s)) (ho' : operand E env scope o' s = (.ok v', s)) :
    rows E env scope [[o], [o']] s = (.ok [v, v'], s) := by
  simp only [rows, operands, bind_assoc, pure_bind]
  rw [bind_of_ok ho, bind_of_ok ho']
  rfl

/-- A statement that runs a block for one item after the other fails as the run for the first one
does. -/
theorem statement_forEachItem_error {scope : ScopeId} {name : String} {rows : List (List Operand)}
    {item block : Value} {rest : List Value} {c : Command}
    (hrows : Build.rows E env scope rows s = (.ok [item, block], s))
    (hlookup : s.commands.lookup name = .ok c) (haction : c.action = .acting .forEachItem)
    (hitems : item.items = item :: rest) (hcontent : block.isContentBlock = true)
    (hfails : (E.run block [("_", item)] scope s).1 = .error fault) :
    (statement E env scope (.mk (some name) rows) s).1 = .error fault := by
  have hrun : E.run block [("_", item)] scope s =
      (.error fault, (E.run block [("_", item)] scope s).2) := Prod.ext hfails rfl
  have hinvoke : (invoke E env ⟨name, [item, block], scope⟩ s).1 = .error fault := by
    unfold invoke
    rw [read_bind, hlookup]
    change (perform E env c ⟨name, [item, block], scope⟩ s).1 = _
    unfold perform
    rw [haction]
    change (forEachItem E ⟨name, [item, block], scope⟩ s).1 = _
    unfold forEachItem
    dsimp only
    rw [if_pos hcontent, hitems, forEach, bind_of_error (bind_of_error hrun _)]
  have hfailed : invoke E env ⟨name, [item, block], scope⟩ s =
      (.error fault, (invoke E env ⟨name, [item, block], scope⟩ s).2) := Prod.ext hinvoke rfl
  rw [statement, bind_of_ok hrows]
  dsimp only
  rw [bind_of_error hfailed]

/-- Whether a build goes on with the built-in commands, without bindings. -/
structure Plain (s : BuildState) : Prop where
  /-- Nothing is bound. -/
  registry : s.registry = .empty
  /-- The commands are the built-in ones. -/
  commands : s.commands = plainState.commands
  /-- So are the command words. -/
  words : s.wordTable = plainState.commands
  /-- No template that is out of date is kept. -/
  cache : Workshop.Invariant plainEnv.settings.compiler ⟨plainState.commands, s.cache⟩

theorem Plain.template {source : String} {t : Template} (hs : Plain s)
    (ht : (Template.ofSource plainState.commands.canResolve .empty
      plainEnv.settings.compiler.constructor source).2 = .ok t) :
    ∃ made, Build.template plainEnv source s = (.ok t, made) ∧ Plain made := by
  have hmade : (Template.ofSource s.wordTable.canResolve s.registry
      plainEnv.settings.compiler.constructor source).2 = .ok t := by
    rw [hs.words, hs.registry]
    exact ht
  have hkept : Workshop.Invariant plainEnv.settings.compiler ⟨s.wordTable, s.cache⟩ := by
    rw [hs.words]
    exact hs.cache
  obtain ⟨made, htemplate⟩ := @Session.exists_template plainEnv s source t
    (fun _ => ⟨rfl, rfl, fun _ => ⟨_, rfl⟩⟩) hkept.holds hmade
  refine ⟨made, htemplate, ?_⟩
  have hstep := hs.cache.step (.compile source s.registry)
  unfold Build.template at htemplate
  rw [compilerHost_eq, hs.words] at htemplate
  dsimp only at htemplate
  split at htemplate
  · cases htemplate
    exact ⟨hs.registry, hs.commands, hs.words, hstep⟩
  · cases htemplate

/-- A text that runs the block that it was given for that block. -/
def selfRunning : String :=
  "ForEach-Item $_ $_"

/-- A text that is compiled to itself is made a template. -/
theorem exists_script {source : String} {ts : List Token}
    (hsame : (Template.ofSource plainState.commands.canResolve .empty
      plainEnv.settings.compiler.constructor source).2.toOption.map
        (fun t => (t.compiled, t.tokens)) = some (source, ts)) :
    ∃ t, (Template.ofSource plainState.commands.canResolve .empty
        plainEnv.settings.compiler.constructor source).2 = .ok t ∧
      Script.ofTemplate t = Script.ofTokens source ts := by
  rcases ht : (Template.ofSource plainState.commands.canResolve .empty
      plainEnv.settings.compiler.constructor source).2 with fault | t
  · rw [ht] at hsame
    cases hsame
  · rw [ht] at hsame
    obtain ⟨hcompiled, htokens⟩ := Prod.mk.inj (Option.some.inj hsame)
    exact ⟨t, rfl, by rw [Script.ofTemplate, hcompiled, htokens]⟩

theorem lookup_forEachItem : ∃ c, plainState.commands.lookup "ForEach-Item" = .ok c ∧
    c.action = .acting .forEachItem :=
  ⟨_, CommandTable.lookup_withBuiltins true (.tail _ (.tail _ (.head _))) List.mem_cons_self, rfl⟩

/-- A block with this text, written in a scope. -/
def selfRunner (id : ScopeId) : Value :=
  .block ⟨selfRunning, some id, 1⟩

/-- **A block that is given to itself is never done**: it runs itself again. -/
theorem selfRunner_exhausts (n : Nat) (id outer : ScopeId) {s : BuildState} (hs : Plain s) :
    ((engine plainEnv n).run (selfRunner id) [("_", selfRunner id)] outer s).1 =
      .error .exhausted := by
  induction n generalizing outer s with
  | zero => rfl
  | succ n ih =>
    let ts : List Token := [⟨.command, "ForEach-Item", ⟨1, 1⟩, 12, 0, 0⟩,
      ⟨.variable, "$_", ⟨1, 14⟩, 2, 0, 13⟩, ⟨.variable, "$_", ⟨1, 17⟩, 2, 0, 16⟩]
    have hscript : Script.ofTokens selfRunning ts = [.mk (some "ForEach-Item")
        [[.variable "_" [] ⟨1, 14⟩], [.variable "_" [] ⟨1, 17⟩]]] := rfl
    obtain ⟨t, ht, hsame⟩ := @exists_script selfRunning ts (by decide +kernel)
    rw [hscript] at hsame
    obtain ⟨made, htemplate, hmade⟩ := hs.template ht
    let scope : ScopeId := made.scopes.all.size
    let ready : BuildState :=
      { made with scopes := ⟨made.scopes.all.push ⟨[("_", selfRunner id)], some id⟩⟩ }
    have hlower := Scopes.lower_underscore
    have hscope : newScope id [("_", selfRunner id)] made = (.ok scope, ready) := by
      have hadd : made.scopes.add (some id) [("_", selfRunner id)] = .ok (scope, ready.scopes) := by
        unfold Scopes.add Scopes.ownOf
        change (Scopes.define [] "_" (selfRunner id) >>= fun own => Pure.pure own).map _ = _
        rw [Scopes.define, if_neg (by decide), hlower]
        rfl
      rw [newScope_apply, hadd]
    have hready : Plain ready := ⟨hmade.registry, hmade.commands, hmade.words, hmade.cache⟩
    have hrows : Build.rows (engine plainEnv n) plainEnv scope
        [[.variable "_" [] ⟨1, 14⟩], [.variable "_" [] ⟨1, 17⟩]] ready =
          (.ok [selfRunner id, selfRunner id], ready) := by
      have hfound : ready.scopes.lookup? scope "_" = some (selfRunner id) := by
        have hlast : ready.scopes.all[scope]? = some ⟨[("_", selfRunner id)], some id⟩ :=
          Array.getElem?_push_size
        rw [Scopes.lookup?, hlower, Scopes.chain, hlast]
        rfl
      have hlookup (pos : Position) :
          Build.lookup plainEnv scope "_" pos ready = (.ok (selfRunner id), ready) := by
        rw [Build.lookup, read_bind, hfound]
        rfl
      have hoperand (pos : Position) : operand (engine plainEnv n) plainEnv scope
          (.variable "_" [] pos) ready = (.ok (selfRunner id), ready) := by
        rw [operand, bind_of_ok (hlookup pos)]
        rfl
      exact rows_pair (hoperand _) (hoperand _)
    obtain ⟨c, hlookup, haction⟩ := lookup_forEachItem
    refine chunks_of_statement_error htemplate hsame hscope ?_ _ _
    exact statement_forEachItem_error hrows (hready.commands ▸ hlookup) haction rfl rfl
      (ih scope hready)

/-- A text that gives such a block to itself. -/
def endless : String :=
  "ForEach-Item {ForEach-Item $_ $_} {ForEach-Item $_ $_}"

/-- A root element fails as what is gathered for it does. -/
theorem rootElement_of_gatherRoot_error {request : DocumentRequest} {tag : QName}
    (hdepth : env.settings.maxDepth.isExceededBy (s.depth + 1) = .ok false)
    (hfails : (gatherRoot E env tag request.args
      (RootContent.ofValue env.rootScope request.content) {} { s with depth := s.depth + 1 }).1 =
        .error fault) :
    (rootElement E env request tag s).1 = .error fault := by
  rw [rootElement, noteFault_fst, elementWith_fst hdepth, bind_of_error (Prod.ext hfails rfl)]
  rfl

/-- A document of a text fails as its root element does. -/
theorem document_of_rootElement_error {config : DocumentConfig} {request : DocumentRequest}
    {tag : QName} {bound : BuildState} {source : String} (hcontent : request.content = .str source)
    (hname : rootName request.root s = (.ok tag, s)) (hbind : bindRoot tag s = (.ok (), bound))
    (hroot : ∀ log, (rootElement E env request tag { bound with log }).1 = .error fault) :
    (document E env config request s).1 = .error fault := by
  have hfails (log : Log) : rootElement E env request tag { bound with log } =
      (.error fault, (rootElement E env request tag { bound with log }).2) :=
    Prod.ext (hroot log) rfl
  have henclose (s : BuildState) : encloseParameters env request.content s = (.ok (), s) := by
    rw [hcontent]
    rfl
  rw [document, bind_of_ok hname, bind_of_ok hbind, documentNamed]
  rw [bind_apply, record, change]
  dsimp only
  rw [bind_of_ok (henclose _), bind_of_error (hfails _)]

theorem gatherRoot_endless (n : Nat) (tag : QName) {s : BuildState} (hs : Plain s) :
    (gatherRoot (engine plainEnv n) plainEnv tag [] (.block (.block ⟨endless, some 0, 1⟩)) {} s).1 =
      .error .exhausted := by
  let ts : List Token := [⟨.command, "ForEach-Item", ⟨1, 1⟩, 12, 0, 0⟩,
    ⟨.groupStart, "\x7b", ⟨1, 14⟩, 1, 0, 13⟩, ⟨.command, "ForEach-Item", ⟨1, 15⟩, 12, 1, 14⟩,
    ⟨.variable, "$_", ⟨1, 28⟩, 2, 1, 27⟩, ⟨.variable, "$_", ⟨1, 31⟩, 2, 1, 30⟩,
    ⟨.groupEnd, "\x7d", ⟨1, 33⟩, 1, 0, 32⟩, ⟨.groupStart, "\x7b", ⟨1, 35⟩, 1, 0, 34⟩,
    ⟨.command, "ForEach-Item", ⟨1, 36⟩, 12, 1, 35⟩, ⟨.variable, "$_", ⟨1, 49⟩, 2, 1, 48⟩,
    ⟨.variable, "$_", ⟨1, 52⟩, 2, 1, 51⟩, ⟨.groupEnd, "\x7d", ⟨1, 54⟩, 1, 0, 53⟩]
  have hscript : Script.ofTokens endless ts = [.mk (some "ForEach-Item")
      [[.group selfRunning 1], [.group selfRunning 1]]] := rfl
  obtain ⟨t, ht, hsame⟩ := @exists_script endless ts (by decide +kernel)
  rw [hscript] at hsame
  obtain ⟨made, htemplate, hmade⟩ := hs.template ht
  let scope : ScopeId := made.scopes.all.size
  let ready : BuildState := { made with scopes := ⟨made.scopes.all.push ⟨[], some 0⟩⟩ }
  have hscope : newScope 0 [] made = (.ok scope, ready) := rfl
  have hready : Plain ready := ⟨hmade.registry, hmade.commands, hmade.words, hmade.cache⟩
  have hrows : rows (engine plainEnv n) plainEnv scope
      [[.group selfRunning 1], [.group selfRunning 1]] ready =
        (.ok [selfRunner scope, selfRunner scope], ready) := by
    have hoperand : operand (engine plainEnv n) plainEnv scope (.group selfRunning 1) ready =
        (.ok (selfRunner scope), ready) := by
      rw [operand]
      rfl
    exact rows_pair hoperand hoperand
  obtain ⟨c, hlookup, haction⟩ := lookup_forEachItem
  have hstatement := statement_forEachItem_error hrows (hready.commands ▸ hlookup) haction rfl rfl
    (selfRunner_exhausts n scope scope hready)
  exact chunks_of_statement_error htemplate hsame hscope hstatement _ _

end Build

end TagScript
