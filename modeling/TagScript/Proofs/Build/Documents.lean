import TagScript.Proofs.Build.CommandTables
import TagScript.Proofs.Template.Making

/-!
# What comes of a document

A document is what comes of its root element, under a declaration that the build has no influence
on. If its content is a text, then this is made a template when the root element begins to take its
content, and the statements of the template are run while it does.

* `Build.elementWith_fst` — an element is what is gathered for it.
* `Build.documentOf_cases` — the declaration of a document is refused in every state or in none.
* `Build.exists_documentOf` — the one that a configuration asks for is not refused.
* `Build.of_document_ok` — what a document tells of its build.
* `Build.chunks_text` — a block is run by running the statements of its template.
* `Build.document_text` — what comes of a document, by what comes of the statements of its content.
* `Session.begun`, `Session.beginBuild_eq` — the state that a build begins with.
* **`buildDocument_text`** — what comes of a document whose content is a text, in a session of its
  own.
-/

namespace TagScript

/-- A document is made for every list of reports and for all counts, or for none. -/
theorem Document.of_cases (root : Element) (version standalone encoding : Json) :
    (∃ v flag, ∀ diagnostics metrics correlationId,
      of (some root) version standalone encoding diagnostics metrics correlationId =
        .ok ⟨root, v, encoding, flag, diagnostics, metrics, correlationId⟩) ∨
      ∃ fault, ∀ diagnostics metrics correlationId,
        of (some root) version standalone encoding diagnostics metrics correlationId =
          .error fault := by
  unfold of
  cases hversion : XmlVersion.read version with
  | error fault => exact .inr ⟨fault, fun _ _ _ => rfl⟩
  | ok v =>
    cases hstandalone : readStandalone standalone with
    | error fault => exact .inr ⟨fault, fun _ _ _ => rfl⟩
    | ok flag => exact .inl ⟨v, flag, fun _ _ _ => rfl⟩

namespace Build

variable {E : Engine} {env : BuildEnv} {tag : QName} {s made : BuildState}

/-! ## Elements -/

/-- The value of a step, changed. -/
theorem map_apply {α β : Type} (f : α → β) (m : Build α) (s : BuildState) :
    (f <$> m) s = ((m s).1.map f, (m s).2) := by
  rw [← bind_pure_comp, bind_apply]
  rcases m s with ⟨fault | a, t⟩ <;> rfl

/-- Noting a fault does not change it. -/
theorem noteFault_fst {α : Type} (logger : Logger) (body : Build α) (s : BuildState) :
    (noteFault logger body s).1 = (body s).1 := by
  unfold noteFault
  rcases body s with ⟨fault | a, s'⟩
  · dsimp only
    split <;> rfl
  · rfl

/-- An element that is not too deep is made of what is gathered, once that is finished. -/
theorem elementWith_fst {gather : Parts → Build Parts}
    (hdepth : env.settings.maxDepth.isExceededBy (s.depth + 1) = .ok false) :
    (elementWith env tag gather s).1 =
      ((gather {} >>= finish env tag) { s with depth := s.depth + 1 }).1.map fun parts =>
        ⟨tag, parts.attributes, parts.children⟩ := by
  let begun : BuildState := { s with depth := s.depth + 1 }
  have hcheck : checkDepth env tag begun = (.ok (), begun) := by
    rw [checkDepth, read_bind]
    dsimp only
    rw [hdepth]
    rfl
  let body : Build Element := do
    checkDepth env tag
    let parts ← finish env tag (← gather {})
    pure (Element.mk tag parts.attributes parts.children)
  have hbody : body begun = (gather {} >>= finish env tag >>= fun parts =>
      pure ⟨tag, parts.attributes, parts.children⟩) begun := by
    rw [bind_assoc]
    exact bind_of_ok hcheck _
  change (elementWith env tag gather s).1 = ((gather {} >>= finish env tag) begun).1.map _
  rcases hparts : (gather {} >>= finish env tag) begun with ⟨fault | parts, s'⟩
  · rw [bind_of_error hparts] at hbody
    rw [elementWith, bind_of_error (deeper_of_eq hbody)]
    rfl
  · rw [bind_of_ok hparts] at hbody
    rw [elementWith, bind_of_ok (deeper_of_eq hbody)]
    rfl

/-! ## The declaration -/

theorem documentOf_apply (env : BuildEnv) (config : DocumentConfig) (request : DocumentRequest)
    (root : Element) (s : BuildState) :
    documentOf env config request root s = (Document.of (some root)
      (if request.version.truthy then request.version else config.version)
      (match request.standalone with
        | .null => config.standalone
        | flag => flag)
      (if request.encoding.truthy then request.encoding else config.encoding)
      s.diagnostics.toList (some s.metrics) env.correlationId, s) :=
  rfl

/-- A root element is made into a document in every state, or in none. -/
theorem documentOf_cases (env : BuildEnv) (config : DocumentConfig) (request : DocumentRequest)
    (root : Element) :
    (∀ s, ∃ doc, documentOf env config request root s = (.ok doc, s) ∧ doc.root = root) ∨
      ∃ fault, ∀ s, documentOf env config request root s = (.error fault, s) := by
  rcases Document.of_cases root
      (if request.version.truthy then request.version else config.version)
      (match request.standalone with
        | .null => config.standalone
        | flag => flag)
      (if request.encoding.truthy then request.encoding else config.encoding) with
    ⟨v, flag, hmade⟩ | ⟨fault, hrefused⟩
  · refine .inl fun s => ?_
    rw [documentOf_apply, hmade]
    exact ⟨_, rfl, rfl⟩
  · refine .inr ⟨fault, fun s => ?_⟩
    rw [documentOf_apply, hrefused]

/-- The declaration that a configuration asks for is not refused, if it passes its checks. -/
theorem exists_documentOf {config : DocumentConfig} (hconfig : config.check = .ok ())
    {request : DocumentRequest} (hversion : request.version = .null)
    (hstandalone : request.standalone = .null) (env : BuildEnv) (root : Element) (s : BuildState) :
    ∃ doc, (documentOf env config request root s).1 = .ok doc := by
  have hdeclared : ∃ v flag, XmlVersion.read config.version = .ok v ∧
      readStandalone config.standalone = .ok flag := by
    unfold DocumentConfig.check at hconfig
    cases hread : XmlVersion.read config.version with
    | error fault =>
      rw [hread] at hconfig
      cases hconfig
    | ok v =>
      cases hword : readStandaloneWord config.standalone with
      | error fault =>
        rw [hread, hword] at hconfig
        cases hconfig
      | ok flag =>
        refine ⟨v, ?_⟩
        unfold readStandalone
        split
        · exact ⟨_, rfl, rfl⟩
        · exact ⟨flag, rfl, hword⟩
  obtain ⟨v, flag, hread, hflag⟩ := hdeclared
  have hnull : Json.null.truthy = false := rfl
  rw [documentOf_apply, hversion, hstandalone]
  unfold Document.of
  rw [hnull, if_neg Bool.false_ne_true, hread, hflag]
  exact ⟨_, rfl⟩

/-- A document tells what its build has reported and counted when it ends. -/
theorem of_document_ok {config : DocumentConfig} {request : DocumentRequest} {d : Document}
    {s' : BuildState} (h : document E env config request s = (.ok d, s')) :
    d.diagnostics = s'.diagnostics.toList ∧ d.metrics = some s'.metrics := by
  obtain ⟨tag, s₁, -, h⟩ := exists_of_bind_ok h
  obtain ⟨_, s₂, -, h⟩ := exists_of_bind_ok h
  obtain ⟨_, s₃, -, h⟩ := exists_of_bind_ok h
  obtain ⟨_, s₄, -, h⟩ := exists_of_bind_ok h
  obtain ⟨root, s₅, -, h⟩ := exists_of_bind_ok h
  obtain ⟨made, s₆, hmade, h⟩ := exists_of_bind_ok h
  rw [documentOf_apply] at hmade
  obtain ⟨hof, rfl⟩ := Prod.mk.inj hmade
  cases h
  rcases Document.of_cases root _ _ _ with ⟨v, flag, hdeclared⟩ | ⟨fault, hrefused⟩
  · rw [hdeclared] at hof
    cases hof
    exact ⟨rfl, rfl⟩
  · rw [hrefused] at hof
    cases hof

/-! ## Content -/

/-- Making a template changes nothing that the course of a build depends on. -/
theorem view_template (env : BuildEnv) (source : String) (s : BuildState) :
    (template env source s).2.view = s.view := by
  unfold template
  dsimp only
  split <;> rfl

/-- Runs the statements of a template in a scope of their own, and hands on what each one yields. -/
def runStatements {σ : Type} (E : Engine) (env : BuildEnv) (outer : ScopeId) (kind : String)
    (t : Template) (consume : σ → List Value → Build σ) (acc : σ) : Build σ := do
  let scope ← newScope outer []
  drain E env scope kind consume ((Script.ofTemplate t).map .statement) 0 acc

/-- A block is run by running the statements of its template. -/
theorem chunks_text {σ : Type} {source : String} {t : Template}
    (h : template env source s = (.ok t, made)) (scope : ScopeId) (line : Int) (outer : ScopeId)
    (consume : σ → List Value → Build σ) (acc : σ) :
    chunks E env (.block ⟨source, some scope, line⟩) [] outer consume acc s =
      runStatements E env scope "ScriptBlock" t consume acc made := by
  unfold chunks start runStatements
  simp only [bind_assoc, bind_of_ok h]
  rfl

/-- The parts of a root element that takes what the statements of a template yield. -/
def partsOfStatements (E : Engine) (env : BuildEnv) (tag : QName) (t : Template) : Build Parts :=
  runStatements E env env.rootScope "ScriptBlock" t (fun parts vs => feedAll E env tag vs parts) {}
    >>= finish env tag

/-- What follows the root element adds nothing to it, and it cannot fail if the declaration can be
made. -/
theorem map_root_of_declared {config : DocumentConfig} {request : DocumentRequest}
    (hdeclared : ∀ e s, ∃ doc, (documentOf env config request e s).1 = .ok doc) (logger : Logger)
    (message : String) (fields : Document → List (String × Json)) (m : Build Element)
    (s : BuildState) :
    ((m >>= fun e => do
      let d ← documentOf env config request e
      record logger .info message (fields d)
      pure d) s).1.map Document.root = (m s).1 := by
  rcases hbuilt : m s with ⟨fault | e, s₁⟩
  · rw [bind_of_error hbuilt]
    rfl
  · rw [bind_of_ok hbuilt]
    rcases documentOf_cases env config request e with hmade | ⟨fault, hrefused⟩
    · obtain ⟨doc, hdoc, hsame⟩ := hmade s₁
      rw [bind_of_ok hdoc]
      exact congrArg Except.ok hsame
    · obtain ⟨doc, hdoc⟩ := hdeclared e s₁
      rw [hrefused s₁] at hdoc
      cases hdoc

/-- **What comes of a document whose content is a text** is what comes of the statements of the
text, run in a state that differs from the first one only in what the course of a build does not
depend on. -/
theorem document_text {config : DocumentConfig} {root : Value} {source : String} {t : Template}
    {bound : BuildState} (hname : rootName root s = (.ok tag, s))
    (hbind : bindRoot tag s = (.ok (), bound))
    (hdepth : env.settings.maxDepth.isExceededBy (bound.depth + 1) = .ok false)
    (hsettings : env.settings.compiler.caching = true → env.settings.compiler.Usable)
    (hcache : bound.cache.Holds env.settings.compiler bound.wordTable.canResolve
      (some bound.wordTable.version))
    (hmade : (Template.ofSource bound.wordTable.canResolve bound.registry
      env.settings.compiler.constructor source).2 = .ok t)
    (hdeclared : ∀ e s, ∃ doc,
      (documentOf env config { root, content := .str source } e s).1 = .ok doc) :
    ∃ made : BuildState, made.view = { bound.view with depth := bound.depth + 1 } ∧
      (document E env config { root, content := .str source } s).1.map Document.root =
        (partsOfStatements E env tag t made).1.map fun parts =>
          ⟨tag, parts.attributes, parts.children⟩ := by
  let request : DocumentRequest := { root, content := .str source }
  let noted : BuildState := (record (documentLogger env tag) .info "Starting document build"
    [("content_type", .str request.content.typeName),
      ("parameter_count", .int (Fields.ofList request.parameters).length)] bound).2
  let begun : BuildState := { noted with depth := noted.depth + 1 }
  obtain ⟨made, htemplate⟩ := @Session.exists_template env begun source t hsettings hcache hmade
  have hview : made.view = { bound.view with depth := bound.depth + 1 } := by
    have hsame := view_template env source begun
    rw [htemplate] at hsame
    exact hsame
  have hgather : (gatherRoot E env tag [] (.block (.block ⟨source, some env.rootScope, 1⟩)) {} >>=
      finish env tag) begun = partsOfStatements E env tag t made := by
    have htaken := @chunks_text E env begun made _ source t htemplate env.rootScope 1 env.rootScope
      (fun parts vs => feedAll E env tag vs parts) {}
    rw [partsOfStatements, bind_apply, bind_apply, ← htaken]
    rfl
  have hroot : (rootElement E env request tag noted).1 =
      (partsOfStatements E env tag t made).1.map fun parts =>
        ⟨tag, parts.attributes, parts.children⟩ := by
    rw [← hgather, rootElement, noteFault_fst, @elementWith_fst env tag noted _ hdepth]
    rfl
  refine ⟨made, hview, ?_⟩
  rw [← hroot, document, bind_of_ok hname, bind_of_ok hbind]
  -- a request without parameters goes on to the root element as soon as its beginning is noted
  exact map_root_of_declared hdeclared _ _ _ (rootElement E env request tag) noted

end Build

/-! ## A session of its own -/

namespace Session

/-- The state that a build begins with, once the scope of its parameters is made. -/
def begun (s : Session) (registry : Registry) (scopes : Scopes) : BuildState where
  registry
  scopes
  streams := s.streams
  commands := s.commands
  words := s.words
  cache := s.cache
  log := s.log

theorem beginBuild_eq (s : Session) (parameters : List (String × Value)) (registry : Registry) :
    s.beginBuild parameters registry = (s.scopes.add none parameters).map fun added =>
      (⟨s.config.settings, added.1, s.correlationId⟩, s.begun registry added.2) :=
  rfl

end Session

/-- **What comes of a document whose content is a text, in a session of its own.** The root element
has no namespace, and there are no parameters. The statements are run in the second scope, which
stands inside the one of the parameters. -/
theorem buildDocument_text {config : Config} (hconfig : config.check = .ok ()) (clock : Clock)
    {root : Value} {tag : QName} (hname : ∀ s, Build.rootName root s = (.ok tag, s))
    (huri : tag.uri = none) (hdepth : config.settings.maxDepth.isExceededBy 1 = .ok false)
    (husable : config.compiler.settings.Usable) {source : String} {t : Template}
    (hmade : (Template.ofSource (Session.newTable config clock).canResolve .empty
      config.compiler.settings.constructor source).2 = .ok t) :
    let env : BuildEnv := ⟨config.settings, 0, none⟩
    let E := engine env nestingBound
    ∃ ready : BuildState,
      ready.view =
        ⟨.empty, ⟨#[⟨[], none⟩, ⟨[], some 0⟩]⟩, .empty, Session.newTable config clock, 1⟩ ∧
      (buildDocument config clock { root, content := .str source }).map Document.root =
        ((Build.drain E env 1 "ScriptBlock" (fun parts vs => Build.feedAll E env tag vs parts)
            ((Script.ofTemplate t).map .statement) 0 {} >>= Build.finish env tag) ready).1.map
          fun parts => ⟨tag, parts.attributes, parts.children⟩ := by
  intro env E
  let session := Session.create config clock none
  let begun : BuildState := session.begun .empty ⟨#[⟨[], none⟩]⟩
  have hbegin : session.beginBuild [] .empty = .ok (env, begun) := rfl
  have hwords : begun.wordTable = Session.newTable config clock := by
    change (if (Session.newTable config clock).size = 0 then some (Session.newTable config clock)
      else none).getD (Session.newTable config clock) = _
    split <;> rfl
  have hbind : Build.bindRoot tag begun = (.ok (), begun) := by
    rw [Build.bindRoot, huri]
    rfl
  obtain ⟨made, hview, hroot⟩ := @Build.document_text E env tag begun config.document root source t
    begun (hname begun) hbind hdepth (fun _ => husable) (Cache.holds_empty _ _ _)
    (by rw [hwords]; exact hmade)
    (fun e s => Build.exists_documentOf (Config.components_of_check hconfig).2.2 rfl rfl env e s)
  have hscopes : made.scopes = ⟨#[⟨[], none⟩]⟩ := congrArg BuildView.scopes hview
  let ready : BuildState := { made with scopes := ⟨#[⟨[], none⟩, ⟨[], some 0⟩]⟩ }
  have hscope : Build.newScope env.rootScope [] made = (.ok 1, ready) := by
    unfold Build.newScope
    rw [hscopes]
    rfl
  refine ⟨ready, ?_, ?_⟩
  · exact congrArg (fun view : BuildView => { view with scopes := ready.scopes }) hview
  · rw [Build.partsOfStatements, Build.runStatements, bind_assoc, Build.bind_of_ok hscope] at hroot
    exact (congrArg _ (Session.buildDocument_fst hbegin)).trans hroot

end TagScript
