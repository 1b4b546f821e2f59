import TagScript.Proofs.Build.Declarations

/-!
# The statements of root content

Root content that is written in statements is run while the root element takes its arguments. The
statements run one after another, each of them once, and the root element has taken what one of them
yields before the next one starts.

* `Build.Moment`, `Build.Ran` — a statement when it ran, and a row of statements that ran.
* `Build.RootRun` — how the statements of root content ran in a build of a document.
* `Build.exists_rootRun` — they ran so in every build that came to a document.
* **`Build.document_statements_in_order`** — what was declared before a statement is bound when it
  starts.
-/

namespace TagScript.Build

/-! ## Statements that ran -/

/-- A statement when it ran, while an element took what it yields. -/
structure Moment where
  /-- The statement. -/
  statement : Statement
  /-- What the element had made of its arguments when the statement started. -/
  parts : Parts
  /-- The state when the statement started. -/
  before : BuildState
  /-- What the statement yielded. -/
  values : List Value
  /-- The state when the statement ended. -/
  after : BuildState

/-- A row of statements ran one after another: a statement starts with the parts and in the state
that the element came to when it took what the statement before had yielded. -/
inductive Ran (E : Engine) (env : BuildEnv) (tag : QName) (scope : ScopeId) :
    List Moment → Parts → BuildState → Parts → BuildState → Prop where
  /-- No statement is left. -/
  | done {parts : Parts} {s : BuildState} : Ran E env tag scope [] parts s parts s
  /-- A statement runs, then the element takes what it yielded. -/
  | next {m : Moment} {moments : List Moment} {parts last : Parts} {s ended : BuildState}
      (run : statement E env scope m.statement m.before = (.ok m.values, m.after))
      (taken : feedAll E env tag m.values m.parts m.after = (.ok parts, s))
      (rest : Ran E env tag scope moments parts s last ended) :
      Ran E env tag scope (m :: moments) m.parts m.before last ended

section

variable {E : Engine} {env : BuildEnv} {tag : QName} {scope : ScopeId}
  {parts last : Parts} {s ended : BuildState}

/-- A statement runs before others, if something comes of it and of what it yields. -/
theorem Ran.cons {first : Statement} {moments : List Moment} {values : List Value}
    {parts' : Parts} (hrun : (statement E env scope first s).1 = .ok values)
    (htaken : (feedAll E env tag values parts (statement E env scope first s).2).1 = .ok parts')
    (rest : Ran E env tag scope moments parts'
      (feedAll E env tag values parts (statement E env scope first s).2).2 last ended) :
    Ran E env tag scope (⟨first, parts, s, values, (statement E env scope first s).2⟩ :: moments)
      parts s last ended :=
  .next (Prod.ext hrun rfl) (Prod.ext htaken rfl) rest

/-- The statements before one of a row ran up to where it started. -/
theorem Ran.before {earlier later : List Moment} {m : Moment}
    (h : Ran E env tag scope (earlier ++ m :: later) parts s last ended) :
    Ran E env tag scope earlier parts s m.parts m.before := by
  induction earlier generalizing parts s with
  | nil =>
    cases h
    exact .done
  | cons first earlier ih =>
    obtain _ | ⟨run, taken, rest⟩ := h
    exact .next run taken (ih rest)

/-- While statements run, the element takes what they yield as the row is read. -/
theorem Ran.taken (hE : Engine.Related (Keeps OnlyBinds) E E) {moments : List Moment}
    (h : Ran E env tag scope moments parts s last ended) :
    ∃ row, Unrolled (moments.flatMap Moment.values) row ∧
      Taken env parts.pending s.registry row last.pending ended.registry := by
  induction h with
  | done => exact ⟨[], .nil, .nil ..⟩
  | @next m moments parts last s ended run taken rest ih =>
    have hbinds := ((documenting_onlyBinds env).statement hE scope m.statement).2 m.before
    rw [run] at hbinds
    obtain ⟨adds, hadds⟩ := hbinds
    obtain ⟨row, hrow, htaken⟩ := feedAll_taken hE taken
    obtain ⟨more, hmore, htaken'⟩ := ih
    have hran : Taken env m.parts.pending m.before.registry [] m.parts.pending m.after.registry :=
      .of_adds _ hadds
    exact ⟨row ++ more, hrow.append hmore, (hran.append htaken).append htaken'⟩

/-- A block that is run to its end runs its statements so. -/
theorem exists_ran {kind : String} {script : List Statement} {yielded : Nat}
    (h : drain E env scope kind (fun parts vs => feedAll E env tag vs parts)
      (script.map Task.statement) yielded parts s = (.ok last, ended)) :
    ∃ moments s₁, moments.map Moment.statement = script ∧
      Ran E env tag scope moments parts s last s₁ := by
  induction script generalizing yielded parts s with
  | nil =>
    obtain ⟨_, s₁, -, hkept⟩ := exists_of_bind_ok h
    cases hkept
    exact ⟨[], s, rfl, .done⟩
  | cons first script ih =>
    obtain ⟨values, after, hrun, htakes⟩ := exists_of_bind_ok h
    obtain ⟨parts₁, s₁, htaken, hrest⟩ := exists_of_bind_ok htakes
    obtain ⟨moments, s₂, rfl, hran⟩ := ih hrest
    exact ⟨⟨first, parts, s, values, after⟩ :: moments, s₂, rfl, .next hrun htaken hran⟩

end

/-! ## Root content -/

/-- How root content that is written in statements is made ready: a text and a script block become
templates, and a template is one. -/
def rootTemplate? (env : BuildEnv) : Value → Option (Build Template)
  | .str source => some (template env source)
  | .block b => some (template env b.source)
  | .template t => some (pure t)
  | _ => none

/-- How the statements of root content ran in a build of a document: the root element took the
arguments before the content, the content was made ready, and its statements ran one after another.
-/
structure RootRun (E : Engine) (env : BuildEnv) (request : DocumentRequest)
    (make : Build Template) (s : BuildState) where
  /-- The name of the root element. -/
  tag : QName
  /-- The state when the root element begins to take arguments. -/
  begun : BuildState
  /-- What it makes of the arguments before the content. -/
  first : Parts
  /-- The state when it has taken them. -/
  given : BuildState
  /-- The content. -/
  content : Template
  /-- The state when the content is ready. -/
  made : BuildState
  /-- The scope that the statements run in. -/
  scope : ScopeId
  /-- The state when the first statement starts. -/
  ready : BuildState
  /-- The statements, when they ran. -/
  moments : List Moment
  /-- What the root element makes of everything. -/
  last : Parts
  /-- The state when it has taken what the last statement yielded. -/
  ended : BuildState
  /-- The root element has the name that was asked for. -/
  tag_eq : rootName request.root s = (.ok tag, s)
  /-- Nothing was done before but to bind the namespace of the root element as the default one, and
  to let the parameters hide other variables. -/
  begun_eq : begun.view = ⟨s.registry.afterAdds (tag.uri.toList.map fun uri => ("", uri)),
    (encloseParameters env request.content s).2.scopes, s.streams, s.commands, s.depth + 1⟩
  /-- The arguments before the content are taken first. -/
  first_eq : feedAll E env tag request.args {} begun = (.ok first, given)
  /-- Then the content is made ready. -/
  content_eq : make given = (.ok content, made)
  scope_eq : newScope env.rootScope [] made = (.ok scope, ready)
  /-- Each statement of the content ran once, and in order. -/
  moments_eq : moments.map Moment.statement = Script.ofTemplate content
  ran : Ran E env tag scope moments first ready last ended

section

variable {E : Engine} {env : BuildEnv} {request : DocumentRequest} {make : Build Template}
  {tag : QName} {s s' : BuildState}

/-- Making the content ready binds nothing. -/
theorem registry_rootTemplate {v : Value} (h : rootTemplate? env v = some make) (s : BuildState) :
    (make s).2.registry = s.registry := by
  have htemplate (source : String) : (template env source s).2.registry = s.registry := by
    unfold template
    dsimp only
    split <;> rfl
  cases v with
  | str source =>
    cases h
    exact htemplate source
  | block b =>
    cases h
    exact htemplate b.source
  | template t =>
    cases h
    rfl
  | _ => cases h

theorem RootRun.registry_ready (run : RootRun E env request make s)
    (hcontent : rootTemplate? env request.content = some make) :
    run.ready.registry = run.given.registry := by
  have hmade := registry_rootTemplate hcontent run.given
  rw [run.content_eq] at hmade
  have hscope := run.scope_eq
  unfold newScope at hscope
  split at hscope
  · rw [← (Prod.mk.inj hscope).2]
    exact hmade
  · cases hscope

theorem rootName_snd (root : Value) (s : BuildState) : (rootName root s).2 = s := by
  unfold rootName
  split <;> rfl

/-- Only the default namespace is bound before anything else. -/
theorem of_bindRoot_ok (h : bindRoot tag s = (.ok (), s')) :
    s' = { s with
      registry := s.registry.afterAdds (tag.uri.toList.map fun uri => ("", uri)) } := by
  unfold bindRoot at h
  cases huri : tag.uri with
  | none =>
    rw [huri] at h
    exact (Prod.mk.inj h).2.symm
  | some uri =>
    rw [huri] at h
    dsimp only at h
    rw [read_bind] at h
    obtain ⟨⟨created, registry⟩, s₁, hlift, hchange⟩ := exists_of_bind_ok h
    obtain ⟨hadd, rfl⟩ := Prod.mk.inj hlift
    rw [← (Prod.mk.inj hchange).2, ← Registry.afterAdd_of_ok hadd]
    rfl

/-- Letting the parameters hide other variables changes the scopes only. -/
theorem view_encloseParameters (v : Value) {s₀ : BuildState} (h : s.scopes = s₀.scopes) :
    (encloseParameters env v s).2.view =
      { s.view with scopes := (encloseParameters env v s₀).2.scopes } := by
  unfold encloseParameters
  split
  · rw [change, change, ← h]
    rfl
  · exact congrArg (fun scopes => { s.view with scopes }) h

/-- Content in statements is a block that starts with being made ready, in a scope of its own inside
the parameters' one. -/
theorem start_content {v : Value} (h : rootTemplate? env v = some make) :
    ∃ block, RootContent.ofValue env.rootScope v = .block block ∧
      start env block [] env.rootScope = (do
        let content ← make
        let scope ← newScope env.rootScope []
        pure ⟨(Script.ofTemplate content).map .statement, scope, 0, block.typeName⟩) := by
  cases v with
  | str _ | block _ =>
    cases h
    exact ⟨_, rfl, rfl⟩
  | template t =>
    cases h
    exact ⟨_, rfl, rfl⟩
  | _ => cases h

/-- **In every build that comes to a document, the statements of the root content ran one after
another**, and the document has what the root element made of what they yielded. -/
theorem exists_rootRun {config : DocumentConfig} {d : Document}
    (hcontent : rootTemplate? env request.content = some make)
    (h : document E env config request s = (.ok d, s')) :
    ∃ run : RootRun E env request make s,
      d.root = ⟨run.tag, run.last.attributes, run.last.children⟩ := by
  obtain ⟨tag, s₀, htag, hbind⟩ := exists_of_bind_ok h
  obtain rfl : s₀ = s := by rw [← rootName_snd request.root s, htag]
  obtain ⟨_, s₁, hroot, hnamed⟩ := exists_of_bind_ok hbind
  obtain ⟨_, s₂, hrecord, hstart⟩ := exists_of_bind_ok hnamed
  obtain ⟨_, s₃, henclose, hbuild⟩ := exists_of_bind_ok hstart
  obtain ⟨root, s₄, helement, hof⟩ := exists_of_bind_ok hbuild
  obtain ⟨d', s₅, hmade, hend⟩ := exists_of_bind_ok hof
  obtain ⟨_, s₆, -, hd⟩ := exists_of_bind_ok hend
  cases hd
  have hview : s₃.view = ⟨s₀.registry.afterAdds (tag.uri.toList.map fun uri => ("", uri)),
      (encloseParameters env request.content s₀).2.scopes, s₀.streams, s₀.commands, s₀.depth⟩ := by
    have hbound := of_bindRoot_ok hroot
    have hrecorded : s₂.view = s₁.view := by
      cases hrecord
      rfl
    have hscopes : s₂.view.scopes = s₀.view.scopes := by
      rw [hrecorded, hbound]
      rfl
    have henclosed := @view_encloseParameters env s₂ request.content s₀ hscopes
    rw [henclose, hrecorded, hbound] at henclosed
    exact henclosed
  obtain ⟨last, gathered, hgather, rfl⟩ := exists_of_elementWith (of_noteFault_ok helement)
  obtain ⟨first, given, hfirst, hrest⟩ := exists_of_bind_ok hgather
  obtain ⟨block, hblock, hready⟩ := start_content hcontent
  rw [hblock] at hrest
  obtain ⟨c, s₇, hcourse, hdrain⟩ := exists_of_bind_ok hrest
  rw [hready] at hcourse
  obtain ⟨content, made, hcontent, hscoped⟩ := exists_of_bind_ok hcourse
  obtain ⟨scope, ready, hscope, hc⟩ := exists_of_bind_ok hscoped
  cases hc
  obtain ⟨moments, ended, hmoments, hran⟩ := exists_ran hdrain
  obtain ⟨hdocument, -⟩ := Prod.mk.inj hmade
  let run : RootRun E env request make s₀ := {
    tag := tag, begun := { s₃ with depth := s₃.depth + 1 }, first := first, given := given
    content := content, made := made, scope := scope, ready := _, moments := moments, last := last
    ended := ended, tag_eq := htag
    begun_eq := congrArg (fun view : BuildView => { view with depth := view.depth + 1 }) hview
    first_eq := hfirst, content_eq := hcontent, scope_eq := hscope, moments_eq := hmoments
    ran := hran }
  exact ⟨run, (Option.some.inj (Document.of_eq_ok hdocument).1).symm⟩

end

/-- **The statements of root content run in order, and what was declared before is bound when one of
them starts.** Each statement ran once. When it started, the root element had taken the arguments
before the content and whatever the statements before had yielded, and nothing else; at most the
last of these arguments is a name that still waits. All declarations among them are bound by then.
-/
theorem document_statements_in_order {env : BuildEnv} {n : Nat} {config : DocumentConfig}
    {request : DocumentRequest} {make : Build Template} {s s' : BuildState} {d : Document}
    (hcontent : rootTemplate? env request.content = some make)
    (h : document (engine env n) env config request s = (.ok d, s')) :
    ∃ run : RootRun (engine env n) env request make s,
      d.root = ⟨run.tag, run.last.attributes, run.last.children⟩ ∧
      run.ready.registry = run.given.registry ∧
      ∀ earlier m later, run.moments = earlier ++ m :: later →
        ∃ row, Unrolled (request.args ++ earlier.flatMap Moment.values) row ∧
          Taken env none run.begun.registry row m.parts.pending m.before.registry ∧
          ∀ head, m.parts.pending = some head →
            ∃ before v, row = before ++ [v] ∧ v.head? = some head := by
  have hE : Engine.Related (Keeps OnlyBinds) (engine env n) (engine env n) :=
    (documenting_onlyBinds env).engine n
  obtain ⟨run, hroot⟩ := exists_rootRun hcontent h
  have hready := run.registry_ready hcontent
  refine ⟨run, hroot, hready, fun earlier m later hsplit => ?_⟩
  have hran := run.ran
  rw [hsplit] at hran
  obtain ⟨row, hrow, hargs⟩ := feedAll_taken hE run.first_eq
  obtain ⟨more, hmore, hvalues⟩ := hran.before.taken hE
  rw [hready] at hvalues
  have htaken := hargs.append hvalues
  refine ⟨row ++ more, hrow.append hmore, htaken, fun head hhead => ?_⟩
  exact Arguments.exists_of_waitingAfter (htaken.waiting_eq.symm.trans hhead)

/-- The settings that a configuration has by default. -/
def plainEnv : BuildEnv :=
  ⟨({} : Config).settings, 0, none⟩

/-- A build that has just begun, with the built-in commands. -/
def plainState : BuildState where
  registry := .empty
  scopes := ⟨#[⟨[], none⟩]⟩
  streams := .empty
  commands := .withBuiltins true ⟨fun _ => "", fun _ _ _ => ""⟩
  words := none
  cache := .empty
  log := .empty .critical

/-- Two statements: the first one makes an element that declares a prefix, and the second one makes
an element with that prefix. -/
def declaringFirst : Template where
  source := "New-XElement 'a' p [ns]'urn:u'\nNew-XElement 'p:b'"
  compiled := "New-XElement 'a' p [ns]'urn:u'\nNew-XElement 'p:b'"
  tokens := [⟨.command, "New-XElement", ⟨1, 1⟩, 12, 0, 0⟩, ⟨.string, "'a'", ⟨1, 14⟩, 3, 0, 13⟩,
    ⟨.argument, "p", ⟨1, 18⟩, 1, 0, 17⟩, ⟨.cast, "[ns]", ⟨1, 20⟩, 4, 0, 19⟩,
    ⟨.string, "'urn:u'", ⟨1, 24⟩, 7, 0, 23⟩, ⟨.newline, "\n", ⟨1, 31⟩, 1, 0, 30⟩,
    ⟨.command, "New-XElement", ⟨2, 1⟩, 12, 0, 31⟩, ⟨.string, "'p:b'", ⟨2, 14⟩, 5, 0, 44⟩]
  words := []
  unresolved := []
  bindings := []
  constructor := ⟨.str "New-XElement", "New-XElement"⟩

example : tokenize declaringFirst.compiled = .ok declaringFirst.tokens := rfl

/-- A document with these statements as its content. -/
def declaringRequest : DocumentRequest where
  root := .str "r"
  content := .template declaringFirst

/-- Whether a step comes to a value can be computed. -/
theorem exists_of_toBool {α : Type} {r : Except Fault α × BuildState} (h : r.1.toBool = true) :
    ∃ a s', r = (.ok a, s') := by
  rcases r with ⟨fault | a, s'⟩
  · cases h
  · exact ⟨a, s', rfl⟩

theorem document_statements_in_order_declaring :
    ∃ d s', document (engine plainEnv 1) plainEnv {} declaringRequest plainState = (.ok d, s') ∧
      ∃ run : RootRun (engine plainEnv 1) plainEnv declaringRequest (pure declaringFirst)
          plainState,
        d.root = ⟨run.tag, run.last.attributes, run.last.children⟩ ∧
        run.ready.registry = run.given.registry ∧
        ∀ earlier m later, run.moments = earlier ++ m :: later →
          ∃ row, Unrolled ([] ++ earlier.flatMap Moment.values) row ∧
            Taken plainEnv none run.begun.registry row m.parts.pending m.before.registry ∧
            ∀ head, m.parts.pending = some head →
              ∃ before v, row = before ++ [v] ∧ v.head? = some head := by
  obtain ⟨d, s', hbuilt⟩ : ∃ d s',
      document (engine plainEnv 1) plainEnv {} declaringRequest plainState = (.ok d, s') :=
    exists_of_toBool (by decide +kernel)
  exact ⟨d, s', hbuilt, document_statements_in_order rfl hbuilt⟩

/-- What a statement binds while it runs is bound for the next one, although the root element was
given nothing but an element. -/
theorem nested_declaration_stays :
    (∃ d s', document (engine plainEnv 1) plainEnv {} declaringRequest plainState = (.ok d, s')) ∧
      ∃ (run : RootRun (engine plainEnv 1) plainEnv declaringRequest (pure declaringFirst)
          plainState) (first second : Moment),
        run.moments = [first, second] ∧ second.before.registry.get? "p" = some "urn:u" ∧
        ∃ parts s₁, feedAll (engine plainEnv 1) plainEnv run.tag
            (declaringRequest.args ++ first.values) {} run.begun = (.ok parts, s₁) ∧
          s₁.registry.get? "p" = none := by
  refine ⟨exists_of_toBool (by decide +kernel), ?_⟩
  let E : Engine := engine plainEnv 1
  let begun : BuildState := { plainState with depth := 1 }
  let ready : BuildState := (newScope 0 [] begun).2
  let a : Element := ⟨⟨"a", none⟩, [⟨⟨"p", some declarationUri⟩, "urn:u"⟩], []⟩
  let b : Element := ⟨⟨"b", some "urn:u"⟩, [], []⟩
  let declaring : Statement := .mk (some "New-XElement") [[.constant (.str "a")],
    [.constant (.str "p")],
    [.cast ⟨.cast, "[ns]", ⟨1, 20⟩, 4, 0, 19⟩ (.constant (.str "urn:u"))]]
  let resolving : Statement := .mk (some "New-XElement") [[.constant (.str "p:b")]]
  let yielded : BuildState := (statement E plainEnv 1 declaring ready).2
  let holding : Parts := { children := [.ofElement a] }
  let between : BuildState := (feedAll E plainEnv ⟨"r", none⟩ [.element a] {} yielded).2
  let resolved : BuildState := (statement E plainEnv 1 resolving between).2
  let last : Parts := { children := [.ofElement a, .ofElement b] }
  let ended : BuildState := (feedAll E plainEnv ⟨"r", none⟩ [.element b] holding resolved).2
  let first : Moment := ⟨declaring, {}, ready, [.element a], yielded⟩
  let second : Moment := ⟨resolving, holding, between, [.element b], resolved⟩
  have hyields₁ : (statement E plainEnv 1 declaring ready).1 = .ok [.element a] := rfl
  have htakes₁ : (feedAll E plainEnv ⟨"r", none⟩ [.element a] {} yielded).1 = .ok holding := rfl
  have hyields₂ : (statement E plainEnv 1 resolving between).1 = .ok [.element b] := rfl
  have htakes₂ : (feedAll E plainEnv ⟨"r", none⟩ [.element b] holding resolved).1 = .ok last := rfl
  have hran : Ran E plainEnv ⟨"r", none⟩ 1 [first, second] {} ready last ended :=
    .cons hyields₁ htakes₁ (.cons hyields₂ htakes₂ .done)
  let run : RootRun E plainEnv declaringRequest (pure declaringFirst) plainState := {
    tag := ⟨"r", none⟩, begun := begun, first := {}, given := begun, content := declaringFirst
    made := begun, scope := 1, ready := ready, moments := [first, second], last := last
    ended := ended, tag_eq := rfl, begun_eq := rfl, first_eq := rfl, content_eq := rfl
    scope_eq := rfl, moments_eq := rfl, ran := hran }
  exact ⟨run, first, second, rfl, rfl, _, _, rfl, rfl⟩

end TagScript.Build
