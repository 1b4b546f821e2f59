import TagScript.Proofs.Build.BuiltinCommands
import TagScript.Proofs.Build.StatementOrder
import TagScript.Proofs.Build.Successes
import TagScript.Proofs.Template.Replay

/-!
# Reported element words

An element word whose prefix is unbound is reported while its text is made ready, and the element is
built later, when its statement runs. A statement in between may bind the prefix, so a report tells
of the bindings of its own moment only.

* `Registry.resolve_of_unresolved` — what a word with an unbound prefix comes to later.
* `Build.Built` — a word was built under bindings of a later moment, as the log shows.
* `Build.Accounted` — what there is to say about a report of an element word.
* `Build.Proceeds` — what holds of two states between which steps came to their values.
* **`Build.reported_words_built`** — the word of a report was built, and without a namespace exactly
  if its prefix was still unbound then.
-/

namespace TagScript

namespace Registry

/-- A word that is not resolved has a prefix. -/
theorem exists_splitColon {r : Registry} {text : String} {name : QName}
    (h : r.resolve text = .ok (name, false)) :
    ∃ pfx localName, splitColon text = some (pfx, localName) := by
  cases hsplit : splitColon text with
  | some parts => exact ⟨parts.1, parts.2, rfl⟩
  | none =>
    rw [resolve, hsplit] at h
    cases hof : QName.of (r.get? "") text with
    | ok q =>
      rw [hof] at h
      cases h
    | error f =>
      rw [hof] at h
      cases h

/-- A word with a prefix is not resolved, or it gets the namespace of its prefix, and this stays. -/
theorem resolve_of_splitColon {r : Registry} (hr : r.Proper) {text pfx localName : String}
    (hsplit : splitColon text = some (pfx, localName)) :
    r.resolve text = .ok (⟨text, none⟩, false) ∨
      ∃ uri, ∀ r', r.Extends r' → r'.resolve text = .ok (⟨localName, some uri⟩, true) := by
  have hresolve (r : Registry) : r.resolve text = r.resolvePrefixed text pfx localName := by
    rw [resolve, hsplit]
  have hself : (QName.of none text).map (·, false) = .ok (⟨text, none⟩, false) := by
    have hne : text ≠ "" := by
      rintro rfl
      cases hsplit
    rw [QName.of, if_neg hne]
    rfl
  by_cases hlocal : localName = ""
  · refine .inl ?_
    rw [hresolve, resolvePrefixed]
    split
    · rw [if_pos hlocal]
      exact hself
    · exact hself
  · have hbound {uri : String} (huri : uri ≠ "") :
        (QName.of (some uri) localName).map (·, true) = .ok (⟨localName, some uri⟩, true) := by
      rw [QName.of, if_neg hlocal, if_neg (by simpa using huri)]
      rfl
    by_cases hxml : pfx = "xml"
    · refine .inr ⟨xmlUri, fun r' _ => ?_⟩
      simp only [hresolve, resolvePrefixed, if_pos hxml, if_neg hlocal]
      exact hbound (by decide)
    · cases hget : r.get? pfx with
      | none =>
        refine .inl ?_
        simp only [hresolve, resolvePrefixed, if_neg hxml, hget]
        exact hself
      | some uri =>
        refine .inr ⟨uri, fun r' hext => ?_⟩
        simp only [hresolve, resolvePrefixed, if_neg hxml, hext pfx uri hget, if_neg hlocal]
        exact hbound (hr.ne_empty hget)

end Registry

/-- A word with an unbound prefix has a prefix. -/
theorem exists_splitColon_of_unresolved {registry : Registry} {w : Token}
    (h : isUnresolved registry w = true) :
    ∃ pfx localName, splitColon w.text = some (pfx, localName) := by
  unfold isUnresolved resolveWord at h
  split at h
  · rename_i name resolved hresolve
    rw [Bool.not_eq_true'] at h
    subst h
    exact Registry.exists_splitColon hresolve
  · cases h

/-- A word with an unbound prefix is spelled as it stands. -/
theorem Registry.spelled_of_unresolved {registry : Registry} (hproper : registry.Proper) {w : Token}
    (h : isUnresolved registry w = true) : registry.spelled w.text = w.text := by
  obtain ⟨pfx, localName, hsplit⟩ := exists_splitColon_of_unresolved h
  rcases Registry.resolve_of_splitColon hproper hsplit with hself | ⟨uri, hstays⟩
  · rw [spelled, hself]
    rfl
  · rw [isUnresolved, resolveWord, hstays registry registry.extends_refl] at h
    cases h

/-- **What a word with an unbound prefix is named later**: as it stands, or in the namespace that
its prefix got meanwhile. -/
theorem exists_nameOf_of_unresolved {early late : Registry} (hlate : late.Proper) {w : Token}
    (hopen : w.text.toList.head? ≠ some '{') (h : isUnresolved early w = true) :
    ∃ name, late.nameOf w.text = .ok name ∧
      (isUnresolved late w = true ∧ name = ⟨w.text, none⟩ ∨
        name.uri.isSome = true ∧
          ∀ final, late.Extends final → isUnresolved final w = false) := by
  obtain ⟨pfx, localName, hsplit⟩ := exists_splitColon_of_unresolved h
  have hname {name : QName} {resolved : Bool}
      (hresolve : late.resolve w.text = .ok (name, resolved)) : late.nameOf w.text = .ok name := by
    rw [Registry.nameOf, if_neg hopen, hresolve]
    rfl
  have hflag {r : Registry} {name : QName} {resolved : Bool}
      (hresolve : r.resolve w.text = .ok (name, resolved)) : isUnresolved r w = !resolved := by
    rw [isUnresolved, resolveWord, hresolve]
  rcases Registry.resolve_of_splitColon hlate hsplit with hself | ⟨uri, hstays⟩
  · exact ⟨_, hname hself, .inl ⟨hflag hself, rfl⟩⟩
  · exact ⟨_, hname (hstays late late.extends_refl), .inr ⟨rfl, fun final hext =>
      hflag (hstays final hext)⟩⟩

namespace Build

/-! ## Elements in the log -/

variable (env : BuildEnv)

/-- The record that a finished element leaves in a log. -/
def elementNote (e : Element) (depth : Nat) : LogRecord :=
  (elementLogger env).record .debug "Element built"
    [("tag", .str e.tag.clark), ("attribute_count", .int e.attributes.length),
      ("child_count", .int e.children.length), ("depth", .int (depth + 1))] false

/-- Whether a log shows that an element with a name was built. -/
def ShowsElement (log : Log) (name : QName) : Prop :=
  ∃ e depth, e.tag = name ∧ elementNote env e depth ∈ log.records

/-- Whether a word was built, under bindings that were in force between its report and now. -/
def Built (early : Registry) (w : Token) (s : BuildState) : Prop :=
  ∃ late name, early.Extends late ∧ late.Extends s.registry ∧ late.Proper ∧
    late.nameOf w.text = .ok name ∧ ShowsElement env s.log name

/-! ## What steps do -/

/-- A state whose constructor builds elements, whose commands stay, and whose log keeps everything.
-/
structure Ready (s : BuildState) : Prop where
  /-- The constructor of the configuration builds elements. -/
  constructor : ∃ c, s.commands.lookup env.settings.compiler.constructor.word = .ok c ∧
    c.action = .acting .newElement
  /-- No command registers another one. -/
  settled : ∀ entry ∈ s.commands.entries, entry.2.2.action ≠ .acting .registerConstant
  /-- No prefix is bound to the empty URI. -/
  proper : s.registry.Proper
  /-- The kept templates are up to date. -/
  kept : Workshop.Invariant env.settings.compiler ⟨s.wordTable, s.cache⟩
  /-- The log keeps everything. -/
  threshold : s.log.threshold = .debug

/-- What every step keeps that comes to its value. -/
structure Advances (s s' : BuildState) : Prop where
  /-- The state is ready again. -/
  ready : Ready env s'
  /-- Bindings may be added. -/
  registry : s.registry.Extends s'.registry
  /-- The table that tells command words from element words is as before. -/
  words : s'.wordTable = s.wordTable
  /-- The records of the log stay. -/
  records : ∀ r ∈ s.log.records, r ∈ s'.log.records

/-- The word of a report, and what became of it: the text in which it stands was made ready when its
prefix was unbound. If it opens a statement, and no string stands right behind it, it was built. -/
def Accounted (s : BuildState) (d : Diagnostic) : Prop :=
  ∃ source ts top w early, tokenize source = .ok ts ∧ Nest.read (Token.significant ts) = some top ∧
    w ∈ Token.elementWords s.wordTable.canResolve true ts ∧ early.Extends s.registry ∧
    isUnresolved early w = true ∧ d = Diagnostic.unresolvedWord w.text w.pos env.correlationId ∧
    (Nest.Opens w top → source.toList[w.offset + w.length]? ≠ some '\'' → Built env early w s)

/-- What steps do that come to their values: every report of an element word that they add is
accounted for. -/
structure Proceeds (s s' : BuildState) : Prop extends Advances env s s' where
  /-- The reports that were added. -/
  reports : ∀ d ∈ s'.diagnostics, d ∈ s.diagnostics ∨
    (d.component = "source_rewriter" → Accounted env s' d)

/-- Whether steps account for their reports when they begin in a state that is ready. -/
def Accounts (s s' : BuildState) : Prop :=
  Ready env s → Proceeds env s s'

variable {env} {s s' s'' : BuildState}

theorem ShowsElement.mono {log log' : Log} {name : QName} (hshows : ShowsElement env log name)
    (h : ∀ r ∈ log.records, r ∈ log'.records) : ShowsElement env log' name := by
  obtain ⟨e, depth, htag, hnote⟩ := hshows
  exact ⟨e, depth, htag, h _ hnote⟩

namespace Advances

theorem trans (h : Advances env s s') (h' : Advances env s' s'') : Advances env s s'' where
  ready := h'.ready
  registry := h.registry.trans h'.registry
  words := h'.words.trans h.words
  records r hr := h'.records r (h.records r hr)

theorem built (h : Advances env s s') {early : Registry} {w : Token} (hw : Built env early w s) :
    Built env early w s' := by
  obtain ⟨late, name, hearly, hlate, hproper, hname, hshows⟩ := hw
  exact ⟨late, name, hearly, hlate.trans h.registry, hproper, hname, hshows.mono h.records⟩

/-- A report stays accounted for. -/
theorem accounted (h : Advances env s s') {d : Diagnostic} (hd : Accounted env s d) :
    Accounted env s' d := by
  obtain ⟨source, ts, top, w, early, hread, htop, hw, hearly, hunresolved, heq, hbuilt⟩ := hd
  exact ⟨source, ts, top, w, early, hread, htop, h.words ▸ hw, hearly.trans h.registry, hunresolved,
    heq, fun hopens happos => h.built (hbuilt hopens happos)⟩

end Advances

/-- The relation is one that can be followed through a run. -/
theorem traced_accounts (env : BuildEnv) : Traced (Accounts env) where
  trans h h' hready := by
    have first := h hready
    have second := h' first.ready
    refine ⟨first.toAdvances.trans second.toAdvances, fun d hd => ?_⟩
    rcases second.reports d hd with hd | haccounted
    · exact (first.reports d hd).imp_right fun haccounted hcomponent =>
        second.toAdvances.accounted (haccounted hcomponent)
    · exact .inr haccounted
  quiet h hready := by
    have hwords : BuildState.wordTable _ = BuildState.wordTable _ :=
      congrArg₂ Option.getD h.words h.commands
    exact {
      ready := {
        constructor := h.commands ▸ hready.constructor
        settled := h.commands ▸ hready.settled
        proper := h.proper hready.proper
        kept := by rw [hwords, h.cache]; exact hready.kept
        threshold := h.threshold.trans hready.threshold }
      registry := h.registry
      words := hwords
      records := h.records
      reports := fun d hd => (h.reports d hd).imp_right fun hne heq => absurd heq hne }

/-- Commands are invoked so that reports are accounted for. -/
theorem acting_accounts (env : BuildEnv) : Stepwise.Acting env env (Succeeds (Accounts env)) where
  toStepwise := (traced_accounts env).stepwise env
  invoke {E E'} hE i := by
    obtain rfl := hE.eq fun h => h.1
    refine ⟨rfl, fun s v s' hrun hready => ?_⟩
    rw [invoke, read_bind] at hrun
    obtain ⟨c, s₁, hlookup, hperform⟩ := exists_of_bind_ok hrun
    obtain ⟨hfound, rfl⟩ := Prod.mk.inj hlookup
    obtain ⟨entry, hentry, rfl⟩ := CommandTable.exists_mem_of_lookup hfound
    have hsteps := ((traced_accounts env).stepwise env).perform hE i fun hregister =>
      absurd hregister (hready.settled entry hentry)
    exact hsteps.2 s v s' hperform hready

/-! ## Calls of the constructor -/

/-- A finished element is noted in a log that keeps everything. -/
theorem mem_records_noteElement {e : Element} {a : Unit}
    (h : noteElement env e s = (.ok a, s')) (hthreshold : s.log.threshold = .debug) :
    elementNote env e s.depth ∈ s'.log.records := by
  cases h
  exact Log.mem_add hthreshold _

/-- An element that is finished was noted. -/
theorem shows_elementWith {tag : QName} {gather : Parts → Build Parts}
    (hgather : ∀ parts, Succeeds (Accounts env) (gather parts) (gather parts)) {e : Element}
    (h : elementWith env tag gather s = (.ok e, s')) (hready : Ready env s) :
    ShowsElement env s'.log tag := by
  have L := (traced_accounts env).stepwise env
  obtain ⟨made, s₁, hdeeper, hrest⟩ := exists_of_bind_ok h
  obtain ⟨_, s₂, hnote, hend⟩ := exists_of_bind_ok hrest
  have hbody := L.deeper (L.bind (L.checkDepth tag) fun _ => L.bind (hgather {}) fun parts =>
    L.bind (L.finish tag parts) fun parts' =>
      L.value (Element.mk tag parts'.attributes parts'.children))
  have hfirst : Proceeds env s s₁ := hbody.2 _ _ _ hdeeper hready
  have htag := tag_elementWith h
  cases hend
  exact ⟨_, _, htag, mem_records_noteElement hnote hfirst.ready.threshold⟩

/-- A call of a command that builds elements evaluates what stands behind the name, and then
resolves the name and builds the element. -/
theorem exists_of_call {E : Engine} {scope : ScopeId} {command text : String}
    {more : List (List Operand)} {vs : List Value}
    (h : statement E env scope (.mk (some command) ([.constant (.str text)] :: more)) s =
      (.ok vs, s')) :
    ∃ args u, rows E env scope more s = (.ok args, u) ∧
      ∀ c, u.commands.lookup command = .ok c → c.action = .acting .newElement →
        ∃ name e, u.registry.nameOf text = .ok name ∧
          elementWith env name (feedAll E env name (spreadLists args)) u = (.ok e, s') ∧
          vs = [.element e] := by
  rw [statement_constant] at h
  obtain ⟨args, u, hargs, hspread⟩ := exists_of_bind_ok h
  refine ⟨args, u, hargs, fun c hlookup haction => ?_⟩
  obtain ⟨v, s₂, hinvoke, hend⟩ := exists_of_bind_ok hspread
  cases hend
  rw [invoke, read_bind, hlookup] at hinvoke
  obtain ⟨c', s₂, hfound, hperform⟩ := exists_of_bind_ok hinvoke
  cases hfound
  rw [perform, haction] at hperform
  obtain ⟨e, s₃, helement, hvalue⟩ := exists_of_bind_ok hperform
  cases hvalue
  obtain ⟨name, s₄, hname, hbuilt⟩ := exists_of_bind_ok helement
  rw [elementName, read_bind] at hname
  obtain ⟨hresolved, rfl⟩ := Prod.mk.inj hname
  exact ⟨name, e, hresolved, hbuilt, rfl⟩

/-- **A call of the constructor builds an element**, whose name the bindings of that moment decide.
-/
theorem built_of_call {E : Engine} (hE : Engine.Related (Succeeds (Accounts env)) E E)
    {scope : ScopeId} {text : String} {more : List (List Operand)} {vs : List Value}
    (h : statement E env scope
      (.mk (some env.settings.compiler.constructor.word) ([.constant (.str text)] :: more)) s =
        (.ok vs, s')) (hready : Ready env s) :
    ∃ late name, s.registry.Extends late ∧ late.Extends s'.registry ∧ late.Proper ∧
      late.nameOf text = .ok name ∧ ShowsElement env s'.log name := by
  have L := acting_accounts env
  obtain ⟨args, u, hargs, hcalls⟩ := exists_of_call h
  obtain ⟨-, -, -, hrows, -⟩ := L.operand_and_statement hE scope
  have hfirst : Proceeds env s u := (hrows more).2 _ _ _ hargs hready
  obtain ⟨c, hlookup, haction⟩ := hfirst.ready.constructor
  obtain ⟨name, e, hname, hbuilt, -⟩ := hcalls c hlookup haction
  have hgather (parts : Parts) := L.feedAll hE name (spreadLists args) parts
  have hsecond : Proceeds env u s' := (L.elementWith name hgather).2 _ _ _ hbuilt hfirst.ready
  exact ⟨u.registry, name, hfirst.registry, hsecond.registry, hfirst.ready.proper, hname,
    shows_elementWith hgather hbuilt hfirst.ready⟩

/-! ## Blocks -/

/-- Making a template keeps what steps keep, and reports the words of the template whose prefix is
unbound. -/
theorem of_template_ok {source : String} {t : Template}
    (h : template env source s = (.ok t, s')) (hready : Ready env s) :
    Advances env s s' ∧
      (Template.ofSource s.wordTable.canResolve s.registry env.settings.compiler.constructor
        source).2 = .ok t ∧
      ∀ d ∈ s'.diagnostics, d ∈ s.diagnostics ∨
        ∃ w ∈ t.unresolved, d = Diagnostic.unresolvedWord w.text w.pos env.correlationId := by
  have hreports := diagnostics_template env source s
  have hkept : Workshop.Invariant env.settings.compiler
      ⟨s.wordTable, (Cache.compile env.settings.compiler (compilerHost s) s.registry source
        s.cache).cache⟩ := hready.kept.step (.compile source s.registry)
  obtain ⟨hthreshold, hrecords⟩ := Log.foldl_add (CompileEvent.logRecord env.correlationId)
    (Cache.compile env.settings.compiler (compilerHost s) s.registry source s.cache).events s.log
  rw [h] at hreports
  unfold template at h
  dsimp only at h
  split at h
  · rename_i t' houtcome
    obtain ⟨hmade, hwords⟩ := Cache.Holds.unresolvedWords_of_ok hready.kept.holds houtcome
    cases h
    refine ⟨⟨?_, s.registry.extends_refl, rfl, hrecords⟩, hmade, fun d hd => ?_⟩
    · exact ⟨hready.constructor, hready.settled, hready.proper, hkept,
        hthreshold.trans hready.threshold⟩
    · rw [hreports] at hd
      rcases Array.mem_append.mp hd with hd | hd
      · exact .inl hd
      · obtain ⟨w, hw, heq⟩ := List.mem_map.mp (List.mem_toArray.mp hd)
        exact .inr ⟨w, (hwords w).mp hw, heq.symm⟩
  · cases h

section

variable {E : Engine} (hE : Engine.Related (Succeeds (Accounts env)) E E)
  (hword : IsCommandWord env.settings.compiler.constructor.word)
include hE hword

/-- When the statements of a template have run, the words that open one of them were built. -/
theorem built_of_drain {s₁ : BuildState} (hready : Ready env s) (hmakes : Advances env s s₁)
    {source : String} {t : Template}
    (hmade : (Template.ofSource s.wordTable.canResolve s.registry
      env.settings.compiler.constructor source).2 = .ok t)
    {σ : Type} {consume : σ → List Value → Build σ}
    (hconsume : ∀ acc vs, Succeeds (Accounts env) (consume acc vs) (consume acc vs))
    {scope : ScopeId} {kind : String} {yielded : Nat} {acc acc' : σ}
    (h : drain E env scope kind consume ((Script.ofTemplate t).map .statement) yielded acc s₁ =
      (.ok acc', s')) {d : Diagnostic} {w : Token} (hw : w ∈ t.unresolved)
    (hd : d = Diagnostic.unresolvedWord w.text w.pos env.correlationId) : Accounted env s' d := by
  have T := traced_accounts env
  have L := acting_accounts env
  have hruns : Proceeds env s₁ s' :=
    (L.drain hE (T.noteBlock env) hconsume scope kind _ yielded acc).2 _ _ _ h hmakes.ready
  have hall := hmakes.trans hruns.toAdvances
  obtain ⟨ts, top, ms, hread, htop, hrespelled, hscript⟩ :=
    Template.exists_respelled (Lexer.begins_of_isCommandWord hword) hmade
  rw [Template.unresolved_eq hread hmade] at hw
  obtain ⟨hin, hunresolved⟩ := List.mem_filter.mp hw
  refine ⟨source, ts, top, w, s.registry, hread, htop, hall.words ▸ hin, hall.registry, hunresolved,
    hd, fun hopens happos => ?_⟩
  have hkeep := (List.mem_filter.mp hin).2
  rw [Bool.not_true, Bool.false_or] at hkeep
  obtain ⟨more, hwithin⟩ := hrespelled.within hopens hkeep happos t.compiled.toList
  rw [← hscript, Registry.spelled_of_unresolved hready.proper hunresolved] at hwithin
  obtain ⟨u, vs, u', hbefore, hcall, hbehind⟩ := T.occurs_within L hE hwithin fun m hm =>
    T.occurs_drain L hE hconsume h (List.mem_map_of_mem hm)
  have hstart : Proceeds env s₁ u := hbefore hmakes.ready
  have hcalls : Proceeds env u u' := (L.statement hE scope _).2 _ _ _ hcall hstart.ready
  have hend : Proceeds env u' s' := hbehind hcalls.ready
  obtain ⟨late, name, hearly, hlate, hproper, hname, hshows⟩ := built_of_call hE hcall hstart.ready
  refine hend.built ⟨late, name, ?_, hlate, hproper, hname, hshows⟩
  exact (hmakes.registry.trans hstart.registry).trans hearly

/-- **Blocks account for what is reported while they are made ready**, when they come to their end.
-/
theorem chunks_accounts {σ : Type} {consume : σ → List Value → Build σ}
    (hconsume : ∀ acc vs, Succeeds (Accounts env) (consume acc vs) (consume acc vs))
    (block : Value) (vars : List (String × Value)) (outer : ScopeId) (acc : σ) :
    Succeeds (Accounts env) (chunks E env block vars outer consume acc)
      (chunks E env block vars outer consume acc) := by
  have T := traced_accounts env
  have L := acting_accounts env
  have hdrain (c : Course) : Succeeds (Accounts env)
      (drain E env c.scope c.kind consume c.tasks c.yielded acc)
      (drain E env c.scope c.kind consume c.tasks c.yielded acc) :=
    L.drain hE (T.noteBlock env) hconsume c.scope c.kind c.tasks c.yielded acc
  unfold chunks start
  split
  · rename_i b
    refine ⟨rfl, fun s acc' s' hrun hready => ?_⟩
    obtain ⟨c, s₂, hstart, hrun⟩ := exists_of_bind_ok hrun
    obtain ⟨t, s₁, htemplate, hrest⟩ := exists_of_bind_ok hstart
    obtain ⟨scope, s₂, hscope, hcourse⟩ := exists_of_bind_ok hrest
    cases hcourse
    obtain ⟨hmakes, hmade, hreports⟩ := of_template_ok htemplate hready
    have hopens := (T.newScope _ vars).2 _ _ _ hscope
    have hruns := (hdrain _).2 _ _ _ hrun
    have hrest : Proceeds env s₁ s' := T.trans hopens hruns hmakes.ready
    refine ⟨hmakes.trans hrest.toAdvances, fun d hd => ?_⟩
    rcases hrest.reports d hd with hd | haccounted
    · refine (hreports d hd).imp_right fun ⟨w, hw, heq⟩ _ => ?_
      have hbegun := hmakes.trans (hopens hmakes.ready).toAdvances
      exact built_of_drain hE hword hready hbegun hmade hconsume hrun hw heq
    · exact .inr haccounted
  · exact T.bind (T.bind (T.newScope outer vars) fun _ => T.value _) hdrain
  · exact T.bind (T.bind (T.newScope outer vars) fun _ => T.value _) hdrain
  · exact T.bind (T.bind (T.newScope outer vars) fun _ => T.value _) hdrain
  · exact T.bind (Traced.fault _) hdrain

omit hE in
/-- Blocks that are nested however deep account for what is reported. -/
theorem engine_accounts (n : Nat) :
    Engine.Related (Succeeds (Accounts env)) (TagScript.engine env n) (TagScript.engine env n) := by
  have T := traced_accounts env
  have L := acting_accounts env
  induction n with
  | zero => exact ⟨fun _ _ _ => Traced.fault .exhausted, fun _ => Traced.fault .exhausted⟩
  | succ n ih =>
    refine ⟨fun block vars scope => ?_, fun vs => (L.attributeText_and_texts ih).2 vs⟩
    exact chunks_accounts ih hword (fun acc vs => T.value (acc ++ vs)) block vars scope []

end

/-- What is done around the root element of a document accounts for what is reported. -/
theorem framing_accounts (env : BuildEnv) :
    Elementwise.Framing env env (Succeeds (Accounts env)) where
  toElementwise := ((traced_accounts env).stepwise env).toElementwise
  correlationId := rfl
  record := (traced_accounts env).primitive.record
  enclose outer := (traced_accounts env).of_change fun _ => .of_eq rfl rfl rfl rfl rfl rfl
  noteFault := Traced.noteFault
  documentOf config request root := by
    have T := traced_accounts env
    exact T.bind (T.read _) fun _ => ((T.stepwise env).lift _)

/-- Building a document accounts for what is reported. -/
theorem document_accounts (hword : IsCommandWord env.settings.compiler.constructor.word) (n : Nat)
    (config : DocumentConfig) (request : DocumentRequest) :
    Succeeds (Accounts env) (document (engine env n) env config request)
      (document (engine env n) env config request) := by
  have F := framing_accounts env
  have hE := engine_accounts hword n
  refine F.document (fun tag args content parts => ?_) config request
  have hfeed (parts : Parts) (vs : List Value) := F.feedAll hE tag vs parts
  exact F.gatherRoot hE (fun v parts => chunks_accounts hE hword hfeed v [] env.rootScope parts)
    args content parts

/-! ## Builds with the built-in commands -/

/-- The constructor of the built-in commands builds elements. -/
theorem lookup_elementConstructor (foldsCase : Bool) (clock : Clock) :
    ∃ c, (CommandTable.withBuiltins foldsCase clock).lookup Command.elementConstructor = .ok c ∧
      c.action = .acting .newElement :=
  ⟨_, CommandTable.lookup_withBuiltins foldsCase List.mem_cons_self List.mem_cons_self, rfl⟩

/-- A build with the built-in commands begins in a state that is ready, if the log keeps everything.
-/
theorem ready_of_builtins {foldsCase : Bool} {clock : Clock}
    (hname : env.settings.compiler.constructor.word = Command.elementConstructor)
    (hcommands : s.commands = .withBuiltins foldsCase clock) (hregistry : s.registry = .empty)
    (hcache : s.cache = .empty) (hlog : s.log.threshold = .debug) : Ready env s where
  constructor := by
    rw [hname, hcommands]
    exact lookup_elementConstructor foldsCase clock
  settled entry hentry hregister := by
    rw [hcommands] at hentry
    rcases Command.builtins_cases (CommandTable.mem_withBuiltins hentry) with
      haction | haction | haction | ⟨f, haction, -⟩ <;> rw [haction] at hregister <;>
      cases hregister
  proper := by
    rw [hregistry]
    exact Registry.proper_empty
  kept := by
    rw [hcache]
    exact Workshop.invariant_empty _ _
  threshold := hlog

/-- A build in a session of its own, without parameters. -/
theorem beginBuild_plain :
    (Session.create {} stoppedClock none).beginBuild [] .empty = .ok (plainEnv, plainState) := by
  let session := Session.create {} stoppedClock none
  have hwords : session.words = none := (Session.wired_create {} stoppedClock none).one rfl
  change Except.ok (plainEnv, { plainState with words := session.words }) = _
  rw [hwords]
  rfl

/-- A document that is built in a session of its own, without parameters. -/
theorem buildDocument_plain {request : DocumentRequest} (h : request.parameters = []) :
    buildDocument {} stoppedClock request =
      (document (engine plainEnv nestingBound) plainEnv {} request plainState).1 := by
  have hbegin : (Session.create {} stoppedClock none).beginBuild request.parameters .empty =
      .ok (plainEnv, plainState) := by
    rw [h]
    exact beginBuild_plain
  exact Session.buildDocument_fst hbegin

/-! ## Documents -/

/-- **The word of a report was built, and without a namespace exactly if its prefix was unbound
then.** Every report of an element word is that of a word in a text that was made ready when the
prefix was unbound. If the word opens a statement, which no comma and no string in apostrophes
hinders, an element was built for it later; if the prefix is unbound still when the build ends, the
element has no namespace. -/
theorem reported_words_built (n : Nat) {config : DocumentConfig} {request : DocumentRequest}
    {d : Document} (hword : IsCommandWord env.settings.compiler.constructor.word)
    (hready : Ready env s) (hnone : s.diagnostics = #[])
    (h : document (engine env n) env config request s = (.ok d, s')) :
    ∀ r ∈ d.diagnostics, r.component = "source_rewriter" →
      ∃ source ts top w early, tokenize source = .ok ts ∧
        Nest.read (Token.significant ts) = some top ∧
        w ∈ Token.elementWords s.wordTable.canResolve true ts ∧ early.Extends s'.registry ∧
        isUnresolved early w = true ∧
        r = Diagnostic.unresolvedWord w.text w.pos env.correlationId ∧
        (Nest.Opens w top → source.toList[w.offset + w.length]? ≠ some '\'' →
          ∃ late name, early.Extends late ∧ late.Extends s'.registry ∧
            late.nameOf w.text = .ok name ∧ ShowsElement env s'.log name ∧
            (name.uri = none ↔ isUnresolved late w = true) ∧
            (isUnresolved s'.registry w = true → name = ⟨w.text, none⟩)) := by
  intro r hr hcomponent
  have hfollows : Proceeds env s s' := (document_accounts hword n config request).2 _ _ _ h hready
  rw [(of_document_ok h).1, Array.mem_toList_iff] at hr
  have haccounted : Accounted env s' r := by
    refine (hfollows.reports r hr).elim (fun hbefore => ?_) fun haccounted => haccounted hcomponent
    rw [hnone] at hbefore
    exact absurd hbefore (Array.not_mem_empty r)
  obtain ⟨source, ts, top, w, early, hread, htop, hw, hearly, hunresolved, heq, hbuilt⟩ :=
    haccounted
  refine ⟨source, ts, top, w, early, hread, htop, hfollows.words ▸ hw, hearly, hunresolved, heq,
    fun hopens happos => ?_⟩
  obtain ⟨late, name, hext, hlate, hproper, hname, hshows⟩ := hbuilt hopens happos
  have hmem := (List.mem_filter.mp hw).1
  have hkind := Token.kind_of_word (by simpa using (List.mem_filter.mp hw).2)
  obtain ⟨name', hname', hcases⟩ :=
    exists_nameOf_of_unresolved hproper (Token.command_text hread hmem hkind).2 hunresolved
  obtain rfl : name' = name := Except.ok.inj (hname'.symm.trans hname)
  refine ⟨late, name', hext, hlate, hname, hshows, ?_⟩
  rcases hcases with ⟨hstill, rfl⟩ | ⟨hsome, hresolved⟩
  · exact ⟨iff_of_true rfl hstill, fun _ => rfl⟩
  · refine ⟨iff_of_false ?_ ?_, fun hend => ?_⟩
    · intro hnone
      rw [hnone] at hsome
      cases hsome
    · rw [hresolved late late.extends_refl]
      exact Bool.false_ne_true
    · rw [hresolved _ hlate] at hend
      cases hend

theorem reported_words_built_unbound :
    let s : BuildState := { plainState with log := .empty .debug }
    let request : DocumentRequest := { root := .str "r", content := .str "p:a" }
    IsCommandWord plainEnv.settings.compiler.constructor.word ∧ Ready plainEnv s ∧
      s.diagnostics = #[] ∧
      ∃ d s', document (engine plainEnv 1) plainEnv {} request s = (.ok d, s') ∧
        ∃ r ∈ d.diagnostics, r.component = "source_rewriter" ∧
          ∃ source ts top w early, tokenize source = .ok ts ∧
            Nest.read (Token.significant ts) = some top ∧
            w ∈ Token.elementWords s.wordTable.canResolve true ts ∧ early.Extends s'.registry ∧
            isUnresolved early w = true ∧
            r = Diagnostic.unresolvedWord w.text w.pos plainEnv.correlationId ∧
            (Nest.Opens w top → source.toList[w.offset + w.length]? ≠ some '\'' →
              ∃ late name, early.Extends late ∧ late.Extends s'.registry ∧
                late.nameOf w.text = .ok name ∧ ShowsElement plainEnv s'.log name ∧
                (name.uri = none ↔ isUnresolved late w = true) ∧
                (isUnresolved s'.registry w = true → name = ⟨w.text, none⟩)) := by
  intro s request
  have hword : IsCommandWord plainEnv.settings.compiler.constructor.word := ⟨_, rfl, rfl, rfl⟩
  have hready : Ready plainEnv s := ready_of_builtins rfl rfl rfl rfl rfl
  refine ⟨hword, hready, rfl, ?_⟩
  have hreports : (document (engine plainEnv 1) plainEnv {} request s).1.toOption.map
      (fun d => d.diagnostics.map Diagnostic.component) = some ["source_rewriter"] := by
    decide +kernel
  rcases hbuilt : document (engine plainEnv 1) plainEnv {} request s with ⟨fault | d, s'⟩
  · rw [hbuilt] at hreports
    cases hreports
  · rw [hbuilt] at hreports
    have hcomponents : d.diagnostics.map Diagnostic.component = ["source_rewriter"] :=
      Option.some.inj hreports
    obtain ⟨r, hr, hcomponent⟩ := List.mem_map.mp (hcomponents ▸ List.mem_singleton_self _)
    exact ⟨d, s', rfl, r, hr, hcomponent,
      reported_words_built 1 hword hready rfl hbuilt r hr hcomponent⟩

/-- A word is reported whose prefix the statement before it binds, and its element has the
namespace. -/
theorem reported_word_bound :
    let request : DocumentRequest :=
      { root := .str "r", content := .str "New-XElement 'a' p [ns]'urn:u'\np:b" }
    ∃ d, buildDocument {} stoppedClock request = .ok d ∧
      d.diagnostics.map (fun r => (r.code, r.component, r.message)) =
        [(.unresolvedPrefix, "source_rewriter", "Prefix of 'p:b' is not bound to a namespace")] ∧
      d.all.map Element.tag = [⟨"r", none⟩, ⟨"a", none⟩, ⟨"b", some "urn:u"⟩] := by
  intro request
  have hbuilt : (buildDocument {} stoppedClock request).toOption.map (fun d =>
        (d.diagnostics.map (fun r => (r.code, r.component, r.message)), d.all.map Element.tag)) =
      some ([(.unresolvedPrefix, "source_rewriter", "Prefix of 'p:b' is not bound to a namespace")],
        [⟨"r", none⟩, ⟨"a", none⟩, ⟨"b", some "urn:u"⟩]) := by
    rw [buildDocument_plain rfl]
    decide +kernel
  cases hd : buildDocument {} stoppedClock request with
  | error fault =>
    rw [hd] at hbuilt
    cases hbuilt
  | ok d =>
    rw [hd] at hbuilt
    exact ⟨d, rfl, Prod.mk.inj (Option.some.inj hbuilt)⟩

end Build

end TagScript
