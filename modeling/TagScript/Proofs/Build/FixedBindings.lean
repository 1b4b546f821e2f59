import TagScript.Proofs.Build.ReportedWords

/-!
# Templates against fixed bindings

A template is made against the bindings that it is given, and run in builds with bindings of their
own. A name that got a namespace when the template was made is written into it in braces, which a
build reads as they are. A name that got none is written as it stands, and the build resolves it
once more, against its own bindings.

* `Registry.nameOf_spelled` — what a word comes to that was resolved before.
* `Build.Binds` — what steps keep that come to a value: a constructor, and all bindings.
* **`Build.template_words_named`** — how the element words of a template are named, in every run.
-/

namespace TagScript

namespace Registry

/-- **What a word comes to that was resolved before.** A name in a namespace stays, whatever is
bound then; the word of another name is resolved as if for the first time. -/
theorem nameOf_spelled {N : Registry} (hN : N.Proper)
    (hbrace : ∀ pfx uri, N.get? pfx = some uri → '}' ∉ uri.toList) {text : String}
    (hne : text ≠ "") (hopen : text.toList.head? ≠ some '{') :
    ∃ fixed, N.nameOf text = .ok fixed ∧
      (fixed.uri.isSome = true → ∀ r : Registry, r.nameOf (N.spelled text) = .ok fixed) ∧
      (fixed.uri = none → N.spelled text = text) := by
  rcases resolve_cases hN hne with
    ⟨resolved, hself⟩ | ⟨uri, localName, huri, hlocal, hsource, hstays⟩
  · refine ⟨⟨text, none⟩, ?_, fun hsome => absurd hsome Bool.false_ne_true, fun _ => ?_⟩
    · rw [nameOf, if_neg hopen, hself]
      rfl
    · rw [spelled, hself]
      exact QName.clark_of_none _
  · have hfirst := hstays N N.extends_refl
    have hplain : '}' ∉ uri.toList := by
      rcases hsource with rfl | ⟨pfx, hbound⟩
      · decide
      · exact hbrace pfx uri hbound
    refine ⟨⟨localName, some uri⟩, ?_, fun _ r => ?_,
      fun hnone => absurd hnone (Option.some_ne_none uri)⟩
    · rw [nameOf, if_neg hopen, hfirst]
      rfl
    · rw [spelled, hfirst]
      dsimp only
      rw [nameOf, if_pos (by simp [QName.clark]), QName.parse_clark huri hlocal hplain]

end Registry

namespace Build

/-! ## What steps keep -/

/-- A state whose commands stay and in which a command builds elements. -/
structure Constructs (command : String) (s : BuildState) : Prop where
  /-- The command builds elements. -/
  constructor : ∃ c, s.commands.lookup command = .ok c ∧ c.action = .acting .newElement
  /-- No command registers another one. -/
  settled : ∀ entry ∈ s.commands.entries, entry.2.2.action ≠ .acting .registerConstant

/-- Whether steps that begin where a command builds elements end so, and keep all bindings. -/
def Binds (command : String) (s s' : BuildState) : Prop :=
  Constructs command s → Constructs command s' ∧ s.registry.Extends s'.registry

variable {command : String} {env : BuildEnv} {s s' : BuildState}

theorem traced_binds (command : String) : Traced (Binds command) where
  trans h h' hs := by
    obtain ⟨hs', hfirst⟩ := h hs
    obtain ⟨hs'', hsecond⟩ := h' hs'
    exact ⟨hs'', hfirst.trans hsecond⟩
  quiet h hs := by
    refine ⟨⟨?_, ?_⟩, h.registry⟩
    · rw [h.commands]
      exact hs.constructor
    · rw [h.commands]
      exact hs.settled

/-- Making a template changes neither the bindings nor the commands. -/
theorem binds_template (env : BuildEnv) (command source : String) :
    Succeeds (Binds command) (template env source) (template env source) := by
  refine ⟨rfl, fun s t s' hrun hs => ?_⟩
  have hstate : s' = (template env source s).2 := by rw [hrun]
  have hsame : s'.registry = s.registry ∧ s'.commands = s.commands := by
    rw [hstate]
    unfold template
    dsimp only
    split <;> exact ⟨rfl, rfl⟩
  refine ⟨⟨?_, ?_⟩, ?_⟩
  · rw [hsame.2]
    exact hs.constructor
  · rw [hsame.2]
    exact hs.settled
  · rw [hsame.1]
    exact s.registry.extends_refl

/-- All steps of blocks keep the constructor and the bindings, when they come to a value. -/
theorem invoking_binds (env : BuildEnv) (command : String) :
    Lockstep.Invoking env env (Succeeds (Binds command)) where
  toStepwise := (traced_binds command).stepwise env
  template := binds_template env command
  newScope := (traced_binds command).newScope
  noteBlock := (traced_binds command).noteBlock env
  invoke {E E'} hE i := by
    obtain rfl := hE.eq fun h => h.1
    refine ⟨rfl, fun s v s' hrun hs => ?_⟩
    rw [invoke, read_bind] at hrun
    obtain ⟨c, s₁, hlookup, hperform⟩ := exists_of_bind_ok hrun
    obtain ⟨hfound, rfl⟩ := Prod.mk.inj hlookup
    obtain ⟨entry, hentry, rfl⟩ := CommandTable.exists_mem_of_lookup hfound
    have hsteps := ((traced_binds command).stepwise env).perform hE i fun hregister =>
      absurd hregister (hs.settled entry hentry)
    exact hsteps.2 s v s' hperform hs

/-! ## Calls of a template -/

/-- A call of the constructor builds an element, and the bindings of that moment name it. -/
theorem exists_element_of_call (n : Nat) {scope : ScopeId} {text : String}
    {more : List (List Operand)} {vs : List Value}
    (h : statement (engine env n) env scope (.mk (some command) ([.constant (.str text)] :: more))
      s = (.ok vs, s')) (hs : Constructs command s) :
    ∃ e, vs = [.element e] ∧ ∃ late : Registry, s.registry.Extends late ∧
      late.Extends s'.registry ∧ late.nameOf text = .ok e.tag := by
  have L := invoking_binds env command
  have hE := L.engine n
  obtain ⟨args, u, hargs, hcalls⟩ := exists_of_call h
  obtain ⟨-, -, -, hrows, -⟩ := L.toActing.operand_and_statement hE scope
  obtain ⟨hu, hearly⟩ := (hrows more).2 _ _ _ hargs hs
  obtain ⟨c, hlookup, haction⟩ := hu.constructor
  obtain ⟨name, e, hname, hbuilt, rfl⟩ := hcalls c hlookup haction
  have hgather (parts : Parts) := L.feedAll hE name (spreadLists args) parts
  obtain ⟨-, hlate⟩ := (L.elementWith name hgather).2 _ _ _ hbuilt hu
  refine ⟨e, rfl, u.registry, hearly, hlate, ?_⟩
  rw [tag_elementWith hbuilt]
  exact hname

/-- When a template comes to its end, every statement between parentheses or outside was run. -/
theorem occurs_of_template {σ : Type} {consume : σ → List Value → Build σ}
    (hconsume : ∀ acc vs, Succeeds (Binds command) (consume acc vs) (consume acc vs)) (n : Nat)
    {t : Template} {vars : List (String × Value)} {outer : ScopeId} {acc acc' : σ}
    (h : chunks (engine env n) env (.template t) vars outer consume acc s = (.ok acc', s'))
    {call : Statement} (hcall : call.Within (Script.ofTemplate t)) :
    ∃ scope, Occurs (Binds command) (statement (engine env n) env scope call) s s' := by
  have T := traced_binds command
  have L := (invoking_binds env command).toActing
  have hE := (invoking_binds env command).engine n
  obtain ⟨c, s₂, hstart, hrun⟩ := exists_of_bind_ok h
  obtain ⟨scope, s₁, hscope, hcourse⟩ := exists_of_bind_ok hstart
  cases hcourse
  have hopens := (T.newScope outer vars).2 _ _ _ hscope
  refine ⟨scope, T.occurs_before hopens (T.occurs_within L hE hcall fun m hm => ?_)⟩
  exact T.occurs_drain L hE hconsume hrun (List.mem_map_of_mem hm)

/-! ## The element words of a template -/

/-- **How the element words of a template are named.** For each word outside of brace groups that
opens a statement, if neither a comma nor a string in apostrophes stands right behind it, the
template has a call of the constructor, which every run of the template comes to that comes to its
end. Whatever the bindings of the running build are, the call then builds one element; if the
bindings that the template was made against put the word in a namespace, this is the name of the
element, in all runs alike. Otherwise the running build decides: the name is what the word comes to
under bindings that are in force while the call runs. -/
theorem template_words_named {known : String → Bool} {N : Registry} {constructor : Constructor}
    {source : String} {t : Template} (hword : IsCommandWord constructor.word) (hN : N.Proper)
    (hbrace : ∀ pfx uri, N.get? pfx = some uri → '}' ∉ uri.toList)
    (ht : (Template.ofSource known N constructor source).2 = .ok t) :
    ∃ ts top, tokenize source = .ok ts ∧ Nest.read (Token.significant ts) = some top ∧
      ∀ w ∈ Token.elementWords known true ts, Nest.Opens w top →
        source.toList[w.offset + w.length]? ≠ some '\'' →
        ∃ fixed call, N.nameOf w.text = .ok fixed ∧ call.Within (Script.ofTemplate t) ∧
          (∀ {σ : Type} {consume : σ → List Value → Build σ} env n vars outer acc s acc' s',
            (∀ acc vs, Succeeds (Binds constructor.word) (consume acc vs) (consume acc vs)) →
            chunks (engine env n) env (.template t) vars outer consume acc s = (.ok acc', s') →
              ∃ scope, Occurs (Binds constructor.word)
                (statement (engine env n) env scope call) s s') ∧
          ∀ env n scope s vs s', Constructs constructor.word s →
            statement (engine env n) env scope call s = (.ok vs, s') →
              ∃ e, vs = [.element e] ∧ (fixed.uri.isSome = true → e.tag = fixed) ∧
                (fixed.uri = none → ∃ late : Registry, s.registry.Extends late ∧
                  late.Extends s'.registry ∧ late.nameOf w.text = .ok e.tag) := by
  obtain ⟨ts, top, ms, hread, htop, hrespelled, hscript⟩ :=
    Template.exists_respelled (Lexer.begins_of_isCommandWord hword) ht
  refine ⟨ts, top, hread, htop, fun w hw hopens happos => ?_⟩
  obtain ⟨hmem, hkeep⟩ := List.mem_filter.mp hw
  obtain ⟨hne, hopen⟩ :=
    Token.command_text hread hmem (Token.kind_of_word (by simpa using hkeep))
  obtain ⟨fixed, hfixed, hstays, hself⟩ := Registry.nameOf_spelled hN hbrace hne hopen
  rw [Bool.not_true, Bool.false_or] at hkeep
  obtain ⟨more, hwithin⟩ := hrespelled.within hopens hkeep happos t.compiled.toList
  rw [← hscript] at hwithin
  refine ⟨fixed, _, hfixed, hwithin, ?_, ?_⟩
  · intro σ consume env n vars outer acc s acc' s' hconsume hrun
    exact occurs_of_template hconsume n hrun hwithin
  · intro env n scope s vs s' hs hcall
    obtain ⟨e, rfl, late, hearly, hlate, hname⟩ := exists_element_of_call n hcall hs
    refine ⟨e, rfl, fun hsome => ?_, fun hnone => ⟨late, hearly, hlate, ?_⟩⟩
    · exact Except.ok.inj (hname.symm.trans (hstays hsome late))
    · rw [hself hnone] at hname
      exact hname

theorem template_words_named_bound :
    let N : Registry := ⟨[("", "urn:t")]⟩
    let constructor := plainEnv.settings.compiler.constructor
    let w : Token := ⟨.command, "a", ⟨1, 1⟩, 1, 0, 0⟩
    let s : BuildState := { plainState with registry := ⟨[("", "urn:d")]⟩ }
    IsCommandWord constructor.word ∧ N.Proper ∧
      (∀ pfx uri, N.get? pfx = some uri → '}' ∉ uri.toList) ∧
      ∃ t, (Template.ofSource s.wordTable.canResolve N constructor "a").2 = .ok t ∧
        Constructs constructor.word s ∧
        ∃ call acc s' scope u e u',
          chunks (engine plainEnv 1) plainEnv (.template t) [] 0 (fun acc vs => pure (acc ++ vs)) [] s
            = (.ok acc, s') ∧
          call.Within (Script.ofTemplate t) ∧
          statement (engine plainEnv 1) plainEnv scope call u = (.ok [.element e], u') ∧
          N.nameOf w.text = .ok ⟨"a", some "urn:t"⟩ ∧ e.tag = ⟨"a", some "urn:t"⟩ := by
  intro N constructor w s
  have hword : IsCommandWord plainEnv.settings.compiler.constructor.word := ⟨_, rfl, rfl, rfl⟩
  have hN : N.Proper := by
    intro binding hbinding
    rw [List.mem_singleton.mp hbinding]
    decide
  have hbrace : ∀ pfx uri, N.get? pfx = some uri → '}' ∉ uri.toList := by
    intro pfx uri hbound
    have hmem : (pfx, uri) ∈ N.bindings := Fields.mem_of_get? hbound
    obtain rfl : uri = "urn:t" := (Prod.mk.inj (List.mem_singleton.mp hmem)).2
    decide
  have hs : Constructs constructor.word s := by
    have hready : Ready plainEnv { plainState with log := .empty .debug } :=
      ready_of_builtins rfl rfl rfl rfl rfl
    exact ⟨hready.constructor, hready.settled⟩
  -- Both that the template can be made and that its run comes to an end are computed.
  have hok : (Template.ofSource s.wordTable.canResolve N constructor "a").2.toOption.any (fun t =>
      (chunks (engine plainEnv 1) plainEnv (.template t) [] 0 (fun acc vs => pure (acc ++ vs))
        ([] : List Value) s).1.isOk) = true := by
    decide +kernel
  rcases ht : (Template.ofSource s.wordTable.canResolve N constructor "a").2 with fault | t
  · rw [ht] at hok
    cases hok
  rw [ht] at hok
  refine ⟨hword, hN, hbrace, t, rfl, hs, ?_⟩
  obtain ⟨ts, top, hread, htop, hnamed⟩ := template_words_named hword hN hbrace ht
  have hts : tokenize "a" = .ok [w] := rfl
  obtain rfl : [w] = ts := Except.ok.inj (hts.symm.trans hread)
  obtain rfl : [Nest.token w] = top := Option.some.inj htop
  have hopens : Nest.Opens w [.token w] := .here (List.mem_singleton_self _) rfl
  have hw : w ∈ Token.elementWords s.wordTable.canResolve true [w] := by decide +kernel
  obtain ⟨fixed, call, hfixed, hwithin, hruns, hbuilt⟩ := hnamed w hw hopens (by decide)
  obtain rfl : fixed = ⟨"a", some "urn:t"⟩ := by
    have hname : (N.nameOf w.text).toOption = some ⟨"a", some "urn:t"⟩ := by decide +kernel
    rw [hfixed] at hname
    exact Option.some.inj hname
  rcases hrun : chunks (engine plainEnv 1) plainEnv (.template t) [] 0
      (fun acc vs => pure (acc ++ vs)) ([] : List Value) s with ⟨fault | acc, s'⟩
  · rw [Except.toOption, Option.any_some, hrun] at hok
    cases hok
  · obtain ⟨scope, u, vs, u', hbefore, hcall, -⟩ := hruns plainEnv 1 [] 0 [] s acc s'
      (fun acc vs => (traced_binds _).value _) hrun
    obtain ⟨e, rfl, htag, -⟩ := hbuilt plainEnv 1 scope u vs u' (hbefore hs).1 hcall
    exact ⟨call, acc, s', scope, u, e, u', rfl, hwithin, hcall, hfixed, htag rfl⟩

/-- A template that was made without bindings, and run in two builds: its element is named anew in
each of them, in the default namespace of the root element if there is one. -/
theorem template_word_renamed :
    let known := plainState.wordTable.canResolve
    let constructor := plainEnv.settings.compiler.constructor
    ∃ t d d', (Template.ofSource known .empty constructor "a").2 = .ok t ∧
      Registry.empty.nameOf "a" = .ok ⟨"a", none⟩ ∧
      buildDocument {} stoppedClock { root := .str "r", content := .template t } = .ok d ∧
      buildDocument {} stoppedClock { root := .str "{urn:d}r", content := .template t } = .ok d' ∧
      d.all.map Element.tag = [⟨"r", none⟩, ⟨"a", none⟩] ∧
      d'.all.map Element.tag = [⟨"r", some "urn:d"⟩, ⟨"a", some "urn:d"⟩] := by
  intro known constructor
  have hnames (root : String) (names : List QName)
      (h : (Template.ofSource known .empty constructor "a").2.toOption.bind (fun t =>
        (document (engine plainEnv nestingBound) plainEnv {}
          { root := .str root, content := .template t } plainState).1.toOption.map fun d =>
            d.all.map Element.tag) = some names) (t : Template)
      (ht : (Template.ofSource known .empty constructor "a").2 = .ok t) :
      ∃ d, buildDocument {} stoppedClock { root := .str root, content := .template t } = .ok d ∧
        d.all.map Element.tag = names := by
    rw [ht, Except.toOption, Option.bind_some] at h
    rw [buildDocument_plain rfl]
    rcases hd : (document (engine plainEnv nestingBound) plainEnv {}
      { root := .str root, content := .template t } plainState).1 with fault | d
    · rw [hd] at h
      cases h
    · rw [hd] at h
      exact ⟨d, rfl, Option.some.inj h⟩
  have hplain := hnames "r" [⟨"r", none⟩, ⟨"a", none⟩] (by decide +kernel)
  have hqualified := hnames "{urn:d}r" [⟨"r", some "urn:d"⟩, ⟨"a", some "urn:d"⟩]
    (by decide +kernel)
  have hmade : (Template.ofSource known .empty constructor "a").2.isOk = true := by decide +kernel
  rcases ht : (Template.ofSource known .empty constructor "a").2 with fault | t
  · rw [ht] at hmade
    cases hmade
  obtain ⟨d, hd, htags⟩ := hplain t ht
  obtain ⟨d', hd', htags'⟩ := hqualified t ht
  exact ⟨t, d, d', rfl, rfl, hd, hd', htags, htags'⟩

end Build

end TagScript
