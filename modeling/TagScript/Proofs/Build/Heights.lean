import TagScript.Proofs.Build.BuiltinCommands
import TagScript.Proofs.Build.DepthLimits
import TagScript.Proofs.Build.Escapes

/-!
# How high trees grow

The number of elements that are being built at one time is bounded, and that is not the height of
the tree. A statement between parentheses is done before the element that takes its value begins, so
its elements are counted as if they stood beside that element. Where no statement stands between
parentheses, an element comes about while the elements around it are being built, and the bound is
one of the height too.

* `Element.height` — the number of elements on the longest way down.
* `Lexer.kinds_respell` — making a text ready brings no parentheses along.
* `Regime.unparenthesized` — the regime of builds from texts without parentheses: an element that
  comes about while others are being built is not too high for them.
* **`buildDocument_height`** — the height of a document whose content is such a text.
* `buildDocument_parenthesized` — with parentheses a tree can be too high.
-/

namespace TagScript

/-! ## Heights -/

mutual

/-- The number of elements on the longest way down a node. -/
def Node.height : Node → Nat
  | .text _ => 0
  | .element _ _ children => Node.heightOfAll children + 1

/-- The greatest height in a row of nodes. -/
def Node.heightOfAll : List Node → Nat
  | [] => 0
  | n :: ns => max n.height (Node.heightOfAll ns)

end

/-- The number of elements on the longest way down an element, itself included. -/
def Element.height (e : Element) : Nat :=
  Node.heightOfAll e.children + 1

/-- The greatest height is that of no element, or of one in the row. -/
theorem Node.heightOfAll_cases (ns : List Node) :
    heightOfAll ns = 0 ∨ ∃ tag attributes children, Node.element tag attributes children ∈ ns ∧
      heightOfAll ns = Element.height ⟨tag, attributes, children⟩ := by
  induction ns with
  | nil => exact .inl rfl
  | cons n ns ih =>
    rw [heightOfAll]
    rcases Nat.le_total n.height (heightOfAll ns) with hle | hle
    · rw [Nat.max_eq_right hle]
      refine ih.imp_right fun ⟨tag, attributes, children, hmem, hheight⟩ => ?_
      exact ⟨tag, attributes, children, List.mem_cons_of_mem n hmem, hheight⟩
    · rw [Nat.max_eq_left hle]
      cases n with
      | text s => exact .inl rfl
      | element tag attributes children =>
        exact .inr ⟨tag, attributes, children, List.mem_cons_self, rfl⟩

/-! ## Texts without parentheses -/

namespace Lexer

variable {known : String → Bool} {registry : Registry} {name : String}

/-- Making a row ready brings along no tokens but strings and words. -/
theorem kinds_joinLiteral {literal : List Char} {row : List Stretch} {kind : TokenKind}
    (h : kind ∈ (joinLiteral literal row).filterMap Stretch.kind?) :
    kind ∈ row.filterMap Stretch.kind? ∨ kind = .string := by
  unfold joinLiteral at h
  split at h
  · exact .inl h
  · exact (List.mem_cons.mp h).symm

theorem kinds_respell {row : List Stretch} {kind : TokenKind}
    (h : kind ∈ (respell known registry name row).filterMap Stretch.kind?) :
    kind ∈ row.filterMap Stretch.kind? ∨ kind = .string := by
  induction row with
  | nil => exact .inl h
  | cons s row ih =>
    cases hw : s.isElementWord known with
    | true =>
      obtain ⟨text, rfl⟩ := Stretch.eq_of_isElementWord hw
      rw [respell_word hw] at h
      rcases List.mem_cons.mp h with rfl | h
      · exact .inl List.mem_cons_self
      · rcases kinds_joinLiteral h with h | h
        · exact (ih h).imp_left (List.mem_cons_of_mem _)
        · exact .inr h
    | false =>
      rw [respell_other hw] at h
      cases s with
      | blank c => exact ih h
      | token other text depth =>
        rcases List.mem_cons.mp h with rfl | h
        · exact .inl List.mem_cons_self
        · exact (ih h).imp_left (List.mem_cons_of_mem _)

/-- What stands in a group of an outline stands in its row. -/
theorem kinds_of_group {parts : List Part} {inner : List Stretch} (h : .group inner ∈ parts)
    {kind : TokenKind} (hkind : kind ∈ inner.filterMap Stretch.kind?) :
    kind ∈ (rowOf parts).filterMap Stretch.kind? := by
  obtain ⟨s, hs, hskind⟩ := List.mem_filterMap.mp (filterMap_kind?_raise 1 inner ▸ hkind)
  refine List.mem_filterMap.mpr ⟨s, List.mem_flatMap.mpr ⟨.group inner, h, ?_⟩, hskind⟩
  exact List.mem_cons_of_mem _ (List.mem_append_left _ hs)

end Lexer

/-- Whether no parenthesis is opened in a text, if it can be read. -/
def Unparenthesized (source : String) : Prop :=
  ∀ ts, tokenize source = .ok ts → .parenStart ∉ ts.map Token.kind

open Lexer in
/-- **Making a text ready keeps it free of parentheses**, and so are the texts of its groups. -/
theorem Unparenthesized.ofSource {source : String} (h : Unparenthesized source)
    {known : String → Bool} {registry : Registry} {constructor : Constructor}
    (hname : Begins true .command constructor.word.toList []) {t : Template}
    (ht : (Template.ofSource known registry constructor source).2 = .ok t) :
    tokenize t.compiled = .ok t.tokens ∧ .parenStart ∉ t.tokens.map Token.kind ∧
      ∀ text ∈ Statement.groupTextsOfAll (Script.ofTemplate t), Unparenthesized text := by
  cases hread : tokenize source with
  | error fault =>
    rw [Template.ofSource_snd, hread] at ht
    cases ht
  | ok ts =>
    obtain ⟨row, htext, hrow, rfl⟩ := tokenize_eq_ok_iff.mp hread
    obtain ⟨t', ht', hcompiled, htokens⟩ := ofSource_textOf hname htext hrow
    obtain rfl : t' = t := Except.ok.inj (ht'.symm.trans ht)
    have hrespelled : Readable true [] (respell known registry constructor.word row) :=
      hrow.respell hname
    have hnone : .parenStart ∉
        (respell known registry constructor.word row).filterMap Stretch.kind? := by
      intro hparen
      have hwritten := (kinds_respell hparen).resolve_right nofun
      rw [← map_kind_tokensAt .start 0 row] at hwritten
      exact h _ hread hwritten
    obtain ⟨parts, hparts, hproper⟩ := hrespelled.exists_parts rfl
    rw [← hparts] at hcompiled htokens hrespelled hnone
    refine ⟨?_, ?_, ?_⟩
    · rw [hcompiled, htokens]
      exact tokenize_textOf hrespelled
    · rw [htokens, map_kind_tokensAt]
      exact hnone
    · rw [Script.ofTemplate, hcompiled, htokens, Script.groupTexts_ofTokens hproper hrespelled]
      intro text hmem us hus hparen
      obtain ⟨part, hpart, hgroup⟩ := List.mem_filterMap.mp hmem
      cases part with
      | stretch s => cases hgroup
      | group inner =>
        cases hgroup
        have hinner : Readable true [] inner := hproper _ hpart
        obtain rfl := Except.ok.inj ((tokenize_textOf hinner).symm.trans hus)
        rw [map_kind_tokensAt] at hparen
        exact hnone (kinds_of_group hpart hparen)

/-! ## The regime -/

namespace Value

/-- Whether a value may come of a script without parentheses that is given data, as an operand or a
variable: it holds no element, and blocks have no parentheses either. -/
def Childless : Value → Prop
  | .element _ | .document _ | .template _ | .routine .. | .xml .. => False
  | .block b => Unparenthesized b.source
  | _ => True

theorem keepsMembers_childless : KeepsMembers Childless where
  harmless v h := by
    cases v with
    | element _ | document _ | template _ | routine _ _ | xml _ _ | block _ => exact h.elim
    | _ => trivial
  element _ h := h.elim
  attributeName _ _ := trivial
  document _ h := h.elim
  block _ _ _ _ := trivial

theorem IsData.every_childless {v : Value} (h : v.IsData) : v.Every Childless :=
  h.mono fun w hw => by cases w <;> trivial

/-- Whether a value may be yielded while so many elements are being built: it is such a value, or an
element that is not too high for them. -/
def FitsUnder (limit : Limit) (d : Nat) : Value → Prop
  | .element e => limit.isExceededBy (d + e.height) = .ok false
  | v => v.Childless

theorem Childless.fitsUnder {v : Value} (h : v.Childless) (limit : Limit) (d : Nat) :
    v.FitsUnder limit d := by
  cases v with
  | element e => exact h.elim
  | _ => exact h

end Value

/-- The regime of builds from texts without parentheses and from data. -/
def Regime.unparenthesized (env : BuildEnv) : Regime where
  env
  held := Value.Childless
  yielded := Value.FitsUnder env.settings.maxDepth
  fault _ := True
  source := Unparenthesized
  parens := False
  scope _ := True
  own _ := True
  lax := False

namespace Regime

variable {env : BuildEnv}

theorem reads_unparenthesized : (unparenthesized env).Reads where
  str _ := trivial
  int _ := trivial
  float _ := trivial
  badSyntax _ _ := trivial
  tooManyDigits _ _ := trivial

/-- An element that is made of children which fit one deeper fits, if it may be built. -/
theorem grows_unparenthesized (d : Nat) (tag : QName) (attributes : List Attribute)
    {children : List Node} (hdepth : env.settings.maxDepth.isExceededBy (d + 1) = .ok false)
    (hchildren : ∀ n ∈ children, (unparenthesized env).Bears (d + 1) n) :
    (unparenthesized env).Grows d ⟨tag, attributes, children⟩ := by
  change env.settings.maxDepth.isExceededBy (d + (Node.heightOfAll children + 1)) = .ok false
  rcases Node.heightOfAll_cases children with hnone | ⟨tag', attributes', inner, hmem, hheight⟩
  · rw [hnone]
    exact hdepth
  · have hchild : env.settings.maxDepth.isExceededBy
        (d + 1 + Element.height ⟨tag', attributes', inner⟩) = .ok false := hchildren _ hmem
    rw [hheight, Nat.add_comm (Element.height _) 1, ← Nat.add_assoc]
    exact hchild

/-- **Every build can keep to the regime**, if the configuration passes its checks and its
constructor is a word. -/
theorem lawful_unparenthesized {config : CompilerConfig} (hconfig : config.check = .ok ())
    (hword : IsCommandWord config.elementConstructor.plain)
    (hcompiler : env.settings.compiler = config.settings) : (unparenthesized env).Lawful where
  members := Value.keepsMembers_childless
  name _ := trivial
  scope_iff _ := Iff.rfl
  scope_of_own _ _ := trivial
  own_root := trivial
  block _ _ _ hsource _ := hsource
  source_of_block _ h := h
  template _ h := h.elim
  compiles knows version registry source c h hsource := by
    change c.Holds env.settings.compiler knows version at h
    rw [hcompiler] at h
    split
    · rename_i t hok
      change (c.compile env.settings.compiler _ registry source).outcome = .ok t at hok
      rw [hcompiler, @Cache.Holds.outcome_of_check _ hconfig ⟨true, some knows, version⟩ rfl _ rfl _
        h] at hok
      split at hok
      · cases hok
      · obtain ⟨hread, hnone, hgroups⟩ := Unparenthesized.ofSource hsource
          (Lexer.begins_of_isCommandWord hword) hok
        refine statementsMeet_ofTokens reads_unparenthesized
          (numbersMeet_of_read reads_unparenthesized hread) (fun t ht hkind => ?_) hgroups
        exact hnone (List.mem_map.mpr ⟨t, ht, hkind⟩)
    · trivial
  steady _ _ registry source _ _ h h' :=
    Cache.Holds.outcome_eq hconfig hcompiler h h' registry source
  operation _ _ _ _ := trivial
  routine _ _ h := h.elim
  yields d _ h := h.fitsUnder _ d
  content d v h hblock := by
    cases v with
    | block b => exact .leaf rfl (h.holds_of_leaf rfl)
    | operation o => exact .leaf rfl (h.holds_of_leaf rfl)
    | template t => exact (h.holds_of_leaf rfl).elim
    | routine mode steps => exact h.of_routine.1.elim
    | _ => cases hblock
  paren h := h.elim
  grows := grows_unparenthesized
  xml _ _ _ h := h.elim
  ofBuild _ _ := trivial
  exhausted := trivial
  emptyLocalName := trivial
  malformedName _ := trivial
  emptyNamespace := trivial
  overflow _ := trivial
  marker _ := trivial
  duplicates _ := trivial
  limit _ _ _ := trivial
  all h := h.elim

end Regime

/-! ## Documents -/

/-- **How high the tree of a document is whose content is a text without parentheses.** It does not
exceed the limit; and if the tree that comes about under a higher limit does, then an element is
found nested too deeply. -/
theorem buildDocument_height {config : Config} (hconfig : config.check = .ok ())
    (hword : IsCommandWord config.compiler.elementConstructor.plain) (clock : Clock) (root : Value)
    {source : String} (hsource : Unparenthesized source) {parameters : List (String × Value)}
    (hparameters : ∀ b ∈ parameters, b.2.IsData) :
    let request : DocumentRequest := { root, content := .str source, parameters }
    let limit := config.settings.maxDepth
    (∀ doc, buildDocument config clock request = .ok doc →
      limit.isExceededBy doc.root.height = .ok false) ∧
    ∀ setting doc, limit.AtMost (Limit.ofJson setting) →
      buildDocument (config.withMaxDepth setting) clock request = .ok doc →
        limit.isExceededBy doc.root.height = .ok true →
          ∃ tag, buildDocument config clock request =
            .error (.tooDeep config.builder.maxDepth config.builder.maxDepth.shown tag) := by
  intro request limit
  let env : BuildEnv := ⟨config.settings, 0, none⟩
  obtain ⟨hcompiler, -, hdocument⟩ := Config.components_of_check hconfig
  have L : (Regime.unparenthesized env).Lawful :=
    Regime.lawful_unparenthesized hcompiler hword rfl
  have hcommands : ∀ c ∈ Command.builtins clock, (Regime.unparenthesized env).Admits c :=
    fun c hc => Regime.admits_builtins (fun _ => trivial) (fun _ => trivial) hc
  have hbounded : ∀ doc, buildDocument config clock request = .ok doc →
      limit.isExceededBy doc.root.height = .ok false := by
    intro doc hdoc
    obtain ⟨hgrows, -⟩ := Regime.buildDocument_meets L rfl (fun _ => trivial) hcommands
      request (fun root s => Build.exists_documentOf hdocument rfl rfl env root s)
      ⟨nofun, fun _ heq => Value.str.inj heq ▸ hsource, fun hstr => absurd rfl (hstr source)⟩
      fun b hb => (hparameters b hb).every_childless
    have hroot : limit.isExceededBy (0 + doc.root.height) = .ok false := hgrows doc hdoc
    rwa [Nat.zero_add] at hroot
  refine ⟨hbounded, fun setting doc hlimit hdoc hhigh => ?_⟩
  refine (buildDocument_withMaxDepth hlimit clock request).resolve_left fun hsame => ?_
  have hlow := hbounded doc (hsame.trans hdoc)
  rw [hhigh] at hlow
  cases hlow

/-- The default configuration with another limit. -/
def limited (n : Int) : Config := ({} : Config).withMaxDepth (.int n)

/-- What comes of a text without element words, under a limit that the root element keeps to. -/
theorem exists_buildDocument_limited {n : Int} (hcheck : (limited n).check = .ok ())
    (hdepth : (limited n).settings.maxDepth.isExceededBy 1 = .ok false) {source : String}
    {ts : List Token} (hread : tokenize source = .ok ts)
    (hwords : Token.elementWords (Session.newTable {} stoppedClock).canResolve true ts = []) :
    let env : BuildEnv := ⟨(limited n).settings, 0, none⟩
    let E := engine env nestingBound
    let tag : QName := ⟨"r", none⟩
    ∃ ready : BuildState,
      ready.view =
        ⟨.empty, ⟨#[⟨[], none⟩, ⟨[], some 0⟩]⟩, .empty, Session.newTable {} stoppedClock, 1⟩ ∧
      (buildDocument (limited n) stoppedClock { root := .str "r", content := .str source }).map
          Document.root =
        ((Build.drain E env 1 "ScriptBlock" (fun parts vs => Build.feedAll E env tag vs parts)
            ((Script.ofTokens source ts).map .statement) 0 {} >>= Build.finish env tag) ready).1.map
          fun parts => ⟨tag, parts.attributes, parts.children⟩ := by
  obtain ⟨t, hmade, hscript⟩ := Template.ofSource_of_no_words .empty
    (limited n).compiler.settings.constructor hread hwords
  rw [← hscript]
  exact buildDocument_text hcheck stoppedClock (fun _ => rfl) rfl hdepth
    (CompilerConfig.usable rfl rfl) hmade

/-- An element inside of the root element. -/
def elementText : String := "New-XElement a"

/-- An element that is made between parentheses, inside of an element inside of the root element. -/
def parenthesizedText : String := "New-XElement a (New-XElement b)"

theorem exists_buildDocument_element :
    ∃ doc, buildDocument (limited 2) stoppedClock
      { root := .str "r", content := .str elementText } = .ok doc ∧ doc.root.height = 2 := by
  have hread : tokenize elementText = .ok [⟨.command, "New-XElement", ⟨1, 1⟩, 12, 0, 0⟩,
    ⟨.argument, "a", ⟨1, 14⟩, 1, 0, 13⟩] := rfl
  obtain ⟨⟨_, _, _, _, _, _, _, _, _, _⟩, hview, hroot⟩ :=
    @exists_buildDocument_limited 2 rfl rfl _ _ hread rfl
  cases hview
  let built : Element := ⟨⟨"r", none⟩, [], [.element ⟨"a", none⟩ [] []]⟩
  obtain ⟨doc, hdoc, hbuilt⟩ := exists_of_map_ok (hroot.trans (show _ = Except.ok built from rfl))
  exact ⟨doc, hdoc, by rw [hbuilt]; rfl⟩

/-- A text without parentheses: under a limit of one element its tree is given up. -/
theorem buildDocument_height_element :
    (limited 1).check = .ok () ∧ IsCommandWord (limited 1).compiler.elementConstructor.plain ∧
      Unparenthesized elementText ∧
      (limited 1).settings.maxDepth.AtMost (Limit.ofJson (.int 2)) ∧
      ∃ doc, buildDocument (limited 2) stoppedClock
        { root := .str "r", content := .str elementText } = .ok doc ∧ doc.root.height = 2 ∧
        ∃ tag, buildDocument (limited 1) stoppedClock
          { root := .str "r", content := .str elementText } =
            .error (.tooDeep (.int 1) "1" tag) := by
  have hword : IsCommandWord "New-XElement" := ⟨_, rfl, rfl, rfl⟩
  have hsource : Unparenthesized elementText := by
    intro ts hts
    cases hts
    decide
  have hlimit : (limited 1).settings.maxDepth.AtMost (Limit.ofJson (.int 2)) :=
    Limit.atMost_whole (by decide)
  obtain ⟨doc, hdoc, hheight⟩ := exists_buildDocument_element
  obtain ⟨-, hdeep⟩ := @buildDocument_height (limited 1) rfl hword stoppedClock (.str "r") _
    hsource [] nofun
  refine ⟨rfl, hword, hsource, hlimit, doc, hdoc, hheight, ?_⟩
  exact hdeep (.int 2) doc hlimit hdoc (by rw [hheight]; rfl)

/-- The statement of that text. -/
def parenthesizedStatement : Statement :=
  .mk (some "New-XElement") [[.constant (.str "a")],
    [.paren [.mk (some "New-XElement") [[.constant (.str "b")]]]]]

/-- It yields an element in another one, each of which was built while one other was. -/
theorem statement_parenthesized (E : Engine) {ready : BuildState} (hview : ready.view =
    ⟨.empty, ⟨#[⟨[], none⟩, ⟨[], some 0⟩]⟩, .empty, Session.newTable {} stoppedClock, 1⟩) :
    (Build.statement E ⟨(limited 2).settings, 0, none⟩ 1 parenthesizedStatement ready).1 =
      .ok [.element ⟨⟨"a", none⟩, [], [.element ⟨"b", none⟩ [] []]⟩] := by
  obtain ⟨_, _, _, _, words, cache, _, diagnostics, metrics, log⟩ := ready
  cases hview
  let ready : BuildState := ⟨.empty, ⟨#[⟨[], none⟩, ⟨[], some 0⟩]⟩, .empty,
    Session.newTable {} stoppedClock, words, cache, 1, diagnostics, metrics, log⟩
  have hrows : (Build.rows E ⟨(limited 2).settings, 0, none⟩ 1 [[.constant (.str "a")],
      [.paren [.mk (some "New-XElement") [[.constant (.str "b")]]]]] ready).1 =
        .ok [.str "a", .element ⟨⟨"b", none⟩, [], []⟩] := rfl
  rw [parenthesizedStatement, Build.statement]
  exact congrArg Prod.fst (Build.bind_of_ok (Prod.ext hrows rfl) _)

/-- **With parentheses a tree can be higher than the limit.** -/
theorem buildDocument_parenthesized :
    ∃ doc, buildDocument (limited 2) stoppedClock
        { root := .str "r", content := .str parenthesizedText } = .ok doc ∧
      doc.root.height = 3 ∧
      (limited 2).settings.maxDepth.isExceededBy doc.root.height = .ok true := by
  let ts : List Token := [⟨.command, "New-XElement", ⟨1, 1⟩, 12, 0, 0⟩,
    ⟨.argument, "a", ⟨1, 14⟩, 1, 0, 13⟩, ⟨.parenStart, "(", ⟨1, 16⟩, 1, 0, 15⟩,
    ⟨.command, "New-XElement", ⟨1, 17⟩, 12, 0, 16⟩, ⟨.argument, "b", ⟨1, 30⟩, 1, 0, 29⟩,
    ⟨.parenEnd, ")", ⟨1, 31⟩, 1, 0, 30⟩]
  have hread : tokenize parenthesizedText = .ok ts := rfl
  have hscript : Script.ofTokens parenthesizedText ts = [parenthesizedStatement] := rfl
  obtain ⟨ready, hview, hroot⟩ := @exists_buildDocument_limited 2 rfl rfl _ _ hread rfl
  rw [hscript, List.map_cons, Build.drain, Build.task, bind_assoc,
    Build.bind_of_ok (Prod.ext (statement_parenthesized _ hview) rfl)] at hroot
  obtain ⟨_, _, _, _, _, _, _, _, _, _⟩ := ready
  cases hview
  let built : Element :=
    ⟨⟨"r", none⟩, [], [.element ⟨"a", none⟩ [] [.element ⟨"b", none⟩ [] []]]⟩
  obtain ⟨doc, hdoc, hbuilt⟩ := exists_of_map_ok (hroot.trans (show _ = Except.ok built from rfl))
  refine ⟨doc, hdoc, ?_, ?_⟩
  · rw [hbuilt]
    rfl
  · rw [hbuilt]
    rfl

end TagScript
