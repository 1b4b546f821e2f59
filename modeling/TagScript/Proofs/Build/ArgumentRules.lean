import TagScript.Proofs.Build.Declarations

/-!
# The rules of arguments

A row of arguments falls into pieces of one or two arguments, and each piece follows one rule: it is
content, or declares a namespace, or makes an attribute, or cannot be used. Which rules a row
follows can be read off without building anything, and an element that takes the row does what they
say, one after another.

* `ArgumentRule`, `ArgumentRule.args`, `ArgumentRule.problem?` — the rules, the arguments that
  follow one, and what is reported of them.
* `Arguments.rules` — the rules that a row follows.
* **`Arguments.args_rules`** — every argument of a row follows exactly one of them.
* **`Arguments.flagsFollowed_rules`** — a name is dropped without a report only before an argument
  that is written like a parameter.
* `Build.applyRule`, `Build.Applied` — what a rule does, and what rules do one after another.
* **`Build.gathered_applied`** — an element does what the rules of its arguments say.
-/

namespace TagScript

/-- The argument that a name was given as. -/
def Head.value : Head → Value
  | .word text => .str text
  | .name q => .name q

theorem Value.head?_eq_some {v : Value} {head : Head} (h : v.head? = some head) :
    v = head.value := by
  unfold head? at h
  split at h
  · cases h
    rfl
  · cases h
    rfl
  · cases h

namespace Head

variable (marker : Option String) (head : Head)

/-- How a name is read with content behind it. -/
theorem reading_of_content {v : Value} (h : v.isContentBlock = true) :
    head.reading marker v = (head.marksContent marker).map fun marks =>
      if marks then .content else if v.isFlag then .flag else .attribute := by
  cases v with
  | block _ | template _ | routine _ _ | operation _ =>
    unfold reading
    rw [h, if_pos rfl]
    -- the text of the argument, which says whether it is a parameter, need not be looked into
    generalize Value.isFlag _ = flag
    rcases head.marksContent marker with fault | marks
    · rfl
    · cases marks <;> rfl
  | _ => cases h

/-- How a name is read with an argument behind it that is neither content nor a namespace nor null.
-/
theorem reading_of_value {v : Value} (hcontent : v.isContentBlock = false)
    (hns : ∀ n, v ≠ .ns n) (hnull : v ≠ .null) :
    head.reading marker v = .ok (if v.isFlag then .flag else .attribute) := by
  cases v with
  | block _ | template _ | routine _ _ | operation _ => cases hcontent
  | ns n => exact absurd rfl (hns n)
  | null => exact absurd rfl hnull
  | _ => rfl

/-- What is known of an argument from how a name is read with it. -/
theorem reading_spec {marker : Option String} {head : Head} {v : Value} {reading : Reading}
    (h : head.reading marker v = .ok reading) :
    (∀ n, reading = .declaration n → v = .ns n) ∧ (reading = .nothing → v = .null) ∧
      (reading = .flag → v.isFlag = true) := by
  have hflag {r : Reading} (hr : r = if v.isFlag then Reading.flag else .attribute) :
      (∀ n, r = .declaration n → v = .ns n) ∧ (r = .nothing → v = .null) ∧
        (r = .flag → v.isFlag = true) := by
    subst hr
    split
    · rename_i hv
      exact ⟨nofun, nofun, fun _ => hv⟩
    · exact ⟨nofun, nofun, nofun⟩
  by_cases hcontent : v.isContentBlock = true
  · rw [reading_of_content marker head hcontent] at h
    rcases hmarks : head.marksContent marker with fault | marks
    · rw [hmarks] at h
      cases h
    · rw [hmarks] at h
      cases marks with
      | true =>
        cases h
        exact ⟨nofun, nofun, nofun⟩
      | false => exact hflag (Except.ok.inj h).symm
  · by_cases hnull : v = .null
    · subst hnull
      cases h
      exact ⟨nofun, fun _ => rfl, nofun⟩
    · by_cases hns : ∃ n, v = .ns n
      · obtain ⟨n, rfl⟩ := hns
        cases h
        refine ⟨fun m heq => ?_, nofun, nofun⟩
        cases heq
        rfl
      · rw [reading_of_value marker head (by simpa using hcontent) (fun n heq => hns ⟨n, heq⟩)
          hnull] at h
        exact hflag (Except.ok.inj h).symm

end Head

/-- Whether a name is nothing but decoration. -/
def Head.isNameless : Head → Bool
  | .word text => argumentName text == ""
  | .name _ => false

/-- What one argument does, or a name and the argument behind it. -/
inductive ArgumentRule where
  /-- Null does nothing. -/
  | idle
  /-- A node becomes a child. -/
  | child (v : Value)
  /-- Content is run. -/
  | content (block : Value)
  /-- Content behind the content marker is run. -/
  | marked (head : Head) (block : Value)
  /-- A name and a namespace declare a prefix. -/
  | declaration (head : Head) (n : Namespace)
  /-- A name and a value make an attribute. -/
  | attribute (head : Head) (v : Value)
  /-- A name is dropped, because an argument that is written like a parameter follows. -/
  | flag (head : Head)
  /-- A name has null behind it. -/
  | valueless (head : Head)
  /-- A name has nothing behind it. -/
  | unpaired (head : Head)
  /-- A name that is nothing but decoration has a value. -/
  | nameless (head : Head) (v : Value)
  /-- A name that is no prefix has a namespace behind it. -/
  | badPrefix (head : Head) (n : Namespace)
  /-- An argument is neither a name nor content. -/
  | unfit (v : Value)
  /-- Content stands behind a name, but the content marker is no text. -/
  | unreadable (head : Head) (v : Value)

namespace ArgumentRule

/-- The arguments that follow the rule. -/
def args : ArgumentRule → List Value
  | .idle => [.null]
  | .child v | .content v | .unfit v => [v]
  | .marked head v | .attribute head v | .nameless head v | .unreadable head v => [head.value, v]
  | .declaration head n | .badPrefix head n => [head.value, .ns n]
  | .flag head | .unpaired head => [head.value]
  | .valueless head => [head.value, .null]

/-- Whether the arguments are read as content, as a name and a value, or as a prefix and a URI. -/
def isRead : ArgumentRule → Bool
  | .child _ | .content _ | .marked .. | .declaration .. | .attribute .. => true
  | _ => false

/-- What is reported of an argument that is neither a name nor content. -/
def unfitness : Value → ArgumentProblem × String
  | .xml t _ => (.notElementContent, t.markup)
  | v => (.notAName v.shown, v.shown)

/-- What is reported, and of which argument. -/
def problem? : ArgumentRule → Option (ArgumentProblem × String)
  | .valueless head | .unpaired head => some (.noValue head.shown, head.shown)
  | .nameless head _ => some (.emptyName, head.nameShown)
  | .badPrefix head _ => some (.invalidPrefix head.nameShown, head.nameShown)
  | .unfit v => some (unfitness v)
  | _ => none

/-- The rule that an argument that is no name follows by itself. -/
def ofSingle : Value → ArgumentRule
  | .null => .idle
  | .element e => .child (.element e)
  | .text s => .child (.text s)
  | .xml (.element name ds as nodes) tail => .child (.xml (.element name ds as nodes) tail)
  | v => if v.isContentBlock then .content v else .unfit v

/-- The rule that a name follows, by the way it is read with the argument behind it. -/
def ofReading (head : Head) (v : Value) : Reading → ArgumentRule
  | .content => .marked head v
  | .declaration n => if (head.binding? n).isSome then .declaration head n else .badPrefix head n
  | .flag => .flag head
  | .attribute => if head.isNameless then .nameless head v else .attribute head v
  | .nothing => .valueless head

end ArgumentRule

namespace Arguments

variable (marker : Option String)

/-- The rules that one more argument completes: its own, unless it is a name, which waits. -/
def ownRules (v : Value) : List ArgumentRule :=
  if v.head?.isSome then [] else [ArgumentRule.ofSingle v]

/-- The rules that one more argument completes, with the name that waits for it. -/
def stepRules (waiting : Option Head) (v : Value) : List ArgumentRule :=
  match waiting with
  | none => ownRules v
  | some head =>
    match head.reading marker v with
    | .ok .flag => ArgumentRule.flag head :: ownRules v
    | .ok reading => [ArgumentRule.ofReading head v reading]
    | .error _ => [.unreadable head v]

/-- The rules that a row of arguments completes. -/
def rowRules (waiting : Option Head) : List Value → List ArgumentRule
  | [] => []
  | v :: row => stepRules marker waiting v ++ rowRules (nextWaiting marker waiting v) row

/-- The rules that a row of arguments follows. -/
def rules (waiting : Option Head) (row : List Value) : List ArgumentRule :=
  rowRules marker waiting row ++ (waitingAfter marker waiting row).toList.map .unpaired

variable {marker}

theorem rowRules_append (waiting : Option Head) (row more : List Value) :
    rowRules marker waiting (row ++ more) =
      rowRules marker waiting row ++
        rowRules marker (waitingAfter marker waiting row) more := by
  induction row generalizing waiting with
  | nil => rfl
  | cons v row ih =>
    rw [List.cons_append, rowRules, rowRules, ih, List.append_assoc]
    rfl

theorem rules_cons (waiting : Option Head) (v : Value) (row : List Value) :
    rules marker waiting (v :: row) =
      stepRules marker waiting v ++ rules marker (nextWaiting marker waiting v) row := by
  rw [rules, rules, rowRules, List.append_assoc]
  rfl

/-! ## Every argument follows one rule -/

theorem args_ofSingle (v : Value) : (ArgumentRule.ofSingle v).args = [v] := by
  unfold ArgumentRule.ofSingle
  split
  · rfl
  · rfl
  · rfl
  · rfl
  · split <;> rfl

/-- What an argument completes by itself, and what waits then. -/
theorem args_ownRules (v : Value) :
    (ownRules v).flatMap ArgumentRule.args ++ v.head?.toList.map Head.value = [v] := by
  unfold ownRules
  cases hv : v.head? with
  | none => simp [args_ofSingle]
  | some head => simp [Value.head?_eq_some hv]

theorem args_ofReading {head : Head} {v : Value} {reading : Reading}
    (h : head.reading marker v = .ok reading) (hflag : reading ≠ .flag) :
    (ArgumentRule.ofReading head v reading).args = [head.value, v] := by
  obtain ⟨hdeclaration, hnothing, -⟩ := Head.reading_spec h
  match reading with
  | .content => rfl
  | .declaration n =>
    rw [hdeclaration n rfl]
    dsimp only [ArgumentRule.ofReading]
    split <;> rfl
  | .flag => exact absurd rfl hflag
  | .attribute =>
    dsimp only [ArgumentRule.ofReading]
    split <;> rfl
  | .nothing =>
    rw [hnothing rfl]
    rfl

theorem ofReading_ne {head : Head} {v : Value} {reading : Reading} (hflag : reading ≠ .flag)
    (other : Head) : ArgumentRule.ofReading head v reading ≠ .flag other := by
  intro heq
  unfold ArgumentRule.ofReading at heq
  split at heq
  · cases heq
  · split at heq <;> cases heq
  · exact hflag rfl
  · split at heq <;> cases heq
  · cases heq

theorem stepRules_of_ok {head : Head} {v : Value} {reading : Reading}
    (h : head.reading marker v = .ok reading) (hflag : reading ≠ .flag) :
    stepRules marker (some head) v = [.ofReading head v reading] ∧
      nextWaiting marker (some head) v = none := by
  rw [nextWaiting_some h, stepRules, h]
  cases reading with
  | flag => exact absurd rfl hflag
  | _ => exact ⟨rfl, rfl⟩

theorem stepRules_of_flag {head : Head} {v : Value}
    (h : head.reading marker v = .ok .flag) :
    stepRules marker (some head) v = .flag head :: ownRules v ∧
      nextWaiting marker (some head) v = v.head? := by
  rw [nextWaiting_some h, stepRules, h]
  exact ⟨rfl, rfl⟩

/-- The arguments that follow the rules completed so far, and the one that waits. -/
theorem args_stepRules (waiting : Option Head) (v : Value) :
    (stepRules marker waiting v).flatMap ArgumentRule.args ++
        (nextWaiting marker waiting v).toList.map Head.value =
      waiting.toList.map Head.value ++ [v] := by
  cases waiting with
  | none => exact args_ownRules v
  | some head =>
    cases hreading : head.reading marker v with
    | error fault => simp [stepRules, nextWaiting, hreading, ArgumentRule.args]
    | ok reading =>
      by_cases hflag : reading = .flag
      · subst hflag
        obtain ⟨hrules, hwaiting⟩ := stepRules_of_flag hreading
        rw [hrules, hwaiting, List.flatMap_cons, List.append_assoc, args_ownRules]
        rfl
      · obtain ⟨hrules, hwaiting⟩ := stepRules_of_ok hreading hflag
        rw [hrules, hwaiting, List.flatMap_singleton, args_ofReading hreading hflag]
        rfl

/-- **Every argument of a row follows exactly one rule**, and the rules stand in the order of their
arguments. -/
theorem args_rules (waiting : Option Head) (row : List Value) :
    (rules marker waiting row).flatMap ArgumentRule.args =
      waiting.toList.map Head.value ++ row := by
  induction row generalizing waiting with
  | nil =>
    cases waiting with
    | none => rfl
    | some head => rfl
  | cons v row ih =>
    rw [rules_cons, List.flatMap_append, ih, ← List.append_assoc, args_stepRules,
      List.append_assoc]
    rfl

/-! ## Names without values -/

/-- Whether each name that is dropped stands before an argument that is written like a parameter. -/
def FlagsFollowed (rules : List ArgumentRule) : Prop :=
  ∀ head after, .flag head :: after <:+ rules →
    ∃ v rest, after.flatMap ArgumentRule.args = v :: rest ∧ v.isFlag = true

theorem FlagsFollowed.cons {r : ArgumentRule} {rules : List ArgumentRule}
    (hr : ∀ head, r = .flag head →
      ∃ v rest, rules.flatMap ArgumentRule.args = v :: rest ∧ v.isFlag = true)
    (h : FlagsFollowed rules) : FlagsFollowed (r :: rules) := by
  intro head after hsuffix
  rcases List.suffix_cons_iff.mp hsuffix with heq | hrest
  · cases heq
    exact hr head rfl
  · exact h head after hrest

theorem FlagsFollowed.own {v : Value} {rules : List ArgumentRule} (h : FlagsFollowed rules) :
    FlagsFollowed (ownRules v ++ rules) := by
  unfold ownRules
  split
  · exact h
  · refine h.cons fun head heq => ?_
    unfold ArgumentRule.ofSingle at heq
    split at heq
    · cases heq
    · cases heq
    · cases heq
    · cases heq
    · split at heq <;> cases heq

/-- **A name is dropped only before an argument that is written like a parameter.** -/
theorem flagsFollowed_rules (waiting : Option Head) (row : List Value) :
    FlagsFollowed (rules marker waiting row) := by
  induction row generalizing waiting with
  | nil =>
    cases waiting with
    | none => exact fun _ _ h => absurd (List.suffix_nil.mp h) (List.cons_ne_nil _ _)
    | some head =>
      refine FlagsFollowed.cons nofun ?_
      exact fun _ _ h => absurd (List.suffix_nil.mp h) (List.cons_ne_nil _ _)
  | cons v row ih =>
    rw [rules_cons]
    cases waiting with
    | none => exact (ih _).own
    | some head =>
      cases hreading : head.reading marker v with
      | error fault =>
        rw [stepRules, hreading]
        exact FlagsFollowed.cons nofun (ih _)
      | ok reading =>
        by_cases hflag : reading = .flag
        · subst hflag
          obtain ⟨hrules, hwaiting⟩ := stepRules_of_flag hreading
          rw [hrules, hwaiting, List.cons_append]
          refine FlagsFollowed.cons (fun _ _ => ⟨v, row, ?_, ?_⟩) (ih _).own
          · rw [List.flatMap_append, args_rules, ← List.append_assoc, args_ownRules]
            rfl
          · exact (Head.reading_spec hreading).2.2 rfl
        · obtain ⟨hrules, hwaiting⟩ := stepRules_of_ok hreading hflag
          rw [hrules, List.singleton_append]
          exact FlagsFollowed.cons (fun other heq => absurd heq (ofReading_ne hflag other)) (ih _)

end Arguments

/-- The parts without the name that waits. -/
def Parts.settled (parts : Parts) : Parts :=
  { parts with pending := none }

theorem Parts.settled_eq {parts : Parts} (h : parts.pending = none) : parts.settled = parts := by
  rw [settled, ← h]

namespace Build

/-! ## What rules do -/

section

variable (E : Engine) (env : BuildEnv) (tag : QName)

/-- Reports an argument and leaves the parts as they are. -/
def drop (parts : Parts) (problem : ArgumentProblem × String) : Build Parts := do
  malformed env tag problem.1 problem.2
  pure parts

/-- Makes an attribute of a name and a value. -/
def pairUp (parts : Parts) (head : Head) (v : Value) : Build Parts := do
  let name ← attributeName env tag head
  let text ← attributeText E env v
  match name with
  | some name => addAttribute env tag parts name text
  | none => pure parts

/-- Does what a rule says. -/
def applyRule (parts : Parts) : ArgumentRule → Build Parts
  | .idle | .flag _ => pure parts
  | .child v => addChildren env tag parts [v]
  | .content block | .marked _ block => addContent E env tag parts block
  | .declaration head n => declare env tag parts head n
  | .attribute head v => pairUp E env tag parts head v
  | .badPrefix head _ => drop env tag parts (.invalidPrefix head.nameShown, head.nameShown)
  | .nameless head v => do
    malformed env tag .emptyName head.nameShown
    let _ ← attributeText E env v
    pure parts
  | .valueless head | .unpaired head => drop env tag parts (.noValue head.shown, head.shown)
  | .unfit v => drop env tag parts (ArgumentRule.unfitness v)
  | .unreadable .. => fail .missingMember

/-- Rules that were applied one after another, while chunks were taken in between. -/
inductive Applied : Parts → BuildState → List ArgumentRule → Parts → BuildState → Prop where
  /-- There is no rule. -/
  | nil (parts : Parts) (s : BuildState) : Applied parts s [] parts s
  /-- A rule is applied. -/
  | rule {parts parts₁ parts' : Parts} {s s₁ s' : BuildState} {r : ArgumentRule}
      {rules : List ArgumentRule} (h : applyRule E env tag parts r s = (.ok parts₁, s₁))
      (rest : Applied parts₁ s₁ rules parts' s') : Applied parts s (r :: rules) parts' s'
  /-- A stream is asked for its next chunk. -/
  | chunk {parts parts' : Parts} {s s₁ s' : BuildState} {rules : List ArgumentRule}
      {id : StreamId} {chunk : Option (List Value)} (h : nextChunk id s = (.ok chunk, s₁))
      (rest : Applied parts s₁ rules parts' s') : Applied parts s rules parts' s'

end

variable {E : Engine} {env : BuildEnv} {tag : QName} {parts parts₁ parts' : Parts}
  {s s₁ s' : BuildState}

namespace Applied

theorem single {r : ArgumentRule} (h : applyRule E env tag parts r s = (.ok parts', s')) :
    Applied E env tag parts s [r] parts' s' :=
  .rule h (.nil parts' s')

theorem append {rules more : List ArgumentRule} (h : Applied E env tag parts s rules parts₁ s₁)
    (h' : Applied E env tag parts₁ s₁ more parts' s') :
    Applied E env tag parts s (rules ++ more) parts' s' := by
  induction h with
  | nil _ _ => exact h'
  | rule hrule _ ih => exact .rule hrule (ih h')
  | chunk hchunk _ ih => exact .chunk hchunk (ih h')

end Applied

/-- XML that is no element is reported in the place of a child. -/
theorem addChildren_foreign {t : Xml.Tree} {tail : Option String}
    (h : child? env tag (.xml t tail) = do
      malformed env tag .notElementContent t.markup
      pure none) :
    addChildren env tag parts [.xml t tail] =
      drop env tag parts (ArgumentRule.unfitness (.xml t tail)) := by
  rw [addChildren, h, bind_assoc]
  simp only [pure_bind, addChildren, Option.toList_none, List.append_nil]
  rfl

/-- An argument that no name waits for does what its own rule says. -/
theorem takeFirst_applied {v : Value} (hnone : parts.pending = none)
    (h : takeFirst E env tag parts v s = (.ok parts', s')) :
    Applied E env tag parts s (Arguments.ownRules v) parts'.settled s' := by
  have hwaiting := pending_takeFirst hnone h
  have hsettled : v.head? = none → parts'.settled = parts' :=
    fun hv => Parts.settled_eq (hwaiting.trans hv)
  have hother (v : Value) (hv : Arguments.ownRules v =
        [if v.isContentBlock then .content v else .unfit v])
      (hfit : ArgumentRule.unfitness v = (.notAName v.shown, v.shown))
      (hstep : takeFirst E env tag parts v = if v.isContentBlock then addContent E env tag parts v
        else do
          malformed env tag (.notAName v.shown) v.shown
          pure parts)
      (h : takeFirst E env tag parts v s = (.ok parts', s')) :
      Applied E env tag parts s (Arguments.ownRules v) parts' s' := by
    rw [hv]
    rw [hstep] at h
    split at h
    · rename_i hcontent
      rw [if_pos hcontent]
      exact .single h
    · rename_i hcontent
      rw [if_neg hcontent]
      refine .single ?_
      rw [applyRule, hfit]
      exact h
  cases v with
  | null =>
    cases h
    rw [hsettled rfl]
    exact .single rfl
  | str _ | name _ =>
    cases h
    have hself : Applied E env tag parts s [] parts.settled s := by
      rw [Parts.settled_eq hnone]
      exact .nil parts s
    exact hself
  | element _ | text _ =>
    rw [hsettled rfl]
    exact .single h
  | xml t tail =>
    rw [hsettled rfl]
    cases t with
    | element _ _ _ _ => exact .single h
    | text _ | comment _ | instruction _ _ =>
      refine .single ?_
      rw [takeFirst, addChildren_foreign rfl] at h
      exact h
  | _ =>
    rw [hsettled rfl]
    exact hother _ rfl rfl rfl h

/-- A name that is no prefix is reported. -/
theorem declare_of_binding?_none {head : Head} {n : Namespace} (h : head.binding? n = none) :
    declare env tag parts head n =
      drop env tag parts (.invalidPrefix head.nameShown, head.nameShown) := by
  unfold Head.binding? at h
  unfold declare
  split at h
  · cases h
  · rename_i hxmlns
    rw [if_neg hxmlns]
    split at h
    · rename_i hunusable
      dsimp only
      rw [if_pos hunusable]
      rfl
    · cases h

/-- A name that is nothing but decoration is reported, and then its value is made into text. -/
theorem pairUp_nameless {head : Head} (h : head.isNameless = true) (v : Value) :
    pairUp E env tag parts head v = applyRule E env tag parts (.nameless head v) := by
  unfold pairUp
  cases head with
  | name _ => cases h
  | word text =>
    have hempty : argumentName text = "" := by simpa [Head.isNameless] using h
    simp only [attributeName, applyRule, Head.nameShown, hempty, if_true, bind_assoc, pure_bind]

/-- What a name and the argument behind it do, by the way they are read. -/
theorem takeSecond_applied {head : Head} {v : Value} (hnone : parts.pending = none)
    (hwaiting : parts'.pending = Arguments.nextWaiting env.settings.contentMarker (some head) v)
    (h : takeSecond E env tag parts head v s = (.ok parts', s')) :
    Applied E env tag parts s (Arguments.stepRules env.settings.contentMarker (some head) v)
      parts'.settled s' := by
  obtain ⟨reading, s₁, hlift, hrest⟩ := exists_of_bind_ok h
  obtain ⟨hreading, rfl⟩ := Prod.mk.inj hlift
  by_cases hflag : reading = .flag
  · subst hflag
    rw [(Arguments.stepRules_of_flag hreading).1]
    exact .rule rfl (takeFirst_applied hnone hrest)
  · obtain ⟨hrules, hnext⟩ := Arguments.stepRules_of_ok hreading hflag
    rw [hrules, Parts.settled_eq (hwaiting.trans hnext)]
    refine .single ?_
    match reading with
    | .content => exact hrest
    | .declaration n =>
      dsimp only [ArgumentRule.ofReading]
      split
      · exact hrest
      · rename_i hbinding
        have hdeclare := @declare_of_binding?_none env tag parts head n (by simpa using hbinding)
        exact (congrFun hdeclare s).symm.trans hrest
    | .flag => exact absurd rfl hflag
    | .attribute =>
      dsimp only [ArgumentRule.ofReading]
      split
      · rename_i hnameless
        exact (congrFun (pairUp_nameless hnameless v) s).symm.trans hrest
      · exact hrest
    | .nothing => exact hrest

/-- **An element that takes an argument does what the rules say that it completes.** -/
theorem take_applied (hE : Engine.Related (Keeps OnlyBinds) E E) {v : Value}
    (h : take E env tag parts v s = (.ok parts', s')) :
    Applied E env tag parts.settled s
      (Arguments.stepRules env.settings.contentMarker parts.pending v) parts'.settled s' := by
  have hwaiting : parts'.pending =
      Arguments.nextWaiting env.settings.contentMarker parts.pending v :=
    (take_taken hE h).waiting_eq
  unfold take at h
  cases hpending : parts.pending with
  | none =>
    rw [hpending] at h
    rw [Parts.settled_eq hpending]
    exact takeFirst_applied hpending h
  | some head =>
    rw [hpending] at h hwaiting
    exact takeSecond_applied rfl hwaiting h

theorem rowwise_applied (hE : Engine.Related (Keeps OnlyBinds) E E) (tag : QName) :
    Rowwise E env tag fun parts s row parts' s' =>
      parts'.pending = Arguments.waitingAfter env.settings.contentMarker parts.pending row ∧
        Applied E env tag parts.settled s
          (Arguments.rowRules env.settings.contentMarker parts.pending row) parts'.settled s' where
  nil parts s := ⟨rfl, .nil parts.settled s⟩
  append := by
    rintro parts parts₁ parts' s s₁ s' row more ⟨hwaiting, happlied⟩ ⟨hwaiting', happlied'⟩
    rw [hwaiting] at hwaiting' happlied'
    rw [Arguments.waitingAfter_append, Arguments.rowRules_append]
    exact ⟨hwaiting', happlied.append happlied'⟩
  chunk hchunk := ⟨rfl, .chunk hchunk (.nil _ _)⟩
  take hplain h := by
    refine ⟨(take_taken hE h).waiting_eq, ?_⟩
    rw [Arguments.rowRules, Arguments.rowRules, List.append_nil]
    exact take_applied hE h

/-- **An element does what the rules of its arguments say**, one after another. -/
theorem gathered_applied (hE : Engine.Related (Keeps OnlyBinds) E E) {vs : List Value}
    (h : (feedAll E env tag vs {} >>= finish env tag) s = (.ok parts', s')) :
    ∃ row, Unrolled vs row ∧ Applied E env tag {} s
      (Arguments.rules env.settings.contentMarker none row) parts' s' := by
  obtain ⟨parts, s₁, hfed, hfinish⟩ := exists_of_bind_ok h
  obtain ⟨row, hrow, hwaiting, happlied⟩ := (rowwise_applied hE tag).feedAll hfed
  refine ⟨row, hrow, happlied.append ?_⟩
  rw [← hwaiting]
  unfold finish at hfinish
  cases hpending : parts.pending with
  | none =>
    rw [hpending] at hfinish
    cases hfinish
    rw [Parts.settled_eq hpending]
    exact .nil parts' s'
  | some head =>
    rw [hpending] at hfinish
    exact .single hfinish

end Build

end TagScript
