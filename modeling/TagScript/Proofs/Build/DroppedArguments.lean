import TagScript.Proofs.Build.ArgumentRules
import TagScript.Proofs.Build.Asides
import TagScript.Proofs.Build.StatementOrder

/-!
# Arguments that are dropped

Where arguments that cannot be used are tolerated, each of them is reported, with one exception: of
a name that is followed by an argument written like a parameter nothing is said, whether or not it
is written like a parameter itself.

* `Build.malformedReport` — the report of an argument that cannot be used.
* `Build.applied_reports` — what rules report, while they are applied.
* **`Build.element_accounts`** — what becomes of every argument of an element.
* `Build.element_drops_name` — a name that is no parameter is dropped without a report.
-/

namespace TagScript

/-- Whether a text is how messages show an argument, or the name that it is. -/
def Value.ShownAs (v : Value) (text : String) : Prop :=
  text = v.shown ∨ ∃ head : Head, v = head.value ∧ text = head.nameShown

namespace ArgumentRule

/-- Every report shows one of the arguments that follow the rule. -/
theorem shownAs_of_problem? {r : ArgumentRule} {problem : ArgumentProblem × String}
    (h : r.problem? = some problem) : ∃ v ∈ r.args, v.ShownAs problem.2 := by
  have hshown (head : Head) : head.value.ShownAs head.shown := by
    cases head with
    | word text => exact .inl rfl
    | name q => exact .inl rfl
  cases r with
  | valueless head | unpaired head =>
    cases h
    exact ⟨head.value, List.mem_cons_self .., hshown head⟩
  | badPrefix head _ | nameless head _ =>
    cases h
    exact ⟨head.value, List.mem_cons_self .., .inr ⟨head, rfl, rfl⟩⟩
  | unfit v =>
    cases h
    refine ⟨v, List.mem_cons_self .., .inl ?_⟩
    unfold unfitness
    split <;> rfl
  | _ => cases h

/-- An argument that is not null is read or reported, or its rule cannot do either. -/
theorem cases_of_mem_args (r : ArgumentRule) {v : Value} (h : v ∈ r.args) (hnull : v ≠ .null) :
    r.isRead = true ∨ (∃ problem, r.problem? = some problem) ∨ (∃ head, r = .flag head) ∨
      ∃ head w, r = .unreadable head w := by
  cases r with
  | idle => exact absurd (List.mem_singleton.mp h) hnull
  | flag head => exact .inr (.inr (.inl ⟨head, rfl⟩))
  | unreadable head w => exact .inr (.inr (.inr ⟨head, w, rfl⟩))
  | valueless _ | unpaired _ | nameless _ _ | badPrefix _ _ | unfit _ => exact .inr (.inl ⟨_, rfl⟩)
  | _ => exact .inl rfl

end ArgumentRule

namespace Build

variable {E : Engine} {env : BuildEnv} {tag : QName} {parts parts' : Parts} {s s' : BuildState}

/-- The report of an argument that cannot be used. -/
def malformedReport (env : BuildEnv) (tag : QName) (problem : ArgumentProblem × String) :
    Diagnostic :=
  Diagnostic.warning problem.1.message "element_builder" .malformedArgument []
    [("tag", .str tag.clark), ("value", .str problem.2)] env.correlationId

/-! ## What is reported -/

/-- Rules are applied in lockstep. -/
theorem applyRule_related {env env' : BuildEnv} {R : StepRelation} {E E' : Engine}
    (L : Elementwise env env' R) (hE : Engine.Related R E E') (tag : QName) (parts : Parts)
    (r : ArgumentRule) : R (applyRule E env tag parts r) (applyRule E' env' tag parts r) := by
  have hdrop (problem : ArgumentProblem × String) :
      R (drop env tag parts problem) (drop env' tag parts problem) :=
    L.bind (L.malformed tag _ _) fun _ => L.value parts
  cases r with
  | idle => exact L.value parts
  | child v => exact L.addChildren tag parts [v]
  | content block => exact L.addContent hE tag parts block
  | marked _ block => exact L.addContent hE tag parts block
  | declaration head n => exact L.declare tag parts head n
  | «attribute» head v =>
    refine L.bind (L.attributeName tag head) fun name => ?_
    refine L.bind ((L.attributeText_and_texts hE).1 v) fun text => ?_
    cases name with
    | some name => exact L.addAttribute tag parts name text
    | none => exact L.value parts
  | flag _ => exact L.value parts
  | valueless _ => exact hdrop _
  | unpaired _ => exact hdrop _
  | nameless _ v =>
    refine L.bind (L.malformed tag _ _) fun _ => ?_
    exact L.bind ((L.attributeText_and_texts hE).1 v) fun _ => L.value parts
  | badPrefix _ _ => exact hdrop _
  | unfit _ => exact hdrop _
  | unreadable _ _ => exact L.fault _

/-- Whether a step does the same after any other reports and log records. -/
def Adds {α : Type} (m : Build α) : Prop :=
  ∀ reports records, Commutes (.before reports records) m m

theorem Adds.diagnostics {α : Type} {m : Build α} (h : Adds m) (s : BuildState) :
    ∃ added, (m s).2.diagnostics = s.diagnostics ++ added := by
  obtain ⟨added, noted, hrun⟩ := exists_added h s
  have hself := hrun s.diagnostics s.log.records
  rw [BuildState.noted_self] at hself
  exact ⟨added, congrArg (fun p => p.2.diagnostics) hself⟩

/-- Where arguments are tolerated, one that cannot be used is reported. -/
theorem malformed_tolerated (hlax : env.settings.strictArguments = false)
    (problem : ArgumentProblem × String) (s : BuildState) :
    ∃ s', malformed env tag problem.1 problem.2 s = (.ok (), s') ∧
      s'.diagnostics = s.diagnostics ++ #[malformedReport env tag problem] := by
  unfold malformed
  rw [hlax]
  exact ⟨_, rfl, Array.push_eq_append⟩

section

variable (hE : ∀ reports records, Engine.Related (Commutes (.before reports records)) E E)
include hE

theorem adds_applyRule (parts : Parts) (r : ArgumentRule) : Adds (applyRule E env tag parts r) :=
  fun reports records =>
    applyRule_related (lockstep_commutes env rfl).toElementwise (hE reports records) tag parts r

/-- A rule that cannot be followed begins with its report. -/
theorem exists_applyRule_problem (parts : Parts) {r : ArgumentRule}
    {problem : ArgumentProblem × String} (h : r.problem? = some problem) :
    ∃ rest, applyRule E env tag parts r = (do
      malformed env tag problem.1 problem.2
      rest) ∧ Adds rest := by
  have hpure : Adds (pure parts : Build Parts) := fun _ _ => commutes_value parts
  cases r with
  | valueless _ | unpaired _ | badPrefix _ _ | unfit _ =>
    cases h
    exact ⟨pure parts, rfl, hpure⟩
  | nameless _ v =>
    cases h
    refine ⟨do let _ ← attributeText E env v; pure parts, rfl, fun reports records => ?_⟩
    have L := lockstep_commutes (t := .before reports records) env rfl
    exact ((L.attributeText_and_texts (hE reports records)).1 v).bind fun _ => commutes_value parts
  | _ => cases h

variable (hlax : env.settings.strictArguments = false)
include hlax

/-- A rule that cannot be followed says so, whatever else is reported. -/
theorem applyRule_reports {r : ArgumentRule}
    (h : applyRule E env tag parts r s = (.ok parts', s')) :
    ∃ added, s'.diagnostics = s.diagnostics ++ added ∧
      (r.problem?.toList.map (malformedReport env tag)).Sublist added.toList := by
  cases hproblem : r.problem? with
  | none =>
    obtain ⟨added, hadded⟩ := (adds_applyRule hE parts r).diagnostics s
    rw [h] at hadded
    exact ⟨added, hadded, List.nil_sublist _⟩
  | some problem =>
    obtain ⟨rest, hrest, hadds⟩ := exists_applyRule_problem hE parts hproblem
    obtain ⟨s₁, hmalformed, hreported⟩ := malformed_tolerated hlax problem s
    obtain ⟨added, hadded⟩ := hadds.diagnostics s₁
    rw [hrest, bind_of_ok hmalformed] at h
    rw [h, hreported, Array.append_assoc] at hadded
    refine ⟨#[malformedReport env tag problem] ++ added, hadded, ?_⟩
    rw [Array.toList_append]
    exact List.sublist_append_left ..

/-- **What rules report that cannot be followed, they report in order.** -/
theorem applied_reports {rules : List ArgumentRule}
    (h : Applied E env tag parts s rules parts' s') :
    ∃ added, s'.diagnostics = s.diagnostics ++ added ∧
      ((rules.filterMap ArgumentRule.problem?).map (malformedReport env tag)).Sublist
        added.toList := by
  induction h with
  | nil parts s => exact ⟨#[], by simp, List.Sublist.refl _⟩
  | @rule parts parts₁ parts' s s₁ s' r rules hrule _ ih =>
    obtain ⟨added, hadded, hsub⟩ := applyRule_reports hE hlax hrule
    obtain ⟨more, hmore, hsub'⟩ := ih
    refine ⟨added ++ more, by rw [hmore, hadded, Array.append_assoc], ?_⟩
    rw [Array.toList_append]
    have hsplit : ((r :: rules).filterMap ArgumentRule.problem?).map (malformedReport env tag) =
        r.problem?.toList.map (malformedReport env tag) ++
          (rules.filterMap ArgumentRule.problem?).map (malformedReport env tag) := by
      cases hproblem : r.problem? with
      | none => rw [List.filterMap_cons_none hproblem]; rfl
      | some problem => rw [List.filterMap_cons_some hproblem]; rfl
    rw [hsplit]
    exact hsub.append hsub'
  | chunk hchunk _ ih =>
    obtain ⟨added, hadded, hsub⟩ := ih
    refine ⟨added, ?_, hsub⟩
    unfold nextChunk at hchunk
    split at hchunk <;> cases hchunk <;> exact hadded

end

/-! ## What becomes of the arguments of an element -/

/-- What building an element is made of, if it comes to one. -/
theorem exists_of_element_ok {tag : Value} {args : List Value} {e : Element}
    (h : element E env tag args s = (.ok e, s')) :
    ∃ name parts ended, elementName tag s = (.ok name, s) ∧
      (feedAll E env name args {} >>= finish env name) { s with depth := s.depth + 1 } =
        (.ok parts, ended) ∧
      e = ⟨name, parts.attributes, parts.children⟩ ∧ s'.diagnostics = ended.diagnostics := by
  obtain ⟨name, s₁, hname, helement⟩ := exists_of_bind_ok h
  obtain rfl : s₁ = s := by
    unfold elementName at hname
    split at hname <;> exact (Prod.mk.inj hname).2.symm
  obtain ⟨made, s₂, hdeeper, hnote⟩ := exists_of_bind_ok helement
  obtain ⟨_, s₃, hnoted, hmade⟩ := exists_of_bind_ok hnote
  cases hmade
  obtain ⟨ended, hbody⟩ := exists_of_deeper_ok hdeeper
  rw [deeper_of_eq hbody] at hdeeper
  obtain ⟨_, s₄, hcheck, hrest⟩ := exists_of_bind_ok hbody
  rw [of_checkDepth_ok hcheck, ← bind_assoc] at hrest
  obtain ⟨parts, s₅, hgathered, hend⟩ := exists_of_bind_ok hrest
  cases hend
  cases hdeeper
  cases hnoted
  exact ⟨name, parts, _, hname, hgathered, rfl, rfl⟩

/-- Rules that were applied could all be read. -/
theorem Applied.readable {rules : List ArgumentRule}
    (h : Applied E env tag parts s rules parts' s') (head : Head) (v : Value) :
    ArgumentRule.unreadable head v ∉ rules := by
  induction h with
  | nil _ _ => exact List.not_mem_nil
  | @rule _ _ _ _ _ _ r _ hrule _ ih =>
    intro hmem
    rcases List.mem_cons.mp hmem with rfl | hrest
    · cases hrule
    · exact ih hrest
  | chunk _ _ ih => exact ih

/-- **What becomes of every argument** of an element that is built while arguments that cannot be
used are tolerated. Every argument follows one rule; an argument that is not null is read as what
the rule says, or reported, by itself or with the name that it stands behind, or is a name directly
before an argument that is written like a parameter. Of such a name nothing is said. -/
theorem element_accounts {n : Nat} {env : BuildEnv} {tag : Value} {args : List Value} {e : Element}
    {s s' : BuildState} (hlax : env.settings.strictArguments = false)
    (hbuilt : element (engine env n) env tag args s = (.ok e, s')) :
    ∃ name row rules parts ended added, Unrolled args row ∧
      rules = Arguments.rules env.settings.contentMarker none row ∧
      rules.flatMap ArgumentRule.args = row ∧
      Applied (engine env n) env name {} { s with depth := s.depth + 1 } rules parts ended ∧
      e = ⟨name, parts.attributes, parts.children⟩ ∧
      s'.diagnostics = s.diagnostics ++ added ∧
      ((rules.filterMap ArgumentRule.problem?).map (malformedReport env name)).Sublist
        added.toList ∧
      ∀ before r after, rules = before ++ r :: after → ∀ v ∈ r.args, v ≠ .null →
        r.isRead = true ∨
        (∃ problem w, r.problem? = some problem ∧ w ∈ r.args ∧ w.ShownAs problem.2 ∧
          malformedReport env name problem ∈ added) ∨
        ∃ head next rest, r = .flag head ∧ after.flatMap ArgumentRule.args = next :: rest ∧
          next.isFlag = true := by
  obtain ⟨name, parts, ended, -, hgathered, he, hdiagnostics⟩ := exists_of_element_ok hbuilt
  have hbinds := (documenting_onlyBinds env).engine n
  obtain ⟨row, hrow, happlied⟩ := gathered_applied hbinds hgathered
  obtain ⟨added, hadded, hsub⟩ := applied_reports (engine_commutes env n) hlax happlied
  refine ⟨name, row, _, parts, ended, added, hrow, rfl, Arguments.args_rules none row, happlied, he,
    hdiagnostics.trans hadded, hsub, fun before r after hsplit v hv hnull => ?_⟩
  have hmem : r ∈ Arguments.rules env.settings.contentMarker none row :=
    hsplit ▸ List.mem_append_right before (List.mem_cons_self ..)
  rcases r.cases_of_mem_args hv hnull with
    hread | ⟨problem, hproblem⟩ | ⟨head, rfl⟩ | ⟨head, w, rfl⟩
  · exact .inl hread
  · obtain ⟨w, hw, hshown⟩ := ArgumentRule.shownAs_of_problem? hproblem
    refine .inr (.inl ⟨problem, w, hproblem, hw, hshown, ?_⟩)
    have hreported := List.mem_map_of_mem (f := malformedReport env name)
      (List.mem_filterMap.mpr ⟨r, hmem, hproblem⟩)
    exact Array.mem_toList_iff.mp (hsub.subset hreported)
  · obtain ⟨next, rest, hnext, hflag⟩ := Arguments.flagsFollowed_rules none row head after
      (hsplit ▸ List.suffix_append before _)
    exact .inr (.inr ⟨head, next, rest, rfl, hnext, hflag⟩)
  · exact absurd hmem (happlied.readable head w)

theorem element_accounts_number :
    plainEnv.settings.strictArguments = false ∧
      ∃ s', element (engine plainEnv 1) plainEnv (.str "a")
          [.str "-x", .str "-y", .str "1", .int 5] plainState =
            (.ok ⟨⟨"a", none⟩, [⟨⟨"y", none⟩, "1"⟩], []⟩, s') ∧
        ∃ name row rules added, Unrolled [.str "-x", .str "-y", .str "1", .int 5] row ∧
          rules = Arguments.rules plainEnv.settings.contentMarker none row ∧
          rules.flatMap ArgumentRule.args = row ∧
          s'.diagnostics = plainState.diagnostics ++ added ∧
          ((rules.filterMap ArgumentRule.problem?).map (malformedReport plainEnv name)).Sublist
            added.toList := by
  have hbuilt : element (engine plainEnv 1) plainEnv (.str "a")
      [.str "-x", .str "-y", .str "1", .int 5] plainState =
        (.ok ⟨⟨"a", none⟩, [⟨⟨"y", none⟩, "1"⟩], []⟩,
          (element (engine plainEnv 1) plainEnv (.str "a")
            [.str "-x", .str "-y", .str "1", .int 5] plainState).2) := rfl
  obtain ⟨name, row, rules, _, _, added, hrow, hrules, hargs, -, -, hadded, hsub, -⟩ :=
    element_accounts rfl hbuilt
  exact ⟨rfl, _, hbuilt, name, row, rules, added, hrow, hrules, hargs, hadded, hsub⟩

/-- **A name that is not written like a parameter is dropped without a report**, too, if an argument
follows that is. -/
theorem element_drops_name :
    plainEnv.settings.strictArguments = false ∧ (Value.str "x").isFlag = false ∧
      (element (engine plainEnv 1) plainEnv (.str "a") [.str "x", .str "-y", .str "1"]
        plainState).1 = .ok ⟨⟨"a", none⟩, [⟨⟨"y", none⟩, "1"⟩], []⟩ ∧
      (element (engine plainEnv 1) plainEnv (.str "a") [.str "x", .str "-y", .str "1"]
        plainState).2.diagnostics = #[] :=
  ⟨rfl, rfl, rfl, rfl⟩

end Build

end TagScript
