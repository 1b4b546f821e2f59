import TagScript.Proofs.Build.BuiltinCommands
import TagScript.Proofs.Build.ScopeFrames

/-!
# Where the parameters of a build are seen

The parameters of a build stand in a scope of their own. Content of the root element runs within
that scope, also if it was written in another one, and so does every block that is written while
something runs there. A block that brings a scope along from outside runs within that scope instead,
unless it is the content itself: it sees what is seen there.

* `Scopes.Shadowed` — names that a build bound itself nearer than the parameters.
* `Scopes.chain_leaving` — what a scope sees of the scopes that a build did not make.
* `Build.path_start` — a block runs where it was written, or else where it is run.
* **`Session.parameter_visible_iff`** — where a block finds a parameter.
-/

namespace TagScript

namespace Scopes

variable {s t : Scopes} {id root : ScopeId} {key : String}

/-! ## The path of a lookup -/

/-- The value that a scope itself gives to a name in lower case. -/
def own? (s : Scopes) (id : ScopeId) (key : String) : Option Value :=
  s.all[id]?.bind fun scope => Fields.get? scope.own key

/-- A name is looked up along the path. -/
theorem findSome?_chain (s : Scopes) (id : ScopeId) (key : String) :
    (s.chain id).findSome? (fun own => Fields.get? own key) =
      (s.path id).findSome? fun other => s.own? other key := by
  induction id using Nat.strongRecOn with
  | ind id ih =>
    rcases s.path_cases id with ⟨hpath, hchain⟩ | ⟨scope, hscope, hcases⟩
    · rw [hpath, hchain]
      rfl
    · have hown : s.own? id key = Fields.get? scope.own key := by
        rw [own?, hscope]
        rfl
      rcases hcases with ⟨hpath, hchain⟩ | ⟨outer, hlt, -, hpath, hchain⟩
      · rw [hpath, hchain, List.findSome?_cons, List.findSome?_cons, hown]
        rfl
      · rw [hpath, hchain, List.findSome?_cons, List.findSome?_cons, hown, ih outer hlt]

/-- What a scope itself gives to a name is what is found there. -/
theorem findSome?_path {v : Value} (h : s.own? id key = some v) :
    (s.path id).findSome? (fun other => s.own? other key) = some v := by
  rcases s.path_cases id with ⟨hpath, -⟩ | ⟨scope, -, ⟨hpath, -⟩ | ⟨outer, -, -, hpath, -⟩⟩
  · have hnone : s.all[id]? = none := by
      rw [path] at hpath
      cases hscope : s.all[id]? with
      | none => rfl
      | some scope =>
        rw [hscope] at hpath
        cases hpath
    rw [own?, hnone] at h
    cases h
  · rw [hpath, List.findSome?_cons, h]
  · rw [hpath, List.findSome?_cons, h]

/-- The scopes around a scope have smaller numbers. -/
theorem le_of_mem_path {other : ScopeId} (h : other ∈ s.path id) : other ≤ id := by
  induction id using Nat.strongRecOn with
  | ind id ih =>
    rcases s.path_cases id with ⟨hpath, -⟩ | ⟨scope, -, ⟨hpath, -⟩ | ⟨outer, hlt, -, hpath, -⟩⟩
    · rw [hpath] at h
      cases h
    · rw [hpath, List.mem_singleton] at h
      exact Nat.le_of_eq h
    · rw [hpath] at h
      rcases List.mem_cons.mp h with rfl | h
      · exact Nat.le_refl _
      · exact Nat.le_trans (ih outer hlt h) (Nat.le_of_lt hlt)

/-- The first scope on a path that does not come after the one of the parameters. -/
def leaving? (s : Scopes) (root id : ScopeId) : Option ScopeId :=
  (s.path id).find? fun other => decide (other ≤ root)

/-- A path goes through later scopes until it leaves them, and goes on from there. -/
theorem path_leaving (s : Scopes) (root id : ScopeId) :
    ∃ inner, (∀ other ∈ inner, root < other) ∧
      s.path id = inner ++ ((s.leaving? root id).map s.path).getD [] := by
  induction id using Nat.strongRecOn with
  | ind id ih =>
    by_cases hlater : root < id
    · have hskip (rest : List ScopeId) : (id :: rest).find? (fun other => decide (other ≤ root)) =
          rest.find? fun other => decide (other ≤ root) :=
        List.find?_cons_of_neg (by simpa using hlater)
      rcases s.path_cases id with ⟨hpath, -⟩ | ⟨scope, -, ⟨hpath, -⟩ | ⟨outer, hlt, -, hpath, -⟩⟩
      · exact ⟨[], List.forall_mem_nil _, by rw [leaving?, hpath]; rfl⟩
      · refine ⟨[id], List.forall_mem_singleton.mpr hlater, ?_⟩
        rw [leaving?, hpath, hskip]
        rfl
      · obtain ⟨inner, hinner, hrest⟩ := ih outer hlt
        refine ⟨id :: inner, List.forall_mem_cons.mpr ⟨hlater, hinner⟩, ?_⟩
        rw [leaving?, hpath, hskip]
        exact congrArg (id :: ·) hrest
    · refine ⟨[], List.forall_mem_nil _, ?_⟩
      have hfirst (rest : List ScopeId) :
          (id :: rest).find? (fun other => decide (other ≤ root)) = some id :=
        List.find?_cons_of_pos (by simpa using hlater)
      rcases s.path_cases id with ⟨hpath, -⟩ | ⟨scope, -, ⟨hpath, -⟩ | ⟨outer, -, -, hpath, -⟩⟩
      · rw [leaving?, hpath]
        rfl
      · rw [leaving?, hpath, hfirst, List.nil_append, Option.map_some, hpath]
        rfl
      · rw [leaving?, hpath, hfirst, List.nil_append, Option.map_some, hpath]
        rfl

/-- A path that leads to the scope of the parameters leaves the later ones there. -/
theorem mem_path_iff_leaving : root ∈ s.path id ↔ s.leaving? root id = some root := by
  constructor
  · intro hroot
    induction id using Nat.strongRecOn with
    | ind id ih =>
      rcases s.path_cases id with ⟨hpath, -⟩ | ⟨scope, -, ⟨hpath, -⟩ | ⟨outer, hlt, -, hpath, -⟩⟩
      · rw [hpath] at hroot
        cases hroot
      · rw [hpath, List.mem_singleton] at hroot
        rw [leaving?, hpath, hroot]
        exact List.find?_cons_of_pos (decide_eq_true (Nat.le_refl _))
      · rw [hpath] at hroot
        rw [leaving?, hpath]
        rcases List.mem_cons.mp hroot with rfl | hroot
        · exact List.find?_cons_of_pos (decide_eq_true (Nat.le_refl _))
        · have hlater : root < id := Nat.lt_of_le_of_lt (le_of_mem_path hroot) hlt
          rw [List.find?_cons_of_neg (by simpa using hlater)]
          exact ih outer hlt hroot
  · exact List.mem_of_find?_eq_some

/-- The path of a scope around which there is none. -/
theorem path_of_no_parent (hid : id < s.all.size) (h : s.parent? id = none) :
    s.path id = [id] := by
  rw [parent?, Array.getElem?_eq_getElem hid] at h
  rw [path, Array.getElem?_eq_getElem hid]
  dsimp only
  rw [show s.all[id].parent = none from h]

/-- The path of a scope goes on with that of the scope around it. -/
theorem path_of_parent? {outer : ScopeId} (h : s.parent? id = some outer) (hlt : outer < id) :
    s.path id = id :: s.path outer := by
  obtain ⟨scope, hscope, hparent⟩ := Option.bind_eq_some_iff.mp h
  rw [path, hscope]
  dsimp only
  rw [hparent]
  dsimp only
  rw [if_pos hlt]

/-- Whether a name in lower case is bound nearer than the scope of the parameters. -/
def Shadowed (s : Scopes) (root id : ScopeId) (key : String) : Prop :=
  ∃ inner ∈ s.path id, root < inner ∧ (s.own? inner key).isSome = true

/-- What is bound nowhere nearer is looked up where the path leaves the later scopes. -/
theorem findSome?_leaving (h : ¬ s.Shadowed root id key) :
    (s.path id).findSome? (fun other => s.own? other key) =
      (s.leaving? root id).bind fun outside =>
        (s.path outside).findSome? fun other => s.own? other key := by
  obtain ⟨inner, hinner, hpath⟩ := s.path_leaving root id
  have hnone : inner.findSome? (fun other => s.own? other key) = none := by
    rw [List.findSome?_eq_none_iff]
    intro other hother
    have hmem : other ∈ s.path id := by
      rw [hpath]
      exact List.mem_append_left _ hother
    cases hown : s.own? other key with
    | none => rfl
    | some v => exact absurd ⟨other, hmem, hinner other hother, by rw [hown]; rfl⟩ h
  rw [hpath, List.findSome?_append, hnone, Option.none_or]
  cases s.leaving? root id with
  | none => rfl
  | some outside => rfl

/-! ## What a build leaves -/

/-- Whether a store goes on from another one: scopes are made, and the scope of the parameters may
come to stand elsewhere. -/
structure Continued (root : ScopeId) (s t : Scopes) : Prop where
  /-- No scope is lost. -/
  size : s.all.size ≤ t.all.size
  /-- The other scopes are as before. -/
  kept : ∀ id < s.all.size, id ≠ root → t.all[id]? = s.all[id]?
  /-- The parameters are as before. -/
  own : root < s.all.size → ∀ key, t.own? root key = s.own? root key

theorem continued_refl (root : ScopeId) (s : Scopes) : s.Continued root s :=
  ⟨Nat.le_refl _, fun _ _ _ => rfl, fun _ _ => rfl⟩

theorem Continued.trans {u : Scopes} (h : s.Continued root t) (h' : t.Continued root u) :
    s.Continued root u where
  size := Nat.le_trans h.size h'.size
  kept id hid hne := (h'.kept id (Nat.lt_of_lt_of_le hid h.size) hne).trans (h.kept id hid hne)
  own hroot key := (h'.own (Nat.lt_of_lt_of_le hroot h.size) key).trans (h.own hroot key)

/-- Making scopes changes no parameter. -/
theorem Grown.continued (h : s.Grown none t) : s.Continued root t where
  size := h.size
  kept id hid _ := h.kept id hid nofun
  own hroot key := by rw [own?, own?, h.kept root hroot nofun]

theorem continued_enclose (s : Scopes) (root outer : ScopeId) :
    s.Continued root (s.enclose root outer) := by
  unfold enclose
  refine ⟨by simp, fun id _ hne => ?_, fun _ key => ?_⟩
  · rw [Array.getElem?_modify, if_neg (Ne.symm hne)]
  · rw [own?, own?, Array.getElem?_modify, if_pos rfl]
    cases s.all[root]? with
    | none => rfl
    | some scope => rfl

/-- The variables of a new scope: of several with one name the last one counts. -/
theorem get?_of_define {vars own own' : List (String × Value)}
    (h : vars.foldlM (fun own b => define own b.1 b.2) own = .ok own') (key : String) :
    Fields.get? own' key =
      ((vars.reverse.find? fun b => decide (Text.lower b.1 = key)).map Prod.snd).or
        (Fields.get? own key) := by
  induction vars generalizing own with
  | nil =>
    cases h
    rfl
  | cons b vars ih =>
    rw [List.foldlM_cons] at h
    by_cases hempty : b.1 = ""
    · rw [define, if_pos hempty] at h
      cases h
    · rw [define, if_neg hempty] at h
      rw [ih h, List.reverse_cons, List.find?_append, Fields.get?_insert]
      cases vars.reverse.find? fun b => decide (Text.lower b.1 = key) with
      | some found => rfl
      | none =>
        by_cases hkey : Text.lower b.1 = key
        · simp [hkey]
        · simp [hkey]

end Scopes

/-- The value that a request gives to a parameter, by its name in lower case. Of several names that
differ only in case the last one counts. -/
def DocumentRequest.parameter? (request : DocumentRequest) (key : String) : Option Value :=
  ((Fields.ofList request.parameters).reverse.find? fun b => decide (Text.lower b.1 = key)).map
    Prod.snd

namespace Build

/-! ## What a build does to the scopes -/

/-- Whether scopes are made and the scope of the parameters may come to stand elsewhere. -/
def ScopesContinue (root : ScopeId) (s s' : BuildState) : Prop :=
  s.scopes.Continued root s'.scopes

variable {env : BuildEnv}

theorem steady_scopesContinue (root : ScopeId) : Steady (ScopesContinue root) where
  trans := Scopes.Continued.trans
  same {s s'} h := by
    unfold ScopesContinue
    rw [h.scopes]
    exact Scopes.continued_refl root s.scopes
  bound {s _ _ _ _} _ := Scopes.continued_refl root s.scopes

theorem framing_scopesContinue (env : BuildEnv) :
    Elementwise.Framing env env (Keeps (ScopesContinue env.rootScope)) where
  toElementwise := (steady_scopesContinue _).elementwise env
  correlationId := rfl
  record _ _ _ _ _ := (steady_scopesContinue _).of_same fun _ => ⟨rfl, rfl, rfl, rfl⟩
  enclose outer := ⟨rfl, fun s => Scopes.continued_enclose s.scopes env.rootScope outer⟩
  noteFault := (steady_scopesContinue _).noteFault
  documentOf config request root := by
    have K := steady_scopesContinue env.rootScope
    exact K.bind (K.read _) fun _ => K.lift _

/-- **A build makes scopes**, and changes at most where the parameters stand. -/
theorem document_scopesContinue (env : BuildEnv) (n : Nat) (config : DocumentConfig)
    (request : DocumentRequest) (s : BuildState) :
    ScopesContinue env.rootScope s (document (engine env n) env config request s).2 := by
  have hgather (tag : QName) (args : List Value) (content : RootContent) (parts : Parts) :
      Keeps (ScopesContinue env.rootScope)
        (gatherRoot (engine env n) env tag args content parts)
        (gatherRoot (engine env n) env tag args content parts) :=
    ⟨rfl, fun s => ((gatherRoot_grows env n tag args content parts).2 s).continued⟩
  exact ((framing_scopesContinue env).document hgather config request).2 s

/-- A block runs where it was written, or else where it is run. -/
theorem path_start {block : Value} {vars : List (String × Value)} {outer around : ScopeId}
    {s s' : BuildState} {c : Course} (h : start env block vars outer s = (.ok c, s'))
    (haround : block.writtenIn?.getD outer = around) (hsize : around < s.scopes.all.size) :
    s'.scopes.path c.scope = c.scope :: s.scopes.path around := by
  have hadd : s.scopes.add (some around) vars = .ok (c.scope, s'.scopes) := by
    rcases start_spec env block vars outer s with ⟨_, _, hstarted, hadd⟩ | ⟨_, _, hfailed, -⟩
    · rw [h] at hstarted
      cases hstarted
      rwa [haround] at hadd
    · rw [h] at hfailed
      cases hfailed
  have hgrown : s.scopes.Grown none s'.scopes := Scopes.grown_add hadd
  obtain ⟨hid, own, -, hscopes⟩ := Scopes.add_spec hadd
  have hnew : s'.scopes.all[c.scope]? = some ⟨own, some around⟩ := by
    rw [hscopes, hid]
    exact Array.getElem?_push_size
  rw [Scopes.path, hnew]
  dsimp only
  rw [if_pos (hid ▸ hsize), (hgrown.path_and_chain hsize).1]

end Build

/-! ## Where parameters are found -/

namespace Session

variable {s : Session} {request : DocumentRequest}

/-- The scopes that a build leaves: those that there were, the one of the parameters, and more. -/
theorem scopes_buildDocument (s : Session) (request : DocumentRequest) :
    (s.buildDocument request).2.scopes = s.scopes ∨
      (∀ id < s.scopes.all.size,
        (s.buildDocument request).2.scopes.all[id]? = s.scopes.all[id]?) ∧
      ∀ key, (s.buildDocument request).2.scopes.own? s.scopes.all.size key =
        request.parameter? key := by
  cases hadd : s.scopes.add none request.parameters with
  | error fault =>
    refine .inl ?_
    have hbegin : s.beginBuild request.parameters .empty = .error fault := by
      rw [beginBuild_eq, hadd]
      rfl
    unfold buildDocument
    rw [hbegin]
  | ok added =>
    obtain ⟨root, scopes⟩ := added
    obtain ⟨rfl, own, hown, rfl⟩ := Scopes.add_spec hadd
    let env : BuildEnv := ⟨s.config.settings, s.scopes.all.size, s.correlationId⟩
    let begun : BuildState := s.begun .empty ⟨s.scopes.all.push ⟨own, none⟩⟩
    have hbegin : s.beginBuild request.parameters .empty = .ok (env, begun) := by
      rw [beginBuild_eq, hadd]
      rfl
    obtain ⟨builds, hend⟩ := buildDocument_snd hbegin
    have hcontinued : Scopes.Continued s.scopes.all.size ⟨s.scopes.all.push ⟨own, none⟩⟩
        (s.buildDocument request).2.scopes := by
      rw [hend]
      exact Build.document_scopesContinue env nestingBound s.config.document request begun
    have hsize : (s.scopes.all.push ⟨own, none⟩).size = s.scopes.all.size + 1 := Array.size_push _
    refine .inr ⟨fun id hid => ?_, fun key => ?_⟩
    · have hlt : id < (s.scopes.all.push ⟨own, none⟩).size := by omega
      rw [hcontinued.kept id hlt (Nat.ne_of_lt hid), Array.getElem?_push,
        if_neg (Nat.ne_of_lt hid)]
    · have hlt : s.scopes.all.size < (s.scopes.all.push ⟨own, none⟩).size := by omega
      rw [hcontinued.own hlt key, Scopes.own?, Array.getElem?_push_size, Option.bind_some,
        Scopes.get?_of_define hown key]
      exact Option.or_none

/-- **Where a block finds a parameter.** Each block that a build runs gets a scope of its own, which
stands in the scope where the block was written, or else in the one where it is run. When the build
has ended, well or not, such a scope gives a parameter that the build itself bound nowhere nearer
the value that it was given exactly if it stands within the scope of the parameters, or if the scope
from outside within which it stands happens to give the name the same value. A block that was
written outside is run there, so it sees no parameters. -/
theorem parameter_visible_iff {name : String} {v : Value}
    (hname : constant? (Text.lower name) = none)
    (hv : request.parameter? (Text.lower name) = some v) :
    let after := (s.buildDocument request).2.scopes
    let root := s.scopes.all.size
    (∀ id, root < id → id < after.all.size → ¬ after.Shadowed root id (Text.lower name) →
      (after.lookup? id name = some v ↔
        root ∈ after.path id ∨
          ∃ outside < root, after.leaving? root id = some outside ∧
            s.scopes.lookup? outside name = some v)) ∧
    ∀ env block vars outer around (t t' : BuildState) c,
      Build.start env block vars outer t = (.ok c, t') → block.writtenIn?.getD outer = around →
        around < t.scopes.all.size → t'.scopes.path c.scope = c.scope :: t.scopes.path around := by
  intro after root
  refine ⟨fun id hmade hid hshadowed => ?_,
    fun env block vars outer around t t' c hstart haround hsize =>
      Build.path_start hstart haround hsize⟩
  have hlookup (scopes : Scopes) (id : ScopeId) : scopes.lookup? id name =
      (scopes.path id).findSome? fun other => scopes.own? other (Text.lower name) := by
    rw [Scopes.lookup?, hname, ← Scopes.findSome?_chain]
    rfl
  rcases s.scopes_buildDocument request with hsame | ⟨hkept, hown⟩
  · have hnone : id < s.scopes.all.size := hsame ▸ hid
    exact absurd hnone (Nat.not_lt.mpr (Nat.le_of_lt hmade))
  have hleaving := hlookup after id
  rw [Scopes.findSome?_leaving hshadowed] at hleaving
  rw [Scopes.mem_path_iff_leaving, hleaving]
  cases hleaves : after.leaving? root id with
  | none => simp
  | some outside =>
    rw [Option.bind_some]
    have hle : outside ≤ root := by simpa using List.find?_some hleaves
    rcases Nat.lt_or_eq_of_le hle with hlt | rfl
    · -- The lookup goes on in a scope from outside, which the build has left as it was.
      have houtside : (after.path outside).findSome?
          (fun other => after.own? other (Text.lower name)) = s.scopes.lookup? outside name := by
        have hsame : ∀ other ≤ outside, after.all[other]? = s.scopes.all[other]? :=
          fun other hother => hkept other (Nat.lt_of_le_of_lt hother hlt)
        have hcongr := Scopes.path_and_chain_congr hsame
        rw [← Scopes.findSome?_chain, hcongr.2, Scopes.findSome?_chain, hlookup]
      rw [houtside]
      constructor
      · intro hfound
        exact .inr ⟨outside, hlt, rfl, hfound⟩
      · rintro (hroot | ⟨other, -, hother, hfound⟩)
        · exact absurd (Option.some.inj hroot) (Nat.ne_of_lt hlt)
        · cases hother
          exact hfound
    · have hroot : after.own? root (Text.lower name) = some v := (hown _).trans hv
      exact iff_of_true (Scopes.findSome?_path hroot) (.inl rfl)

/-- A parameter that is looked up in a block within the content. -/
def nestedRequest : DocumentRequest where
  root := .str "r"
  content := .str "a {b $x}"
  parameters := [("X", .str "v")]

theorem parameter_visible_nested :
    let s := ofConfig {} stoppedClock
    let after := (s.buildDocument nestedRequest).2.scopes
    constant? (Text.lower "x") = none ∧
      nestedRequest.parameter? (Text.lower "x") = some (.str "v") ∧ 2 < after.all.size ∧
      ¬ after.Shadowed 0 2 (Text.lower "x") ∧ 0 ∈ after.path 2 ∧
      after.lookup? 2 "x" = some (.str "v") ∧
      ∃ c t', Build.start ⟨s.config.settings, 0, none⟩ (.routine .list []) [] 0
          (s.begun .empty ⟨#[⟨[], none⟩]⟩) = (.ok c, t') ∧
        t'.scopes.path c.scope = c.scope :: Scopes.path ⟨#[⟨[], none⟩]⟩ 0 := by
  intro s after
  have hlower : Text.lower "x" = "x" := by decide
  have hconstant : constant? (Text.lower "x") = none := by
    rw [hlower]
    rfl
  have hgiven : nestedRequest.parameter? (Text.lower "x") = some (.str "v") := by
    have hkey : Text.lower "X" = "x" := by decide
    rw [hlower]
    simp [nestedRequest, DocumentRequest.parameter?, Fields.ofList, Fields.insert, hkey]
  have hsize : 2 < after.all.size := by decide +kernel
  have hinner : after.parent? 2 = some 1 := by decide +kernel
  have houter : after.parent? 1 = some 0 := by decide +kernel
  have hroot : after.parent? 0 = none := by decide +kernel
  have hpath : after.path 2 = [2, 1, 0] := by
    rw [Scopes.path_of_parent? hinner (by decide), Scopes.path_of_parent? houter (by decide),
      Scopes.path_of_no_parent (Nat.lt_trans Nat.zero_lt_two hsize) hroot]
  have hmem : 0 ∈ after.path 2 := by
    rw [hpath]
    decide
  have hshadowed : ¬ after.Shadowed 0 2 (Text.lower "x") := by
    rintro ⟨inner, hinner, hlater, hbound⟩
    have hunbound : [2, 1].all (fun id => (after.own? id "x").isNone) = true := by decide +kernel
    have hnearer : inner ∈ [2, 1] := by
      rw [hpath, show [2, 1, 0] = [2, 1] ++ [0] from rfl, List.mem_append] at hinner
      refine hinner.elim id fun hfirst => ?_
      rw [List.mem_singleton.mp hfirst] at hlater
      cases hlater
    have hnone := List.all_eq_true.mp hunbound inner hnearer
    rw [hlower, Option.isNone_iff_eq_none.mp hnone] at hbound
    cases hbound
  obtain ⟨hvisible, hstarts⟩ := parameter_visible_iff (s := s) hconstant hgiven
  obtain ⟨c, t', hstart⟩ : ∃ c t', Build.start ⟨s.config.settings, 0, none⟩ (.routine .list []) [] 0
      (s.begun .empty ⟨#[⟨[], none⟩]⟩) = (.ok c, t') := ⟨_, _, rfl⟩
  exact ⟨hconstant, hgiven, hsize, hshadowed, hmem,
    (hvisible 2 Nat.zero_lt_two hsize hshadowed).mpr (.inl hmem), c, t', hstart, hstarts _ _ _ _ _ _ _ _ hstart rfl Nat.zero_lt_one⟩

/-- A block that was written outside is run among the arguments of the root element. The scope in
which its variable is looked up does not stand within the one of the parameters, and nothing hides
the parameter, but it is not found. -/
theorem parameter_unseen_outside :
    let s : Session :=
      { ofConfig {} stoppedClock with scopes := ⟨#[⟨[("y", .str "1")], none⟩]⟩ }
    let request : DocumentRequest :=
      { root := .str "r", args := [.block ⟨"a { $x }", some 0, 1⟩]
        parameters := [("x", .str "v")] }
    let after := (s.buildDocument request).2.scopes
    request.parameter? (Text.lower "x") = some (.str "v") ∧ 3 < after.all.size ∧
      after.lookup? 3 "x" = none ∧ ¬ after.Shadowed 1 3 (Text.lower "x") ∧
      (s.buildDocument request).1.toOption.map
          (fun d => (d.root.text, d.diagnostics.map Diagnostic.code)) =
        some ("", [.undefinedVariable]) := by
  intro s request after
  have hlower : Text.lower "x" = "x" := by decide
  have hgiven : request.parameter? (Text.lower "x") = some (.str "v") := by
    rw [hlower]
    simp [request, DocumentRequest.parameter?, Fields.ofList, Fields.insert, hlower]
  have hsize : 3 < after.all.size := by decide +kernel
  have hinner : after.parent? 3 = some 2 := by decide +kernel
  have houter : after.parent? 2 = some 0 := by decide +kernel
  have hnone : after.parent? 0 = none := by decide +kernel
  have hpath : after.path 3 = [3, 2, 0] := by
    rw [Scopes.path_of_parent? hinner (by decide), Scopes.path_of_parent? houter (by decide),
      Scopes.path_of_no_parent (Nat.lt_trans (by decide) hsize) hnone]
  have hown : ∀ id ∈ [3, 2, 0], after.own? id "x" = none := by
    have hunbound : [3, 2, 0].all (fun id => (after.own? id "x").isNone) = true := by
      decide +kernel
    exact fun id hid => Option.isNone_iff_eq_none.mp (List.all_eq_true.mp hunbound id hid)
  refine ⟨hgiven, hsize, ?_, ?_, by decide +kernel⟩
  · have hconstant : constant? "x" = none := rfl
    rw [Scopes.lookup?, hlower, hconstant, Scopes.findSome?_chain, hpath]
    simp [hown]
  · rintro ⟨inner, hmem, -, hbound⟩
    rw [hpath] at hmem
    rw [hlower, hown inner hmem] at hbound
    cases hbound

end Session

end TagScript
