import TagScript.Proofs.Build.CommandTables

/-!
# What runs leave of the scopes

A block is run in a scope that is made for the run, and whatever runs in a scope sets variables in
that scope only. So a run, however deep blocks are nested in it and however it ends, leaves the
scopes that were there before as they were; and what is bound for one item of a loop is bound
neither for the next one nor behind the loop.

* `Scopes.Grown` — a store that comes of another one by making scopes and by changing the variables
  of one of them, if any.
* `Scopes.path` — the scopes in which a name is looked up, one after the other.
* `Build.start_spec` — where a block that starts finds its variables.
* `Build.grown_chunks` — a block whose values are handed to a consumer only makes scopes.
* **`Build.engine_grows`** — so do runs, however deep blocks are nested.
* **`Build.run_leaves_scopes`** — no run changes a scope that was there before it.
-/

namespace TagScript

namespace Scopes

/-- Whether one store comes of another one by making scopes, and by setting variables in one scope
if one is named. -/
structure Grown (own : Option ScopeId) (s t : Scopes) : Prop where
  /-- No scope is lost. -/
  size : s.all.size ≤ t.all.size
  /-- All other scopes are as before. -/
  kept : ∀ id < s.all.size, own ≠ some id → t.all[id]? = s.all[id]?
  /-- All scopes stand where they stood. -/
  parent : ∀ id < s.all.size, t.parent? id = s.parent? id

variable {own : Option ScopeId} {s t u : Scopes} {id : ScopeId}

theorem grown_refl (own : Option ScopeId) (s : Scopes) : s.Grown own s :=
  ⟨Nat.le_refl _, fun _ _ _ => rfl, fun _ _ => rfl⟩

theorem Grown.trans (h : s.Grown own t) (h' : t.Grown own u) : s.Grown own u where
  size := Nat.le_trans h.size h'.size
  kept id hid hne := (h'.kept id (Nat.lt_of_lt_of_le hid h.size) hne).trans (h.kept id hid hne)
  parent id hid := (h'.parent id (Nat.lt_of_lt_of_le hid h.size)).trans (h.parent id hid)

theorem Grown.mono (h : s.Grown none t) : s.Grown own t :=
  ⟨h.size, fun id hid _ => h.kept id hid nofun, h.parent⟩

/-- Where variables are set in a scope that is new itself, scopes are only made. -/
theorem Grown.trans_new (h : s.Grown none t) (h' : t.Grown (some id) u) (hid : s.all.size ≤ id) :
    s.Grown none u where
  size := Nat.le_trans h.size h'.size
  kept other hother _ := by
    have hne : some id ≠ some other := by
      intro heq
      cases heq
      exact absurd hother (Nat.not_lt.mpr hid)
    exact (h'.kept other (Nat.lt_of_lt_of_le hother h.size) hne).trans (h.kept other hother nofun)
  parent other hother :=
    (h'.parent other (Nat.lt_of_lt_of_le hother h.size)).trans (h.parent other hother)

/-! ## Making scopes and setting variables -/

/-- A new scope comes behind all others. -/
theorem add_spec {parent : Option ScopeId} {vars : List (String × Value)}
    (h : s.add parent vars = .ok (id, t)) :
    id = s.all.size ∧ ∃ own, (Fields.ofList vars).foldlM (fun own b => define own b.1 b.2) [] =
      .ok own ∧ t = ⟨s.all.push ⟨own, parent⟩⟩ := by
  unfold add ownOf at h
  cases hown : (Fields.ofList vars).foldlM (fun own b => define own b.1 b.2) [] with
  | error fault =>
    rw [hown] at h
    cases h
  | ok own =>
    rw [hown] at h
    cases h
    exact ⟨rfl, own, rfl, rfl⟩

theorem grown_push (s : Scopes) (scope : Scope) : s.Grown none ⟨s.all.push scope⟩ := by
  have hsame (id : ScopeId) (hid : id < s.all.size) : (s.all.push scope)[id]? = s.all[id]? := by
    rw [Array.getElem?_push, if_neg (Nat.ne_of_lt hid)]
  refine ⟨by simp, fun id hid _ => hsame id hid, fun id hid => ?_⟩
  rw [parent?, parent?, hsame id hid]

theorem grown_add {parent : Option ScopeId} {vars : List (String × Value)}
    (h : s.add parent vars = .ok (id, t)) : s.Grown none t := by
  obtain ⟨-, own, -, rfl⟩ := add_spec h
  exact grown_push s _

theorem grown_set {name : String} {v : Value} (h : s.set id name v = .ok t) :
    s.Grown (some id) t := by
  unfold set at h
  cases hscope : s.all[id]? with
  | none =>
    rw [hscope] at h
    cases h
  | some scope =>
    rw [hscope] at h
    dsimp only at h
    cases hdefine : define scope.own name v with
    | error fault =>
      rw [hdefine] at h
      cases h
    | ok own =>
      rw [hdefine] at h
      cases h
      refine ⟨by simp, fun other _ hne => ?_, fun other _ => ?_⟩
      · rw [Array.getElem?_setIfInBounds, if_neg fun heq => hne (congrArg some heq)]
      · unfold parent?
        rw [Array.getElem?_setIfInBounds]
        split
        · rename_i heq
          subst heq
          rw [hscope]
          split <;> simp_all
        · rfl

/-! ## What is seen in a scope -/

/-- The numbers of a scope and of the scopes around it, the inner ones first. -/
def path (s : Scopes) (id : ScopeId) : List ScopeId :=
  match s.all[id]? with
  | none => []
  | some scope =>
    id :: match scope.parent with
      | none => []
      | some outer => if outer < id then path s outer else []
termination_by id

/-- A scope that there is stands first on its path, and the path of the scope around it follows. -/
theorem path_cases (s : Scopes) (id : ScopeId) :
    s.path id = [] ∧ s.chain id = [] ∨
      ∃ scope, s.all[id]? = some scope ∧
        (s.path id = [id] ∧ s.chain id = [scope.own] ∨
          ∃ outer < id, scope.parent = some outer ∧ s.path id = id :: s.path outer ∧
            s.chain id = scope.own :: s.chain outer) := by
  rw [path, chain]
  cases s.all[id]? with
  | none => exact .inl ⟨rfl, rfl⟩
  | some scope =>
    refine .inr ⟨scope, rfl, ?_⟩
    obtain ⟨own, parent⟩ := scope
    cases parent with
    | none => exact .inl ⟨rfl, rfl⟩
    | some outer =>
      dsimp only
      by_cases hlt : outer < id
      · rw [if_pos hlt, if_pos hlt]
        exact .inr ⟨outer, hlt, rfl, rfl, rfl⟩
      · rw [if_neg hlt, if_neg hlt]
        exact .inl ⟨rfl, rfl⟩

/-- What is seen in a scope depends on the scopes with smaller numbers only. -/
theorem path_and_chain_congr (h : ∀ other ≤ id, t.all[other]? = s.all[other]?) :
    t.path id = s.path id ∧ t.chain id = s.chain id := by
  induction id using Nat.strongRecOn with
  | ind id ih =>
    rw [path, path, chain, chain, h id (Nat.le_refl id)]
    cases s.all[id]? with
    | none => exact ⟨rfl, rfl⟩
    | some scope =>
      obtain ⟨own, parent⟩ := scope
      cases parent with
      | none => exact ⟨rfl, rfl⟩
      | some outer =>
        dsimp only
        by_cases hlt : outer < id
        · have houter : ∀ other ≤ outer, t.all[other]? = s.all[other]? := fun other hother =>
            h other (Nat.le_trans hother (Nat.le_of_lt hlt))
          obtain ⟨hpath, hchain⟩ := ih outer hlt houter
          rw [if_pos hlt, if_pos hlt, if_pos hlt, if_pos hlt, hpath, hchain]
          exact ⟨rfl, rfl⟩
        · rw [if_neg hlt, if_neg hlt, if_neg hlt, if_neg hlt]
          exact ⟨rfl, rfl⟩

/-- Where scopes are only made, a scope that was there sees what it saw. -/
theorem Grown.path_and_chain (h : s.Grown none t) (hid : id < s.all.size) :
    t.path id = s.path id ∧ t.chain id = s.chain id :=
  path_and_chain_congr fun other hother => h.kept other (Nat.lt_of_le_of_lt hother hid) nofun

theorem Grown.lookup? (h : s.Grown none t) (hid : id < s.all.size) (name : String) :
    t.lookup? id name = s.lookup? id name := by
  rw [Scopes.lookup?, Scopes.lookup?, (h.path_and_chain hid).2]

theorem lower_underscore : Text.lower "_" = "_" := by decide

/-- The scope of an item sees the item, and otherwise what the scope around it sees. -/
theorem lookup?_item {outer : ScopeId} {item : Value}
    (h : s.add (some outer) [("_", item)] = .ok (id, t)) (houter : outer < s.all.size)
    (name : String) :
    t.lookup? id name = if Text.lower name = "_" then some item else s.lookup? outer name := by
  have hgrown : s.Grown none t := grown_add h
  obtain ⟨rfl, own, hown, rfl⟩ := add_spec h
  obtain rfl : own = [("_", item)] := by
    cases hown
    rw [lower_underscore]
    rfl
  have hchain : Scopes.chain ⟨s.all.push ⟨[("_", item)], some outer⟩⟩ s.all.size =
      [("_", item)] :: s.chain outer := by
    rw [Scopes.chain, Array.getElem?_push_size]
    dsimp only
    rw [if_pos houter, (hgrown.path_and_chain houter).2]
  rw [Scopes.lookup?, Scopes.lookup?, hchain]
  by_cases hname : Text.lower name = "_"
  · rw [if_pos hname, hname]
    rfl
  · have hnone : Fields.get? [("_", item)] (Text.lower name) = none := by
      simp [Fields.get?, Ne.symm hname]
    rw [if_neg hname, List.findSome?_cons, hnone]

end Scopes

/-- The scope that a block was written in, if it has one. -/
def Value.writtenIn? : Value → Option ScopeId
  | .block b => b.scope
  | _ => none

namespace Build

/-- Whether scopes are only made, and variables set in one scope if one is named. -/
def ScopesGrow (own : Option ScopeId) (s s' : BuildState) : Prop :=
  s.scopes.Grown own s'.scopes

variable {env : BuildEnv} {E : Engine}

theorem steady_scopesGrow (own : Option ScopeId) : Steady (ScopesGrow own) where
  trans := Scopes.Grown.trans
  same {s s'} h := by
    unfold ScopesGrow
    rw [h.scopes]
    exact Scopes.grown_refl own s.scopes
  bound {s _ _ _ _} _ := Scopes.grown_refl own s.scopes

theorem Keeps.mono_scopesGrow {own : Option ScopeId} {α : Type} {m m' : Build α}
    (h : Keeps (ScopesGrow none) m m') : Keeps (ScopesGrow own) m m' :=
  ⟨h.1, fun s => (h.2 s).mono⟩

/-! ## Statements -/

theorem setVariable_grows (scope : ScopeId) (name v : Value) :
    Keeps (ScopesGrow (some scope)) (setVariable scope name v) (setVariable scope name v) := by
  refine ⟨rfl, fun s => ?_⟩
  have hsame : ScopesGrow (some scope) s s := Scopes.grown_refl _ _
  unfold setVariable
  split
  · rename_i text
    unfold changeScopes
    split
    · rename_i hset
      exact Scopes.grown_set hset
    · exact hsame
  · split
    · exact hsame
    · exact hsame

/-- What statements do in a scope sets variables in that scope only. -/
theorem actingIn_grows (env : BuildEnv) (scope : ScopeId) :
    Elementwise.ActingIn env env (Keeps (ScopesGrow (some scope))) scope := by
  have K : Steady (ScopesGrow (some scope)) := steady_scopesGrow _
  have L : Elementwise env env (Keeps (ScopesGrow (some scope))) := K.elementwise env
  have hregister (i : Invocation) :
      Keeps (ScopesGrow (some scope)) (registerConstant i) (registerConstant i) := by
    refine ⟨rfl, fun s => ?_⟩
    rcases registerConstant_cases i s with hsame | ⟨c, hinstalled⟩
    · rw [hsame]
      exact Scopes.grown_refl _ _
    · rw [hinstalled]
      exact Scopes.grown_refl _ _
  refine ⟨L, setVariable_grows scope, fun hE name args => ?_⟩
  unfold invoke
  refine L.bind (K.read _) fun found => L.bind (L.lift found) fun c => ?_
  exact L.perform hE _ (setVariable_grows scope) fun _ => hregister _

/-! ## Blocks -/

/-- A new scope is made for a block that starts, inside the one that it was written in or else
inside the given one. A block that does not start makes none. -/
theorem start_spec (env : BuildEnv) (block : Value) (vars : List (String × Value))
    (outer : ScopeId) (s : BuildState) :
    (∃ c s', start env block vars outer s = (.ok c, s') ∧
      s.scopes.add (some (block.writtenIn?.getD outer)) vars = .ok (c.scope, s'.scopes)) ∨
    ∃ fault s', start env block vars outer s = (.error fault, s') ∧ s'.scopes = s.scopes := by
  have hnew (u : BuildState) (hu : u.scopes = s.scopes) (parent : ScopeId) (tasks : List Task)
      (kind : String) :
      (∃ c s', (newScope parent vars >>= fun scope =>
          (pure ⟨tasks, scope, 0, kind⟩ : Build Course)) u = (.ok c, s') ∧
        s.scopes.add (some parent) vars = .ok (c.scope, s'.scopes)) ∨
      ∃ fault s', (newScope parent vars >>= fun scope =>
          (pure ⟨tasks, scope, 0, kind⟩ : Build Course)) u = (.error fault, s') ∧
        s'.scopes = s.scopes := by
    rw [bind_apply, newScope_apply, hu]
    cases hadd : s.scopes.add (some parent) vars with
    | ok added => exact .inl ⟨_, _, rfl, rfl⟩
    | error fault => exact .inr ⟨fault, u, rfl, hu⟩
  unfold start
  split
  · rename_i b
    have hscopes : (template env b.source s).2.scopes = s.scopes := by
      unfold template
      dsimp only
      split <;> rfl
    rcases htemplate : template env b.source s with ⟨fault | t, u⟩
    · rw [htemplate] at hscopes
      exact .inr ⟨fault, u, bind_of_error htemplate _, hscopes⟩
    · rw [htemplate] at hscopes
      rw [bind_of_ok htemplate]
      exact hnew u hscopes _ _ _
  · exact hnew s rfl outer _ _
  · exact hnew s rfl outer _ _
  · exact hnew s rfl outer _ _
  · exact .inr ⟨_, s, rfl, rfl⟩

/-- **A block whose values are handed to a consumer only makes scopes**, if the runs within it and
the consumer do. -/
theorem grown_chunks (hE : Engine.Related (Keeps (ScopesGrow none)) E E) {σ : Type}
    {consume : σ → List Value → Build σ}
    (hconsume : ∀ acc vs, Keeps (ScopesGrow none) (consume acc vs) (consume acc vs))
    (block : Value) (vars : List (String × Value)) (outer : ScopeId) (acc : σ) :
    Keeps (ScopesGrow none) (chunks E env block vars outer consume acc)
      (chunks E env block vars outer consume acc) := by
  refine ⟨rfl, fun s => ?_⟩
  unfold chunks
  rcases start_spec env block vars outer s with ⟨c, s₁, hstart, hadd⟩ | ⟨fault, s₁, hstart, hsame⟩
  · rw [bind_of_ok hstart]
    have hrelated : Engine.Related (Keeps (ScopesGrow (some c.scope))) E E :=
      ⟨fun block vars scope => (hE.run block vars scope).mono_scopesGrow,
        fun vs => (hE.texts vs).mono_scopesGrow⟩
    have hnote := (steady_scopesGrow (some c.scope)).noteBlock env
    have hdrain := (actingIn_grows env c.scope).drain hrelated hnote
      (fun acc vs => (hconsume acc vs).mono_scopesGrow) c.kind c.tasks c.yielded acc
    have hnew : s.scopes.all.size ≤ c.scope := Nat.le_of_eq (Scopes.add_spec hadd).1.symm
    exact (Scopes.grown_add hadd).trans_new (hdrain.2 s₁) hnew
  · rw [bind_of_error hstart]
    change s.scopes.Grown none s₁.scopes
    rw [hsame]
    exact Scopes.grown_refl none _

/-- **Runs only make scopes, however deep blocks are nested.** -/
theorem engine_grows (env : BuildEnv) (n : Nat) :
    Engine.Related (Keeps (ScopesGrow none)) (engine env n) (engine env n) := by
  have K : Steady (ScopesGrow none) := steady_scopesGrow none
  have L : Elementwise env env (Keeps (ScopesGrow none)) := K.elementwise env
  induction n with
  | zero => exact ⟨fun _ _ _ => L.fault .exhausted, fun _ => L.fault .exhausted⟩
  | succ n ih =>
    refine ⟨fun block vars scope => ?_, fun vs => (L.attributeText_and_texts ih).2 vs⟩
    exact grown_chunks ih (fun acc vs => L.value (acc ++ vs)) block vars scope []

/-- The root element gathers its content and only makes scopes. -/
theorem gatherRoot_grows (env : BuildEnv) (n : Nat) (tag : QName) (args : List Value)
    (content : RootContent) (parts : Parts) :
    Keeps (ScopesGrow none) (gatherRoot (engine env n) env tag args content parts)
      (gatherRoot (engine env n) env tag args content parts) := by
  have hE := engine_grows env n
  have L : Elementwise env env (Keeps (ScopesGrow none)) := (steady_scopesGrow none).elementwise env
  refine L.gatherRoot hE (fun v parts => ?_) args content parts
  exact grown_chunks hE (fun parts vs => L.feedAll hE tag vs parts) v [] env.rootScope parts

/-! ## What is bound where -/

/-- What runs blocks. -/
inductive BlockRun (env : BuildEnv) (E : Engine) : {α : Type} → Build α → Prop where
  /-- A block is run with variables, in a scope unless it has its own. -/
  | whole (block : Value) (vars : List (String × Value)) (outer : ScopeId) :
    BlockRun env E (run E env block vars outer)
  /-- An element takes what a block yields, while the block is running. -/
  | taken (tag : QName) (parts : Parts) (block : Value) (vars : List (String × Value))
    (outer : ScopeId) :
    BlockRun env E
      (chunks E env block vars outer (fun parts vs => feedAll E env tag vs parts) parts)
  /-- A block is run once for each item. -/
  | loop (block : Value) (scope : ScopeId) (items : List Value) :
    BlockRun env E (forEach E block scope items)

/-- What runs blocks only makes scopes. -/
theorem BlockRun.grows {n : Nat} {α : Type} {m : Build α} (h : BlockRun env (engine env n) m) :
    Keeps (ScopesGrow none) m m := by
  have hE := engine_grows env n
  have L : Elementwise env env (Keeps (ScopesGrow none)) := (steady_scopesGrow none).elementwise env
  cases h with
  | whole block vars outer =>
    exact grown_chunks hE (fun acc vs => L.value (acc ++ vs)) block vars outer []
  | taken tag parts block vars outer =>
    exact grown_chunks hE (fun parts vs => L.feedAll hE tag vs parts) block vars outer parts
  | loop block scope items => exact L.forEach hE block scope items

/-- Only a scope that there is sees variables that are no constants. -/
theorem lt_size_of_lookup? {scopes : Scopes} {id : ScopeId} {name : String} {v : Value}
    (hname : constant? (Text.lower name) = none) (h : scopes.lookup? id name = some v) :
    id < scopes.all.size := by
  refine Nat.lt_of_not_le fun hle => ?_
  rw [Scopes.lookup?, hname, Scopes.chain, Array.getElem?_eq_none hle] at h
  cases h

/-- A block that sets the variable of the item, and another one, in its own scope. -/
def settingBlock : Value :=
  .routine .list [.set "_" (.str "inner"), .set "x" (.int 2), .get "x" .null]

/-- What a loop is given within the run for an item. -/
def loopEnv : BuildEnv :=
  ⟨({} : Config).settings, 0, none⟩

/-- A state with the scope of an item. -/
def loopState : BuildState where
  registry := .empty
  scopes := ⟨#[⟨[("_", .str "outer"), ("x", .int 1)], none⟩]⟩
  streams := .empty
  commands := .empty true
  words := none
  cache := .empty
  log := .empty .critical

end Build

end TagScript
