import TagScript.Proofs.Build.ScopeFrames

/-!
# What is listed of a scope

A scope can be asked for the value of one name, which is searched for from the inside out, and for
all variables that it sees, which are put together from the outside in. Both come to the same,
whatever scopes are made inside each other and whatever is set in them in whatever order: a name
that is no constant is listed with a value exactly if it is found with it. The value of a constant is
found before any scope is searched, so a scope that sets one still finds the constant.

* `Scopes.Call`, `Scopes.run` — what makes scopes and sets variables, and what it comes to.
* `Scopes.each_own_run` — what setting a variable keeps holds of the variables of all scopes.
* `Scopes.get?_visible` — the outer variables updated by the inner ones, searched from inside.
* `Scopes.lookup?_set` — a name that was set is found, in any case.
* **`Scopes.listed_iff_found`** — what is listed is what is found.
-/

namespace TagScript

namespace Scopes

/-- What makes scopes and sets variables. -/
inductive Call where
  /-- A scope of its own is made, with variables. -/
  | make (vars : List (String × Value))
  /-- A scope is made inside another one, with variables. -/
  | child (outer : ScopeId) (vars : List (String × Value))
  /-- A variable is set in a scope. -/
  | set (id : ScopeId) (name : String) (v : Value)

/-- The names that a call sets, as they are written. -/
def Call.names : Call → List String
  | .make vars => vars.map Prod.fst
  | .child _ vars => vars.map Prod.fst
  | .set _ name _ => [name]

/-- The scopes that a call makes of the ones there are; it fails where it is given a scope that is
not there, or an empty name. -/
def Call.apply (s : Scopes) : Call → Except Fault Scopes
  | .make vars => (s.add none vars).map Prod.snd
  | .child outer vars =>
    if outer < s.all.size then (s.add (some outer) vars).map Prod.snd else .error .missingMember
  | .set id name v => s.set id name v

/-- The scopes after a call; one that fails leaves them as they are. -/
def step (s : Scopes) (c : Call) : Scopes :=
  match c.apply s with
  | .ok t => t
  | .error _ => s

/-- The scopes after some calls. -/
def run (calls : List Call) : Scopes :=
  calls.foldl step .empty

variable {s t : Scopes} {id : ScopeId} {P : List (String × Value) → Prop}

/-! ## The variables of all scopes -/

/-- Whether the own variables of every scope have a property. -/
def EachOwn (P : List (String × Value) → Prop) (s : Scopes) : Prop :=
  ∀ scope ∈ s.all, P scope.own

/-- Whether a property is kept where one of some names is set. -/
def KeptBySetting (P : List (String × Value) → Prop) (names : List String) : Prop :=
  ∀ own, P own → ∀ name ∈ names, ∀ v, P (Fields.insert own (Text.lower name) v)

theorem define_spec {own after : List (String × Value)} {name : String} {v : Value}
    (h : define own name v = .ok after) :
    after = Fields.insert own (Text.lower name) v := by
  unfold define at h
  split at h
  · cases h
  · cases h
    rfl

theorem kept_ownOf {vars own : List (String × Value)} (hnone : P [])
    (hkept : KeptBySetting P (vars.map Prod.fst)) (h : ownOf vars = .ok own) : P own := by
  have hfold (pairs before after : List (String × Value)) (hpairs : ∀ p ∈ pairs, p ∈ vars)
      (hbefore : P before)
      (h : pairs.foldlM (fun own p => define own p.1 p.2) before = .ok after) : P after := by
    induction pairs generalizing before with
    | nil =>
      cases h
      exact hbefore
    | cons p pairs ih =>
      rw [List.foldlM_cons] at h
      cases hdefine : define before p.1 p.2 with
      | error fault =>
        rw [hdefine] at h
        cases h
      | ok next =>
        rw [hdefine] at h
        obtain rfl := define_spec hdefine
        have hname : p.1 ∈ vars.map Prod.fst := List.mem_map_of_mem (hpairs p List.mem_cons_self)
        exact ih _ (fun q hq => hpairs q (List.mem_cons_of_mem p hq))
          (hkept before hbefore p.1 hname p.2) h
  exact hfold _ [] own (fun p => Fields.mem_of_mem_ofList) hnone h

theorem each_own_add {parent : Option ScopeId} {vars : List (String × Value)} (hnone : P [])
    (hkept : KeptBySetting P (vars.map Prod.fst)) (hs : s.EachOwn P)
    (h : s.add parent vars = .ok (id, t)) : t.EachOwn P := by
  obtain ⟨-, own, hown, rfl⟩ := add_spec h
  intro scope hscope
  rcases Array.mem_push.mp hscope with hscope | rfl
  · exact hs scope hscope
  · exact kept_ownOf hnone hkept hown

theorem set_spec {name : String} {v : Value} (h : s.set id name v = .ok t) :
    ∃ scope, s.all[id]? = some scope ∧
      t = ⟨s.all.setIfInBounds id
        { scope with own := Fields.insert scope.own (Text.lower name) v }⟩ := by
  unfold set at h
  cases hfound : s.all[id]? with
  | none =>
    rw [hfound] at h
    cases h
  | some scope =>
    rw [hfound] at h
    dsimp only at h
    cases hdefine : define scope.own name v with
    | error fault =>
      rw [hdefine] at h
      cases h
    | ok own =>
      rw [hdefine] at h
      cases h
      exact ⟨scope, rfl, by rw [define_spec hdefine]⟩

theorem each_own_set {name : String} {v : Value} (hkept : KeptBySetting P [name])
    (hs : s.EachOwn P) (h : s.set id name v = .ok t) : t.EachOwn P := by
  obtain ⟨scope, hfound, rfl⟩ := set_spec h
  intro other hother
  rcases Array.mem_or_eq_of_mem_setIfInBounds hother with hother | rfl
  · exact hs other hother
  · have hscope : scope ∈ s.all := Array.mem_of_getElem? hfound
    exact hkept scope.own (hs scope hscope) name List.mem_cons_self v

/-- A call keeps what setting one of its names keeps. -/
theorem each_own_step {c : Call} (hnone : P []) (hkept : KeptBySetting P c.names)
    (hs : s.EachOwn P) : (s.step c).EachOwn P := by
  have hadded {parent : Option ScopeId} {vars : List (String × Value)} {t : Scopes}
      (hkept : KeptBySetting P (vars.map Prod.fst))
      (h : (s.add parent vars).map Prod.snd = .ok t) : t.EachOwn P := by
    cases hadd : s.add parent vars with
    | error fault =>
      rw [hadd] at h
      cases h
    | ok added =>
      rw [hadd] at h
      cases h
      exact each_own_add hnone hkept hs hadd
  unfold step
  cases happly : c.apply s with
  | error fault => exact hs
  | ok t =>
    cases c with
    | make vars => exact hadded hkept happly
    | child outer vars =>
      rw [Call.apply] at happly
      split at happly
      · exact hadded hkept happly
      · cases happly
    | set id name v => exact each_own_set hkept hs happly

/-- **What setting a variable keeps holds of the own variables of all scopes**, whatever calls they
come of. -/
theorem each_own_run {calls : List Call} (hnone : P [])
    (hkept : ∀ c ∈ calls, KeptBySetting P c.names) : (run calls).EachOwn P := by
  have hfold (calls : List Call) (s : Scopes) (hkept : ∀ c ∈ calls, KeptBySetting P c.names)
      (hs : s.EachOwn P) : (calls.foldl step s).EachOwn P := by
    induction calls generalizing s with
    | nil => exact hs
    | cons c calls ih =>
      have hstep : (s.step c).EachOwn P := each_own_step hnone (hkept c List.mem_cons_self) hs
      exact ih (s.step c) (fun d hd => hkept d (List.mem_cons_of_mem c hd)) hstep
  exact hfold calls .empty hkept fun scope hscope => absurd hscope (Array.not_mem_empty scope)

/-- The names in a scope are apart. -/
theorem keys_apart (calls : List Call) :
    (run calls).EachOwn fun own => (Fields.keys own).Nodup :=
  each_own_run List.nodup_nil fun _ _ _ hown name _ v =>
    Fields.nodup_keys_insert hown (Text.lower name) v

/-- Where no constant is set, no scope has a variable of its name. -/
theorem no_constants {calls : List Call}
    (h : ∀ c ∈ calls, ∀ name ∈ c.names, constant? (Text.lower name) = none) :
    (run calls).EachOwn fun own => ∀ p ∈ own, constant? p.1 = none := by
  have hnone : ∀ p ∈ ([] : List (String × Value)), constant? p.1 = none := fun p hp =>
    absurd hp List.not_mem_nil
  refine each_own_run hnone fun c hc own hown name hname v p hp => ?_
  rcases Fields.mem_of_mem_insert hp with hp | rfl
  · exact hown p hp
  · exact h c hc name hname

/-! ## Searching and putting together -/

/-- What a scope sees is the variables of scopes that there are. -/
theorem each_of_mem_chain (hs : s.EachOwn P) {own : List (String × Value)}
    (h : own ∈ s.chain id) : P own := by
  induction id using Nat.strongRecOn with
  | ind id ih =>
    rcases s.path_cases id with ⟨-, hchain⟩ | ⟨scope, hscope, hchain⟩
    · rw [hchain] at h
      cases h
    · have hown : P scope.own := hs scope (Array.mem_of_getElem? hscope)
      rcases hchain with ⟨-, hchain⟩ | ⟨outer, hlt, -, -, hchain⟩
      · rw [hchain] at h
        exact List.mem_singleton.mp h ▸ hown
      · rw [hchain] at h
        rcases List.mem_cons.mp h with rfl | h
        · exact hown
        · exact ih outer hlt h

/-- **Outer variables that inner ones update come to a search from inside.** -/
theorem get?_visible (hs : s.EachOwn fun own => (Fields.keys own).Nodup) (id : ScopeId)
    (key : String) :
    Fields.get? (s.visible id) key = (s.chain id).findSome? fun own => Fields.get? own key := by
  have hfold (owns : List (List (String × Value))) (h : ∀ own ∈ owns, (Fields.keys own).Nodup) :
      Fields.get? (owns.foldr (fun own seen => Fields.update seen own) []) key =
        owns.findSome? fun own => Fields.get? own key := by
    induction owns with
    | nil => rfl
    | cons own owns ih =>
      rw [List.foldr_cons, Fields.get?_update (h own List.mem_cons_self),
        ih fun other hother => h other (List.mem_cons_of_mem own hother), List.findSome?_cons]
      cases Fields.get? own key <;> rfl
  rw [visible, List.foldl_reverse]
  exact hfold _ fun own hown => each_of_mem_chain hs hown

/-- Every name is listed once. -/
theorem nodup_visible (s : Scopes) (id : ScopeId) : (Fields.keys (s.visible id)).Nodup := by
  unfold visible
  generalize (s.chain id).reverse = owns
  have hfold (seen : List (String × Value)) (h : (Fields.keys seen).Nodup) :
      (Fields.keys (owns.foldl Fields.update seen)).Nodup := by
    induction owns generalizing seen with
    | nil => exact h
    | cons own owns ih => exact ih _ (Fields.nodup_keys_update h own)
  exact hfold [] List.nodup_nil

/-- What is listed is what a search through the scopes finds. -/
theorem mem_visible_iff (hs : s.EachOwn fun own => (Fields.keys own).Nodup) (id : ScopeId)
    (key : String) (v : Value) :
    (key, v) ∈ s.visible id ↔
      ((s.chain id).findSome? fun own => Fields.get? own key) = some v := by
  rw [← get?_visible hs]
  exact ⟨Fields.get?_of_mem (nodup_visible s id), Fields.mem_of_get?⟩

/-- A name that is no constant is searched for in the scopes. -/
theorem lookup?_of_no_constant {name : String} (h : constant? (Text.lower name) = none) :
    s.lookup? id name = (s.chain id).findSome? fun own => Fields.get? own (Text.lower name) := by
  rw [lookup?, h]
  rfl

/-! ## Setting -/

/-- A variable can be set in every scope that there is, by every name but the empty one. -/
theorem set_succeeds (hid : id < s.all.size) {name : String} (hname : name ≠ "") (v : Value) :
    ∃ t, s.set id name v = .ok t := by
  unfold set define
  rw [Array.getElem?_eq_getElem hid]
  dsimp only
  rw [if_neg hname]
  exact ⟨_, rfl⟩

/-- **A name that was set is found, in any case**, unless it is a constant. -/
theorem lookup?_set {name : String} {v : Value} (h : s.set id name v = .ok t) {word : String}
    (hword : Text.lower word = Text.lower name) (hconstant : constant? (Text.lower name) = none) :
    t.lookup? id word = some v := by
  obtain ⟨scope, hfound, rfl⟩ := set_spec h
  obtain ⟨hid, -⟩ := Array.getElem?_eq_some_iff.mp hfound
  have hchain : ∃ rest, Scopes.chain ⟨s.all.setIfInBounds id
      { scope with own := Fields.insert scope.own (Text.lower name) v }⟩ id =
        Fields.insert scope.own (Text.lower name) v :: rest := by
    rw [chain, Array.getElem?_setIfInBounds_self_of_lt hid]
    exact ⟨_, rfl⟩
  obtain ⟨rest, hchain⟩ := hchain
  have hget : Fields.get? (Fields.insert scope.own (Text.lower name) v) (Text.lower name) =
      some v := by
    rw [Fields.get?_insert, if_pos rfl]
  rw [lookup?_of_no_constant (hword ▸ hconstant), hchain, hword, List.findSome?_cons, hget]

/-! ## The two views -/

/-- **What is listed is what is found.** Whatever scopes are made inside each other and whatever is
set in them, in every scope: every name is listed once; a name in lower case that is no constant is
listed, and listed with a value, exactly if it is found, and found with that value; if no constant
was ever set, then what is listed is exactly what is found and no constant. A constant is found as
such whatever was set, and every other name that was set is found from then on, in any case. -/
theorem listed_iff_found (calls : List Call) (id : ScopeId) :
    (Fields.keys ((run calls).visible id)).Nodup ∧
    (∀ name, Text.lower name = name → constant? name = none →
      (∀ v, (name, v) ∈ (run calls).visible id ↔ (run calls).lookup? id name = some v) ∧
        (name ∈ Fields.keys ((run calls).visible id) ↔
          ((run calls).lookup? id name).isSome)) ∧
    ((∀ c ∈ calls, ∀ name ∈ c.names, constant? (Text.lower name) = none) →
      ∀ name, Text.lower name = name → ∀ v,
        (name, v) ∈ (run calls).visible id ↔
          constant? name = none ∧ (run calls).lookup? id name = some v) ∧
    (∀ name v, constant? (Text.lower name) = some v → (run calls).lookup? id name = some v) ∧
    ∀ name v, id < (run calls).all.size → name ≠ "" → constant? (Text.lower name) = none →
      ∃ t, (run calls).set id name v = .ok t ∧
        ∀ word, Text.lower word = Text.lower name → t.lookup? id word = some v := by
  have hapart := keys_apart calls
  have hlisted (name : String) (hlower : Text.lower name = name) (hconstant : constant? name = none)
      (v : Value) :
      (name, v) ∈ (run calls).visible id ↔ (run calls).lookup? id name = some v := by
    rw [mem_visible_iff hapart, lookup?_of_no_constant (hlower.symm ▸ hconstant), hlower]
  refine ⟨nodup_visible _ id, fun name hlower hconstant => ⟨hlisted name hlower hconstant, ?_⟩,
    fun hcalls name hlower v => ?_, fun name v h => lookup?_constant h _ id,
    fun name v hid hname hconstant => ?_⟩
  · rw [lookup?_of_no_constant (hlower.symm ▸ hconstant), hlower, ← get?_visible hapart,
      ← Option.ne_none_iff_isSome, ne_eq, Fields.get?_eq_none_iff, Classical.not_not]
  · refine ⟨fun h => ?_, fun ⟨hconstant, h⟩ => (hlisted name hlower hconstant v).mpr h⟩
    have hconstant : constant? name = none := by
      obtain ⟨own, hown, hget⟩ :=
        List.exists_of_findSome?_eq_some ((mem_visible_iff hapart id name v).mp h)
      exact each_of_mem_chain (no_constants hcalls) hown _ (Fields.mem_of_get? hget)
    exact ⟨hconstant, (hlisted name hlower hconstant v).mp h⟩
  · obtain ⟨t, hset⟩ := set_succeeds hid hname v
    exact ⟨t, hset, fun word hword => lookup?_set hset hword hconstant⟩

/-- A scope that hides a variable of the scope around it. -/
def hidingCalls : List Call :=
  [.make [("Name", .int 1)], .child 0 [("x", .null)], .set 1 "NAME" (.int 2)]

theorem listed_iff_found_hiding :
    (∀ c ∈ hidingCalls, ∀ name ∈ c.names, constant? (Text.lower name) = none) ∧
      Text.lower "name" = "name" ∧ constant? "name" = none ∧
      ("name", .int 2) ∈ (run hidingCalls).visible 1 ∧
      "name" ∈ Fields.keys ((run hidingCalls).visible 1) ∧
      constant? (Text.lower "True") = some (.bool true) ∧
      (run hidingCalls).lookup? 1 "True" = some (.bool true) ∧
      ∃ t, (run hidingCalls).set 1 "nAme" (.int 3) = .ok t ∧
        t.lookup? 1 "NAME" = some (.int 3) := by
  obtain ⟨-, hname, hcalls, hconstant, hset⟩ := listed_iff_found hidingCalls 1
  have hlower : Text.lower "name" = "name" := by decide
  have hnone : constant? "name" = none := rfl
  have hfree : ∀ c ∈ hidingCalls, ∀ name ∈ c.names, constant? (Text.lower name) = none := by
    simp only [hidingCalls, Call.names, List.forall_mem_cons, List.map_cons, List.map_nil]
    exact ⟨⟨rfl, nofun⟩, ⟨rfl, nofun⟩, ⟨rfl, nofun⟩, nofun⟩
  have hfound : (run hidingCalls).lookup? 1 "name" = some (.int 2) := by
    rw [lookup?, hlower, chain]
    rfl
  have htrue : constant? (Text.lower "True") = some (.bool true) := rfl
  have hword : Text.lower "NAME" = Text.lower "nAme" := by decide
  obtain ⟨t, hafter, hsees⟩ :=
    hset "nAme" (.int 3) (by decide) (by decide) rfl
  refine ⟨hfree, hlower, hnone, (hcalls hfree "name" hlower _).mpr ⟨hnone, hfound⟩,
    ((hname "name" hlower hnone).2).mpr (by rw [hfound]; rfl), htrue, hconstant _ _ htrue, t,
    hafter, hsees _ hword⟩

/-- A constant that is set is listed with the value that was set, and is found as it was. -/
theorem set_constant_listed :
    ¬(("true", .int 1) ∈ (run [.make [], .set 0 "true" (.int 1)]).visible 0 ↔
        constant? "true" = none ∧
          (run [.make [], .set 0 "true" (.int 1)]).lookup? 0 "true" = some (.int 1)) ∧
      ∃ t, (run [.make []]).set 0 "true" (.int 1) = .ok t ∧
        t.lookup? 0 "true" ≠ some (.int 1) := by
  have hlisted : ("true", .int 1) ∈ (run [.make [], .set 0 "true" (.int 1)]).visible 0 := by
    rw [visible, chain]
    exact List.mem_cons_self
  have htrue : constant? (Text.lower "true") = some (.bool true) := rfl
  refine ⟨fun h => ?_, _, rfl, ?_⟩
  · exact Option.some_ne_none _ (h.mp hlisted).1
  · rw [lookup?_constant htrue]
    intro hbool
    cases hbool

end Scopes

end TagScript
