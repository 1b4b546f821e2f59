import TagScript.Proofs.Build.Regime

/-!
# Scopes under a regime

Two stores of scopes that are alike under a regime show the same variables wherever the regime lets
a build look, and every variable that is seen is held. Making a scope, setting a variable in a scope
of the build's own and putting such a scope inside another one keep them alike, and leave the scopes
of others as they were.

* `ScopesAlike.chain` — what a scope sees is the same, and is held.
* `ScopesAlike.add`, `ScopesAlike.set`, `ScopesAlike.enclose` — the changes that builds make.
-/

namespace TagScript

namespace Scopes

/-- Variables that are defined one after the other are among those given, or one of them has no
name. -/
theorem define_foldlM {P : Value → Prop} {vars own : List (String × Value)}
    (hown : ∀ b ∈ own, P b.2) (hvars : ∀ b ∈ vars, P b.2) :
    (∃ own', vars.foldlM (fun own b => define own b.1 b.2) own = .ok own' ∧ ∀ b ∈ own', P b.2) ∨
      vars.foldlM (fun own b => define own b.1 b.2) own = .error (.invalid .emptyVariableName) ∧
        ∃ b ∈ vars, b.1 = "" := by
  induction vars generalizing own with
  | nil => exact .inl ⟨own, rfl, hown⟩
  | cons b vars ih =>
    rw [List.foldlM_cons]
    by_cases hname : b.1 = ""
    · refine .inr ⟨?_, b, List.mem_cons_self, hname⟩
      rw [define, if_pos hname]
      rfl
    · rw [define, if_neg hname]
      have hset : ∀ c ∈ Fields.insert own (Text.lower b.1) b.2, P c.2 := by
        intro c hc
        rcases Fields.mem_of_mem_insert hc with hc | rfl
        · exact hown c hc
        · exact hvars b List.mem_cons_self
      rcases ih hset (List.forall_mem_cons.mp hvars).2 with hok | ⟨herror, c, hc, hempty⟩
      · exact .inl hok
      · exact .inr ⟨herror, c, List.mem_cons_of_mem b hc, hempty⟩

end Scopes

namespace Regime

variable {R : Regime} {s s' : Scopes}

namespace ScopesAlike

/-! ## What is seen -/

/-- **What a scope sees is the same in both stores, and is held.** -/
theorem chain (h : R.ScopesAlike s s') {id : ScopeId} (hid : R.scope id) :
    s'.chain id = s.chain id ∧ ∀ own ∈ s.chain id, ∀ b ∈ own, R.Holds b.2 := by
  induction id using Nat.strongRecOn with
  | ind id ih =>
    have hsame := h.same id hid
    rw [Scopes.chain, Scopes.chain, hsame]
    cases hscope : s.all[id]? with
    | none => exact ⟨rfl, List.forall_mem_nil _⟩
    | some scope =>
      obtain ⟨hown, houter⟩ := h.bound id scope hid hscope
      obtain ⟨own, parent⟩ := scope
      have hone : ∀ vars ∈ [own], ∀ b ∈ vars, R.Holds b.2 := List.forall_mem_singleton.mpr hown
      cases parent with
      | none => exact ⟨rfl, hone⟩
      | some outer =>
        dsimp only
        by_cases hlt : outer < id
        · obtain ⟨hchain, hheld⟩ := ih outer hlt (houter outer rfl)
          rw [if_pos hlt, if_pos hlt, hchain]
          exact ⟨rfl, List.forall_mem_cons.mpr ⟨hown, hheld⟩⟩
        · rw [if_neg hlt, if_neg hlt]
          exact ⟨rfl, hone⟩

/-- A variable is the same in both stores, and is held. -/
theorem lookup? (L : R.Lawful) (h : R.ScopesAlike s s') {id : ScopeId} (hid : R.scope id)
    (name : String) :
    s'.lookup? id name = s.lookup? id name ∧ ∀ v, s.lookup? id name = some v → R.Holds v := by
  obtain ⟨hchain, hheld⟩ := h.chain hid
  unfold Scopes.lookup?
  rw [hchain]
  refine ⟨rfl, fun v hv => ?_⟩
  rcases Option.or_eq_some_iff.mp hv with hconstant | ⟨-, hfound⟩
  · unfold constant? at hconstant
    split at hconstant <;> cases hconstant <;> exact L.members.every rfl trivial
  · obtain ⟨own, hown, hget⟩ := List.exists_of_findSome?_eq_some hfound
    exact hheld own hown _ (Fields.mem_of_get? hget)

theorem visible (h : R.ScopesAlike s s') {id : ScopeId} (hid : R.scope id) :
    s'.visible id = s.visible id := by
  unfold Scopes.visible
  rw [(h.chain hid).1]

/-- The scope around a scope is the same in both stores, and may be named. -/
theorem parent? (h : R.ScopesAlike s s') {id : ScopeId} (hid : R.scope id) :
    s'.parent? id = s.parent? id ∧ ∀ outer, s.parent? id = some outer → R.scope outer := by
  unfold Scopes.parent?
  rw [h.same id hid]
  refine ⟨rfl, fun outer houter => ?_⟩
  obtain ⟨scope, hscope, hparent⟩ := Option.bind_eq_some_iff.mp houter
  exact (h.bound id scope hid hscope).2 outer hparent

/-! ## What is changed -/

/-- A scope that may be named is changed in both stores alike. -/
theorem setIfInBounds (h : R.ScopesAlike s s') (id : ScopeId) {scope : Scope}
    (hown : ∀ b ∈ scope.own, R.Holds b.2)
    (hparent : ∀ outer, scope.parent = some outer → R.scope outer) :
    R.ScopesAlike ⟨s.all.setIfInBounds id scope⟩ ⟨s'.all.setIfInBounds id scope⟩ := by
  constructor
  case size => simpa using h.size
  case same =>
    intro other hother
    rw [Array.getElem?_setIfInBounds, Array.getElem?_setIfInBounds, h.size, h.same other hother]
  case bound =>
    intro other found hother hfound
    rw [Array.getElem?_setIfInBounds] at hfound
    split at hfound
    · split at hfound
      · cases hfound
        exact ⟨hown, hparent⟩
      · cases hfound
    · exact h.bound other found hother hfound
  case later => simpa using h.later

/-- A new scope is the same in both stores. -/
theorem push (h : R.ScopesAlike s s') {scope : Scope} (hown : ∀ b ∈ scope.own, R.Holds b.2)
    (hparent : ∀ outer, scope.parent = some outer → R.scope outer) :
    R.ScopesAlike ⟨s.all.push scope⟩ ⟨s'.all.push scope⟩ := by
  constructor
  case size => simpa using h.size
  case same =>
    intro id hid
    rw [Array.getElem?_push, Array.getElem?_push, h.size, h.same id hid]
  case bound =>
    intro id found hid hfound
    rw [Array.getElem?_push] at hfound
    split at hfound
    · cases hfound
      exact ⟨hown, hparent⟩
    · exact h.bound id found hid hfound
  case later =>
    intro id hid
    rw [Array.size_push] at hid
    exact h.later id (by omega)

/-- Making a scope comes to the same in both stores. -/
theorem add (h : R.ScopesAlike s s') (parent : Option ScopeId)
    (hparent : ∀ outer, parent = some outer → R.scope outer) {vars : List (String × Value)}
    (hvars : ∀ b ∈ vars, R.Holds b.2) :
    (∃ t t', s.add parent vars = .ok (s.all.size, t) ∧ s'.add parent vars = .ok (s.all.size, t') ∧
      R.ScopesAlike t t' ∧ R.own s.all.size ∧ R.Leaves s t ∧ R.Leaves s' t') ∨
      s.add parent vars = .error (.invalid .emptyVariableName) ∧
        s'.add parent vars = .error (.invalid .emptyVariableName) ∧ ∃ b ∈ vars, b.1 = "" := by
  have hgiven : ∀ b ∈ Fields.ofList vars, R.Holds b.2 := fun b hb =>
    hvars b (Fields.mem_of_mem_ofList hb)
  unfold Scopes.add Scopes.ownOf
  have hnone : ∀ b ∈ ([] : List (String × Value)), R.Holds b.2 := List.forall_mem_nil _
  rcases Scopes.define_foldlM hnone hgiven with
    ⟨own, hdefined, hown⟩ | ⟨hfails, b, hb, hempty⟩
  · rw [hdefined, h.size]
    have hnew : R.own s.all.size := h.later _ (Nat.le_refl _)
    have hother {t : Scopes} (hsize : t.all.size = s.all.size) (scope : Scope) :
        R.Leaves t ⟨t.all.push scope⟩ := by
      intro id hid
      have hne : id ≠ t.all.size := by
        intro heq
        rw [heq, hsize] at hid
        exact hid hnew
      rw [Array.getElem?_push, if_neg hne]
    exact .inl ⟨_, _, rfl, rfl, h.push hown hparent, hnew, hother rfl _, hother h.size _⟩
  · rw [hfails]
    exact .inr ⟨rfl, rfl, b, Fields.mem_of_mem_ofList hb, hempty⟩

/-- Whoever changes a scope of the build's own leaves those of others. -/
theorem leaves_setIfInBounds {id : ScopeId} (hid : R.own id) (scope : Scope) :
    R.Leaves s ⟨s.all.setIfInBounds id scope⟩ := by
  intro other hother
  have hne : id ≠ other := by
    intro heq
    rw [heq] at hid
    exact hother hid
  rw [Array.getElem?_setIfInBounds, if_neg hne]

/-- Setting a variable comes to the same in both stores. -/
theorem set (L : R.Lawful) (h : R.ScopesAlike s s') {id : ScopeId} (hid : R.own id) (name : String)
    {v : Value} (hv : R.Holds v) :
    (∃ t t', s.set id name v = .ok t ∧ s'.set id name v = .ok t' ∧ R.ScopesAlike t t' ∧
      R.Leaves s t ∧ R.Leaves s' t') ∨
      ∃ fault, s.set id name v = .error fault ∧ s'.set id name v = .error fault := by
  have hscope := L.scope_of_own id hid
  unfold Scopes.set
  rw [h.same id hscope]
  cases hfound : s.all[id]? with
  | none => exact .inr ⟨_, rfl, rfl⟩
  | some scope =>
    obtain ⟨hown, hparent⟩ := h.bound id scope hscope hfound
    dsimp only
    unfold Scopes.define
    by_cases hname : name = ""
    · rw [if_pos hname]
      exact .inr ⟨_, rfl, rfl⟩
    · rw [if_neg hname]
      have hset : ∀ b ∈ Fields.insert scope.own (Text.lower name) v, R.Holds b.2 := by
        intro b hb
        rcases Fields.mem_of_mem_insert hb with hb | rfl
        · exact hown b hb
        · exact hv
      exact .inl ⟨_, _, rfl, rfl, h.setIfInBounds id hset hparent, leaves_setIfInBounds hid _,
        leaves_setIfInBounds hid _⟩

/-- Putting a scope of the build's own inside another one is done in both stores alike. -/
theorem enclose (L : R.Lawful) (h : R.ScopesAlike s s') {id outer : ScopeId} (hid : R.own id)
    (houter : R.scope outer) :
    R.ScopesAlike (s.enclose id outer) (s'.enclose id outer) ∧ R.Leaves s (s.enclose id outer) ∧
      R.Leaves s' (s'.enclose id outer) := by
  have hscope := L.scope_of_own id hid
  have hleaves (t : Scopes) : R.Leaves t (t.enclose id outer) := by
    intro other hother
    have hne : id ≠ other := by
      intro heq
      rw [heq] at hid
      exact hother hid
    unfold Scopes.enclose
    rw [Array.getElem?_modify, if_neg hne]
  refine ⟨?_, hleaves s, hleaves s'⟩
  unfold Scopes.enclose
  constructor
  case size => simpa using h.size
  case same =>
    intro other hother
    rw [Array.getElem?_modify, Array.getElem?_modify, h.same other hother]
  case bound =>
    intro other found hother hfound
    rw [Array.getElem?_modify] at hfound
    split at hfound
    · obtain ⟨scope, hscope', rfl⟩ := Option.map_eq_some_iff.mp hfound
      obtain ⟨hown, -⟩ := h.bound other scope hother hscope'
      refine ⟨hown, fun around haround => ?_⟩
      cases haround
      exact houter
    · exact h.bound other found hother hfound
  case later => simpa using h.later

end ScopesAlike

end Regime

end TagScript
