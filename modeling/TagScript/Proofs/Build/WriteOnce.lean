import TagScript.Proofs.Build.Declarations
import TagScript.Proofs.Build.StatementOrder

/-!
# Bindings are written once

A build binds prefixes and never takes a binding back. This holds of every step of it, wherever the
step begins and however it ends, so what a prefix stood for at any moment it stands for until the
end of the build, and the bindings keep the order in which they were made.

* `Registry.Continues` — the bindings of before with others behind them, for prefixes that were
  free.
* `Build.RunStep` — the steps that builds of documents and of elements are made of.
* `Build.Refuses` — a step that fails or goes on, with everything as it was.
* **`Build.bindings_writeOnce`** — every step continues the bindings; binding a prefix to a second
  URI is refused; the namespace of the root element stays the default one.
-/

namespace TagScript

namespace Registry

/-! ## Bindings with others behind them -/

/-- Whether bindings are those of before and others behind them, for prefixes that were free. -/
structure Continues (r r' : Registry) : Prop where
  /-- Every prefix keeps its URI. -/
  kept : r.Extends r'
  /-- The bindings of before stand first, in their order. -/
  order : r.bindings <+: r'.bindings
  /-- No prefix is bound a second time. -/
  once : r.prefixes.Nodup → r'.prefixes.Nodup

theorem continues_refl (r : Registry) : r.Continues r where
  kept := r.extends_refl
  order := List.prefix_refl r.bindings
  once hnodup := hnodup

theorem Continues.trans {r r' r'' : Registry} (h : r.Continues r') (h' : r'.Continues r'') :
    r.Continues r'' where
  kept := h.kept.trans h'.kept
  order := h.order.trans h'.order
  once hnodup := h'.once (h.once hnodup)

/-- A prefix without a URI is none of those that are bound. -/
theorem notMem_prefixes {r : Registry} {pfx : String} (h : r.get? pfx = none) :
    pfx ∉ r.prefixes := by
  obtain ⟨bindings⟩ := r
  induction bindings with
  | nil => simp [prefixes]
  | cons binding bindings ih =>
    rw [get?, Fields.get?] at h
    split at h
    · cases h
    · rename_i hne
      have hrest := ih h
      simp only [prefixes, List.map_cons, List.mem_cons, not_or]
      exact ⟨Ne.symm hne, hrest⟩

/-- One attempt to bind a prefix continues the bindings. -/
theorem continues_afterAdd (r : Registry) (binding : String × String) :
    r.Continues (r.afterAdd binding) := by
  obtain ⟨pfx, uri⟩ := binding
  by_cases hempty : uri = ""
  · have hsame : r.afterAdd (pfx, uri) = r := by
      rw [afterAdd, add, if_pos hempty]
    rw [hsame]
    exact r.continues_refl
  · cases hknown : r.get? pfx with
    | some known =>
      rw [afterAdd_of_bound hknown]
      exact r.continues_refl
    | none =>
      have hadded : r.afterAdd (pfx, uri) = ⟨r.bindings ++ [(pfx, uri)]⟩ := by
        rw [afterAdd, add, if_neg hempty, hknown]
      rw [hadded]
      refine ⟨fun p u hbound => Fields.get?_append hbound, List.prefix_append _ _, ?_⟩
      intro hnodup
      have hfree := notMem_prefixes hknown
      simp only [prefixes, List.map_append, List.map_cons, List.map_nil] at hnodup hfree ⊢
      rw [List.nodup_append]
      refine ⟨hnodup, by simp, fun p hp q hq hpq => ?_⟩
      rw [List.mem_singleton.mp hq] at hpq
      exact hfree (hpq ▸ hp)

theorem continues_afterAdds (r : Registry) (bindings : List (String × String)) :
    r.Continues (r.afterAdds bindings) := by
  induction bindings generalizing r with
  | nil => exact r.continues_refl
  | cons binding bindings ih =>
    exact (r.continues_afterAdd binding).trans (ih (r.afterAdd binding))

/-- Binding a prefix to another URI than the one it has is a collision. -/
theorem add_of_bound {r : Registry} {pfx known uri : String} (hbound : r.get? pfx = some known)
    (hne : known ≠ uri) (huri : uri ≠ "") :
    r.add pfx uri = .error (.collision pfx known uri) := by
  rw [add, if_neg huri, hbound]
  exact if_neg hne

end Registry

namespace Build

/-! ## The steps of a build -/

/-- Whether a step, wherever it begins and however it ends, continues the bindings. -/
def BindsOnce {α : Type} (m : Build α) : Prop :=
  ∀ s : BuildState, s.registry.Continues (m s).2.registry

/-- The steps that builds of documents and of elements are made of, one within another. -/
inductive RunStep (env : BuildEnv) (E : Engine) : {α : Type} → Build α → Prop where
  /-- Building a document. -/
  | document (config : DocumentConfig) (request : DocumentRequest) :
    RunStep env E (document E env config request)
  /-- Building the root element of a document. -/
  | rootElement (request : DocumentRequest) (tag : QName) :
    RunStep env E (rootElement E env request tag)
  /-- Building an element. -/
  | element (tag : Value) (args : List Value) : RunStep env E (element E env tag args)
  /-- Taking a row of arguments. -/
  | arguments (tag : QName) (args : List Value) (parts : Parts) :
    RunStep env E (feedAll E env tag args parts)
  /-- Taking one argument. -/
  | argument (tag : QName) (parts : Parts) (v : Value) : RunStep env E (take E env tag parts v)
  /-- Declaring a namespace. -/
  | declaration (tag : QName) (parts : Parts) (head : Head) (n : Namespace) :
    RunStep env E (declare env tag parts head n)
  /-- Making the text of an attribute. -/
  | attributeText (v : Value) : RunStep env E (attributeText E env v)
  /-- Running a block. -/
  | block (block : Value) (vars : List (String × Value)) (scope : ScopeId) :
    RunStep env E (run E env block vars scope)
  /-- Running a statement. -/
  | statement (scope : ScopeId) (s : Statement) : RunStep env E (statement E env scope s)
  /-- Evaluating an operand. -/
  | operand (scope : ScopeId) (o : Operand) : RunStep env E (operand E env scope o)
  /-- A step of a routine. -/
  | routineStep (scope : ScopeId) (step : Step) : RunStep env E (routineStep E env scope step)
  /-- Invoking a command. -/
  | command (i : Invocation) : RunStep env E (invoke E env i)

theorem OnlyBinds.continues {s s' : BuildState} (h : OnlyBinds s s') :
    s.registry.Continues s'.registry := by
  obtain ⟨adds, hadds⟩ := h
  rw [hadds]
  exact s.registry.continues_afterAdds adds

/-- **Every step of a build continues the bindings.** -/
theorem RunStep.bindsOnce {env : BuildEnv} {n : Nat} {α : Type} {m : Build α}
    (h : RunStep env (engine env n) m) : BindsOnce m := by
  have L := documenting_onlyBinds env
  have hE := L.engine n
  have hkeeps : Keeps OnlyBinds m m := by
    cases h with
    | document config request => exact L.document hE config request
    | rootElement request tag => exact L.rootElement hE request tag
    | element tag args => exact L.element hE tag args
    | arguments tag args parts => exact L.feedAll hE tag args parts
    | argument tag parts v => exact L.take hE tag parts v
    | declaration tag parts head n => exact L.declare tag parts head n
    | attributeText v => exact (L.attributeText_and_texts hE).1 v
    | block block vars scope => exact L.run hE block vars scope
    | statement scope s => exact L.statement hE scope s
    | operand scope o => exact (L.operand_and_statement hE scope).1 o
    | routineStep scope step => exact L.routineStep hE scope step
    | command i => exact L.invoke hE i
  intro s
  have hbinds : OnlyBinds s (m s).2 := hkeeps.2 s
  exact hbinds.continues

/-! ## Refused bindings -/

/-- Whether a step is refused with a fault and leaves everything as it was, or is passed over and
leaves everything as it was but the reports and the log. -/
def Refuses {α : Type} (strict : Bool) (fault : Fault) (m : Build α) (s : BuildState) : Prop :=
  if strict then m s = (.error fault, s) else (m s).1.toBool = true ∧ (m s).2.view = s.view

theorem refuses_bindPrefix (env : BuildEnv) (tag : QName) {pfx known uri : String} {s : BuildState}
    (hbound : s.registry.get? pfx = some known) (hne : known ≠ uri) (huri : uri ≠ "") :
    Refuses env.settings.strictCollisions (.collision pfx known uri) (bindPrefix env tag pfx uri)
      s := by
  have hadd := Registry.add_of_bound hbound hne huri
  unfold Refuses
  cases hstrict : env.settings.strictCollisions with
  | true =>
    rw [if_pos rfl, bindPrefix, read_bind, hadd]
    dsimp only
    rw [if_pos hstrict]
    rfl
  | false =>
    rw [if_neg Bool.false_ne_true, bindPrefix, read_bind, hadd]
    dsimp only
    rw [hstrict]
    exact ⟨rfl, rfl⟩

/-- A command that binds a prefix does not pass over a collision. -/
theorem refuses_declarePrefix (name : String) {pfx known : String} {v : Value} (rest : List Value)
    (scope : ScopeId) {s : BuildState} (hbound : s.registry.get? pfx = some known)
    (hne : known ≠ v.plain) (huri : v.plain ≠ "") :
    Refuses true (.collision pfx known v.plain) (declarePrefix ⟨name, .str pfx :: v :: rest, scope⟩)
      s := by
  have hadd := Registry.add_of_bound hbound hne huri
  have hpfx : argument ⟨name, .str pfx :: v :: rest, scope⟩ 0 s = (.ok (.str pfx), s) := rfl
  have hv : argument ⟨name, .str pfx :: v :: rest, scope⟩ 1 s = (.ok v, s) := rfl
  rw [Refuses, if_pos rfl, declarePrefix, bind_of_ok hpfx, bind_of_ok hv]
  dsimp only
  rw [read_bind, hadd]
  rfl

/-! ## The default namespace of a document -/

/-- A namespace on the root element is bound first, as the default one. -/
theorem bindRoot_of_free {tag : QName} {uri : String} (htag : tag.uri = some uri) (huri : uri ≠ "")
    {s : BuildState} (hfree : s.registry = .empty) :
    bindRoot tag s = (.ok (), { s with registry := ⟨[("", uri)]⟩ }) := by
  have hadd : s.registry.add "" uri = .ok (true, ⟨[("", uri)]⟩) := by
    rw [hfree, Registry.add, if_neg huri]
    rfl
  unfold bindRoot
  rw [htag]
  dsimp only
  rw [read_bind, hadd]
  rfl

/-- The steps of a document behind the name of its root element continue the bindings too. -/
theorem bindsOnce_documentNamed (env : BuildEnv) (n : Nat) (config : DocumentConfig)
    (request : DocumentRequest) (tag : QName) :
    BindsOnce (documentNamed (engine env n) env config request tag) := by
  have L := documenting_onlyBinds env
  have hE := L.engine n
  have hkeeps : Keeps OnlyBinds (documentNamed (engine env n) env config request tag)
      (documentNamed (engine env n) env config request tag) := by
    unfold documentNamed
    refine L.bind (L.record _ _ _ _ nofun) fun _ => L.bind (L.encloseParameters _) fun _ => ?_
    refine L.bind (L.rootElement hE request tag) fun root => ?_
    exact L.bind (L.documentOf config request root) fun d =>
      L.bind (L.record _ _ _ _ nofun) fun _ => L.value d
  intro s
  have hbinds : OnlyBinds s (documentNamed (engine env n) env config request tag s).2 := hkeeps.2 s
  exact hbinds.continues

/-- A root element in a namespace, on which another default namespace is declared in vain. -/
def qualifiedRequest : DocumentRequest where
  root := .name ⟨"r", some "urn:r"⟩
  args := [.str "xmlns", .ns ⟨"urn:a"⟩]

end Build

end TagScript
