import TagScript.Proofs.Build.CommandTables
import TagScript.Proofs.Build.ResolvedNames
import TagScript.Proofs.Script.NestedStatements

/-!
# Steps that come to a value

A build that comes to a document is made of steps that came to their values, so nothing has to be
said about a step that fails. A relation between the states before and behind a step holds of all
that statements and elements are made of, if it holds of changes that leave the bindings, the
commands, the kept templates and the reports about element words.

* `Build.Quiet` — such a change.
* `Build.Succeeds` — whether a step, when it comes to a value, takes every state to a related one.
* **`Build.Traced.stepwise`** — the small steps of statements and elements do.
* `Build.Occurs` — whether a step was begun and came to its value in between.
* `Build.Traced.occurs_drain`, **`Build.Traced.occurs_within`** — when a block comes to its end, all
  of its statements were run, also those between parentheses.
-/

namespace TagScript

namespace Registry

theorem extends_add {r r' : Registry} {pfx uri : String} {created : Bool}
    (h : r.add pfx uri = .ok (created, r')) : r.Extends r' :=
  fun _ _ hbound => get?_add h hbound

theorem Proper.add {r r' : Registry} (hr : r.Proper) {pfx uri : String} {created : Bool}
    (h : r.add pfx uri = .ok (created, r')) : r'.Proper := by
  have hafter : r.afterAdd (pfx, uri) = r' := by rw [Registry.afterAdd, h]
  exact hafter ▸ hr.afterAdd (pfx, uri)

end Registry

namespace Log

theorem threshold_add (log : Log) (record : LogRecord) :
    (log.add record).threshold = log.threshold := by
  unfold add
  split <;> rfl

/-- What is written to a log stays there. -/
theorem mem_add_of_mem {log : Log} {r : LogRecord} (h : r ∈ log.records) (record : LogRecord) :
    r ∈ (log.add record).records := by
  unfold add
  split
  · exact Array.mem_push_of_mem record h
  · exact h

/-- A log that keeps everything has the record. -/
theorem mem_add {log : Log} (h : log.threshold = .debug) (record : LogRecord) :
    record ∈ (log.add record).records := by
  have hkeeps : log.keeps record.level = true := by
    rw [keeps, h]
    exact decide_eq_true (Nat.zero_le _)
  rw [add, if_pos hkeeps]
  exact Array.mem_push_self

/-- So it is with a row of records. -/
theorem foldl_add {α : Type} (f : α → LogRecord) (items : List α) (log : Log) :
    (items.foldl (fun log a => log.add (f a)) log).threshold = log.threshold ∧
      ∀ r ∈ log.records, r ∈ (items.foldl (fun log a => log.add (f a)) log).records := by
  induction items generalizing log with
  | nil => exact ⟨rfl, fun r hr => hr⟩
  | cons a items ih =>
    obtain ⟨hthreshold, hrecords⟩ := ih (log.add (f a))
    exact ⟨hthreshold.trans (log.threshold_add (f a)),
      fun r hr => hrecords r (mem_add_of_mem hr (f a))⟩

end Log

namespace Build

/-- Whether a change leaves the commands, the kept templates and the bindings there are, adds to the
log, and reports nothing about element words. -/
structure Quiet (s s' : BuildState) : Prop where
  /-- Bindings may be added. -/
  registry : s.registry.Extends s'.registry
  /-- No prefix gets bound to the empty URI. -/
  proper : s.registry.Proper → s'.registry.Proper
  /-- The commands are as before. -/
  commands : s'.commands = s.commands
  /-- So is the table that tells command words from element words. -/
  words : s'.words = s.words
  /-- The kept templates are as before. -/
  cache : s'.cache = s.cache
  /-- The log keeps the same levels. -/
  threshold : s'.log.threshold = s.log.threshold
  /-- The records of the log stay. -/
  records : ∀ r ∈ s.log.records, r ∈ s'.log.records
  /-- What is reported is not about element words. -/
  reports : ∀ d ∈ s'.diagnostics, d ∈ s.diagnostics ∨ d.component ≠ "source_rewriter"

namespace Quiet

variable {s s' s'' : BuildState}

/-- Scopes, streams, counts and the depth do not matter. -/
theorem of_eq (hregistry : s'.registry = s.registry) (hcommands : s'.commands = s.commands)
    (hwords : s'.words = s.words) (hcache : s'.cache = s.cache) (hlog : s'.log = s.log)
    (hdiagnostics : s'.diagnostics = s.diagnostics) : Quiet s s' where
  registry := hregistry ▸ s.registry.extends_refl
  proper h := hregistry ▸ h
  commands := hcommands
  words := hwords
  cache := hcache
  threshold := by rw [hlog]
  records r hr := by rwa [hlog]
  reports d hd := .inl (by rwa [hdiagnostics] at hd)

theorem refl (s : BuildState) : Quiet s s :=
  of_eq rfl rfl rfl rfl rfl rfl

theorem trans (h : Quiet s s') (h' : Quiet s' s'') : Quiet s s'' where
  registry := h.registry.trans h'.registry
  proper hproper := h'.proper (h.proper hproper)
  commands := h'.commands.trans h.commands
  words := h'.words.trans h.words
  cache := h'.cache.trans h.cache
  threshold := h'.threshold.trans h.threshold
  records r hr := h'.records r (h.records r hr)
  reports d hd := (h'.reports d hd).elim (h.reports d) .inr

/-- A record is written. -/
theorem record (s : BuildState) (r : LogRecord) : Quiet s { s with log := s.log.add r } where
  registry := s.registry.extends_refl
  proper := id
  commands := rfl
  words := rfl
  cache := rfl
  threshold := s.log.threshold_add r
  records _ hr := Log.mem_add_of_mem hr r
  reports _ hd := .inl hd

/-- A problem is reported that is not about an element word. -/
theorem report (s : BuildState) {d : Diagnostic} (h : d.component ≠ "source_rewriter") :
    Quiet s { s with diagnostics := s.diagnostics.push d } where
  registry := s.registry.extends_refl
  proper := id
  commands := rfl
  words := rfl
  cache := rfl
  threshold := rfl
  records _ hr := hr
  reports d' hd' := by
    rcases Array.mem_push.mp hd' with hd' | rfl
    · exact .inl hd'
    · exact .inr h

/-- A binding is added. -/
theorem bound {pfx uri : String} {created : Bool} {registry : Registry}
    (h : s.registry.add pfx uri = .ok (created, registry)) : Quiet s { s with registry } where
  registry := Registry.extends_add h
  proper hproper := hproper.add h
  commands := rfl
  words := rfl
  cache := rfl
  threshold := rfl
  records _ hr := hr
  reports _ hd := .inl hd

end Quiet

/-- Whether a step, when it comes to a value, takes every state to one that the state is related to.
As a relation between steps, so that it can be carried through all that they are put together to. -/
def Succeeds (P : BuildState → BuildState → Prop) {α : Type} (m m' : Build α) : Prop :=
  m = m' ∧ ∀ s a s', m s = (.ok a, s') → P s s'

/-- A relation between states that holds of quiet changes and of one change after another. -/
structure Traced (P : BuildState → BuildState → Prop) : Prop where
  /-- What holds of two rows of steps holds of both together. -/
  trans : ∀ {s s' s'' : BuildState}, P s s' → P s' s'' → P s s''
  /-- Quiet changes are related. -/
  quiet : ∀ {s s' : BuildState}, Quiet s s' → P s s'

namespace Traced

variable {P : BuildState → BuildState → Prop} (T : Traced P)
include T

/-! ## Single steps -/

/-- A step that makes a quiet change wherever it begins. -/
theorem of_change {α : Type} {m : Build α} (h : ∀ s, Quiet s (m s).2) : Succeeds P m m := by
  refine ⟨rfl, fun s a s' hrun => ?_⟩
  have hquiet := T.quiet (h s)
  rwa [hrun] at hquiet

theorem value {α : Type} (a : α) : Succeeds P (pure a) (pure a) :=
  T.of_change Quiet.refl

omit T in
theorem fault {α : Type} (f : Fault) : @Succeeds P α (fail f) (fail f) :=
  ⟨rfl, fun s a s' hrun => by cases hrun⟩

theorem read {α : Type} (f : BuildState → α) : Succeeds P (read f) (read f) :=
  T.of_change Quiet.refl

theorem bind {α β : Type} {m m' : Build α} {f f' : α → Build β} (h : Succeeds P m m')
    (hf : ∀ a, Succeeds P (f a) (f' a)) : Succeeds P (m >>= f) (m' >>= f') := by
  obtain ⟨rfl, hm⟩ := h
  obtain rfl : f = f' := funext fun a => (hf a).1
  refine ⟨rfl, fun s b s' hrun => ?_⟩
  obtain ⟨a, s₁, hfirst, hrest⟩ := exists_of_bind_ok hrun
  exact T.trans (hm s a s₁ hfirst) ((hf a).2 s₁ b s' hrest)

theorem deeper {α : Type} {m m' : Build α} (h : Succeeds P m m') :
    Succeeds P (deeper m) (deeper m') := by
  obtain ⟨rfl, hm⟩ := h
  refine ⟨rfl, fun s a s' hrun => ?_⟩
  rcases hbody : m { s with depth := s.depth + 1 } with ⟨r, s₁⟩
  rw [deeper_of_eq hbody] at hrun
  cases hrun
  have hdown : P s { s with depth := s.depth + 1 } := T.quiet (.of_eq rfl rfl rfl rfl rfl rfl)
  exact T.trans (T.trans hdown (hm _ _ _ hbody)) (T.quiet (.of_eq rfl rfl rfl rfl rfl rfl))

omit T in
theorem noteFault {α : Type} (logger : Logger) {m m' : Build α} (h : Succeeds P m m') :
    Succeeds P (noteFault logger m) (noteFault logger m') := by
  obtain ⟨rfl, hm⟩ := h
  refine ⟨rfl, fun s a s' hrun => ?_⟩
  exact hm _ _ _ (of_noteFault_ok hrun)

theorem tryBinding (pfx uri : String) :
    Succeeds P (tryBinding pfx uri) (tryBinding pfx uri) := by
  refine T.of_change fun s => ?_
  rw [Build.tryBinding, read_bind]
  cases hadd : s.registry.add pfx uri with
  | ok added => exact .bound hadd
  | error fault => exact .refl s

/-! ## The steps of a build -/

/-- The primitive steps are related, when they come to a value. -/
theorem primitive : Primitive (Succeeds P) where
  value := T.value
  fault := fault
  bind := T.bind
  deeper := T.deeper
  read _ := T.read _
  record _ _ _ _ _ := T.of_change fun s => .record s _
  report _ hd := T.of_change fun s => .report s hd
  count _ _ := T.of_change fun _ => .of_eq rfl rfl rfl rfl rfl rfl
  tryBinding := T.tryBinding

theorem newScope (parent : ScopeId) (vars : List (String × Value)) :
    Succeeds P (newScope parent vars) (newScope parent vars) :=
  T.of_change fun s => by
    unfold Build.newScope
    split <;> exact .of_eq rfl rfl rfl rfl rfl rfl

variable (env : BuildEnv)

theorem noteBlock (kind : String) (yielded : Nat) :
    Succeeds P (noteBlock env kind yielded) (noteBlock env kind yielded) :=
  T.primitive.noteBlock env kind yielded

/-- **The small steps of statements and elements are related**, when they come to a value. -/
theorem stepwise : Stepwise env env (Succeeds P) where
  toElementwise := by
    refine T.primitive.elementwise env (fun id => T.of_change fun s => ?_)
      (feedAll_related T.value T.bind (T.read _))
    unfold nextChunk
    split <;> exact .of_eq rfl rfl rfl rfl rfl rfl
  changeScopes f := T.of_change fun s => by
    unfold changeScopes
    split <;> exact .of_eq rfl rfl rfl rfl rfl rfl

end Traced

/-! ## What was run in between -/

/-- Whether a step was begun and came to a value between two states. -/
def Occurs (P : BuildState → BuildState → Prop) {α : Type} (m : Build α) (s s' : BuildState) :
    Prop :=
  ∃ u a u', P s u ∧ m u = (.ok a, u') ∧ P u' s'

namespace Traced

variable {P : BuildState → BuildState → Prop} (T : Traced P) {s s' : BuildState}
include T

theorem occurs_self {α : Type} {m : Build α} {a : α} (h : m s = (.ok a, s')) : Occurs P m s s' :=
  ⟨s, a, s', T.quiet (.refl s), h, T.quiet (.refl s')⟩

theorem occurs_before {α : Type} {m : Build α} {t : BuildState} (hs : P s t) (h : Occurs P m t s') :
    Occurs P m s s' := by
  obtain ⟨u, a, u', hu, hrun, hu'⟩ := h
  exact ⟨u, a, u', T.trans hs hu, hrun, hu'⟩

theorem occurs_behind {α : Type} {m : Build α} {t : BuildState} (h : Occurs P m s t) (hs : P t s') :
    Occurs P m s s' := by
  obtain ⟨u, a, u', hu, hrun, hu'⟩ := h
  exact ⟨u, a, u', hu, hrun, T.trans hu' hs⟩

/-- What is run while a step runs was run between the states in which the step was. -/
theorem occurs_inside {α β : Type} {m : Build α} {m' : Build β} (h : Occurs P m s s')
    (hinside : ∀ u a u', m u = (.ok a, u') → Occurs P m' u u') : Occurs P m' s s' := by
  obtain ⟨u, a, u', hu, hrun, hu'⟩ := h
  exact T.occurs_before hu (T.occurs_behind (hinside u a u' hrun) hu')

variable {env : BuildEnv} {E : Engine} (L : Stepwise.Acting env env (Succeeds P))
  (hE : Engine.Related (Succeeds P) E E) {scope : ScopeId}
include L hE

/-- All statements of a row are run. -/
theorem occurs_statements {ss : List Statement} {vs : List Value}
    (h : statements E env scope ss s = (.ok vs, s')) {st : Statement} (hst : st ∈ ss) :
    Occurs P (statement E env scope st) s s' := by
  induction ss generalizing s vs with
  | nil => cases hst
  | cons first ss ih =>
    rw [statements] at h
    obtain ⟨v, s₁, hfirst, h⟩ := exists_of_bind_ok h
    obtain ⟨ws, s₂, hrest, hend⟩ := exists_of_bind_ok h
    cases hend
    rcases List.mem_cons.mp hst with rfl | hst
    · exact T.occurs_behind (T.occurs_self hfirst)
        (((L.operand_and_statement hE scope).2.1 ss).2 _ _ _ hrest)
    · exact T.occurs_before ((L.statement hE scope first).2 _ _ _ hfirst) (ih hrest hst)

/-- All operands of a row are evaluated. -/
theorem occurs_operands {os : List Operand} {vs : List Value}
    (h : operands E env scope os s = (.ok vs, s')) {o : Operand} (ho : o ∈ os) :
    Occurs P (operand E env scope o) s s' := by
  obtain ⟨hoperand, -, -, -, hoperands⟩ := L.operand_and_statement hE scope
  induction os generalizing s vs with
  | nil => cases ho
  | cons first os ih =>
    rw [operands] at h
    obtain ⟨v, s₁, hfirst, h⟩ := exists_of_bind_ok h
    obtain ⟨ws, s₂, hrest, hend⟩ := exists_of_bind_ok h
    cases hend
    rcases List.mem_cons.mp ho with rfl | ho
    · exact T.occurs_behind (T.occurs_self hfirst) ((hoperands os).2 _ _ _ hrest)
    · exact T.occurs_before ((hoperand first).2 _ _ _ hfirst) (ih hrest ho)

/-- All rows of operands are evaluated. -/
theorem occurs_rows {rs : List (List Operand)} {vs : List Value}
    (h : rows E env scope rs s = (.ok vs, s')) {os : List Operand} (hos : os ∈ rs) :
    Occurs P (operands E env scope os) s s' := by
  obtain ⟨-, -, -, hrows, hoperands⟩ := L.operand_and_statement hE scope
  induction rs generalizing s vs with
  | nil => cases hos
  | cons first rs ih =>
    rw [rows] at h
    obtain ⟨v, s₁, hfirst, h⟩ := exists_of_bind_ok h
    obtain ⟨ws, s₂, hrest, hend⟩ := exists_of_bind_ok h
    cases hend
    rcases List.mem_cons.mp hos with rfl | hos
    · exact T.occurs_behind (T.occurs_self hfirst) ((hrows rs).2 _ _ _ hrest)
    · exact T.occurs_before ((hoperands first).2 _ _ _ hfirst) (ih hrest hos)

omit hE in
/-- The statements between parentheses are run while their operand is evaluated. -/
theorem occurs_enclosed {body : List Statement} {o : Operand} (ho : o.Encloses body) {v : Value}
    (h : operand E env scope o s = (.ok v, s')) : Occurs P (statements E env scope body) s s' := by
  induction ho generalizing v s' with
  | paren =>
    rw [operand] at h
    obtain ⟨vs, s₁, hbody, hend⟩ := exists_of_bind_ok h
    cases hend
    exact T.occurs_self hbody
  | @cast type o _ ih =>
    rw [operand] at h
    obtain ⟨w, s₁, hinner, hrest⟩ := exists_of_bind_ok h
    have hcast := T.bind (T.read fun t => t.registry) fun registry =>
      L.lift (castValue registry type w)
    exact T.occurs_behind (ih hinner) (hcast.2 _ _ _ hrest)

/-- The operands of a statement are evaluated while it runs. -/
theorem occurs_content {command : Option String} {content : List (List Operand)} {vs : List Value}
    (h : statement E env scope (.mk command content) s = (.ok vs, s')) :
    Occurs P (rows E env scope content) s s' := by
  rw [statement] at h
  obtain ⟨args, s₁, hargs, hrest⟩ := exists_of_bind_ok h
  refine T.occurs_behind (T.occurs_self hargs) ?_
  cases command with
  | some name =>
    exact (L.bind (L.invoke hE ⟨name, args, scope⟩) fun v => L.value v.spread).2 _ _ _ hrest
  | none => exact (L.value (Value.spreadAll args)).2 _ _ _ hrest

/-- **A statement between parentheses is run when the statements around it are.** -/
theorem occurs_within {st : Statement} {ss : List Statement} (hst : st.Within ss)
    (h : ∀ m ∈ ss, Occurs P (statement E env scope m) s s') :
    Occurs P (statement E env scope st) s s' := by
  induction hst generalizing s s' with
  | here hmem => exact h st hmem
  | inner hmem hrow ho hencloses _ ih =>
    refine T.occurs_inside (h _ hmem) fun u vs u' hstatement => ?_
    refine T.occurs_inside (T.occurs_content L hE hstatement) fun u vs u' hrows => ?_
    refine T.occurs_inside (T.occurs_rows L hE hrows hrow) fun u vs u' hoperands => ?_
    refine T.occurs_inside (T.occurs_operands L hE hoperands ho) fun u v u' hoperand => ?_
    refine T.occurs_inside (T.occurs_enclosed L hencloses hoperand) fun u vs u' hbody => ?_
    exact ih fun m hm => T.occurs_statements L hE hbody hm

/-! ## Running the tasks of a block -/

variable {σ : Type} {consume : σ → List Value → Build σ}
  (hconsume : ∀ acc vs, Succeeds P (consume acc vs) (consume acc vs))
include hconsume

/-- **All tasks of a block are done.** -/
theorem occurs_drain {kind : String} {tasks : List Task} {yielded : Nat} {acc acc' : σ}
    (h : Build.drain E env scope kind consume tasks yielded acc s = (.ok acc', s')) {t : Task}
    (ht : t ∈ tasks) : Occurs P (task E env scope t) s s' := by
  induction tasks generalizing yielded acc s with
  | nil => cases ht
  | cons first tasks ih =>
    obtain ⟨vs, s₁, hfirst, h⟩ := exists_of_bind_ok h
    obtain ⟨acc₁, s₂, htaken, hrest⟩ := exists_of_bind_ok h
    have hconsumed := (hconsume acc vs).2 _ _ _ htaken
    rcases List.mem_cons.mp ht with rfl | ht
    · refine T.occurs_behind (T.occurs_self hfirst) (T.trans hconsumed ?_)
      exact (L.drain hE (T.noteBlock env) hconsume scope kind tasks _ acc₁).2 _ _ _ hrest
    · exact T.occurs_before (T.trans ((L.task hE scope first).2 _ _ _ hfirst) hconsumed)
        (ih hrest ht)

end Traced

end Build

end TagScript
