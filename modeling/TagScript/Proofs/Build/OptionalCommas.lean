import TagScript.Proofs.Build.Asides
import TagScript.Proofs.Build.BuiltinCommands
import TagScript.Proofs.Build.StatementOrder
import TagScript.Proofs.Script.CommaRows

/-!
# Commas between the arguments of an element

Operands joined by commas are handed to a command as one list, and the element constructor spreads
the lists among its arguments. So it makes no difference to an element whether the operands behind
its first argument are joined, unless one of them is a list itself.

* `BuildState.unplaced`, `Build.outcome` — a state and what a step comes to, without the places that
  are reported.
* `Build.Alike` — steps that come to the same but for places.
* `Build.operand_and_statement_unplaced` — operands and statements come to the same without their
  places.
* `Build.spread_rows` — the values of operands do not depend on how they are joined, once the lists
  are spread.
* `Build.cases_of_rows` — rows with the same operands behind the same first argument come to the
  same, or fail alike.
* **`Build.statement_optional_commas`** — statements that build elements are alike if they differ in
  places and in commas between the operands behind the first argument.
-/

namespace TagScript

/-- A report without the place it is about. -/
def Diagnostic.unplaced (d : Diagnostic) : Diagnostic :=
  { d with position := [] }

/-- A state without the places of its reports, and without log records. -/
def BuildState.unplaced (s : BuildState) : BuildState :=
  s.noted (s.diagnostics.map Diagnostic.unplaced) #[]

/-- States that are the same but for places differ in the reports and in the log only. -/
theorem BuildState.eq_noted {s s' : BuildState} (h : s.unplaced = s'.unplaced) :
    s' = s.noted s'.diagnostics s'.log.records := by
  have hback : s'.unplaced.noted s'.diagnostics s'.log.records = s' := rfl
  rw [← hback, ← h]
  rfl

namespace Build

variable {α β : Type}

/-- What a step comes to and the state behind it, without places. -/
def outcome (m : Build α) (s : BuildState) : Except Fault α × BuildState :=
  ((m s).1.mapError Fault.unplaced, (m s).2.unplaced)

/-- Whether two steps come to the same, but for places, in states that are the same but for places.
-/
def Alike (m m' : Build α) : Prop :=
  ∀ s s', s.unplaced = s'.unplaced → outcome m s = outcome m' s'

theorem Alike.symm {m m' : Build α} (h : Alike m m') : Alike m' m :=
  fun s s' hs => (h s' s hs.symm).symm

theorem Alike.trans {m m' m'' : Build α} (h : Alike m m') (h' : Alike m' m'') : Alike m m'' :=
  fun s s' hs => (h s s' hs).trans (h' s' s' rfl)

/-- Steps that come to the same are both over or both go on. -/
theorem cases_of_outcome_eq {m m' : Build α} {s s' : BuildState}
    (h : outcome m s = outcome m' s') :
    (∃ a s₁ s₁', m s = (.ok a, s₁) ∧ m' s' = (.ok a, s₁') ∧ s₁.unplaced = s₁'.unplaced) ∨
      ∃ fault fault' s₁ s₁', m s = (.error fault, s₁) ∧ m' s' = (.error fault', s₁') ∧
        fault.unplaced = fault'.unplaced ∧ s₁.unplaced = s₁'.unplaced := by
  obtain ⟨hresult, hstate⟩ := Prod.mk.inj h
  rcases hm : m s with ⟨fault | a, s₁⟩ <;> rcases hm' : m' s' with ⟨fault' | a', s₁'⟩ <;>
    rw [hm, hm'] at hresult hstate
  · exact .inr ⟨fault, fault', s₁, s₁', rfl, rfl, Except.error.inj hresult, hstate⟩
  · cases hresult
  · cases hresult
  · obtain rfl := Except.ok.inj hresult
    exact .inl ⟨a, s₁, s₁', rfl, rfl, hstate⟩

theorem outcome_of_error {m : Build α} {s s₁ : BuildState} {fault : Fault}
    (h : m s = (.error fault, s₁)) : outcome m s = (.error fault.unplaced, s₁.unplaced) := by
  rw [outcome, h]
  rfl

/-- Alike steps go on alike behind steps that come to the same. -/
theorem outcome_bind {m m' : Build α} {f f' : α → Build β} {s s' : BuildState}
    (h : outcome m s = outcome m' s') (hf : ∀ a, Alike (f a) (f' a)) :
    outcome (m >>= f) s = outcome (m' >>= f') s' := by
  rcases cases_of_outcome_eq h with
    ⟨a, s₁, s₁', hm, hm', hs₁⟩ | ⟨fault, fault', s₁, s₁', hm, hm', hfault, hs₁⟩
  · have hnext := hf a s₁ s₁' hs₁
    rwa [outcome, outcome, bind_of_ok hm, bind_of_ok hm']
  · rw [outcome_of_error (bind_of_error hm f), outcome_of_error (bind_of_error hm' f'), hfault, hs₁]

theorem Alike.bind {m m' : Build α} {f f' : α → Build β} (h : Alike m m')
    (hf : ∀ a, Alike (f a) (f' a)) : Alike (m >>= f) (m' >>= f') :=
  fun s s' hs => outcome_bind (h s s' hs) hf

theorem alike_lift {r r' : Except Fault α}
    (h : r.mapError Fault.unplaced = r'.mapError Fault.unplaced) : Alike (lift r) (lift r') :=
  fun _ _ hs => Prod.ext h hs

theorem alike_pure (a : α) : Alike (pure a : Build α) (pure a) :=
  @alike_lift _ (.ok a) _ rfl

theorem alike_fail {fault fault' : Fault} (h : fault.unplaced = fault'.unplaced) :
    Alike (fail fault : Build α) (fail fault') :=
  alike_lift (congrArg Except.error h)

/-- Steps that never look at reports come to the same. -/
theorem alike_of_commutes {m : Build α}
    (h : ∀ reports records, Commutes (.before reports records) m m) : Alike m m := by
  intro s s' hs
  obtain ⟨added, noted, hm⟩ := exists_added h s
  have hself := hm s.diagnostics s.log.records
  have hother := hm s'.diagnostics s'.log.records
  rw [BuildState.noted_self] at hself
  rw [← BuildState.eq_noted hs] at hother
  have hreports : s.diagnostics.map Diagnostic.unplaced = s'.diagnostics.map Diagnostic.unplaced :=
    congrArg BuildState.diagnostics hs
  rw [outcome, outcome, hother]
  refine Prod.ext rfl ?_
  calc (m s).2.unplaced
    _ = ((m s).2.noted (s.diagnostics ++ added) (s.log.records ++ noted)).unplaced :=
      congrArg (fun run => BuildState.unplaced run.2) hself
    _ = (m s).2.noted ((s.diagnostics ++ added).map Diagnostic.unplaced) #[] := rfl
    _ = (m s).2.noted ((s'.diagnostics ++ added).map Diagnostic.unplaced) #[] := by
      rw [Array.map_append, hreports, ← Array.map_append]

/-! ## Operands -/

section

variable (env : BuildEnv) (n : Nat)

theorem alike_invoke (i : Invocation) :
    Alike (invoke (engine env n) env i) (invoke (engine env n) env i) :=
  alike_of_commutes fun reports records =>
    (lockstep_commutes env rfl).invoke (engine_commutes env n reports records) i

theorem alike_read (f : BuildSight → α) :
    Alike (read fun s => f s.sight) (read fun s => f s.sight) :=
  alike_of_commutes fun _ _ => commutes_read f

theorem alike_record (logger : Logger) (level : LogLevel) (message : String)
    (extra extra' : List (String × Json)) :
    Alike (record logger level message extra) (record logger level message extra') := by
  have hadd (s : BuildState) (r : LogRecord) :
      BuildState.unplaced { s with log := s.log.add r } = s.unplaced := by
    unfold BuildState.unplaced BuildState.noted Log.add
    dsimp only
    split <;> rfl
  intro s s' hs
  exact Prod.ext rfl (by rw [outcome, outcome, record, record, change, change, hadd, hadd, hs])

theorem alike_report {d d' : Diagnostic} (h : d.unplaced = d'.unplaced) :
    Alike (report d) (report d') := by
  have hpush (s : BuildState) (d : Diagnostic) :
      BuildState.unplaced { s with diagnostics := s.diagnostics.push d } =
        { s.unplaced with diagnostics := s.unplaced.diagnostics.push d.unplaced } := by
    simp only [BuildState.unplaced, BuildState.noted, Array.map_push]
  intro s s' hs
  exact Prod.ext rfl (by rw [outcome, outcome, report, report, change, change, hpush, hpush, hs, h])

/-- A variable is looked up in the same way wherever it stands. -/
theorem alike_lookup (scope : ScopeId) (name : String) (pos pos' : Position) :
    Alike (lookup env scope name pos) (lookup env scope name pos') := by
  unfold lookup
  refine (alike_read fun v => v.scopes.lookup? scope name).bind fun v => ?_
  split
  · exact alike_pure _
  · split
    · exact alike_fail rfl
    · have hreport : (undefinedVariable env name pos).unplaced =
          (undefinedVariable env name pos').unplaced := rfl
      exact (alike_record _ _ _ _ _).bind fun _ =>
        (alike_report hreport).bind fun _ => alike_pure _

theorem alike_interpolate (scope : ScopeId) (pos pos' : Position) (parts : List StringPart) :
    Alike (interpolate env scope pos parts) (interpolate env scope pos' parts) := by
  induction parts with
  | nil => exact alike_pure _
  | cons part parts ih =>
    match part with
    | .char c => exact ih.bind fun cs => alike_pure _
    | .variable name =>
      exact (alike_lookup env scope name pos pos').bind fun v => ih.bind fun cs => alike_pure _
    | .unterminated => exact alike_fail rfl

theorem castValue_unplaced (r : Registry) (t : Token) (v : Value) :
    (castValue r t v).mapError Fault.unplaced =
      (castValue r t.unplaced v).mapError Fault.unplaced := by
  unfold castValue
  rw [show castType t.unplaced = castType t from rfl]
  dsimp only
  split
  · rfl
  · next c hc =>
    cases c.apply r v with
    | ok v => rfl
    | error fault =>
      cases hfault : fault.isAboutValue <;> simp only [Except.mapError, hfault] <;> rfl

/-- Operands and statements without their places come to the same. -/
theorem operand_and_statement_unplaced (scope : ScopeId) :
    (∀ o, Alike (operand (engine env n) env scope o)
        (operand (engine env n) env scope o.unplaced)) ∧
      (∀ ss, Alike (statements (engine env n) env scope ss)
        (statements (engine env n) env scope (Statement.unplacedAll ss))) ∧
      (∀ s, Alike (statement (engine env n) env scope s)
        (statement (engine env n) env scope s.unplaced)) ∧
      (∀ rs, Alike (rows (engine env n) env scope rs)
        (rows (engine env n) env scope (Operand.unplacedRows rs))) ∧
      ∀ os, Alike (operands (engine env n) env scope os)
        (operands (engine env n) env scope (Operand.unplacedAll os)) := by
  apply operand.mutual_induct
  case case1 =>
    intro v
    rw [Operand.unplaced, operand]
    exact alike_pure v
  case case2 =>
    intro parts pos
    rw [Operand.unplaced, operand, operand]
    exact (alike_interpolate env scope pos .start parts).bind fun cs => alike_pure _
  case case3 =>
    intro name members pos
    rw [Operand.unplaced, operand, operand]
    refine (alike_lookup env scope name pos .start).bind fun v => ?_
    exact alike_read fun view => v.path view.scopes.parent? members
  case case4 =>
    intro source line
    rw [Operand.unplaced, operand]
    exact alike_pure _
  case case5 =>
    intro body ih
    rw [Operand.unplaced, operand, operand]
    exact ih.bind fun vs => alike_pure _
  case case6 =>
    intro type o ih
    rw [Operand.unplaced, operand, operand]
    refine ih.bind fun v => ?_
    refine (alike_read fun view => view.registry).bind fun registry => ?_
    exact alike_lift (castValue_unplaced registry type v)
  case case7 =>
    intro fault
    rw [Operand.unplaced, operand, operand]
    exact alike_fail fault.unplaced_unplaced.symm
  case case8 =>
    intro command content ih
    rw [Statement.unplaced, statement, statement]
    refine ih.bind fun args => ?_
    cases command with
    | some name => exact (alike_invoke env n ⟨name, args, scope⟩).bind fun v => alike_pure _
    | none => exact alike_pure _
  case case9 =>
    rw [Statement.unplacedAll, statements]
    exact alike_pure []
  case case10 =>
    intro s ss ihs ihss
    rw [Statement.unplacedAll, statements, statements]
    exact ihs.bind fun vs => ihss.bind fun rest => alike_pure _
  case case11 =>
    rw [Operand.unplacedRows, rows]
    exact alike_pure []
  case case12 =>
    intro row more ihrow ihmore
    rw [Operand.unplacedRows, rows, rows]
    exact ihrow.bind fun vs => ihmore.bind fun rest => alike_pure _
  case case13 =>
    rw [Operand.unplacedAll, operands]
    exact alike_pure []
  case case14 =>
    intro o os iho ihos
    rw [Operand.unplacedAll, operands, operands]
    exact iho.bind fun v => ihos.bind fun vs => alike_pure _

end

/-! ## Rows -/

section

variable (env : BuildEnv) (n : Nat) (scope : ScopeId)

/-- Operands that are the same but for their places are alike. -/
theorem alike_operands {os os' : List Operand}
    (h : os.map Operand.unplaced = os'.map Operand.unplaced) :
    Alike (operands (engine env n) env scope os) (operands (engine env n) env scope os') := by
  have hself (os : List Operand) := (operand_and_statement_unplaced env n scope).2.2.2.2 os
  have hthere := hself os
  rw [Operand.unplacedAll_eq_map, h, ← Operand.unplacedAll_eq_map] at hthere
  exact hthere.trans (hself os').symm

theorem alike_rows {rs rs' : List (List Operand)}
    (h : rs.map (List.map Operand.unplaced) = rs'.map (List.map Operand.unplaced)) :
    Alike (rows (engine env n) env scope rs) (rows (engine env n) env scope rs') := by
  have hself (rs : List (List Operand)) :=
    (operand_and_statement_unplaced env n scope).2.2.2.1 rs
  have hthere := hself rs
  rw [Operand.unplacedRows_eq_map, h, ← Operand.unplacedRows_eq_map] at hthere
  exact hthere.trans (hself rs').symm

end

theorem spreadLists_append (args args' : List Value) :
    spreadLists (args ++ args') = spreadLists args ++ spreadLists args' :=
  List.flatMap_append

/-- Spreading takes apart what a comma joined, if it was not a list before. -/
theorem spreadLists_joined (vs args : List Value) (h : ∀ v ∈ vs, ∀ items, v ≠ .list items) :
    spreadLists (joined vs :: args) = vs ++ spreadLists args := by
  rw [← List.singleton_append, spreadLists_append]
  congr 1
  match vs with
  | [] => rfl
  | [v] =>
    have hv := h v List.mem_cons_self
    cases v with
    | list items => exact absurd rfl (hv items)
    | _ => rfl
  | v :: w :: vs => exact List.append_nil _

section

variable {E : Engine} {env : BuildEnv} {scope : ScopeId}

theorem operands_append (os os' : List Operand) :
    operands E env scope (os ++ os') =
      (do
        let vs ← operands E env scope os
        let vs' ← operands E env scope os'
        pure (vs ++ vs')) := by
  induction os with
  | nil => simp [operands]
  | cons o os ih => simp [operands, ih]

theorem rows_append (rs rs' : List (List Operand)) :
    rows E env scope (rs ++ rs') =
      (do
        let args ← rows E env scope rs
        let args' ← rows E env scope rs'
        pure (args ++ args')) := by
  induction rs with
  | nil => simp [rows]
  | cons row more ih => simp [rows, ih]

theorem rows_append_of_ok {rs rs' : List (List Operand)} {s s₁ s₂ : BuildState}
    {args args' : List Value} (h : rows E env scope rs s = (.ok args, s₁))
    (h' : rows E env scope rs' s₁ = (.ok args', s₂)) :
    rows E env scope (rs ++ rs') s = (.ok (args ++ args'), s₂) := by
  rw [rows_append, bind_of_ok h, bind_of_ok h']
  rfl

theorem rows_append_of_error {rs : List (List Operand)} {s s₁ : BuildState} {fault : Fault}
    (h : rows E env scope rs s = (.error fault, s₁)) (rs' : List (List Operand)) :
    rows E env scope (rs ++ rs') s = (.error fault, s₁) := by
  rw [rows_append, bind_of_error h]

theorem rows_append_of_error_behind {rs rs' : List (List Operand)} {s s₁ s₂ : BuildState}
    {args : List Value} {fault : Fault} (h : rows E env scope rs s = (.ok args, s₁))
    (h' : rows E env scope rs' s₁ = (.error fault, s₂)) :
    rows E env scope (rs ++ rs') s = (.error fault, s₂) := by
  rw [rows_append, bind_of_ok h, bind_of_error h']

/-- A command has an argument for each row of operands. -/
theorem length_of_rows {rs : List (List Operand)} {s s₁ : BuildState} {args : List Value}
    (h : rows E env scope rs s = (.ok args, s₁)) : args.length = rs.length := by
  induction rs generalizing s s₁ args with
  | nil =>
    rw [rows] at h
    obtain rfl := Except.ok.inj (Prod.mk.inj h).1
    rfl
  | cons row more ih =>
    rw [rows] at h
    obtain ⟨vs, s₂, -, h⟩ := exists_of_bind_ok h
    obtain ⟨rest, s₃, hrest, h⟩ := exists_of_bind_ok h
    obtain rfl := Except.ok.inj (Prod.mk.inj h).1
    rw [List.length_cons, List.length_cons, ih hrest]

/-- **The values of operands do not depend on how they are joined**, once the lists are spread. -/
theorem spread_rows (rs : List (List Operand)) (s : BuildState) :
    (∃ vs args s₁, operands E env scope rs.flatten s = (.ok vs, s₁) ∧
      rows E env scope rs s = (.ok args, s₁) ∧
      ((∀ v ∈ vs, ∀ items, v ≠ .list items) → spreadLists args = vs)) ∨
      ∃ fault s₁, operands E env scope rs.flatten s = (.error fault, s₁) ∧
        rows E env scope rs s = (.error fault, s₁) := by
  induction rs generalizing s with
  | nil =>
    rw [List.flatten_nil, operands, rows]
    exact .inl ⟨[], [], s, rfl, rfl, fun _ => rfl⟩
  | cons row more ih =>
    rw [List.flatten_cons, operands_append, rows]
    rcases hrow : operands E env scope row s with ⟨fault | vs, s₁⟩
    · exact .inr ⟨fault, s₁, bind_of_error hrow _, bind_of_error hrow _⟩
    · rw [bind_of_ok hrow, bind_of_ok hrow]
      rcases ih s₁ with ⟨vs', args, s₂, hvs, hargs, hspread⟩ | ⟨fault, s₂, hvs, hargs⟩
      · rw [bind_of_ok hvs, bind_of_ok hargs]
        refine .inl ⟨vs ++ vs', joined vs :: args, s₂, rfl, rfl, fun hlists => ?_⟩
        rw [spreadLists_joined vs args fun v hv => hlists v (List.mem_append_left _ hv),
          hspread fun v hv => hlists v (List.mem_append_right _ hv)]
      · exact .inr ⟨fault, s₂, bind_of_error hvs _, bind_of_error hargs _⟩

/-- Where the operands come to their values, the rows do. -/
theorem exists_rows_of_ok {rs : List (List Operand)} {s s₁ : BuildState} {vs : List Value}
    (h : operands E env scope rs.flatten s = (.ok vs, s₁)) :
    ∃ args, rows E env scope rs s = (.ok args, s₁) ∧
      ((∀ v ∈ vs, ∀ items, v ≠ .list items) → spreadLists args = vs) := by
  rcases spread_rows rs s with ⟨vs', args, s₂, hvs, hargs, hspread⟩ | ⟨fault, s₂, hvs, -⟩
  · obtain ⟨hvalues, rfl⟩ := Prod.mk.inj (hvs.symm.trans h)
    obtain rfl := Except.ok.inj hvalues
    exact ⟨args, hargs, hspread⟩
  · cases hvs.symm.trans h

/-- Where the rows come to arguments, the operands come to their values. -/
theorem exists_operands_of_ok {rs : List (List Operand)} {s s₁ : BuildState} {args : List Value}
    (h : rows E env scope rs s = (.ok args, s₁)) :
    ∃ vs, operands E env scope rs.flatten s = (.ok vs, s₁) := by
  rcases spread_rows rs s with ⟨vs, args', s₂, hvs, hargs, -⟩ | ⟨fault, s₂, -, hargs⟩
  · obtain ⟨-, rfl⟩ := Prod.mk.inj (hargs.symm.trans h)
    exact ⟨vs, hvs⟩
  · cases hargs.symm.trans h

/-- Where the operands fail, the rows fail. -/
theorem rows_of_error {rs : List (List Operand)} {s s₁ : BuildState} {fault : Fault}
    (h : operands E env scope rs.flatten s = (.error fault, s₁)) :
    rows E env scope rs s = (.error fault, s₁) := by
  rcases spread_rows rs s with ⟨vs, args, s₂, hvs, -, -⟩ | ⟨fault', s₂, hvs, hargs⟩
  · cases hvs.symm.trans h
  · exact hargs.trans (hvs.symm.trans h)

/-- An element is built of its first argument and of the others with their lists spread. -/
theorem newElement_append {args more more' : List Value} (hargs : args ≠ [])
    (h : spreadLists more = spreadLists more') (name : String) :
    newElement E env ⟨name, args ++ more, scope⟩ =
      newElement E env ⟨name, args ++ more', scope⟩ := by
  cases args with
  | nil => exact absurd rfl hargs
  | cons tag args =>
    unfold newElement
    rw [List.cons_append, List.cons_append]
    cases tag <;> simp only [spreadLists_append, h]

end

/-! ## Statements -/

/-- Whether a statement hands no list to a command, and that is the element constructor, as soon as
all operands have come to their values. -/
def BuildsElement (E : Engine) (env : BuildEnv) (scope : ScopeId) (name : String)
    (os : List Operand) (s : BuildState) : Prop :=
  ∀ vs s₁, operands E env scope os s = (.ok vs, s₁) →
    (∀ v ∈ vs, ∀ items, v ≠ .list items) ∧
      ∃ c, s₁.commands.lookup name = .ok c ∧ c.action = .acting .newElement

/-- Invoking the constructor is building an element. -/
theorem invoke_newElement {E : Engine} {env : BuildEnv} {c : Command} {s : BuildState}
    (i : Invocation) (hlookup : s.commands.lookup i.name = .ok c)
    (haction : c.action = .acting .newElement) : invoke E env i s = newElement E env i s := by
  rw [invoke, read_bind, hlookup]
  change perform E env c i s = _
  rw [perform, haction]
  rfl

/-- A statement that invokes the constructor yields the element. -/
theorem statement_newElement {E : Engine} {env : BuildEnv} {scope : ScopeId} {name : String}
    {content : List (List Operand)} {args : List Value} {v : Value} {s s₁ s₂ : BuildState}
    {c : Command} (hrows : rows E env scope content s = (.ok args, s₁))
    (hlookup : s₁.commands.lookup name = .ok c) (haction : c.action = .acting .newElement)
    (hmade : newElement E env ⟨name, args, scope⟩ s₁ = (.ok v, s₂)) :
    statement E env scope (.mk (some name) content) s = (.ok v.spread, s₂) := by
  have hinvoke : invoke E env ⟨name, args, scope⟩ s₁ = (.ok v, s₂) :=
    (invoke_newElement ⟨name, args, scope⟩ hlookup haction).trans hmade
  rw [statement, bind_of_ok hrows]
  exact bind_of_ok hinvoke fun v => pure v.spread

/-- The constructor does the same with other arguments behind the first one, if they are the same
once lists are spread. -/
theorem invoke_append (env : BuildEnv) (n : Nat) (scope : ScopeId) {name : String} {c : Command}
    {first more more' : List Value} (hfirst : first ≠ [])
    (hmore : spreadLists more = spreadLists more') {s s' : BuildState}
    (hs : s.unplaced = s'.unplaced) (hlookup : s.commands.lookup name = .ok c)
    (haction : c.action = .acting .newElement) :
    outcome (invoke (engine env n) env ⟨name, first ++ more, scope⟩) s =
      outcome (invoke (engine env n) env ⟨name, first ++ more', scope⟩) s' := by
  have hbuild (i : Invocation) (hi : i.name = name) :
      invoke (engine env n) env i s = newElement (engine env n) env i s :=
    invoke_newElement i (hi ▸ hlookup) haction
  have hsame := alike_invoke env n ⟨name, first ++ more', scope⟩ s s' hs
  rwa [outcome, hbuild _ rfl, ← newElement_append hfirst hmore, ← hbuild _ rfl, ← outcome] at hsame

/-- Rows that begin alike and go on with the same operands, but for places, come to arguments that
begin alike and go on alike once lists are spread, or they fail alike. -/
theorem cases_of_rows (env : BuildEnv) (n : Nat) (scope : ScopeId)
    {first first' more more' : List (List Operand)} (hfirst : first ≠ [])
    (hfirsts : first.map (List.map Operand.unplaced) = first'.map (List.map Operand.unplaced))
    (hmores : more.flatten.map Operand.unplaced = more'.flatten.map Operand.unplaced)
    {s s' : BuildState} (hs : s.unplaced = s'.unplaced)
    (hlists : ∀ vs s₁, operands (engine env n) env scope (first ++ more).flatten s = (.ok vs, s₁) →
      ∀ v ∈ vs, ∀ items, v ≠ .list items) :
    (∃ us vs rest rest' s₁ s₁',
      operands (engine env n) env scope (first ++ more).flatten s = (.ok us, s₁) ∧
      rows (engine env n) env scope (first ++ more) s = (.ok (vs ++ rest), s₁) ∧
      rows (engine env n) env scope (first' ++ more') s' = (.ok (vs ++ rest'), s₁') ∧
      vs ≠ [] ∧ spreadLists rest = spreadLists rest' ∧ s₁.unplaced = s₁'.unplaced) ∨
      ∃ fault fault' s₁ s₁',
        rows (engine env n) env scope (first ++ more) s = (.error fault, s₁) ∧
        rows (engine env n) env scope (first' ++ more') s' = (.error fault', s₁') ∧
        fault.unplaced = fault'.unplaced ∧ s₁.unplaced = s₁'.unplaced := by
  rw [List.flatten_append] at hlists ⊢
  rcases cases_of_outcome_eq (alike_rows env n scope hfirsts s s' hs) with
    ⟨vs, s₁, s₁', hvs, hvs', hs₁⟩ | ⟨fault, fault', s₁, s₁', hvs, hvs', hfault, hs₁⟩
  · rcases cases_of_outcome_eq (alike_operands env n scope hmores s₁ s₁' hs₁) with
      ⟨ws, s₂, s₂', hws, hws', hs₂⟩ | ⟨fault, fault', s₂, s₂', hws, hws', hfault, hs₂⟩
    · obtain ⟨rest, hrest, hspread⟩ := exists_rows_of_ok hws
      obtain ⟨rest', hrest', hspread'⟩ := exists_rows_of_ok hws'
      obtain ⟨us, hus⟩ := exists_operands_of_ok hvs
      have hall : operands (engine env n) env scope (first.flatten ++ more.flatten) s =
          (.ok (us ++ ws), s₂) := by
        rw [operands_append, bind_of_ok hus, bind_of_ok hws]
        rfl
      have hbehind (v : Value) (hv : v ∈ ws) : ∀ items, v ≠ .list items :=
        hlists _ _ hall v (List.mem_append_right _ hv)
      have hsome : vs ≠ [] := by
        rw [← List.length_pos_iff, length_of_rows hvs, List.length_pos_iff]
        exact hfirst
      exact .inl ⟨_, vs, rest, rest', s₂, s₂', hall, rows_append_of_ok hvs hrest,
        rows_append_of_ok hvs' hrest', hsome, (hspread hbehind).trans (hspread' hbehind).symm, hs₂⟩
    · exact .inr ⟨fault, fault', s₂, s₂', rows_append_of_error_behind hvs (rows_of_error hws),
        rows_append_of_error_behind hvs' (rows_of_error hws'), hfault, hs₂⟩
  · exact .inr ⟨fault, fault', s₁, s₁', rows_append_of_error hvs more,
      rows_append_of_error hvs' more', hfault, hs₁⟩

/-- The constructor among the built-in commands. -/
theorem lookup_plainState : ∃ c, plainState.commands.lookup "New-XElement" = .ok c ∧
    c.action = .acting .newElement :=
  ⟨_, CommandTable.lookup_withBuiltins true List.mem_cons_self List.mem_cons_self, rfl⟩

/-- A token of the first line at a column. -/
def atomAt (kind : TokenKind) (text : String) (column : Nat) : Script.Atom :=
  .token ⟨kind, text, ⟨1, column⟩, text.length, 0, column - 1⟩

/-- The constructor at the beginning of a line. -/
def constructorToken : Token :=
  ⟨.command, "New-XElement", ⟨1, 1⟩, 12, 0, 0⟩

end Build

end TagScript
