import TagScript.Build.Run
import TagScript.Proofs.Value.Leaves

/-!
# The values of a block, at once or one task at a time

What a statement yields is flat, and so is what a block yields. The values of a block can be
collected, or taken one task at a time; nothing happens between two tasks, so both come to the same
values and leave the same state behind, also when a task fails.

* `Build.YieldsLeaves` — the steps whose values are leaves.
* `statement_yieldsLeaves`, `run_yieldsLeaves` — statements and blocks are such steps.
* `Pull.Drains` — taking the values of a block until it has no more.
* `Drains.unique` — there is one way to come to the end of a block.
* `exists_drains` — collecting the values of a running block, and draining it.
* **`exists_drains_run`** — a run is what draining the block comes to.
* **`emits_leaves`** — values are emitted flat and in order, at once or one task at a time.
-/

namespace TagScript.Build

/-! ## Flat values -/

/-- Whether the values that a step comes to are leaves. -/
def YieldsLeaves (body : Build (List Value)) : Prop :=
  ∀ s vs s', body s = (.ok vs, s') → ∀ v ∈ vs, v.isLeaf = true

theorem YieldsLeaves.of_pure {vs : List Value} (h : ∀ v ∈ vs, v.isLeaf = true) :
    YieldsLeaves (pure vs) := by
  intro s vs' s' heq
  cases heq
  exact h

theorem YieldsLeaves.of_fail (fault : Fault) : YieldsLeaves (fail fault) := by
  intro s vs s' heq
  cases heq

theorem YieldsLeaves.of_bind {α : Type} {body : Build α} {f : α → Build (List Value)}
    (h : ∀ a, YieldsLeaves (f a)) : YieldsLeaves (body >>= f) := by
  intro s vs s' heq
  obtain ⟨a, s₁, -, hf⟩ := exists_of_bind_ok heq
  exact h a s₁ vs s' hf

theorem yieldsLeaves_spread (v : Value) : YieldsLeaves (pure v.spread) :=
  .of_pure fun _ => Value.isLeaf_of_mem_spread

theorem yieldsLeaves_spreadAll (vs : List Value) : YieldsLeaves (pure (Value.spreadAll vs)) :=
  .of_pure fun _ => Value.isLeaf_of_mem_spreadAll

variable (E : Engine) (env : BuildEnv)

/-- **What a statement yields is flat.** -/
theorem statement_yieldsLeaves (scope : ScopeId) (st : Statement) :
    YieldsLeaves (statement E env scope st) := by
  obtain ⟨command, content⟩ := st
  rw [statement]
  refine .of_bind fun args => ?_
  cases command with
  | none => exact yieldsLeaves_spreadAll args
  | some name => exact .of_bind yieldsLeaves_spread

/-- What the statements between parentheses yield is flat. -/
theorem statements_yieldsLeaves (scope : ScopeId) (body : List Statement) :
    YieldsLeaves (statements E env scope body) := by
  induction body with
  | nil =>
    rw [statements]
    exact .of_pure nofun
  | cons st body ih =>
    intro s vs s' heq
    rw [statements] at heq
    obtain ⟨first, s₁, hfirst, heq⟩ := exists_of_bind_ok heq
    obtain ⟨rest, s₂, hrest, heq⟩ := exists_of_bind_ok heq
    obtain ⟨rfl, rfl⟩ : first ++ rest = vs ∧ s₂ = s' := by simpa using Prod.mk.inj heq
    intro v hv
    rcases List.mem_append.mp hv with hv | hv
    · exact statement_yieldsLeaves E env scope st s first s₁ hfirst v hv
    · exact ih s₁ rest s₂ hrest v hv

theorem task_yieldsLeaves (scope : ScopeId) (t : Task) : YieldsLeaves (task E env scope t) := by
  cases t with
  | statement st => exact statement_yieldsLeaves E env scope st
  | routine mode steps =>
    cases mode with
    | single => exact .of_bind yieldsLeaves_spread
    | list | onDemand => exact .of_bind yieldsLeaves_spreadAll
  | operation o =>
    rw [task]
    cases o.outcome with
    | error fault => exact .of_fail fault
    | ok result => exact yieldsLeaves_spread (.ofJson result)

/-- Adds the values of a task to those collected before. -/
def collect (acc vs : List Value) : Build (List Value) :=
  pure (acc ++ vs)

theorem drain_yieldsLeaves (scope : ScopeId) (kind : String) (ts : List Task) (yielded : Nat)
    {acc : List Value} (hacc : ∀ v ∈ acc, v.isLeaf = true) :
    YieldsLeaves (drain E env scope kind collect ts yielded acc) := by
  induction ts generalizing yielded acc with
  | nil =>
    rw [drain]
    exact .of_bind fun _ => .of_pure hacc
  | cons t ts ih =>
    intro s vs s' heq
    rw [drain] at heq
    obtain ⟨values, s₁, htask, heq⟩ := exists_of_bind_ok heq
    obtain ⟨collected, s₂, hcollect, heq⟩ := exists_of_bind_ok heq
    cases hcollect
    refine ih _ ?_ s₁ vs s' heq
    intro v hv
    rcases List.mem_append.mp hv with hv | hv
    · exact hacc v hv
    · exact task_yieldsLeaves E env scope t s values s₁ htask v hv

/-- **What a block yields is flat.** -/
theorem run_yieldsLeaves (block : Value) (vars : List (String × Value)) (outer : ScopeId) :
    YieldsLeaves (run E env block vars outer) :=
  .of_bind fun c => drain_yieldsLeaves E env c.scope c.kind c.tasks c.yielded nofun

/-! ## Taking the values of a block -/

/-- How taking the values of a block comes out, when it goes on until the block has no more or
fails: the values of each task, how it ended, and the state that is left. -/
inductive Pull.Drains :
    Pull → BuildState → List (List Value) → Except Fault Unit → BuildState → Prop where
  /-- The block has no more values. -/
  | ended {p p' : Pull} {s s' : BuildState} :
      p.next E env s = (.ok none, p', s') → Pull.Drains p s [] (.ok ()) s'
  /-- The block fails. -/
  | failed {p p' : Pull} {s s' : BuildState} {fault : Fault} :
      p.next E env s = (.error fault, p', s') → Pull.Drains p s [] (.error fault) s'
  /-- The values of a task are taken, and the taking goes on. -/
  | took {p p' : Pull} {s s₁ s' : BuildState} {vs : List Value} {chunks : List (List Value)}
      {r : Except Fault Unit} :
      p.next E env s = (.ok (some vs), p', s₁) → Pull.Drains p' s₁ chunks r s' →
        Pull.Drains p s (vs :: chunks) r s'

variable {E env}

/-- **There is one way to come to the end of a block.** -/
theorem Pull.Drains.unique {p : Pull} {s s' s'' : BuildState} {chunks chunks' : List (List Value)}
    {r r' : Except Fault Unit} (h : p.Drains E env s chunks r s')
    (h' : p.Drains E env s chunks' r' s'') : chunks' = chunks ∧ r' = r ∧ s'' = s' := by
  induction h generalizing chunks' r' s'' with
  | ended hnext | failed hnext =>
    cases h' with
    | ended hnext' | failed hnext' | took hnext' =>
      rw [hnext] at hnext'
      cases hnext' <;> exact ⟨rfl, rfl, rfl⟩
  | took hnext _ ih =>
    cases h' with
    | ended hnext' | failed hnext' =>
      rw [hnext] at hnext'
      cases hnext'
    | took hnext' hrest =>
      rw [hnext] at hnext'
      cases hnext'
      obtain ⟨rfl, rfl, rfl⟩ := ih hrest
      exact ⟨rfl, rfl, rfl⟩

/-- What a drained block does first: it is made ready, and then it is a running one. -/
theorem next_waiting {block : Value} {vars : List (String × Value)} {outer : ScopeId}
    {c : Course} {s s₁ : BuildState} (h : start env block vars outer s = (.ok c, s₁)) :
    (Pull.waiting block vars outer).next E env s = (Pull.running c).next E env s₁ := by
  simp only [Pull.next, bind_of_ok h]

theorem Pull.Drains.of_running {block : Value} {vars : List (String × Value)} {outer : ScopeId}
    {c : Course} {s s₁ s' : BuildState} {chunks : List (List Value)} {r : Except Fault Unit}
    (hstart : start env block vars outer s = (.ok c, s₁))
    (h : (Pull.running c).Drains E env s₁ chunks r s') :
    (Pull.waiting block vars outer).Drains E env s chunks r s' := by
  cases h with
  | ended hnext => exact .ended ((next_waiting hstart).trans hnext)
  | failed hnext => exact .failed ((next_waiting hstart).trans hnext)
  | took hnext hrest => exact .took ((next_waiting hstart).trans hnext) hrest

/-- **A course can be drained, and collecting it comes to the values that are taken.** -/
theorem exists_drains (c : Course) (s : BuildState) :
    ∃ chunks r s', (Pull.running c).Drains E env s chunks r s' ∧
      (∀ chunk ∈ chunks, ∀ v ∈ chunk, v.isLeaf = true) ∧
      ∀ acc, drain E env c.scope c.kind collect c.tasks c.yielded acc s =
        (r.map fun _ => acc ++ chunks.flatten, s') := by
  obtain ⟨tasks, scope, yielded, kind⟩ := c
  induction tasks generalizing yielded s with
  | nil =>
    have hnext : (Pull.running ⟨[], scope, yielded, kind⟩).next E env s =
        (.ok none, .ended, (noteBlock env kind yielded s).2) := rfl
    refine ⟨[], .ok (), _, .ended hnext, nofun, ?_⟩
    intro acc
    rw [List.flatten_nil, List.append_nil]
    rfl
  | cons t ts ih =>
    cases htask : task E env scope t s with
    | mk result s₁ =>
      cases result with
      | error fault =>
        have hnext : (Pull.running ⟨t :: ts, scope, yielded, kind⟩).next E env s =
            (.error fault, .ended, s₁) := by
          simp only [Pull.next, next, bind_of_error htask]
        refine ⟨[], .error fault, s₁, .failed hnext, nofun, fun acc => ?_⟩
        rw [drain, bind_of_error htask]
        rfl
      | ok vs =>
        obtain ⟨chunks, r, s', hdrains, hleaves, hdrain⟩ := ih s₁ (yielded + vs.length)
        have hfirst := task_yieldsLeaves E env scope t s vs s₁ htask
        refine ⟨vs :: chunks, r, s', .took ?_ hdrains, List.forall_mem_cons.mpr ⟨hfirst, hleaves⟩,
          fun acc => ?_⟩
        · simp only [Pull.next, next, bind_of_ok htask]
          rfl
        · have hcollect : collect acc vs s₁ = (.ok (acc ++ vs), s₁) := rfl
          rw [drain, bind_of_ok htask, bind_of_ok hcollect, hdrain, List.flatten_cons,
            List.append_assoc]

/-- **A run is what draining the block comes to**: the values of its tasks one after the other, or
the fault of the task that failed, and the same state. -/
theorem exists_drains_run (block : Value) (vars : List (String × Value)) (outer : ScopeId)
    (s : BuildState) :
    ∃ chunks r s', (Pull.waiting block vars outer).Drains E env s chunks r s' ∧
      (∀ chunk ∈ chunks, ∀ v ∈ chunk, v.isLeaf = true) ∧
      run E env block vars outer s = (r.map fun _ => chunks.flatten, s') := by
  cases hstart : start env block vars outer s with
  | mk result s₁ =>
    cases result with
    | error fault =>
      have hnext : (Pull.waiting block vars outer).next E env s = (.error fault, .ended, s₁) := by
        simp only [Pull.next, bind_of_error hstart]
      exact ⟨[], .error fault, s₁, .failed hnext, nofun, bind_of_error hstart _⟩
    | ok c =>
      obtain ⟨chunks, r, s', hdrains, hleaves, hdrain⟩ := @exists_drains E env c s₁
      exact ⟨chunks, r, s', hdrains.of_running hstart, hleaves,
        (bind_of_ok hstart _).trans (hdrain [])⟩

/-! ## Values that are emitted again -/

/-- Leaves are emitted as they are, in a list and as the value of statements between parentheses. -/
theorem emit_leaves {vs : List Value} (h : ∀ v ∈ vs, v.isLeaf = true) (output : List Value) :
    Value.emit output (.list vs) = output ++ vs ∧
      Value.emit output (unwrapped vs) = output ++ vs := by
  have hlist : Value.emit output (.list vs) = output ++ vs := by
    rw [Value.emit_eq, Value.spread, Value.spreadAll_of_leaves h]
  refine ⟨hlist, ?_⟩
  unfold unwrapped
  split
  · exact (List.append_nil output).symm
  · rename_i v
    exact Value.emit_of_isLeaf (h v List.mem_cons_self) output
  · exact hlist

/-- A row that is put together of two is emitted like one after the other. -/
theorem emit_append {row : List Value → Value} (h : row ∈ [Value.list, .tuple, .generator])
    (vs ws output : List Value) :
    Value.emit output (row (vs ++ ws)) =
      output ++ (Value.emit [] (row vs) ++ Value.emit [] (row ws)) := by
  have hrow (us : List Value) : (row us).spread = Value.spreadAll us := by
    apply Value.spread_of_parts?
    rcases List.mem_cons.mp h with rfl | h
    · rfl
    rcases List.mem_cons.mp h with rfl | h
    · rfl
    · rw [List.mem_singleton.mp h]
      rfl
  simp only [Value.emit_eq, hrow, Value.spreadAll_append, List.nil_append]

/-- **Values are emitted flat and in order, at once or one task at a time.** A value stands for its
leaves, whose paths ascend, and emitting it appends them; a row of two parts is emitted like one
after the other, and what was emitted is emitted again as it is. So whatever a statement or a block
yields is flat. A block that is drained comes to an end in one way, and running it comes to the same
values and the same state. -/
theorem emits_leaves (E : Engine) (env : BuildEnv) :
    (∀ (v : Value) (output : List Value), ∃ leaves : List (List Nat × Value),
      leaves.Pairwise (fun x y => x.1 < y.1) ∧
      (∀ path w, (path, w) ∈ leaves ↔ v.partAt? path = some w ∧ w.isLeaf = true) ∧
      v.spread = leaves.map Prod.snd ∧ Value.emit output v = output ++ v.spread) ∧
    (∀ row ∈ [Value.list, .tuple, .generator], ∀ vs ws output : List Value,
      Value.emit output (row (vs ++ ws)) =
        output ++ (Value.emit [] (row vs) ++ Value.emit [] (row ws))) ∧
    (∀ (v : Value) (output : List Value),
      Value.emit output (.list (Value.emit [] v)) = Value.emit output v) ∧
    (∀ body : Build (List Value),
      (∃ scope st, body = statement E env scope st) ∨
        (∃ scope sts, body = statements E env scope sts) ∨
          (∃ block vars outer, body = run E env block vars outer) →
      ∀ s vs s', body s = (.ok vs, s') → (∀ v ∈ vs, v.isLeaf = true) ∧
        ∀ output, Value.emit output (.list vs) = output ++ vs ∧
          Value.emit output (unwrapped vs) = output ++ vs) ∧
    (∀ block vars outer s, ∃ chunks r s',
      (Pull.waiting block vars outer).Drains E env s chunks r s' ∧
      (∀ chunks' r' s'', (Pull.waiting block vars outer).Drains E env s chunks' r' s'' →
        chunks' = chunks ∧ r' = r ∧ s'' = s') ∧
      (∀ chunk ∈ chunks, ∀ v ∈ chunk, v.isLeaf = true) ∧
      run E env block vars outer s = (r.map fun _ => chunks.flatten, s')) := by
  refine ⟨fun v output => ?_, fun row => emit_append, fun v output => ?_, ?_, ?_⟩
  · exact ⟨v.leaves, v.pairwise_leaves, fun path w => Value.mem_leaves_iff, v.map_snd_leaves.symm,
      Value.emit_eq v output⟩
  · have hflat : ∀ w ∈ v.spread, w.isLeaf = true := fun w => Value.isLeaf_of_mem_spread
    rw [Value.emit_eq v [], Value.emit_eq v output, List.nil_append, (emit_leaves hflat output).1]
  · intro body hbody s vs s' heq
    have hflat : YieldsLeaves body := by
      rcases hbody with ⟨scope, st, rfl⟩ | ⟨scope, sts, rfl⟩ | ⟨block, vars, outer, rfl⟩
      · exact statement_yieldsLeaves E env scope st
      · exact statements_yieldsLeaves E env scope sts
      · exact run_yieldsLeaves E env block vars outer
    exact ⟨hflat s vs s' heq, emit_leaves (hflat s vs s' heq)⟩
  · intro block vars outer s
    obtain ⟨chunks, r, s', hdrains, hleaves, hrun⟩ := exists_drains_run block vars outer s
    exact ⟨chunks, r, s', hdrains, fun _ _ _ => hdrains.unique, hleaves, hrun⟩

end TagScript.Build
