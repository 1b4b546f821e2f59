import TagScript.Proofs.Build.Primitives

/-!
# What steps never look at

Reports and log records are only ever written. So a build does the same after other reports and
other records, and what it adds to them is the same. The streams are looked at where chunks are
taken and nowhere else.

* `Aside` — a change of the reports, of the log and of the streams, under which what is added to the
  reports and to the log stays what it is.
* `Build.Commutes` — whether a step does the same before and after such a change.
* `Build.primitive_commutes`, `Build.commutes_template` — all small steps do that take no chunk.
* **`Build.lockstep_commutes`** — all steps do, if the streams are not changed.
* **`Build.exists_added`** — such a step adds to the reports, whatever was reported before.
-/

namespace TagScript

/-- A change of what small steps never look at. -/
structure Aside where
  /-- What becomes of the streams. -/
  streams : Streams → Streams
  /-- What becomes of the reports. -/
  diagnostics : Array Diagnostic → Array Diagnostic
  /-- What becomes of the log. -/
  log : Log → Log
  /-- Reports are added as before. -/
  append : ∀ ds more, diagnostics (ds ++ more) = diagnostics ds ++ more
  /-- Records are added as before. -/
  add : ∀ l record, log (l.add record) = (log l).add record

/-- A state with other reports and other log records. -/
def BuildState.noted (s : BuildState) (reports : Array Diagnostic)
    (records : Array LogRecord) : BuildState :=
  { s with diagnostics := reports, log := { s.log with records } }

theorem BuildState.noted_self (s : BuildState) : s.noted s.diagnostics s.log.records = s := rfl

namespace Aside

/-- The changed state. -/
def on (t : Aside) (s : BuildState) : BuildState :=
  { s with
    streams := t.streams s.streams
    diagnostics := t.diagnostics s.diagnostics
    log := t.log s.log }

/-- Changes the streams only. -/
def onStreams (f : Streams → Streams) : Aside where
  streams := f
  diagnostics := id
  log := id
  append _ _ := rfl
  add _ _ := rfl

/-- Puts reports and log records before the others. -/
def before (reports : Array Diagnostic) (records : Array LogRecord) : Aside where
  streams := id
  diagnostics ds := reports ++ ds
  log l := { l with records := records ++ l.records }
  append _ _ := (Array.append_assoc ..).symm
  add l record := by
    unfold Log.add Log.keeps
    dsimp only
    split
    · rw [Array.append_push]
    · rfl

theorem on_before (reports : Array Diagnostic) (records : Array LogRecord) (s : BuildState) :
    (before reports records).on s =
      s.noted (reports ++ s.diagnostics) (records ++ s.log.records) := rfl

variable (t : Aside) (s : BuildState)

@[simp]
theorem registry_on : (t.on s).registry = s.registry := rfl

@[simp]
theorem scopes_on : (t.on s).scopes = s.scopes := rfl

@[simp]
theorem cache_on : (t.on s).cache = s.cache := rfl

theorem push (ds : Array Diagnostic) (d : Diagnostic) :
    t.diagnostics (ds.push d) = (t.diagnostics ds).push d := by
  rw [Array.push_eq_append, t.append, ← Array.push_eq_append]

theorem foldl_add {α : Type} (f : α → LogRecord) (items : List α) (l : Log) :
    t.log (items.foldl (fun l a => l.add (f a)) l) =
      items.foldl (fun l a => l.add (f a)) (t.log l) := by
  induction items generalizing l with
  | nil => rfl
  | cons a items ih => rw [List.foldl_cons, List.foldl_cons, ih, t.add]

end Aside

namespace Build

variable {t : Aside} {α β : Type} {m m' : Build α}

/-- Whether a step does the same before and after a change. As a relation between steps, so that it
can be carried through all steps of a build. -/
def Commutes (t : Aside) {α : Type} (m m' : Build α) : Prop :=
  m = m' ∧ ∀ s, m (t.on s) = ((m s).1, t.on (m s).2)

/-! ## Steps put together -/

theorem commutes_lift (r : Except Fault α) : Commutes t (lift r) (lift r) :=
  ⟨rfl, fun _ => rfl⟩

theorem commutes_value (a : α) : Commutes t (pure a : Build α) (pure a) :=
  commutes_lift (.ok a)

theorem commutes_fault (f : Fault) : Commutes t (fail f : Build α) (fail f) :=
  commutes_lift (.error f)

theorem commutes_read (f : BuildSight → α) :
    Commutes t (read fun s => f s.sight) (read fun s => f s.sight) :=
  ⟨rfl, fun _ => rfl⟩

theorem commutes_change {f : BuildState → BuildState} (h : ∀ s, f (t.on s) = t.on (f s)) :
    Commutes t (change f) (change f) :=
  ⟨rfl, fun s => congrArg (Prod.mk _) (h s)⟩

theorem Commutes.bind {f f' : α → Build β} (h : Commutes t m m')
    (hf : ∀ a, Commutes t (f a) (f' a)) : Commutes t (m >>= f) (m' >>= f') := by
  obtain ⟨rfl, hm⟩ := h
  obtain rfl : f = f' := funext fun a => (hf a).1
  refine ⟨rfl, fun s => ?_⟩
  have hfirst := hm s
  rcases hrun : m s with ⟨fault | a, s₁⟩
  · rw [hrun] at hfirst
    rw [bind_of_error hrun, bind_of_error hfirst]
  · rw [hrun] at hfirst
    rw [bind_of_ok hrun, bind_of_ok hfirst]
    exact (hf a).2 s₁

theorem Commutes.deeper (h : Commutes t m m') : Commutes t (deeper m) (deeper m') := by
  obtain ⟨rfl, hm⟩ := h
  refine ⟨rfl, fun s => ?_⟩
  have hdown := hm { s with depth := s.depth + 1 }
  unfold Build.deeper
  rw [show { t.on s with depth := (t.on s).depth + 1 } =
    t.on { s with depth := s.depth + 1 } from rfl, hdown]
  rfl

/-! ## Small steps -/

theorem commutes_record (logger : Logger) (level : LogLevel) (message : String)
    (extra : List (String × Json)) :
    Commutes t (record logger level message extra) (record logger level message extra) := by
  refine commutes_change fun s => ?_
  simp only [Aside.on, t.add]

theorem commutes_report (d : Diagnostic) : Commutes t (report d) (report d) := by
  refine commutes_change fun s => ?_
  simp only [Aside.on, t.push]

theorem commutes_count (f : Metrics → Metrics) : Commutes t (count f) (count f) :=
  commutes_change fun _ => rfl

theorem commutes_changeScopes (f : Scopes → Except Fault Scopes) :
    Commutes t (changeScopes f) (changeScopes f) := by
  refine ⟨rfl, fun s => ?_⟩
  rw [changeScopes, changeScopes, t.scopes_on]
  split <;> rfl

theorem commutes_newScope (parent : ScopeId) (vars : List (String × Value)) :
    Commutes t (newScope parent vars) (newScope parent vars) := by
  refine ⟨rfl, fun s => ?_⟩
  rw [newScope_apply, newScope_apply, t.scopes_on]
  split <;> rfl

theorem commutes_tryBinding (pfx uri : String) :
    Commutes t (tryBinding pfx uri) (tryBinding pfx uri) := by
  unfold tryBinding
  refine (commutes_read fun v => v.registry.add pfx uri).bind fun r => ?_
  split
  · exact Commutes.bind (commutes_change fun _ => rfl) fun _ => commutes_value _
  · exact commutes_value _

/-- All primitive steps do the same after such a change. -/
theorem primitive_commutes (t : Aside) : Primitive (Commutes t) where
  value := commutes_value
  fault := commutes_fault
  bind := Commutes.bind
  deeper := Commutes.deeper
  read := commutes_read
  record logger level message extra _ := commutes_record logger level message extra
  report d _ := commutes_report d
  count f _ := commutes_count f
  tryBinding := commutes_tryBinding

/-- Templates are made of the bindings, the commands and the kept templates. -/
theorem commutes_template (env : BuildEnv) (source : String) :
    Commutes t (template env source) (template env source) := by
  refine ⟨rfl, fun s => ?_⟩
  have hafter (c : Compilation) :
      afterCompilation env (t.on s) c = t.on (afterCompilation env s c) := by
    simp only [afterCompilation, Aside.on, t.append, t.foldl_add]
  unfold template
  dsimp only
  rw [hafter, t.registry_on, t.cache_on, show compilerHost (t.on s) = compilerHost s from rfl]
  split <;> rfl

theorem commutes_registerConstant (i : Invocation) :
    Commutes t (registerConstant i) (registerConstant i) :=
  (primitive_commutes t).registerConstant (fun _ => commutes_change fun _ => rfl) i

/-- A step that does the same whatever the streams are leaves them as they are. -/
theorem Commutes.streams_eq (h : ∀ t, Commutes t m m') (s : BuildState) :
    (m s).2.streams = s.streams := by
  have hsame := (h (.onStreams fun _ => s.streams)).2 s
  rw [show (Aside.onStreams fun _ => s.streams).on s = s from rfl] at hsame
  rw [hsame]
  rfl

/-! ## All steps -/

/-- **All steps do the same after other reports and log records**, and add the same to them. -/
theorem lockstep_commutes (env : BuildEnv) (hstreams : t.streams = id) :
    Lockstep.Invoking env env (Commutes t) := by
  have hsame (s : BuildState) : (t.on s).streams = s.streams := congrFun hstreams s.streams
  have hchunk (id : StreamId) : Commutes t (nextChunk id) (nextChunk id) := by
    refine ⟨rfl, fun s => ?_⟩
    unfold nextChunk
    rw [hsame]
    split
    · rw [Aside.on, Aside.on, hstreams]
      rfl
    · rfl
  have hcount : Commutes t (read fun s => s.streams.count) (read fun s => s.streams.count) :=
    ⟨rfl, fun s => by rw [read, hsame]; rfl⟩
  refine Lockstep.invoking ?_ commutes_registerConstant
  exact {
    toElementwise := (primitive_commutes t).elementwise env hchunk
      (feedAll_related commutes_value Commutes.bind hcount)
    changeScopes := commutes_changeScopes
    template := commutes_template env
    newScope := commutes_newScope
    noteBlock := (primitive_commutes t).noteBlock env }

/-- So do the runs of an engine. -/
theorem engine_commutes (env : BuildEnv) (n : Nat) (reports : Array Diagnostic)
    (records : Array LogRecord) :
    Engine.Related (Commutes (.before reports records)) (engine env n) (engine env n) :=
  (lockstep_commutes env rfl).engine n

/-! ## What is added -/

/-- **A step that does the same after other reports and log records adds to them**, and what it adds
does not depend on them. -/
theorem exists_added (h : ∀ reports records, Commutes (.before reports records) m m)
    (s : BuildState) :
    ∃ added noted, ∀ reports records, m (s.noted reports records) =
      ((m s).1, (m s).2.noted (reports ++ added) (records ++ noted)) := by
  let start := s.noted #[] #[]
  have hrun (reports : Array Diagnostic) (records : Array LogRecord) :
      m (s.noted reports records) = ((m start).1, (m start).2.noted
        (reports ++ (m start).2.diagnostics) (records ++ (m start).2.log.records)) := by
    have hsame := (h reports records).2 start
    rwa [Aside.on_before, Aside.on_before, show start.diagnostics = #[] from rfl,
      show start.log.records = #[] from rfl, Array.append_empty, Array.append_empty] at hsame
  have hself := hrun s.diagnostics s.log.records
  rw [BuildState.noted_self] at hself
  refine ⟨(m start).2.diagnostics, (m start).2.log.records, fun reports records => ?_⟩
  rw [hself, hrun]
  rfl

end Build

end TagScript
