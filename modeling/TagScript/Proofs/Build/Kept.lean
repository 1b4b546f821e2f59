import TagScript.Proofs.Build.Primitives

/-!
# What every step of a build keeps

A build changes its bindings, its scopes and its tables of commands in few places. So a relation
between an earlier state and a later one, which looks at nothing else, holds of whole builds if it
holds of these few steps.

* `Build.Keeps` — whether a step takes every state to a related one.
* `Build.Steady` — what the relation must satisfy.
* `Build.Steady.elementwise` — the small steps of elements keep it.
* `Build.Kept` — a relation that does not look at the scopes.
* **`Build.Kept.documenting`** — such a relation is kept by every step of a build.
-/

namespace TagScript

/-- Adding a binding is refused for another URI than the one that is bound, and for none. -/
theorem Registry.add_cases (r : Registry) (pfx uri : String) :
    (∃ created r', r.add pfx uri = .ok (created, r')) ∨
      (∃ known, r.get? pfx = some known ∧ known ≠ uri ∧
        r.add pfx uri = .error (.collision pfx known uri)) ∨
      r.add pfx uri = .error (.invalid .emptyNamespace) := by
  rw [add]
  by_cases hempty : uri = ""
  · rw [if_pos hempty]
    exact .inr (.inr rfl)
  · rw [if_neg hempty]
    cases hget : r.get? pfx with
    | none => exact .inl ⟨_, _, rfl⟩
    | some known =>
      by_cases hsame : known = uri
      · exact .inl ⟨false, r, if_pos hsame⟩
      · exact .inr (.inl ⟨known, rfl, hsame, if_neg hsame⟩)

namespace Build

/-- Whether two states have the same bindings, the same scopes and the same tables of commands. -/
structure SameCore (s s' : BuildState) : Prop where
  /-- The bindings are the same. -/
  registry : s'.registry = s.registry
  /-- The scopes are the same. -/
  scopes : s'.scopes = s.scopes
  /-- The commands are the same. -/
  commands : s'.commands = s.commands
  /-- The command words are the same. -/
  words : s'.words = s.words

/-- Binding a prefix adds the binding, keeps the URI that the prefix has, or fails. -/
theorem bindPrefix_cases (env : BuildEnv) (tag : QName) (pfx uri : String) (s : BuildState) :
    (∃ created registry, s.registry.add pfx uri = .ok (created, registry) ∧
      bindPrefix env tag pfx uri s = (.ok (), { s with registry })) ∨
      (∃ known s', s.registry.get? pfx = some known ∧ known ≠ uri ∧
        env.settings.strictCollisions = false ∧ bindPrefix env tag pfx uri s = (.ok (), s') ∧
        SameCore s s') ∨
      ∃ fault, bindPrefix env tag pfx uri s = (.error fault, s) := by
  rw [bindPrefix, read_bind]
  rcases s.registry.add_cases pfx uri with
    ⟨created, registry, hadd⟩ | ⟨known, hget, hne, hadd⟩ | hadd
  · exact .inl ⟨created, registry, hadd, by rw [hadd]; rfl⟩
  · rw [hadd]
    cases hstrict : env.settings.strictCollisions with
    | true => exact .inr (.inr ⟨_, rfl⟩)
    | false => exact .inr (.inl ⟨known, _, hget, hne, rfl, rfl, rfl, rfl, rfl, rfl⟩)
  · rw [hadd]
    exact .inr (.inr ⟨_, rfl⟩)

/-- Whether a step takes every state to one that the state is related to. As a relation between
steps, so that it can be carried through all steps of a build. -/
def Keeps (P : BuildState → BuildState → Prop) {α : Type} (m m' : Build α) : Prop :=
  m = m' ∧ ∀ s, P s (m s).2

/-- Two steps one after the other keep a relation that holds of two changes together if it holds of
each. -/
theorem Keeps.bind {P : BuildState → BuildState → Prop} {α β : Type} {m m' : Build α}
    {f f' : α → Build β} (htrans : ∀ {s s' s'' : BuildState}, P s s' → P s' s'' → P s s'')
    (h : Keeps P m m') (hf : ∀ a, Keeps P (f a) (f' a)) : Keeps P (m >>= f) (m' >>= f') := by
  obtain ⟨rfl, hm⟩ := h
  obtain rfl : f = f' := funext fun a => (hf a).1
  refine ⟨rfl, fun s => ?_⟩
  have hfirst := hm s
  rcases hrun : m s with ⟨fault | a, s₁⟩
  · rw [hrun] at hfirst
    rw [bind_of_error hrun]
    exact hfirst
  · rw [hrun] at hfirst
    rw [bind_of_ok hrun]
    exact htrans hfirst ((hf a).2 s₁)

/-- A relation between earlier and later states that can be kept by building elements. -/
structure Steady (P : BuildState → BuildState → Prop) : Prop where
  /-- What holds of two rows of steps holds of both together. -/
  trans : ∀ {s s' s'' : BuildState}, P s s' → P s' s'' → P s s''
  /-- Steps may change whatever else there is. -/
  same : ∀ {s s' : BuildState}, SameCore s s' → P s s'
  /-- Steps may add a binding. -/
  bound : ∀ {s : BuildState} {pfx uri : String} {created : Bool} {registry : Registry},
    s.registry.add pfx uri = .ok (created, registry) → P s { s with registry }

namespace Steady

variable {P : BuildState → BuildState → Prop} (K : Steady P)
include K

/-! ## Single steps -/

/-- A step that changes neither the bindings nor the scopes nor the tables. -/
theorem of_same {α : Type} {m : Build α} (h : ∀ s, SameCore s (m s).2) : Keeps P m m :=
  ⟨rfl, fun s => K.same (h s)⟩

theorem read {α : Type} (f : BuildState → α) : Keeps P (read f) (read f) :=
  K.of_same fun _ => ⟨rfl, rfl, rfl, rfl⟩

theorem lift {α : Type} (r : Except Fault α) : Keeps P (lift r) (lift r) :=
  K.of_same fun _ => ⟨rfl, rfl, rfl, rfl⟩

/-- Adding a binding adds it, or is refused and changes nothing. -/
theorem tryBinding (pfx uri : String) : Keeps P (tryBinding pfx uri) (tryBinding pfx uri) := by
  refine ⟨rfl, fun s => ?_⟩
  rw [Build.tryBinding, read_bind]
  cases hadd : s.registry.add pfx uri with
  | ok added => exact K.bound hadd
  | error fault => exact K.same ⟨rfl, rfl, rfl, rfl⟩

theorem bind {α β : Type} {m m' : Build α} {f f' : α → Build β} (h : Keeps P m m')
    (hf : ∀ a, Keeps P (f a) (f' a)) : Keeps P (m >>= f) (m' >>= f') :=
  h.bind K.trans hf

theorem deeper {α : Type} {m m' : Build α} (h : Keeps P m m') :
    Keeps P (deeper m) (deeper m') := by
  obtain ⟨rfl, hm⟩ := h
  refine ⟨rfl, fun s => ?_⟩
  have hdown : P s { s with depth := s.depth + 1 } := K.same ⟨rfl, rfl, rfl, rfl⟩
  exact K.trans (K.trans hdown (hm _)) (K.same ⟨rfl, rfl, rfl, rfl⟩)

theorem noteFault {α : Type} (logger : Logger) {m m' : Build α} (h : Keeps P m m') :
    Keeps P (noteFault logger m) (noteFault logger m') := by
  obtain ⟨rfl, hm⟩ := h
  refine ⟨rfl, fun s => K.trans (hm s) ?_⟩
  unfold Build.noteFault
  rcases m s with ⟨fault | a, s₁⟩
  · dsimp only
    split <;> exact K.same ⟨rfl, rfl, rfl, rfl⟩
  · exact K.same ⟨rfl, rfl, rfl, rfl⟩

/-! ## The steps of a build -/

/-- The primitive steps keep the relation. -/
theorem primitive : Primitive (Keeps P) where
  value a := K.lift (.ok a)
  fault f := K.lift (.error f)
  bind := K.bind
  deeper := K.deeper
  read _ := K.read _
  record _ _ _ _ _ := K.of_same fun _ => ⟨rfl, rfl, rfl, rfl⟩
  report _ _ := K.of_same fun _ => ⟨rfl, rfl, rfl, rfl⟩
  count _ _ := K.of_same fun _ => ⟨rfl, rfl, rfl, rfl⟩
  tryBinding := K.tryBinding

variable (env : BuildEnv)

theorem template (source : String) : Keeps P (template env source) (template env source) := by
  refine K.of_same fun s => ?_
  unfold Build.template
  dsimp only
  split <;> exact ⟨rfl, rfl, rfl, rfl⟩

theorem noteBlock (kind : String) (yielded : Nat) :
    Keeps P (noteBlock env kind yielded) (noteBlock env kind yielded) :=
  K.of_same fun _ => ⟨rfl, rfl, rfl, rfl⟩

/-- **The small steps of elements keep the relation.** -/
theorem elementwise : Elementwise env env (Keeps P) := by
  refine K.primitive.elementwise env (fun id => K.of_same fun s => ?_)
    (feedAll_related (fun a => K.lift (.ok a)) K.bind (K.read _))
  unfold nextChunk
  split <;> exact ⟨rfl, rfl, rfl, rfl⟩

end Steady

/-! ## Relations that do not look at the scopes -/

/-- A relation between earlier and later states that can be kept throughout a build. -/
structure Kept (P : BuildState → BuildState → Prop) : Prop where
  /-- What holds of two rows of steps holds of both together. -/
  trans : ∀ {s s' s'' : BuildState}, P s s' → P s' s'' → P s s''
  /-- Steps may change whatever else there is. -/
  same : ∀ {s s' : BuildState}, s'.registry = s.registry → s'.commands = s.commands →
    s'.words = s.words → P s s'
  /-- Steps may add a binding. -/
  bound : ∀ {s : BuildState} {pfx uri : String} {created : Bool} {registry : Registry},
    s.registry.add pfx uri = .ok (created, registry) → P s { s with registry }

namespace Kept

variable {P : BuildState → BuildState → Prop} (K : Kept P)
include K

theorem steady : Steady P where
  trans := K.trans
  same h := K.same h.registry h.commands h.words
  bound := K.bound

/-- A step that changes at most the scopes of what steps depend on. -/
theorem of_same {α : Type} {m : Build α}
    (h : ∀ s, (m s).2.registry = s.registry ∧ (m s).2.commands = s.commands ∧
      (m s).2.words = s.words) : Keeps P m m :=
  ⟨rfl, fun s => K.same (h s).1 (h s).2.1 (h s).2.2⟩

variable (env : BuildEnv)

/-- The small steps of a build keep the relation. -/
theorem lockstep : Lockstep env env (Keeps P) where
  toElementwise := K.steady.elementwise env
  changeScopes f := K.of_same fun s => by
    unfold changeScopes
    split <;> exact ⟨rfl, rfl, rfl⟩
  newScope parent vars := K.of_same fun s => by
    unfold newScope
    split <;> exact ⟨rfl, rfl, rfl⟩
  template := K.steady.template env
  noteBlock := K.steady.noteBlock env

/-- **Every step of a build keeps the relation**, if invoking commands does. -/
theorem documenting
    (hinvoke : ∀ {E E' : Engine}, Engine.Related (Keeps P) E E' → ∀ i : Invocation,
      Keeps P (invoke E env i) (invoke E' env i)) :
    Lockstep.Documenting env env (Keeps P) where
  toLockstep := K.lockstep env
  invoke := hinvoke
  correlationId := rfl
  record _ _ _ _ _ := K.of_same fun _ => ⟨rfl, rfl, rfl⟩
  enclose _ := K.of_same fun _ => ⟨rfl, rfl, rfl⟩
  noteFault := K.steady.noteFault
  documentOf config request root := by
    unfold documentOf
    exact K.steady.bind (K.steady.read _) fun _ => K.steady.lift _

end Kept

end Build

end TagScript
