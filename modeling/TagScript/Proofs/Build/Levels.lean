import TagScript.Proofs.Build.BuiltinCommands
import TagScript.Proofs.Script.GuardedTexts
import TagScript.Proofs.Template.Replay
import TagScript.Proofs.Xml.Refused

/-!
# Levels of scopes

How deep a run of a block nests others depends on the braces in its text and on the blocks that its
variables hold. So every scope is given a level when it is made: what its own variables hold nests
no deeper than one more than that, and the scopes around it have no higher level. A block nests no
deeper than the level of the scope that it was written in and the braces in its text allow.

* `Value.Within` — the ends of values whose blocks nest so deep at most.
* `Guarding` — what a build is given whose texts are guarded.
* `Guarding.Sound` — a state whose scopes have these levels.
* `Guarding.Ends` — a step that keeps the levels and does not fail for want of room.
* **`Ends.bind`**, `Ends.deeper`, `Ends.foldlM` — steps that end may be put together.
* `Ends.lookup`, `Ends.newScope`, `Ends.template` — variables, scopes and templates.
-/

namespace TagScript

/-- What stands at a place of a row stands there when the row goes on. -/
theorem getElem?_of_prefixed {α : Type} {as bs : List α} (h : as <+: bs) {i : Nat} {a : α}
    (ha : as[i]? = some a) : bs[i]? = some a := by
  obtain ⟨more, rfl⟩ := h
  rw [List.getElem?_append_left (List.getElem?_eq_some_iff.mp ha).1]
  exact ha

/-- A scope is refused for a variable without a name only. -/
theorem Scopes.add_error {scopes : Scopes} {parent : Option ScopeId}
    {vars : List (String × Value)} {fault : Fault} (h : scopes.add parent vars = .error fault) :
    fault = .invalid .emptyVariableName := by
  have hgiven : ∀ b ∈ Fields.ofList vars, True := fun _ _ => trivial
  unfold add ownOf at h
  rcases @define_foldlM (fun _ => True) _ [] (List.forall_mem_nil _) hgiven with
    ⟨own, hdefined, -⟩ | ⟨hfails, -⟩
  · rw [hdefined] at h
    cases h
  · rw [hfails] at h
    cases h
    rfl

/-! ## Requests for templates -/

namespace Cache

theorem trimTo_error {limit : Limit} {entries : List (TemplateKey × Template)} {fault : Fault}
    (h : (trimTo limit entries).2 = .error fault) : fault ≠ .exhausted := by
  induction entries with
  | nil =>
    unfold trimTo at h
    split at h
    · cases h
      exact Fault.noConfusion
    · cases h
    · rename_i hlimit
      cases h
      exact Limit.isExceededBy_error hlimit ▸ Fault.noConfusion
  | cons entry rest ih =>
    unfold trimTo at h
    split at h
    · exact ih h
    · cases h
    · rename_i hlimit
      cases h
      exact Limit.isExceededBy_error hlimit ▸ Fault.noConfusion

/-- A request for a template fails for what is wrong with the text or with the settings. -/
theorem compile_error {settings : CompilerSettings} {knows : String → Bool} {version : Option Nat}
    {registry : Registry} {source : String} {c : Cache} {fault : Fault}
    (h : (c.compile settings ⟨true, some knows, version⟩ registry source).outcome = .error fault) :
    fault ≠ .exhausted := by
  have hrequest := request_compile settings ⟨true, some knows, version⟩ registry source c
  generalize c.compile settings ⟨true, some knows, version⟩ registry source = r at h hrequest
  cases hrequest with
  | unread | unknown | unfixed =>
    cases h
    exact Fault.noConfusion
  | found => cases h
  | made hknows _ hmaking =>
    cases hknows
    cases hmaking with
    | malformed hmade =>
      cases h
      rcases Template.ofSource_cases knows registry settings.constructor source with
        ⟨t, ht, -⟩ | ⟨problem, pos, hbad⟩
      · rw [hmade] at ht
        cases ht
      · rw [hmade] at hbad
        cases hbad
        exact Fault.noConfusion
    | kept => cases h
    | unkept _ hput =>
      cases h
      unfold put at hput
      split at hput
      · cases hput
      · exact trimTo_error (congrArg Prod.snd hput)

end Cache

/-! ## Values -/

namespace Value

/-- Whether a value, run as content, nests blocks no deeper than `k` where the scopes have these
levels. It is no template and no routine, whose statements are not known. -/
def Within (table : CommandTable) (levels : List Nat) (k : Nat) : Value → Prop
  | .block b => ∃ id level, b.scope = some id ∧ levels[id]? = some level ∧ Guarded table b.source ∧
      level + braceCount b.source + 2 ≤ k
  | .operation o => 1 ≤ k ∧ o.outcome ≠ .error .exhausted
  | .template _ | .routine .. => False
  | _ => True

section

variable {table : CommandTable} {levels levels' : List Nat} {k k' : Nat} {v : Value}

/-- There may be more scopes and more room. -/
theorem Within.mono (h : v.Within table levels k) (hlevels : levels <+: levels') (hk : k ≤ k') :
    v.Within table levels' k' := by
  cases v with
  | block b =>
    obtain ⟨id, level, hscope, hlevel, hsource, hroom⟩ := h
    exact ⟨id, level, hscope, getElem?_of_prefixed hlevels hlevel, hsource, Nat.le_trans hroom hk⟩
  | operation o => exact ⟨Nat.le_trans h.1 hk, h.2⟩
  | _ => exact h

/-- Members are operations at most. -/
theorem keepsMembers_within (hk : 1 ≤ k) : KeepsMembers (Within table levels k) where
  harmless v h := by
    cases v with
    | operation o =>
      refine ⟨hk, fun hexhausted => ?_⟩
      rcases h _ hexhausted with heq | heq | ⟨text, heq⟩ <;> cases heq
    | block _ | template _ | routine _ _ => exact h.elim
    | _ => trivial
  element _ _ := ⟨trivial, fun _ _ => trivial, fun _ _ => trivial⟩
  attributeName _ _ := trivial
  document _ _ := by
    refine ⟨fun _ => trivial, fun o ho => ⟨hk, fun hexhausted => ?_⟩⟩
    exact documentMember?_error ho hexhausted
  block _ _ _ _ := trivial

/-- What is no content is within any room. -/
theorem within_of_not_content (hcontent : v.isContentBlock = false) :
    v.Within table levels k := by
  cases v with
  | block _ | template _ | routine _ _ | operation _ => cases hcontent
  | _ => trivial

end

end Value

/-! ## Builds -/

/-- What a build is given whose texts are guarded. -/
structure Guarding where
  /-- The settings and the scope of the parameters. -/
  env : BuildEnv
  /-- The commands, by which command words are told from element words too. -/
  table : CommandTable
  /-- They are built-in commands. -/
  builtin : ∀ entry ∈ table.entries, ∃ clock, entry.2.2 ∈ Command.builtins clock
  /-- The constructor is a word. -/
  word : IsCommandWord env.settings.compiler.constructor.word
  /-- It does not run a block for each item. -/
  constructs : ∀ c, table.lookup env.settings.compiler.constructor.word = .ok c →
    c.action ≠ .acting .forEachItem

namespace Guarding

variable (G : Guarding)

/-- Whether the blocks that a value holds nest no deeper than `k`. -/
def Reaches (levels : List Nat) (k : Nat) (v : Value) : Prop :=
  v.Every (Value.Within G.table levels k)

/-- Whether scopes have these levels. -/
structure ScopesHold (levels : List Nat) (scopes : Scopes) : Prop where
  /-- There is a level for each scope. -/
  size : scopes.all.size = levels.length
  /-- It bounds how deep the variables of the scope nest blocks, and the level of the scope around
  it. -/
  bound : ∀ (id : ScopeId) (scope : Scope) (level : Nat), scopes.all[id]? = some scope →
    levels[id]? = some level → (∀ b ∈ scope.own, G.Reaches levels (level + 1) b.2) ∧
      ∀ outer, scope.parent = some outer → ∃ around ≤ level, levels[outer]? = some around

/-- Whether the scopes of a state have these levels. -/
structure Sound (levels : List Nat) (s : BuildState) : Prop where
  /-- The commands are the ones given. -/
  commands : s.commands = G.table
  /-- So are the command words. -/
  words : s.wordTable = G.table
  /-- No template that is out of date is kept. -/
  cache : Workshop.Invariant G.env.settings.compiler ⟨G.table, s.cache⟩
  /-- Streams have nothing left. -/
  streams : ∀ id, s.streams.take? id = none
  /-- The scopes have these levels. -/
  scopes : G.ScopesHold levels s.scopes
  /-- The scope of the parameters has the lowest level. -/
  root : levels[G.env.rootScope]? = some 0

/-- What a step comes to: a value, with levels for the scopes that were made meanwhile, or a fault
other than that there is no room for a block. -/
inductive Outcome (levels : List Nat) {α : Type} (Q : List Nat → α → Prop) :
    Except Fault α × BuildState → Prop where
  | ok {levels' : List Nat} {a : α} {s : BuildState} : levels <+: levels' → G.Sound levels' s →
      Q levels' a → Outcome levels Q (.ok a, s)
  | error {fault : Fault} {s : BuildState} : fault ≠ .exhausted →
      Outcome levels Q (.error fault, s)

/-- Whether a step that begins where the scopes have these levels comes to such a value, or fails
otherwise than for want of room. -/
def Ends (levels : List Nat) {α : Type} (Q : List Nat → α → Prop) (m : Build α) : Prop :=
  ∀ s, G.Sound levels s → G.Outcome levels Q (m s)

variable {G} {levels levels' : List Nat} {k k' : Nat} {s s' : BuildState}

theorem Reaches.mono {v : Value} (h : G.Reaches levels k v) (hlevels : levels <+: levels')
    (hk : k ≤ k') : G.Reaches levels' k' v :=
  Value.Every.mono (fun _ hw => hw.mono hlevels hk) h

theorem reaches_mono {vs : List Value} (h : ∀ v ∈ vs, G.Reaches levels k v)
    (hlevels : levels <+: levels') (hk : k ≤ k') : ∀ v ∈ vs, G.Reaches levels' k' v :=
  fun v hv => (h v hv).mono hlevels hk

/-- What is not made of other values and is no content holds no block. -/
theorem reaches_of_plain {v : Value} (simple : v.isCompound = false)
    (hcontent : v.isContentBlock = false) : G.Reaches levels k v :=
  .leaf simple (Value.within_of_not_content hcontent)

/-- Counts, reports, bindings, the log and the depth do not matter. -/
theorem Sound.of_eq (h : G.Sound levels s) (hcommands : s'.commands = s.commands)
    (hwords : s'.words = s.words) (hcache : s'.cache = s.cache)
    (hstreams : s'.streams = s.streams) (hscopes : s'.scopes = s.scopes) : G.Sound levels s' where
  commands := hcommands.trans h.commands
  words := by
    rw [BuildState.wordTable, hwords, hcommands]
    exact h.words
  cache := hcache ▸ h.cache
  streams := hstreams ▸ h.streams
  scopes := hscopes ▸ h.scopes
  root := h.root

/-- What a scope sees nests blocks no deeper than one more than its level. -/
theorem ScopesHold.of_chain {scopes : Scopes} (h : G.ScopesHold levels scopes) {id : ScopeId}
    {level : Nat} (hlevel : levels[id]? = some level) {own : List (String × Value)}
    (hown : own ∈ scopes.chain id) : ∀ b ∈ own, G.Reaches levels (level + 1) b.2 := by
  induction id using Nat.strongRecOn generalizing level with
  | ind id ih =>
    rw [Scopes.chain] at hown
    cases hscope : scopes.all[id]? with
    | none =>
      rw [hscope] at hown
      cases hown
    | some scope =>
      obtain ⟨hvars, houter⟩ := h.bound id scope level hscope hlevel
      rw [hscope] at hown
      rcases List.mem_cons.mp hown with rfl | hown
      · exact hvars
      · split at hown
        · cases hown
        · rename_i outer hparent
          split at hown
          · rename_i hlt
            obtain ⟨around, hle, haround⟩ := houter outer hparent
            intro b hb
            exact (ih outer hlt haround hown b hb).mono (List.prefix_refl _)
              (Nat.succ_le_succ hle)
          · cases hown

theorem ScopesHold.of_lookup? {scopes : Scopes} (h : G.ScopesHold levels scopes) {id : ScopeId}
    {level : Nat} (hlevel : levels[id]? = some level) {name : String} {v : Value}
    (hv : scopes.lookup? id name = some v) : G.Reaches levels (level + 1) v := by
  rcases Option.or_eq_some_iff.mp hv with hconstant | ⟨-, hfound⟩
  · unfold constant? at hconstant
    split at hconstant <;> cases hconstant <;> exact reaches_of_plain rfl rfl
  · obtain ⟨own, hown, hget⟩ := List.exists_of_findSome?_eq_some hfound
    exact h.of_chain hlevel hown _ (Fields.mem_of_get? hget)

/-- A new scope is given a level that is high enough for its variables and for the scope around it.
-/
theorem ScopesHold.add {scopes scopes' : Scopes} (h : G.ScopesHold levels scopes) {level : Nat}
    {vars : List (String × Value)} (hvars : ∀ b ∈ vars, G.Reaches levels (level + 1) b.2)
    {parent : Option ScopeId}
    (hparent : ∀ outer, parent = some outer → ∃ around ≤ level, levels[outer]? = some around)
    {id : ScopeId} (hadd : scopes.add parent vars = .ok (id, scopes')) :
    G.ScopesHold (levels ++ [level]) scopes' ∧ (levels ++ [level])[id]? = some level := by
  have hmore : levels <+: levels ++ [level] := List.prefix_append _ _
  have hgiven : ∀ b ∈ Fields.ofList vars, G.Reaches (levels ++ [level]) (level + 1) b.2 :=
    fun b hb => (hvars b (Fields.mem_of_mem_ofList hb)).mono hmore (Nat.le_refl _)
  unfold Scopes.add Scopes.ownOf at hadd
  rcases Scopes.define_foldlM (List.forall_mem_nil _) hgiven with
    ⟨own, hdefined, hown⟩ | ⟨hfails, -⟩
  · rw [hdefined] at hadd
    cases hadd
    refine ⟨⟨?_, fun id scope bound hscope hbound => ?_⟩, ?_⟩
    · rw [Array.size_push, h.size, List.length_append, List.length_singleton]
    · rw [Array.getElem?_push] at hscope
      split at hscope
      · rename_i hlast
        cases hscope
        rw [hlast, h.size, List.getElem?_concat_length] at hbound
        cases hbound
        refine ⟨hown, fun outer houter => ?_⟩
        obtain ⟨around, hle, haround⟩ := hparent outer houter
        exact ⟨around, hle, getElem?_of_prefixed hmore haround⟩
      · have hlt : id < levels.length := h.size ▸ (Array.getElem?_eq_some_iff.mp hscope).1
        rw [List.getElem?_append_left hlt] at hbound
        obtain ⟨hold, houter⟩ := h.bound id scope bound hscope hbound
        refine ⟨fun b hb => (hold b hb).mono hmore (Nat.le_refl _), fun outer hpar => ?_⟩
        obtain ⟨around, hle, haround⟩ := houter outer hpar
        exact ⟨around, hle, getElem?_of_prefixed hmore haround⟩
    · rw [h.size, List.getElem?_concat_length]
  · rw [hfails] at hadd
    cases hadd

/-! ## Steps put together -/

namespace Ends

variable {α β : Type} {Q : List Nat → α → Prop} {Q' : List Nat → β → Prop} {m : Build α}
  {f : α → Build β}

/-- Such a step does not fail for want of room. -/
theorem not_exhausted (h : G.Ends levels Q m) (hs : G.Sound levels s) :
    (m s).1 ≠ .error .exhausted := by
  have hm := h s hs
  intro hexhausted
  rcases hrun : m s with ⟨r, s₁⟩
  rw [hrun] at hm hexhausted
  cases hm with
  | ok => cases hexhausted
  | error hfault =>
    cases hexhausted
    exact hfault rfl

theorem pure {a : α} (h : Q levels a) : G.Ends levels Q (pure a) :=
  fun _ hs => .ok (List.prefix_refl _) hs h

theorem fail {fault : Fault} (h : fault ≠ .exhausted) : G.Ends levels Q (Build.fail fault) :=
  fun _ _ => .error h

/-- What can fail without changing the build. -/
theorem lift {r : Except Fault α} (hok : ∀ a, r = .ok a → Q levels a)
    (herror : ∀ fault, r = .error fault → fault ≠ .exhausted) :
    G.Ends levels Q (Build.lift r) := by
  cases r with
  | ok a => exact pure (hok a rfl)
  | error fault => exact fail (herror fault rfl)

theorem read {g : BuildState → α} (h : ∀ s, G.Sound levels s → Q levels (g s)) :
    G.Ends levels Q (Build.read g) :=
  fun s hs => .ok (List.prefix_refl _) hs (h s hs)

theorem read_any {g : BuildState → α} : G.Ends levels (fun _ _ => True) (Build.read g) :=
  read fun _ _ => trivial

theorem change {g : BuildState → BuildState} (h : ∀ s, G.Sound levels s → G.Sound levels (g s)) :
    G.Ends levels (fun _ _ => True) (Build.change g) :=
  fun s hs => .ok (List.prefix_refl _) (h s hs) trivial

/-- Less may be said of what a step comes to. -/
theorem mono {P : List Nat → α → Prop} (h : G.Ends levels Q m)
    (hQ : ∀ levels' a, levels <+: levels' → Q levels' a → P levels' a) : G.Ends levels P m := by
  intro s hs
  have hm := h s hs
  rcases hrun : m s with ⟨r, s₁⟩
  rw [hrun] at hm
  cases hm with
  | ok hlevels hs' ha => exact .ok hlevels hs' (hQ _ _ hlevels ha)
  | error hfault => exact .error hfault

/-- **Two steps one after the other.** -/
theorem bind (h : G.Ends levels Q m)
    (hf : ∀ levels' a, levels <+: levels' → Q levels' a → G.Ends levels' Q' (f a)) :
    G.Ends levels Q' (m >>= f) := by
  intro s hs
  have hm := h s hs
  rcases hrun : m s with ⟨r, s₁⟩
  rw [hrun] at hm
  rw [Build.bind_apply, hrun]
  cases hm with
  | error hfault => exact .error hfault
  | @ok levels₁ a _ hlevels hs₁ ha =>
    have hrest := hf levels₁ a hlevels ha s₁ hs₁
    dsimp only
    rcases hrun' : f a s₁ with ⟨r', s₂⟩
    rw [hrun'] at hrest
    cases hrest with
    | ok hlevels' hs' hb => exact .ok (hlevels.trans hlevels') hs' hb
    | error hfault => exact .error hfault

/-- A step one element deeper. -/
theorem deeper (h : G.Ends levels Q m) : G.Ends levels Q (Build.deeper m) := by
  intro s hs
  have hm := h { s with depth := s.depth + 1 } (hs.of_eq rfl rfl rfl rfl rfl)
  rcases hrun : m { s with depth := s.depth + 1 } with ⟨r, s₁⟩
  rw [hrun] at hm
  rw [Build.deeper_of_eq hrun]
  cases hm with
  | ok hlevels hs' ha => exact .ok hlevels (hs'.of_eq rfl rfl rfl rfl rfl) ha
  | error hfault => exact .error hfault

/-- A row of steps, one for each item. -/
theorem foldlM {step : α → β → Build α} {items : List β}
    (h : ∀ levels' a b, levels <+: levels' → b ∈ items →
      G.Ends levels' (fun _ _ => True) (step a b)) (a : α) :
    G.Ends levels (fun _ _ => True) (items.foldlM step a) := by
  induction items generalizing levels a with
  | nil => exact pure trivial
  | cons b items ih =>
    rw [List.foldlM_cons]
    have hfirst := h levels a b (List.prefix_refl _) List.mem_cons_self
    refine bind hfirst fun levels₁ a' hlevels _ => ?_
    exact ih (fun levels₂ a c hlevels' hc =>
      h levels₂ a c (hlevels.trans hlevels') (List.mem_cons_of_mem b hc)) a'

/-! ## Notes and readings -/

theorem record (logger : Logger) (level : LogLevel) (message : String)
    (extra : List (String × Json)) :
    G.Ends levels (fun _ _ => True) (Build.record logger level message extra) :=
  change fun _ hs => hs.of_eq rfl rfl rfl rfl rfl

theorem count (f : Metrics → Metrics) : G.Ends levels (fun _ _ => True) (Build.count f) :=
  change fun _ hs => hs.of_eq rfl rfl rfl rfl rfl

theorem report (d : Diagnostic) : G.Ends levels (fun _ _ => True) (Build.report d) :=
  change fun _ hs => hs.of_eq rfl rfl rfl rfl rfl

theorem warn (logMessage : String) (logFields : List (String × Json)) (message : String)
    (code : DiagnosticCode) (details : List (String × Json)) :
    G.Ends levels (fun _ _ => True)
      (Build.warn G.env logMessage logFields message code details) :=
  bind (record _ _ _ _) fun _ _ _ _ => report _

theorem malformed (tag : QName) (problem : ArgumentProblem) (value : String) :
    G.Ends levels (fun _ _ => True) (Build.malformed G.env tag problem value) := by
  unfold Build.malformed
  split
  · exact fail nofun
  · exact warn _ _ _ _ _

/-- The value of a variable. -/
theorem lookup {scope : ScopeId} {level : Nat} (hlevel : levels[scope]? = some level)
    (name : String) (pos : Position) :
    G.Ends levels (fun levels v => G.Reaches levels (level + 1) v)
      (Build.lookup G.env scope name pos) := by
  have hread : G.Ends levels (fun levels v? => ∀ v, v? = some v → G.Reaches levels (level + 1) v)
      (Build.read fun s => s.scopes.lookup? scope name) :=
    read fun s hs v hv => hs.scopes.of_lookup? hlevel hv
  unfold Build.lookup
  refine hread.bind fun _ v? _ hv => ?_
  cases v? with
  | some v => exact pure (hv v rfl)
  | none =>
    dsimp only
    split
    · exact fail nofun
    · refine bind (record _ _ _ _) fun _ _ _ _ => bind (report _) fun _ _ _ _ => ?_
      exact pure (reaches_of_plain rfl rfl)

/-! ## Changes -/

/-- A new scope gets a level. -/
theorem newScope {parent : ScopeId} {around level : Nat} (hparent : levels[parent]? = some around)
    (hle : around ≤ level) {vars : List (String × Value)}
    (hvars : ∀ b ∈ vars, G.Reaches levels (level + 1) b.2) :
    G.Ends levels (fun levels id => levels[id]? = some level) (Build.newScope parent vars) := by
  intro s hs
  rw [Build.newScope_apply]
  cases hadd : s.scopes.add (some parent) vars with
  | ok added =>
    obtain ⟨id, scopes⟩ := added
    obtain ⟨hscopes, hlevel⟩ := hs.scopes.add hvars
      (fun outer houter => ⟨around, hle, Option.some.inj houter ▸ hparent⟩) hadd
    have hmore : levels <+: levels ++ [level] := List.prefix_append _ _
    refine .ok hmore ?_ hlevel
    exact ⟨hs.commands, hs.words, hs.cache, hs.streams, hscopes, getElem?_of_prefixed hmore hs.root⟩
  | error fault =>
    rw [Scopes.add_error hadd]
    exact .error nofun

theorem bindPrefix (tag : QName) (pfx uri : String) :
    G.Ends levels (fun _ _ => True) (Build.bindPrefix G.env tag pfx uri) := by
  intro s hs
  rw [Build.bindPrefix, Build.read_bind]
  rcases s.registry.add_cases pfx uri with ⟨created, registry, hadd⟩ | ⟨known, -, -, hadd⟩ | hadd
  · rw [hadd]
    exact .ok (List.prefix_refl _) (hs.of_eq rfl rfl rfl rfl rfl) trivial
  · rw [hadd]
    dsimp only
    split
    · exact .error Fault.noConfusion
    · exact warn _ _ _ _ _ s hs
  · rw [hadd]
    exact .error Fault.noConfusion

/-- Nothing is left in streams. -/
theorem nextChunk (id : StreamId) :
    G.Ends levels (fun _ chunk => chunk = none) (Build.nextChunk id) := by
  intro s hs
  unfold Build.nextChunk
  rw [hs.streams id]
  exact .ok (List.prefix_refl _) hs rfl

end Ends

/-! ## Templates -/

namespace Ends

/-- **The statements of a template are guarded**, and its blocks need no more room than there are
braces in its text. -/
theorem template {source : String} (hsource : Guarded G.table source) :
    G.Ends levels (fun _ t => Statement.GuardedAll G.table (Script.ofTemplate t) ∧
      roomOf (Statement.groupTextsOfAll (Script.ofTemplate t)) ≤ braceCount source)
      (Build.template G.env source) := by
  intro s hs
  have hkept := hs.cache.step (.compile source s.registry)
  unfold Build.template
  rw [Build.compilerHost_eq, hs.words]
  dsimp only
  split
  · rename_i houtcome
    obtain ⟨hmade, -⟩ := hs.cache.holds.unresolvedWords_of_ok houtcome
    refine .ok (List.prefix_refl _)
      ⟨hs.commands, hs.words, hkept, hs.streams, hs.scopes, hs.root⟩ ?_
    exact ⟨hsource.statements_ofTemplate G.word G.constructs hmade,
      roomOf_ofTemplate_le G.word hmade⟩
  · rename_i houtcome
    exact .error (Cache.compile_error houtcome)

end Ends

end Guarding

end TagScript
