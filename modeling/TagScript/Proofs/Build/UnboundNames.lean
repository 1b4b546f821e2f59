import TagScript.Proofs.Build.Telling

/-!
# Names with an unbound prefix

Where all names come from the texts of blocks and elements are named by words, every name that kept
an unbound prefix was reported: an element word when its text was made ready, an attribute name when
the attribute was made. A name that is the argument of the constructor, or is cast, is resolved
without a report.

* `Wording.invoke` — a call of the constructor tells of its element.
* **`Telling.statement`**, **`Telling.engine`** — so do statements, and blocks however deep they are
  nested.
* `NamedInText` — what a document is built from whose names stand in texts.
* **`unbound_names_reported`** — in the document every name that kept an unbound prefix was
  reported.
* `unbound_name_unreported` — the argument of the constructor is not.
-/

namespace TagScript

open Wording

namespace Telling

variable {W : Wording} {D : List Diagnostic}

/-! ## Commands -/

/-- What holds of the value that a step comes to in any case. -/
theorem and_of_run {α : Type} {Q : List Diagnostic → α → Prop} {P : α → Prop} {m : Build α}
    (h : W.Tells D Q m) (hP : ∀ s a s', m s = (.ok a, s') → P a) :
    W.Tells D (fun D a => Q D a ∧ P a) m := by
  intro s a s' hs hD hrun
  obtain ⟨hs', hreports, ha⟩ := h s a s' hs hD hrun
  exact ⟨hs', hreports, ha, hP s a s' hrun⟩

theorem newNamespace (i : Build.Invocation) :
    W.Tells D (fun D v => W.Holds D v) (Build.newNamespace i) := by
  unfold Build.newNamespace
  split
  · exact .fail
  · refine .lift fun v hv D₁ _ => ?_
    obtain ⟨n, -, rfl⟩ := exists_of_map_ok hv
    exact holds_of_harmless rfl trivial
  · exact .fail

theorem spreadLists {args : List Value} (hargs : ∀ v ∈ args, W.Holds D v) :
    ∀ v ∈ Build.spreadLists args, W.Holds D v := by
  intro v hv
  unfold Build.spreadLists at hv
  obtain ⟨arg, harg, hmem⟩ := List.mem_flatMap.mp hv
  split at hmem
  · exact (hargs _ harg).of_list v hmem
  · rw [List.mem_singleton.mp hmem]
    exact hargs arg harg

variable {E : Engine} (hE : W.Powers E)
include hE

theorem newElement {i : Build.Invocation} (hargs : ∀ v ∈ i.args, W.Holds D v) {text : String}
    {rest : List Value} (hfirst : i.args = .str text :: rest) (hsafe : Safe D text) :
    W.Tells D (fun D v => W.Holds D v) (Build.newElement E W.env i) := by
  rw [hfirst] at hargs
  unfold Build.newElement
  rw [hfirst]
  have hrest := spreadLists (List.forall_mem_cons.mp hargs).2
  exact .bind (element hE hsafe hrest) fun _ e _ he => .pure fun _ hD => .leaf rfl (he.mono hD)

theorem forEach {block : Value} (hblock : W.Holds D block) (scope : ScopeId)
    {items : List Value} (hitems : ∀ v ∈ items, W.Holds D v) :
    W.Tells D (fun D vs => ∀ v ∈ vs, W.Holds D v) (Build.forEach E block scope items) := by
  induction items generalizing D with
  | nil => exact .pure fun _ _ => List.forall_mem_nil _
  | cons item items ih =>
    obtain ⟨hitem, hitems⟩ := List.forall_mem_cons.mp hitems
    have hvars : ∀ b ∈ [("_", item)], W.Holds D b.2 := List.forall_mem_singleton.mpr hitem
    refine .bind (hE.run D block _ scope hblock hvars) fun D₁ first hD hfirst => ?_
    refine .bind (ih (hblock.mono hD) (holds_mono hitems hD)) fun D₂ more hD₁ hmore => ?_
    exact .pure fun D₃ hD₂ => List.forall_mem_append.mpr
      ⟨holds_mono (holds_mono hfirst hD₁) hD₂, holds_mono hmore hD₂⟩

theorem forEachItem {i : Build.Invocation} (hargs : ∀ v ∈ i.args, W.Holds D v) :
    W.Tells D (fun D v => W.Holds D v) (Build.forEachItem E i) := by
  unfold Build.forEachItem
  split
  · rename_i items block heq
    rw [heq] at hargs
    split
    · have hitems : W.Holds D items := hargs items List.mem_cons_self
      have hblock : W.Holds D block := hargs block (List.mem_cons_of_mem _ List.mem_cons_self)
      exact .bind (forEach hE hblock i.scope hitems.items) fun _ vs _ hvs => .pure fun _ hD =>
        .list (holds_mono hvs hD)
    · exact .fail
  · exact .fail

/-- **Invoking a command tells of what it yields**, if the constructor is given a safe text. -/
theorem invoke {i : Build.Invocation} (hargs : ∀ v ∈ i.args, W.Holds D v)
    (hfirst : ∀ c, W.table.lookup i.name = .ok c → c.action = .acting .newElement →
      ∃ text rest, i.args = .str text :: rest ∧ Safe D text) :
    W.Tells D (fun D v => W.Holds D v) (Build.invoke E W.env i) := by
  have hread : W.Tells D (fun _ r => r = W.table.lookup i.name)
      (Build.read fun s => s.commands.lookup i.name) :=
    .read fun s hs _ => by rw [hs.commands]
  unfold Build.invoke
  refine hread.bind fun D₁ r hD hr => ?_
  subst hr
  have hlift : W.Tells D₁ (fun _ c => W.table.lookup i.name = .ok c)
      (Build.lift (W.table.lookup i.name)) := .lift fun c hc _ _ => hc
  refine hlift.bind fun D₂ c hD₁ hlookup => ?_
  have hargs₂ := holds_mono (holds_mono hargs hD) hD₁
  obtain ⟨entry, hentry, hcommand⟩ := CommandTable.exists_mem_of_lookup hlookup
  obtain ⟨clock, hbuiltin⟩ := W.builtin entry hentry
  rw [hcommand] at hbuiltin
  unfold Build.perform
  rcases Command.builtins_cases hbuiltin with haction | haction | haction | ⟨f, haction, hf⟩
  · obtain ⟨text, rest, heq, hsafe⟩ := hfirst c hlookup haction
    rw [haction]
    exact newElement hE hargs₂ heq ((hsafe.mono hD).mono hD₁)
  · rw [haction]
    exact newNamespace i
  · rw [haction]
    exact forEachItem hE hargs₂
  · rw [haction]
    refine .lift fun v hv D₃ hD₂ => ?_
    unfold Command.applyPlain at hv
    rcases hf i.args with hlist | ⟨s, hs⟩ | ⟨problem, hproblem⟩
    · rw [hlist] at hv
      cases hv
      exact .list (holds_mono hargs₂ hD₂)
    · rw [hs] at hv
      cases hv
      exact holds_of_harmless rfl trivial
    · rw [hproblem] at hv
      cases hv

/-! ## Statements -/

omit hE in
theorem interpolate (scope : ScopeId) (pos : Position) (parts : List StringPart) :
    W.Tells D (fun _ _ => True) (Build.interpolate W.env scope pos parts) := by
  induction parts generalizing D with
  | nil => exact .pure fun _ _ => trivial
  | cons part parts ih =>
    match part with
    | .char c => exact .bind ih fun _ _ _ _ => .pure fun _ _ => trivial
    | .variable name =>
      exact .bind (lookup scope name pos) fun _ _ _ _ => .bind ih fun _ _ _ _ =>
        .pure fun _ _ => trivial
    | .unterminated => exact .fail

omit hE in
/-- The members of a value that holds told names hold told names. -/
theorem readPath {v : Value} (hv : W.Holds D v) (members : List String) :
    W.Tells D (fun D v => W.Holds D v) (Build.read fun s => v.path s.scopes.parent? members) :=
  .read fun _ _ hD => Value.keepsMembers_tame.every_path (fun _ _ _ _ => trivial) (hv.mono hD) _

omit hE in
theorem castValue {type : Token} (htype : Cast.ofName? (Build.castType type) ≠ some .name)
    {v : Value} (hv : W.Holds D v) (registry : Registry) :
    W.Tells D (fun D v => W.Holds D v) (Build.lift (Build.castValue registry type v)) :=
  .lift fun _ hw _ hD => Build.every_castValue Value.keepsMembers_tame (hv.mono hD)
    (fun hname => absurd hname htype) hw

omit hE in
theorem joined {vs : List Value} (hvs : ∀ v ∈ vs, W.Holds D v) : W.Holds D (Build.joined vs) := by
  unfold Build.joined
  split
  · exact hvs _ (List.mem_singleton_self _)
  · exact .list hvs

omit hE in
theorem unwrapped {vs : List Value} (hvs : ∀ v ∈ vs, W.Holds D v) :
    W.Holds D (Build.unwrapped vs) := by
  unfold Build.unwrapped
  split
  · exact holds_of_harmless rfl trivial
  · exact hvs _ (List.mem_singleton_self _)
  · exact .list hvs

omit hE in
/-- A constant that stands first among the operands is the first value. -/
theorem rows_constant {E : Engine} {env : BuildEnv} {scope : ScopeId} {v : Value}
    {more : List (List Operand)} {s s' : BuildState} {args : List Value}
    (h : Build.rows E env scope ([.constant v] :: more) s = (.ok args, s')) :
    ∃ rest, args = v :: rest := by
  have hrows : Build.rows E env scope ([.constant v] :: more) =
      (Build.rows E env scope more >>= fun rest => pure (v :: rest)) := by
    simp [Build.rows, Build.operands, Build.operand, Build.joined]
  rw [hrows] at h
  obtain ⟨rest, s₁, -, hend⟩ := Build.exists_of_bind_ok h
  cases hend
  exact ⟨rest, rfl⟩

/-- Operands, their rows, statements and rows of statements. -/
theorem operand_and_statement {safe : String → Prop} (scope : ScopeId) :
    (∀ o, ∀ {D}, (∀ text, safe text → Safe D text) → o.Spells W.table safe →
        W.Tells D (fun D v => W.Holds D v) (Build.operand E W.env scope o)) ∧
      (∀ ss, ∀ {D}, (∀ text, safe text → Safe D text) → Statement.SpellsAll W.table safe ss →
        W.Tells D (fun D vs => ∀ v ∈ vs, W.Holds D v) (Build.statements E W.env scope ss)) ∧
      (∀ s, ∀ {D}, (∀ text, safe text → Safe D text) → s.Spells W.table safe →
        W.Tells D (fun D vs => ∀ v ∈ vs, W.Holds D v) (Build.statement E W.env scope s)) ∧
      (∀ rows, ∀ {D}, (∀ text, safe text → Safe D text) → Operand.SpellsRows W.table safe rows →
        W.Tells D (fun D vs => ∀ v ∈ vs, W.Holds D v) (Build.rows E W.env scope rows)) ∧
      ∀ os, ∀ {D}, (∀ text, safe text → Safe D text) → Operand.SpellsRow W.table safe os →
        W.Tells D (fun D vs => ∀ v ∈ vs, W.Holds D v) (Build.operands E W.env scope os) := by
  have hlater {D D₁ : List Diagnostic} (hsafe : ∀ text, safe text → Safe D text) (hD : D ⊆ D₁) :
      ∀ text, safe text → Safe D₁ text := fun text htext => (hsafe text htext).mono hD
  apply Build.operand.mutual_induct
  case case1 =>
    intro v D _ hv
    rw [Build.operand]
    exact .pure fun _ _ => holds_of_harmless hv.1 hv.2
  case case2 =>
    intro parts pos D _ _
    rw [Build.operand]
    exact .bind (interpolate scope pos parts) fun _ _ _ _ => .pure fun _ _ =>
      holds_of_harmless rfl trivial
  case case3 =>
    intro name members pos D _ _
    rw [Build.operand]
    exact .bind (lookup scope name pos) fun _ v _ hv => readPath hv members
  case case4 =>
    intro source line D _ hsource
    rw [Build.operand]
    exact .pure fun _ _ => .leaf rfl hsource
  case case5 =>
    intro body ih D hsafe hbody
    rw [Build.operand]
    exact .bind (ih hsafe hbody) fun _ vs _ hvs => .pure fun _ hD => unwrapped (holds_mono hvs hD)
  case case6 =>
    intro type o ih D hsafe ho
    rw [Build.operand]
    refine .bind (ih hsafe ho.2) fun D₁ v _ hv => ?_
    have hread : W.Tells D₁ (fun _ _ => True) (Build.read (·.registry)) :=
      .read fun _ _ _ => trivial
    exact hread.bind fun _ registry hD _ => castValue ho.1 (hv.mono hD) registry
  case case7 =>
    intro fault D _ _
    rw [Build.operand]
    exact .fail
  case case8 =>
    intro command rows ih D hsafe hs
    rw [Build.statement]
    have hargs := and_of_run (P := fun args : List Value => ∀ text more,
      rows = [.constant (.str text)] :: more → ∃ rest, args = .str text :: rest) (ih hsafe hs.2)
      fun s args s' hrun text more heq => rows_constant (heq ▸ hrun)
    refine hargs.bind fun D₁ args hD hargs => ?_
    cases command with
    | some name =>
      refine .bind (invoke hE hargs.1 fun c hlookup haction => ?_) fun _ v _ hv =>
        .pure fun _ hD₁ => holds_mono hv.spread hD₁
      obtain ⟨text, more, hrows, htext⟩ := hs.1 name c rfl hlookup haction
      obtain ⟨rest, hrest⟩ := hargs.2 text more hrows
      exact ⟨text, rest, hrest, (hsafe text htext).mono hD⟩
    | none => exact .pure fun _ hD₁ => Value.Every.spreadAll (holds_mono hargs.1 hD₁)
  case case9 =>
    intro D _ _
    rw [Build.statements]
    exact .pure fun _ _ => List.forall_mem_nil _
  case case10 =>
    intro s ss ihs ihss D hsafe hspells
    rw [Build.statements]
    refine .bind (ihs hsafe hspells.1) fun D₁ vs hD hvs => ?_
    refine .bind (ihss (hlater hsafe hD) hspells.2) fun D₂ rest hD₁ hrest => .pure fun D₃ hD₂ => ?_
    exact List.forall_mem_append.mpr
      ⟨holds_mono (holds_mono hvs hD₁) hD₂, holds_mono hrest hD₂⟩
  case case11 =>
    intro D _ _
    rw [Build.rows]
    exact .pure fun _ _ => List.forall_mem_nil _
  case case12 =>
    intro row more ihrow ihmore D hsafe hspells
    rw [Build.rows]
    refine .bind (ihrow hsafe hspells.1) fun D₁ vs hD hvs => ?_
    refine .bind (ihmore (hlater hsafe hD) hspells.2) fun D₂ rest hD₁ hrest => ?_
    refine .pure fun D₃ hD₂ => ?_
    exact List.forall_mem_cons.mpr
      ⟨((joined hvs).mono hD₁).mono hD₂, holds_mono hrest hD₂⟩
  case case13 =>
    intro D _ _
    rw [Build.operands]
    exact .pure fun _ _ => List.forall_mem_nil _
  case case14 =>
    intro o os iho ihos D hsafe hspells
    rw [Build.operands]
    refine .bind (iho hsafe hspells.1) fun D₁ v hD hv => ?_
    refine .bind (ihos (hlater hsafe hD) hspells.2) fun D₂ vs hD₁ hvs => .pure fun D₃ hD₂ => ?_
    exact List.forall_mem_cons.mpr ⟨(hv.mono hD₁).mono hD₂, holds_mono hvs hD₂⟩

/-- **Running a statement tells of what it yields.** -/
theorem statement {safe : String → Prop} (hsafe : ∀ text, safe text → Safe D text)
    (scope : ScopeId) {s : Statement} (hs : s.Spells W.table safe) :
    W.Tells D (fun D vs => ∀ v ∈ vs, W.Holds D v) (Build.statement E W.env scope s) :=
  (operand_and_statement hE scope).2.2.1 s hsafe hs

/-! ## Blocks -/

/-- Whether a block can do in one go what tells of its values. -/
def TaskTells (W : Wording) (D : List Diagnostic) : Task → Prop
  | .statement s => ∃ safe : String → Prop, (∀ text, safe text → Safe D text) ∧
    s.Spells W.table safe
  | .routine .. => False
  | .operation _ => True

omit hE in
theorem TaskTells.mono {D D' : List Diagnostic} {t : Task} (h : TaskTells W D t) (hD : D ⊆ D') :
    TaskTells W D' t := by
  cases t with
  | statement s =>
    obtain ⟨safe, hsafe, hs⟩ := h
    exact ⟨safe, fun text htext => (hsafe text htext).mono hD, hs⟩
  | routine mode steps => exact h.elim
  | operation o => trivial

theorem task (scope : ScopeId) {t : Task} (ht : TaskTells W D t) :
    W.Tells D (fun D vs => ∀ v ∈ vs, W.Holds D v) (Build.task E W.env scope t) := by
  cases t with
  | statement s =>
    obtain ⟨safe, hsafe, hs⟩ := ht
    exact statement hE hsafe scope hs
  | routine mode steps => exact ht.elim
  | operation o =>
    refine .lift fun vs hvs D₁ _ => ?_
    obtain ⟨result, -, rfl⟩ := exists_of_map_ok hvs
    exact (Value.keepsMembers_tame.every_ofJson result).spread

omit hE in
theorem taskTells {ss : List Statement} (hss : Statement.SpellsAll W.table (Safe D) ss) :
    ∀ t ∈ ss.map Task.statement, TaskTells W D t := by
  intro t ht
  obtain ⟨s, hs, rfl⟩ := List.mem_map.mp ht
  exact ⟨Safe D, fun _ => id, Statement.spellsAll_iff.mp hss s hs⟩

omit hE in
/-- A block is made ready to do what tells of its values. -/
theorem start {block : Value} (hblock : W.Holds D block) {vars : List (String × Value)}
    (hvars : ∀ b ∈ vars, W.Holds D b.2) (outer : ScopeId) :
    W.Tells D (fun D c => ∀ t ∈ c.tasks, TaskTells W D t)
      (Build.start W.env block vars outer) := by
  unfold Build.start
  split
  · rename_i b
    have hsource : NamedByWords W.table b.source := hblock.holds_of_leaf rfl
    refine .bind (template hsource) fun D₁ t hD ht => ?_
    have hvars₁ : ∀ b ∈ vars, W.Holds D₁ b.2 := fun b hb => (hvars b hb).mono hD
    exact .bind (newScope _ hvars₁) fun D₂ _ hD₁ _ => .pure fun D₃ hD₂ u hu =>
      ((taskTells ht u hu).mono hD₁).mono hD₂
  · exact (hblock.holds_of_leaf rfl).elim
  · exact hblock.of_routine.1.elim
  · exact .bind (newScope _ hvars) fun _ _ _ _ => .pure fun _ _ =>
      List.forall_mem_singleton.mpr trivial
  · exact .fail

/-- The induction is on the tasks: before each of them the reports have grown, and what the others
do and what was consumed so far is told of by the reports all the same. -/
theorem drain {σ : Type} {Q : List Diagnostic → σ → Prop}
    (hQ : ∀ D D' acc, D ⊆ D' → Q D acc → Q D' acc) {consume : σ → List Value → Build σ}
    (hconsume : ∀ D acc vs, Q D acc → (∀ v ∈ vs, W.Holds D v) → W.Tells D Q (consume acc vs))
    (scope : ScopeId) (kind : String) {tasks : List Task} (htasks : ∀ t ∈ tasks, TaskTells W D t)
    (yielded : Nat) {acc : σ} (hacc : Q D acc) :
    W.Tells D Q (Build.drain E W.env scope kind consume tasks yielded acc) := by
  induction tasks generalizing D yielded acc with
  | nil =>
    exact .bind (noteBlock kind yielded) fun _ _ hD _ => .pure fun _ hD₁ =>
      hQ _ _ acc hD₁ (hQ _ _ acc hD hacc)
  | cons t tasks ih =>
    obtain ⟨ht, htasks⟩ := List.forall_mem_cons.mp htasks
    refine .bind (task hE scope ht) fun D₁ vs hD hvs => ?_
    refine .bind (hconsume D₁ acc vs (hQ _ _ acc hD hacc) hvs) fun D₂ acc₂ hD₁ hacc₂ => ?_
    exact ih (fun u hu => ((htasks u hu).mono hD).mono hD₁) _ hacc₂

/-- **Running a block tells of what comes of its values**, if the consumer does. -/
theorem chunks {σ : Type} {Q : List Diagnostic → σ → Prop}
    (hQ : ∀ D D' acc, D ⊆ D' → Q D acc → Q D' acc) {consume : σ → List Value → Build σ}
    (hconsume : ∀ D acc vs, Q D acc → (∀ v ∈ vs, W.Holds D v) → W.Tells D Q (consume acc vs))
    {block : Value} (hblock : W.Holds D block) {vars : List (String × Value)}
    (hvars : ∀ b ∈ vars, W.Holds D b.2) (outer : ScopeId) {acc : σ} (hacc : Q D acc) :
    W.Tells D Q (Build.chunks E W.env block vars outer consume acc) :=
  .bind (start hblock hvars outer) fun _ c hD hc =>
    drain hE hQ hconsume c.scope c.kind hc c.yielded (hQ _ _ acc hD hacc)

theorem run {block : Value} (hblock : W.Holds D block) {vars : List (String × Value)}
    (hvars : ∀ b ∈ vars, W.Holds D b.2) (outer : ScopeId) :
    W.Tells D (fun D vs => ∀ v ∈ vs, W.Holds D v) (Build.run E W.env block vars outer) :=
  chunks (Q := fun D vs => ∀ v ∈ vs, W.Holds D v) hE (fun _ _ _ hD h => holds_mono h hD)
    (fun _ _ _ hacc hvs => .pure fun _ hD =>
      List.forall_mem_append.mpr ⟨holds_mono hacc hD, holds_mono hvs hD⟩)
    hblock hvars outer (List.forall_mem_nil _)

omit hE in
/-- **Running blocks tells of what they yield, however deep they are nested.** -/
theorem engine (n : Nat) : W.Powers (TagScript.engine W.env n) := by
  induction n with
  | zero => exact ⟨fun _ _ _ _ _ _ => .fail, fun _ _ _ => .fail⟩
  | succ n ih =>
    exact ⟨fun D block vars scope hblock hvars => run ih hblock hvars scope,
      fun D vs hvs => (attributeText_and_texts ih).2 vs hvs⟩

end Telling

/-! ## Documents -/

/-- Whether the names that a document is built from stand in texts. What else is given may hold
names and elements, as long as no name in them kept an unbound prefix. -/
structure NamedInText (table : CommandTable) (request : DocumentRequest) : Prop where
  /-- The arguments before the content hold no name with an unbound prefix. -/
  args : ∀ v ∈ request.args, v.Every (Value.Tame table [])
  /-- A text as content names elements by words. -/
  source : ∀ source, request.content = .str source → NamedByWords table source
  /-- Any other content holds no name with an unbound prefix. -/
  content : (∀ source, request.content ≠ .str source) →
    request.content.Every (Value.Tame table [])
  /-- Neither does a parameter. -/
  parameters : ∀ b ∈ request.parameters, b.2.Every (Value.Tame table [])

namespace Telling

variable {W : Wording} {D : List Diagnostic}

/-- Noting a fault does not matter to a step that comes to a value. -/
theorem noteFault {α : Type} {Q : List Diagnostic → α → Prop} (logger : Logger) {m : Build α}
    (h : W.Tells D Q m) : W.Tells D Q (Build.noteFault logger m) := by
  intro s a s' hs hD hrun
  exact h s a s' hs hD (Build.of_noteFault_ok hrun)

theorem bindRoot (tag : QName) : W.Tells D (fun _ _ => True) (Build.bindRoot tag) := by
  unfold Build.bindRoot
  split
  · exact .pure fun _ _ => trivial
  · rename_i uri _
    intro s a s' hs hD hrun
    rw [Build.read_bind] at hrun
    obtain ⟨⟨created, registry⟩, s₁, hlift, hrest⟩ := Build.exists_of_bind_ok hrun
    obtain ⟨hadd, rfl⟩ := Prod.mk.inj hlift
    cases hrest
    exact ⟨hs.withRegistry (hs.proper.add hadd), List.Subset.refl _, trivial⟩

/-- The parameters may come to stand inside another scope. -/
theorem encloseParameters (content : Value) :
    W.Tells D (fun _ _ => True) (Build.encloseParameters W.env content) := by
  unfold Build.encloseParameters
  split
  · refine .change (fun s hs => hs.withScopes fun scope hscope => ?_)
      (fun _ => List.Subset.refl _) fun _ _ _ => trivial
    unfold Scopes.enclose at hscope
    obtain ⟨id, hget⟩ := Array.mem_iff_getElem?.mp hscope
    rw [Array.getElem?_modify] at hget
    split at hget
    · obtain ⟨before, hbefore, rfl⟩ := Option.map_eq_some_iff.mp hget
      exact hs.scopes before (Array.mem_of_getElem? hbefore)
    · exact hs.scopes scope (Array.mem_of_getElem? hget)
  · exact .pure fun _ _ => trivial

/-- Whether the content of a root element holds told names only. -/
def ContentHolds (W : Wording) (D : List Diagnostic) : RootContent → Prop
  | .arguments vs => ∀ v ∈ vs, W.Holds D v
  | .block v => W.Holds D v

theorem contentHolds {request : DocumentRequest} (h : NamedInText W.table request)
    (root : ScopeId) : ContentHolds W [] (RootContent.ofValue root request.content) := by
  have hcontent := h.content
  unfold RootContent.ofValue
  split
  · exact List.forall_mem_nil _
  · rename_i vs heq
    rw [heq] at hcontent
    exact (hcontent nofun).of_list
  · rename_i vs heq
    rw [heq] at hcontent
    exact (hcontent nofun).of_tuple
  · rename_i source heq
    exact .leaf rfl (h.source source heq)
  · rename_i b heq
    rw [heq] at hcontent
    have hsource : NamedByWords W.table b.source := (hcontent nofun).holds_of_leaf rfl
    exact .leaf rfl hsource
  · rename_i hstr _
    have hholds := hcontent hstr
    split
    · exact hholds
    · exact List.forall_mem_singleton.mpr hholds

variable {E : Engine} (hE : W.Powers E)
include hE

theorem gatherRoot (tag : QName) {args : List Value} (hargs : ∀ v ∈ args, W.Holds D v)
    {content : RootContent} (hcontent : ContentHolds W D content) {parts : Parts}
    (hparts : PartsTold D parts) :
    W.Tells D (fun D parts => PartsTold D parts)
      (Build.gatherRoot E W.env tag args content parts) := by
  unfold Build.gatherRoot
  refine .bind (feedAll hE tag hargs hparts) fun D₁ parts₁ hD hparts₁ => ?_
  cases content with
  | arguments vs => exact feedAll hE tag (holds_mono hcontent hD) hparts₁
  | block v =>
    exact chunks hE (fun _ _ _ hD h => h.mono hD)
      (fun D acc vs hacc hvs => feedAll hE tag hvs hacc) (hcontent.mono hD)
      (List.forall_mem_nil _) _ hparts₁

/-- **The root element tells of what is in it.** -/
theorem rootElement {request : DocumentRequest} (h : NamedInText W.table request) (tag : QName) :
    W.Tells D (fun D e => e.ToldWithin D) (Build.rootElement E W.env request tag) := by
  have hlater {D₁ : List Diagnostic} : ([] : List Diagnostic) ⊆ D₁ := List.nil_subset _
  have hcontent {D₁ : List Diagnostic} :
      ContentHolds W D₁ (RootContent.ofValue W.env.rootScope request.content) := by
    have hfirst := contentHolds h W.env.rootScope
    cases hroot : RootContent.ofValue W.env.rootScope request.content with
    | arguments vs =>
      rw [hroot] at hfirst
      exact holds_mono hfirst hlater
    | block v =>
      rw [hroot] at hfirst
      exact hfirst.mono hlater
  unfold Build.rootElement
  refine noteFault _ ((elementWith tag fun D₁ _ => ?_).mono fun _ _ _ he => he.2)
  exact gatherRoot hE tag (holds_mono h.args hlater) hcontent .empty

omit hE in
/-- A document has the root element that it is given and the reports that there are. -/
theorem documentOf (config : DocumentConfig) (request : DocumentRequest) {root : Element}
    (hroot : root.ToldWithin D) :
    W.Tells D (fun _ d => d.root.ToldWithin d.diagnostics)
      (Build.documentOf W.env config request root) := by
  intro s d s' hs hD hrun
  rw [Build.documentOf_apply] at hrun
  obtain ⟨hof, rfl⟩ := Prod.mk.inj hrun
  obtain ⟨hsome, hdiagnostics⟩ := Document.of_eq_ok hof
  cases hsome
  have htold := hroot.mono hD
  rw [← hdiagnostics] at htold
  exact ⟨hs, List.Subset.refl _, htold⟩

/-- **A document tells of what is in its root element.** -/
theorem document (config : DocumentConfig) {request : DocumentRequest}
    (h : NamedInText W.table request) :
    W.Tells D (fun _ d => d.root.ToldWithin d.diagnostics)
      (Build.document E W.env config request) := by
  have hname : W.Tells D (fun _ _ => True) (Build.rootName request.root) := by
    unfold Build.rootName
    split
    · exact .pure fun _ _ => trivial
    · exact .lift fun _ _ _ _ => trivial
  unfold Build.document Build.documentNamed
  refine hname.bind fun _ tag _ _ => .bind (bindRoot tag) fun _ _ _ _ => ?_
  refine .bind (record _ _ _ _) fun _ _ _ _ => .bind (encloseParameters _) fun _ _ _ _ => ?_
  refine .bind (rootElement hE h tag) fun _ root _ hroot => ?_
  refine .bind (documentOf config request hroot) fun _ d _ hd => ?_
  exact .bind (record _ _ _ _) fun _ _ _ _ => .pure fun _ _ => hd

end Telling

namespace Session

/-- What a build in a session of its own is given. -/
def wording {config : Config} (clock : Clock)
    (hword : IsCommandWord config.compiler.elementConstructor.plain) (rootScope : ScopeId) :
    Wording where
  env := ⟨config.settings, rootScope, none⟩
  table := newTable config clock
  builtin := builtins_newTable config clock
  word := hword

/-- A build in a session of its own begins in a sound state. -/
theorem sound_begun {config : Config} {clock : Clock}
    (hword : IsCommandWord config.compiler.elementConstructor.plain) {rootScope : ScopeId}
    {parameters : List (String × Value)}
    (hparameters : ∀ b ∈ parameters, b.2.Every (Value.Tame (newTable config clock) []))
    {scopes : Scopes} (hadd : Scopes.empty.add none parameters = .ok (rootScope, scopes)) :
    (wording clock hword rootScope).Sound
      ((create config clock none).begun .empty scopes) where
  proper := Registry.proper_empty
  commands := rfl
  words := by
    unfold BuildState.wordTable
    change (if (newTable config clock).size = 0 then some (newTable config clock) else none).getD
      (newTable config clock) = newTable config clock
    split <;> rfl
  cache := Workshop.invariant_empty _ _
  scopes := by
    have hnone : (wording clock hword rootScope).ScopesHold [] Scopes.empty := nofun
    exact Telling.scopesHold_add hnone hparameters hadd
  streams _ := rfl

end Session

/-- **Every name that kept an unbound prefix was reported**, in every document whose names stand in
texts that name elements by words. The name of the root element is not resolved. -/
theorem unbound_names_reported {config : Config} {clock : Clock}
    (hword : IsCommandWord config.compiler.elementConstructor.plain) {request : DocumentRequest}
    (hrequest : NamedInText (Session.newTable config clock) request) {d : Document}
    (h : buildDocument config clock request = .ok d) :
    (∀ e ∈ d.root.descendants, Told d.diagnostics e.tag) ∧
      ∀ e ∈ d.all, ∀ a ∈ e.attributes, Told d.diagnostics a.name := by
  let session := Session.create config clock none
  cases hadd : Scopes.empty.add none request.parameters with
  | error fault =>
    have hbegin : session.beginBuild request.parameters .empty = .error fault :=
      congrArg (Except.map _) hadd
    unfold buildDocument Session.buildDocument at h
    rw [hbegin] at h
    cases h
  | ok added =>
    obtain ⟨rootScope, scopes⟩ := added
    let W := Session.wording clock hword rootScope
    have hbegin : session.beginBuild request.parameters .empty =
        .ok (W.env, session.begun .empty scopes) := congrArg (Except.map _) hadd
    have hsound := Session.sound_begun hword hrequest.parameters hadd
    have hresult := (Session.buildDocument_fst hbegin).symm.trans h
    rcases hrun : Build.document (engine W.env nestingBound) W.env session.config.document request
      (session.begun .empty scopes) with ⟨result, s'⟩
    rw [hrun] at hresult
    obtain rfl : result = .ok d := hresult
    obtain ⟨-, -, htold⟩ := Telling.document (Telling.engine nestingBound) config.document hrequest
      _ d s' hsound (List.nil_subset _) hrun
    have hbelow : ∀ e ∈ d.root.descendants, Told d.diagnostics e.tag ∧
        ∀ a ∈ e.attributes, Told d.diagnostics a.name := by
      intro e he
      obtain ⟨n, hn, hin⟩ := Node.mem_elementsOfAll.mp he
      exact htold.children n hn e hin
    refine ⟨fun e he => (hbelow e he).1, fun e he => ?_⟩
    rw [Document.all, Element.all_eq] at he
    rcases List.mem_cons.mp he with rfl | he
    · exact htold.attributes
    · exact (hbelow e he).2

/-- A text of one statement, whose element and attribute both keep an unbound prefix. -/
theorem unbound_names_reported_word :
    let request : DocumentRequest := { root := .str "r", content := .str "p:a q:b 'x'" }
    IsCommandWord ({} : Config).compiler.elementConstructor.plain ∧
      NamedInText (Session.newTable {} stoppedClock) request ∧
      ∃ d, buildDocument {} stoppedClock request = .ok d ∧
        (∀ e ∈ d.root.descendants, Told d.diagnostics e.tag) ∧
        ∀ e ∈ d.all, ∀ a ∈ e.attributes, Told d.diagnostics a.name := by
  intro request
  let w : Token := ⟨.command, "p:a", ⟨1, 1⟩, 3, 0, 0⟩
  let ts : List Token := [w, ⟨.argument, "q:b", ⟨1, 5⟩, 3, 0, 4⟩, ⟨.string, "'x'", ⟨1, 9⟩, 3, 0, 8⟩]
  have hread : tokenize "p:a q:b 'x'" = .ok ts := rfl
  have hcases : ∀ t ∈ Token.significant ts, t = w ∨ t.kind = .argument ∨ t.kind = .string := by
    intro t ht
    have hmem : t ∈ ts := (List.mem_filter.mp ht).1
    simp only [ts, List.mem_cons, List.not_mem_nil, or_false] at hmem
    rcases hmem with rfl | rfl | rfl
    · exact .inl rfl
    · exact .inr (.inl rfl)
    · exact .inr (.inr rfl)
  have hword : ∀ t ∈ Token.significant ts, t.kind = .command → t = w := by
    intro t ht hkind
    rcases hcases t ht with heq | heq | heq
    · exact heq
    · exact absurd (hkind.symm.trans heq) TokenKind.noConfusion
    · exact absurd (hkind.symm.trans heq) TokenKind.noConfusion
  have hunknown : (Session.newTable {} stoppedClock).lookup "p:a" =
      .error (.unknownCommand "p:a") := by
    have hnone : (Session.newTable {} stoppedClock).canResolve "p:a" = false := by decide
    rw [CommandTable.lookup, Option.not_isSome_iff_eq_none.mp (Bool.eq_false_iff.mp hnone)]
  have htokens : Token.NamesByWords (Session.newTable {} stoppedClock) "p:a q:b 'x'".toList
      (Token.significant ts) := by
    constructor
    case commands =>
      intro t ht hkind c hlookup
      rw [hword t ht hkind, hunknown] at hlookup
      cases hlookup
    case casts =>
      intro t ht hkind
      rcases hcases t ht with rfl | heq | heq
      · cases hkind
      · exact absurd (hkind.symm.trans heq) TokenKind.noConfusion
      · exact absurd (hkind.symm.trans heq) TokenKind.noConfusion
    case commas =>
      exact .cons_cons (fun _ => TokenKind.noConfusion)
        (.cons_cons (fun _ => TokenKind.noConfusion) (.singleton _))
    case strings =>
      intro t ht hword'
      simp only [Token.isElementWord, Bool.and_eq_true, beq_iff_eq] at hword'
      rw [hword t ht hword'.1.1]
      decide
  have hsource : NamedByWords (Session.newTable {} stoppedClock) "p:a q:b 'x'" := by
    refine .intro (fun us hus => ?_) fun us hus text htext => ?_
    · obtain rfl := Except.ok.inj (hread.symm.trans hus)
      exact htokens
    · obtain rfl := Except.ok.inj (hread.symm.trans hus)
      cases htext
  have hcontent : NamedInText (Session.newTable {} stoppedClock) request :=
    ⟨List.forall_mem_nil _, fun source heq => Value.str.inj heq ▸ hsource,
      fun hstr => absurd rfl (hstr _), List.forall_mem_nil _⟩
  have hcommand : IsCommandWord ({} : Config).compiler.elementConstructor.plain :=
    ⟨_, rfl, rfl, rfl⟩
  have hbuilt : (buildDocument {} stoppedClock request).isOk = true := by
    rw [Build.buildDocument_plain rfl]
    decide +kernel
  cases hd : buildDocument {} stoppedClock request with
  | error fault =>
    rw [hd] at hbuilt
    cases hbuilt
  | ok d => exact ⟨hcommand, hcontent, d, rfl, unbound_names_reported hcommand hcontent hd⟩

/-- The argument of the constructor is resolved without a report. -/
theorem unbound_name_unreported :
    let request : DocumentRequest := { root := .str "r", content := .str "New-XElement 'p:a'" }
    ∃ d, buildDocument {} stoppedClock request = .ok d ∧
      ∃ e ∈ d.root.descendants, e.tag.uri = none ∧ ':' ∈ e.tag.localName.toList ∧
        ¬ Reported d.diagnostics e.tag.localName := by
  intro request
  have hbuilt : (buildDocument {} stoppedClock request).toOption.map (fun d =>
      (d.diagnostics.isEmpty, d.root.descendants.map Element.tag)) =
        some (true, [⟨"p:a", none⟩]) := by
    rw [Build.buildDocument_plain rfl]
    decide +kernel
  cases hd : buildDocument {} stoppedClock request with
  | error fault =>
    rw [hd] at hbuilt
    cases hbuilt
  | ok d =>
    rw [hd] at hbuilt
    obtain ⟨hnone, htags⟩ := Prod.mk.inj (Option.some.inj hbuilt)
    obtain ⟨e, he, htag⟩ := List.mem_map.mp (htags ▸ List.mem_singleton_self _)
    refine ⟨d, rfl, e, he, by rw [htag], by rw [htag]; decide, ?_⟩
    rintro ⟨r, hr, -⟩
    rw [List.isEmpty_iff.mp hnone] at hr
    cases hr

end TagScript
