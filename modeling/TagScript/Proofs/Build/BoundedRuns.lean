import TagScript.Proofs.Build.BoundedElements

/-!
# Runs in bounded room

In a guarded text a statement either runs a block that was written in it, in the scope where it
stands, or it runs a block for literals. In the first case the items may be blocks, and the scope
of the run is given a level high enough for them; the braces of the statement pay for it. In the
second case the block runs at its own level. So what a statement yields nests no deeper than the
level of its scope and the braces in it allow.

* `Guarding.Reads` — what is known of the value of an operand.
* `Affords.forEach_written`, `Affords.forEach_literals` — the two ways to run a block for each item.
* **`Affords.statement`** — a statement.
* **`Affords.engine`** — an engine affords the blocks that nest as deep as it goes.
* **`Affords.document`** — a document of a guarded text.
-/

namespace TagScript

/-- A document with a root element is refused for its declaration only. -/
theorem Document.of_some_error {root : Element} {version standalone encoding : Json}
    {diagnostics : List Diagnostic} {metrics : Option Metrics} {correlationId : Option String}
    {fault : Fault} (h : of (some root) version standalone encoding diagnostics metrics
      correlationId = .error fault) :
    fault = .invalid .version ∨ fault = .invalid .standalone := by
  unfold of at h
  cases hversion : XmlVersion.read version with
  | error refused =>
    rw [hversion] at h
    cases h
    unfold XmlVersion.read at hversion
    split at hversion <;> cases hversion
    exact .inl rfl
  | ok v =>
    cases hstandalone : readStandalone standalone with
    | error refused =>
      rw [hversion, hstandalone] at h
      cases h
      unfold readStandalone readStandaloneWord at hstandalone
      split at hstandalone
      · cases hstandalone
      · split at hstandalone <;> cases hstandalone
        exact .inr rfl
    | ok flag =>
      rw [hversion, hstandalone] at h
      cases h

/-- The values of data hold no content. -/
theorem Value.every_ofJson_of_plain {p : Value → Prop}
    (h : ∀ v : Value, v.isCompound = false → v.isContentBlock = false → p v) (j : Json) :
    (Value.ofJson j).Every p := by
  apply Value.ofJson.induct (fun js => ∀ v ∈ Value.ofJson.ofJsonAll js, v.Every p)
    (fun j => (Value.ofJson j).Every p)
    (fun fields => ∀ e ∈ Value.ofJson.ofFields fields, e.1.Every p ∧ e.2.Every p)
  case case6 => exact fun vs ih => .list ih
  case case7 => exact fun fields ih => .map (fun e he => (ih e he).1) fun e he => (ih e he).2
  case case8 => exact List.forall_mem_nil _
  case case9 => exact fun v vs ihv ihvs => List.forall_mem_cons.mpr ⟨ihv, ihvs⟩
  case case10 => exact List.forall_mem_nil _
  case case11 =>
    intro key v rest ihv ihrest
    exact List.forall_mem_cons.mpr ⟨⟨.leaf rfl (h _ rfl rfl), ihv⟩, ihrest⟩
  all_goals
    intros
    exact .leaf rfl (h _ rfl rfl)

namespace Guarding

variable {G : Guarding} {levels levels' : List Nat} {k n level : Nat} {scope : ScopeId}

/-! ## Values of operands -/

/-- What is known of the value of an operand in a scope: how deep it nests, and where it comes from
if it is content. -/
structure Reads (G : Guarding) (levels : List Nat) (scope : ScopeId) (level : Nat) (o : Operand)
    (v : Value) : Prop where
  /-- It nests no deeper than the variables and the braces of the operand allow. -/
  reaches : G.Reaches levels (level + 1 + roomOf o.groupTexts) v
  /-- A literal holds no block. -/
  literal : o.isLiteral = true → G.Reaches levels 1 v
  /-- Content is recalled or was written here. -/
  content : v.isContentBlock = true → o.recalls = true ∨
    ∃ source line, o = .group source line ∧ v = .block ⟨source, some scope, line⟩

/-- What is known of the value of operands that are joined by commas. -/
structure RowReads (G : Guarding) (levels : List Nat) (scope : ScopeId) (level : Nat)
    (row : List Operand) (v : Value) : Prop where
  /-- It nests no deeper than the variables and the braces of the operands allow. -/
  reaches : G.Reaches levels (level + 1 + roomOf (Operand.groupTextsOfRow row)) v
  /-- Literals hold no block. -/
  literal : (∀ o ∈ row, o.isLiteral = true) → G.Reaches levels 1 v
  /-- Content is the value of one operand. -/
  content : v.isContentBlock = true → ∃ o, row = [o] ∧ (o.recalls = true ∨
    ∃ source line, o = .group source line ∧ v = .block ⟨source, some scope, line⟩)

theorem Reads.mono {o : Operand} {v : Value} (h : G.Reads levels scope level o v)
    (hlevels : levels <+: levels') : G.Reads levels' scope level o v where
  reaches := h.reaches.mono hlevels (Nat.le_refl _)
  literal ho := (h.literal ho).mono hlevels (Nat.le_refl _)
  content := h.content

theorem RowReads.mono {row : List Operand} {v : Value} (h : G.RowReads levels scope level row v)
    (hlevels : levels <+: levels') : G.RowReads levels' scope level row v where
  reaches := h.reaches.mono hlevels (Nat.le_refl _)
  literal hrow := (h.literal hrow).mono hlevels (Nat.le_refl _)
  content := h.content

/-- What is neither content nor made of other values may be the value of any operand. -/
theorem Reads.of_plain {o : Operand} {v : Value} (simple : v.isCompound = false)
    (hcontent : v.isContentBlock = false) : G.Reads levels scope level o v where
  reaches := reaches_of_plain simple hcontent
  literal _ := reaches_of_plain simple hcontent
  content h := absurd (hcontent.symm.trans h) Bool.false_ne_true

section

variable {row : List Operand} {vs : List Value}
  (h : List.Forall₂ (G.Reads levels scope level) row vs)
include h

theorem reaches_row :
    ∀ v ∈ vs, G.Reaches levels (level + 1 + roomOf (Operand.groupTextsOfRow row)) v := by
  induction h with
  | nil => exact List.forall_mem_nil _
  | cons hv _ ih =>
    rw [Operand.groupTextsOfRow, roomOf_append]
    refine List.forall_mem_cons.mpr ⟨hv.reaches.mono (List.prefix_refl _) (by omega), ?_⟩
    exact reaches_mono ih (List.prefix_refl _) (by omega)

theorem reaches_literals (hrow : ∀ o ∈ row, o.isLiteral = true) :
    ∀ v ∈ vs, G.Reaches levels 1 v := by
  induction h with
  | nil => exact List.forall_mem_nil _
  | cons hv _ ih =>
    obtain ⟨ho, hrow⟩ := List.forall_mem_cons.mp hrow
    exact List.forall_mem_cons.mpr ⟨hv.literal ho, ih hrow⟩

/-- The value of operands that are joined by commas. -/
theorem RowReads.of_joined : G.RowReads levels scope level row (Build.joined vs) := by
  have hreaches := reaches_row h
  have hliterals := reaches_literals h
  unfold Build.joined
  split
  · cases h with
    | cons hv hrest =>
      cases hrest
      refine ⟨hreaches _ (List.mem_singleton_self _), fun hrow => ?_, fun hcontent => ?_⟩
      · exact hliterals hrow _ (List.mem_singleton_self _)
      · exact ⟨_, rfl, hv.content hcontent⟩
  · exact ⟨.list hreaches, fun hrow => .list (hliterals hrow), nofun⟩

end

/-- The values of all operands of a statement. -/
theorem reaches_rows {rows : List (List Operand)} {args : List Value}
    (h : List.Forall₂ (G.RowReads levels scope level) rows args) :
    ∀ v ∈ args, G.Reaches levels (level + 1 + roomOf (Operand.groupTextsOfRows rows)) v := by
  induction h with
  | nil => exact List.forall_mem_nil _
  | cons hv _ ih =>
    rw [Operand.groupTextsOfRows, roomOf_append]
    refine List.forall_mem_cons.mpr ⟨hv.reaches.mono (List.prefix_refl _) (by omega), ?_⟩
    exact reaches_mono ih (List.prefix_refl _) (by omega)

/-! ## Members and casts -/

namespace Ends

theorem interpolate (hlevel : levels[scope]? = some level) (pos : Position)
    (parts : List StringPart) :
    G.Ends levels (fun _ _ => True) (Build.interpolate G.env scope pos parts) := by
  induction parts generalizing levels with
  | nil => exact pure trivial
  | cons part parts ih =>
    match part with
    | .char c => exact bind (ih hlevel) fun _ _ _ _ => pure trivial
    | .variable name =>
      refine bind (lookup hlevel name pos) fun _ _ hlevels _ => ?_
      exact bind (ih (getElem?_of_prefixed hlevels hlevel)) fun _ _ _ _ => pure trivial
    | .unterminated => exact fail nofun

/-- The members of a value nest no deeper than it does. -/
theorem readPath {v : Value} (hk : 1 ≤ k) (hv : G.Reaches levels k v) (members : List String) :
    G.Ends levels (fun levels v => G.Reaches levels k v)
      (Build.read fun s => v.path s.scopes.parent? members) :=
  read fun _ _ =>
    (Value.keepsMembers_within hk).every_path (fun _ _ _ _ => trivial) hv members

/-- The items of a list are cast no deeper, and what a cast makes is no content. -/
theorem castValue {o : Operand} {v : Value} (hv : G.Reads levels scope level o v)
    (registry : Registry) (type : Token) :
    G.Ends levels (fun levels w => G.Reads levels scope level (.cast type o) w)
      (Build.lift (Build.castValue registry type v)) := by
  have hcast {k : Nat} {w : Value} (hk : 1 ≤ k) (hv : G.Reaches levels k v)
      (hw : Build.castValue registry type v = .ok w) : G.Reaches levels k w :=
    Build.every_castValue (Value.keepsMembers_within hk) hv (fun _ _ => trivial) hw
  refine lift (fun w hw => ⟨?_, ?_, ?_⟩) fun fault hfault => ?_
  · exact hcast (by omega) hv.reaches hw
  · exact fun ho => hcast (Nat.le_refl 1) (hv.literal ho) hw
  · exact fun hcontent => nomatch (Build.isContentBlock_castValue hw).symm.trans hcontent
  · rcases Build.castValue_error hfault with ⟨problem, rfl⟩ | ⟨wording, rfl⟩ <;> exact nofun

theorem newNamespace (i : Build.Invocation) :
    G.Ends levels (fun levels v => G.Reaches levels k v) (Build.newNamespace i) := by
  unfold Build.newNamespace
  split
  · exact fail nofun
  · refine lift (fun w hw => ?_) fun fault hfault => ?_
    · obtain ⟨ns, -, rfl⟩ := exists_of_map_ok hw
      exact reaches_of_plain rfl rfl
    · have hrefused := error_of_map_error hfault
      unfold Namespace.of at hrefused
      split at hrefused <;> cases hrefused
      exact nofun
  · exact fail nofun

end Ends

/-! ## Commands -/

namespace Affords

open Ends

variable {E : Engine} (hE : G.Affords n E)
include hE

omit hE in
/-- A block is run for one item after the other. -/
theorem forEach {block : Value} {items : List Value}
    (hrun : ∀ levels', levels <+: levels' → ∀ item ∈ items,
      G.Ends levels' (fun levels vs => ∀ v ∈ vs, G.Reaches levels k v)
        (E.run block [("_", item)] scope)) :
    G.Ends levels (fun levels vs => ∀ v ∈ vs, G.Reaches levels k v)
      (Build.forEach E block scope items) := by
  induction items generalizing levels with
  | nil => exact pure (List.forall_mem_nil _)
  | cons item items ih =>
    refine bind (hrun levels (List.prefix_refl _) item List.mem_cons_self)
      fun levels₁ first hlevels hfirst => ?_
    have hrest := ih fun levels' hlevels' item hitem =>
      hrun levels' (hlevels.trans hlevels') item (List.mem_cons_of_mem _ hitem)
    refine bind hrest fun levels₂ more hlevels' hmore => pure ?_
    exact List.forall_mem_append.mpr ⟨reaches_mono hfirst hlevels' (Nat.le_refl _), hmore⟩

/-- **A block that was written where it is run**, for any items: its scope is given a level that is
high enough for them. -/
theorem forEach_written (hlevel : levels[scope]? = some level) {room : Nat} {items : List Value}
    (hitems : ∀ v ∈ items, G.Reaches levels (level + 1 + room) v) {source : String}
    (hsource : Guarded G.table source) (line : Int)
    (hroom : level + 1 + room + (braceCount source + 1) ≤ n) :
    G.Ends levels (fun levels vs => ∀ v ∈ vs,
        G.Reaches levels (level + 1 + room + (braceCount source + 1)) v)
      (Build.forEach E (.block ⟨source, some scope, line⟩) scope items) := by
  refine forEach fun levels' hlevels item hitem => ?_
  have hvars : ∀ v ∈ [("_", item)], G.Reaches levels' (level + room + 1) v.2 :=
    List.forall_mem_singleton.mpr ((hitems item hitem).mono hlevels (by omega))
  have hrun := hE.block levels' ⟨source, some scope, line⟩ scope level (level + room) _ scope rfl
    (getElem?_of_prefixed hlevels hlevel) (by omega) hsource hvars (by dsimp only; omega)
  exact hrun.mono fun _ vs _ hvs => reaches_mono hvs (List.prefix_refl _) (by dsimp only; omega)

/-- **Any content, run for literals**: it nests no deeper than it does without them. -/
theorem forEach_literals (hlevel : levels[scope]? = some level) {block : Value}
    (hblock : G.Reaches levels k block) (hcontent : block.isContentBlock = true)
    {items : List Value} (hitems : ∀ v ∈ items, G.Reaches levels 1 v) (hroom : k ≤ n) :
    G.Ends levels (fun levels vs => ∀ v ∈ vs, G.Reaches levels k v)
      (Build.forEach E block scope items) := by
  refine forEach fun levels' hlevels item hitem => ?_
  have hitem' : G.Reaches levels' 1 item := (hitems item hitem).mono hlevels (Nat.le_refl _)
  have hblock' := hblock.mono hlevels (Nat.le_refl k)
  cases block with
  | block b =>
    obtain ⟨id, around, hscope, haround, hsource, hk⟩ := hblock'.holds_of_leaf rfl
    have hvars : ∀ v ∈ [("_", item)], G.Reaches levels' (around + 1) v.2 :=
      List.forall_mem_singleton.mpr (hitem'.mono (List.prefix_refl _) (by omega))
    have hrun := hE.block levels' b id around around _ scope hscope haround (Nat.le_refl _) hsource
      hvars (by omega)
    exact hrun.mono fun _ vs _ hvs => reaches_mono hvs (List.prefix_refl _) (by omega)
  | operation o =>
    obtain ⟨hk, houtcome⟩ := hblock'.holds_of_leaf rfl
    have hvars : ∀ v ∈ [("_", item)], G.Reaches levels' 1 v.2 :=
      List.forall_mem_singleton.mpr hitem'
    have hrun := hE.operation levels' o 1 _ scope level houtcome (getElem?_of_prefixed hlevels hlevel)
      hvars (by omega)
    exact hrun.mono fun _ vs _ hvs => reaches_mono hvs (List.prefix_refl _) (by omega)
  | template t => exact (hblock'.holds_of_leaf rfl).elim
  | routine mode steps => exact hblock'.of_routine.1.elim
  | _ => cases hcontent

/-- What a guarded statement runs for each item nests no deeper than its variables and the braces
in it allow. -/
theorem forEachItem (hlevel : levels[scope]? = some level) {rows : List (List Operand)}
    {i : Build.Invocation} (hscope : i.scope = scope)
    (hargs : List.Forall₂ (G.RowReads levels scope level) rows i.args)
    (hguarded : Operand.GuardedRows G.table rows) (hguard : Operand.GuardRun rows)
    (hroom : level + 1 + roomOf (Operand.groupTextsOfRows rows) ≤ n) :
    G.Ends levels
      (fun levels v => G.Reaches levels (level + 1 + roomOf (Operand.groupTextsOfRows rows)) v)
      (Build.forEachItem E i) := by
  have hlist {k : Nat} {m : Build (List Value)}
      (h : G.Ends levels (fun levels vs => ∀ v ∈ vs, G.Reaches levels k v) m) :
      G.Ends levels (fun levels v => G.Reaches levels k v) (do Pure.pure (.list (← m))) :=
    h.bind fun _ _ _ hvs => pure (.list hvs)
  unfold Build.forEachItem
  split
  · rename_i items block heq
    rw [heq] at hargs
    rcases hargs with _ | ⟨hitems, _ | ⟨hblock, _ | _⟩⟩
    rename_i row blocks
    simp only [Operand.groupTextsOfRows, List.append_nil, roomOf_append] at hroom ⊢
    rw [hscope]
    split
    · rename_i hcontent
      apply hlist
      obtain ⟨o, rfl, horigin⟩ := hblock.content hcontent
      rcases hguard with hlast | hbefore
      · have hwritten : o.recalls = false := hlast _ rfl o rfl
        rcases horigin with hrecalls | ⟨source, line, rfl, rfl⟩
        · exact absurd (hwritten.symm.trans hrecalls) Bool.false_ne_true
        · have hsource : Guarded G.table source := hguarded.2.1.1
          simp only [Operand.groupTextsOfRow, Operand.groupTexts, List.append_nil, roomOf_cons,
            roomOf_nil, Nat.add_zero, ← Nat.add_assoc] at hroom ⊢
          exact hE.forEach_written hlevel hitems.reaches.items hsource line hroom
      · have hliterals : ∀ o ∈ row, o.isLiteral = true := hbefore row List.mem_cons_self
        have hreaches := hblock.reaches.mono (List.prefix_refl _) (Nat.add_le_add_right
          (Nat.le_add_right (level + 1) (roomOf (Operand.groupTextsOfRow row))) _)
        rw [Nat.add_assoc (level + 1)] at hreaches
        exact hE.forEach_literals hlevel hreaches hcontent (hitems.literal hliterals).items hroom
    · exact fail Fault.noConfusion
  · exact fail Fault.noConfusion

omit hE in
theorem spreadLists {args : List Value} (hargs : ∀ v ∈ args, G.Reaches levels k v) :
    ∀ v ∈ Build.spreadLists args, G.Reaches levels k v := by
  intro v hv
  unfold Build.spreadLists at hv
  obtain ⟨arg, harg, hmem⟩ := List.mem_flatMap.mp hv
  split at hmem
  · exact (hargs _ harg).of_list v hmem
  · rw [List.mem_singleton.mp hmem]
    exact hargs arg harg

theorem newElement {i : Build.Invocation} (hargs : ∀ v ∈ i.args, G.Reaches levels k v)
    (hroom : k ≤ n) :
    G.Ends levels (fun levels v => G.Reaches levels k v) (Build.newElement E G.env i) := by
  unfold Build.newElement
  split
  · exact fail nofun
  · exact fail nofun
  · rename_i tag args _ heq
    rw [heq] at hargs
    have hrest := spreadLists (List.forall_mem_cons.mp hargs).2
    exact bind (hE.element _ hrest hroom) fun _ _ _ _ => pure (.leaf rfl trivial)

/-- **Invoking a command ends**, if a block that it runs for each item is guarded. -/
theorem invoke (hlevel : levels[scope]? = some level) {rows : List (List Operand)}
    {i : Build.Invocation} (hscope : i.scope = scope)
    (hargs : List.Forall₂ (G.RowReads levels scope level) rows i.args)
    (hguarded : Operand.GuardedRows G.table rows)
    (hguard : ∀ c, G.table.lookup i.name = .ok c → c.action = .acting .forEachItem →
      Operand.GuardRun rows)
    (hroom : level + 1 + roomOf (Operand.groupTextsOfRows rows) ≤ n) :
    G.Ends levels
      (fun levels v => G.Reaches levels (level + 1 + roomOf (Operand.groupTextsOfRows rows)) v)
      (Build.invoke E G.env i) := by
  have hread : G.Ends levels (fun _ r => r = G.table.lookup i.name)
      (Build.read fun s => s.commands.lookup i.name) :=
    read fun s hs => by rw [hs.commands]
  unfold Build.invoke
  refine hread.bind fun levels₁ r hlevels hr => ?_
  subst hr
  have hlift : G.Ends levels₁ (fun _ c => G.table.lookup i.name = .ok c)
      (Build.lift (G.table.lookup i.name)) := by
    refine lift (fun c hc => hc) fun fault hfault => ?_
    unfold CommandTable.lookup at hfault
    split at hfault <;> cases hfault
    exact nofun
  refine hlift.bind fun levels₂ c hlevels₁ hlookup => ?_
  have hlater := hlevels.trans hlevels₁
  have hlevel₂ := getElem?_of_prefixed hlater hlevel
  have hargs₂ : List.Forall₂ (G.RowReads levels₂ scope level) rows i.args :=
    hargs.imp fun _ _ h => h.mono hlater
  obtain ⟨entry, hentry, hcommand⟩ := CommandTable.exists_mem_of_lookup hlookup
  obtain ⟨clock, hbuiltin⟩ := G.builtin entry hentry
  rw [hcommand] at hbuiltin
  unfold Build.perform
  rcases Command.builtins_cases hbuiltin with haction | haction | haction | ⟨f, haction, hf⟩
  · rw [haction]
    exact hE.newElement (reaches_rows hargs₂) hroom
  · rw [haction]
    exact newNamespace i
  · rw [haction]
    exact hE.forEachItem hlevel₂ hscope hargs₂ hguarded (hguard c hlookup haction) hroom
  · rw [haction]
    change G.Ends levels₂ _ (Build.lift (c.applyPlain f i.args))
    unfold Command.applyPlain
    rcases hf i.args with hlist | ⟨s, hs⟩ | ⟨problem, hproblem⟩
    · rw [hlist]
      exact pure (.list (reaches_rows hargs₂))
    · rw [hs]
      exact pure (reaches_of_plain rfl rfl)
    · rw [hproblem]
      exact fail nofun

/-! ## Statements -/

omit hE in
theorem unwrapped {vs : List Value} (hvs : ∀ v ∈ vs, G.Reaches levels k v) :
    G.Reaches levels k (Build.unwrapped vs) := by
  unfold Build.unwrapped
  split
  · exact reaches_of_plain rfl rfl
  · exact hvs _ (List.mem_singleton_self _)
  · exact .list hvs

/-- Operands, their rows, statements and rows of statements. -/
theorem operand_and_statement (scope : ScopeId) (level : Nat) :
    (∀ o, ∀ {levels}, levels[scope]? = some level → o.Guarded G.table →
        level + 1 + roomOf o.groupTexts ≤ n →
        G.Ends levels (fun levels v => G.Reads levels scope level o v)
          (Build.operand E G.env scope o)) ∧
      (∀ ss, ∀ {levels}, levels[scope]? = some level → Statement.GuardedAll G.table ss →
        level + 1 + roomOf (Statement.groupTextsOfAll ss) ≤ n →
        G.Ends levels (fun levels vs => ∀ v ∈ vs,
            G.Reaches levels (level + 1 + roomOf (Statement.groupTextsOfAll ss)) v)
          (Build.statements E G.env scope ss)) ∧
      (∀ s, ∀ {levels}, levels[scope]? = some level → s.Guarded G.table →
        level + 1 + roomOf s.groupTexts ≤ n →
        G.Ends levels (fun levels vs => ∀ v ∈ vs,
            G.Reaches levels (level + 1 + roomOf s.groupTexts) v)
          (Build.statement E G.env scope s)) ∧
      (∀ rows, ∀ {levels}, levels[scope]? = some level → Operand.GuardedRows G.table rows →
        level + 1 + roomOf (Operand.groupTextsOfRows rows) ≤ n →
        G.Ends levels (fun levels args => List.Forall₂ (G.RowReads levels scope level) rows args)
          (Build.rows E G.env scope rows)) ∧
      ∀ os, ∀ {levels}, levels[scope]? = some level → Operand.GuardedRow G.table os →
        level + 1 + roomOf (Operand.groupTextsOfRow os) ≤ n →
        G.Ends levels (fun levels vs => List.Forall₂ (G.Reads levels scope level) os vs)
          (Build.operands E G.env scope os) := by
  apply Build.operand.mutual_induct
  case case1 =>
    intro v levels _ hv _
    rw [Build.operand]
    exact pure (.of_plain hv.1 hv.2)
  case case2 =>
    intro parts pos levels hlevel _ _
    rw [Build.operand]
    exact bind (interpolate hlevel pos parts) fun _ _ _ _ => pure (.of_plain rfl rfl)
  case case3 =>
    intro name members pos levels hlevel _ _
    rw [Build.operand]
    refine bind (lookup hlevel name pos) fun levels₁ v _ hv => ?_
    exact (readPath (by omega) hv members).mono fun _ _ _ hw =>
      ⟨hw, fun hliteral => absurd hliteral Bool.false_ne_true, fun _ => .inl rfl⟩
  case case4 =>
    intro source line levels hlevel hsource _
    rw [Build.operand]
    refine pure ⟨.leaf rfl ?_, fun hliteral => absurd hliteral Bool.false_ne_true,
      fun _ => .inr ⟨source, line, rfl, rfl⟩⟩
    refine ⟨scope, level, rfl, hlevel, hsource, ?_⟩
    simp only [Operand.groupTexts, roomOf_cons, roomOf_nil]
    omega
  case case5 =>
    intro body ih levels hlevel hbody hroom
    rw [Build.operand]
    refine bind (ih hlevel hbody hroom) fun _ vs _ hvs => pure ?_
    exact ⟨unwrapped hvs, fun hliteral => absurd hliteral Bool.false_ne_true, fun _ => .inl rfl⟩
  case case6 =>
    intro type o ih levels hlevel ho hroom
    rw [Build.operand]
    refine bind (ih hlevel ho hroom) fun levels₁ v _ hv => ?_
    exact read_any.bind fun _ registry hlevels _ => castValue (hv.mono hlevels) registry type
  case case7 =>
    intro fault levels _ hfault _
    rw [Build.operand]
    exact fail hfault
  case case8 =>
    intro command rows ih levels hlevel hs hroom
    rw [Build.statement]
    refine bind (ih hlevel hs.2 hroom) fun levels₁ args hlevels hargs => ?_
    cases command with
    | some name =>
      refine bind (hE.invoke (i := ⟨name, args, scope⟩) (getElem?_of_prefixed hlevels hlevel) rfl
        hargs hs.2 (fun c => hs.1 name c rfl) hroom) fun _ v _ hv => pure hv.spread
    | none => exact pure (Value.Every.spreadAll (reaches_rows hargs))
  case case9 =>
    intro levels _ _ _
    rw [Build.statements]
    exact pure (List.forall_mem_nil _)
  case case10 =>
    intro s ss ihs ihss levels hlevel hguarded hroom
    simp only [Statement.groupTextsOfAll, roomOf_append] at hroom ⊢
    rw [Build.statements]
    refine bind (ihs hlevel hguarded.1 (by omega)) fun levels₁ vs hlevels hvs => ?_
    have hlevel₁ := getElem?_of_prefixed hlevels hlevel
    refine bind (ihss hlevel₁ hguarded.2 (by omega)) fun levels₂ rest hlevels₁ hrest => pure ?_
    exact List.forall_mem_append.mpr ⟨reaches_mono hvs hlevels₁ (by omega),
      reaches_mono hrest (List.prefix_refl _) (by omega)⟩
  case case11 =>
    intro levels _ _ _
    rw [Build.rows]
    exact pure .nil
  case case12 =>
    intro row more ihrow ihmore levels hlevel hguarded hroom
    simp only [Operand.groupTextsOfRows, roomOf_append] at hroom
    rw [Build.rows]
    refine bind (ihrow hlevel hguarded.1 (by omega)) fun levels₁ vs hlevels hvs => ?_
    have hlevel₁ := getElem?_of_prefixed hlevels hlevel
    refine bind (ihmore hlevel₁ hguarded.2 (by omega)) fun levels₂ rest hlevels₁ hrest => pure ?_
    exact .cons ((RowReads.of_joined hvs).mono hlevels₁) hrest
  case case13 =>
    intro levels _ _ _
    rw [Build.operands]
    exact pure .nil
  case case14 =>
    intro o os iho ihos levels hlevel hguarded hroom
    simp only [Operand.groupTextsOfRow, roomOf_append] at hroom
    rw [Build.operands]
    refine bind (iho hlevel hguarded.1 (by omega)) fun levels₁ v hlevels hv => ?_
    have hlevel₁ := getElem?_of_prefixed hlevels hlevel
    refine bind (ihos hlevel₁ hguarded.2 (by omega)) fun levels₂ vs hlevels₁ hvs => pure ?_
    exact .cons (hv.mono hlevels₁) hvs

/-- **A guarded statement ends** where there is room for its variables and the braces in it, and
what it yields nests no deeper. -/
theorem statement (hlevel : levels[scope]? = some level) {s : Statement} (hs : s.Guarded G.table)
    (hroom : level + 1 + roomOf s.groupTexts ≤ n) :
    G.Ends levels (fun levels vs => ∀ v ∈ vs, G.Reaches levels (level + 1 + roomOf s.groupTexts) v)
      (Build.statement E G.env scope s) :=
  (hE.operand_and_statement scope level).2.2.1 s hlevel hs hroom

/-! ## Blocks -/

omit hE in
/-- A row of tasks, if each of them ends. -/
theorem drain {σ : Type} {Q : List Nat → σ → Prop} {consume : σ → List Value → Build σ}
    (hconsume : ∀ levels' acc vs, levels <+: levels' → Q levels' acc →
      (∀ v ∈ vs, G.Reaches levels' k v) → G.Ends levels' Q (consume acc vs))
    (hQ : ∀ levels levels' acc, levels <+: levels' → Q levels acc → Q levels' acc)
    (kind : String) {tasks : List Task} (htasks : ∀ t ∈ tasks, ∀ levels', levels <+: levels' →
      G.Ends levels' (fun levels vs => ∀ v ∈ vs, G.Reaches levels k v)
        (Build.task E G.env scope t)) (yielded : Nat) {acc : σ} (hacc : Q levels acc) :
    G.Ends levels Q (Build.drain E G.env scope kind consume tasks yielded acc) := by
  induction tasks generalizing levels yielded acc with
  | nil => exact bind (noteBlock kind yielded) fun _ _ hlevels _ => pure (hQ _ _ acc hlevels hacc)
  | cons t tasks ih =>
    obtain ⟨ht, htasks⟩ := List.forall_mem_cons.mp htasks
    refine bind (ht levels (List.prefix_refl _)) fun levels₁ vs hlevels hvs => ?_
    refine bind (hconsume levels₁ acc vs hlevels (hQ _ _ acc hlevels hacc) hvs)
      fun levels₂ acc₂ hlevels₁ hacc₂ => ?_
    have hlater := hlevels.trans hlevels₁
    exact ih (fun levels' acc vs hlevels' => hconsume levels' acc vs (hlater.trans hlevels'))
      (fun u hu levels' hlevels' => htasks u hu levels' (hlater.trans hlevels')) _ hacc₂

/-- **A block of a guarded text ends** at every level that is high enough for its variables and for
the scope that it was written in, where there is room for the braces in the text. -/
theorem chunks {b : ScriptBlock} {around : Nat} (hscope : b.scope = some scope)
    (haround : levels[scope]? = some around) (hle : around ≤ level)
    (hsource : Guarded G.table b.source) {vars : List (String × Value)}
    (hvars : ∀ v ∈ vars, G.Reaches levels (level + 1) v.2) (outer : ScopeId)
    (hroom : level + braceCount b.source + 1 ≤ n) {σ : Type} {Q : List Nat → σ → Prop}
    {consume : σ → List Value → Build σ}
    (hconsume : ∀ levels' acc vs, levels <+: levels' → Q levels' acc →
      (∀ v ∈ vs, G.Reaches levels' (level + braceCount b.source + 1) v) →
        G.Ends levels' Q (consume acc vs))
    (hQ : ∀ levels levels' acc, levels <+: levels' → Q levels acc → Q levels' acc)
    {acc : σ} (hacc : Q levels acc) :
    G.Ends levels Q (Build.chunks E G.env (.block b) vars outer consume acc) := by
  have hstart : G.Ends levels (fun levels c => levels[c.scope]? = some level ∧
      ∀ t ∈ c.tasks, ∃ s, t = .statement s ∧ s.Guarded G.table ∧
        roomOf s.groupTexts ≤ braceCount b.source) (Build.start G.env (.block b) vars outer) := by
    unfold Build.start
    dsimp only
    rw [hscope]
    refine bind (template hsource) fun levels₁ t hlevels ht => ?_
    refine bind (newScope (getElem?_of_prefixed hlevels haround) hle
      fun v hv => (hvars v hv).mono hlevels (Nat.le_refl _)) fun levels₂ id _ hid => pure ⟨hid, ?_⟩
    intro u hu
    obtain ⟨s, hs, rfl⟩ := List.mem_map.mp hu
    exact ⟨s, rfl, Statement.guardedAll_iff.mp ht.1 s hs,
      Nat.le_trans (Statement.roomOf_le_of_mem hs) ht.2⟩
  unfold Build.chunks
  refine bind hstart fun levels₁ c hlevels hc => ?_
  refine drain (fun levels' acc vs hlevels' => hconsume levels' acc vs (hlevels.trans hlevels')) hQ
    c.kind (fun t ht levels' hlevels' => ?_) c.yielded (hQ _ _ acc hlevels hacc)
  obtain ⟨s, rfl, hs, hbraces⟩ := hc.2 t ht
  have hrun := hE.statement (getElem?_of_prefixed hlevels' hc.1) hs (by omega)
  exact hrun.mono fun _ vs _ hvs => reaches_mono hvs (List.prefix_refl _) (by omega)

omit hE in
/-- An operation yields data. -/
theorem runOperation {o : Operation} (houtcome : o.outcome ≠ .error .exhausted) {outer : ScopeId}
    {around : Nat} (houter : levels[outer]? = some around) {vars : List (String × Value)}
    (hvars : ∀ v ∈ vars, G.Reaches levels k v.2) :
    G.Ends levels (fun levels vs => ∀ v ∈ vs, G.Reaches levels 0 v)
      (Build.run E G.env (.operation o) vars outer) := by
  have htask (scope : ScopeId) (levels' : List Nat) :
      G.Ends levels' (fun levels vs => ∀ v ∈ vs, G.Reaches levels 0 v)
        (Build.task E G.env scope (.operation o)) := by
    refine lift (fun vs hvs => ?_) fun fault hfault hexhausted => ?_
    · obtain ⟨result, -, rfl⟩ := exists_of_map_ok hvs
      exact (Value.every_ofJson_of_plain (fun _ _ => Value.within_of_not_content) result).spread
    · exact houtcome (hexhausted ▸ error_of_map_error hfault)
  have hvars' : ∀ v ∈ vars, G.Reaches levels (around + k + 1) v.2 :=
    fun v hv => (hvars v hv).mono (List.prefix_refl _) (by omega)
  unfold Build.run Build.chunks Build.start
  dsimp only
  refine bind (Q := fun _ c => c.tasks = [.operation o]) ?_ fun levels₁ c _ hc => ?_
  · exact bind (newScope houter (Nat.le_add_right around k) hvars') fun _ _ _ _ => pure rfl
  · refine drain (k := 0) (Q := fun levels vs => ∀ v ∈ vs, G.Reaches levels 0 v)
      (fun _ acc vs _ hacc hvs => pure (List.forall_mem_append.mpr ⟨hacc, hvs⟩))
      (fun _ _ _ hlevels h => reaches_mono h hlevels (Nat.le_refl _)) c.kind
      (fun t ht levels' _ => ?_) c.yielded (List.forall_mem_nil _)
    rw [hc] at ht
    rw [List.mem_singleton.mp ht]
    exact htask c.scope levels'

omit hE in
/-- **An engine affords the blocks that nest as deep as it goes.** -/
theorem engine (G : Guarding) (n : Nat) : G.Affords n (TagScript.engine G.env n) := by
  induction n with
  | zero =>
    refine ⟨fun _ _ _ _ _ _ _ _ _ _ _ _ hroom => ?_, fun _ _ _ _ _ _ _ _ _ hroom => ?_,
      fun _ _ _ _ hroom => ?_⟩ <;> exact absurd hroom (Nat.not_succ_le_zero _)
  | succ n ih =>
    constructor
    case block =>
      intro levels b id around level vars outer hscope haround hle hsource hvars hroom
      exact ih.chunks (Q := fun levels vs => ∀ v ∈ vs,
          G.Reaches levels (level + braceCount b.source + 1) v)
        hscope haround hle hsource hvars outer (by omega)
        (fun _ acc vs _ hacc hvs => pure (List.forall_mem_append.mpr ⟨hacc, hvs⟩))
        (fun _ _ _ hlevels h => reaches_mono h hlevels (Nat.le_refl _)) (List.forall_mem_nil _)
    case operation =>
      intro levels o k vars outer around houtcome houter hvars _
      exact runOperation houtcome houter hvars
    case texts =>
      intro levels k vs hvs hroom
      exact (ih.attributeText_and_texts (by omega)).2 vs hvs

end Affords

/-! ## Documents -/

namespace Ends

/-- Noting a fault does not change it. -/
theorem noteFault {α : Type} {Q : List Nat → α → Prop} (logger : Logger) {m : Build α}
    (h : G.Ends levels Q m) : G.Ends levels Q (Build.noteFault logger m) := by
  intro s hs
  have hm := h s hs
  unfold Build.noteFault
  rcases hrun : m s with ⟨r, s₁⟩
  rw [hrun] at hm
  cases hm with
  | ok hlevels hs₁ ha => exact .ok hlevels hs₁ ha
  | error hfault =>
    dsimp only
    split
    · exact .error hfault
    · exact .error hfault

theorem rootName (root : Value) : G.Ends levels (fun _ _ => True) (Build.rootName root) := by
  unfold Build.rootName
  split
  · exact pure trivial
  · refine lift (fun _ _ => trivial) fun fault hfault => ?_
    rcases QName.parse_error hfault with rfl | rfl <;> exact nofun

theorem bindRoot (tag : QName) : G.Ends levels (fun _ _ => True) (Build.bindRoot tag) := by
  unfold Build.bindRoot
  split
  · exact pure trivial
  · rename_i uri _
    intro s hs
    rw [Build.read_bind]
    rcases s.registry.add_cases "" uri with ⟨created, registry, hadd⟩ | ⟨known, -, -, hadd⟩ | hadd
    · rw [hadd]
      exact .ok (List.prefix_refl _) (hs.of_eq rfl rfl rfl rfl rfl) trivial
    · rw [hadd]
      exact .error nofun
    · rw [hadd]
      exact .error nofun

/-- A document is refused for its declaration only. -/
theorem documentOf (config : DocumentConfig) (request : DocumentRequest) (root : Element) :
    G.Ends levels (fun _ _ => True) (Build.documentOf G.env config request root) := by
  intro s hs
  rw [Build.documentOf_apply]
  refine lift (fun _ _ => trivial) (fun fault hfault => ?_) s hs
  rcases Document.of_some_error hfault with rfl | rfl <;> exact nofun

end Ends

namespace Affords

open Ends

variable {E : Engine} (hE : G.Affords n E)
include hE

/-- The root element, whose content is a guarded text. -/
theorem rootElement {request : DocumentRequest} {source : String}
    (hcontent : request.content = .str source) (hsource : Guarded G.table source)
    (hargs : ∀ v ∈ request.args, G.Reaches levels 0 v) (hroom : braceCount source + 1 ≤ n)
    (tag : QName) :
    G.Ends levels (fun _ _ => True) (Build.rootElement E G.env request tag) := by
  unfold Build.rootElement
  refine noteFault _ (elementWith tag fun levels₁ hlevels => ?_)
  rw [hcontent]
  unfold Build.gatherRoot
  have hargs₁ := reaches_mono hargs hlevels (Nat.zero_le n)
  refine bind (hE.feedAll tag hargs₁ (Nat.le_refl n) {}) fun levels₂ parts _ _ => ?_
  refine .of_root fun hroot => ?_
  exact hE.chunks (Q := fun _ _ => True) rfl hroot (Nat.le_refl 0) hsource (List.forall_mem_nil _) _
    (by dsimp only; omega)
    (fun _ parts vs _ _ hvs => hE.feedAll tag hvs (by dsimp only; omega) parts)
    (fun _ _ _ _ _ => trivial) trivial

/-- **A document of a guarded text ends**, where there is room for the braces in the text. -/
theorem document (config : DocumentConfig) {request : DocumentRequest} {source : String}
    (hcontent : request.content = .str source) (hsource : Guarded G.table source)
    (hargs : ∀ v ∈ request.args, G.Reaches levels 0 v) (hroom : braceCount source + 1 ≤ n) :
    G.Ends levels (fun _ _ => True) (Build.document E G.env config request) := by
  unfold Build.document Build.documentNamed
  refine bind (rootName request.root) fun _ tag hlevels _ => ?_
  refine bind (bindRoot tag) fun _ _ hlevels₁ _ => ?_
  refine bind (record _ _ _ _) fun _ _ hlevels₂ _ => ?_
  have henclose : ∀ {levels}, G.Ends levels (fun _ _ => True)
      (Build.encloseParameters G.env request.content) := by
    rw [hcontent]
    exact pure trivial
  refine bind henclose fun _ _ hlevels₃ _ => ?_
  have hlater := ((hlevels.trans hlevels₁).trans hlevels₂).trans hlevels₃
  have hargs' := reaches_mono hargs hlater (Nat.le_refl 0)
  refine bind (hE.rootElement hcontent hsource hargs' hroom tag) fun _ root _ _ => ?_
  refine bind (documentOf config request root) fun _ d _ _ => ?_
  exact bind (record _ _ _ _) fun _ _ _ _ => pure trivial

end Affords

end Guarding

end TagScript
