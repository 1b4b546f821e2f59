import TagScript.Proofs.Build.ToldNames

/-!
# Steps that tell of names

A name without a namespace comes about where a word, an attribute name or the name of an element is
resolved. Where that happens to an element word or an attribute name it is reported at once, so the
element that is built of such names tells of them.

* `Wording.Safe` — a text whose name is told of, whatever its prefix is bound to.
* `Wording.Powers` — an engine whose runs tell of what they yield.
* **`Telling.template`** — the statements of a template name elements by safe literals.
* **`Telling.attributeName`** — the name of an attribute is told of.
* **`Telling.element`** — an element whose name is safe is told of, with all that is in it.
-/

namespace TagScript

namespace Wording

/-- Whether the name that a text comes to is told of, whatever its prefix is bound to. -/
def Safe (D : List Diagnostic) (text : String) : Prop :=
  ∀ (r : Registry) (q : QName), r.Proper → r.nameOf text = .ok q → Told D q

/-- Whether the runs of an engine tell of what they yield. -/
structure Powers (W : Wording) (E : Engine) : Prop where
  /-- A block yields told names only. -/
  run : ∀ D block vars scope, W.Holds D block → (∀ b ∈ vars, W.Holds D b.2) →
    W.Tells D (fun D vs => ∀ v ∈ vs, W.Holds D v) (E.run block vars scope)
  /-- Values have a text. -/
  texts : ∀ D vs, (∀ v ∈ vs, W.Holds D v) → W.Tells D (fun _ _ => True) (E.texts vs)

/-- Whether the names in the parts of an element are told of. -/
structure PartsTold (D : List Diagnostic) (parts : Parts) : Prop where
  /-- The names of attributes are. -/
  attributes : ∀ a ∈ parts.attributes, Told D a.name
  /-- So are those in children. -/
  children : ∀ n ∈ parts.children, n.Told D
  /-- So is a name that waits. -/
  pending : ∀ q, parts.pending = some (.name q) → Told D q

theorem Safe.mono {D D' : List Diagnostic} {text : String} (h : Safe D text) (hD : D ⊆ D') :
    Safe D' text :=
  fun r q hr hname => (h r q hr hname).mono hD

namespace PartsTold

variable {D D' : List Diagnostic} {parts : Parts}

theorem mono (h : PartsTold D parts) (hD : D ⊆ D') : PartsTold D' parts :=
  ⟨fun a ha => (h.attributes a ha).mono hD, fun n hn => (h.children n hn).mono hD,
    fun q hq => (h.pending q hq).mono hD⟩

theorem empty : PartsTold D {} :=
  ⟨nofun, nofun, nofun⟩

/-- No name waits, or one that is only a text. -/
theorem withPending (h : PartsTold D parts) {pending : Option Head}
    (hpending : ∀ q, pending = some (.name q) → Told D q) : PartsTold D { parts with pending } :=
  ⟨h.attributes, h.children, hpending⟩

end PartsTold

end Wording

namespace Telling

open Wording

variable {W : Wording} {D : List Diagnostic}

/-! ## Notes and readings -/

theorem record (logger : Logger) (level : LogLevel) (message : String)
    (extra : List (String × Json)) :
    W.Tells D (fun _ _ => True) (Build.record logger level message extra) :=
  .change (fun _ hs => hs.of_eq rfl rfl rfl rfl rfl rfl (List.Subset.refl _))
    (fun _ => List.Subset.refl _) fun _ _ _ => trivial

theorem count (f : Metrics → Metrics) : W.Tells D (fun _ _ => True) (Build.count f) :=
  .change (fun _ hs => hs.of_eq rfl rfl rfl rfl rfl rfl (List.Subset.refl _))
    (fun _ => List.Subset.refl _) fun _ _ _ => trivial

/-- What is reported is among the reports then. -/
theorem report (diagnostic : Diagnostic) :
    W.Tells D (fun D _ => diagnostic ∈ D) (Build.report diagnostic) := by
  have hmore (s : BuildState) :
      s.diagnostics.toList ⊆ (s.diagnostics.push diagnostic).toList := by
    rw [Array.toList_push]
    exact List.subset_append_left _ _
  refine .change (fun s hs => hs.of_eq rfl rfl rfl rfl rfl rfl (hmore s)) hmore fun s _ _ => ?_
  simp

theorem warn (env : BuildEnv) (logMessage : String) (logFields : List (String × Json))
    (message : String) (code : DiagnosticCode) (details : List (String × Json)) :
    W.Tells D (fun D _ => ∃ r ∈ D, r.code = code ∧ r.details = details)
      (Build.warn env logMessage logFields message code details) :=
  .bind (record _ _ _ _) fun _ _ _ _ =>
    (report _).mono fun _ _ _ hmem => ⟨_, hmem, rfl, rfl⟩

theorem malformed (tag : QName) (problem : ArgumentProblem) (value : String) :
    W.Tells D (fun _ _ => True) (Build.malformed W.env tag problem value) := by
  unfold Build.malformed
  split
  · exact .fail
  · exact (warn _ _ _ _ _ _).mono fun _ _ _ _ => trivial

/-- What a scope sees is held. -/
theorem holds_of_chain {scopes : Scopes} (h : W.ScopesHold D scopes) {id : ScopeId}
    {own : List (String × Value)} (hown : own ∈ scopes.chain id) : ∀ b ∈ own, W.Holds D b.2 := by
  induction id using Nat.strongRecOn with
  | ind id ih =>
    rw [Scopes.chain] at hown
    cases hscope : scopes.all[id]? with
    | none =>
      rw [hscope] at hown
      cases hown
    | some scope =>
      rw [hscope] at hown
      rcases List.mem_cons.mp hown with rfl | hown
      · exact h scope (Array.mem_of_getElem? hscope)
      · split at hown
        · cases hown
        · split at hown
          · rename_i outer _ hlt
            exact ih outer hlt hown
          · cases hown

theorem holds_of_lookup? {scopes : Scopes} (h : W.ScopesHold D scopes) {id : ScopeId}
    {name : String} {v : Value} (hv : scopes.lookup? id name = some v) : W.Holds D v := by
  rcases Option.or_eq_some_iff.mp hv with hconstant | ⟨-, hfound⟩
  · unfold constant? at hconstant
    split at hconstant <;> cases hconstant <;> exact holds_of_harmless rfl trivial
  · obtain ⟨own, hown, hget⟩ := List.exists_of_findSome?_eq_some hfound
    exact holds_of_chain h hown _ (Fields.mem_of_get? hget)

/-- The value of a variable holds told names only. -/
theorem lookup (scope : ScopeId) (name : String) (pos : Position) :
    W.Tells D (fun D v => W.Holds D v) (Build.lookup W.env scope name pos) := by
  have hread : W.Tells D (fun D v? => ∀ v, v? = some v → W.Holds D v)
      (Build.read fun s => s.scopes.lookup? scope name) :=
    .read fun s hs _ v hv => holds_of_lookup? hs.scopes hv
  unfold Build.lookup
  refine hread.bind fun D' v? _ hv => ?_
  cases v? with
  | some v => exact .pure fun D'' hD' => (hv v rfl).mono hD'
  | none =>
    dsimp only
    split
    · exact .fail
    · refine .bind (record _ _ _ _) fun _ _ _ _ => .bind (report _) fun _ _ _ _ => ?_
      exact .pure fun _ _ => holds_of_harmless rfl trivial

/-! ## Changes -/

/-- A new scope holds what it is given. -/
theorem scopesHold_add {scopes scopes' : Scopes} (h : W.ScopesHold D scopes)
    {vars : List (String × Value)} (hvars : ∀ b ∈ vars, W.Holds D b.2) {parent : Option ScopeId}
    {id : ScopeId} (hadd : scopes.add parent vars = .ok (id, scopes')) :
    W.ScopesHold D scopes' := by
  have hgiven : ∀ b ∈ Fields.ofList vars, W.Holds D b.2 := fun b hb =>
    hvars b (Fields.mem_of_mem_ofList hb)
  unfold Scopes.add Scopes.ownOf at hadd
  rcases Scopes.define_foldlM (List.forall_mem_nil _) hgiven with
    ⟨own, hdefined, hown⟩ | ⟨hfails, -⟩
  · rw [hdefined] at hadd
    cases hadd
    intro scope hscope
    rcases Array.mem_push.mp hscope with hscope | rfl
    · exact h scope hscope
    · exact hown
  · rw [hfails] at hadd
    cases hadd

theorem newScope (parent : ScopeId) {vars : List (String × Value)}
    (hvars : ∀ b ∈ vars, W.Holds D b.2) :
    W.Tells D (fun _ _ => True) (Build.newScope parent vars) := by
  intro s id s' hs hD hrun
  rw [Build.newScope_apply] at hrun
  split at hrun
  · rename_i hadd
    cases hrun
    exact ⟨hs.withScopes (scopesHold_add hs.scopes (fun b hb => (hvars b hb).mono hD) hadd),
      List.Subset.refl _, trivial⟩
  · cases hrun

theorem bindPrefix (tag : QName) (pfx uri : String) :
    W.Tells D (fun _ _ => True) (Build.bindPrefix W.env tag pfx uri) := by
  intro s a s' hs hD hrun
  rw [Build.bindPrefix, Build.read_bind] at hrun
  rcases s.registry.add_cases pfx uri with ⟨created, registry, hadd⟩ | ⟨known, -, -, hadd⟩ | hadd
  · rw [hadd] at hrun
    cases hrun
    exact ⟨hs.withRegistry (hs.proper.add hadd), List.Subset.refl _, trivial⟩
  · rw [hadd] at hrun
    dsimp only at hrun
    split at hrun
    · cases hrun
    · obtain ⟨hs', hreports, -⟩ := warn _ _ _ _ _ _ s a s' hs hD hrun
      exact ⟨hs', hreports, trivial⟩
  · rw [hadd] at hrun
    cases hrun

/-- **The statements of a template name elements by safe literals.** The words whose prefix is
unbound are reported when it is made, and also when it was kept. -/
theorem template {source : String} (hsource : NamedByWords W.table source) :
    W.Tells D (fun D t => Statement.SpellsAll W.table (Safe D) (Script.ofTemplate t))
      (Build.template W.env source) := by
  intro s t s' hs hD hrun
  have hkept := hs.cache.step (.compile source s.registry)
  unfold Build.template at hrun
  rw [Build.compilerHost_eq, hs.words] at hrun
  dsimp only at hrun
  split at hrun
  · rename_i houtcome
    obtain ⟨hmade, hwords⟩ := hs.cache.holds.unresolvedWords_of_ok houtcome
    cases hrun
    have hmore : s.diagnostics.toList ⊆ (s.diagnostics ++ (CompileEvent.reports
        W.env.correlationId (Cache.compile W.env.settings.compiler
          ⟨true, some W.table.canResolve, some W.table.version⟩ s.registry source
          s.cache).events).toArray).toList := by
      rw [Array.toList_append]
      exact List.subset_append_left _ _
    refine ⟨⟨hs.proper, hs.commands, hs.words, hkept, hs.scopes.mono hmore, hs.streams⟩, hmore, ?_⟩
    refine hsource.spells W.word hmade fun ts hread w hw r q hr hname => ?_
    have hkind := Token.kind_of_word (by simpa using (List.mem_filter.mp hw).2)
    obtain ⟨hne, hopen⟩ := Token.command_text hread (List.mem_filter.mp hw).1 hkind
    refine Registry.told_of_spelled hs.proper hr hne hopen (fun name hunbound => ?_) hname
    have hunresolved : isUnresolved s.registry w = true := by
      rw [isUnresolved, resolveWord, hunbound]
      rfl
    have hlisted : w ∈ t.unresolved := by
      rw [Template.unresolved_eq hread hmade]
      exact List.mem_filter.mpr ⟨hw, hunresolved⟩
    refine ⟨Diagnostic.unresolvedWord w.text w.pos W.env.correlationId, ?_, rfl,
      .inl (List.mem_singleton_self _)⟩
    have hreport := List.mem_map_of_mem (f := fun word : Token =>
      Diagnostic.unresolvedWord word.text word.pos W.env.correlationId) ((hwords w).mpr hlisted)
    exact Array.mem_toList_iff.mpr (Array.mem_append.mpr (.inr (List.mem_toArray.mpr hreport)))
  · cases hrun

/-- Nothing is left in streams. -/
theorem nextChunk (id : StreamId) :
    W.Tells D (fun _ chunk => chunk = none) (Build.nextChunk id) := by
  intro s chunk s' hs hD hrun
  unfold Build.nextChunk at hrun
  rw [hs.streams id] at hrun
  cases hrun
  exact ⟨hs, List.Subset.refl _, rfl⟩

/-! ## Arguments of elements -/

theorem addAttribute (tag : QName) {parts : Parts} (hparts : PartsTold D parts) {name : QName}
    (hname : Told D name) (value : String) :
    W.Tells D (fun D parts => PartsTold D parts)
      (Build.addAttribute W.env tag parts name value) := by
  unfold Build.addAttribute
  split
  · refine .pure fun D₁ hD => ⟨fun a ha => ?_, (hparts.mono hD).children, (hparts.mono hD).pending⟩
    rcases List.mem_append.mp ha with ha | ha
    · exact (hparts.mono hD).attributes a ha
    · rw [List.mem_singleton.mp ha]
      exact hname.mono hD
  · split
    · exact .fail
    · exact .fail
    · refine .bind (warn _ _ _ _ _ _) fun D₁ _ hD _ => .pure fun D₂ hD₁ => ?_
      have hkept := (hparts.mono hD).mono hD₁
      split
      · refine ⟨fun a ha => ?_, hkept.children, hkept.pending⟩
        obtain ⟨b, hb, rfl⟩ := List.mem_map.mp ha
        split
        · exact (hname.mono hD).mono hD₁
        · exact hkept.attributes b hb
      · exact hkept

theorem declare (tag : QName) {parts : Parts} (hparts : PartsTold D parts) (head : Head)
    (n : Namespace) :
    W.Tells D (fun D parts => PartsTold D parts) (Build.declare W.env tag parts head n) := by
  unfold Build.declare
  split
  · exact .bind (bindPrefix tag "" n.uri) fun D₁ _ hD _ => .pure fun D₂ hD₁ =>
      (hparts.mono hD).mono hD₁
  · dsimp only
    split
    · exact .bind (malformed tag _ _) fun D₁ _ hD _ => .pure fun D₂ hD₁ =>
        (hparts.mono hD).mono hD₁
    · have hname : Told D ⟨Build.declaredPrefix head.bare, some declarationUri⟩ := told_of_uri rfl
      refine .bind (addAttribute tag hparts hname n.uri) fun D₁ parts₁ _ hparts₁ => ?_
      exact .bind (bindPrefix tag _ n.uri) fun D₂ _ hD₁ _ => .pure fun D₃ hD₂ =>
        (hparts₁.mono hD₁).mono hD₂

/-- **The name of an attribute is told of**: it was told of already, or it is reported when its
prefix is unbound. -/
theorem attributeName (tag : QName) {head : Head} (hhead : ∀ q, head = .name q → Told D q) :
    W.Tells D (fun D name => ∀ q, name = some q → Told D q)
      (Build.attributeName W.env tag head) := by
  cases head with
  | name q =>
    refine .pure fun D₁ hD q₁ hq₁ => ?_
    cases hq₁
    exact (hhead q rfl).mono hD
  | word text =>
    unfold Build.attributeName
    dsimp only
    split
    · exact .bind (malformed tag _ _) fun _ _ _ _ => .pure fun _ _ _ hnone => by cases hnone
    · have hread : W.Tells D (fun _ r => ∃ registry : Registry, registry.Proper ∧
          r = registry.resolveAttribute (argumentName text))
          (Build.read fun s => s.registry.resolveAttribute (argumentName text)) :=
        .read fun s hs _ => ⟨s.registry, hs.proper, rfl⟩
      refine hread.bind fun D₁ r _ hr => ?_
      obtain ⟨registry, hproper, rfl⟩ := hr
      have hlift : W.Tells D₁ (fun _ named =>
          registry.resolveAttribute (argumentName text) = .ok named)
          (Build.lift (registry.resolveAttribute (argumentName text))) :=
        .lift fun named hnamed _ _ => hnamed
      refine hlift.bind fun D₂ named _ hnamed => ?_
      obtain ⟨q, resolved⟩ := named
      dsimp only
      split
      · refine .bind (warn _ _ _ _ _ _) fun D₃ _ _ hwarned => .pure fun D₄ hD q₁ hq₁ => ?_
        cases hq₁
        obtain ⟨r, hr, hcode, hdetails⟩ := hwarned
        have hreported : Reported D₃ (argumentName text) :=
          ⟨r, hr, hcode, .inr (hdetails ▸ by simp)⟩
        exact (Registry.told_of_resolveAttribute hproper hnamed fun _ => hreported).mono hD
      · rename_i hresolved
        refine .pure fun D₃ hD q₁ hq₁ => ?_
        cases hq₁
        refine Registry.told_of_resolveAttribute hproper hnamed fun hfalse => ?_
        rw [hfalse] at hresolved
        exact absurd rfl hresolved

/-- A child that a value makes tells of its names. -/
theorem child? (tag : QName) {v : Value} (hv : W.Holds D v) :
    W.Tells D (fun D child => ∀ n, child = some n → n.Told D) (Build.child? W.env tag v) := by
  have hnone {D₁ : List Diagnostic} : ∀ n, (none : Option Node) = some n → n.Told D₁ := nofun
  have htext (s : String) {D₁ : List Diagnostic} :
      ∀ n, some (Node.text s) = some n → n.Told D₁ := by
    intro n hn
    cases hn
    exact List.forall_mem_nil _
  unfold Build.child?
  split
  case h_1 => exact .pure fun _ _ => hnone
  case h_2 =>
    refine .pure fun D₁ hD n hn => ?_
    cases hn
    exact (hv.mono hD).holds_of_leaf rfl
  case h_9 => exact (hv.holds_of_leaf rfl).elim
  case h_10 => exact .bind (malformed tag _ _) fun _ _ _ _ => .pure fun _ _ => hnone
  case h_11 => exact .bind (malformed tag _ _) fun _ _ _ _ => .pure fun _ _ => hnone
  all_goals exact .pure fun _ _ => htext _

theorem addChildren (tag : QName) {parts : Parts} (hparts : PartsTold D parts) {vs : List Value}
    (hvs : ∀ v ∈ vs, W.Holds D v) :
    W.Tells D (fun D parts => PartsTold D parts) (Build.addChildren W.env tag parts vs) := by
  induction vs generalizing D parts with
  | nil => exact .pure fun _ hD => hparts.mono hD
  | cons v vs ih =>
    obtain ⟨hv, hvs⟩ := List.forall_mem_cons.mp hvs
    refine .bind (child? tag hv) fun D₁ child hD hchild => ih ?_ (holds_mono hvs hD)
    have hkept := hparts.mono hD
    refine ⟨hkept.attributes, fun n hn => ?_, hkept.pending⟩
    rcases List.mem_append.mp hn with hn | hn
    · exact hkept.children n hn
    · exact hchild n (Option.mem_toList.mp hn)

theorem finish (tag : QName) {parts : Parts} (hparts : PartsTold D parts) :
    W.Tells D (fun D parts => PartsTold D parts) (Build.finish W.env tag parts) := by
  unfold Build.finish
  split
  · exact .pure fun _ hD => hparts.mono hD
  · exact .bind (malformed tag _ _) fun _ _ hD _ => .pure fun _ hD₁ =>
      ((hparts.mono hD).mono hD₁).withPending nofun

theorem checkDepth (tag : QName) :
    W.Tells D (fun _ _ => True) (Build.checkDepth W.env tag) := by
  have hread : W.Tells D (fun _ _ => True) (Build.read (·.depth)) := .read fun _ _ _ => trivial
  unfold Build.checkDepth
  refine hread.bind fun D₁ n _ _ => ?_
  have hlift : W.Tells D₁ (fun _ _ => True)
      (Build.lift (W.env.settings.maxDepth.isExceededBy n)) := .lift fun _ _ _ _ => trivial
  refine hlift.bind fun _ exceeded _ _ => ?_
  cases exceeded with
  | true => exact .fail
  | false => exact .pure fun _ _ => trivial

theorem noteElement (e : Element) : W.Tells D (fun _ _ => True) (Build.noteElement W.env e) := by
  refine .bind (count _) fun D₁ _ _ _ => ?_
  have hread : W.Tells D₁ (fun _ _ => True) (Build.read (·.depth)) := .read fun _ _ _ => trivial
  exact hread.bind fun _ _ _ _ => record _ _ _ _

theorem noteBlock (kind : String) (yielded : Nat) :
    W.Tells D (fun _ _ => True) (Build.noteBlock W.env kind yielded) :=
  .bind (count _) fun _ _ _ _ => record _ _ _ _

/-- **An element tells of what is in it** if its parts do that are gathered one deeper. -/
theorem elementWith (tag : QName) {gather : Parts → Build Parts}
    (hgather : ∀ D₁, D ⊆ D₁ → W.Tells D₁ (fun D parts => PartsTold D parts) (gather {})) :
    W.Tells D (fun D e => e.tag = tag ∧ e.ToldWithin D) (Build.elementWith W.env tag gather) := by
  unfold Build.elementWith
  have hbody : W.Tells D (fun D e => e.tag = tag ∧ e.ToldWithin D) (do
      Build.checkDepth W.env tag
      let parts ← Build.finish W.env tag (← gather {})
      pure (Element.mk tag parts.attributes parts.children)) := by
    refine .bind (checkDepth tag) fun D₁ _ hD _ => .bind (hgather D₁ hD) fun D₂ parts _ hparts => ?_
    refine .bind (finish tag hparts) fun D₃ parts₁ _ hparts₁ => .pure fun D₄ hD₃ => ⟨rfl, ?_⟩
    exact ⟨(hparts₁.mono hD₃).attributes, (hparts₁.mono hD₃).children⟩
  refine .bind hbody.deeper fun D₁ e _ he => .bind (noteElement e) fun D₂ _ hD _ => ?_
  exact .pure fun D₃ hD₁ => ⟨he.1, (he.2.mono hD).mono hD₁⟩

variable {E : Engine} (hE : W.Powers E)
include hE

/-- The texts of a value and of a row of values. -/
theorem attributeText_and_texts :
    (∀ v, ∀ {D}, W.Holds D v → W.Tells D (fun _ _ => True) (Build.attributeText E W.env v)) ∧
      ∀ vs, ∀ {D}, (∀ v ∈ vs, W.Holds D v) →
        W.Tells D (fun _ _ => True) (Build.attributeTexts E W.env vs) := by
  apply Build.attributeText.mutual_induct
  case case1 =>
    intro vs ih D hv
    rw [Build.attributeText]
    exact ih hv.of_list
  case case2 =>
    intro vs ih D hv
    rw [Build.attributeText]
    exact ih hv.of_tuple
  case case3 =>
    intro e D _
    rw [Build.attributeText]
    exact .pure fun _ _ => trivial
  case case4 =>
    intro s D _
    rw [Build.attributeText]
    exact .pure fun _ _ => trivial
  case case5 =>
    intro D _
    rw [Build.attributeText]
    exact .pure fun _ _ => trivial
  case case6 =>
    intro v _ _ _ _ _ hcontent D hv
    simp only [Build.attributeText, hcontent, if_true]
    exact .bind (hE.run D v [] _ hv (List.forall_mem_nil _)) fun D₁ vs _ hvs => hE.texts D₁ vs hvs
  case case7 =>
    intro v _ _ _ _ _ hplain D hv
    simp only [Build.attributeText, hplain]
    exact .pure fun _ _ => trivial
  case case8 =>
    intro D _
    rw [Build.attributeTexts]
    exact .pure fun _ _ => trivial
  case case9 =>
    intro v vs ihv ihvs D hvs
    obtain ⟨hv, hvs⟩ := List.forall_mem_cons.mp hvs
    rw [Build.attributeTexts]
    exact .bind (ihv hv) fun _ _ hD _ => .bind (ihvs (holds_mono hvs hD)) fun _ _ _ _ =>
      .pure fun _ _ => trivial

theorem addContent (tag : QName) {parts : Parts} (hparts : PartsTold D parts) {v : Value}
    (hv : W.Holds D v) :
    W.Tells D (fun D parts => PartsTold D parts) (Build.addContent E W.env tag parts v) := by
  unfold Build.addContent
  exact .bind (hE.run D v [] _ hv (List.forall_mem_nil _)) fun _ vs hD hvs => addChildren tag (hparts.mono hD) hvs

theorem takeFirst (tag : QName) {parts : Parts} (hparts : PartsTold D parts) {v : Value}
    (hv : W.Holds D v) :
    W.Tells D (fun D parts => PartsTold D parts) (Build.takeFirst E W.env tag parts v) := by
  have hone : ∀ w ∈ [v], W.Holds D w := List.forall_mem_singleton.mpr hv
  unfold Build.takeFirst
  split
  case h_1 => exact .pure fun _ hD => hparts.mono hD
  case h_2 => exact .pure fun _ hD => (hparts.mono hD).withPending nofun
  case h_3 =>
    refine .pure fun _ hD => (hparts.mono hD).withPending fun q hq => ?_
    cases hq
    exact (hv.mono hD).holds_of_leaf rfl
  case h_4 => exact addChildren tag hparts hone
  case h_5 => exact addChildren tag hparts hone
  case h_6 => exact addChildren tag hparts hone
  case h_7 =>
    split
    · exact addContent hE tag hparts hv
    · exact .bind (malformed tag _ _) fun _ _ hD _ => .pure fun _ hD₁ =>
        (hparts.mono hD).mono hD₁

theorem takeSecond (tag : QName) {parts : Parts} (hparts : PartsTold D parts) {head : Head}
    (hhead : ∀ q, head = .name q → Told D q) {v : Value} (hv : W.Holds D v) :
    W.Tells D (fun D parts => PartsTold D parts)
      (Build.takeSecond E W.env tag parts head v) := by
  have hreading : W.Tells D (fun _ _ => True)
      (Build.lift (head.reading W.env.settings.contentMarker v)) := .lift fun _ _ _ _ => trivial
  unfold Build.takeSecond
  refine hreading.bind fun D₁ r hD _ => ?_
  have hparts₁ := hparts.mono hD
  have hv₁ := hv.mono hD
  cases r with
  | content => exact addContent hE tag hparts₁ hv₁
  | declaration n => exact declare tag hparts₁ head n
  | flag => exact takeFirst hE tag hparts₁ hv₁
  | «attribute» =>
    have hhead₁ : ∀ q, head = .name q → Told D₁ q := fun q hq => (hhead q hq).mono hD
    refine .bind (attributeName tag hhead₁) fun D₂ name hD₁ hname => ?_
    refine .bind ((attributeText_and_texts hE).1 v (hv₁.mono hD₁)) fun D₃ text hD₂ _ => ?_
    have hparts₃ := (hparts₁.mono hD₁).mono hD₂
    cases name with
    | some name => exact addAttribute tag hparts₃ ((hname name rfl).mono hD₂) text
    | none => exact .pure fun _ hD₃ => hparts₃.mono hD₃
  | nothing =>
    exact .bind (malformed tag _ _) fun _ _ hD₁ _ => .pure fun _ hD₂ =>
      (hparts₁.mono hD₁).mono hD₂

theorem take (tag : QName) {parts : Parts} (hparts : PartsTold D parts) {v : Value}
    (hv : W.Holds D v) :
    W.Tells D (fun D parts => PartsTold D parts) (Build.take E W.env tag parts v) := by
  unfold Build.take
  split
  · exact takeFirst hE tag hparts hv
  · rename_i head hpending
    have hwaiting : PartsTold D { parts with pending := none } := hparts.withPending nofun
    exact takeSecond hE tag hwaiting (fun q hq => hparts.pending q (hq ▸ hpending)) hv

theorem feed (tag : QName) (limit : Nat) {parts : Parts} (hparts : PartsTold D parts) {v : Value}
    (hv : W.Holds D v) :
    W.Tells D (fun D parts => PartsTold D parts) (Build.feed E W.env tag limit parts v) := by
  cases v with
  | stream id =>
    cases limit with
    | zero => exact .fail
    | succ limit =>
      rw [Build.feed]
      refine .bind (nextChunk id) fun D₁ chunk hD hnone => ?_
      subst hnone
      exact .pure fun _ hD₁ => (hparts.mono hD).mono hD₁
  | _ => cases limit <;> exact take hE tag hparts hv

theorem feedAll (tag : QName) {vs : List Value} (hvs : ∀ v ∈ vs, W.Holds D v) {parts : Parts}
    (hparts : PartsTold D parts) :
    W.Tells D (fun D parts => PartsTold D parts) (Build.feedAll E W.env tag vs parts) := by
  have hread : W.Tells D (fun _ _ => True) (Build.read fun s => s.streams.count) :=
    .read fun _ _ _ => trivial
  unfold Build.feedAll
  refine hread.bind fun D₁ left hD _ => ?_
  refine .foldlM (fun _ _ _ hD₁ h => h.mono hD₁) (fun D₂ parts v hD₁ hparts hmem => ?_)
    (hparts.mono hD)
  exact feed hE tag (left + 1) hparts (((hvs v hmem).mono hD).mono hD₁)

/-- **An element whose name is safe is told of**, with all that is in it. -/
theorem element {text : String} (hsafe : Safe D text) {args : List Value}
    (hargs : ∀ v ∈ args, W.Holds D v) :
    W.Tells D (fun D e => (Node.ofElement e).Told D)
      (Build.element E W.env (.str text) args) := by
  have hname : W.Tells D (fun D name => Told D name) (Build.elementName (.str text)) := by
    intro s name s' hs hD hrun
    rw [Build.elementName, Build.read_bind] at hrun
    obtain ⟨hresolved, rfl⟩ := Prod.mk.inj hrun
    exact ⟨hs, List.Subset.refl _, (hsafe.mono hD) s.registry name hs.proper hresolved⟩
  unfold Build.element
  refine hname.bind fun D₁ name hD htold => (elementWith name fun D₂ hD₁ => ?_).mono ?_
  · exact feedAll hE name (holds_mono (holds_mono hargs hD) hD₁) .empty
  · rintro D₃ e hD₂ ⟨rfl, hwithin⟩
    exact Element.told_iff.mpr ⟨htold.mono hD₂, hwithin⟩

end Telling

end TagScript
