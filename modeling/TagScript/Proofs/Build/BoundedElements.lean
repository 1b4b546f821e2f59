import TagScript.Proofs.Build.Levels
import TagScript.Proofs.Build.Obedience

/-!
# Elements in bounded room

Building an element runs the content among its arguments and the content that this yields as the
text of an attribute. What content yields nests less deep than the content itself, so an engine with
room for the arguments has room for all of it.

* `Guarding.Affords` — an engine with room for blocks that nest so deep.
* **`Affords.content`** — content yields what nests less deep.
* `Affords.attributeText_and_texts` — the text of an attribute.
* **`Affords.element`** — an element.
-/

namespace TagScript

namespace Guarding

variable {G : Guarding} {levels : List Nat} {k n : Nat}

/-- Whether an engine has room for blocks that nest so deep. -/
structure Affords (G : Guarding) (n : Nat) (E : Engine) : Prop where
  /-- A block runs at any level that is high enough for its variables and for the scope that it was
  written in. What it yields nests no deeper than the braces in its text allow. -/
  block : ∀ levels (b : ScriptBlock) id around level vars outer, b.scope = some id →
    levels[id]? = some around → around ≤ level → Guarded G.table b.source →
    (∀ v ∈ vars, G.Reaches levels (level + 1) v.2) → level + braceCount b.source + 2 ≤ n →
      G.Ends levels (fun levels vs => ∀ v ∈ vs,
        G.Reaches levels (level + braceCount b.source + 1) v) (E.run (.block b) vars outer)
  /-- An operation yields data. -/
  operation : ∀ levels (o : Operation) k vars outer around, o.outcome ≠ .error .exhausted →
    levels[outer]? = some around → (∀ v ∈ vars, G.Reaches levels k v.2) → 1 ≤ n →
      G.Ends levels (fun levels vs => ∀ v ∈ vs, G.Reaches levels 0 v)
        (E.run (.operation o) vars outer)
  /-- Values have a text. -/
  texts : ∀ levels k vs, (∀ v ∈ vs, G.Reaches levels k v) → k + 1 ≤ n →
    G.Ends levels (fun _ _ => True) (E.texts vs)

namespace Ends

/-- The scope of the parameters has a level in every state. -/
theorem of_root {α : Type} {Q : List Nat → α → Prop} {m : Build α}
    (h : levels[G.env.rootScope]? = some 0 → G.Ends levels Q m) : G.Ends levels Q m :=
  fun s hs => h hs.root s hs

/-! ## Parts of elements -/

theorem addAttribute (tag : QName) (parts : Parts) (name : QName) (value : String) :
    G.Ends levels (fun _ _ => True) (Build.addAttribute G.env tag parts name value) := by
  unfold Build.addAttribute
  split
  · exact pure trivial
  · split
    · exact fail nofun
    · exact fail nofun
    · exact bind (warn _ _ _ _ _) fun _ _ _ _ => pure trivial

theorem declare (tag : QName) (parts : Parts) (head : Head) (ns : Namespace) :
    G.Ends levels (fun _ _ => True) (Build.declare G.env tag parts head ns) := by
  unfold Build.declare
  split
  · exact bind (bindPrefix tag "" ns.uri) fun _ _ _ _ => pure trivial
  · dsimp only
    split
    · exact bind (malformed tag _ _) fun _ _ _ _ => pure trivial
    · refine bind (addAttribute tag parts _ ns.uri) fun _ _ _ _ => ?_
      exact bind (bindPrefix tag _ ns.uri) fun _ _ _ _ => pure trivial

theorem attributeName (tag : QName) (head : Head) :
    G.Ends levels (fun _ _ => True) (Build.attributeName G.env tag head) := by
  cases head with
  | name q => exact pure trivial
  | word text =>
    unfold Build.attributeName
    dsimp only
    split
    · exact bind (malformed tag _ _) fun _ _ _ _ => pure trivial
    · have hread : G.Ends levels (fun _ (r : Except Fault (QName × Bool)) =>
            ∀ fault, r = .error fault → fault ≠ .exhausted)
          (Build.read fun s => s.registry.resolveAttribute (argumentName text)) := by
        refine read fun s _ fault hfault => ?_
        rw [Registry.resolveAttribute_error hfault]
        exact nofun
      refine hread.bind fun levels₁ r _ hr => ?_
      have hlift : G.Ends levels₁ (fun _ _ => True) (Build.lift r) :=
        lift (fun _ _ => trivial) hr
      refine hlift.bind fun _ named _ _ => ?_
      split
      · exact bind (warn _ _ _ _ _) fun _ _ _ _ => pure trivial
      · exact pure trivial

theorem child? (tag : QName) (v : Value) :
    G.Ends levels (fun _ _ => True) (Build.child? G.env tag v) := by
  unfold Build.child?
  split
  case h_9 =>
    rename_i name declarations attributes content _
    have helement : G.Ends levels (fun _ _ => True)
        (Build.lift (Xml.toElement [] (.element name declarations attributes content))) := by
      refine lift (fun _ _ => trivial) fun fault hfault => ?_
      unfold Xml.toElement at hfault
      split at hfault <;> cases hfault
      exact nofun
    exact helement.bind fun _ _ _ _ => pure trivial
  case h_10 => exact bind (malformed tag _ _) fun _ _ _ _ => pure trivial
  case h_11 => exact bind (malformed tag _ _) fun _ _ _ _ => pure trivial
  all_goals exact pure trivial

theorem addChildren (tag : QName) (parts : Parts) (vs : List Value) :
    G.Ends levels (fun _ _ => True) (Build.addChildren G.env tag parts vs) := by
  induction vs generalizing levels parts with
  | nil => exact pure trivial
  | cons v vs ih => exact bind (child? tag v) fun _ _ _ _ => ih _

theorem finish (tag : QName) (parts : Parts) :
    G.Ends levels (fun _ _ => True) (Build.finish G.env tag parts) := by
  unfold Build.finish
  split
  · exact pure trivial
  · exact bind (malformed tag _ _) fun _ _ _ _ => pure trivial

theorem elementName (tag : Value) : G.Ends levels (fun _ _ => True) (Build.elementName tag) := by
  have hrefused {text : String} {fault : Fault}
      (h : fault = .invalid .emptyLocalName ∨ fault = .invalid (.malformedName text)) :
      fault ≠ .exhausted := by
    rcases h with rfl | rfl <;> exact nofun
  unfold Build.elementName
  split
  · exact pure trivial
  · rename_i text
    have hread : G.Ends levels
        (fun _ (r : Except Fault QName) => ∀ fault, r = .error fault → fault ≠ .exhausted)
        (Build.read fun s => s.registry.nameOf text) :=
      read fun s _ fault hfault => hrefused (Registry.nameOf_error hfault)
    exact hread.bind fun _ _ _ hr => lift (fun _ _ => trivial) hr
  · exact lift (fun _ _ => trivial) fun fault hfault => hrefused (QName.parse_error hfault)

theorem checkDepth (tag : QName) :
    G.Ends levels (fun _ _ => True) (Build.checkDepth G.env tag) := by
  unfold Build.checkDepth
  refine read_any.bind fun levels₁ depth _ _ => ?_
  have hlimit : G.Ends levels₁ (fun _ _ => True)
      (Build.lift (G.env.settings.maxDepth.isExceededBy depth)) :=
    lift (fun _ _ => trivial) fun _ hfault =>
      Limit.isExceededBy_error hfault ▸ Fault.noConfusion
  refine hlimit.bind fun _ exceeded _ _ => ?_
  cases exceeded with
  | true => exact fail nofun
  | false => exact pure trivial

theorem noteElement (e : Element) :
    G.Ends levels (fun _ _ => True) (Build.noteElement G.env e) := by
  exact bind (count _) fun _ _ _ _ => read_any.bind fun _ _ _ _ => record _ _ _ _

theorem noteBlock (kind : String) (yielded : Nat) :
    G.Ends levels (fun _ _ => True) (Build.noteBlock G.env kind yielded) :=
  bind (count _) fun _ _ _ _ => record _ _ _ _

/-- An element is built if its parts are gathered one deeper. -/
theorem elementWith (tag : QName) {gather : Parts → Build Parts}
    (hgather : ∀ levels', levels <+: levels' → G.Ends levels' (fun _ _ => True) (gather {})) :
    G.Ends levels (fun _ _ => True) (Build.elementWith G.env tag gather) := by
  unfold Build.elementWith
  have hbody : G.Ends levels (fun _ _ => True) (do
      Build.checkDepth G.env tag
      let parts ← Build.finish G.env tag (← gather {})
      Pure.pure (Element.mk tag parts.attributes parts.children)) := by
    refine bind (checkDepth tag) fun levels₁ _ hlevels _ => ?_
    refine bind (hgather levels₁ hlevels) fun _ parts _ _ => ?_
    exact bind (finish tag parts) fun _ _ _ _ => pure trivial
  exact bind hbody.deeper fun _ e _ _ => bind (noteElement e) fun _ _ _ _ => pure trivial

end Ends

/-! ## Content -/

namespace Affords

open Ends

variable {E : Engine} (hE : G.Affords n E)
include hE

/-- **Content yields what nests less deep.** -/
theorem content {v : Value} (hv : G.Reaches levels k v) (hcontent : v.isContentBlock = true)
    (hk : k ≤ n) :
    G.Ends levels (fun levels vs => ∃ j < k, ∀ v ∈ vs, G.Reaches levels j v)
      (E.run v [] G.env.rootScope) := by
  cases v with
  | block b =>
    obtain ⟨id, level, hscope, hlevel, hsource, hroom⟩ := hv.holds_of_leaf rfl
    have hrun := hE.block levels b id level level [] G.env.rootScope hscope hlevel
      (Nat.le_refl _) hsource nofun (by omega)
    exact hrun.mono fun _ vs _ hvs => ⟨level + braceCount b.source + 1, by omega, hvs⟩
  | operation o =>
    obtain ⟨hroom, houtcome⟩ := hv.holds_of_leaf rfl
    refine .of_root fun hroot => ?_
    have hrun := hE.operation levels o 0 [] G.env.rootScope 0 houtcome hroot nofun (by omega)
    exact hrun.mono fun _ vs _ hvs => ⟨0, by omega, hvs⟩
  | template t => exact (hv.holds_of_leaf rfl).elim
  | routine mode steps => exact hv.of_routine.1.elim
  | _ => cases hcontent

/-- The texts of a value and of a row of values. -/
theorem attributeText_and_texts (hk : k ≤ n) :
    (∀ v, ∀ {levels}, G.Reaches levels k v →
        G.Ends levels (fun _ _ => True) (Build.attributeText E G.env v)) ∧
      ∀ vs, ∀ {levels}, (∀ v ∈ vs, G.Reaches levels k v) →
        G.Ends levels (fun _ _ => True) (Build.attributeTexts E G.env vs) := by
  apply Build.attributeText.mutual_induct
  case case1 =>
    intro vs ih levels hv
    rw [Build.attributeText]
    exact ih hv.of_list
  case case2 =>
    intro vs ih levels hv
    rw [Build.attributeText]
    exact ih hv.of_tuple
  case case3 =>
    intro e levels _
    rw [Build.attributeText]
    exact pure trivial
  case case4 =>
    intro s levels _
    rw [Build.attributeText]
    exact pure trivial
  case case5 =>
    intro levels _
    rw [Build.attributeText]
    exact pure trivial
  case case6 =>
    intro v _ _ _ _ _ hcontent levels hv
    simp only [Build.attributeText, hcontent, if_true]
    refine bind (hE.content hv hcontent hk) fun levels₁ vs _ hvs => ?_
    obtain ⟨j, hj, hvs⟩ := hvs
    exact hE.texts levels₁ j vs hvs (by omega)
  case case7 =>
    intro v _ _ _ _ _ hplain levels hv
    simp only [Build.attributeText, hplain]
    exact pure trivial
  case case8 =>
    intro levels _
    rw [Build.attributeTexts]
    exact pure trivial
  case case9 =>
    intro v vs ihv ihvs levels hvs
    obtain ⟨hv, hvs⟩ := List.forall_mem_cons.mp hvs
    rw [Build.attributeTexts]
    refine bind (ihv hv) fun _ _ hlevels _ => ?_
    exact bind (ihvs (reaches_mono hvs hlevels (Nat.le_refl _))) fun _ _ _ _ => pure trivial

/-! ## Arguments -/

theorem addContent (tag : QName) (parts : Parts) {v : Value} (hv : G.Reaches levels k v)
    (hcontent : v.isContentBlock = true) (hk : k ≤ n) :
    G.Ends levels (fun _ _ => True) (Build.addContent E G.env tag parts v) := by
  unfold Build.addContent
  exact bind (hE.content hv hcontent hk) fun _ _ _ _ => addChildren tag parts _

theorem takeFirst (tag : QName) (parts : Parts) {v : Value} (hv : G.Reaches levels k v)
    (hk : k ≤ n) :
    G.Ends levels (fun _ _ => True) (Build.takeFirst E G.env tag parts v) := by
  unfold Build.takeFirst
  split
  case h_1 => exact pure trivial
  case h_2 => exact pure trivial
  case h_3 => exact pure trivial
  case h_4 => exact addChildren tag parts _
  case h_5 => exact addChildren tag parts _
  case h_6 => exact addChildren tag parts _
  case h_7 =>
    split
    · rename_i hcontent
      exact hE.addContent tag parts hv hcontent hk
    · exact bind (malformed tag _ _) fun _ _ _ _ => pure trivial

theorem takeSecond (tag : QName) (parts : Parts) (head : Head) {v : Value}
    (hv : G.Reaches levels k v) (hk : k ≤ n) :
    G.Ends levels (fun _ _ => True) (Build.takeSecond E G.env tag parts head v) := by
  have hreading : G.Ends levels (fun _ reading => reading = .content → v.isContentBlock = true)
      (Build.lift (head.reading G.env.settings.contentMarker v)) := by
    rcases head.reading_cases G.env.settings.contentMarker v with ⟨r, hr, hcontent⟩ | ⟨-, hfault⟩
    · rw [hr]
      exact pure hcontent
    · rw [hfault]
      exact fail nofun
  unfold Build.takeSecond
  refine hreading.bind fun levels₁ reading hlevels hcontent => ?_
  have hv₁ := hv.mono hlevels (Nat.le_refl k)
  match reading, hcontent with
  | .content, hcontent => exact hE.addContent tag parts hv₁ (hcontent rfl) hk
  | .declaration ns, _ => exact declare tag parts head ns
  | .flag, _ => exact hE.takeFirst tag parts hv₁ hk
  | .attribute, _ =>
    refine bind (attributeName tag head) fun _ name hlevels₁ _ => ?_
    have hv₂ := hv₁.mono hlevels₁ (Nat.le_refl k)
    refine bind ((hE.attributeText_and_texts hk).1 v hv₂) fun _ text _ _ => ?_
    cases name with
    | some name => exact addAttribute tag parts name text
    | none => exact pure trivial
  | .nothing, _ => exact bind (malformed tag _ _) fun _ _ _ _ => pure trivial

theorem take (tag : QName) (parts : Parts) {v : Value} (hv : G.Reaches levels k v) (hk : k ≤ n) :
    G.Ends levels (fun _ _ => True) (Build.take E G.env tag parts v) := by
  unfold Build.take
  split
  · exact hE.takeFirst tag parts hv hk
  · exact hE.takeSecond tag _ _ hv hk

/-- Arguments are taken one by one. No stream has any left, so the limit on their number is not
reached. -/
theorem feed (tag : QName) (limit : Nat) (parts : Parts) {v : Value} (hv : G.Reaches levels k v)
    (hk : k ≤ n) :
    G.Ends levels (fun _ _ => True) (Build.feed E G.env tag (limit + 1) parts v) := by
  cases v with
  | stream id =>
    rw [Build.feed]
    refine bind (nextChunk id) fun _ chunk _ hnone => ?_
    subst hnone
    exact pure trivial
  | _ => exact hE.take tag parts hv hk

theorem feedAll (tag : QName) {vs : List Value} (hvs : ∀ v ∈ vs, G.Reaches levels k v)
    (hk : k ≤ n) (parts : Parts) :
    G.Ends levels (fun _ _ => True) (Build.feedAll E G.env tag vs parts) := by
  unfold Build.feedAll
  refine read_any.bind fun _ left hlevels _ => foldlM (fun _ parts v hlevels' hmem => ?_) parts
  exact hE.feed tag left parts ((hvs v hmem).mono (hlevels.trans hlevels') (Nat.le_refl k)) hk

/-- **Building an element ends** where there is room for its arguments. -/
theorem element (tag : Value) {args : List Value} (hargs : ∀ v ∈ args, G.Reaches levels k v)
    (hk : k ≤ n) : G.Ends levels (fun _ _ => True) (Build.element E G.env tag args) := by
  unfold Build.element
  refine bind (elementName tag) fun _ name hlevels _ => elementWith name fun _ hlevels' => ?_
  exact hE.feedAll name (reaches_mono hargs (hlevels.trans hlevels') (Nat.le_refl k)) hk {}

end Affords

end Guarding

end TagScript
