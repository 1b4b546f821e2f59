import TagScript.Value.Cast
import TagScript.Value.Member

/-!
# What holds of every part of a value

Lists, rows, maps, things with members, generators and routines are made of other values. What holds
of the values at their ends is handed on to whatever they are spread into, and to their members.

* `Value.Every` — a property holds of every end of a value.
* `Every.spread`, `Every.items` — it holds of what the value stands for.
* `Value.Harmless` — the values that members bring along by themselves.
* **`KeepsMembers.every_path`** — it holds of the value at the end of a row of members.
-/

namespace TagScript

/-- The values that a step of a routine holds. -/
def Step.values : Step → List Value
  | .element tag args => tag :: args
  | .text v => [v]
  | .get _ default => [default]
  | .set _ v => [v]
  | .value v => [v]
  | .qname _ | .prefixes | .fail _ => []

/-- A step is larger than the values that it holds. -/
theorem Step.sizeOf_lt_of_mem {step : Step} {v : Value} (h : v ∈ step.values) :
    sizeOf v < sizeOf step := by
  cases step with
  | element tag args =>
    rcases List.mem_cons.mp h with rfl | h
    · simp only [Step.element.sizeOf_spec]
      omega
    · have := List.sizeOf_lt_of_mem h
      simp only [Step.element.sizeOf_spec]
      omega
  | text w | get _ w | set _ w | value w =>
    cases List.mem_singleton.mp h
    simp only [Step.text.sizeOf_spec, Step.get.sizeOf_spec, Step.set.sizeOf_spec,
      Step.value.sizeOf_spec]
    omega
  | qname _ | prefixes | fail _ => cases h

namespace Value

/-- Whether a value is made of other values. -/
def isCompound : Value → Bool
  | .list _ | .tuple _ | .map _ | .object _ | .generator _ | .routine .. => true
  | _ => false

/-- Whether a property holds of every end of a value; it is asked of routines themselves too. -/
inductive Every (p : Value → Prop) : Value → Prop where
  /-- An end. -/
  | leaf {v : Value} (simple : v.isCompound = false) (holds : p v) : Every p v
  /-- A list. -/
  | list {vs : List Value} (items : ∀ v ∈ vs, Every p v) : Every p (.list vs)
  /-- A row of fixed length. -/
  | tuple {vs : List Value} (items : ∀ v ∈ vs, Every p v) : Every p (.tuple vs)
  /-- A map. -/
  | map {entries : List (Value × Value)} (keys : ∀ e ∈ entries, Every p e.1)
    (values : ∀ e ∈ entries, Every p e.2) : Every p (.map entries)
  /-- A thing with members. -/
  | object {members : List (String × Value)} (values : ∀ m ∈ members, Every p m.2) :
    Every p (.object members)
  /-- Values that are produced one by one. -/
  | generator {vs : List Value} (items : ∀ v ∈ vs, Every p v) : Every p (.generator vs)
  /-- A routine. -/
  | routine {mode : RoutineMode} {steps : List Step} (holds : p (.routine mode steps))
    (values : ∀ step ∈ steps, ∀ v ∈ step.values, Every p v) : Every p (.routine mode steps)

namespace Every

variable {p q : Value → Prop} {v w : Value} {vs : List Value}

/-! ## The parts of a value -/

theorem holds_of_leaf (h : Every p v) (simple : v.isCompound = false) : p v := by
  cases h with
  | leaf _ holds => exact holds
  | _ => cases simple

theorem of_list (h : Every p (.list vs)) : ∀ v ∈ vs, Every p v := by
  cases h with
  | leaf simple _ => cases simple
  | list items => exact items

theorem of_tuple (h : Every p (.tuple vs)) : ∀ v ∈ vs, Every p v := by
  cases h with
  | leaf simple _ => cases simple
  | tuple items => exact items

theorem of_generator (h : Every p (.generator vs)) : ∀ v ∈ vs, Every p v := by
  cases h with
  | leaf simple _ => cases simple
  | generator items => exact items

theorem of_map {entries : List (Value × Value)} (h : Every p (.map entries)) :
    ∀ e ∈ entries, Every p e.2 := by
  cases h with
  | leaf simple _ => cases simple
  | map _ values => exact values

theorem of_object {members : List (String × Value)} (h : Every p (.object members)) :
    ∀ m ∈ members, Every p m.2 := by
  cases h with
  | leaf simple _ => cases simple
  | object values => exact values

theorem of_routine {mode : RoutineMode} {steps : List Step} (h : Every p (.routine mode steps)) :
    p (.routine mode steps) ∧ ∀ step ∈ steps, ∀ v ∈ step.values, Every p v := by
  cases h with
  | leaf simple _ => cases simple
  | routine holds values => exact ⟨holds, values⟩

/-- What holds of every end holds when it is weakened. -/
theorem mono (hpq : ∀ v, p v → q v) (h : Every p v) : Every q v := by
  induction h with
  | leaf simple holds => exact .leaf simple (hpq _ holds)
  | list _ ih => exact .list ih
  | tuple _ ih => exact .tuple ih
  | map _ _ ihkeys ihvalues => exact .map ihkeys ihvalues
  | object _ ih => exact .object ih
  | generator _ ih => exact .generator ih
  | routine holds _ ih => exact .routine (hpq _ holds) ih

/-- What holds of every value holds of every part of a value. -/
theorem of_forall (h : ∀ v, p v) (v : Value) : v.Every p := by
  have hpair {α β : Type} [SizeOf α] [SizeOf β] {e : α × β} {es : List (α × β)} (he : e ∈ es) :
      sizeOf e.1 < sizeOf es ∧ sizeOf e.2 < sizeOf es := by
    have hmem := List.sizeOf_lt_of_mem he
    obtain ⟨a, b⟩ := e
    rw [Prod.mk.sizeOf_spec] at hmem
    dsimp only
    omega
  induction hn : sizeOf v using Nat.strongRecOn generalizing v with
  | ind n ih =>
    subst hn
    have hrow {vs : List Value} (hlt : sizeOf vs < sizeOf v) : ∀ w ∈ vs, w.Every p :=
      fun w hw => ih _ (Nat.lt_trans (List.sizeOf_lt_of_mem hw) hlt) w rfl
    cases v with
    | list vs => exact .list (hrow (by simp))
    | tuple vs => exact .tuple (hrow (by simp))
    | generator vs => exact .generator (hrow (by simp))
    | map entries =>
      have hlt : sizeOf entries < sizeOf (Value.map entries) := by simp
      exact .map (fun e he => ih _ (Nat.lt_trans (hpair he).1 hlt) e.1 rfl)
        fun e he => ih _ (Nat.lt_trans (hpair he).2 hlt) e.2 rfl
    | object members =>
      have hlt : sizeOf members < sizeOf (Value.object members) := by simp
      exact .object fun m hm => ih _ (Nat.lt_trans (hpair hm).2 hlt) m.2 rfl
    | routine mode steps =>
      have hlt : sizeOf steps < sizeOf (Value.routine mode steps) := by
        simp only [Value.routine.sizeOf_spec]
        omega
      refine .routine (h _) fun step hstep w hw => ih _ ?_ w rfl
      exact Nat.lt_trans (Step.sizeOf_lt_of_mem hw) (Nat.lt_trans (List.sizeOf_lt_of_mem hstep) hlt)
    | _ => exact .leaf rfl (h _)

/-! ## What a value stands for -/

theorem items (h : Every p v) : ∀ w ∈ v.items, Every p w := by
  intro w hw
  cases v with
  | null => cases hw
  | list vs => exact h.of_list w hw
  | tuple vs => exact h.of_tuple w hw
  | _ =>
    rw [List.mem_singleton.mp hw]
    exact h

/-- What values are spread into, one by one and as a row. -/
theorem spread_and_spreadAll :
    (∀ v : Value, Every p v → ∀ w ∈ v.spread, Every p w) ∧
      ∀ vs : List Value, (∀ v ∈ vs, Every p v) → ∀ w ∈ spreadAll vs, Every p w := by
  apply spread.mutual_induct
  case case1 => exact fun _ _ hw => by cases hw
  case case2 =>
    intro vs ih h
    rw [Value.spread]
    exact ih h.of_list
  case case3 =>
    intro vs ih h
    rw [Value.spread]
    exact ih h.of_tuple
  case case4 =>
    intro vs ih h
    rw [Value.spread]
    exact ih h.of_generator
  case case5 =>
    intro v hnull hlist htuple hgenerator h w hw
    have hself : v.spread = [v] := by
      cases v <;> first | rfl | exact absurd rfl hnull | exact absurd rfl (hlist _) |
        exact absurd rfl (htuple _) | exact absurd rfl (hgenerator _)
    rw [hself] at hw
    rw [List.mem_singleton.mp hw]
    exact h
  case case6 => exact fun _ _ hw => by cases hw
  case case7 =>
    intro v vs ihv ihvs h w hw
    rw [spreadAll] at hw
    obtain ⟨hv, hvs⟩ := List.forall_mem_cons.mp h
    rcases List.mem_append.mp hw with hw | hw
    · exact ihv hv w hw
    · exact ihvs hvs w hw

theorem spread (h : Every p v) : ∀ w ∈ v.spread, Every p w :=
  spread_and_spreadAll.1 v h

theorem spreadAll (h : ∀ v ∈ vs, Every p v) : ∀ w ∈ spreadAll vs, Every p w :=
  spread_and_spreadAll.2 vs h

end Every

/-! ## Values that members bring along -/

/-- Whether a value is plain data, a part of a tree that holds no name, or an operation that runs
into nothing but being given the surroundings of the content. -/
def Harmless : Value → Prop
  | .null | .bool _ | .int _ | .float _ | .str _ | .ns _ | .text _ | .xmlAttributes _ | .token _
  | .tokenKind _ | .reader => True
  | .operation o => ∀ f, o.outcome = .error f →
    f = .wrongKind .unsupported ∨ f = .missingMember ∨ ∃ text, f = .invalid (.complaint text)
  | _ => False

/-- A property of the ends of values that members do not lose. -/
structure KeepsMembers (p : Value → Prop) : Prop where
  /-- Members bring plain data along. -/
  harmless : ∀ v : Value, v.Harmless → p v
  /-- An element brings its name, its attributes and the elements in it along. -/
  element : ∀ e : Element, p (.element e) → p (.name e.tag) ∧
    (∀ a ∈ e.attributes, p (.attribute a)) ∧ ∀ child ∈ e.childElements, p (.element child)
  /-- An attribute brings its name along. -/
  attributeName : ∀ a : Attribute, p (.attribute a) → p (.name a.name)
  /-- A document brings elements along, and the operation of writing it. -/
  document : ∀ d : Document, p (.document d) → (∀ e, p (.element e)) ∧
    ∀ o, documentMember? d "to_string" = some (.operation o) → p (.operation o)
  /-- A block brings the scope along that it was written in. -/
  block : ∀ (b : ScriptBlock) (id : ScopeId), p (.block b) → b.scope = some id → p (.scope id)

section

variable {p : Value → Prop} (K : KeepsMembers p)
include K

theorem KeepsMembers.every {v : Value} (simple : v.isCompound = false) (h : v.Harmless) :
    Every p v :=
  .leaf simple (K.harmless v h)

theorem KeepsMembers.every_str (s : String) : Every p (.str s) :=
  K.every rfl trivial

theorem KeepsMembers.every_ofOption (o : Option String) : Every p (ofOption o) := by
  cases o with
  | none => exact K.every rfl trivial
  | some s => exact K.every_str s

/-- An operation that accepts no surroundings, or does whatever it is given. -/
theorem KeepsMembers.every_operation {o : Operation}
    (h : ∀ f, o.outcome = .error f →
      f = .wrongKind .unsupported ∨ f = .missingMember ∨ ∃ text, f = .invalid (.complaint text)) :
    Every p (.operation o) :=
  K.every rfl h

theorem KeepsMembers.every_unsupported (isOfData : Bool) :
    Every p (.operation ⟨isOfData, .error (.wrongKind .unsupported)⟩) :=
  K.every_operation fun f hf => .inl (by cases hf; rfl)

theorem KeepsMembers.every_missing (isOfData : Bool) :
    Every p (.operation ⟨isOfData, .error .missingMember⟩) :=
  K.every_operation fun f hf => .inr (.inl (by cases hf; rfl))

theorem KeepsMembers.every_complaint (isOfData : Bool) (text : String) :
    Every p (.operation ⟨isOfData, .error (.invalid (.complaint text))⟩) :=
  K.every_operation fun f hf => .inr (.inr ⟨text, by cases hf; rfl⟩)

theorem KeepsMembers.every_yielding (isOfData : Bool) (result : Json) :
    Every p (.operation ⟨isOfData, .ok result⟩) :=
  K.every_operation fun f hf => by cases hf

/-- The data of a configuration is harmless. -/
theorem KeepsMembers.every_ofJson (j : Json) : Every p (ofJson j) := by
  apply ofJson.induct (fun js => ∀ v ∈ ofJson.ofJsonAll js, Every p v) (fun j => Every p (ofJson j))
    (fun fields => ∀ e ∈ ofJson.ofFields fields, Every p e.1 ∧ Every p e.2)
  case case6 => exact fun vs ih => .list ih
  case case7 => exact fun fields ih => .map (fun e he => (ih e he).1) fun e he => (ih e he).2
  case case8 => exact fun _ hv => by cases hv
  case case9 => exact fun v vs ihv ihvs => List.forall_mem_cons.mpr ⟨ihv, ihvs⟩
  case case10 => exact fun _ he => by cases he
  case case11 =>
    exact fun key v rest ihv ihrest => List.forall_mem_cons.mpr ⟨⟨K.every_str key, ihv⟩, ihrest⟩
  all_goals
    intros
    exact K.every rfl trivial

/-! ## Members -/

omit K in
theorem every_of_some {v w : Value} (h : some v = some w) (hv : Every p v) : Every p w := by
  cases h
  exact hv

omit K in
/-- The entry of a map is a value of the map. -/
theorem every_entryOf? {entries : List (Value × Value)} (hentries : ∀ e ∈ entries, Every p e.2)
    {key : String} {w : Value} (h : entryOf? entries key = some w) : Every p w := by
  unfold entryOf? at h
  obtain ⟨e, hfound, rfl⟩ := Option.map_eq_some_iff.mp h
  rcases Option.or_eq_some_iff.mp hfound with hfound | ⟨-, hfound⟩
  · exact hentries e (List.mem_of_find?_eq_some hfound)
  · exact hentries e (List.mem_of_find?_eq_some hfound)

theorem KeepsMembers.every_textMember? {s key : String} {w : Value}
    (h : textMember? s key = some w) : Every p w := by
  unfold textMember? at h
  split at h
  · split at h
    · exact every_of_some h (K.every_unsupported true)
    · exact every_of_some h (K.every_yielding true _)
  · split at h
    · exact every_of_some h (K.every_unsupported true)
    · cases h

theorem KeepsMembers.every_listMember? {key : String} {w : Value}
    (h : listMember? key = some w) : Every p w := by
  unfold listMember? at h
  split at h
  · exact every_of_some h (K.every_yielding true _)
  · split at h
    · exact every_of_some h (K.every_yielding true _)
    · split at h
      · exact every_of_some h (K.every_complaint true _)
      · split at h
        · exact every_of_some h (K.every_unsupported true)
        · cases h

theorem KeepsMembers.every_tupleMember? {key : String} {w : Value}
    (h : tupleMember? key = some w) : Every p w := by
  unfold tupleMember? at h
  split at h
  · exact every_of_some h (K.every_yielding true _)
  · split at h
    · exact every_of_some h (K.every_complaint true _)
    · cases h

theorem KeepsMembers.every_treeOperation? {key : String} {w : Value}
    (h : treeOperation? key = some w) : Every p w := by
  unfold treeOperation? at h
  split at h
  · exact every_of_some h (K.every_yielding false _)
  · exact every_of_some h (K.every_yielding false _)
  · exact every_of_some h (K.every_unsupported false)
  · exact every_of_some h (K.every_unsupported false)
  · cases h

theorem KeepsMembers.every_ofNode {n : Node} (helement : ∀ e, n.element? = some e → p (.element e)) :
    Every p (ofNode n) := by
  cases n with
  | text s => exact K.every rfl trivial
  | element tag attributes children => exact .leaf rfl (helement _ rfl)

theorem KeepsMembers.every_elementMember? {e : Element} (he : p (.element e)) {key : String}
    {w : Value} (h : elementMember? e key = some w) : Every p w := by
  obtain ⟨htag, hattributes, hchildren⟩ := K.element e he
  unfold elementMember? at h
  split at h
  · exact every_of_some h (.leaf rfl htag)
  · refine every_of_some h (.tuple fun v hv => ?_)
    obtain ⟨a, ha, rfl⟩ := List.mem_map.mp hv
    exact .leaf rfl (hattributes a ha)
  · refine every_of_some h (.tuple fun v hv => ?_)
    obtain ⟨n, hn, rfl⟩ := List.mem_map.mp hv
    exact K.every_ofNode fun child hchild => hchildren child (List.mem_filterMap.mpr ⟨n, hn, hchild⟩)
  · exact every_of_some h (K.every_str _)
  · exact every_of_some h (K.every_ofOption _)
  · exact every_of_some h (K.every_str _)
  · refine every_of_some h (.list fun v hv => ?_)
    obtain ⟨child, hchild, rfl⟩ := List.mem_map.mp hv
    exact .leaf rfl (hchildren child hchild)
  · refine every_of_some h (.map (fun d hd => ?_) fun d hd => ?_)
    · obtain ⟨d, -, rfl⟩ := List.mem_map.mp hd
      exact K.every_str _
    · obtain ⟨d, -, rfl⟩ := List.mem_map.mp hd
      exact K.every_str _
  · exact every_of_some h (K.every_yielding false _)
  · exact every_of_some h (K.every_yielding false _)
  · exact K.every_treeOperation? h

theorem KeepsMembers.every_textNodeMember? {s key : String} {w : Value}
    (h : textNodeMember? s key = some w) : Every p w := by
  unfold textNodeMember? at h
  split at h
  · exact every_of_some h (K.every_str _)
  · exact every_of_some h (K.every_unsupported false)
  · cases h

theorem KeepsMembers.every_nameMember? {q : QName} {key : String} {w : Value}
    (h : nameMember? q key = some w) : Every p w := by
  unfold nameMember? at h
  split at h
  · exact every_of_some h (K.every_str _)
  · exact every_of_some h (K.every_ofOption _)
  · exact every_of_some h (K.every_str _)
  · exact every_of_some h (K.every rfl trivial)
  · exact every_of_some h (K.every_unsupported false)
  · cases h

theorem KeepsMembers.every_attributeMember? {a : Attribute} (ha : p (.attribute a)) {key : String}
    {w : Value} (h : attributeMember? a key = some w) : Every p w := by
  unfold attributeMember? at h
  split at h
  · exact every_of_some h (.leaf rfl (K.attributeName a ha))
  · exact every_of_some h (K.every_str _)
  · exact every_of_some h (K.every_str _)
  · exact every_of_some h (K.every rfl trivial)
  · cases h

theorem KeepsMembers.every_documentMember? {d : Document} (hd : p (.document d)) {key : String}
    {w : Value} (h : documentMember? d key = some w) : Every p w := by
  obtain ⟨helement, hoperation⟩ := K.document d hd
  unfold documentMember? at h
  split at h
  · exact every_of_some h (.leaf rfl (helement d.root))
  · exact every_of_some h (K.every_str _)
  · exact every_of_some h (K.every_ofJson _)
  · exact every_of_some h (K.every_str _)
  · exact every_of_some h (K.every_ofOption _)
  · exact every_of_some h (.list (List.forall_mem_nil _))
  · exact every_of_some h (K.every rfl trivial)
  · exact every_of_some h (.leaf rfl (hoperation _ rfl))
  · exact every_of_some h (K.every_unsupported false)
  · exact every_of_some h (K.every_unsupported false)
  · exact K.every_treeOperation? h

theorem KeepsMembers.every_tokens (ts : List Token) : Every p (.tuple (ts.map .token)) := by
  refine .tuple fun v hv => ?_
  obtain ⟨t, -, rfl⟩ := List.mem_map.mp hv
  exact K.every rfl trivial

theorem KeepsMembers.every_templateMember? {t : Template} {key : String} {w : Value}
    (h : templateMember? t key = some w) : Every p w := by
  unfold templateMember? at h
  split at h
  · exact every_of_some h (K.every_str _)
  · exact every_of_some h (K.every_str _)
  · refine every_of_some h (.tuple fun v hv => ?_)
    obtain ⟨b, -, rfl⟩ := List.mem_map.mp hv
    refine .tuple (List.forall_mem_cons.mpr ⟨K.every_str _, ?_⟩)
    exact List.forall_mem_singleton.mpr (K.every_str _)
  · exact every_of_some h (K.every_tokens _)
  · exact every_of_some h (K.every_tokens _)
  · exact every_of_some h (K.every_tokens _)
  · exact every_of_some h (K.every_ofJson _)
  · exact every_of_some h (K.every rfl trivial)
  · cases h

theorem KeepsMembers.every_blockMember? {b : ScriptBlock} (hb : p (.block b)) {key : String}
    {w : Value} (h : blockMember? b key = some w) : Every p w := by
  unfold blockMember? at h
  split at h
  · exact every_of_some h (K.every_str _)
  · exact every_of_some h (K.every rfl trivial)
  · refine every_of_some h ?_
    cases hscope : b.scope with
    | none => exact K.every rfl trivial
    | some id => exact .leaf rfl (K.block b id hb hscope)
  · exact every_of_some h (K.every_unsupported false)
  · cases h

theorem KeepsMembers.every_scopeMember? {parent : Option ScopeId}
    (hparent : ∀ id, parent = some id → p (.scope id)) {key : String} {w : Value}
    (h : scopeMember? parent key = some w) : Every p w := by
  unfold scopeMember? at h
  split at h
  · refine every_of_some h ?_
    cases parent with
    | none => exact K.every rfl trivial
    | some id => exact .leaf rfl (hparent id rfl)
  · exact every_of_some h (K.every_missing false)
  · exact every_of_some h (K.every_missing false)
  · exact every_of_some h (K.every_missing false)
  · exact every_of_some h (K.every_unsupported false)
  · exact every_of_some h (K.every_unsupported false)
  · cases h

theorem KeepsMembers.every_intMember? {i : Int} {key : String} {w : Value}
    (h : intMember? i key = some w) : Every p w := by
  unfold intMember? at h
  split at h
  case h_5 =>
    split at h
    · exact every_of_some h (K.every_unsupported true)
    · cases h
  all_goals exact every_of_some h (K.every rfl trivial)

theorem KeepsMembers.every_floatMember? {x : Float} {key : String} {w : Value}
    (h : floatMember? x key = some w) : Every p w := by
  unfold floatMember? at h
  split at h
  · exact every_of_some h (K.every rfl trivial)
  · exact every_of_some h (K.every rfl trivial)
  · split at h
    · exact every_of_some h (K.every_unsupported true)
    · cases h

theorem KeepsMembers.every_tokenMember? {t : Token} {key : String} {w : Value}
    (h : tokenMember? t key = some w) : Every p w := by
  unfold tokenMember? at h
  split at h
  case h_9 => exact every_of_some h (K.every_ofJson _)
  case h_10 => cases h
  all_goals exact every_of_some h (K.every rfl trivial)

theorem KeepsMembers.every_tokenKindMember? {k : TokenKind} {key : String} {w : Value}
    (h : tokenKindMember? k key = some w) : Every p w := by
  unfold tokenKindMember? at h
  split at h
  · exact every_of_some h (K.every_str _)
  · exact every_of_some h (K.every rfl trivial)
  · cases h

theorem KeepsMembers.every_xmlMember? {t : Xml.Tree} {tail : Option String} {key : String}
    {w : Value} (h : xmlMember? t tail key = some w) : Every p w := by
  have hbindings (declarations : Xml.Declarations) : Every p (bindings declarations) := by
    refine .map (fun d hd => ?_) fun d hd => ?_
    · obtain ⟨d, -, rfl⟩ := List.mem_map.mp hd
      exact K.every_ofOption _
    · obtain ⟨d, -, rfl⟩ := List.mem_map.mp hd
      exact K.every_str _
  unfold xmlMember? at h
  split at h
  case h_4 | h_5 => exact every_of_some h (hbindings _)
  case h_6 => exact every_of_some h (K.every rfl trivial)
  case h_1 | h_3 => exact every_of_some h (K.every_ofOption _)
  case h_11 =>
    split at h
    · exact every_of_some h (K.every_unsupported false)
    · cases h
  all_goals exact every_of_some h (K.every_str _)

/-- **A member of a value is made of what the value is**, of plain data and of operations. -/
theorem KeepsMembers.every_member? {around : ScopeId → Option ScopeId}
    (haround : ∀ id outer, p (.scope id) → around id = some outer → p (.scope outer))
    {v : Value} (hv : Every p v) {key : String} {w : Value} (h : member? around key v = some w) :
    Every p w := by
  unfold member? at h
  split at h
  case h_1 => exact every_entryOf? hv.of_map h
  case h_2 => exact hv.of_object (key, w) (Fields.mem_of_get? h)
  case h_3 => exact K.every_textMember? h
  case h_4 => exact K.every_listMember? h
  case h_5 => exact K.every_tupleMember? h
  case h_6 => exact K.every_elementMember? (hv.holds_of_leaf rfl) h
  case h_7 => exact K.every_textNodeMember? h
  case h_8 =>
    split at h
    · exact every_of_some h (K.every_str _)
    · cases h
  case h_9 => exact K.every_nameMember? h
  case h_10 => exact K.every_attributeMember? (hv.holds_of_leaf rfl) h
  case h_11 => exact K.every_documentMember? (hv.holds_of_leaf rfl) h
  case h_12 => exact K.every_blockMember? (hv.holds_of_leaf rfl) h
  case h_13 => exact K.every_templateMember? h
  case h_14 | h_15 => exact K.every_intMember? h
  case h_16 => exact K.every_floatMember? h
  case h_17 => exact K.every_xmlMember? h
  case h_18 =>
    refine every_entryOf? (fun e he => ?_) h
    obtain ⟨entry, -, rfl⟩ := List.mem_map.mp he
    exact K.every_str _
  case h_19 =>
    rename_i id
    exact K.every_scopeMember? (fun outer => haround id outer (hv.holds_of_leaf rfl)) h
  case h_20 => exact K.every_tokenMember? h
  case h_21 => exact K.every_tokenKindMember? h
  case h_22 =>
    split at h
    · exact every_of_some h (K.every rfl trivial)
    · cases h
  case h_23 => cases h

/-- A member that a value does not have is null. -/
theorem KeepsMembers.every_getD_member? {around : ScopeId → Option ScopeId}
    (haround : ∀ id outer, p (.scope id) → around id = some outer → p (.scope outer))
    {v : Value} (hv : Every p v) (key : String) :
    Every p ((member? around key v).getD .null) := by
  cases hmember : member? around key v with
  | none => exact K.every rfl trivial
  | some w => exact K.every_member? haround hv hmember

/-- **The value at the end of a row of members is made of what the value is made of**, of plain data
and of operations. -/
theorem KeepsMembers.every_path {around : ScopeId → Option ScopeId}
    (haround : ∀ id outer, p (.scope id) → around id = some outer → p (.scope outer))
    {v : Value} (hv : Every p v) (keys : List String) : Every p (v.path around keys) := by
  induction keys generalizing v with
  | nil => exact hv
  | cons key keys ih => exact ih (K.every_getD_member? haround hv key)

/-- Members depend on the scopes around those only that the value holds. -/
theorem KeepsMembers.path_congr {around around' : ScopeId → Option ScopeId}
    (haround : ∀ id outer, p (.scope id) → around id = some outer → p (.scope outer))
    (hsame : ∀ id, p (.scope id) → around' id = around id) {v : Value} (hv : Every p v)
    (keys : List String) : v.path around' keys = v.path around keys := by
  induction keys generalizing v with
  | nil => rfl
  | cons key keys ih =>
    have hmember : member? around' key v = member? around key v := by
      cases v with
      | scope id =>
        have hid := hsame id (hv.holds_of_leaf rfl)
        simp only [member?, hid]
      | _ => rfl
    simp only [path, List.foldl_cons, hmember]
    exact ih (K.every_getD_member? haround hv key)

end

end Value

end TagScript
