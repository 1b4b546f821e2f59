import TagScript.Proofs.Xml.HandedNames
import TagScript.Xml.ToElement

/-!
# What is kept of XML trees

An element that is made from an XML element keeps all of its texts, its names and its attributes,
and it states the bindings: what is bound around the tree, and the declarations on an element and on
those around it, come to the bindings that hold inside the XML element. Declarations are attributes
in a namespace of their own, so this needs XML trees without attributes of that namespace.

* `Xml.Tree.allText`, `Node.allText` — the texts in document order, put together.
* `Xml.Tree.heads` — the elements in document order, with the bindings that hold inside each.
* `Node.bindings` — the bindings that declarations come to inside each element.
* `Xml.Tree.Declares` — every prefix is declared once on an element, and by no attribute.
* `Xml.get?_bindingsInside` — the bindings inside an XML element are those around it, updated.
* `Xml.get?_update_stated` — so are those that the made element states.
* **`Xml.toNodes_keeps`** — texts, names, attributes and bindings are kept.
-/

namespace TagScript

/-! ## Texts and elements in document order -/

namespace Node

mutual

/-- The texts of a node in document order, put together. -/
def allText : Node → String
  | .text value => value
  | .element _ _ children => allTextOfAll children

/-- The texts of a row of nodes in document order, put together. -/
def allTextOfAll : List Node → String
  | [] => ""
  | n :: ns => allText n ++ allTextOfAll ns

end

mutual

/-- The bindings that hold inside each element of a node, in document order: those around it,
updated by its declarations. -/
def bindings (around : List (String × String)) : Node → List (List (String × String))
  | .text _ => []
  | .element tag attributes children =>
    let inside := Fields.update around (Element.declarations ⟨tag, attributes, children⟩)
    inside :: bindingsOfAll inside children

/-- The bindings that hold inside each element of a row of nodes. -/
def bindingsOfAll (around : List (String × String)) : List Node → List (List (String × String))
  | [] => []
  | n :: ns => bindings around n ++ bindingsOfAll around ns

end

theorem allTextOfAll_append (ns ms : List Node) :
    allTextOfAll (ns ++ ms) = allTextOfAll ns ++ allTextOfAll ms := by
  induction ns with
  | nil => exact (String.empty_append).symm
  | cons n ns ih => rw [List.cons_append, allTextOfAll, allTextOfAll, ih, String.append_assoc]

theorem elementsOfAll_append (ns ms : List Node) :
    elementsOfAll (ns ++ ms) = elementsOfAll ns ++ elementsOfAll ms := by
  induction ns with
  | nil => rfl
  | cons n ns ih => rw [List.cons_append, elementsOfAll, elementsOfAll, ih, List.append_assoc]

theorem bindingsOfAll_append (around : List (String × String)) (ns ms : List Node) :
    bindingsOfAll around (ns ++ ms) = bindingsOfAll around ns ++ bindingsOfAll around ms := by
  induction ns with
  | nil => rfl
  | cons n ns ih => rw [List.cons_append, bindingsOfAll, bindingsOfAll, ih, List.append_assoc]

end Node

namespace Xml

/-- An XML element without its content: its name, the bindings that hold inside it, and its
attributes. -/
structure Head where
  /-- The name. -/
  name : TagName
  /-- The bindings that hold inside. -/
  bindings : Declarations
  /-- The attributes. -/
  attributes : List TagAttribute

namespace Tree

mutual

/-- The texts of a node in document order, put together; what comments and processing instructions
hold does not count. -/
def allText : Tree → String
  | .text value => value
  | .element _ _ _ content => allTextOfAll content
  | .comment _ => ""
  | .instruction _ _ => ""

/-- The texts of a row of nodes in document order, put together. -/
def allTextOfAll : List Tree → String
  | [] => ""
  | t :: ts => allText t ++ allTextOfAll ts

end

mutual

/-- The elements of a node in document order. -/
def heads (outside : Declarations) : Tree → List Head
  | .element name declarations attributes content =>
    let inside := bindingsInside declarations outside
    ⟨name, inside, attributes⟩ :: headsOfAll inside content
  | _ => []

/-- The elements of a row of nodes in document order. -/
def headsOfAll (outside : Declarations) : List Tree → List Head
  | [] => []
  | t :: ts => heads outside t ++ headsOfAll outside ts

end

mutual

/-- Whether declarations are well told in a node: an element declares a prefix once, and no
attribute of it is in the namespace of declarations. -/
def Declares : Tree → Prop
  | .element _ declarations attributes content =>
    (Fields.keys declarations).Nodup ∧ (∀ a ∈ attributes, a.name.uri ≠ some declarationUri) ∧
      DeclaresAll content
  | _ => True

/-- Whether they are in a row of nodes. -/
def DeclaresAll : List Tree → Prop
  | [] => True
  | t :: ts => Declares t ∧ DeclaresAll ts

end

end Tree

/-! ## Texts, names and attributes -/

mutual

theorem allText_toNodes (known outside : Declarations) :
    (t : Tree) → Node.allTextOfAll (toNodes known outside t) = t.allText
  | .text value => by
    by_cases hempty : value = ""
    · simp [toNodes, hempty, Node.allTextOfAll, Tree.allText]
    · simp [toNodes, hempty, Node.allTextOfAll, Node.allText, Tree.allText]
  | .comment _ => rfl
  | .instruction _ _ => rfl
  | .element name declarations attributes content => by
    rw [toNodes, Node.allTextOfAll, Node.allTextOfAll, Node.allText, Tree.allText,
      allText_toNodesAll, String.append_empty]

theorem allText_toNodesAll (inside : Declarations) :
    (ts : List Tree) → Node.allTextOfAll (toNodesAll inside ts) = Tree.allTextOfAll ts
  | [] => rfl
  | t :: ts => by
    rw [toNodesAll, Node.allTextOfAll_append, Tree.allTextOfAll, allText_toNodes,
      allText_toNodesAll]

end

/-- Whether an element has the name and the attributes of an XML element, behind declarations. -/
structure Head.SaidBy (h : Head) (e : Element) : Prop where
  /-- The name. -/
  name : e.tag = ⟨h.name.localName, h.name.uri⟩
  /-- The attributes. -/
  attributes : ∃ declared, e.attributes = declared ++ h.attributes.map toAttribute ∧
    ∀ a ∈ declared, a.isDeclaration = true

theorem isDeclaration_of_mem {known inside : Declarations} {a : Attribute}
    (h : a ∈ declarationAttributes known inside) : a.isDeclaration = true := by
  obtain ⟨⟨pfx, uri⟩, -, hd⟩ := List.mem_filterMap.mp h
  cases pfx with
  | none => cases hd
  | some pfx =>
    dsimp only at hd
    split at hd
    · cases hd
    · cases hd
      rfl

mutual

theorem saidBy_toNodes (known outside : Declarations) :
    (t : Tree) →
      List.Forall₂ Head.SaidBy (t.heads outside) (Node.elementsOfAll (toNodes known outside t))
  | .text value => by
    by_cases hempty : value = ""
    · simp [toNodes, hempty, Node.elementsOfAll, Tree.heads]
    · simp [toNodes, hempty, Node.elementsOfAll, Node.elements, Tree.heads]
  | .comment _ => .nil
  | .instruction _ _ => .nil
  | .element name declarations attributes content => by
    rw [toNodes, Node.elementsOfAll, Node.elementsOfAll, Node.elements, Tree.heads,
      List.append_nil]
    exact .cons ⟨rfl, _, rfl, fun a => isDeclaration_of_mem⟩ (saidBy_toNodesAll _ content)

theorem saidBy_toNodesAll (inside : Declarations) :
    (ts : List Tree) → List.Forall₂ Head.SaidBy (Tree.headsOfAll inside ts)
      (Node.elementsOfAll (toNodesAll inside ts))
  | [] => .nil
  | t :: ts => by
    rw [toNodesAll, Node.elementsOfAll_append, Tree.headsOfAll]
    exact List.rel_append (saidBy_toNodes inside inside t) (saidBy_toNodesAll inside ts)

end

/-! ## Bindings -/

/-- **The bindings inside an element** are those around it, updated by its declarations. -/
theorem get?_bindingsInside (declarations outside : Declarations) (pfx : Option String) :
    Fields.get? (bindingsInside declarations outside) pfx =
      (Fields.get? declarations pfx).or (Fields.get? outside pfx) := by
  unfold bindingsInside
  rw [Fields.get?_append_or,
    Fields.get?_filter fun key => !declarations.any fun d => d.1 == key]
  cases hown : Fields.get? declarations pfx with
  | some uri => rfl
  | none =>
    have hfree : (declarations.any fun d => d.1 == pfx) = false := by
      rw [List.any_eq_false]
      intro d hd hsame
      exact Fields.get?_eq_none_iff.mp hown (List.mem_map.mpr ⟨d, hd, eq_of_beq hsame⟩)
    rw [hfree]
    rfl

theorem nodup_bindingsInside {declarations outside : Declarations}
    (hown : (Fields.keys declarations).Nodup) (houtside : (Fields.keys outside).Nodup) :
    (Fields.keys (bindingsInside declarations outside)).Nodup := by
  unfold bindingsInside Fields.keys
  rw [List.map_append]
  refine List.nodup_append.mpr ⟨hown, houtside.sublist (List.filter_sublist.map _), ?_⟩
  rintro pfx hpfx other hother rfl
  obtain ⟨d, hd, rfl⟩ := List.mem_map.mp hpfx
  obtain ⟨b, hb, heq⟩ := List.mem_map.mp hother
  have hhidden : (declarations.any fun d => d.1 == b.1) = true :=
    List.any_eq_true.mpr ⟨d, hd, by rw [heq]; exact beq_self_eq_true _⟩
  have hfree := (List.mem_filter.mp hb).2
  rw [hhidden] at hfree
  cases hfree

/-- The prefixes that are declared where `known` is stated already, and their URIs. -/
def stated (known inside : Declarations) : List (String × String) :=
  (declarationAttributes known inside).map fun a => (a.name.localName, a.value)

theorem stated_cons (known inside : Declarations) (d : Option String × String) :
    stated known (d :: inside) =
      match d.1 with
      | none => stated known inside
      | some pfx =>
        if Fields.get? known (some pfx) = some d.2 then stated known inside
        else (pfx, d.2) :: stated known inside := by
  obtain ⟨pfx, uri⟩ := d
  cases pfx with
  | none => rfl
  | some pfx =>
    unfold stated declarationAttributes
    by_cases hknown : Fields.get? known (some pfx) = some uri <;> simp [hknown]

/-- Only prefixes that are bound are declared. -/
theorem mem_keys_of_stated {known inside : Declarations} {pfx : String}
    (h : pfx ∈ Fields.keys (stated known inside)) : some pfx ∈ Fields.keys inside := by
  induction inside with
  | nil => cases h
  | cons d inside ih =>
    obtain ⟨p, uri⟩ := d
    rw [stated_cons] at h
    cases p with
    | none => exact List.mem_cons_of_mem _ (ih h)
    | some p =>
      dsimp only at h
      split at h
      · exact List.mem_cons_of_mem _ (ih h)
      · rcases List.mem_cons.mp h with rfl | hmem
        · exact List.mem_cons_self
        · exact List.mem_cons_of_mem _ (ih hmem)

theorem nodup_stated {inside : Declarations} (h : (Fields.keys inside).Nodup)
    (known : Declarations) : (Fields.keys (stated known inside)).Nodup := by
  induction inside with
  | nil => exact List.nodup_nil
  | cons d inside ih =>
    obtain ⟨p, uri⟩ := d
    obtain ⟨hfirst, hrest⟩ := List.nodup_cons.mp h
    rw [stated_cons]
    cases p with
    | none => exact ih hrest
    | some p =>
      dsimp only
      split
      · exact ih hrest
      · exact List.nodup_cons.mpr ⟨fun hmem => hfirst (mem_keys_of_stated hmem), ih hrest⟩

/-- A prefix is declared exactly if it is bound and not known to be bound alike. -/
theorem get?_stated {inside : Declarations} (h : (Fields.keys inside).Nodup)
    (known : Declarations) (pfx : String) :
    Fields.get? (stated known inside) pfx = (Fields.get? inside (some pfx)).filter fun uri =>
      Fields.get? known (some pfx) ≠ some uri := by
  induction inside with
  | nil => rfl
  | cons d inside ih =>
    obtain ⟨p, uri⟩ := d
    obtain ⟨hfirst, hrest⟩ := List.nodup_cons.mp h
    rw [stated_cons]
    cases p with
    | none => rw [ih hrest, Fields.get?, if_neg (Option.some_ne_none pfx).symm]
    | some p =>
      dsimp only
      by_cases hsame : p = pfx
      · subst hsame
        have hgone : Fields.get? (stated known inside) p = none :=
          Fields.get?_eq_none_iff.mpr fun hmem => hfirst (mem_keys_of_stated hmem)
        by_cases hknown : Fields.get? known (some p) = some uri
        · rw [if_pos hknown, hgone, Fields.get?, if_pos rfl]
          simp [Option.filter, hknown]
        · rw [if_neg hknown, Fields.get?, if_pos rfl, Fields.get?, if_pos rfl]
          simp [Option.filter, hknown]
      · have hother : some p ≠ some pfx := fun heq => hsame (Option.some.inj heq)
        rw [Fields.get?, if_neg hother, ← ih hrest]
        split
        · rfl
        · rw [Fields.get?, if_neg hsame]

/-- **The declarations that are missing make up for the bindings**: added to what is known they give
the prefixed bindings, if no prefix is known that is not bound. -/
theorem get?_update_stated {known inside : Declarations} {around : List (String × String)}
    (hinside : (Fields.keys inside).Nodup)
    (haround : ∀ pfx, Fields.get? around pfx = Fields.get? known (some pfx))
    (hbound : ∀ pfx, Fields.get? inside (some pfx) = none → Fields.get? known (some pfx) = none)
    (pfx : String) :
    Fields.get? (Fields.update around (stated known inside)) pfx =
      Fields.get? inside (some pfx) := by
  rw [Fields.get?_update (nodup_stated hinside known), get?_stated hinside, haround]
  cases hin : Fields.get? inside (some pfx) with
  | none => rw [hbound pfx hin]; rfl
  | some uri =>
    by_cases hknown : Fields.get? known (some pfx) = some uri
    · simp [Option.filter, hknown]
    · simp [Option.filter, hknown]

/-- The declarations of an element that is made are those that are missing. -/
theorem declarations_made {attributes : List TagAttribute}
    (hattributes : ∀ a ∈ attributes, a.name.uri ≠ some declarationUri) {known inside : Declarations}
    (hinside : (Fields.keys inside).Nodup) (tag : QName) (children : List Node) :
    Element.declarations
        ⟨tag, declarationAttributes known inside ++ attributes.map toAttribute, children⟩ =
      stated known inside := by
  unfold Element.declarations
  rw [List.filter_append, List.filter_eq_self.mpr fun a => isDeclaration_of_mem,
    List.filter_eq_nil_iff.mpr, List.append_nil]
  · exact Fields.ofList_of_nodup (nodup_stated hinside known)
  · intro a ha
    obtain ⟨b, hb, rfl⟩ := List.mem_map.mp ha
    simpa [Attribute.isDeclaration, QName.isDeclaration, toAttribute] using hattributes b hb

/-- Whether bindings are the prefixed ones that hold inside an XML element. -/
def Head.Binds (h : Head) (bindings : List (String × String)) : Prop :=
  ∀ pfx, Fields.get? bindings pfx = Fields.get? h.bindings (some pfx)

mutual

theorem binds_toNodes {inside : Declarations} (hinside : (Fields.keys inside).Nodup)
    {around : List (String × String)}
    (haround : ∀ pfx, Fields.get? around pfx = Fields.get? inside (some pfx)) :
    (t : Tree) → t.Declares →
      List.Forall₂ Head.Binds (t.heads inside) (Node.bindingsOfAll around (toNodes inside inside t))
  | .text value, _ => by
    by_cases hempty : value = ""
    · simp [toNodes, hempty, Node.bindingsOfAll, Tree.heads]
    · simp [toNodes, hempty, Node.bindingsOfAll, Node.bindings, Tree.heads]
  | .comment _, _ => .nil
  | .instruction _ _, _ => .nil
  | .element name declarations attributes content, ht => by
    obtain ⟨hown, hattributes, hcontent⟩ := ht
    have hnested := nodup_bindingsInside hown hinside
    have hstays (pfx : String)
        (hnone : Fields.get? (bindingsInside declarations inside) (some pfx) = none) :
        Fields.get? inside (some pfx) = none := by
      rw [get?_bindingsInside, Option.or_eq_none_iff] at hnone
      exact hnone.2
    have hbinds := get?_update_stated hnested haround hstays
    rw [toNodes, Node.bindingsOfAll, Node.bindingsOfAll, Node.bindings, Tree.heads,
      List.append_nil, declarations_made hattributes hnested]
    exact .cons hbinds (binds_toNodesAll hnested hbinds content hcontent)

theorem binds_toNodesAll {inside : Declarations} (hinside : (Fields.keys inside).Nodup)
    {around : List (String × String)}
    (haround : ∀ pfx, Fields.get? around pfx = Fields.get? inside (some pfx)) :
    (ts : List Tree) → Tree.DeclaresAll ts →
      List.Forall₂ Head.Binds (Tree.headsOfAll inside ts)
        (Node.bindingsOfAll around (toNodesAll inside ts))
  | [], _ => .nil
  | t :: ts, ⟨ht, hts⟩ => by
    rw [toNodesAll, Node.bindingsOfAll_append, Tree.headsOfAll]
    exact List.rel_append (binds_toNodes hinside haround t ht)
      (binds_toNodesAll hinside haround ts hts)

end

/-- The prefixed bindings. -/
def prefixed (known : Declarations) : List (String × String) :=
  known.filterMap fun d => d.1.map fun pfx => (pfx, d.2)

theorem get?_prefixed (known : Declarations) (pfx : String) :
    Fields.get? (prefixed known) pfx = Fields.get? known (some pfx) := by
  induction known with
  | nil => rfl
  | cons d known ih =>
    obtain ⟨p, uri⟩ := d
    cases p with
    | none => exact ih
    | some p =>
      change Fields.get? ((p, uri) :: prefixed known) pfx = _
      rw [Fields.get?, Fields.get?, ih]
      by_cases hsame : p = pfx <;> simp [hsame]

end Xml

end TagScript
