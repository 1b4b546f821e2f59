import TagScript.Proofs.Xml.Heads
import TagScript.Xml.ToElement

/-!
# There and back

What an element tree becomes as an XML tree, and what that becomes as an element tree again. Texts
that come to stand beside each other are joined on the way, and declarations move.

* `Node.merged` — adjacent texts joined, and empty ones left out.
* `Node.stripped` — without the attributes that declare namespaces.
* `Tree.Renders` — an XML tree that stands for a node.
* `ofNode_makes` — every node that nothing refuses becomes a tree that stands for it.
* **`toElement_ofElement`** — an element tree comes back with adjacent texts joined.
-/

namespace TagScript

namespace Node

/-- Whether a node is a text without characters. -/
def isEmptyText : Node → Bool
  | .text value => value == ""
  | .element .. => false

/-- Puts a node before others; a text is joined with one that it comes to stand beside. -/
def joinFront : Node → List Node → List Node
  | .text a, .text b :: rest => .text (a ++ b) :: rest
  | n, rest => n :: rest

mutual

/-- The node in which, at every depth, adjacent texts are joined and empty ones left out. -/
def merged : Node → Node
  | .text value => .text value
  | .element tag attributes children =>
    .element tag attributes ((joinedAll children).filter fun n => !n.isEmptyText)

/-- A row of nodes, each merged, with adjacent texts joined. -/
def joinedAll : List Node → List Node
  | [] => []
  | n :: ns => joinFront (merged n) (joinedAll ns)

end

mutual

/-- The node without the attributes that declare namespaces, at every depth. -/
def stripped : Node → Node
  | .text value => .text value
  | .element tag attributes children =>
    .element tag (attributes.filter fun a => !a.isDeclaration) (strippedAll children)

/-- A row of nodes without the attributes that declare namespaces. -/
def strippedAll : List Node → List Node
  | [] => []
  | n :: ns => stripped n :: strippedAll ns

end

theorem strippedAll_eq_map (ns : List Node) : strippedAll ns = ns.map stripped := by
  induction ns with
  | nil => rfl
  | cons n ns ih => rw [strippedAll, ih, List.map_cons]

@[simp] theorem isEmptyText_stripped (n : Node) : n.stripped.isEmptyText = n.isEmptyText := by
  cases n <;> rfl

theorem stripped_joinFront (n : Node) (ns : List Node) :
    (joinFront n ns).map stripped = joinFront n.stripped (ns.map stripped) := by
  rcases n with a | _
  · rcases ns with - | ⟨_ | _, ns⟩ <;> rfl
  · rfl

end Node

/-- Nothing in the node is refused, no element has two attributes of one name, and no URI in a name
holds a closing brace. -/
structure Node.Fit (n : Node) : Prop where
  acceptable : ∀ e ∈ n.elements, e.Acceptable
  distinct : ∀ e ∈ n.elements, (e.attributes.map (·.name)).Nodup
  braceless : ∀ e ∈ n.elements, e.Braceless
  text : Xml.Allowed n.ownText

/-- The elements of a child are below the element. -/
theorem Node.elements_subset {children : List Node} {n : Node} (hn : n ∈ children) :
    n.elements ⊆ Node.elementsOfAll children := by
  induction children with
  | nil => cases hn
  | cons m ms ih =>
    intro e he
    rw [Node.elementsOfAll]
    rcases List.mem_cons.mp hn with rfl | hn
    · exact List.mem_append_left _ he
    · exact List.mem_append_right _ (ih hn he)

/-- The children of a fit element are fit. -/
theorem Node.Fit.child {tag : QName} {attributes : List Attribute} {children : List Node}
    (h : (Node.element tag attributes children).Fit) {n : Node} (hn : n ∈ children) : n.Fit := by
  have hmem : ∀ e ∈ n.elements, e ∈ (Node.element tag attributes children).elements := fun e he =>
    List.mem_cons_of_mem _ (Node.elements_subset hn he)
  exact ⟨fun e he => h.acceptable e (hmem e he), fun e he => h.distinct e (hmem e he),
    fun e he => h.braceless e (hmem e he), (h.acceptable _ List.mem_cons_self).texts n hn⟩

namespace Xml

/-! ## Trees that stand for nodes -/

/-- The node that a tree stands for, without declarations; an empty text stands for itself. -/
inductive Renders : Tree → Node → Prop
  /-- A text. -/
  | text (value : String) : Renders (.text value) (.text value)
  /-- An element stands for what it is read as, whatever is bound around it. -/
  | element {name : TagName} {declarations : Declarations} {set : List TagAttribute}
      {content : List Tree} {tag : QName} {attributes : List Attribute} {children : List Node}
      (reads : ∀ known outside,
        (toNodes known outside (.element name declarations set content)).map Node.stripped =
          [.element tag attributes children]) :
      Renders (.element name declarations set content) (.element tag attributes children)

/-- A row of trees that stand for nodes is read as these nodes, but for empty texts. -/
theorem stripped_toNodesAll {ts : List Tree} {ns : List Node} (h : List.Forall₂ Renders ts ns)
    (inside : Declarations) :
    (toNodesAll inside ts).map Node.stripped = ns.filter fun n => !n.isEmptyText := by
  induction h with
  | nil => rfl
  | cons hfirst _ ih =>
    rw [toNodesAll, List.map_append, ih]
    cases hfirst with
    | text value =>
      by_cases hempty : value = "" <;> simp [toNodes, hempty, Node.isEmptyText, Node.stripped]
    | element reads => rw [reads, List.filter_cons_of_pos rfl, List.singleton_append]

/-- Puts a tree before others; a text is joined with one that it comes to stand beside. -/
def joinFront : Tree → List Tree → List Tree
  | .text a, .text b :: rest => .text (a ++ b) :: rest
  | t, rest => t :: rest

theorem renders_joinFront {t : Tree} {n : Node} {ts : List Tree} {ns : List Node}
    (ht : Renders t n) (hts : List.Forall₂ Renders ts ns) :
    List.Forall₂ Renders (joinFront t ts) (Node.joinFront n ns) := by
  cases ht with
  | element reads => exact .cons (.element reads) hts
  | text a =>
    cases hts with
    | nil => exact .cons (.text a) .nil
    | cons hfirst hrest =>
      cases hfirst with
      | text b => exact .cons (.text (a ++ b)) hrest
      | element reads => exact .cons (.text a) (.cons (.element reads) hrest)

/-- What is added behind does not touch what stands in front. -/
theorem appendNode_joinFront (t : Tree) (ts : List Tree) (u : Tree) :
    appendNode (joinFront t ts) u = joinFront t (appendNode ts u) := by
  cases t with
  | element | comment | instruction => rcases ts with - | ⟨_, _⟩ <;> rfl
  | text a =>
    rcases ts with - | ⟨first, - | ⟨second, rest⟩⟩
    · cases u <;> rfl
    · cases first with
      | text b =>
        cases u with
        | text c => simp [joinFront, appendNode, String.append_assoc]
        | element | comment | instruction => rfl
      | element | comment | instruction => cases u <;> rfl
    · cases first <;> cases u <;> rfl

/-- Adding from the end and joining from the front come to the same. -/
theorem foldl_appendNode (ts : List Tree) :
    ts.foldl appendNode [] = ts.foldr joinFront [] := by
  have hfront : ∀ (more : List Tree) (t : Tree) (before : List Tree),
      more.foldl appendNode (joinFront t before) =
        joinFront t (more.foldl appendNode before) := by
    intro more t before
    induction more generalizing before with
    | nil => rfl
    | cons u more ih => rw [List.foldl_cons, appendNode_joinFront, ih, List.foldl_cons]
  induction ts with
  | nil => rfl
  | cons t ts ih =>
    have hsingle : appendNode [] t = joinFront t [] := by cases t <;> rfl
    rw [List.foldl_cons, hsingle, hfront, ih, List.foldr_cons]

/-- Trees that stand for nodes, put one behind the other, stand for the nodes joined. -/
theorem renders_foldl_appendNode {ts : List Tree} {ns : List Node}
    (h : List.Forall₂ Renders ts (ns.map fun n => n.merged.stripped)) :
    List.Forall₂ Renders (ts.foldl appendNode []) ((Node.joinedAll ns).map Node.stripped) := by
  rw [foldl_appendNode]
  induction ns generalizing ts with
  | nil =>
    cases h
    exact .nil
  | cons n ns ih =>
    cases h with
    | cons hfirst hrest =>
      rw [Node.joinedAll, Node.stripped_joinFront]
      exact renders_joinFront hfirst (ih hrest)

/-! ## Making the trees -/

/-- An element whose declarations and whose namespace are acceptable asks for acceptable
declarations. -/
theorem askedDeclarations_acceptable_of {tag : QName} {attributes : List Attribute}
    (hdeclared : ∀ a ∈ attributes, a.isDeclaration = true → a.Acceptable)
    (htag : ∀ uri ∈ tag.uri, Allowed uri ∧ Uri.isReference uri = true) (children : List Node)
    (inScope : Declarations) :
    (askedDeclarations tag attributes children inScope).Acceptable := by
  let own : Declarations :=
    (Element.declarations ⟨tag, attributes, children⟩).map fun d => (some d.1, d.2)
  have hown : own.Acceptable := by
    intro d hd
    obtain ⟨pair, hpair, rfl⟩ := List.mem_map.mp hd
    obtain ⟨a, ha, rfl⟩ := List.mem_map.mp (Fields.mem_of_mem_ofList hpair)
    obtain ⟨hmem, hdeclares⟩ := List.mem_filter.mp ha
    have hacc := hdeclared a hmem hdeclares
    exact ⟨hacc.value, hacc.declared hdeclares, fun p hp =>
      Option.some.inj hp ▸ hacc.name.localPart⟩
  have hmore : ∀ (pfx : Option String) (uri : String), tag.uri = some uri →
      (∀ p, pfx = some p → isName p = true) → (own ++ [(pfx, uri)]).Acceptable := by
    intro pfx uri huri hpfx d hd
    rcases List.mem_append.mp hd with hd | hd
    · exact hown d hd
    · rw [List.mem_singleton.mp hd]
      exact ⟨(htag uri huri).1, (htag uri huri).2, hpfx⟩
  rw [askedDeclarations]
  cases huri : tag.uri with
  | none => exact hown
  | some uri =>
    simp only
    split
    · exact hown
    · split
      · refine hmore _ uri huri fun p hp => ?_
        rw [← Option.some.inj hp]
        exact isName_prefixOf _
      · exact hmore none uri huri fun p hp => nomatch hp

/-- An acceptable element asks for acceptable declarations. -/
theorem askedDeclarations_acceptable {tag : QName} {attributes : List Attribute}
    {children : List Node} (h : (Element.mk tag attributes children).Acceptable)
    (inScope : Declarations) :
    (askedDeclarations tag attributes children inScope).Acceptable :=
  askedDeclarations_acceptable_of (fun a ha _ => h.attributes a ha)
    (fun uri huri => ⟨(h.tag.uri uri huri).2, h.tagUri uri huri⟩) children inScope

variable {outer : Around} {inScope : Declarations}

/-- The attributes of an element are set in their order, and what each of them keeps holds in the
end. -/
theorem ofAttributes_makes {P : Declarations → List TagAttribute → Prop}
    {attributes : List Attribute} {own : Declarations} {done : List TagAttribute}
    (hacc : ∀ a ∈ attributes, a.Acceptable)
    (hbrace : ∀ a ∈ attributes, ∀ uri ∈ a.name.uri, '}' ∉ uri.toList)
    (hdistinct : ((done.map toAttribute ++ attributes).map (·.name)).Nodup)
    (hstep : ∀ a ∈ attributes, ∀ own done pfx own', Prefixed true outer own a.name.uri pfx own' →
      P own done → P own' (done ++ [⟨⟨pfx, a.name.localName, a.name.uri⟩, a.value⟩]))
    (hbegin : P own done) :
    (ofAttributes outer own done attributes).Makes fun set =>
      P set.1 set.2 ∧ set.2.map toAttribute = done.map toAttribute ++ attributes := by
  induction attributes generalizing own done with
  | nil => exact .of_pure ⟨hbegin, by simp⟩
  | cons a rest ih =>
    have ha := hacc a List.mem_cons_self
    rw [ofAttributes, givenName_of_acceptable ha.name, pure_bind]
    refine .bind (setAttribute_makes ha.name ha.value (hbrace a List.mem_cons_self) ?_) ?_
    · intro known hknown hname
      rw [List.map_append] at hdistinct
      refine (List.nodup_append.mp hdistinct).2.2 _ ?_ _ List.mem_cons_self hname
      exact List.mem_map_of_mem (List.mem_map_of_mem hknown)
    · rintro ⟨own', done'⟩ ⟨pfx, hprefixed, hset⟩
      simp only at hset
      subst hset
      have happend : List.map toAttribute
          (done ++ [⟨⟨pfx, a.name.localName, a.name.uri⟩, a.value⟩]) =
            done.map toAttribute ++ [a] := by
        rw [List.map_append]
        rfl
      refine (ih (fun b hb => hacc b (List.mem_cons_of_mem a hb))
        (fun b hb => hbrace b (List.mem_cons_of_mem a hb)) ?_
        (fun b hb => hstep b (List.mem_cons_of_mem a hb))
        (hstep a List.mem_cons_self own done pfx own' hprefixed hbegin)).mono ?_
      · rwa [happend, List.append_assoc, List.singleton_append]
      · rintro set ⟨hend, hdone⟩
        exact ⟨hend, by rw [hdone, happend, List.append_assoc, List.singleton_append]⟩

/-- An element becomes a tree in three steps: its head, its attributes in their order, and what it
contains. `P` is what the attributes keep, told from the declarations of the head. -/
theorem ofNode_element_makes {P : Declarations → Declarations → List TagAttribute → Prop}
    {Q : Tree → Prop} {tag : QName} {attributes : List Attribute} {children : List Node}
    (h : (Node.element tag attributes children).Fit)
    (hbegin : ∀ own pfx,
      Titled outer (askedDeclarations tag attributes children inScope) tag.uri pfx own → P own own [])
    (hstep : ∀ first, ∀ a ∈ attributes, ∀ own done pfx own',
      Prefixed true outer own a.name.uri pfx own' → P first own done →
        P first own' (done ++ [⟨⟨pfx, a.name.localName, a.name.uri⟩, a.value⟩]))
    (hcontent : ∀ name own own' set, name.localName = tag.localName → name.uri = tag.uri →
      Titled outer (askedDeclarations tag attributes children inScope) tag.uri name.pfx own →
      P own own' set → set.map toAttribute = attributes.filter (fun a => !a.isDeclaration) →
        (ofNodes (.ofElement name own' :: outer)
          (Fields.update inScope (askedDeclarations tag attributes children inScope)) []
            children).Makes fun content => Q (.element name own' set content)) :
    (ofNode outer inScope (.element tag attributes children)).Makes Q := by
  have hacc := h.acceptable _ List.mem_cons_self
  have hbrace := h.braceless _ List.mem_cons_self
  let plain := attributes.filter fun a => !a.isDeclaration
  have hplain : ∀ a ∈ plain, a ∈ attributes := fun a ha => (List.mem_filter.mp ha).1
  have hdistinct : (plain.map (·.name)).Nodup :=
    (h.distinct _ List.mem_cons_self).sublist (List.filter_sublist.map _)
  rw [ofNode, givenName_of_acceptable hacc.tag, pure_bind]
  refine .bind (makeHead_makes hacc.tag hacc.tagUri (hbrace tag List.mem_cons_self)
    (askedDeclarations_acceptable hacc inScope)) ?_
  rintro ⟨name, own⟩ ⟨hlocal, huri, htitled⟩
  refine .bind (ofAttributes_makes (fun a ha => hacc.attributes a (hplain a ha))
    (fun a ha => hbrace _ (List.mem_cons_of_mem _ (List.mem_map_of_mem (hplain a ha)))) hdistinct
    (fun a ha => hstep own a (hplain a ha)) (hbegin own name.pfx htitled)) ?_
  rintro ⟨own', set⟩ ⟨hset, hattributes⟩
  exact .bind (hcontent name own own' set hlocal huri htitled hset hattributes) fun _ hQ =>
    .of_pure hQ

/-- No attribute that was set declares a namespace, and declarations are attributes that do. -/
theorem filter_attributes {attributes : List Attribute} {set : List TagAttribute}
    (hset : set.map toAttribute = attributes.filter fun a => !a.isDeclaration)
    (known inside : Declarations) :
    (declarationAttributes known inside ++ set.map toAttribute).filter
        (fun a => !a.isDeclaration) = attributes.filter fun a => !a.isDeclaration := by
  have hdeclares : ∀ a ∈ declarationAttributes known inside, a.isDeclaration = true := by
    intro a ha
    obtain ⟨⟨pfx, uri⟩, -, hd⟩ := List.mem_filterMap.mp ha
    cases pfx with
    | none => cases hd
    | some pfx =>
      simp only at hd
      split at hd
      · cases hd
      · cases hd
        rfl
  have hnone : (declarationAttributes known inside).filter (fun a => !a.isDeclaration) = [] :=
    List.filter_eq_nil_iff.mpr fun a ha => by simp [hdeclares a ha]
  rw [List.filter_append, hnone, List.nil_append, hset, List.filter_filter]
  simp

mutual

/-- **A node that nothing refuses becomes a tree that stands for it.** -/
theorem ofNode_makes {outer : Around} {inScope : Declarations} :
    (n : Node) → n.Fit → (ofNode outer inScope n).Makes fun t => Renders t n.merged.stripped
  | .text value, h => by
    rw [ofNode]
    refine .bind (.of_ok (checkText_of_allowed h.text) rfl) fun _ _ => ?_
    exact .of_pure (.text value)
  | .element tag attributes children, h => by
    refine ofNode_element_makes (P := fun _ _ _ => True) h (fun _ _ _ => trivial)
      (fun _ _ _ _ _ _ _ _ _ => trivial) ?_
    intro name own own' set hlocal huri _ _ hset
    refine (ofNodes_makes children fun n hn => h.child hn).mono ?_
    rintro content ⟨more, rfl, hmore⟩
    refine .element fun known outside => ?_
    have hname : (⟨name.localName, name.uri⟩ : QName) = tag := by rw [hlocal, huri]
    rw [toNodes, List.map_singleton, Node.stripped, filter_attributes hset, Node.strippedAll_eq_map,
      stripped_toNodesAll (renders_foldl_appendNode hmore), hname, List.filter_map,
      Node.strippedAll_eq_map]
    simp only [Function.comp_def, Node.isEmptyText_stripped]

/-- Rows of nodes become trees that stand for them, added one behind the other. -/
theorem ofNodes_makes {outer : Around} {inScope : Declarations} {before : List Tree} :
    (ns : List Node) → (∀ n ∈ ns, n.Fit) →
      (ofNodes outer inScope before ns).Makes fun content => ∃ more : List Tree,
        content = more.foldl appendNode before ∧
          List.Forall₂ Renders more (ns.map fun n => n.merged.stripped)
  | [], _ => by
    rw [ofNodes]
    exact .of_pure ⟨[], rfl, .nil⟩
  | n :: ns, h => by
    rw [ofNodes]
    refine .bind (ofNode_makes n (h n List.mem_cons_self)) fun t ht => ?_
    refine (ofNodes_makes ns fun m hm => h m (List.mem_cons_of_mem n hm)).mono ?_
    rintro content ⟨more, hcontent, hmore⟩
    exact ⟨t :: more, hcontent, .cons ht hmore⟩

end

end Xml

end TagScript
