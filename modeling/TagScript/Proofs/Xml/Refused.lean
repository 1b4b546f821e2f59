import TagScript.Value.Member

/-!
# What documents are refused for

A document that cannot be written is refused for a name, a text or a URI that XML does not have, or
for its encoding. Nothing else goes wrong on the way, however the names get their prefixes.

* `Fault.IsOfWriting` — the faults of documents that cannot be written.
* `Naming.Refuses` — a making that fails with such faults only.
* **`Xml.writeDocument_error`**, `Xml.Written.text_error` — the faults of writing a document, and of
  reading what was written.
-/

namespace TagScript

/-- Whether a fault is one of a document that cannot be written. -/
def Fault.IsOfWriting : Fault → Prop
  | .invalid _ | .wrongKind _ | .unknownEncoding _ | .notWritable | .missingMember => True
  | _ => False

namespace Xml

/-- Whether something fails with the faults of writing only. -/
def Refuses {α : Type} (r : Except Fault α) : Prop :=
  ∀ fault, r = .error fault → fault.IsOfWriting

namespace Refuses

variable {α β : Type} {r : Except Fault α} {f : α → Except Fault β}

theorem ok {a : α} : Refuses (.ok a : Except Fault α) :=
  nofun

theorem error {fault : Fault} (h : fault.IsOfWriting) :
    Refuses (.error fault : Except Fault α) := by
  intro _ heq
  cases heq
  exact h

theorem bind (hr : Refuses r) (hf : ∀ a, Refuses (f a)) : Refuses (r >>= f) := by
  cases r with
  | ok a => exact hf a
  | error fault => exact error (hr fault rfl)

theorem map (hr : Refuses r) (g : α → β) : Refuses (r.map g) := by
  cases r with
  | ok a => exact ok
  | error fault => exact error (hr fault rfl)

end Refuses

/-- Whether a making fails with the faults of writing only. -/
def Naming.Refuses {α : Type} (m : Naming α) : Prop :=
  ∀ s : NamingState, Xml.Refuses (m s).1

namespace Naming.Refuses

variable {α β : Type} {m : Naming α} {f : α → Naming β}

theorem of_pure (a : α) : Refuses (Pure.pure a : Naming α) :=
  fun _ => .ok

theorem of_throw {fault : Fault} (h : fault.IsOfWriting) :
    Refuses (throw fault : Naming α) :=
  fun _ => .error h

theorem of_except {r : Except Fault α} (h : Xml.Refuses r) : Refuses (liftExcept r) := by
  cases r with
  | ok a => exact of_pure a
  | error fault => exact of_throw (h fault rfl)

theorem bind (hm : Refuses m) (hf : ∀ a, Refuses (f a)) : Refuses (m >>= f) := by
  intro s
  have hfirst := hm s
  change Xml.Refuses (m s >>= fun p => ExceptT.bindCont f p.1 p.2).1
  rcases hrun : m s with ⟨r, s'⟩
  rw [hrun] at hfirst
  cases r with
  | ok a => exact hf a s'
  | error fault => exact .error (hfirst fault rfl)

end Naming.Refuses

/-! ## Names and texts -/

theorem refuses_checkText (s : String) : Refuses (checkText s) := by
  unfold checkText
  split
  · exact .ok
  · exact .error trivial

theorem refuses_checkUri (uri : String) : Refuses (checkUri uri) := by
  unfold checkUri
  split
  · exact .ok
  · exact .error trivial

theorem refuses_splitClark (text : String) : Refuses (splitClark text) := by
  unfold splitClark
  refine .bind (refuses_checkText text) fun _ => ?_
  split
  · exact .error trivial
  · split
    · exact .error trivial
    · dsimp only
      split
      · exact .error trivial
      · exact .ok
  · exact .ok

theorem refuses_declareAll (outer : Around) (wanted : Option String) (asked own : Declarations)
    (found : Option (Option String)) : Refuses (declareAll outer wanted own asked found) := by
  induction asked generalizing own found with
  | nil => exact .ok
  | cons d asked ih =>
    obtain ⟨pfx, uri⟩ := d
    unfold declareAll
    refine .bind (refuses_checkText uri) fun _ => .bind (refuses_checkUri uri) fun _ => ?_
    cases pfx with
    | none => exact ih _ _
    | some p =>
      refine .bind (refuses_checkText p) fun _ => ?_
      cases isName p with
      | true => exact ih _ _
      | false => exact .bind (.error trivial) fun _ => ih _ _

/-! ## Trees -/

namespace Naming

theorem refuses_newPrefix (around : Around) (uri : String) : Refuses (newPrefix around uri) := by
  unfold newPrefix
  dsimp only
  split
  · split
    · exact fun _ => .ok
    · exact .of_pure _
  · exact fun _ => .ok

/-- What goes on after a local part that must be a name. -/
theorem refuses_named {α : Type} (localName : String) (fault : Fault) (h : fault.IsOfWriting)
    {m : Naming α} (hm : Refuses m) :
    Refuses (if !isName localName then throw fault >>= fun _ : PUnit => m else m) := by
  cases isName localName with
  | true => exact hm
  | false => exact .bind (.of_throw h) fun _ => hm

theorem refuses_makeHead (outer : Around) (tag : String) (asked : Declarations) :
    Refuses (makeHead outer tag asked) := by
  unfold makeHead
  refine .bind (.of_except (refuses_splitClark tag)) fun name => ?_
  refine refuses_named name.2 (.invalid (.tagName name.2)) trivial ?_
  refine .bind (.of_except (refuses_declareAll _ _ _ _ _)) fun declared => ?_
  obtain ⟨own, found⟩ := declared
  dsimp only
  split
  · exact .of_pure _
  · exact .of_pure _
  · refine .bind (.of_except (refuses_checkUri _)) fun _ => ?_
    split
    · exact .of_pure _
    · split
      · exact .of_pure _
      · exact .bind (refuses_newPrefix _ _) fun _ => .of_pure _

theorem refuses_setAttribute (outer : Around) (own : Declarations)
    (attributes : List TagAttribute) (name value : String) :
    Refuses (setAttribute outer own attributes name value) := by
  have hchosen (uri : Option String) : Refuses (setAttribute.choosePrefix outer own uri) := by
    unfold setAttribute.choosePrefix
    split
    · exact .of_pure _
    · split
      · exact .of_pure _
      · split
        · exact .of_pure _
        · exact .bind (refuses_newPrefix _ _) fun _ => .of_pure _
  unfold setAttribute
  refine .bind (.of_except (refuses_splitClark name)) fun parts => ?_
  refine refuses_named parts.2 (.invalid (.attributeName parts.2)) trivial ?_
  refine .bind (.of_except (refuses_checkText value)) fun _ => ?_
  exact .bind (hchosen parts.1) fun _ => .of_pure _

theorem refuses_givenName (name : QName) : Refuses (givenName name) := by
  unfold givenName
  split
  · exact fun _ => .ok
  · exact .of_pure _

theorem refuses_ofAttributes (outer : Around) (attributes : List Attribute) (own : Declarations)
    (done : List TagAttribute) : Refuses (ofAttributes outer own done attributes) := by
  induction attributes generalizing own done with
  | nil => exact .of_pure _
  | cons a attributes ih =>
    unfold ofAttributes
    refine .bind (refuses_givenName a.name) fun given => ?_
    exact .bind (refuses_setAttribute outer own done given a.value) fun set => ih set.1 set.2

mutual

/-- A node is refused for its names and texts. -/
theorem refuses_ofNode (outer : Around) (inScope : Declarations) :
    ∀ n : Node, Refuses (ofNode outer inScope n)
  | .text value => by
    unfold ofNode
    exact .bind (.of_except (refuses_checkText value)) fun _ => .of_pure _
  | .element tag attributes children => by
    unfold ofNode
    refine .bind (refuses_givenName tag) fun given => ?_
    refine .bind (refuses_makeHead outer given _) fun head => ?_
    refine .bind (refuses_ofAttributes outer _ _ _) fun set => ?_
    exact .bind (refuses_ofNodes _ _ children _) fun _ => .of_pure _

/-- So is a row of nodes. -/
theorem refuses_ofNodes (outer : Around) (inScope : Declarations) :
    ∀ (ns : List Node) (before : List Tree), Refuses (ofNodes outer inScope before ns)
  | [], _ => by
    unfold ofNodes
    exact .of_pure _
  | n :: ns, _ => by
    unfold ofNodes
    exact .bind (refuses_ofNode outer inScope n) fun _ => refuses_ofNodes outer inScope ns _

end

end Naming

/-! ## Documents -/

theorem refuses_ofSetting (setting : Json) : Refuses (Encoding.ofSetting setting) := by
  unfold Encoding.ofSetting
  split
  · exact .ok
  · refine .bind (refuses_checkText _) fun _ => ?_
    split
    · exact .ok
    · exact .error trivial
  · exact .error trivial

theorem refuses_checkReadable (setting : Json) : Refuses (Encoding.checkReadable setting) := by
  unfold Encoding.checkReadable
  split
  · split
    · exact .ok
    · exact .error trivial
  · exact .error trivial

theorem refuses_checkMarkup (encoding : Encoding) : Refuses encoding.checkMarkup := by
  unfold Encoding.checkMarkup
  split
  · exact .error trivial
  · exact .ok

theorem refuses_writeTree (pretty : Bool) (d : Document) (tree : Tree) :
    Refuses (writeTree pretty d tree) := by
  unfold writeTree
  extract_lets undeclared
  split
  · exact .error trivial
  · refine .bind (refuses_ofSetting _) fun encoding => ?_
    refine .bind (refuses_checkMarkup encoding) fun _ => ?_
    split
    · exact .ok
    · exact .bind (refuses_checkReadable _) fun _ => .ok

/-- **A document that cannot be written is refused for its names, its texts or its encoding.** -/
theorem writeDocument_error (pretty : Bool) (d : Document) {fault : Fault}
    (h : (writeDocument pretty d).1 = .error fault) : fault.IsOfWriting := by
  have htree : Refuses (ofElement d.root).1 :=
    Naming.refuses_ofNode [] [] (Node.ofElement d.root) ⟨0, []⟩
  exact htree.bind (refuses_writeTree pretty d) fault h

/-- What was written is not read again for its encoding. -/
theorem Written.text_error {w : Written} {fault : Fault} (h : w.text = .error fault) :
    fault.IsOfWriting := by
  have hrun (encoding : Encoding) (start : Nat) (cs : List Char) :
      Refuses (checkRun encoding start cs) := by
    unfold checkRun
    split
    · dsimp only
      split
      · exact .ok
      · exact .error trivial
    · exact .ok
  have hreading (encoding : Encoding) (start : Nat) (cs : List Char) :
      Refuses (encoding.readingOf start cs) := by
    unfold Encoding.readingOf
    split
    · exact .ok
    · exact .error trivial
  have htext : Refuses w.text := by
    unfold text
    refine .bind (refuses_checkReadable _) fun _ => ?_
    split
    · exact .bind (hrun _ _ _) fun _ => .bind (hreading _ _ _) fun _ => .ok
    · dsimp only
      split
      · exact .bind (.error trivial) fun _ => .bind (hrun _ _ _) fun _ =>
          .bind (hreading _ _ _) fun _ => .ok
      · exact .bind (hrun _ _ _) fun _ => .bind (hreading _ _ _) fun _ => .ok
  exact htext fault h

end Xml

/-- The operation of writing a document fails with the faults of writing. -/
theorem Value.documentMember?_error {d : Document} {o : Operation}
    (ho : documentMember? d "to_string" = some (.operation o)) {fault : Fault}
    (h : o.outcome = .error fault) : fault.IsOfWriting := by
  obtain rfl : o = ⟨false, (Xml.writeDocument true d).1.bind fun w => w.text.map .str⟩ := by
    cases ho
    rfl
  have hwritten : Xml.Refuses (Xml.writeDocument true d).1 :=
    fun _ => Xml.writeDocument_error true d
  have hread : Xml.Refuses ((Xml.writeDocument true d).1.bind fun w => w.text.map Json.str) :=
    hwritten.bind fun w => .map (fun _ => Xml.Written.text_error) Json.str
  exact hread fault h

end TagScript
