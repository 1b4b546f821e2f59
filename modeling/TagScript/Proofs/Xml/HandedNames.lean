import TagScript.Proofs.Xml.Bindings

/-!
# Names that are handed over

A name whose prefix is unbound is kept as it stands, with its colon, and loses what stands before
the colon when it is handed over to the XML tree. What is left is a name of XML if there was no
second colon; and where two attributes of an element come to one name, there is one XML attribute
for both.

* `Fields.length_ofList_iff` — no pair is lost exactly if the keys are apart.
* `QName.Tolerated`, `QName.handed` — the names of XML, single or joined by colons, and what each of
  them is handed over as.
* **`QName.Tolerated.isName_handed_iff`** — that is a name of XML unless there are two colons.
* `Naming.Ends` — the making fails exactly where a condition fails.
* `setAttribute_ends`, **`ofNode_ends`** — attributes are set as fields are, and a node becomes a
  tree exactly if all names in it are handed over as names of XML.
* **`ofElement_carries`** — when a tree is made, what attributes it has, and when none is lost.
* `ofElement_colliding` — an attribute that loses its prefix takes the place of another one.
-/

namespace TagScript

/-! ## Fields whose keys are apart -/

namespace Fields

variable {κ α : Type} [DecidableEq κ] {fields : List (κ × α)}

theorem update_of_nodup {more : List (κ × α)} (h : (keys (fields ++ more)).Nodup) :
    update fields more = fields ++ more := by
  induction more generalizing fields with
  | nil => simp [update]
  | cons p more ih =>
    have hnew : p.1 ∉ keys fields := by
      intro hmem
      rw [keys, List.map_append] at h
      exact (List.nodup_append.mp h).2.2 _ hmem _ List.mem_cons_self rfl
    have hstep : update fields (p :: more) = update (insert fields p.1 p.2) more := rfl
    rw [hstep, insert_of_not_mem hnew, ih (by simpa using h), List.append_assoc]
    rfl

/-- Pairs whose keys are apart are fields as they stand. -/
theorem ofList_of_nodup {pairs : List (κ × α)} (h : (keys pairs).Nodup) : ofList pairs = pairs := by
  have hempty : (keys ([] ++ pairs)).Nodup := h
  rw [show ofList pairs = update [] pairs from rfl, update_of_nodup hempty, List.nil_append]

/-- **The fields of a list are as many as its pairs exactly if their keys are apart.** -/
theorem length_ofList_iff {pairs : List (κ × α)} :
    (ofList pairs).length = pairs.length ↔ (keys pairs).Nodup := by
  constructor
  · intro hlength
    have hsub : keys (ofList pairs) ⊆ keys pairs :=
      List.map_subset _ fun _ h => mem_of_mem_ofList h
    have hperm : (keys (ofList pairs)).Perm (keys pairs) :=
      (List.subperm_of_subset (nodup_keys_ofList pairs) hsub).perm_of_length_le (by
        simp [keys, hlength])
    exact hperm.nodup_iff.mp (nodup_keys_ofList pairs)
  · intro h
    rw [ofList_of_nodup h]

end Fields

/-! ## Names with colons -/

/-- Names of XML joined by colons. -/
inductive Xml.Joined : String → Prop
  /-- One name. -/
  | name {s : String} (h : Xml.isName s = true) : Joined s
  /-- A name before others. -/
  | colon {first s : String} (h : Xml.isName first = true) (rest : Joined s) :
      Joined (first ++ ":" ++ s)

namespace QName

/-- Whether a name is tolerated: it is a name of XML, with or without a namespace, or what an
unbound prefix leaves. -/
def Tolerated (name : QName) : Prop :=
  name.Acceptable ∨ name.uri = none ∧ Xml.Joined name.localName

/-- The name that a name is handed over as: an unqualified one loses what stands before its first
colon. -/
def handed (name : QName) : QName :=
  match name.uri, splitColon name.localName with
  | none, some (_, rest) =>
    ⟨if rest = "" then
        String.ofList (name.localName.toList.map fun c => if c = ':' then '_' else c)
      else rest, none⟩
  | _, _ => name

end QName

namespace Xml

theorem exists_cons_of_isName {s : String} (h : isName s = true) :
    ∃ c rest, s.toList = c :: rest ∧ isNameInner c = true := by
  cases hchars : s.toList with
  | nil => exact absurd (String.toList_eq_nil_iff.mp hchars) (ne_empty_of_isName h)
  | cons c rest => exact ⟨c, rest, rfl, isNameInner_of_mem h (hchars ▸ List.mem_cons_self)⟩

theorem Joined.cases {s : String} (h : Joined s) :
    isName s = true ∨ ∃ first rest, isName first = true ∧ Joined rest ∧
      s = first ++ ":" ++ rest := by
  cases h with
  | name h => exact .inl h
  | colon h rest => exact .inr ⟨_, _, h, rest, rfl⟩

/-- Joined names begin with a name. -/
theorem Joined.exists_cons {s : String} (h : Joined s) :
    ∃ c rest, s.toList = c :: rest ∧ isNameInner c = true := by
  cases h with
  | name h => exact exists_cons_of_isName h
  | @colon first s h _ =>
    obtain ⟨c, rest, hchars, hc⟩ := exists_cons_of_isName h
    exact ⟨c, rest ++ ':' :: s.toList, by simp [hchars], hc⟩

theorem Joined.ne_empty {s : String} (h : Joined s) : s ≠ "" := by
  obtain ⟨c, rest, hchars, -⟩ := h.exists_cons
  rintro rfl
  cases hchars

/-- Joined names are characters of names and colons. -/
theorem Joined.allowed {s : String} (h : Joined s) : Allowed s := by
  induction h with
  | name h => exact allowed_of_isName h
  | @colon first s h rest ih =>
    have hfirst : Allowed first := allowed_of_isName h
    unfold Allowed at hfirst ih ⊢
    have hcolon : isAllowed ':' = true := by decide
    simp [String.toList_append, hfirst, ih, hcolon]

/-- Joined names are one name exactly if there is no colon. -/
theorem Joined.isName_iff {s : String} (h : Joined s) : isName s = true ↔ ':' ∉ s.toList := by
  cases h with
  | name h => exact iff_of_true h (not_mem_of_isName h rfl)
  | @colon first s h rest =>
    have hmem : ':' ∈ (first ++ ":" ++ s).toList := by simp [String.toList_append]
    exact ⟨fun h => not_mem_of_isName h rfl, fun h => absurd hmem h⟩

/-- Joined names are split behind the first of them. -/
theorem splitColon_joined {first : String} (h : isName first = true) (s : String) :
    splitColon (first ++ ":" ++ s) = some (first, s) := by
  have hfirst : ∀ c ∈ first.toList, decide (c ≠ ':') = true := fun c hc =>
    decide_eq_true fun heq => not_mem_of_isName h (c := ':') rfl (heq ▸ hc)
  have hlist : (first ++ ":" ++ s).toList = first.toList ++ ':' :: s.toList := by simp
  simp only [splitColon, hlist]
  rw [List.takeWhile_append_of_pos hfirst, List.dropWhile_append_of_pos hfirst, if_pos (by simp)]
  simp

/-- A text of joined names that is given for a name is read as an unqualified name. -/
theorem splitClark_joined {s : String} (h : Joined s) : splitClark s = .ok (none, s) := by
  obtain ⟨c, rest, hchars, hc⟩ := h.exists_cons
  have hopen : c ≠ '{' := by
    rintro rfl
    cases hc
  rw [splitClark, checkText_of_allowed h.allowed, hchars]
  simp [bind, Except.bind, hopen]

end Xml

namespace QName

variable {name : QName}

theorem handed_of_isName (h : Xml.isName name.localName = true) : name.handed = name := by
  rw [handed, Xml.splitColon_of_isName h]
  cases name.uri <;> rfl

/-- Only unqualified names are handed over as others. -/
theorem uri_handed (name : QName) : name.handed.uri = name.uri := by
  unfold handed
  split
  · rename_i huri _
    exact huri.symm
  · rfl

/-- **What tolerated names are handed over as**: acceptable names as they are, and others without
their first part. -/
theorem Tolerated.handed_cases (h : name.Tolerated) :
    (name.Acceptable ∧ name.handed = name) ∨ ∃ first rest, Xml.isName first = true ∧
      Xml.Joined rest ∧ name = ⟨first ++ ":" ++ rest, none⟩ ∧ name.handed = ⟨rest, none⟩ := by
  have hself (hacceptable : name.Acceptable) : name.Acceptable ∧ name.handed = name :=
    ⟨hacceptable, handed_of_isName hacceptable.localPart⟩
  obtain hacceptable | ⟨huri, hjoined⟩ := h
  · exact .inl (hself hacceptable)
  · obtain ⟨localName, uri⟩ := name
    obtain rfl : uri = none := huri
    obtain hname | ⟨first, rest, hfirst, hrest, hlocal⟩ := hjoined.cases
    · exact .inl (hself ⟨hname, nofun⟩)
    · obtain rfl : localName = first ++ ":" ++ rest := hlocal
      refine .inr ⟨first, rest, hfirst, hrest, rfl, ?_⟩
      rw [handed, Xml.splitColon_joined hfirst]
      dsimp only
      rw [if_neg hrest.ne_empty]

theorem Tolerated.handed (h : name.Tolerated) : name.handed.Tolerated := by
  obtain ⟨hacceptable, hself⟩ | ⟨first, rest, -, hrest, -, hhanded⟩ := h.handed_cases
  · rw [hself]
    exact .inl hacceptable
  · rw [hhanded]
    exact .inr ⟨rfl, hrest⟩

theorem Tolerated.uri (h : name.Tolerated) {uri : String} (huri : uri ∈ name.uri) :
    uri ≠ "" ∧ Xml.Allowed uri := by
  obtain hacceptable | ⟨hnone, -⟩ := h
  · exact hacceptable.uri uri huri
  · rw [hnone] at huri
    cases huri

/-- A name behind an unbound prefix is tolerated. -/
theorem tolerated_prefixed {pfx localName : String}
    (h : Xml.isName pfx = true ∧ Xml.isName localName = true) :
    Tolerated ⟨pfx ++ ":" ++ localName, none⟩ :=
  .inr ⟨rfl, .colon h.1 (.name h.2)⟩

/-- A tolerated name without a colon is acceptable. -/
theorem Tolerated.acceptable (h : name.Tolerated) (hlocal : Xml.isName name.localName = true) :
    name.Acceptable :=
  h.elim id fun ⟨huri, _⟩ => ⟨hlocal, by rw [huri]; nofun⟩

/-- **A tolerated name is handed over as a name of XML exactly if it has no more than one colon.**
-/
theorem Tolerated.isName_handed_iff (h : name.Tolerated) :
    Xml.isName name.handed.localName = true ↔ name.localName.toList.count ':' ≤ 1 := by
  obtain ⟨hacceptable, hself⟩ | ⟨first, rest, hfirst, hrest, rfl, hhanded⟩ := h.handed_cases
  · have hlocal := Xml.not_mem_of_isName hacceptable.localPart (c := ':') rfl
    rw [hself, List.count_eq_zero.mpr hlocal]
    exact iff_of_true hacceptable.localPart (Nat.zero_le 1)
  · have hnone := List.count_eq_zero.mpr (Xml.not_mem_of_isName hfirst (c := ':') rfl)
    have hcount : (first ++ ":" ++ rest).toList.count ':' = rest.toList.count ':' + 1 := by
      simp [List.count_append, hnone]
    rw [hhanded, hcount, hrest.isName_iff, ← List.count_eq_zero]
    omega

end QName

namespace Element

/-- Whether nothing but a name can be refused: the names of an element are tolerated, and its URIs
and texts are what markup can hold. -/
structure Tolerated (e : Element) : Prop where
  /-- The name of the element. -/
  tag : e.tag.Tolerated
  /-- Its namespace is a URI. -/
  tagUri : ∀ uri ∈ e.tag.uri, Xml.Uri.isReference uri = true
  /-- The names of its attributes. -/
  names : ∀ a ∈ e.attributes, a.name.Tolerated
  /-- Their values. -/
  values : ∀ a ∈ e.attributes, Xml.Allowed a.value
  /-- What is declared is a URI. -/
  declared : ∀ a ∈ e.attributes, a.isDeclaration = true → Xml.Uri.isReference a.value = true
  /-- Its own texts. -/
  texts : ∀ n ∈ e.children, Xml.Allowed n.ownText

/-- What declares a namespace is acceptable. -/
theorem Tolerated.acceptable_of_declaration {e : Element} (h : e.Tolerated) (a : Attribute)
    (ha : a ∈ e.attributes) (hdeclares : a.isDeclaration = true) : a.Acceptable := by
  refine ⟨?_, h.values a ha, h.declared a ha⟩
  obtain hacceptable | ⟨huri, -⟩ := h.names a ha
  · exact hacceptable
  · rw [Attribute.isDeclaration, QName.isDeclaration, huri] at hdeclares
    cases hdeclares

/-- The attributes that declare no namespace. -/
def ownAttributes (e : Element) : List Attribute :=
  e.attributes.filter fun a => !a.isDeclaration

/-- The names that the attributes are handed over as, with their values. -/
def handedPairs (e : Element) : List (QName × String) :=
  e.ownAttributes.map fun a => (a.name.handed, a.value)

/-- Whether every name of the element is handed over as a name of XML. -/
def HandsNames (e : Element) : Prop :=
  ∀ name ∈ e.tag :: e.ownAttributes.map (·.name), Xml.isName name.handed.localName = true

/-- Whether no name of the element has more than one colon. -/
def HasSingleColons (e : Element) : Prop :=
  ∀ name ∈ e.tag :: e.ownAttributes.map (·.name), name.localName.toList.count ':' ≤ 1

/-- Whether the attributes are handed over with distinct names. -/
def HandsApart (e : Element) : Prop :=
  (e.ownAttributes.map (·.name.handed)).Nodup

instance (e : Element) : Decidable e.HasSingleColons :=
  inferInstanceAs (Decidable (∀ name ∈ e.tag :: e.ownAttributes.map (·.name),
    name.localName.toList.count ':' ≤ 1))

instance (e : Element) : Decidable e.HandsApart :=
  inferInstanceAs (Decidable (e.ownAttributes.map (·.name.handed)).Nodup)

theorem Tolerated.handsNames_iff {e : Element} (h : e.Tolerated) :
    e.HandsNames ↔ e.HasSingleColons := by
  have htolerated : ∀ name ∈ e.tag :: e.ownAttributes.map (·.name), name.Tolerated := by
    rw [List.forall_mem_cons, List.forall_mem_map]
    exact ⟨h.tag, fun a ha => h.names a (List.mem_filter.mp ha).1⟩
  exact forall₂_congr fun name hname => (htolerated name hname).isName_handed_iff

end Element

namespace Xml

/-! ## Making that fails exactly where a condition fails -/

/-- The making comes to an end in every state: where the condition holds it makes something with the
property, and otherwise it fails. -/
def Naming.Ends {α : Type} (m : Naming α) (p : Prop) (Q : α → Prop) : Prop :=
  ∀ s : NamingState, (p ∧ ∃ a s', m s = (.ok a, s') ∧ Q a) ∨ (¬p ∧ ∃ f s', m s = (.error f, s'))

namespace Naming.Ends

variable {α β : Type} {m : Naming α} {p q : Prop} {Q : α → Prop}

theorem of_makes (h : Makes m Q) (hp : p) : Ends m p Q := fun s => .inl ⟨hp, h s⟩

theorem of_throw (f : Fault) (hp : ¬p) : Ends (throw f : Naming α) p Q :=
  fun s => .inr ⟨hp, f, s, rfl⟩

theorem congr (h : Ends m p Q) (hpq : p ↔ q) : Ends m q Q := fun s => by
  rw [← hpq]
  exact h s

theorem mono {R : α → Prop} (h : Ends m p Q) (hQR : ∀ a, Q a → R a) : Ends m p R := fun s =>
  (h s).imp_left fun ⟨hp, a, s', hrun, ha⟩ => ⟨hp, a, s', hrun, hQR a ha⟩

theorem bind {f : α → Naming β} {R : β → Prop} (hm : Ends m p Q) (hf : ∀ a, Q a → Ends (f a) q R) :
    Ends (m >>= f) (p ∧ q) R := by
  intro s
  have hbind : (m >>= f) s = (m s >>= fun r => ExceptT.bindCont f r.1 r.2) := rfl
  obtain ⟨hp, a, s', hrun, ha⟩ | ⟨hp, fault, s', hrun⟩ := hm s
  · rw [hbind, hrun]
    obtain ⟨hq, hmade⟩ | ⟨hq, hfailed⟩ := hf a ha s'
    · exact .inl ⟨⟨hp, hq⟩, hmade⟩
    · exact .inr ⟨fun h => hq h.2, hfailed⟩
  · rw [hbind, hrun]
    exact .inr ⟨fun h => hp h.1, fault, s', rfl⟩

/-- Behind a making that does not fail the condition is that of what follows. -/
theorem behind {f : α → Naming β} {R : β → Prop} (hm : Makes m Q)
    (hf : ∀ a, Q a → Ends (f a) q R) : Ends (m >>= f) q R :=
  ((of_makes hm trivial).bind hf).congr (by rw [true_and])

/-- What follows and does not fail leaves the condition. -/
theorem before {f : α → Naming β} {R : β → Prop} (hm : Ends m p Q)
    (hf : ∀ a, Q a → Makes (f a) R) : Ends (m >>= f) p R :=
  (hm.bind fun a ha => of_makes (hf a ha) trivial).congr (by rw [and_true])

end Naming.Ends

/-! ## Handing names over -/

/-- The brace notation of a tolerated name is read as that name. -/
theorem splitClark_of_tolerated {name : QName} (h : name.Tolerated)
    (hbrace : ∀ uri ∈ name.uri, '}' ∉ uri.toList) :
    splitClark name.clark = .ok (name.uri, name.localName) := by
  obtain hacceptable | ⟨huri, hjoined⟩ := h
  · exact splitClark_clark hacceptable hbrace
  · obtain ⟨localName, uri⟩ := name
    obtain rfl : uri = none := huri
    exact splitClark_joined hjoined

theorem givenName_makes (name : QName) :
    (givenName name).Makes (· = name.handed.clark) := by
  intro s
  rw [givenName, QName.handed]
  cases name.uri with
  | some uri => exact ⟨_, s, rfl, rfl⟩
  | none =>
    cases splitColon name.localName with
    | none => exact ⟨_, s, rfl, rfl⟩
    | some parts => exact ⟨_, _, rfl, rfl⟩

variable {outer : Around} {asked own : Declarations} {done : List TagAttribute} {name : QName}

/-- **The head of a new element is made exactly if its name is handed over as a name of XML.** -/
theorem makeHead_ends (h : name.Tolerated)
    (hreference : ∀ uri ∈ name.uri, Uri.isReference uri = true)
    (hbrace : ∀ uri ∈ name.uri, '}' ∉ uri.toList) (hasked : Declarations.Acceptable asked) :
    (makeHead outer name.clark asked).Ends (isName name.localName = true) fun _ => True := by
  by_cases hname : isName name.localName = true
  · exact .of_makes ((makeHead_makes (h.acceptable hname) hreference hbrace hasked).mono
      fun _ _ => trivial) hname
  · rw [makeHead]
    refine .behind (.of_ok (splitClark_of_tolerated h hbrace) rfl) ?_
    rintro _ rfl
    dsimp only
    rw [if_pos (by simpa using hname)]
    exact .of_throw _ hname

/-- An attribute as a name and a value. -/
def TagAttribute.pair (a : TagAttribute) : QName × String :=
  (⟨a.name.localName, a.name.uri⟩, a.value)

/-- **An attribute is set exactly if its name is handed over as a name of XML**: a known one gets
the new value at its place. -/
theorem setAttribute_ends (h : name.Tolerated) {value : String} (hvalue : Allowed value)
    (hbrace : ∀ uri ∈ name.uri, '}' ∉ uri.toList)
    (hdone : (Fields.keys (done.map TagAttribute.pair)).Nodup) :
    (setAttribute outer own done name.clark value).Ends (isName name.localName = true) fun set =>
      set.2.map TagAttribute.pair = Fields.insert (done.map TagAttribute.pair) name value := by
  have hsame (a : TagAttribute) :
      (a.name.localName == name.localName && a.name.uri == name.uri) = true ↔ a.pair.1 = name := by
    obtain ⟨localName, uri⟩ := name
    simp [TagAttribute.pair]
  have hknown : (done.any fun a =>
      a.name.localName == name.localName && a.name.uri == name.uri) = true ↔
        name ∈ Fields.keys (done.map TagAttribute.pair) := by
    simp only [List.any_eq_true, hsame, Fields.keys, List.map_map, List.mem_map, Function.comp]
  rw [setAttribute]
  refine .behind (.of_ok (splitClark_of_tolerated h hbrace) rfl) ?_
  rintro _ rfl
  dsimp only
  by_cases hname : isName name.localName = true
  · rw [if_neg (by simpa using hname)]
    refine .of_makes (.bind (.of_ok (checkText_of_allowed hvalue) rfl) fun _ _ => ?_) hname
    refine .bind (choosePrefix_makes outer own name.uri) fun chosen _ => .of_pure ?_
    dsimp only
    split
    · rename_i h
      rw [Fields.insert_of_mem hdone (hknown.mp h), List.map_map, List.map_map]
      apply List.map_congr_left
      intro a _
      by_cases ha : a.pair.1 = name
      · simp only [Function.comp, if_pos ha, if_pos ((hsame a).mpr ha)]
        rw [← ha]
        rfl
      · simp only [Function.comp, if_neg ha, if_neg (mt (hsame a).mp ha)]
    · rename_i h
      rw [Fields.insert_of_not_mem (mt hknown.mpr h), List.map_append]
      rfl
  · rw [if_pos (by simpa using hname)]
    exact .of_throw _ hname

/-- **The attributes of an element are set exactly if all their names are handed over as names of
XML**, each at the place where its name comes first and with the value that comes last. -/
theorem ofAttributes_ends {attributes : List Attribute}
    (hnames : ∀ a ∈ attributes, a.name.Tolerated) (hvalues : ∀ a ∈ attributes, Allowed a.value)
    (hbrace : ∀ a ∈ attributes, ∀ uri ∈ a.name.uri, '}' ∉ uri.toList)
    (hdone : (Fields.keys (done.map TagAttribute.pair)).Nodup) :
    (ofAttributes outer own done attributes).Ends
      (∀ a ∈ attributes, isName a.name.handed.localName = true) fun set =>
        set.2.map TagAttribute.pair = Fields.update (done.map TagAttribute.pair)
          (attributes.map fun a => (a.name.handed, a.value)) := by
  induction attributes generalizing own done with
  | nil => exact .of_makes (.of_pure rfl) nofun
  | cons a rest ih =>
    obtain ⟨hname, hnames⟩ := List.forall_mem_cons.mp hnames
    obtain ⟨hvalue, hvalues⟩ := List.forall_mem_cons.mp hvalues
    obtain ⟨hclose, hbrace⟩ := List.forall_mem_cons.mp hbrace
    rw [← a.name.uri_handed] at hclose
    rw [ofAttributes]
    refine .behind (givenName_makes a.name) ?_
    rintro _ rfl
    rw [List.forall_mem_cons]
    refine .bind (setAttribute_ends hname.handed hvalue hclose hdone) ?_
    rintro ⟨own, set⟩ hset
    dsimp only at hset ⊢
    have hrest := @ih own set hnames hvalues hbrace (hset ▸ Fields.nodup_keys_insert hdone _ _)
    rw [hset] at hrest
    exact hrest

mutual

/-- The attributes of the elements of a tree, in document order. -/
def Tree.attributeRows : Tree → List (List TagAttribute)
  | .element _ _ attributes content => attributes :: Tree.attributeRowsAll content
  | .text _ | .comment _ | .instruction .. => []

/-- The attributes of the elements of a row of trees, in document order. -/
def Tree.attributeRowsAll : List Tree → List (List TagAttribute)
  | [] => []
  | t :: ts => t.attributeRows ++ Tree.attributeRowsAll ts

end

/-- Adding a tree adds its attributes. -/
theorem attributeRowsAll_appendNode (before : List Tree) (t : Tree) :
    Tree.attributeRowsAll (appendNode before t) =
      Tree.attributeRowsAll before ++ t.attributeRows := by
  fun_induction appendNode before t with
  | case1 a b => rfl
  | case2 t => simp [Tree.attributeRowsAll]
  | case3 first rest t _ ih =>
    rw [Tree.attributeRowsAll, ih, Tree.attributeRowsAll, List.append_assoc]

/-- Whether XML attributes are what those of an element come to: each name that is handed over once,
at the place where it comes first and with the value that comes last. -/
def Merges (e : Element) (row : List TagAttribute) : Prop :=
  row.map TagAttribute.pair = Fields.ofList e.handedPairs

end Xml

/-- Whether nothing in a node but a name can be refused, and no URI in a name holds a closing brace.
-/
structure Node.Tolerated (n : Node) : Prop where
  /-- The elements. -/
  elements : ∀ e ∈ n.elements, e.Tolerated
  /-- The URIs in their names. -/
  braceless : ∀ e ∈ n.elements, e.Braceless
  /-- The text, if the node is one. -/
  text : Xml.Allowed n.ownText

theorem Node.Tolerated.child {tag : QName} {attributes : List Attribute} {children : List Node}
    (h : (Node.element tag attributes children).Tolerated) {n : Node} (hn : n ∈ children) :
    n.Tolerated := by
  have hmem : ∀ e ∈ n.elements, e ∈ (Node.element tag attributes children).elements := fun e he =>
    List.mem_cons_of_mem _ (Node.elements_subset hn he)
  exact ⟨fun e he => h.elements e (hmem e he), fun e he => h.braceless e (hmem e he),
    (h.elements _ List.mem_cons_self).texts n hn⟩

namespace Xml

mutual

/-- **A node becomes a tree exactly if all names in it are handed over as names of XML.** -/
theorem ofNode_ends {outer : Around} {inScope : Declarations} :
    (n : Node) → n.Tolerated → (ofNode outer inScope n).Ends
      (∀ e ∈ n.elements, e.HandsNames) fun t => List.Forall₂ Merges n.elements t.attributeRows
  | .text value, h => by
    rw [ofNode]
    refine .of_makes (.bind (.of_ok (checkText_of_allowed h.text) rfl) fun _ _ => ?_) nofun
    exact .of_pure .nil
  | .element tag attributes children, h => by
    have hroot := h.elements _ List.mem_cons_self
    have hbrace := h.braceless _ List.mem_cons_self
    have hown {a : Attribute} (ha : a ∈ attributes.filter fun a => !a.isDeclaration) :
        a ∈ attributes := (List.mem_filter.mp ha).1
    have hcondition : (∀ e ∈ (Node.element tag attributes children).elements, e.HandsNames) ↔
        isName tag.handed.localName = true ∧
          (∀ a ∈ attributes.filter fun a => !a.isDeclaration,
            isName a.name.handed.localName = true) ∧
          ∀ e ∈ Node.elementsOfAll children, e.HandsNames := by
      rw [Node.elements, List.forall_mem_cons, Element.HandsNames, List.forall_mem_cons, and_assoc,
        List.forall_mem_map, Element.ownAttributes]
    have hclose := hbrace tag List.mem_cons_self
    rw [hcondition, ofNode]
    rw [← tag.uri_handed] at hclose
    refine .behind (givenName_makes tag) ?_
    rintro _ rfl
    refine .bind (makeHead_ends hroot.tag.handed (tag.uri_handed ▸ hroot.tagUri) hclose ?_) ?_
    · exact askedDeclarations_acceptable_of hroot.acceptable_of_declaration
        (fun uri huri => ⟨(hroot.tag.uri huri).2, hroot.tagUri uri huri⟩) children inScope
    rintro ⟨name, own⟩ -
    refine .bind (ofAttributes_ends (fun a ha => hroot.names a (hown ha))
      (fun a ha => hroot.values a (hown ha)) (fun a ha => hbrace _ ?_) List.nodup_nil) ?_
    · exact List.mem_cons_of_mem _ (List.mem_map_of_mem (hown ha))
    rintro ⟨own', set⟩ hset
    refine .before (ofNodes_ends children fun n hn => h.child hn) ?_
    rintro content ⟨more, hcontent, hmore⟩
    refine .of_pure ?_
    rw [Tree.attributeRows, hcontent, Node.elements]
    exact .cons hset hmore

/-- The nodes of a row become trees exactly if all names in them are handed over as names of XML. -/
theorem ofNodes_ends {outer : Around} {inScope : Declarations} {before : List Tree} :
    (ns : List Node) → (∀ n ∈ ns, n.Tolerated) → (ofNodes outer inScope before ns).Ends
      (∀ e ∈ Node.elementsOfAll ns, e.HandsNames) fun content => ∃ more,
        Tree.attributeRowsAll content = Tree.attributeRowsAll before ++ more ∧
          List.Forall₂ Merges (Node.elementsOfAll ns) more
  | [], _ => by
    rw [ofNodes]
    exact .of_makes (.of_pure ⟨[], by simp, .nil⟩) nofun
  | n :: ns, h => by
    rw [ofNodes]
    rw [Node.elementsOfAll, List.forall_mem_append]
    refine .bind (ofNode_ends n (h n List.mem_cons_self)) fun t ht => ?_
    refine (ofNodes_ends ns fun m hm => h m (List.mem_cons_of_mem n hm)).mono ?_
    rintro content ⟨more, hcontent, hmore⟩
    refine ⟨t.attributeRows ++ more, ?_, List.rel_append ht hmore⟩
    rw [hcontent, attributeRowsAll_appendNode, List.append_assoc]

end

/-- Whether there is one XML attribute for each attribute of an element, with its value, in order.
-/
def Carries (e : Element) (row : List TagAttribute) : Prop :=
  row.map (·.value) = e.ownAttributes.map (·.value)

/-- **No attribute is lost exactly if all are handed over with distinct names.** -/
theorem Merges.carries_iff {e : Element} {row : List TagAttribute} (h : Merges e row) :
    Carries e row ↔ e.HandsApart := by
  have hkeys : Fields.keys e.handedPairs = e.ownAttributes.map (·.name.handed) := List.map_map
  rw [Element.HandsApart, ← hkeys]
  constructor
  · intro hcarries
    have hcount : row.length = e.handedPairs.length := by
      simpa [Element.handedPairs] using congrArg List.length hcarries
    rw [← Fields.length_ofList_iff, ← h, List.length_map, hcount]
  · intro hapart
    have hpairs : row.map TagAttribute.pair = e.handedPairs :=
      h.trans (Fields.ofList_of_nodup hapart)
    have hvalues := congrArg (List.map Prod.snd) hpairs
    rwa [List.map_map, Element.handedPairs, List.map_map] at hvalues

theorem carries_all_iff {es : List Element} {rows : List (List TagAttribute)}
    (h : List.Forall₂ Merges es rows) :
    List.Forall₂ Carries es rows ↔ ∀ e ∈ es, e.HandsApart := by
  induction h with
  | nil => exact iff_of_true .nil nofun
  | cons hfirst _ ih => rw [List.forall₂_cons, List.forall_mem_cons, hfirst.carries_iff, ih]

/-- An element whose name and one of whose attributes kept an unbound prefix, with an element in a
namespace in it. -/
def prefixedLetter : Element :=
  ⟨⟨"p:r", none⟩, [⟨⟨"q:k", none⟩, "1"⟩, ⟨⟨"m", none⟩, "2"⟩],
    [.text "t", .element ⟨"c", some "urn:u"⟩ [⟨⟨"k", some "urn:u"⟩, "3"⟩, ⟨⟨"k", none⟩, "4"⟩] []]⟩

/-- An element with two attributes of which one kept an unbound prefix. -/
def collidingLetter : Element :=
  ⟨⟨"r", none⟩, [⟨⟨"p:k", none⟩, "1"⟩, ⟨⟨"k", none⟩, "2"⟩], []⟩

end Xml

end TagScript
