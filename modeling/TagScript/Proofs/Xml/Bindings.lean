import TagScript.Proofs.Xml.Reading
import TagScript.Proofs.Xml.RoundTrip

/-!
# Prefixes stay bound

The names of a tree are read back as they are only if the prefix that each was given is still bound
to its URI where the name stands, and if no default declaration reaches an element without a URI.

* `Settled` — around a place, every element has a prefix that is bound to its URI.
* `lookupUri_bound` — the prefix that is found for a URI is bound to it.
* `Prefixed.outcome` — a prefix that a name gets is bound, and those that were bound stay so.
* `askedDeclarations_cases` — a default declaration is asked for only where no element below is
  without a URI.
* **`ofNode_sound`** — every name in a tree is read as it is.
-/

namespace TagScript

/-- Nothing on the element is named as markup names declarations: it has no attribute `xmlns` in no
namespace, and declares neither the prefix `xmlns` nor another URI for the prefix `xml`. -/
structure Element.Unreserved (e : Element) : Prop where
  attributes : ∀ a ∈ e.attributes, a.name ≠ ⟨"xmlns", none⟩
  declared : ∀ a ∈ e.attributes, a.isDeclaration = true →
    a.name.localName ≠ "xmlns" ∧ (a.name.localName = "xml" → a.value = xmlUri)

instance (e : Element) : Decidable e.Unreserved :=
  decidable_of_iff ((∀ a ∈ e.attributes, a.name ≠ ⟨"xmlns", none⟩) ∧
      ∀ a ∈ e.attributes, a.isDeclaration = true →
        a.name.localName ≠ "xmlns" ∧ (a.name.localName = "xml" → a.value = xmlUri))
    ⟨fun ⟨h, h'⟩ => ⟨h, h'⟩, fun ⟨h, h'⟩ => ⟨h, h'⟩⟩

namespace Xml

/-! ## Places where prefixes are bound -/

/-- Declarations as they come about on an element: each prefix once, none that markup keeps for
itself. -/
structure Declarations.Tidy (own : Declarations) : Prop where
  keys : (Fields.keys own).Nodup
  writable : ∀ d ∈ own, WritableDeclaration d
  ne_xmlns : some "xmlns" ∉ Fields.keys own

/-- Around a place, the declarations of every element are tidy, and the prefix of its name is bound to
its URI. -/
inductive Settled : Around → Prop
  /-- Around a root there is nothing. -/
  | nil : Settled []
  /-- Inside one more element. -/
  | cons {place : Place} {outer : Around} (settled : Settled outer) (tidy : place.declarations.Tidy)
      (owner : ∀ d ∈ place.owner, lookupPrefix (place :: outer) d.1 = some d.2) :
      Settled (place :: outer)

/-- The bindings around a place, innermost first. -/
def bindingsOf (around : Around) : Declarations :=
  around.flatMap (·.declarations)

variable {outer around : Around} {own own' : Declarations} {pfx : Option String} {uri : String}

/-- What the reader of markup finds is what the maker of the tree found. -/
theorem bound_bindingsOf (around : Around) (p : String) :
    Markup.bound (bindingsOf around) p = lookupPrefix around (some p) := by
  rw [Markup.bound]
  split
  · rename_i hxml
    rw [hxml, lookupPrefix_xml]
  · rename_i hne
    induction around with
    | nil => simp [bindingsOf, Fields.get?, lookupPrefix, hne]
    | cons place outer ih =>
      rw [lookupPrefix_cons (fun h => hne (Option.some.inj h)), ← ih, bindingsOf,
        List.flatMap_cons, Fields.get?_append_or]
      rfl

theorem default_bindingsOf (around : Around) :
    Fields.get? (bindingsOf around) none = lookupPrefix around none := by
  induction around with
  | nil => rfl
  | cons place outer ih =>
    rw [lookupPrefix_cons (by simp), ← ih, bindingsOf, List.flatMap_cons, Fields.get?_append_or]
    rfl

/-- A bound prefix is a name, and not one that markup keeps for declarations. -/
theorem Settled.isName (h : Settled around) {p : String}
    (hbound : lookupPrefix around (some p) = some uri) : isName p = true ∧ p ≠ "xmlns" := by
  by_cases hxml : p = "xml"
  · subst hxml
    decide
  induction h with
  | nil => simp [lookupPrefix, hxml] at hbound
  | @cons place outer settled tidy owner ih =>
    rw [lookupPrefix_cons (fun h => hxml (Option.some.inj h))] at hbound
    cases hget : Fields.get? place.declarations (some p) with
    | none =>
      rw [hget] at hbound
      exact ih hbound
    | some value =>
      have hmem := Fields.mem_of_get? hget
      refine ⟨(tidy.writable _ hmem p rfl).1, ?_⟩
      rintro rfl
      exact tidy.ne_xmlns (List.mem_map_of_mem hmem)

/-- **The prefix that is found for a URI is bound to it.** -/
theorem lookupUri_bound {forAttribute : Bool} {nearer : Around} (h : Settled around)
    (hfound : lookupUri forAttribute uri nearer around = some pfx) :
    pfx ≠ some "xml" ∧ (forAttribute = true → pfx ≠ none) ∧
      (∀ near ∈ nearer, Fields.get? near.declarations pfx = none) ∧
      lookupPrefix around pfx = some uri := by
  induction h generalizing nearer with
  | nil => cases hfound
  | @cons place outer settled tidy owner ih =>
    rw [lookupUri] at hfound
    split at hfound
    · rename_i d hfind
      cases hfound
      have husable := List.find?_some hfind
      simp only [Bool.and_eq_true, beq_iff_eq, bne_iff_ne, Bool.not_eq_true', Bool.and_eq_false_imp,
        List.any_eq_false, Option.not_isSome_iff_eq_none] at husable
      obtain ⟨⟨⟨huri, hxml⟩, hdefault⟩, hnear⟩ := husable
      refine ⟨hxml, fun hattr heq => ?_, hnear, ?_⟩
      · simpa [heq] using hdefault hattr
      · rcases List.mem_append.mp (List.mem_of_find?_eq_some hfind) with hmem | hmem
        · rw [lookupPrefix_cons hxml, Fields.get?_of_mem tidy.keys hmem, huri]
          rfl
        · rw [owner d (by simpa using hmem), huri]
    · obtain ⟨hxml, hdefault, hnear, hbound⟩ := ih hfound
      refine ⟨hxml, hdefault, fun near hmem => hnear near (List.mem_cons_of_mem _ hmem), ?_⟩
      rw [lookupPrefix_cons hxml, hnear place List.mem_cons_self, hbound]
      rfl

/-! ## What is declared later -/

/-- More is declared on an element: what was bound stays so, and there is no other default
namespace. -/
structure Grown (outer : Around) (own own' : Declarations) : Prop where
  keeps : ∀ pfx uri, lookupPrefix (⟨own, none⟩ :: outer) pfx = some uri →
    lookupPrefix (⟨own', none⟩ :: outer) pfx = some uri
  default : lookupPrefix (⟨own', none⟩ :: outer) none = lookupPrefix (⟨own, none⟩ :: outer) none

theorem Grown.refl (outer : Around) (own : Declarations) : Grown outer own own :=
  ⟨fun _ _ h => h, rfl⟩

theorem Grown.trans {own'' : Declarations} (h : Grown outer own own')
    (h' : Grown outer own' own'') : Grown outer own own'' :=
  ⟨fun pfx uri hbound => h'.keeps pfx uri (h.keeps pfx uri hbound),
    h'.default.trans h.default⟩

theorem IsFresh.ne_xml {p : String} (h : IsFresh around p) : p ≠ "xml" := by
  rintro rfl
  exact nomatch (lookupPrefix_xml around).symm.trans h.free

theorem IsFresh.not_mem_keys {p : String} (h : IsFresh (⟨own, none⟩ :: outer) p) :
    some p ∉ Fields.keys own := by
  have hfree := h.free
  rw [lookupPrefix_cons (fun heq => h.ne_xml (Option.some.inj heq)), Option.or_eq_none_iff]
    at hfree
  exact Fields.get?_eq_none_iff.mp hfree.1

/-- A fresh prefix is bound to what it is declared for, and the others stay as they are. -/
theorem lookupPrefix_fresh {p : String} (h : IsFresh (⟨own, none⟩ :: outer) p) (uri : String)
    (pfx : Option String) :
    lookupPrefix (⟨own ++ [(some p, uri)], none⟩ :: outer) pfx =
      if some p = pfx then some uri else lookupPrefix (⟨own, none⟩ :: outer) pfx := by
  have hadded : declare outer own (some p, uri) = own ++ [(some p, uri)] := by
    rw [declare, if_neg]
    rw [h.free]
    exact (Option.some_ne_none uri).symm
  rw [← hadded]
  exact lookupPrefix_declare (fun heq => absurd (Option.some.inj heq) h.ne_xml) h.not_mem_keys pfx

theorem Declarations.Tidy.fresh {p : String} (h : own.Tidy)
    (hp : IsFresh (⟨own, none⟩ :: outer) p) (uri : String) :
    Declarations.Tidy (own ++ [(some p, uri)]) := by
  have hkeys : Fields.keys (own ++ [(some p, uri)]) = Fields.keys own ++ [some p] := by
    simp [Fields.keys]
  refine ⟨?_, ?_, ?_⟩
  · rw [hkeys]
    exact List.perm_append_comm.nodup (List.nodup_cons.mpr ⟨hp.not_mem_keys, h.keys⟩)
  · intro d hd q hq
    rcases List.mem_append.mp hd with hd | hd
    · exact h.writable d hd q hq
    · cases List.mem_singleton.mp hd
      cases hq
      exact ⟨hp.isName, hp.ne_xml⟩
  · rw [hkeys]
    intro hmem
    rcases List.mem_append.mp hmem with hmem | hmem
    · exact h.ne_xmlns hmem
    · exact hp.ne_xmlns (Option.some.inj (List.mem_singleton.mp hmem)).symm

/-- **The prefix that a name gets is bound to its URI**, and what was bound stays so. -/
theorem Prefixed.outcome {forAttribute : Bool} {uri : Option String}
    (h : Prefixed forAttribute outer own uri pfx own') (houter : Settled outer) (htidy : own.Tidy) :
    own'.Tidy ∧ Grown outer own own' ∧
      (∀ u ∈ uri, lookupPrefix (⟨own', none⟩ :: outer) pfx = some u ∧
        (forAttribute = true → pfx ≠ none)) ∧ (uri = none → pfx = none) := by
  cases h with
  | unqualified => exact ⟨htidy, .refl outer own, nofun, fun _ => rfl⟩
  | reserved =>
    refine ⟨htidy, .refl outer own, ?_, nofun⟩
    rintro _ ⟨⟩
    exact ⟨lookupPrefix_xml _, fun _ => nofun⟩
  | known found =>
    have hsettled : Settled (⟨own, none⟩ :: outer) := .cons houter htidy nofun
    obtain ⟨-, hdefault, -, hbound⟩ := lookupUri_bound hsettled found
    refine ⟨htidy, .refl outer own, ?_, nofun⟩
    rintro _ ⟨⟩
    exact ⟨hbound, hdefault⟩
  | @fresh u p new =>
    refine ⟨htidy.fresh new u, ⟨fun q v hq => ?_, ?_⟩, ?_, nofun⟩
    · rw [lookupPrefix_fresh new]
      split
      · rename_i heq
        rw [← heq, new.free] at hq
        cases hq
      · exact hq
    · rw [lookupPrefix_fresh new, if_neg nofun]
    · rintro _ ⟨⟩
      exact ⟨by rw [lookupPrefix_fresh new, if_pos rfl], fun _ => nofun⟩

/-! ## What is asked for -/

variable {asked : Declarations} {tag : QName} {attributes : List Attribute} {children : List Node}

/-- Declarations that can be asked for: each prefix once, `xml` only for its own URI, and never
`xmlns`. -/
structure Declarations.Askable (asked : Declarations) : Prop where
  keys : (Fields.keys asked).Nodup
  names : ∀ d ∈ asked, ∀ p ∈ d.1, isName p = true
  keepsXml : asked.KeepsXml
  ne_xmlns : some "xmlns" ∉ Fields.keys asked

/-- What is declared was asked for, and is not the prefix `xml`. -/
theorem mem_foldl_declare (hxml : asked.KeepsXml) {d : Option String × String}
    (h : d ∈ asked.foldl (declare outer) own) : d ∈ own ∨ d ∈ asked ∧ d.1 ≠ some "xml" := by
  induction asked generalizing own with
  | nil => exact .inl h
  | cons e rest ih =>
    rcases ih (fun u hu => hxml u (List.mem_cons_of_mem e hu)) h with hmem | ⟨hmem, hne⟩
    · rw [declare] at hmem
      split at hmem
      · exact .inl hmem
      · rename_i hholds
        rcases List.mem_append.mp hmem with hmem | hmem
        · exact .inl hmem
        · cases List.mem_singleton.mp hmem
          refine .inr ⟨List.mem_cons_self, fun heq => hholds ?_⟩
          rw [heq, lookupPrefix_xml, hxml d.2 (heq ▸ List.mem_cons_self)]
    · exact .inr ⟨List.mem_cons_of_mem e hmem, hne⟩

theorem Declarations.Askable.tidy (h : asked.Askable) (outer : Around) :
    (declared outer asked).Tidy := by
  have hmem : ∀ d ∈ declared outer asked, d ∈ asked ∧ d.1 ≠ some "xml" := by
    intro d hd
    have hlast : (defaultLast asked).KeepsXml := fun u hu => h.keepsXml u (mem_defaultLast.mp hu)
    obtain ⟨hin, hne⟩ := (mem_foldl_declare hlast hd).resolve_left List.not_mem_nil
    exact ⟨mem_defaultLast.mp hin, hne⟩
  refine ⟨nodup_keys_declared h.keys, fun d hd p hp => ?_, fun hin => ?_⟩
  · exact ⟨h.names d (hmem d hd).1 p hp, fun heq => (hmem d hd).2 (heq ▸ hp)⟩
  · obtain ⟨d, hd, heq⟩ := List.mem_map.mp hin
    exact h.ne_xmlns (List.mem_map.mpr ⟨d, (hmem d hd).1, heq⟩)

/-- **The prefix of an element is bound to its URI**, and the default namespace inside is what was
asked for, or else that around the element. -/
theorem Titled.outcome {uri : Option String} (h : Titled outer asked uri pfx own)
    (houter : Settled outer) (hasked : asked.Askable) :
    own.Tidy ∧ (∀ u ∈ uri, lookupPrefix (⟨own, none⟩ :: outer) pfx = some u) ∧
      (uri = none → pfx = none) ∧
      lookupPrefix (⟨own, none⟩ :: outer) none =
        (Fields.get? asked none).or (lookupPrefix outer none) := by
  have hdefault := @lookupPrefix_declared outer asked hasked.keepsXml hasked.keys none
  cases h with
  | asked mem =>
    refine ⟨hasked.tidy outer, ?_, nofun, hdefault⟩
    rintro _ ⟨⟩
    rw [lookupPrefix_declared hasked.keepsXml hasked.keys, Fields.get?_of_mem hasked.keys mem]
    rfl
  | other prefixed =>
    obtain ⟨htidy, hgrown, hbound, hnone⟩ := prefixed.outcome houter (hasked.tidy outer)
    exact ⟨htidy, fun u hu => (hbound u hu).1, hnone, hgrown.default.trans hdefault⟩

/-- The numbers that are tried for a free prefix are enough. -/
theorem freePrefix_eq (own inScope : Declarations) :
    ∃ k, freePrefix own inScope = prefixOf k ∧
      some (prefixOf k) ∉ Fields.keys (own ++ inScope) := by
  let used := fun n : Nat => (own ++ inScope).any fun d => d.1 == some ("ns" ++ toString n)
  have hused : ∀ n, used n = true ↔ some (prefixOf n) ∈ Fields.keys (own ++ inScope) := by
    intro n
    simp [used, Fields.keys, prefixOf]
  obtain ⟨i, hi, hfree⟩ := exists_prefixOf_not_mem (Fields.keys (own ++ inScope)) 0
  have hfound : ((List.range (own.length + inScope.length + 1)).find? fun n => !used n).isSome := by
    refine List.find?_isSome.mpr ⟨i, List.mem_range.mpr ?_, ?_⟩
    · simpa [Fields.keys] using hi
    · rw [Nat.zero_add, ← hused] at hfree
      simpa using hfree
  obtain ⟨k, hk⟩ := Option.isSome_iff_exists.mp hfound
  refine ⟨k, ?_, fun hmem => ?_⟩
  · change "ns" ++ toString (((List.range _).find? fun n => !used n).getD 0) = _
    rw [hk]
    rfl
  · have hnot := List.find?_some hk
    simp [(hused k).mpr hmem] at hnot

/-- The declarations of an element itself. -/
def ownDeclarations (tag : QName) (attributes : List Attribute) (children : List Node) :
    Declarations :=
  (Element.declarations ⟨tag, attributes, children⟩).map fun d => (some d.1, d.2)

/-- **A default declaration is asked for only where no element below is without a URI.** -/
theorem askedDeclarations_cases (tag : QName) (attributes : List Attribute)
    (children : List Node) (inScope : Declarations) :
    askedDeclarations tag attributes children inScope =
        ownDeclarations tag attributes children ∨
      ∃ uri pfx, tag.uri = some uri ∧
        askedDeclarations tag attributes children inScope =
          ownDeclarations tag attributes children ++ [(pfx, uri)] ∧
        (pfx = none ∧ capturesUnqualified children = false ∨
          ∃ k, pfx = some (prefixOf k) ∧
            pfx ∉ Fields.keys (ownDeclarations tag attributes children)) := by
  rw [askedDeclarations]
  cases huri : tag.uri with
  | none => exact .inl rfl
  | some uri =>
    simp only
    split
    · exact .inl rfl
    · refine .inr ?_
      split
      · obtain ⟨k, hk, hfree⟩ := freePrefix_eq (ownDeclarations tag attributes children) inScope
        refine ⟨uri, some (prefixOf k), rfl, by rw [← hk]; rfl, .inr ⟨k, rfl, fun hmem => ?_⟩⟩
        refine hfree ?_
        rw [Fields.keys, List.map_append]
        exact List.mem_append_left _ hmem
      · rename_i hcaptures
        exact ⟨uri, none, rfl, rfl, .inl ⟨rfl, by simpa using hcaptures⟩⟩

/-- The prefixes of the declarations of an element itself. -/
theorem mem_ownDeclarations {d : Option String × String}
    (h : d ∈ ownDeclarations tag attributes children) :
    ∃ a ∈ attributes, a.isDeclaration = true ∧ d = (some a.name.localName, a.value) := by
  obtain ⟨pair, hpair, rfl⟩ := List.mem_map.mp h
  obtain ⟨a, ha, rfl⟩ := List.mem_map.mp (Fields.mem_of_mem_ofList hpair)
  obtain ⟨hmem, hdeclares⟩ := List.mem_filter.mp ha
  exact ⟨a, hmem, hdeclares, rfl⟩

theorem not_mem_keys_ownDeclarations :
    none ∉ Fields.keys (ownDeclarations tag attributes children) := by
  intro hmem
  obtain ⟨d, hd, heq⟩ := List.mem_map.mp hmem
  obtain ⟨a, -, -, rfl⟩ := mem_ownDeclarations hd
  cases heq

/-- What an unreserved element asks for can be asked for. -/
theorem askedDeclarations_askable (hacc : (Element.mk tag attributes children).Acceptable)
    (hunreserved : (Element.mk tag attributes children).Unreserved) (inScope : Declarations) :
    (askedDeclarations tag attributes children inScope).Askable := by
  have hkeys : (Fields.keys (ownDeclarations tag attributes children)).Nodup := by
    have hofList := Fields.nodup_keys_ofList
      ((attributes.filter Attribute.isDeclaration).map fun a => (a.name.localName, a.value))
    have hmap : Fields.keys (ownDeclarations tag attributes children) =
        (Fields.keys (Element.declarations ⟨tag, attributes, children⟩)).map some := by
      simp [Fields.keys, ownDeclarations]
    rw [hmap]
    exact hofList.map fun a b h => Option.some.inj h
  have hxml : (ownDeclarations tag attributes children).KeepsXml := by
    intro uri hmem
    obtain ⟨a, ha, hdeclares, heq⟩ := mem_ownDeclarations hmem
    obtain ⟨hlocal, hvalue⟩ := Prod.mk.inj heq
    rw [hvalue]
    exact (hunreserved.declared a ha hdeclares).2 (Option.some.inj hlocal).symm
  have hxmlns : some "xmlns" ∉ Fields.keys (ownDeclarations tag attributes children) := by
    intro hmem
    obtain ⟨d, hd, heq⟩ := List.mem_map.mp hmem
    obtain ⟨a, ha, hdeclares, rfl⟩ := mem_ownDeclarations hd
    exact (hunreserved.declared a ha hdeclares).1 (Option.some.inj heq)
  have hnames : ∀ d ∈ askedDeclarations tag attributes children inScope, ∀ p ∈ d.1,
      isName p = true := fun d hd p hp => (askedDeclarations_acceptable hacc inScope d hd).2.2 p hp
  rcases askedDeclarations_cases tag attributes children inScope with
    heq | ⟨uri, pfx, -, heq, hpfx⟩
  · exact heq ▸ ⟨hkeys, heq ▸ hnames, hxml, hxmlns⟩
  · have hnew : pfx ∉ Fields.keys (ownDeclarations tag attributes children) := by
      obtain ⟨rfl, -⟩ | ⟨k, -, hnew⟩ := hpfx
      · exact not_mem_keys_ownDeclarations
      · exact hnew
    have hreserved : pfx ≠ some "xml" ∧ pfx ≠ some "xmlns" := by
      obtain ⟨rfl, -⟩ | ⟨k, rfl, -⟩ := hpfx
      · exact ⟨(Option.some_ne_none _).symm, (Option.some_ne_none _).symm⟩
      · exact ⟨fun h => prefixOf_ne_xml k (Option.some.inj h),
          fun h => prefixOf_ne_xmlns k (Option.some.inj h)⟩
    have happend : Fields.keys (ownDeclarations tag attributes children ++ [(pfx, uri)]) =
        Fields.keys (ownDeclarations tag attributes children) ++ [pfx] := by
      simp [Fields.keys]
    refine ⟨?_, hnames, fun u hu => ?_, fun hmem => ?_⟩
    · rw [heq, happend]
      exact List.perm_append_comm.nodup (List.nodup_cons.mpr ⟨hnew, hkeys⟩)
    · rw [heq] at hu
      rcases List.mem_append.mp hu with hu | hu
      · exact hxml u hu
      · exact absurd (Prod.mk.inj (List.mem_singleton.mp hu)).1.symm hreserved.1
    · rw [heq, happend] at hmem
      rcases List.mem_append.mp hmem with hmem | hmem
      · exact hxmlns hmem
      · exact hreserved.2 (List.mem_singleton.mp hmem).symm

/-! ## The names of a tree -/

/-- An attribute that is read as it is stays so when more is declared. -/
theorem TagAttribute.Sound.grown {a : TagAttribute}
    (h : a.Sound (bindingsOf (⟨own, none⟩ :: outer))) (hgrown : Grown outer own own') :
    a.Sound (bindingsOf (⟨own', none⟩ :: outer)) where
  toWritten := h.toWritten
  bound p hp := by
    obtain ⟨hbound, hsome⟩ := h.bound p hp
    obtain ⟨u, hu⟩ := Option.isSome_iff_exists.mp hsome
    rw [bound_bindingsOf, hu] at hbound ⊢
    exact ⟨hgrown.keeps _ _ hbound, rfl⟩
  unbound := h.unbound
  ne_xmlns := h.ne_xmlns

/-- A new attribute is read as it is. -/
theorem Prefixed.attribute_sound {a : Attribute}
    (h : Prefixed true outer own a.name.uri pfx own') (houter : Settled outer) (htidy : own.Tidy)
    (hacc : a.Acceptable) (hne : a.name ≠ ⟨"xmlns", none⟩) :
    TagAttribute.Sound (bindingsOf (⟨own', none⟩ :: outer))
      ⟨⟨pfx, a.name.localName, a.name.uri⟩, a.value⟩ := by
  obtain ⟨htidy', -, hbound, hnone⟩ := h.outcome houter htidy
  have hsettled : Settled (⟨own', none⟩ :: outer) := .cons houter htidy' nofun
  have hsome : ∀ p ∈ pfx, ∃ u, a.name.uri = some u ∧
      lookupPrefix (⟨own', none⟩ :: outer) (some p) = some u := by
    intro p hp
    cases huri : a.name.uri with
    | none => exact nomatch hp.symm.trans (hnone huri)
    | some u => exact ⟨u, rfl, hp ▸ (hbound u huri).1⟩
  refine ⟨⟨hacc.name.localPart, fun p hp => ?_⟩, fun p hp => ?_, fun hp => ?_, fun heq => ?_⟩
  · obtain ⟨u, -, hlookup⟩ := hsome p hp
    exact (hsettled.isName hlookup).1
  · obtain ⟨u, huri, hlookup⟩ := hsome p hp
    rw [bound_bindingsOf, hlookup, huri]
    exact ⟨rfl, rfl⟩
  · cases huri : a.name.uri with
    | none => rfl
    | some u => exact absurd hp ((hbound u huri).2 rfl)
  · cases hp : pfx with
    | none =>
      rw [hp] at heq
      refine hne ?_
      have hlocal : a.name.localName = "xmlns" := heq
      have hname : a.name = ⟨a.name.localName, a.name.uri⟩ := rfl
      cases huri : a.name.uri with
      | none => rw [hname, hlocal, huri]
      | some u => exact absurd hp ((hbound u huri).2 rfl)
    | some p =>
      rw [hp] at heq
      obtain ⟨u, -, hlookup⟩ := hsome p hp
      exact (hsettled.isName hlookup).2 heq

/-- The name of an element is read as it is. -/
theorem TagName.sound_of_bound {name : TagName} (hsettled : Settled around)
    (hlocal : isName name.localName = true)
    (hbound : ∀ u ∈ name.uri, lookupPrefix around name.pfx = some u ∧ u ≠ "")
    (hnone : name.uri = none → name.pfx = none ∧ lookupPrefix around none = none) :
    name.Sound (bindingsOf around) := by
  have hsome : ∀ p ∈ name.pfx, ∃ u, name.uri = some u ∧
      lookupPrefix around (some p) = some u := by
    intro p hp
    cases huri : name.uri with
    | none => exact nomatch hp.symm.trans (hnone huri).1
    | some u => exact ⟨u, rfl, hp ▸ (hbound u huri).1⟩
  refine ⟨⟨hlocal, fun p hp => ?_⟩, fun p hp => ?_, fun hp => ?_⟩
  · obtain ⟨u, -, hlookup⟩ := hsome p hp
    exact (hsettled.isName hlookup).1
  · obtain ⟨u, huri, hlookup⟩ := hsome p hp
    rw [bound_bindingsOf, hlookup, huri]
    exact ⟨rfl, rfl⟩
  · rw [default_bindingsOf]
    cases huri : name.uri with
    | none => exact ⟨(hnone huri).2, nofun⟩
    | some u =>
      obtain ⟨hlookup, hne⟩ := hbound u huri
      exact ⟨hp ▸ hlookup, fun heq => hne (Option.some.inj heq)⟩

/-- Where a default declaration is asked for, the element has a URI, and so have all below it. -/
theorem get?_askedDeclarations_none (tag : QName) (attributes : List Attribute)
    (children : List Node) (inScope : Declarations) :
    Fields.get? (askedDeclarations tag attributes children inScope) none = none ∨
      tag.uri.isSome = true ∧
        ∀ e ∈ Node.elementsOfAll children, e.tag.uri.isSome = true := by
  have hown : Fields.get? (ownDeclarations tag attributes children) none = none :=
    Fields.get?_eq_none_iff.mpr not_mem_keys_ownDeclarations
  rcases askedDeclarations_cases tag attributes children inScope with
    heq | ⟨uri, pfx, huri, heq, ⟨rfl, hcaptures⟩ | ⟨k, rfl, -⟩⟩
  · exact .inl (heq ▸ hown)
  · refine .inr ⟨by rw [huri]; rfl, fun e he => ?_⟩
    have hqualified := List.any_eq_false.mp hcaptures e he
    cases hsome : e.tag.uri with
    | none => exact absurd (by rw [hsome]; rfl) hqualified
    | some u => rfl
  · refine .inl ?_
    rw [heq, Fields.get?_append_or, hown]
    rfl

/-- What holds of a row of trees and of one more holds when that is added behind. -/
theorem Tree.soundAll_appendNode {outside : Declarations} {before : List Tree} {t : Tree}
    (hbefore : Tree.SoundAll outside before) (ht : t.Sound outside) :
    Tree.SoundAll outside (appendNode before t) := by
  fun_induction appendNode before t with
  | case1 a b => exact ⟨trivial, trivial⟩
  | case2 t => exact ⟨ht, trivial⟩
  | case3 first rest t _ ih => exact ⟨hbefore.1, ih hbefore.2 ht⟩

end Xml

/-- No default namespace reaches an element without a URI. -/
def Node.Uncaptured (around : Xml.Around) (n : Node) : Prop :=
  Xml.lookupPrefix around none = none ∨ ∀ e ∈ n.elements, e.tag.uri.isSome = true

namespace Xml

variable {inScope : Declarations}

/-- The children of an element are not reached by a default namespace either. -/
theorem uncaptured_child {tag : QName} {attributes : List Attribute} {children : List Node}
    (h : (Node.element tag attributes children).Uncaptured outer)
    (hdefault : lookupPrefix around none =
      (Fields.get? (askedDeclarations tag attributes children inScope) none).or
        (lookupPrefix outer none)) {n : Node} (hn : n ∈ children) : n.Uncaptured around := by
  rcases get?_askedDeclarations_none tag attributes children inScope with hnone | ⟨-, hall⟩
  · rw [hnone, Option.none_or] at hdefault
    refine h.imp (fun hout => hdefault.trans hout) fun hall e he => ?_
    exact hall e (List.mem_cons_of_mem _ (Node.elements_subset hn he))
  · exact .inr fun e he => hall e (Node.elements_subset hn he)

mutual

/-- **Every name in a tree is read as it is.** -/
theorem ofNode_sound {outer : Around} {inScope : Declarations} (houter : Settled outer) : (n : Node) → n.Fit →
    (∀ e ∈ n.elements, e.Unreserved) → n.Uncaptured outer →
      (ofNode outer inScope n).Makes fun t => t.Sound (bindingsOf outer)
  | .text value, h, _, _ => by
    rw [ofNode]
    refine .bind (.of_ok (checkText_of_allowed h.text) rfl) fun _ _ => ?_
    exact .of_pure trivial
  | .element tag attributes children, h, hunreserved, huncaptured => by
    have hacc := h.acceptable _ List.mem_cons_self
    have hfree := hunreserved _ List.mem_cons_self
    have hasked := askedDeclarations_askable hacc hfree inScope
    -- what was bound when the name got its prefix stays bound while the attributes get theirs
    refine ofNode_element_makes (P := fun own own' done => own'.Tidy ∧ Grown outer own own' ∧
      ∀ a ∈ done, a.Sound (bindingsOf (⟨own', none⟩ :: outer))) h ?_ ?_ ?_
    · intro own pfx htitled
      exact ⟨(htitled.outcome houter hasked).1, .refl outer own, nofun⟩
    · rintro first a ha own done pfx own' hprefixed ⟨htidy, hgrown, hdone⟩
      obtain ⟨htidy', hgrown', -⟩ := hprefixed.outcome houter htidy
      refine ⟨htidy', hgrown.trans hgrown', fun b hb => ?_⟩
      rcases List.mem_append.mp hb with hb | hb
      · exact (hdone b hb).grown hgrown'
      · rw [List.mem_singleton.mp hb]
        exact hprefixed.attribute_sound houter htidy (hacc.attributes a ha)
          (hfree.attributes a ha)
    rintro name own own' set hlocal huri htitled ⟨htidy', hgrown, hset⟩ -
    obtain ⟨-, hbound, hnone, hdefault⟩ := htitled.outcome houter hasked
    have hbound' : ∀ u ∈ name.uri, lookupPrefix (.ofElement name own' :: outer) name.pfx = some u :=
      fun u hu => hgrown.keeps name.pfx u (hbound u (huri ▸ hu))
    have hdefault' := hgrown.default.trans hdefault
    have hsettled : Settled (.ofElement name own' :: outer) := by
      refine .cons houter htidy' fun d hd => ?_
      obtain ⟨u, hu, rfl⟩ := Option.map_eq_some_iff.mp hd
      exact hbound' u hu
    have hname : name.Sound (bindingsOf (.ofElement name own' :: outer)) := by
      refine TagName.sound_of_bound hsettled (hlocal ▸ hacc.tag.localPart) (fun u hu => ?_)
        fun hu => ?_
      · exact ⟨hbound' u hu, (hacc.tag.uri u (huri ▸ hu)).1⟩
      · have hwithout : tag.uri = none := huri.symm.trans hu
        refine ⟨hnone hwithout, hdefault'.trans ?_⟩
        rcases get?_askedDeclarations_none tag attributes children inScope with hget | ⟨hsome, -⟩
        · rw [hget, Option.none_or]
          refine huncaptured.resolve_right fun hall => ?_
          exact absurd (hall _ List.mem_cons_self) (by rw [hwithout]; decide)
        · exact absurd hsome (by rw [hwithout]; decide)
    have hempty : Tree.SoundAll (bindingsOf (.ofElement name own' :: outer)) [] := trivial
    refine (ofNodes_sound hsettled hempty children (fun n hn => h.child hn)
      (fun n hn e he => hunreserved e (List.mem_cons_of_mem _ (Node.elements_subset hn he)))
      (fun n hn => uncaptured_child huncaptured hdefault' hn)).mono fun content hcontent => ?_
    exact ⟨htidy'.writable, hname, hset, hcontent⟩

/-- Every name in a row of trees is read as it is. -/
theorem ofNodes_sound {outer : Around} {inScope : Declarations} (houter : Settled outer)
    {before : List Tree} (hbefore : Tree.SoundAll (bindingsOf outer) before) : (ns : List Node) → (∀ n ∈ ns, n.Fit) →
      (∀ n ∈ ns, ∀ e ∈ n.elements, e.Unreserved) → (∀ n ∈ ns, n.Uncaptured outer) →
        (ofNodes outer inScope before ns).Makes fun content =>
          Tree.SoundAll (bindingsOf outer) content
  | [], _, _, _ => by
    rw [ofNodes]
    exact .of_pure hbefore
  | n :: ns, h, hunreserved, huncaptured => by
    rw [ofNodes]
    refine .bind (ofNode_sound houter n (h n List.mem_cons_self)
      (hunreserved n List.mem_cons_self) (huncaptured n List.mem_cons_self)) fun t ht => ?_
    exact ofNodes_sound houter (Tree.soundAll_appendNode hbefore ht) ns
      (fun m hm => h m (List.mem_cons_of_mem n hm))
      (fun m hm => hunreserved m (List.mem_cons_of_mem n hm))
      (fun m hm => huncaptured m (List.mem_cons_of_mem n hm))

end

end Xml

end TagScript
