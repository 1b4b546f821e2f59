import Mathlib.Data.List.Nodup
import Mathlib.Data.List.Perm.Subperm
import TagScript.Proofs.Xml.Accepted

/-!
# Names and declarations of a new element

Where an element stands, each prefix is bound to one URI or to none. What is declared on the element
binds its prefix and leaves the others as they are, and a new prefix is one that was not bound.

* `declareAll_eq` — which of the declarations asked for are added.
* `lookupPrefix_declared` — what is bound when all of them are.
* `numberedPrefix_free` — the numbers that are tried are enough.
* `Prefixed` — the ways in which a URI comes to its prefix.
* **`makeHead_makes`**, **`setAttribute_makes`** — a new element and its attributes keep their names,
  and get their prefixes in one of these ways.
-/

namespace TagScript

namespace Xml

/-! ## Declarations asked for -/

/-- Declarations that nothing refuses: URIs, and prefixes that are names. -/
def Declarations.Acceptable (asked : Declarations) : Prop :=
  ∀ d ∈ asked, Allowed d.2 ∧ Uri.isReference d.2 = true ∧ ∀ p, d.1 = some p → isName p = true

/-- The declarations of an element behind one more that was asked for: it is added unless it holds
already. -/
def declare (outer : Around) (own : Declarations) (d : Option String × String) : Declarations :=
  if lookupPrefix (⟨own, none⟩ :: outer) d.1 = some d.2 then own else own ++ [d]

/-- The declarations of an element for which these were asked. -/
def declared (outer : Around) (asked : Declarations) : Declarations :=
  (defaultLast asked).foldl (declare outer) []

variable {outer around : Around} {own asked : Declarations} {uri : String}

/-- Nothing is refused, and the first of the declarations with the URI is found. -/
theorem declareAll_eq {wanted : Option String} (h : asked.Acceptable)
    (found : Option (Option String)) :
    declareAll outer wanted own asked found =
      .ok (asked.foldl (declare outer) own,
        found.or ((asked.find? fun d => wanted == some d.2).map (·.1))) := by
  induction asked generalizing own found with
  | nil => simp [declareAll]
  | cons d rest ih =>
    obtain ⟨pfx, uri⟩ := d
    obtain ⟨hallowed, hreference, hname⟩ := h _ List.mem_cons_self
    have hrest := @ih (declare outer own (pfx, uri)) (fun d hd => h d (List.mem_cons_of_mem _ hd))
      (if found.isNone && wanted = some uri then some pfx else found)
    have hfound : (if found.isNone && wanted = some uri then some pfx else found).or
          ((rest.find? fun d => wanted == some d.2).map (·.1)) =
        found.or ((((pfx, uri) :: rest).find? fun d => wanted == some d.2).map (·.1)) := by
      cases found with
      | some p => rfl
      | none => by_cases hwanted : wanted = some uri <;> simp [hwanted]
    rw [hfound] at hrest
    rw [declareAll, checkText_of_allowed hallowed, checkUri_of_isReference hreference,
      List.foldl_cons, ← hrest]
    cases pfx with
    | none => rfl
    | some p =>
      have hp := hname p rfl
      simp only [bind, Except.bind, checkText_of_allowed (allowed_of_isName hp), hp]
      rfl

/-- The prefix `xml` is bound everywhere. -/
theorem lookupPrefix_xml (around : Around) : lookupPrefix around (some "xml") = some xmlUri :=
  if_pos rfl

/-- The declarations of the nearest element come first. -/
theorem lookupPrefix_cons {place : Place} {pfx : Option String} (h : pfx ≠ some "xml") :
    lookupPrefix (place :: around) pfx =
      (Fields.get? place.declarations pfx).or (lookupPrefix around pfx) := by
  rw [lookupPrefix, if_neg h, lookupPrefix, if_neg h, List.findSome?_cons]
  cases Fields.get? place.declarations pfx <;> rfl

/-- No declaration binds the prefix `xml` to another URI. -/
def Declarations.KeepsXml (asked : Declarations) : Prop :=
  ∀ uri, (some "xml", uri) ∈ asked → uri = xmlUri

/-- What is declared binds its prefix, and leaves the others as they are. -/
theorem lookupPrefix_declare {d : Option String × String} (hxml : d.1 = some "xml" → d.2 = xmlUri)
    (hnew : d.1 ∉ Fields.keys own) (pfx : Option String) :
    lookupPrefix (⟨declare outer own d, none⟩ :: outer) pfx =
      if d.1 = pfx then some d.2 else lookupPrefix (⟨own, none⟩ :: outer) pfx := by
  by_cases hholds : lookupPrefix (⟨own, none⟩ :: outer) d.1 = some d.2
  · rw [declare, if_pos hholds]
    split
    · rename_i heq
      rw [← heq, hholds]
    · rfl
  · have hd : d.1 ≠ some "xml" := fun heq => hholds (by rw [heq, lookupPrefix_xml, hxml heq])
    rw [declare, if_neg hholds]
    by_cases hpfx : pfx = some "xml"
    · rw [hpfx, lookupPrefix_xml, lookupPrefix_xml, if_neg hd]
    · rw [lookupPrefix_cons hpfx, lookupPrefix_cons hpfx, Fields.get?_append_or]
      by_cases heq : d.1 = pfx
      · subst heq
        simp [Fields.get?_eq_none_iff.mpr hnew, Fields.get?]
      · simp [heq, Fields.get?]

theorem keys_declare (d : Option String × String) :
    Fields.keys (declare outer own d) ⊆ d.1 :: Fields.keys own := by
  rw [declare]
  split
  · exact List.subset_cons_self _ _
  · intro k hk
    simpa [Fields.keys, or_comm] using hk

/-- **What is bound when declarations were asked for**: they come before what was bound already. -/
theorem lookupPrefix_foldl_declare (hxml : asked.KeepsXml) (hkeys : (Fields.keys asked).Nodup)
    (hnew : ∀ k ∈ Fields.keys asked, k ∉ Fields.keys own) (pfx : Option String) :
    lookupPrefix (⟨asked.foldl (declare outer) own, none⟩ :: outer) pfx =
      (Fields.get? asked pfx).or (lookupPrefix (⟨own, none⟩ :: outer) pfx) := by
  induction asked generalizing own with
  | nil => rfl
  | cons d rest ih =>
    obtain ⟨hfirst, hrest⟩ := List.nodup_cons.mp hkeys
    have hd : d.1 ∉ Fields.keys own := hnew d.1 List.mem_cons_self
    have hdxml : d.1 = some "xml" → d.2 = xmlUri := fun heq =>
      hxml d.2 (heq ▸ List.mem_cons_self)
    rw [List.foldl_cons, ih (fun uri h => hxml uri (List.mem_cons_of_mem d h)) hrest ?_,
      lookupPrefix_declare hdxml hd]
    · by_cases heq : d.1 = pfx
      · subst heq
        simp [Fields.get?, Fields.get?_eq_none_iff.mpr hfirst]
      · simp [Fields.get?, heq]
    · intro k hk hin
      rcases List.mem_cons.mp (keys_declare d hin) with rfl | hin
      · exact hfirst hk
      · exact hnew k (List.mem_cons_of_mem _ hk) hin

theorem nodup_keys_foldl_declare (hown : (Fields.keys own).Nodup)
    (hkeys : (Fields.keys asked).Nodup) (hnew : ∀ k ∈ Fields.keys asked, k ∉ Fields.keys own) :
    (Fields.keys (asked.foldl (declare outer) own)).Nodup := by
  induction asked generalizing own with
  | nil => exact hown
  | cons d rest ih =>
    obtain ⟨hfirst, hrest⟩ := List.nodup_cons.mp hkeys
    have hd : d.1 ∉ Fields.keys own := hnew d.1 List.mem_cons_self
    refine ih ?_ hrest ?_
    · rw [declare]
      split
      · exact hown
      · rw [Fields.keys, List.map_append]
        exact List.perm_append_comm.nodup (List.nodup_cons.mpr ⟨hd, hown⟩)
    · intro k hk hin
      rcases List.mem_cons.mp (keys_declare d hin) with rfl | hin
      · exact hfirst hk
      · exact hnew k (List.mem_cons_of_mem _ hk) hin

/-- Where the default declaration stands makes no difference to what is bound. -/
theorem get?_defaultLast (asked : Declarations) (pfx : Option String) :
    Fields.get? (defaultLast asked) pfx = Fields.get? asked pfx := by
  rw [defaultLast, Fields.get?_append_or, Fields.get?_filter, Fields.get?_filter]
  cases pfx <;> simp

theorem mem_defaultLast {d : Option String × String} : d ∈ defaultLast asked ↔ d ∈ asked := by
  cases h : d.1 <;> simp [defaultLast, h]

theorem nodup_keys_defaultLast (h : (Fields.keys asked).Nodup) :
    (Fields.keys (defaultLast asked)).Nodup := by
  have hsplit : Fields.keys (defaultLast asked) = (Fields.keys asked).filter (·.isSome) ++
      (Fields.keys asked).filter (·.isNone) := by
    simp [Fields.keys, defaultLast, List.filter_map, Function.comp_def]
  rw [hsplit, List.nodup_append]
  refine ⟨h.filter _, h.filter _, ?_⟩
  rintro k hsome _ hnone rfl
  cases k <;> simp at hsome hnone

/-- **What is bound inside an element for which declarations were asked**: they come before what is
bound around it. -/
theorem lookupPrefix_declared (hxml : asked.KeepsXml) (hkeys : (Fields.keys asked).Nodup)
    (pfx : Option String) :
    lookupPrefix (⟨declared outer asked, none⟩ :: outer) pfx =
      (Fields.get? asked pfx).or (lookupPrefix outer pfx) := by
  have hempty : lookupPrefix (⟨[], none⟩ :: outer) pfx = lookupPrefix outer pfx := by
    by_cases hpfx : pfx = some "xml"
    · rw [hpfx, lookupPrefix_xml, lookupPrefix_xml]
    · rw [lookupPrefix_cons hpfx]
      rfl
  rw [declared, lookupPrefix_foldl_declare (fun uri h => hxml uri (mem_defaultLast.mp h))
    (nodup_keys_defaultLast hkeys) (fun _ _ => List.not_mem_nil), get?_defaultLast, hempty]

theorem nodup_keys_declared (hkeys : (Fields.keys asked).Nodup) :
    (Fields.keys (declared outer asked)).Nodup :=
  nodup_keys_foldl_declare List.nodup_nil (nodup_keys_defaultLast hkeys)
    fun _ _ => List.not_mem_nil

/-! ## New prefixes -/

/-- A prefix that is bound and is not `xml` stands in a declaration. -/
theorem mem_of_lookupPrefix_isSome {pfx : Option String} (hpfx : pfx ≠ some "xml")
    (h : (lookupPrefix around pfx).isSome = true) :
    pfx ∈ around.flatMap fun place => Fields.keys place.declarations := by
  rw [lookupPrefix, if_neg hpfx, List.isSome_findSome?, List.any_eq_true] at h
  obtain ⟨place, hplace, hbound⟩ := h
  refine List.mem_flatMap.mpr ⟨place, hplace, ?_⟩
  by_contra hno
  rw [Fields.get?_eq_none_iff.mpr hno] at hbound
  cases hbound

/-- The prefix with a number. -/
def prefixOf (n : Nat) : String :=
  "ns" ++ toString n

theorem prefixOf_injective {m n : Nat} (h : prefixOf m = prefixOf n) : m = n := by
  have hdigits : Nat.toDigits 10 m = Nat.toDigits 10 n := by
    have hlists := congrArg String.toList h
    simp only [prefixOf, String.toList_append, Nat.toString_eq_ofList_toDigits,
      String.toList_ofList] at hlists
    exact List.append_cancel_left hlists
  rw [← @Nat.ofDigitChars_ten_toDigits m, hdigits, Nat.ofDigitChars_ten_toDigits]

theorem prefixOf_ne_xml (n : Nat) : prefixOf n ≠ "xml" := by
  intro h
  have hlists := congrArg String.toList h
  simp [prefixOf] at hlists

theorem prefixOf_ne_xmlns (n : Nat) : prefixOf n ≠ "xmlns" := by
  intro h
  have hlists := congrArg String.toList h
  simp [prefixOf] at hlists

theorem isName_prefixOf (n : Nat) : isName (prefixOf n) = true := by
  have hdigits : (toString n).toList.all isNameInner = true := by
    rw [Nat.toString_eq_ofList_toDigits, String.toList_ofList]
    refine List.all_eq_true.mpr fun c hc => ?_
    have hdigit := Nat.isDigit_of_mem_toDigits (by decide) (by decide) hc
    simp [isNameInner, hdigit]
  have hlist : (prefixOf n).toList = 'n' :: 's' :: (toString n).toList := by
    rw [prefixOf, String.toList_append]
    rfl
  rw [isName, hlist]
  simp only [List.all_cons, hdigits]
  decide

theorem numberedPrefix_succ (around : Around) (fuel n : Nat) :
    numberedPrefix around (fuel + 1) n =
      if (lookupPrefix around (some (prefixOf n))).isSome then numberedPrefix around fuel (n + 1)
      else (prefixOf n, n + 1) := rfl

/-- The search ends at a number that is free, or when all the numbers it tried are bound. -/
theorem numberedPrefix_cases (around : Around) (fuel n : Nat) :
    ∃ k, (numberedPrefix around fuel n).1 = prefixOf k ∧
      (lookupPrefix around (some (prefixOf k)) = none ∨
        k = n + fuel ∧ ∀ i < fuel, (lookupPrefix around (some (prefixOf (n + i)))).isSome = true)
      := by
  induction fuel generalizing n with
  | zero => exact ⟨n, rfl, .inr ⟨rfl, fun i hi => absurd hi (Nat.not_lt_zero i)⟩⟩
  | succ fuel ih =>
    rw [numberedPrefix_succ]
    by_cases hbound : (lookupPrefix around (some (prefixOf n))).isSome = true
    · rw [if_pos hbound]
      obtain ⟨k, hk, hfree | ⟨hlast, hall⟩⟩ := ih (n + 1)
      · exact ⟨k, hk, .inl hfree⟩
      · refine ⟨k, hk, .inr ⟨by omega, fun i hi => ?_⟩⟩
        cases i with
        | zero => exact hbound
        | succ i =>
          have hthere := hall i (by omega)
          rwa [Nat.add_right_comm] at hthere
    · rw [if_neg hbound]
      exact ⟨n, rfl, .inl (by simpa using hbound)⟩

/-- Of more prefixes with numbers than there are in a list, one does not stand there. -/
theorem exists_prefixOf_not_mem (bound : List (Option String)) (n : Nat) :
    ∃ i < bound.length + 1, some (prefixOf (n + i)) ∉ bound := by
  by_contra hno
  have hall : ∀ i < bound.length + 1, some (prefixOf (n + i)) ∈ bound := fun i hi => by
    by_contra hfree
    exact hno ⟨i, hi, hfree⟩
  let tried := (List.range (bound.length + 1)).map fun i => some (prefixOf (n + i))
  have hnodup : tried.Nodup := by
    refine List.nodup_range.map fun i j hij => ?_
    have := prefixOf_injective (Option.some.inj hij)
    omega
  have hsubset : tried ⊆ bound := by
    intro pfx hpfx
    obtain ⟨i, hi, rfl⟩ := List.mem_map.mp hpfx
    exact hall i (List.mem_range.mp hi)
  have hle := (hnodup.subperm hsubset).length_le
  simp only [tried, List.length_map, List.length_range] at hle
  omega

/-- **The numbers that are tried are enough.** -/
theorem numberedPrefix_free (around : Around) (n : Nat) :
    let taken := (around.map fun place => place.declarations.length).foldl (· + ·) 0
    ∃ k, (numberedPrefix around taken n).1 = prefixOf k ∧
      lookupPrefix around (some (prefixOf k)) = none := by
  intro taken
  obtain ⟨k, hk, hfree | ⟨hlast, hall⟩⟩ := numberedPrefix_cases around taken n
  · exact ⟨k, hk, hfree⟩
  refine ⟨k, hk, ?_⟩
  by_contra hbound
  obtain ⟨i, hi, hfree⟩ := exists_prefixOf_not_mem
    (around.flatMap fun place => Fields.keys place.declarations) n
  refine hfree (mem_of_lookupPrefix_isSome (fun h => prefixOf_ne_xml _ (Option.some.inj h)) ?_)
  have hlength : (around.flatMap fun place => Fields.keys place.declarations).length = taken := by
    simp [taken, List.length_flatMap, Fields.keys, List.sum_eq_foldl]
  rw [hlength] at hi
  rcases Nat.lt_succ_iff_lt_or_eq.mp hi with hlt | rfl
  · exact hall i hlt
  · rw [← hlast]
    exact Option.isSome_iff_ne_none.mpr hbound

/-- A prefix that can be declared: it is bound to nothing, it is a name, and markup does not keep it
for itself. -/
structure IsFresh (around : Around) (pfx : String) : Prop where
  free : lookupPrefix around (some pfx) = none
  isName : isName pfx = true
  ne_xmlns : pfx ≠ "xmlns"

/-- A prefix that is preferred for a URI can be declared if it is bound to nothing. -/
theorem isFresh_of_wellKnown {pfx : String} (h : Fields.get? wellKnown uri = some pfx)
    (hfree : lookupPrefix around (some pfx) = none) : IsFresh around pfx := by
  have hall : ∀ d ∈ wellKnown, Xml.isName d.2 = true ∧ d.2 ≠ "xmlns" := by decide
  obtain ⟨hname, hne⟩ := hall _ (Fields.mem_of_get? h)
  exact ⟨hfree, hname, hne⟩

/-- **A new prefix is fresh.** -/
theorem newPrefix_makes (around : Around) (uri : String) :
    (newPrefix around uri).Makes (IsFresh around) := by
  intro s
  obtain ⟨k, hk, hfree⟩ := numberedPrefix_free around s.nextNumber
  have hnumbered : IsFresh around (prefixOf k) :=
    ⟨hfree, isName_prefixOf k, prefixOf_ne_xmlns k⟩
  let taken := (around.map fun place => place.declarations.length).foldl (· + ·) 0
  let next : NamingState :=
    { s with nextNumber := (numberedPrefix around taken s.nextNumber).2 }
  cases hknown : Fields.get? wellKnown uri with
  | none =>
    refine ⟨prefixOf k, next, ?_, hnumbered⟩
    simp only [newPrefix, hknown]
    exact hk ▸ rfl
  | some pfx =>
    by_cases hbound : (lookupPrefix around (some pfx)).isSome = true
    · refine ⟨prefixOf k, next, ?_, hnumbered⟩
      simp only [newPrefix, hknown, if_pos hbound]
      exact hk ▸ rfl
    · refine ⟨pfx, s, ?_, isFresh_of_wellKnown hknown (by simpa using hbound)⟩
      simp only [newPrefix, hknown, if_neg hbound]
      rfl

/-! ## Prefixes of names -/

/-- How a URI comes to its prefix where an element has the declarations `own`, and what the element
declares then. Attributes do not use default declarations. -/
inductive Prefixed (forAttribute : Bool) (outer : Around) (own : Declarations) :
    Option String → Option String → Declarations → Prop
  /-- Without a URI there is no prefix. -/
  | unqualified : Prefixed forAttribute outer own none none own
  /-- The prefix `xml`, which need not be declared. -/
  | reserved : Prefixed forAttribute outer own (some xmlUri) (some "xml") own
  /-- A prefix that is bound to the URI. -/
  | known {uri : String} {pfx : Option String}
      (found : lookupUri forAttribute uri [] (⟨own, none⟩ :: outer) = some pfx) :
      Prefixed forAttribute outer own (some uri) pfx own
  /-- A new prefix, which is declared for the URI. -/
  | fresh {uri pfx : String} (new : IsFresh (⟨own, none⟩ :: outer) pfx) :
      Prefixed forAttribute outer own (some uri) (some pfx) (own ++ [(some pfx, uri)])

/-- How the name of an element comes to its prefix: the first declaration asked for with its URI
gives it, or else it is found as other prefixes are. -/
inductive Titled (outer : Around) (asked : Declarations) :
    Option String → Option String → Declarations → Prop
  /-- A declaration with the URI was asked for. -/
  | asked {uri : String} {pfx : Option String} (mem : (pfx, uri) ∈ asked) :
      Titled outer asked (some uri) pfx (declared outer asked)
  /-- The prefix comes about in another way. -/
  | other {uri pfx : Option String} {own : Declarations}
      (prefixed : Prefixed false outer (declared outer asked) uri pfx own) :
      Titled outer asked uri pfx own

/-- **The head of a new element keeps its name.** -/
theorem makeHead_makes {tag : QName} (htag : tag.Acceptable)
    (hreference : ∀ uri ∈ tag.uri, Uri.isReference uri = true)
    (hbrace : ∀ uri ∈ tag.uri, '}' ∉ uri.toList) (hasked : asked.Acceptable) :
    (makeHead outer tag.clark asked).Makes fun head =>
      head.1.localName = tag.localName ∧ head.1.uri = tag.uri ∧
        Titled outer asked tag.uri head.1.pfx head.2 := by
  obtain ⟨localName, uri⟩ := tag
  have hname : isName localName = true := htag.localPart
  have hlast : (defaultLast asked).Acceptable := fun d hd => hasked d (mem_defaultLast.mp hd)
  rw [makeHead]
  refine .bind (.of_ok (splitClark_clark htag hbrace) rfl) ?_
  rintro _ rfl
  simp only [hname]
  refine .bind (.of_ok (declareAll_eq hlast none) rfl) ?_
  rintro _ rfl
  cases uri with
  | none => exact .of_pure ⟨rfl, rfl, .other .unqualified⟩
  | some uri =>
    cases hfind : (defaultLast asked).find? fun d => some uri == some d.2 with
    | some d =>
      have huri : uri = d.2 := by simpa using List.find?_some hfind
      have hmem : (d.1, uri) ∈ asked := by
        rw [huri]
        exact mem_defaultLast.mp (List.mem_of_find?_eq_some hfind)
      exact .of_pure ⟨rfl, rfl, .asked hmem⟩
    | none =>
      refine .bind (.of_ok (checkUri_of_isReference (hreference uri rfl)) rfl) fun _ _ => ?_
      by_cases hxml : uri = xmlUri
      · rw [if_pos hxml]
        exact .of_pure ⟨rfl, rfl, .other (hxml ▸ .reserved)⟩
      rw [if_neg hxml]
      split
      · rename_i pfx hlookup
        exact .of_pure ⟨rfl, rfl, .other (.known hlookup)⟩
      · refine .bind (newPrefix_makes _ uri) fun pfx hfresh => ?_
        exact .of_pure ⟨rfl, rfl, .other (.fresh hfresh)⟩

/-- The prefix of an attribute. -/
theorem choosePrefix_makes (outer : Around) (own : Declarations) (uri : Option String) :
    (setAttribute.choosePrefix outer own uri).Makes fun chosen =>
      Prefixed true outer own uri chosen.1 chosen.2 := by
  rw [setAttribute.choosePrefix.eq_def]
  cases uri with
  | none => exact .of_pure .unqualified
  | some uri =>
    by_cases hxml : uri = xmlUri
    · simp only [if_pos hxml]
      exact .of_pure (hxml ▸ .reserved)
    simp only [if_neg hxml]
    split
    · rename_i pfx hlookup
      exact .of_pure (.known hlookup)
    · exact .bind (newPrefix_makes _ uri) fun pfx hfresh => .of_pure (.fresh hfresh)

/-- **A new attribute keeps its name and its value.** -/
theorem setAttribute_makes {done : List TagAttribute} {a : Attribute} (ha : a.name.Acceptable)
    (hvalue : Allowed a.value) (hbrace : ∀ uri ∈ a.name.uri, '}' ∉ uri.toList)
    (hnew : ∀ known ∈ done, QName.mk known.name.localName known.name.uri ≠ a.name) :
    (setAttribute outer own done a.name.clark a.value).Makes fun set => ∃ pfx,
      Prefixed true outer own a.name.uri pfx set.1 ∧
        set.2 = done ++ [⟨⟨pfx, a.name.localName, a.name.uri⟩, a.value⟩] := by
  have hname : isName a.name.localName = true := ha.localPart
  have hknown : (done.any fun known =>
      known.name.localName == a.name.localName && known.name.uri == a.name.uri) = false := by
    rw [List.any_eq_false]
    intro known hmem hsame
    obtain ⟨hlocal, huri⟩ := Bool.and_eq_true_iff.mp hsame
    exact hnew known hmem (by rw [eq_of_beq hlocal, eq_of_beq huri])
  rw [setAttribute]
  refine .bind (.of_ok (splitClark_clark ha hbrace) rfl) ?_
  rintro _ rfl
  simp only [hname]
  refine .bind (.of_ok (checkText_of_allowed hvalue) rfl) fun _ _ => ?_
  refine .bind (choosePrefix_makes outer own a.name.uri) fun chosen hchosen => ?_
  rw [hknown]
  exact .of_pure ⟨chosen.1, hchosen, rfl⟩

end Xml

end TagScript
