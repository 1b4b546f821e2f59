import TagScript.Proofs.Build.ConstructorCalls

/-!
# Names that are resolved early

The name of an element word is resolved when its block is made ready, and written into a literal; it
is resolved once more when the element is built, against the bindings of that moment. Bindings are
only ever added in between.

* `Registry.afterAdds` — the bindings after a row of attempts to bind.
* `Registry.Extends` — what such a row keeps: every binding.
* `Registry.resolve_cases` — a word is resolved to itself, or by a binding that stays.
* `Registry.nameOf_clark` — the second resolution comes to what the word itself would come to.
* **`Build.element_of_early_name`** — an element built from the literal of a word has the name that
  the word has when the element is built.
-/

namespace TagScript

namespace Registry

/-! ## Adding bindings -/

/-- The bindings after an attempt to bind a prefix; one that is refused changes nothing. -/
def afterAdd (r : Registry) (binding : String × String) : Registry :=
  match r.add binding.1 binding.2 with
  | .ok (_, r') => r'
  | .error _ => r

/-- The bindings after a row of attempts. -/
def afterAdds (r : Registry) (bindings : List (String × String)) : Registry :=
  bindings.foldl afterAdd r

/-- Every binding of a registry is one of another registry. -/
def Extends (r r' : Registry) : Prop :=
  ∀ pfx uri, r.get? pfx = some uri → r'.get? pfx = some uri

theorem extends_refl (r : Registry) : r.Extends r :=
  fun _ _ h => h

theorem Extends.trans {r r' r'' : Registry} (h : r.Extends r') (h' : r'.Extends r'') :
    r.Extends r'' :=
  fun pfx uri hbound => h' pfx uri (h pfx uri hbound)

/-- No prefix is bound to the empty URI. -/
def Proper (r : Registry) : Prop :=
  ∀ binding ∈ r.bindings, binding.2 ≠ ""

theorem proper_empty : Registry.empty.Proper :=
  nofun

theorem Proper.ne_empty {r : Registry} (h : r.Proper) {pfx uri : String}
    (hbound : r.get? pfx = some uri) : uri ≠ "" :=
  h (pfx, uri) (Fields.mem_of_get? hbound)

theorem extends_afterAdd (r : Registry) (binding : String × String) :
    r.Extends (r.afterAdd binding) := by
  intro pfx uri hbound
  unfold afterAdd
  split
  · rename_i hadd
    exact get?_add hadd hbound
  · exact hbound

/-- An attempt to bind a prefix to the empty URI is refused. -/
theorem Proper.afterAdd {r : Registry} (h : r.Proper) (binding : String × String) :
    (r.afterAdd binding).Proper := by
  unfold Registry.afterAdd add
  by_cases hempty : binding.2 = ""
  · rw [if_pos hempty]
    exact h
  · rw [if_neg hempty]
    cases hknown : r.get? binding.1 with
    | none =>
      intro b hb
      rcases List.mem_append.mp hb with hold | hnew
      · exact h b hold
      · rw [List.mem_singleton.mp hnew]
        exact hempty
    | some known =>
      dsimp only
      split
      · rename_i heq
        split at heq <;> cases heq
        exact h
      · exact h

/-- A row of attempts keeps every binding. -/
theorem extends_afterAdds (r : Registry) (bindings : List (String × String)) :
    r.Extends (r.afterAdds bindings) := by
  induction bindings generalizing r with
  | nil => exact r.extends_refl
  | cons binding bindings ih => exact (r.extends_afterAdd binding).trans (ih (r.afterAdd binding))

/-- A row of attempts binds no prefix to the empty URI. -/
theorem Proper.afterAdds {r : Registry} (h : r.Proper) (bindings : List (String × String)) :
    (r.afterAdds bindings).Proper := by
  induction bindings generalizing r with
  | nil => exact h
  | cons binding bindings ih => exact ih (h.afterAdd binding)

/-! ## Resolving a word twice -/

/-- A word with a prefix is resolved by the URI of the prefix, or to itself. -/
theorem resolvePrefixed_cases {r : Registry} (hr : r.Proper) {text : String} (hne : text ≠ "")
    (pfx localName : String) :
    (∃ resolved, r.resolvePrefixed text pfx localName = .ok (⟨text, none⟩, resolved)) ∨
      ∃ uri, uri ≠ "" ∧ localName ≠ "" ∧ (uri = xmlUri ∨ r.get? pfx = some uri) ∧
        ∀ r', r.Extends r' →
          r'.resolvePrefixed text pfx localName = .ok (⟨localName, some uri⟩, true) := by
  have hself (resolved : Bool) :
      (QName.of none text).map (·, resolved) = .ok (⟨text, none⟩, resolved) := by
    rw [QName.of, if_neg hne]
    rfl
  have hbound {uri : String} (huri : uri ≠ "") (hlocal : localName ≠ "") :
      (QName.of (some uri) localName).map (·, true) = .ok (⟨localName, some uri⟩, true) := by
    rw [QName.of, if_neg hlocal, if_neg (by simpa using huri)]
    rfl
  by_cases hlocal : localName = ""
  · refine .inl ⟨false, ?_⟩
    simp only [resolvePrefixed, if_pos hlocal]
    cases (if pfx = "xml" then some xmlUri else r.get? pfx) with
    | some _ => exact hself false
    | none => exact hself false
  · by_cases hxml : pfx = "xml"
    · refine .inr ⟨xmlUri, by decide, hlocal, .inl rfl, fun r' _ => ?_⟩
      simp only [resolvePrefixed, if_pos hxml, if_neg hlocal]
      exact hbound (by decide) hlocal
    · cases hget : r.get? pfx with
      | none =>
        refine .inl ⟨false, ?_⟩
        simp only [resolvePrefixed, if_neg hxml, hget]
        exact hself false
      | some uri =>
        have huri := hr.ne_empty hget
        refine .inr ⟨uri, huri, hlocal, .inr rfl, fun r' hext => ?_⟩
        simp only [resolvePrefixed, if_neg hxml, hext pfx uri hget, if_neg hlocal]
        exact hbound huri hlocal

/-- **A word is resolved to itself, or by a binding that stays.** -/
theorem resolve_cases {r : Registry} (hr : r.Proper) {text : String} (hne : text ≠ "") :
    (∃ resolved, r.resolve text = .ok (⟨text, none⟩, resolved)) ∨
      ∃ uri localName, uri ≠ "" ∧ localName ≠ "" ∧
        (uri = xmlUri ∨ ∃ pfx, r.get? pfx = some uri) ∧
        ∀ r', r.Extends r' → r'.resolve text = .ok (⟨localName, some uri⟩, true) := by
  cases hsplit : splitColon text with
  | some parts =>
    obtain ⟨pfx, localName⟩ := parts
    have hresolve (r' : Registry) : r'.resolve text = r'.resolvePrefixed text pfx localName := by
      rw [resolve, hsplit]
    rcases resolvePrefixed_cases hr hne pfx localName with
      ⟨resolved, hself⟩ | ⟨uri, huri, hlocal, hsource, hstays⟩
    · exact .inl ⟨resolved, (hresolve r).trans hself⟩
    · exact .inr ⟨uri, localName, huri, hlocal, hsource.imp_right fun h => ⟨pfx, h⟩,
        fun r' hext => (hresolve r').trans (hstays r' hext)⟩
  | none =>
    have hresolve (r' : Registry) :
        r'.resolve text = (QName.of (r'.get? "") text).map (·, true) := by
      rw [resolve, hsplit]
    cases hget : r.get? "" with
    | none =>
      refine .inl ⟨true, ?_⟩
      rw [hresolve, hget, QName.of, if_neg hne]
      rfl
    | some uri =>
      have huri := hr.ne_empty hget
      refine .inr ⟨uri, text, huri, hne, .inr ⟨"", hget⟩, fun r' hext => ?_⟩
      rw [hresolve, hext "" uri hget, QName.of, if_neg hne, if_neg (by simpa using huri)]
      rfl

end Registry

/-- A name in brace notation is read back. -/
theorem QName.parse_clark {uri localName : String} (huri : uri ≠ "") (hlocal : localName ≠ "")
    (hbrace : '}' ∉ uri.toList) :
    QName.parse (QName.clark ⟨localName, some uri⟩) = .ok ⟨localName, some uri⟩ := by
  have hclark : (QName.clark ⟨localName, some uri⟩).toList =
      '{' :: (uri.toList ++ '}' :: localName.toList) := by
    simp [QName.clark]
  have hcloses : (uri.toList ++ '}' :: localName.toList).contains '}' = true := by simp
  have hkept : ∀ c ∈ uri.toList, decide (c ≠ '}') = true := by
    intro c hc
    exact decide_eq_true fun heq => hbrace (heq ▸ hc)
  rw [QName.parse, hclark]
  simp only [hcloses, if_true]
  rw [List.takeWhile_append_of_pos hkept, List.dropWhile_append_of_pos hkept]
  simp [QName.of, huri, hlocal]

namespace Registry

/-- **The second resolution of a name comes to what its word would come to.** A name that was bound
at first is not changed. -/
theorem nameOf_clark {r r' : Registry} (hr : r.Proper) (hext : r.Extends r')
    (hbrace : ∀ pfx uri, r'.get? pfx = some uri → '}' ∉ uri.toList) {text : String}
    (hne : text ≠ "") (hopen : text.toList.head? ≠ some '{') :
    ∃ early late resolved lateResolved, r.resolve text = .ok (early, resolved) ∧
      r'.resolve text = .ok (late, lateResolved) ∧ r'.nameOf early.clark = .ok late ∧
      (early.uri.isSome = true → late = early) := by
  rcases resolve_cases hr hne with
    ⟨resolved, hself⟩ | ⟨uri, localName, huri, hlocal, hsource, hstays⟩
  · obtain ⟨late, lateResolved, hlate, -⟩ := r'.exists_resolve hne
    refine ⟨_, late, resolved, lateResolved, hself, hlate, ?_, nofun⟩
    rw [QName.clark_of_none, nameOf, if_neg hopen, hlate]
    rfl
  · have hplain : '}' ∉ uri.toList := by
      rcases hsource with rfl | ⟨pfx, hbound⟩
      · decide
      · exact hbrace pfx uri (hext pfx uri hbound)
    refine ⟨_, _, true, true, hstays r r.extends_refl, hstays r' hext, ?_, fun _ => rfl⟩
    rw [nameOf, if_pos (by simp [QName.clark]), QName.parse_clark huri hlocal hplain]

end Registry

/-! ## The words that can be resolved -/

namespace Lexer

/-- Every token of a readable row is read where it begins. -/
theorem Readable.exists_begins {commandNext : Bool} {opened : List Char} {row : List Stretch}
    (h : Readable commandNext opened row) {pos : Position} {offset : Nat} {t : Token}
    (ht : t ∈ tokensAt pos offset row) :
    ∃ next after, Begins next t.kind t.text.toList after := by
  induction row generalizing commandNext opened pos offset with
  | nil => cases ht
  | cons s row ih =>
    cases s with
    | blank c => exact ih h.2 ht
    | token kind text depth =>
      obtain ⟨hbegins, inner, -, hrow⟩ := h
      rw [tokensAt] at ht
      rcases List.mem_cons.mp ht with rfl | ht
      · exact ⟨commandNext, textOf row, by rw [String.toList_ofList]; exact hbegins⟩
      · exact ih hrow ht

/-- A command word does not begin with a brace. -/
theorem Begins.ne_brace {commandNext : Bool} {text after : List Char}
    (h : Begins commandNext .command text after) : text.head? ≠ some '{' := by
  obtain ⟨c, more, rfl, -⟩ := id h
  intro hbrace
  obtain rfl : c = '{' := Option.some.inj hbrace
  cases (h.rule.unique (.mark rfl)).1

end Lexer

/-- A command word is not empty and does not begin with a brace. -/
theorem Token.command_text {source : String} {ts : List Token} (h : tokenize source = .ok ts)
    {w : Token} (hw : w ∈ ts) (hkind : w.kind = .command) :
    w.text ≠ "" ∧ w.text.toList.head? ≠ some '{' := by
  obtain ⟨row, -, hrow, rfl⟩ := Lexer.tokenize_eq_ok_iff.mp h
  obtain ⟨next, after, hbegins⟩ := hrow.exists_begins hw
  rw [hkind] at hbegins
  refine ⟨fun hempty => hbegins.ne_nil ?_, hbegins.ne_brace⟩
  rw [hempty]
  rfl

/-! ## The element that is built -/

namespace Build

variable {E : Engine} {env : BuildEnv} {s : BuildState}

/-- An element is built as from the name that its first argument comes to. -/
theorem element_of_name {text : String} {name : QName} (h : s.registry.nameOf text = .ok name)
    (args : List Value) :
    element E env (.str text) args s = element E env (.name name) args s := by
  have hname : elementName (.str text) s = (.ok name, s) := by
    rw [elementName, read_bind, h]
    rfl
  rw [element, element, bind_of_ok hname]
  rfl

/-- Giving up a name that waits leaves the other parts. -/
theorem finish_spec {tag : QName} {parts parts' : Parts} {s' : BuildState}
    (h : finish env tag parts s = (.ok parts', s')) :
    parts'.attributes = parts.attributes ∧ parts'.children = parts.children := by
  unfold finish at h
  cases hpending : parts.pending with
  | none =>
    rw [hpending] at h
    cases h
    exact ⟨rfl, rfl⟩
  | some head =>
    rw [hpending] at h
    obtain ⟨_, s₁, -, hkept⟩ := exists_of_bind_ok h
    cases hkept
    exact ⟨rfl, rfl⟩

/-- Checking how deep elements are nested changes nothing. -/
theorem of_checkDepth_ok {tag : QName} {s' : BuildState}
    (h : checkDepth env tag s = (.ok (), s')) : s' = s := by
  rw [checkDepth, read_bind] at h
  obtain ⟨exceeded, s₁, hlift, hrest⟩ := exists_of_bind_ok h
  obtain ⟨-, rfl⟩ := Prod.mk.inj hlift
  cases exceeded with
  | true => cases hrest
  | false => exact (Prod.mk.inj hrest).2.symm

/-- An element has what it has gathered. -/
theorem exists_of_elementWith {tag : QName} {gather : Parts → Build Parts} {e : Element}
    {s' : BuildState} (h : elementWith env tag gather s = (.ok e, s')) :
    ∃ parts ended, gather {} { s with depth := s.depth + 1 } = (.ok parts, ended) ∧
      e = ⟨tag, parts.attributes, parts.children⟩ := by
  obtain ⟨made, s₁, hdeeper, hnote⟩ := exists_of_bind_ok h
  obtain ⟨_, s₂, -, hmade⟩ := exists_of_bind_ok hnote
  cases hmade
  obtain ⟨s₃, hbody⟩ := exists_of_deeper_ok hdeeper
  obtain ⟨_, s₄, hcheck, hrest⟩ := exists_of_bind_ok hbody
  obtain ⟨parts, s₅, hgather, hfinish⟩ := exists_of_bind_ok hrest
  obtain ⟨parts', s₆, hfinished, hend⟩ := exists_of_bind_ok hfinish
  cases hend
  obtain ⟨hattributes, hchildren⟩ := finish_spec hfinished
  rw [of_checkDepth_ok hcheck] at hgather
  exact ⟨parts, s₅, hgather, by rw [hattributes, hchildren]⟩

/-- An element has the name it is built with. -/
theorem tag_elementWith {tag : QName} {gather : Parts → Build Parts} {e : Element}
    {s' : BuildState} (h : elementWith env tag gather s = (.ok e, s')) : e.tag = tag := by
  obtain ⟨parts, ended, -, rfl⟩ := exists_of_elementWith h
  rfl

/-- An element without arguments is built unless it is nested too deeply. -/
theorem exists_element_nil (E : Engine) (name : QName)
    (hdepth : env.settings.maxDepth.isExceededBy (s.depth + 1) = .ok false) :
    ∃ s', element E env (.name name) [] s = (.ok ⟨name, [], []⟩, s') := by
  have hcheck : checkDepth env name { s with depth := s.depth + 1 } =
      (.ok (), { s with depth := s.depth + 1 }) := by
    rw [checkDepth, read_bind]
    dsimp only
    rw [hdepth]
    rfl
  have hbody : (do
      checkDepth env name
      let parts ← finish env name (← feedAll E env name [] {})
      pure (Element.mk name parts.attributes parts.children) : Build Element)
        { s with depth := s.depth + 1 } =
      (.ok ⟨name, [], []⟩, { s with depth := s.depth + 1 }) := by
    rw [bind_of_ok hcheck]
    rfl
  have hdeeper := deeper_of_eq hbody
  exact ⟨_, bind_of_ok hdeeper _⟩

/-- **An element that is built from the literal of a word has the name that the word has then.** The
word was resolved against earlier bindings, to which others were added, or not, before the element
is built; a name that was bound at first is not changed. -/
theorem element_of_early_name (adds more : List (String × String))
    (hbrace : ∀ pfx uri, ((Registry.empty.afterAdds adds).afterAdds more).get? pfx = some uri →
      '}' ∉ uri.toList)
    {source : String} {ts : List Token} (h : tokenize source = .ok ts) {w : Token} (hw : w ∈ ts)
    (hkind : w.kind = .command) :
    let early := Registry.empty.afterAdds adds
    let late := early.afterAdds more
    ∃ written name resolved lateResolved, resolveWord early w = .ok (written, resolved) ∧
      late.resolve w.text = .ok (name, lateResolved) ∧
      (written.uri.isSome = true → name = written) ∧
      (∀ E env scope (literal : Token), literal.kind = .string →
        literal.text = Text.literal written.clark →
          operand E env scope (Script.word literal) = pure (.str written.clark)) ∧
      ∀ E env s, s.registry = late →
        (∀ args, element E env (.str written.clark) args s = element E env (.name name) args s) ∧
        (∀ args e s', element E env (.str written.clark) args s = (.ok e, s') → e.tag = name) ∧
        (env.settings.maxDepth.isExceededBy (s.depth + 1) = .ok false →
          ∃ s', element E env (.str written.clark) [] s = (.ok ⟨name, [], []⟩, s')) := by
  intro early late
  obtain ⟨hne, hopen⟩ := Token.command_text h hw hkind
  have hproper : early.Proper := Registry.proper_empty.afterAdds adds
  obtain ⟨written, name, resolved, lateResolved, hearly, hlate, hname, hsame⟩ :=
    Registry.nameOf_clark hproper (early.extends_afterAdds more) hbrace hne hopen
  refine ⟨written, name, resolved, lateResolved, hearly, hlate, hsame, ?_, ?_⟩
  · intro E env scope literal hstring htext
    rw [Script.word, hstring]
    dsimp only
    rw [Script.quotedString_literal htext, operand]
  · intro E env s hs
    have hbuilt (args : List Value) :
        element E env (.str written.clark) args s = element E env (.name name) args s :=
      element_of_name (by rw [hs]; exact hname) args
    refine ⟨hbuilt, fun args e s' hok => ?_, fun hdepth => ?_⟩
    · rw [hbuilt args] at hok
      exact tag_elementWith hok
    · rw [hbuilt []]
      exact exists_element_nil E name hdepth

theorem element_of_early_name_later_prefix :
    let late := Registry.empty.afterAdds [("p", "urn:p")]
    (∀ pfx uri, late.get? pfx = some uri → '}' ∉ uri.toList) ∧
      tokenize "p:a" = .ok [⟨.command, "p:a", ⟨1, 1⟩, 3, 0, 0⟩] ∧
      ∃ written name resolved lateResolved,
        resolveWord .empty ⟨.command, "p:a", ⟨1, 1⟩, 3, 0, 0⟩ = .ok (written, resolved) ∧
        late.resolve "p:a" = .ok (name, lateResolved) ∧
        (written.uri.isSome = true → name = written) ∧
        (∀ E env scope (literal : Token), literal.kind = .string →
          literal.text = Text.literal written.clark →
            operand E env scope (Script.word literal) = pure (.str written.clark)) ∧
        ∀ E env s, s.registry = late →
          (∀ args, element E env (.str written.clark) args s =
            element E env (.name name) args s) ∧
          (∀ args e s', element E env (.str written.clark) args s = (.ok e, s') → e.tag = name) ∧
          (env.settings.maxDepth.isExceededBy (s.depth + 1) = .ok false →
            ∃ s', element E env (.str written.clark) [] s = (.ok ⟨name, [], []⟩, s')) := by
  intro late
  have hbrace : ∀ pfx uri, late.get? pfx = some uri → '}' ∉ uri.toList := by
    intro pfx uri hbound
    have hmem : (pfx, uri) ∈ late.bindings := Fields.mem_of_get? hbound
    obtain rfl : uri = "urn:p" := (Prod.mk.inj (List.mem_singleton.mp hmem)).2
    decide
  have hread : tokenize "p:a" = .ok [⟨.command, "p:a", ⟨1, 1⟩, 3, 0, 0⟩] := rfl
  exact ⟨hbrace, hread, element_of_early_name [] [("p", "urn:p")] hbrace hread List.mem_cons_self
    rfl⟩

end Build

end TagScript
