import TagScript.Proofs.Build.ResolvedNames
import TagScript.Proofs.Build.StatementOrder

/-!
# Names in brace notation

A name that was resolved is handed on in brace notation, which has no escapes: a reader takes the
characters up to the first closing brace for the URI, and a text that does not open with a brace for
a local part. So a name comes back from its brace notation unless its URI holds a closing brace, or
it has no URI and begins with an opening brace.

* `QName.Spellable` — the names of which brace notation can be read.
* **`QName.parse_clark_iff`** — these are the names that come back from it.
* `Registry.names_resolve`, `Registry.names_resolveAttribute` — what names resolving comes to.
* **`Registry.parse_resolved_iff`** — which of them come back.
* `Build.parse_resolved_closing` — a URI with a closing brace is cut, and an element is built
  with another name.
-/

namespace TagScript

namespace QName

/-- Whether a reader of brace notation finds the parts of a name: no closing brace ends the URI too
early, and no opening brace stands where there is no URI. -/
def Spellable (q : QName) : Prop :=
  match q.uri with
  | some uri => '}' ∉ uri.toList
  | none => q.localName.toList.head? ≠ some '{'

/-- What is read of a text that opens with a brace: no closing brace stands in the URI, and the local
part is shorter than the text. -/
theorem of_parse_braced {text : String} {rest : List Char} {q : QName}
    (htext : text.toList = '{' :: rest) (h : parse text = .ok q) :
    (∀ uri, q.uri = some uri → '}' ∉ uri.toList) ∧
      q.localName.toList.length < text.toList.length := by
  rw [parse, htext] at h
  simp only at h
  split at h
  · rw [of] at h
    split at h
    · cases h
    · cases h
      constructor
      · intro uri huri hmem
        dsimp only at huri
        split at huri
        · cases huri
        · cases huri
          rw [String.toList_ofList] at hmem
          have hkept := List.all_eq_true.mp List.all_takeWhile '}' hmem
          exact absurd rfl (of_decide_eq_true hkept)
      · have hle : (rest.dropWhile (· ≠ '}')).length ≤ rest.length :=
          (List.dropWhile_sublist _).length_le
        rw [String.toList_ofList, htext, List.length_drop, List.length_cons]
        omega
  · cases h

/-- A text that does not open with a brace is read as a local part. -/
theorem parse_of_unbraced {text : String} (hne : text ≠ "") (h : text.toList.head? ≠ some '{') :
    parse text = .ok ⟨text, none⟩ := by
  rw [parse]
  split
  · rename_i rest hchars
    exact absurd (by rw [hchars]; rfl) h
  · simp [of, hne]

/-- **A name comes back from its brace notation exactly if it is spellable.** -/
theorem parse_clark_iff {q : QName} (hlocal : q.localName ≠ "") (huri : q.uri ≠ some "") :
    parse q.clark = .ok q ↔ q.Spellable := by
  obtain ⟨localName, uri⟩ := q
  cases uri with
  | none =>
    rw [clark_of_none]
    refine ⟨fun h hopen => ?_, parse_of_unbraced hlocal⟩
    obtain ⟨rest, hrest⟩ := List.head?_eq_some_iff.mp hopen
    exact absurd (of_parse_braced hrest h).2 (Nat.lt_irrefl _)
  | some uri =>
    refine ⟨fun h => ?_, parse_clark (fun h => huri (by rw [h])) hlocal⟩
    have hclark : (clark ⟨localName, some uri⟩).toList =
        '{' :: (uri.toList ++ '}' :: localName.toList) := by
      simp [clark]
    exact (of_parse_braced hclark h).1 uri rfl

end QName

namespace Registry

variable {r : Registry} {text : String} {q : QName} {resolved : Bool}

/-- Whether a name is what resolving a text can come to: the text itself in no namespace, or a local
part in the namespace of a binding. -/
structure Names (r : Registry) (text : String) (q : QName) : Prop where
  /-- There is a local part. -/
  localName : q.localName ≠ ""
  /-- There is no empty URI. -/
  uri : q.uri ≠ some ""
  /-- In no namespace it is the text. -/
  unbound : q.uri = none → q.localName = text
  /-- Otherwise the URI is bound. -/
  bound : ∀ uri, q.uri = some uri → uri = xmlUri ∨ ∃ pfx, r.get? pfx = some uri

theorem names_self (hne : text ≠ "") : r.Names text ⟨text, none⟩ :=
  ⟨hne, nofun, fun _ => rfl, nofun⟩

theorem names_of_uri {localName uri : String} (hlocal : localName ≠ "") (huri : uri ≠ "")
    (hsource : uri = xmlUri ∨ ∃ pfx, r.get? pfx = some uri) :
    r.Names text ⟨localName, some uri⟩ := by
  refine ⟨hlocal, by simpa using huri, nofun, fun _ heq => ?_⟩
  cases heq
  exact hsource

theorem names_resolvePrefixed (hr : r.Proper) (hne : text ≠ "") {pfx localName : String}
    (h : r.resolvePrefixed text pfx localName = .ok (q, resolved)) : r.Names text q := by
  rcases resolvePrefixed_cases hr hne pfx localName with
    ⟨_, hself⟩ | ⟨uri, huri, hlocal, hsource, hbound⟩
  · cases hself.symm.trans h
    exact names_self hne
  · cases (hbound r r.extends_refl).symm.trans h
    exact names_of_uri hlocal huri (hsource.imp_right fun hget => ⟨pfx, hget⟩)

/-- Nothing is resolved to no name. -/
theorem ne_empty_of_resolved (h : r.resolve text = .ok (q, resolved) ∨
    r.resolveAttribute text = .ok (q, resolved)) : text ≠ "" := by
  rintro rfl
  rcases h with h | h <;> cases h

/-- **What the names of elements come to.** -/
theorem names_resolve (hr : r.Proper) (h : r.resolve text = .ok (q, resolved)) :
    r.Names text q := by
  have hne := ne_empty_of_resolved (.inl h)
  rcases resolve_cases hr hne with ⟨_, hself⟩ | ⟨uri, localName, huri, hlocal, hsource, hbound⟩
  · cases hself.symm.trans h
    exact names_self hne
  · cases (hbound r r.extends_refl).symm.trans h
    exact names_of_uri hlocal huri hsource

/-- **What the names of attributes come to.** -/
theorem names_resolveAttribute (hr : r.Proper)
    (h : r.resolveAttribute text = .ok (q, resolved)) : r.Names text q := by
  have hne := ne_empty_of_resolved (.inr h)
  unfold resolveAttribute at h
  split at h
  · exact names_resolvePrefixed hr hne h
  · rw [QName.of, if_neg hne] at h
    cases h
    exact names_self hne

/-- **Which resolved names come back from brace notation**: those in a namespace whose URI holds no
closing brace, and those in none that do not begin with an opening brace. The bindings are any that
come about by adding, and the URI is always one of theirs, or the one that is always bound. -/
theorem parse_resolved_iff (bindings : List (String × String)) {text : String} {q : QName}
    {resolved : Bool}
    (h : (empty.afterAdds bindings).resolve text = .ok (q, resolved) ∨
      (empty.afterAdds bindings).resolveAttribute text = .ok (q, resolved)) :
    (QName.parse q.clark = .ok q ↔
        (∀ uri, q.uri = some uri → '}' ∉ uri.toList) ∧
          (q.uri = none → text.toList.head? ≠ some '{')) ∧
      ∀ uri, q.uri = some uri →
        uri = xmlUri ∨ ∃ pfx, (empty.afterAdds bindings).get? pfx = some uri := by
  have hproper := proper_empty.afterAdds bindings
  have hnames : (empty.afterAdds bindings).Names text q :=
    h.elim (names_resolve hproper) (names_resolveAttribute hproper)
  refine ⟨?_, hnames.bound⟩
  rw [QName.parse_clark_iff hnames.localName hnames.uri, QName.Spellable]
  cases huri : q.uri with
  | none =>
    rw [hnames.unbound huri]
    exact ⟨fun hopen => ⟨nofun, fun _ => hopen⟩, fun hspelled => hspelled.2 rfl⟩
  | some uri =>
    constructor
    · intro hclose
      refine ⟨fun _ heq => ?_, nofun⟩
      cases heq
      exact hclose
    · intro hspelled
      exact hspelled.1 uri rfl

theorem parse_resolved_prefixed :
    (empty.afterAdds [("p", "urn:\x7bu"), ("p", "urn:v")]).resolve "p:x:\x7dy" =
        .ok (⟨"x:\x7dy", some "urn:\x7bu"⟩, true) ∧
      QName.parse (QName.clark ⟨"x:\x7dy", some "urn:\x7bu"⟩) =
        .ok ⟨"x:\x7dy", some "urn:\x7bu"⟩ := by
  have hresolve : (empty.afterAdds [("p", "urn:\x7bu"), ("p", "urn:v")]).resolve "p:x:\x7dy" =
      .ok (⟨"x:\x7dy", some "urn:\x7bu"⟩, true) := rfl
  refine ⟨hresolve, (parse_resolved_iff _ (.inl hresolve)).1.mpr ⟨fun uri huri => ?_, nofun⟩⟩
  cases huri
  decide

end Registry

namespace Build

/-- A build that has just begun, with a prefix whose URI holds a closing brace. -/
def bracedState : BuildState :=
  { plainState with registry := .afterAdds .empty [("p", "u\x7dv")] }

/-- **A URI with a closing brace is cut**: its name does not come back from brace notation, and the
element that is built for it has another name. -/
theorem parse_resolved_closing :
    (Registry.empty.afterAdds [("p", "u\x7dv")]).resolve "p:x" =
        .ok (⟨"x", some "u\x7dv"⟩, true) ∧
      QName.parse (QName.clark ⟨"x", some "u\x7dv"⟩) = .ok ⟨"v\x7dx", some "u"⟩ ∧
      QName.parse (QName.clark ⟨"x", some "u\x7dv"⟩) ≠ .ok ⟨"x", some "u\x7dv"⟩ ∧
      (element (engine plainEnv 3) plainEnv (.str (QName.clark ⟨"x", some "u\x7dv"⟩)) []
          bracedState).1 = .ok ⟨⟨"v\x7dx", some "u"⟩, [], []⟩ := by
  have hcut : QName.parse (QName.clark ⟨"x", some "u\x7dv"⟩) = .ok ⟨"v\x7dx", some "u"⟩ := rfl
  refine ⟨rfl, hcut, fun h => ?_, rfl⟩
  have hsame := QName.mk.inj (Except.ok.inj (hcut.symm.trans h))
  exact absurd hsame.1 (by decide)

end Build

end TagScript
