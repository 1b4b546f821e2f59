import TagScript.Proofs.Value.Every
import TagScript.Script.Evaluate

/-!
# What names and casts are refused for

A name is refused when it is empty or opens a brace and does not close it, and nothing else. A cast
reports a value that it does not accept as a failure of the statement; only a number that is too
large gets past that.

* `Registry.nameOf_error`, `Registry.resolveAttribute_error` — the faults of names.
* **`Build.castValue_error`** — the faults of casts.
-/

namespace TagScript

theorem error_of_map_error {ε α β : Type} {r : Except ε α} {f : α → β} {e : ε}
    (h : r.map f = .error e) : r = .error e := by
  cases r with
  | error e' =>
    cases h
    rfl
  | ok a => cases h

theorem exists_of_map_ok {ε α β : Type} {r : Except ε α} {f : α → β} {b : β}
    (h : r.map f = .ok b) : ∃ a, r = .ok a ∧ f a = b := by
  cases r with
  | error e => cases h
  | ok a => exact ⟨a, rfl, Except.ok.inj h⟩

/-! ## Names -/

theorem QName.of_error {uri : Option String} {localName : String} {fault : Fault}
    (h : QName.of uri localName = .error fault) : fault = .invalid .emptyLocalName := by
  unfold QName.of at h
  split at h
  · cases h
    rfl
  · cases h

/-- Brace notation is refused when it is not closed or has no local part. -/
theorem QName.parse_error {text : String} {fault : Fault} (h : QName.parse text = .error fault) :
    fault = .invalid .emptyLocalName ∨ fault = .invalid (.malformedName text) := by
  unfold QName.parse at h
  split at h
  · split at h
    · exact .inl (QName.of_error h)
    · cases h
      exact .inr rfl
  · exact .inl (QName.of_error h)

namespace Registry

variable {r : Registry} {text : String} {fault : Fault}

theorem resolvePrefixed_error {pfx localName : String}
    (h : r.resolvePrefixed text pfx localName = .error fault) :
    fault = .invalid .emptyLocalName := by
  unfold resolvePrefixed at h
  dsimp only at h
  split at h
  · split at h
    · exact QName.of_error (error_of_map_error h)
    · exact QName.of_error (error_of_map_error h)
  · exact QName.of_error (error_of_map_error h)

theorem resolve_error (h : r.resolve text = .error fault) : fault = .invalid .emptyLocalName := by
  unfold resolve at h
  split at h
  · exact resolvePrefixed_error h
  · exact QName.of_error (error_of_map_error h)

theorem resolveAttribute_error (h : r.resolveAttribute text = .error fault) :
    fault = .invalid .emptyLocalName := by
  unfold resolveAttribute at h
  split at h
  · exact resolvePrefixed_error h
  · exact QName.of_error (error_of_map_error h)

theorem nameOf_error (h : r.nameOf text = .error fault) :
    fault = .invalid .emptyLocalName ∨ fault = .invalid (.malformedName text) := by
  unfold nameOf at h
  split at h
  · exact QName.parse_error h
  · exact .inl (resolve_error (error_of_map_error h))

end Registry

/-! ## Casts -/

namespace Cast

/-- A value is refused as a value, or it is a number too large. -/
theorem apply_error {r : Registry} {v : Value} {c : Cast} {fault : Fault}
    (h : c.apply r v = .error fault) :
    fault.isAboutValue = true ∨ ∃ wording, fault = .overflow wording := by
  cases c with
  | «namespace» =>
    have hrefused := error_of_map_error h
    unfold Value.toNamespace at hrefused
    split at hrefused
    · cases hrefused
      exact .inl rfl
    · cases hrefused
    · unfold Namespace.of at hrefused
      split at hrefused <;> cases hrefused
      exact .inl rfl
  | string => cases h
  | whole =>
    have hrefused := error_of_map_error h
    unfold Value.toWhole at hrefused
    split at hrefused
    · cases hrefused
    · cases hrefused
    · split at hrefused <;> cases hrefused
      · exact .inl rfl
      · exact .inr ⟨_, rfl⟩
    · split at hrefused <;> cases hrefused <;> exact .inl rfl
    · cases hrefused
      exact .inl rfl
  | decimal =>
    have hrefused := error_of_map_error h
    unfold Value.toDecimal at hrefused
    split at hrefused
    · cases hrefused
    · unfold Value.wholeToDecimal at hrefused
      split at hrefused <;> cases hrefused
      exact .inr ⟨_, rfl⟩
    · cases hrefused
    · split at hrefused <;> cases hrefused
      exact .inl rfl
    · cases hrefused
      exact .inl rfl
  | truth => cases h
  | name =>
    have hrefused := error_of_map_error h
    unfold Registry.nameOfValue at hrefused
    split at hrefused
    · cases hrefused
    · rcases Registry.nameOf_error hrefused with rfl | rfl <;> exact .inl rfl
  | list => cases h

/-- What a cast makes is plain data, a name, or the items of the value. -/
theorem every_apply {p : Value → Prop} (K : Value.KeepsMembers p) {r : Registry} {v w : Value}
    (hv : v.Every p) {c : Cast} (hname : c = .name → ∀ q, p (.name q)) (h : c.apply r v = .ok w) :
    w.Every p := by
  cases c with
  | list =>
    cases h
    exact .list hv.items
  | string | truth =>
    cases h
    exact K.every rfl trivial
  | name =>
    obtain ⟨made, -, rfl⟩ := exists_of_map_ok h
    exact .leaf rfl (hname rfl made)
  | «namespace» | whole | decimal =>
    obtain ⟨made, -, rfl⟩ := exists_of_map_ok h
    exact K.every rfl trivial

/-- What a cast makes is no content. -/
theorem isContentBlock_apply {r : Registry} {v w : Value} {c : Cast} (h : c.apply r v = .ok w) :
    w.isContentBlock = false := by
  cases c with
  | string | truth | list =>
    cases h
    rfl
  | «namespace» | whole | decimal | name =>
    obtain ⟨made, -, rfl⟩ := exists_of_map_ok h
    rfl

end Cast

namespace Build

/-- **A cast fails as a statement does, or a number is too large.** -/
theorem castValue_error {r : Registry} {t : Token} {v : Value} {fault : Fault}
    (h : castValue r t v = .error fault) :
    (∃ problem, fault = .runtime problem) ∨ ∃ wording, fault = .overflow wording := by
  unfold castValue at h
  dsimp only at h
  split at h
  · cases h
    exact .inl ⟨_, rfl⟩
  · rename_i c _
    cases happly : c.apply r v with
    | ok w =>
      rw [happly] at h
      cases h
    | error refused =>
      rw [happly] at h
      cases h
      rcases Cast.apply_error happly with habout | ⟨wording, rfl⟩
      · exact .inl ⟨_, if_pos habout⟩
      · exact .inr ⟨wording, rfl⟩

theorem every_castValue {p : Value → Prop} (K : Value.KeepsMembers p) {r : Registry} {t : Token}
    {v w : Value} (hv : v.Every p)
    (hname : Cast.ofName? (castType t) = some .name → ∀ q, p (.name q))
    (h : castValue r t v = .ok w) : w.Every p := by
  unfold castValue at h
  dsimp only at h
  split at h
  · cases h
  · rename_i c htype
    cases happly : c.apply r v with
    | ok made =>
      rw [happly] at h
      cases h
      exact Cast.every_apply K hv (fun heq => hname (heq ▸ htype)) happly
    | error refused =>
      rw [happly] at h
      cases h

theorem isContentBlock_castValue {r : Registry} {t : Token} {v w : Value}
    (h : castValue r t v = .ok w) : w.isContentBlock = false := by
  unfold castValue at h
  dsimp only at h
  split at h
  · cases h
  · rename_i c _
    cases happly : c.apply r v with
    | ok made =>
      rw [happly] at h
      cases h
      exact Cast.isContentBlock_apply happly
    | error refused =>
      rw [happly] at h
      cases h

end Build

end TagScript
