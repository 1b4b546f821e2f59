import TagScript.Fields
import TagScript.Name

/-!
# Namespace bindings

The prefixes bound during one build, in the order in which they were bound. A binding is never
replaced: binding a prefix again to its URI changes nothing, and to another URI fails. The empty
prefix stands for the default namespace, which element names without a prefix take.
-/

namespace TagScript

/-- Prefixes and their URIs, in order. -/
structure Registry where
  /-- The bindings. -/
  bindings : List (String × String)
  deriving Repr, DecidableEq, Inhabited

namespace Registry

/-- No bindings. -/
def empty : Registry := ⟨[]⟩

/-- The URI of a prefix. -/
def get? (r : Registry) (pfx : String) : Option String :=
  Fields.get? r.bindings pfx

/-- The prefixes in the order they were bound. -/
def prefixes (r : Registry) : List String :=
  r.bindings.map (·.1)

/-- Binds a prefix; says whether the binding is new. -/
def add (r : Registry) (pfx uri : String) : Except Fault (Bool × Registry) :=
  if uri = "" then .error (.invalid .emptyNamespace)
  else
    match r.get? pfx with
    | none => .ok (true, ⟨r.bindings ++ [(pfx, uri)]⟩)
    | some known =>
      if known = uri then .ok (false, r) else .error (.collision pfx known uri)

/-- The registry with these bindings added in order; of a repeated prefix the last URI counts, at
the first place. -/
def ofList (pairs : List (String × String)) : Except Fault Registry :=
  (Fields.ofList pairs).foldlM
    (fun r p => (r.add p.1 p.2).map (·.2)) empty

/-- The qualified name of a name with a prefix, and whether the prefix is bound. The prefix `xml`
needs no binding. A name whose prefix is unbound is kept as it stands, in no namespace. -/
def resolvePrefixed (r : Registry) (text pfx localName : String) : Except Fault (QName × Bool) :=
  let uri := if pfx = "xml" then some xmlUri else r.get? pfx
  match uri with
  | some uri =>
    if localName = "" then (QName.of none text).map (·, false)
    else (QName.of (some uri) localName).map (·, true)
  | none => (QName.of none text).map (·, false)

/-- The qualified name of an element name, and whether it resolved. -/
def resolve (r : Registry) (text : String) : Except Fault (QName × Bool) :=
  match splitColon text with
  | some (pfx, localName) => r.resolvePrefixed text pfx localName
  | none => (QName.of (r.get? "") text).map (·, true)

/-- The qualified name of an attribute name, and whether it resolved; the default namespace does
not apply to attributes. -/
def resolveAttribute (r : Registry) (text : String) : Except Fault (QName × Bool) :=
  match splitColon text with
  | some (pfx, localName) => r.resolvePrefixed text pfx localName
  | none => (QName.of none text).map (·, true)

/-- The bindings in the order of their prefixes. -/
def sorted (r : Registry) : List (String × String) :=
  r.bindings.mergeSort fun a b => decide (a.1 ≤ b.1)

/-- The bindings, as messages show them. -/
def describe (r : Registry) : String :=
  "NamespaceRegistry(\x7b"
    ++ ", ".intercalate (r.bindings.map fun p => Text.quoted p.1 ++ ": " ++ Text.quoted p.2)
    ++ "\x7d)"

/-- A prefix that was bound keeps its URI. -/
theorem get?_add {r r' : Registry} {pfx uri : String} {created : Bool}
    (h : r.add pfx uri = .ok (created, r')) {p u : String} (hp : r.get? p = some u) :
    r'.get? p = some u := by
  unfold add at h
  split at h
  · cases h
  · cases hg : r.get? pfx with
    | none =>
      simp only [hg] at h
      injection h with h
      injection h with _ h
      subst h
      exact Fields.get?_append hp
    | some known =>
      simp only [hg] at h
      split at h
      · injection h with h
        injection h with _ h
        exact h ▸ hp
      · cases h

end Registry

end TagScript
