import TagScript.Diagnostic
import TagScript.Element
import TagScript.Json.Same
import TagScript.Metrics

/-!
# Documents

A document is a root element with an XML declaration, together with what was reported and counted
while it was built.
-/

namespace TagScript

/-- The versions of the XML declaration. -/
inductive XmlVersion where
  /-- Version 1.0. -/
  | first
  /-- Version 1.1. -/
  | second
  deriving Repr, DecidableEq, Inhabited

namespace XmlVersion

/-- The version as written. -/
def text : XmlVersion → String
  | .first => "1.0"
  | .second => "1.1"

/-- The version that a setting names. -/
def read : Json → Except Fault XmlVersion
  | .str "1.0" => .ok .first
  | .str "1.1" => .ok .second
  | _ => .error (.invalid .version)

end XmlVersion

/-- The standalone flag as written. -/
def standaloneText (flag : Bool) : String :=
  if flag then "yes" else "no"

/-- The standalone flag that a word names. -/
def readStandaloneWord : Json → Except Fault Bool
  | .str "yes" => .ok true
  | .str "no" => .ok false
  | _ => .error (.invalid .standalone)

/-- The standalone flag that a setting names: a truth value or a word. -/
def readStandalone : Json → Except Fault Bool
  | .bool flag => .ok flag
  | word => readStandaloneWord word

/-- A root element with an XML declaration. -/
structure Document where
  /-- The root element. -/
  root : Element
  /-- The version of the declaration. -/
  version : XmlVersion
  /-- The encoding of the declaration, as it was given. -/
  encoding : Json
  /-- The standalone flag of the declaration. -/
  standalone : Bool
  /-- The problems tolerated while the document was built. -/
  diagnostics : List Diagnostic := []
  /-- What was counted while the document was built. -/
  metrics : Option Metrics := none
  /-- The build. -/
  correlationId : Option String := none

namespace Document

/-- The document with these parts; the settings of the declaration are checked first, then that
there is a root element. -/
def of (root : Option Element) (version standalone encoding : Json)
    (diagnostics : List Diagnostic) (metrics : Option Metrics) (correlationId : Option String) :
    Except Fault Document := do
  let version ← XmlVersion.read version
  let standalone ← readStandalone standalone
  match root with
  | some root => .ok ⟨root, version, encoding, standalone, diagnostics, metrics, correlationId⟩
  | none => .error (.wrongKind .documentRoot)

/-- A document has the root element and the reports that it is made with. -/
theorem of_eq_ok {root : Option Element} {version standalone encoding : Json}
    {diagnostics : List Diagnostic} {metrics : Option Metrics} {correlationId : Option String}
    {d : Document}
    (h : of root version standalone encoding diagnostics metrics correlationId = .ok d) :
    root = some d.root ∧ d.diagnostics = diagnostics := by
  unfold of at h
  cases hversion : XmlVersion.read version with
  | error f => simp [hversion, bind, Except.bind] at h
  | ok v =>
    cases hstandalone : readStandalone standalone with
    | error f => simp [hversion, hstandalone, bind, Except.bind] at h
    | ok flag =>
      cases root with
      | none => simp [hversion, hstandalone, bind, Except.bind] at h
      | some root =>
        simp only [hversion, hstandalone, bind, Except.bind] at h
        rw [← Except.ok.inj h]
        exact ⟨rfl, rfl⟩

/-- The elements of the document in document order. -/
def all (d : Document) : List Element :=
  d.root.all

/-- The first element with a name, the root included. -/
def find? (d : Document) (w : Wanted) : Option Element :=
  d.all.find? fun e => w.matchesTag e.tag

/-- The elements with a name, the root included. -/
def findAll (d : Document) (w : Wanted) : List Element :=
  d.all.filter fun e => w.matchesTag e.tag

/-- Whether two documents have the same tree and declaration. -/
def same (d e : Document) : Bool :=
  d.root.same e.root && d.version == e.version && d.encoding.same e.encoding
    && d.standalone == e.standalone

/-- The document as data. -/
def toJson (d : Document) : Json :=
  .obj [("version", .str d.version.text), ("encoding", d.encoding),
    ("standalone", .str (standaloneText d.standalone)), ("root", d.root.toJson)]

end Document

end TagScript
