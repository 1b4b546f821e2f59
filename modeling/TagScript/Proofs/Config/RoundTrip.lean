import TagScript.Proofs.Config.Reading
import TagScript.Proofs.Json.RoundTrip

/-!
# Configurations are read as they are written

A configuration is an object of four objects and two values, and is read key by key: each setting is
looked for under the key that it was written under, a policy by its name, and every component passes
the check again that it passed before. As text it is written if its whole numbers have few enough
digits, and then read like any other value.

* `Kind`, `Config.Typed` — the declared types of the settings, and what has them.
* `Config.partsPass_of_check` — the components of an accepted configuration pass their checks.
* **`Config.read_toJson`** — a configuration is read from its data as it was.
* `Config.eq_of_toJson_eq` — two configurations with the same data are the same.
* **`Config.readText_write`** — a configuration is read from its text as it was, if it has a text.
-/

namespace TagScript

/-! ## Declared types -/

/-- The declared type of a setting. -/
inductive Kind where
  /-- A text. -/
  | text
  /-- A flag. -/
  | flag
  /-- A whole number. -/
  | whole
  /-- A text or nothing. -/
  | optionalText
  deriving DecidableEq

/-- Whether a value is of a type. A flag is a whole number too. -/
def Kind.Holds : Kind → Json → Prop
  | .text, v => ∃ s, v = .str s
  | .flag, v => ∃ b, v = .bool b
  | .whole, v => (∃ i, v = .int i) ∨ ∃ b, v = .bool b
  | .optionalText, v => v = .null ∨ ∃ s, v = .str s

/-- Whether the compiler settings have their declared types. -/
structure CompilerConfig.Typed (c : CompilerConfig) : Prop where
  elementConstructor : Kind.text.Holds c.elementConstructor
  keepsTemplates : Kind.flag.Holds c.keepsTemplates
  cacheLimit : Kind.whole.Holds c.cacheLimit

/-- Whether the settings for running blocks have their declared types. -/
structure RuntimeConfig.Typed (c : RuntimeConfig) : Prop where
  strictVariables : Kind.flag.Holds c.strictVariables
  foldsCommandCase : Kind.flag.Holds c.foldsCommandCase
  hasBuiltins : Kind.flag.Holds c.hasBuiltins

/-- Whether the settings for building elements have their declared types. -/
structure BuilderConfig.Typed (c : BuilderConfig) : Prop where
  policies : c.HasPolicies
  strictArguments : Kind.flag.Holds c.strictArguments
  maxDepth : Kind.whole.Holds c.maxDepth
  contentMarker : Kind.text.Holds c.contentMarker

/-- Whether the declaration settings have their declared types. -/
structure DocumentConfig.Typed (c : DocumentConfig) : Prop where
  version : Kind.text.Holds c.version
  encoding : Kind.text.Holds c.encoding
  standalone : Kind.text.Holds c.standalone

/-- Whether all settings of a configuration have their declared types. -/
structure Config.Typed (c : Config) : Prop where
  compiler : c.compiler.Typed
  runtime : c.runtime.Typed
  builder : c.builder.Typed
  document : c.document.Typed
  name : Kind.optionalText.Holds c.name
  description : Kind.optionalText.Holds c.description

/-! ## Data -/

/-- Whether all components pass their checks. -/
def Config.PartsPass (c : Config) : Prop :=
  c.compiler.check = .ok () ∧ c.builder.check = .ok () ∧ c.document.check = .ok ()

/-- The components of an accepted configuration pass their checks. -/
theorem Config.partsPass_of_check {c : Config} (h : c.check = .ok ()) : c.PartsPass := by
  unfold Config.check at h
  obtain ⟨_, hparts, -⟩ := exists_of_bind_eq_ok h
  cases hcompiler : c.compiler.check with
  | error fault =>
    rw [hcompiler] at hparts
    cases hparts
  | ok =>
    cases hbuilder : c.builder.check with
    | error fault =>
      rw [hcompiler, hbuilder] at hparts
      cases hparts
    | ok =>
      rw [hcompiler, hbuilder] at hparts
      cases hdocument : c.document.check with
      | error fault =>
        rw [hdocument] at hparts
        cases hparts
      | ok => exact ⟨hcompiler, hbuilder, hdocument⟩

theorem CompilerConfig.read_fields {c : CompilerConfig} (h : c.check = .ok ()) :
    read (.obj c.fields) = .ok c := by
  have hread : read (.obj c.fields) = (c.check.mapError (Fault.inConfig none)).map fun _ => c := rfl
  rw [hread, h]
  rfl

theorem RuntimeConfig.read_fields (c : RuntimeConfig) : read (.obj c.fields) = .ok c := rfl

/-- A policy is found by its name. -/
theorem BuilderConfig.read_fields {c : BuilderConfig} (hpolicies : c.HasPolicies)
    (h : c.check = .ok ()) : read (.obj c.fields) = .ok c := by
  have hread :
      read (.obj c.fields) = (c.check.mapError (Fault.inConfig none)).map fun _ => c := by
    obtain ⟨collisions, duplicates, strict, depth, marker⟩ := c
    obtain ⟨⟨collision, rfl⟩, duplicate, rfl⟩ := hpolicies
    cases collision <;> cases duplicate <;> rfl
  rw [hread, h]
  rfl

theorem DocumentConfig.read_fields {c : DocumentConfig} (h : c.check = .ok ()) :
    read (.obj c.fields) = .ok c := by
  have hread : read (.obj c.fields) = (c.check.mapError (Fault.inConfig none)).map fun _ => c := rfl
  rw [hread, h]
  rfl

theorem CollisionPolicy.label_injective {p q : CollisionPolicy} (h : p.label = q.label) :
    p = q := by
  cases p <;> cases q <;> first | rfl | exact absurd h (by decide)

theorem DuplicatePolicy.label_injective {p q : DuplicatePolicy} (h : p.label = q.label) :
    p = q := by
  cases p <;> cases q <;> first | rfl | exact absurd h (by decide)

namespace Config

variable {c : Config}

/-- **A configuration is read from its data as it was**, if it is accepted and its policies are
known ones. -/
theorem read_toJson (hpolicies : c.builder.HasPolicies) (h : c.check = .ok ()) :
    read c.toJson = .ok c := by
  obtain ⟨hcompiler, hbuilder, hdocument⟩ := partsPass_of_check h
  have hread : read c.toJson =
      CompilerConfig.read (.obj c.compiler.fields) >>= fun compiler =>
        RuntimeConfig.read (.obj c.runtime.fields) >>= fun runtime =>
          BuilderConfig.read (.obj c.builder.fields) >>= fun builder =>
            DocumentConfig.read (.obj c.document.fields) >>= fun document =>
              Config.checked { c with compiler, runtime, builder, document } := rfl
  rw [hread, CompilerConfig.read_fields hcompiler, RuntimeConfig.read_fields,
    BuilderConfig.read_fields hpolicies hbuilder, DocumentConfig.read_fields hdocument]
  change c.checked = .ok c
  rw [checked, h]
  rfl

/-- The data determine a configuration whose policies are known ones. -/
theorem eq_of_toJson_eq {d : Config} (hc : c.builder.HasPolicies) (hd : d.builder.HasPolicies)
    (h : c.toJson = d.toJson) : c = d := by
  obtain ⟨⟨_, _, _⟩, ⟨_, _, _⟩, ⟨_, _, _, _, _⟩, ⟨_, _, _⟩, _, _⟩ := c
  obtain ⟨⟨_, _, _⟩, ⟨_, _, _⟩, ⟨_, _, _, _, _⟩, ⟨_, _, _⟩, _, _⟩ := d
  obtain ⟨⟨collision, rfl⟩, duplicate, rfl⟩ := hc
  obtain ⟨⟨collision', rfl⟩, duplicate', rfl⟩ := hd
  simp only [toJson, CompilerConfig.fields, RuntimeConfig.fields, BuilderConfig.fields,
    DocumentConfig.fields, Choice.toJson, Json.obj.injEq, Json.str.injEq, List.cons.injEq,
    Prod.mk.injEq, true_and, and_true] at h
  obtain ⟨⟨rfl, rfl, rfl⟩, ⟨rfl, rfl, rfl⟩, ⟨hcollision, hduplicate, rfl, rfl, rfl⟩,
    ⟨rfl, rfl, rfl⟩, rfl, rfl⟩ := h
  rw [CollisionPolicy.label_injective hcollision, DuplicatePolicy.label_injective hduplicate]

end Config

/-! ## Texts -/

namespace Kind

variable {kind : Kind} {v : Json}

theorem Holds.exact (h : kind.Holds v) : v.Exact := by
  cases kind with
  | text =>
    obtain ⟨s, rfl⟩ := h
    exact trivial
  | flag =>
    obtain ⟨b, rfl⟩ := h
    exact trivial
  | whole => rcases h with ⟨i, rfl⟩ | ⟨b, rfl⟩ <;> exact trivial
  | optionalText => rcases h with rfl | ⟨s, rfl⟩ <;> exact trivial

/-- Only a whole number can have too many digits. -/
theorem Holds.isWritable (h : kind.Holds v) (hkind : kind ≠ .whole) : v.isWritable = true := by
  cases kind with
  | text =>
    obtain ⟨s, rfl⟩ := h
    rfl
  | flag =>
    obtain ⟨b, rfl⟩ := h
    rfl
  | whole => exact absurd rfl hkind
  | optionalText => rcases h with rfl | ⟨s, rfl⟩ <;> rfl

/-- A policy is written as a text. -/
theorem text_holds_toJson {α : Type} (label : α → String) {choice : Choice α}
    (h : ∃ a, choice = .known a) : Kind.text.Holds (choice.toJson label) := by
  obtain ⟨a, rfl⟩ := h
  exact ⟨label a, rfl⟩

end Kind

open Json (ExactFields haveWritable)

namespace CompilerConfig

theorem nodup_keys_fields (c : CompilerConfig) : (Fields.keys c.fields).Nodup :=
  show ["element_ctor_name", "enable_template_cache", "cache_size_limit"].Nodup by decide

variable {c : CompilerConfig}

theorem Typed.exactFields (h : c.Typed) : ExactFields c.fields :=
  ⟨h.elementConstructor.exact, h.keepsTemplates.exact, h.cacheLimit.exact, trivial⟩

theorem Typed.haveWritable_fields (h : c.Typed) :
    haveWritable c.fields = c.cacheLimit.isWritable := by
  simp only [fields, haveWritable, h.elementConstructor.isWritable (by decide),
    h.keepsTemplates.isWritable (by decide), Bool.true_and, Bool.and_true]

end CompilerConfig

namespace RuntimeConfig

theorem nodup_keys_fields (c : RuntimeConfig) : (Fields.keys c.fields).Nodup :=
  show ["strict_variables", "case_insensitive_commands", "register_builtins"].Nodup by decide

variable {c : RuntimeConfig}

theorem Typed.exactFields (h : c.Typed) : ExactFields c.fields :=
  ⟨h.strictVariables.exact, h.foldsCommandCase.exact, h.hasBuiltins.exact, trivial⟩

theorem Typed.haveWritable_fields (h : c.Typed) : haveWritable c.fields = true := by
  simp only [fields, haveWritable, h.strictVariables.isWritable (by decide),
    h.foldsCommandCase.isWritable (by decide), h.hasBuiltins.isWritable (by decide), Bool.and_true]

end RuntimeConfig

namespace BuilderConfig

theorem nodup_keys_fields (c : BuilderConfig) : (Fields.keys c.fields).Nodup :=
  show ["namespace_collision_policy", "duplicate_attribute_policy", "strict_arguments", "max_depth",
    "content_marker"].Nodup by decide

variable {c : BuilderConfig}

theorem Typed.exactFields (h : c.Typed) : ExactFields c.fields :=
  ⟨(Kind.text_holds_toJson _ h.policies.1).exact, (Kind.text_holds_toJson _ h.policies.2).exact,
    h.strictArguments.exact, h.maxDepth.exact, h.contentMarker.exact, trivial⟩

theorem Typed.haveWritable_fields (h : c.Typed) :
    haveWritable c.fields = c.maxDepth.isWritable := by
  simp only [fields, haveWritable, (Kind.text_holds_toJson _ h.policies.1).isWritable (by decide),
    (Kind.text_holds_toJson _ h.policies.2).isWritable (by decide),
    h.strictArguments.isWritable (by decide), h.contentMarker.isWritable (by decide),
    Bool.true_and, Bool.and_true]

end BuilderConfig

namespace DocumentConfig

theorem nodup_keys_fields (c : DocumentConfig) : (Fields.keys c.fields).Nodup :=
  show ["version", "encoding", "standalone"].Nodup by decide

variable {c : DocumentConfig}

theorem Typed.exactFields (h : c.Typed) : ExactFields c.fields :=
  ⟨h.version.exact, h.encoding.exact, h.standalone.exact, trivial⟩

theorem Typed.haveWritable_fields (h : c.Typed) : haveWritable c.fields = true := by
  simp only [fields, haveWritable, h.version.isWritable (by decide),
    h.encoding.isWritable (by decide), h.standalone.isWritable (by decide), Bool.and_true]

end DocumentConfig

namespace Config

variable {c : Config}

theorem Typed.exact_toJson (h : c.Typed) : c.toJson.Exact := by
  have hkeys : ["compiler", "runtime", "builder", "document", "name", "description"].Nodup := by
    decide
  exact ⟨hkeys, ⟨c.compiler.nodup_keys_fields, h.compiler.exactFields⟩,
    ⟨c.runtime.nodup_keys_fields, h.runtime.exactFields⟩,
    ⟨c.builder.nodup_keys_fields, h.builder.exactFields⟩,
    ⟨c.document.nodup_keys_fields, h.document.exactFields⟩, h.name.exact, h.description.exact,
    trivial⟩

/-- Whether the whole numbers of a configuration have few enough digits to be written. -/
def NumbersFit (c : Config) : Prop :=
  ∀ i : Int, c.compiler.cacheLimit = .int i ∨ c.builder.maxDepth = .int i →
    (Nat.toDigits 10 i.natAbs).length ≤ Number.digitLimit

/-- Nothing but the size of its numbers keeps a configuration from being written. -/
theorem Typed.isWritable_toJson_iff (h : c.Typed) :
    c.toJson.isWritable = true ↔ c.NumbersFit := by
  have hwhole {v : Json} (hv : Kind.whole.Holds v) : v.isWritable = true ↔
      ∀ i, v = .int i → (Nat.toDigits 10 i.natAbs).length ≤ Number.digitLimit := by
    rcases hv with ⟨i, rfl⟩ | ⟨b, rfl⟩ <;> simp [Json.isWritable]
  have hparts : c.toJson.isWritable =
      (c.compiler.cacheLimit.isWritable && c.builder.maxDepth.isWritable) := by
    simp only [toJson, Json.isWritable, haveWritable, h.compiler.haveWritable_fields,
      h.runtime.haveWritable_fields, h.builder.haveWritable_fields, h.document.haveWritable_fields,
      h.name.isWritable (by decide), h.description.isWritable (by decide), Bool.true_and,
      Bool.and_true]
  rw [hparts, Bool.and_eq_true, hwhole h.compiler.cacheLimit, hwhole h.builder.maxDepth]
  exact ⟨fun hfit i hi => hi.elim (hfit.1 i) (hfit.2 i),
    fun hfit => ⟨fun i hi => hfit i (.inl hi), fun i hi => hfit i (.inr hi)⟩⟩

/-- **A configuration is read from its text as it was**, if its numbers have few enough digits; else
it has no text. -/
theorem readText_write (htyped : c.Typed) (h : c.check = .ok ()) (indent : Option Nat) :
    (c.NumbersFit → (c.write indent >>= readText) = .ok c) ∧
      (¬c.NumbersFit → c.write indent = .error (.invalid .tooManyDigitsToWrite)) := by
  rw [← htyped.isWritable_toJson_iff]
  unfold write
  refine ⟨fun hfit => ?_, fun hfit => if_neg hfit⟩
  rw [if_pos hfit]
  change readText (c.toJson.write indent) = .ok c
  unfold readText
  rw [Json.read_write indent htyped.exact_toJson hfit]
  exact read_toJson htyped.builder.policies h

end Config

end TagScript
