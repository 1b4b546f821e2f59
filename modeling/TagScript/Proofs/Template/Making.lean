import TagScript.Proofs.Template.CompiledTokens
import TagScript.Proofs.Value.Refusals

/-!
# What comes of making a template

A text fails to become a template only by being malformed: itself, or with its constructor calls. A
request for a template comes to that, whatever is kept; the only other refusal is that of a
constructor that templates cannot be kept under.

* `Template.ofSource_cases` — a template whose tokens are those of its text, or a malformed text.
* `Template.ofSource_of_no_words` — a text without element words is run as it is written.
* **`Cache.Holds.outcome_of_check`** — what a request comes to under a configuration that passes its
  checks.
* `Cache.Holds.outcome_cases`, `Cache.Holds.outcome_eq` — a template, a malformed text or the
  refusal to keep templates; the same one whatever is kept.
-/

namespace TagScript

/-- Only a malformed text is not read. -/
theorem Lexer.scan_error {s : State} {cs : List Char} {fault : Fault}
    (h : scan s cs = .error fault) : ∃ problem pos, fault = .badSyntax problem pos := by
  induction cs generalizing s with
  | nil =>
    unfold scan at h
    split at h
    · cases h
    · cases h
      exact ⟨_, _, rfl⟩
  | cons c rest ih =>
    unfold scan at h
    split at h
    · exact ih h
    · split at h
      · cases h
        exact ⟨_, _, rfl⟩
      · exact ih h
      · split at h
        · cases h
          exact ⟨_, _, rfl⟩
        · exact ih (error_of_map_error h)

theorem tokenize_error {source : String} {fault : Fault} (h : tokenize source = .error fault) :
    ∃ problem pos, fault = .badSyntax problem pos :=
  Lexer.scan_error h

/-- **A text becomes a template whose tokens are those of its compiled text, or it is malformed.**
-/
theorem Template.ofSource_cases (known : String → Bool) (registry : Registry)
    (constructor : Constructor) (source : String) :
    (∃ t, (ofSource known registry constructor source).2 = .ok t ∧
      tokenize t.compiled = .ok t.tokens) ∨
    ∃ problem pos, (ofSource known registry constructor source).2 =
      .error (.badSyntax problem pos) := by
  rw [ofSource_snd]
  cases hread : tokenize source with
  | error fault =>
    obtain ⟨problem, pos, rfl⟩ := tokenize_error hread
    exact .inr ⟨problem, pos, rfl⟩
  | ok ts =>
    obtain ⟨row, htext, hrow, rfl⟩ := Lexer.tokenize_eq_ok_iff.mp hread
    simp only [Except.bind, Lexer.rewrite_textOf htext hrow]
    split
    · rename_i fault hagain
      split at hagain
      · cases hagain
      · obtain ⟨problem, pos, rfl⟩ := tokenize_error hagain
        exact .inr ⟨problem, pos, rfl⟩
    · rename_i tokens hagain
      refine .inl ⟨_, rfl, ?_⟩
      split at hagain
      · rename_i hempty
        cases hagain
        rw [Lexer.respell_eq_self (List.isEmpty_iff.mp hempty)]
        exact Lexer.tokenize_textOf hrow
      · exact hagain

/-- A text without element words is run as it is written. -/
theorem Template.ofSource_of_no_words {known : String → Bool} (registry : Registry)
    (constructor : Constructor) {source : String} {ts : List Token}
    (hread : tokenize source = .ok ts) (hwords : Token.elementWords known true ts = []) :
    ∃ t, (ofSource known registry constructor source).2 = .ok t ∧
      Script.ofTemplate t = Script.ofTokens source ts := by
  rw [ofSource_snd, hread]
  simp only [Except.bind, hwords]
  exact ⟨_, rfl, rfl⟩

/-- A configuration that passes its checks has components that pass theirs. -/
theorem Config.components_of_check {config : Config} (h : config.check = .ok ()) :
    config.compiler.check = .ok () ∧ config.builder.check = .ok () ∧
      config.document.check = .ok () := by
  unfold check at h
  cases hcompiler : config.compiler.check with
  | error fault =>
    rw [hcompiler] at h
    cases h
  | ok =>
    cases hbuilder : config.builder.check with
    | error fault =>
      rw [hcompiler, hbuilder] at h
      cases h
    | ok =>
      cases hdocument : config.document.check with
      | error fault =>
        rw [hcompiler, hbuilder, hdocument] at h
        cases h
      | ok => exact ⟨rfl, rfl, rfl⟩

/-- A constructor that passes its check is a text, or templates cannot be kept under it. -/
theorem CompilerConfig.constructor_cases {config : CompilerConfig} (h : config.check = .ok ()) :
    (∃ name, config.elementConstructor = .str name) ∨
      config.settings.constructor.isFixed = false := by
  unfold check at h
  cases hconstructor : config.elementConstructor with
  | str name => exact .inl ⟨name, rfl⟩
  | arr items => exact .inr (by rw [settings, hconstructor]; rfl)
  | obj fields => exact .inr (by rw [settings, hconstructor]; rfl)
  | null | bool b | int i | float x =>
    rw [hconstructor] at h
    dsimp only at h
    split at h <;> cases h

/-- **What a request for a template comes to**, if no template that is out of date is kept. -/
theorem Cache.Holds.outcome_of_check {config : CompilerConfig} (hconfig : config.check = .ok ())
    {host : CompilerHost} (htokenizes : host.tokenizes = true) {knows : String → Bool}
    (hknows : host.knows = some knows) {c : Cache}
    (h : c.Holds config.settings knows host.version) (registry : Registry) (source : String) :
    (c.compile config.settings host registry source).outcome =
      if config.settings.caching && !config.settings.constructor.isFixed then
        .error (.wrongKind .unsupported)
      else (Template.ofSource knows registry config.settings.constructor source).2 := by
  cases hcaching : config.settings.caching with
  | false =>
    refine h.outcome (fun hcached => ?_) htokenizes hknows
    rw [hcaching] at hcached
    cases hcached
  | true =>
    cases hfixed : config.settings.constructor.isFixed with
    | false =>
      unfold Cache.compile
      rw [htokenizes, hknows]
      dsimp only
      rw [hcaching, hfixed]
      rfl
    | true =>
      rcases config.constructor_cases hconfig with ⟨name, hname⟩ | hchanging
      · exact h.outcome (fun _ => config.usable hconfig hname) htokenizes hknows
      · rw [hfixed] at hchanging
        cases hchanging

section

variable {config : CompilerConfig} {settings : CompilerSettings} {knows : String → Bool}
  {version : Option Nat} {c : Cache}

/-- **A request comes to a template whose tokens are those of its text**, unless the text is
malformed or templates cannot be kept. -/
theorem Cache.Holds.outcome_cases (hconfig : config.check = .ok ())
    (hsettings : settings = config.settings) (h : c.Holds settings knows version)
    (registry : Registry) (source : String) :
    (∃ t, (c.compile settings ⟨true, some knows, version⟩ registry source).outcome = .ok t ∧
      tokenize t.compiled = .ok t.tokens) ∨
    (∃ problem pos, (c.compile settings ⟨true, some knows, version⟩ registry source).outcome =
      .error (.badSyntax problem pos)) ∨
    (c.compile settings ⟨true, some knows, version⟩ registry source).outcome =
      .error (.wrongKind .unsupported) := by
  subst hsettings
  rw [@Holds.outcome_of_check _ hconfig ⟨true, some knows, version⟩ rfl _ rfl _ h]
  split
  · exact .inr (.inr rfl)
  · rcases Template.ofSource_cases knows registry config.settings.constructor source with hok | hbad
    · exact .inl hok
    · exact .inr (.inl hbad)

/-- What is kept does not decide what a request comes to. -/
theorem Cache.Holds.outcome_eq (hconfig : config.check = .ok ())
    (hsettings : settings = config.settings) {c' : Cache} (h : c.Holds settings knows version)
    (h' : c'.Holds settings knows version) (registry : Registry) (source : String) :
    (c'.compile settings ⟨true, some knows, version⟩ registry source).outcome =
      (c.compile settings ⟨true, some knows, version⟩ registry source).outcome := by
  subst hsettings
  rw [@Holds.outcome_of_check _ hconfig ⟨true, some knows, version⟩ rfl _ rfl _ h,
    @Holds.outcome_of_check _ hconfig ⟨true, some knows, version⟩ rfl _ rfl _ h']

end

end TagScript
