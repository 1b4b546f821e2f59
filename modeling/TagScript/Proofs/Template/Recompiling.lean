import TagScript.Proofs.Template.Making

/-!
# Compiling compiled text

A constructor that is read as one command word, and as no element word, turns every text that is
read into one that is read again and has nothing left to compile.

* `elementWords_respell` — a respelled row has no element words, if the constructor is none.
* `Template.words_eq` — the words that a template lists are the element words of its text.
* **`compile_total_idempotent`** — a request fails exactly if the text is not read, and a request for
  the compiled text returns it as it is.
-/

namespace TagScript

namespace Lexer

variable {known : String → Bool} {registry : Registry} {name : String}

/-- A row none of whose stretches is an element word has no element words. -/
theorem elementWords_eq_nil {row : List Stretch} (h : ∀ s ∈ row, s.isElementWord known = false)
    (pos : Position) (offset : Nat) :
    Token.elementWords known true (tokensAt pos offset row) = [] := by
  induction row generalizing pos offset with
  | nil => rfl
  | cons s row ih =>
    obtain ⟨hs, hrow⟩ := List.forall_mem_cons.mp h
    cases s with
    | blank c => exact ih hrow ..
    | token kind text depth => rw [elementWords_other hs, ih hrow]

/-- A literal brings no element word. -/
theorem isElementWord_joinLiteral {row : List Stretch}
    (h : ∀ s ∈ row, s.isElementWord known = false) (literal : List Char) :
    ∀ s ∈ joinLiteral literal row, s.isElementWord known = false := by
  have hstring (text : List Char) (depth : Nat) :
      (Stretch.token .string text depth).isElementWord known = false := by
    simp [Stretch.isElementWord]
  fun_cases joinLiteral literal row with
  | case1 text depth row =>
    exact List.forall_mem_cons.mpr ⟨hstring .., (List.forall_mem_cons.mp h).2⟩
  | case2 => exact List.forall_mem_cons.mpr ⟨hstring .., h⟩

/-- **A respelled row has no element words** if the constructor is none. -/
theorem elementWords_respell (hcommand : '-' ∈ name.toList ∨ known name = true)
    (row : List Stretch) (pos : Position) (offset : Nat) :
    Token.elementWords known true (tokensAt pos offset (respell known registry name row)) = [] := by
  refine elementWords_eq_nil ?_ pos offset
  have hname : (Stretch.token .command name.toList 0).isElementWord known = false := by
    rcases hcommand with hhyphen | hknown
    · simp [Stretch.isElementWord, hhyphen]
    · simp [Stretch.isElementWord, hknown]
  induction row with
  | nil => exact List.forall_mem_nil _
  | cons s row ih =>
    cases hw : s.isElementWord known with
    | false =>
      rw [respell_other hw]
      exact List.forall_mem_cons.mpr ⟨hw, ih⟩
    | true =>
      rw [respell_word hw]
      exact List.forall_mem_cons.mpr ⟨hname, List.forall_mem_cons.mpr
        ⟨rfl, isElementWord_joinLiteral ih _⟩⟩

end Lexer

open Lexer

/-- The words that a template lists are the element words of its text. -/
theorem Template.words_eq {known : String → Bool} {registry : Registry} {constructor : Constructor}
    {source : String} {ts : List Token} (hread : tokenize source = .ok ts) {t : Template}
    (h : (Template.ofSource known registry constructor source).2 = .ok t) :
    t.words = Token.elementWords known true ts := by
  rw [Template.ofSource_snd, hread] at h
  simp only [Except.bind] at h
  split at h
  · cases h
  · split at h
    · cases h
    · cases h
      rfl

/-- **Compiling is total and comes to an end.** For a constructor that is read as one command word
and names no element, a request fails exactly if the text is not read, and with the same fault. A
request for compiled text, whatever is bound or kept by then, finds no element words in it and
returns it as it is. -/
theorem compile_total_idempotent {config : CompilerConfig} (hconfig : config.check = .ok ())
    {name : String} (hname : config.elementConstructor = .str name) (hword : IsCommandWord name)
    {host : CompilerHost} (htokenizes : host.tokenizes = true) {known : String → Bool}
    (hknows : host.knows = some known) (hcommand : '-' ∈ name.toList ∨ known name = true)
    {cache : Cache} (hcache : cache.Reached config.settings host) (registry : Registry)
    (source : String) :
    (∀ fault, (cache.compile config.settings host registry source).outcome = .error fault ↔
      tokenize source = .error fault) ∧
    ∀ t, (cache.compile config.settings host registry source).outcome = .ok t →
      ∀ (later : Cache) (bound : Registry), later.Reached config.settings host →
        ∃ again, (later.compile config.settings host bound t.compiled).outcome = .ok again ∧
          again.words = [] ∧ again.compiled = t.compiled ∧ again.tokens = t.tokens := by
  cases hread : tokenize source with
  | error fault =>
    have houtcome : (cache.compile config.settings host registry source).outcome =
        .error fault := by
      rw [(hcache.holds hknows).outcome (fun _ => config.usable hconfig hname) htokenizes hknows,
        Template.ofSource_snd, hread]
      rfl
    rw [houtcome]
    exact ⟨fun _ => by rw [Except.error.injEq, Except.error.injEq], nofun⟩
  | ok ts =>
    obtain ⟨row, htext, hrow, rfl⟩ := tokenize_eq_ok_iff.mp hread
    obtain ⟨t, houtcome, hcompiled, htokens⟩ :=
      outcome_textOf hconfig hname hword htokenizes hknows hcache registry htext hrow
    rw [houtcome]
    refine ⟨fun fault => ⟨nofun, nofun⟩, ?_⟩
    rintro _ ⟨⟩ later bound hlater
    have hrespelled : Readable true [] (respell known registry name row) :=
      hrow.respell (begins_of_isCommandWord hword)
    have hnone := @elementWords_respell known registry name hcommand row .start 0
    have hagaintext : textOf (respell known registry name row) = t.compiled.toList := by
      rw [hcompiled, String.toList_ofList]
    obtain ⟨again, hagain, hcompiled', htokens'⟩ := outcome_textOf hconfig hname hword htokenizes
      hknows hlater bound hagaintext hrespelled
    rw [respell_eq_self hnone] at hcompiled' htokens'
    refine ⟨again, hagain, ?_, by rw [hcompiled', hcompiled], by rw [htokens', htokens]⟩
    rw [(hlater.holds hknows).outcome (fun _ => config.usable hconfig hname) htokenizes
      hknows] at hagain
    rw [Template.words_eq (hcompiled ▸ tokenize_textOf hrespelled) hagain, hnone]

/-- A bound prefix whose URI holds an apostrophe and a newline. -/
theorem compile_total_idempotent_apostrophe :
    ∃ t again, (Cache.empty.compile ({} : CompilerConfig).settings
        ⟨true, some fun _ => false, none⟩ ⟨[("p", "it's\n")]⟩ "p:a 'x'").outcome = .ok t ∧
      (Cache.empty.compile ({} : CompilerConfig).settings
        ⟨true, some fun _ => false, none⟩ .empty t.compiled).outcome = .ok again ∧
      again.words = [] ∧ again.compiled = t.compiled := by
  have hread : ∃ ts, tokenize "p:a 'x'" = .ok ts := ⟨_, rfl⟩
  obtain ⟨hfails, hagain⟩ := @compile_total_idempotent {} rfl _ rfl ⟨_, rfl, rfl, rfl⟩
    ⟨true, some fun _ => false, none⟩ rfl _ rfl (.inl (by decide)) _ .empty ⟨[("p", "it's\n")]⟩
    "p:a 'x'"
  cases houtcome : (Cache.empty.compile ({} : CompilerConfig).settings
      ⟨true, some fun _ => false, none⟩ ⟨[("p", "it's\n")]⟩ "p:a 'x'").outcome with
  | error fault =>
    obtain ⟨ts, hts⟩ := hread
    rw [(hfails fault).mp houtcome] at hts
    cases hts
  | ok t =>
    obtain ⟨again, hcompiled, hwords, hsame, -⟩ := hagain t houtcome .empty .empty .empty
    exact ⟨t, again, rfl, hcompiled, hwords, hsame⟩

end TagScript
