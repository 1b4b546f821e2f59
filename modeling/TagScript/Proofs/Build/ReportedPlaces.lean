import TagScript.Json.Writer
import TagScript.Proofs.Build.Complaints
import TagScript.Proofs.Build.RegimeScripts
import TagScript.Proofs.Build.ReportedWords
import TagScript.Proofs.Template.MovedTokens

/-!
# The places of complaints

The statements of a block are made of the tokens of its compiled text, and these keep the places that
they have there. So a complaint about a token tells where the token stands in compiled text, which is
not where its author wrote it if constructor calls stand before it on the line.

* `Script.blameOnly_ofTokens` — what is wrong with the statements of a text is wrong with its tokens.
* `Token.Blamed.tells_iff` — a complaint about a token tells the place of the token.
* `Token.Blamed.isCopied` — rewriting never puts in a token that can be blamed.
* **`Build.complaint_place_iff`** — where a complaint is placed, and when that is where the token
  stands in the source.
-/

namespace TagScript

open Script

/-! ## Statements blame their tokens -/

section

variable (env : BuildEnv) (T : Token → Prop)

/-- Whether all that can be wrong with an atom is wrong with one of some tokens. -/
def Script.Atom.BlamesOnly : Atom → Prop
  | .token t => T t
  | .bracketed o => o.BlamesOnly env T

/-- Whether it is so with an operand or a comma. -/
def Script.Piece.BlamesOnly : Piece → Prop
  | .operand o => o.BlamesOnly env T
  | .comma t => T t ∧ t.kind = .comma

end

namespace Script

variable {env : BuildEnv} {T : Token → Prop}

theorem blamesOnly_number (text : String) : (number text).BlamesOnly env T := by
  fun_cases number text with
  | case1 | case4 => trivial
  | _ => exact fun hplaced => absurd hplaced id

/-- A token alone can only be blamed itself. -/
theorem blamesOnly_word {t : Token} (ht : T t) : (word t).BlamesOnly env T := by
  have hstring (hkind : t.kind = .string) : (word t).BlamesOnly env T := by
    have hword : word t = quotedString t := by rw [word, hkind]
    rw [hword]
    unfold quotedString at hword ⊢
    split at hword
    · trivial
    · exact ⟨t, ht, rfl, hword⟩
  have hvariable (hkind : t.kind = .variable) : (word t).BlamesOnly env T := by
    have hword : word t = variableWithMembers t := by rw [word, hkind]
    rw [hword]
    unfold variableWithMembers at hword ⊢
    split at hword
    · exact ⟨t, ht, rfl, hword⟩
    · exact ⟨t, ht, rfl, hword⟩
  cases hkind : t.kind with
  | string => exact hstring hkind
  | «variable» => exact hvariable hkind
  | number =>
    rw [word, hkind]
    exact blamesOnly_number t.text
  | argument | parameter | command =>
    rw [word, hkind]
    trivial
  | _ =>
    have hword : word t = .faulty (.badSyntax (.unexpectedToken t.text) t.pos) := by
      rw [word, hkind]
    rw [hword]
    exact fun _ => ⟨t, ht, .unexpected hword⟩

theorem blamesOnly_castNext {t : Token} (ht : T t) (hkind : t.kind = .cast) {ps : List Piece}
    (hps : ∀ p ∈ ps, p.BlamesOnly env T) : ∀ p ∈ castNext t ps, p.BlamesOnly env T := by
  unfold castNext
  split
  · obtain ⟨ho, hrest⟩ := List.forall_mem_cons.mp hps
    exact List.forall_mem_cons.mpr ⟨⟨⟨ht, hkind⟩, ho⟩, hrest⟩
  · exact List.forall_mem_cons.mpr ⟨fun _ => ⟨t, ht, .missingOperand (.inl hkind) _⟩, hps⟩

theorem blamesOnly_pieces {row : List Atom} (hrow : ∀ a ∈ row, a.BlamesOnly env T) :
    ∀ p ∈ pieces row, p.BlamesOnly env T := by
  induction row with
  | nil => exact List.forall_mem_nil _
  | cons a row ih =>
    obtain ⟨ha, hrow⟩ := List.forall_mem_cons.mp hrow
    have hrest := ih hrow
    cases a with
    | bracketed o => exact List.forall_mem_cons.mpr ⟨ha, hrest⟩
    | token t =>
      rw [pieces]
      split
      · rename_i hkind
        exact List.forall_mem_cons.mpr ⟨⟨ha, hkind⟩, hrest⟩
      · rename_i hkind
        exact blamesOnly_castNext ha hkind hrest
      · exact List.forall_mem_cons.mpr ⟨blamesOnly_word ha, hrest⟩

theorem blameOnly_rows {ps : List Piece} (hps : ∀ p ∈ ps, p.BlamesOnly env T) :
    Operand.RowsBlameOnly env T (rows ps) := by
  fun_induction rows ps with
  | case1 => trivial
  | case2 t rest ih =>
    obtain ⟨⟨ht, hkind⟩, hrest⟩ := List.forall_mem_cons.mp hps
    have hword : word t = .faulty (.badSyntax (.unexpectedToken t.text) t.pos) := by
      rw [word, hkind]
    exact ⟨⟨fun _ => ⟨t, ht, .unexpected hword⟩, trivial⟩, ih hrest⟩
  | case3 o t rest _ _ =>
    obtain ⟨ho, hrest⟩ := List.forall_mem_cons.mp hps
    obtain ⟨⟨ht, hkind⟩, -⟩ := List.forall_mem_cons.mp hrest
    exact ⟨⟨ho, fun _ => ⟨t, ht, .missingOperand (.inr hkind) _⟩, trivial⟩, trivial⟩
  | case4 o t rest row more hrows ih =>
    obtain ⟨ho, hrest⟩ := List.forall_mem_cons.mp hps
    have hmore := ih (List.forall_mem_cons.mp hrest).2
    rw [hrows] at hmore
    exact ⟨⟨ho, hmore.1⟩, hmore.2⟩
  | case5 o rest _ ih =>
    obtain ⟨ho, hrest⟩ := List.forall_mem_cons.mp hps
    exact ⟨⟨ho, trivial⟩, ih hrest⟩

theorem blamesOnly_statement {row : List Atom} (hrow : ∀ a ∈ row, a.BlamesOnly env T) :
    (statement row).BlamesOnly env T := by
  unfold statement
  split
  · split
    · exact blameOnly_rows (blamesOnly_pieces (List.forall_mem_cons.mp hrow).2)
    · exact blameOnly_rows (blamesOnly_pieces hrow)
  · exact blameOnly_rows (blamesOnly_pieces hrow)

theorem blameOnly_statements {row : List Atom} (hrow : ∀ a ∈ row, a.BlamesOnly env T) :
    Statement.BlameOnly env T (statements row) := by
  have hcut : ∀ s ∈ cut [] row, ∀ a ∈ s, a.BlamesOnly env T := fun s hs a ha =>
    hrow a ((Regime.mem_of_mem_cut hs ha).resolve_left List.not_mem_nil)
  unfold statements
  generalize cut [] row = ss at hcut
  induction ss with
  | nil => trivial
  | cons s ss ih =>
    obtain ⟨hs, hss⟩ := List.forall_mem_cons.mp hcut
    exact ⟨blamesOnly_statement hs, ih hss⟩

mutual

/-- In a nest its tokens can be blamed. -/
theorem blamesOnly_atom (source : List Char) : ∀ n : Nest, (∀ t ∈ n.tokens, T t) →
    (atom source n).BlamesOnly env T
  | .token t, h => h t (List.mem_singleton.mpr rfl)
  | .bracket opener inner closer, h => by
    rw [atom]
    split
    · trivial
    · exact blameOnly_statements (blamesOnly_atoms source inner fun t ht =>
        h t (List.mem_cons_of_mem opener (List.mem_append_left [closer] ht)))

/-- In a row of nests their tokens can be blamed. -/
theorem blamesOnly_atoms (source : List Char) : ∀ ns : List Nest,
    (∀ t ∈ Nest.tokensOfAll ns, T t) → ∀ a ∈ atoms source ns, a.BlamesOnly env T
  | [], _ => List.forall_mem_nil _
  | n :: ns, h => by
    rw [Nest.tokensOfAll] at h
    obtain ⟨hn, hns⟩ := List.forall_mem_append.mp h
    rw [atoms]
    exact List.forall_mem_cons.mpr ⟨blamesOnly_atom source n hn, blamesOnly_atoms source ns hns⟩

end

/-- **What is wrong with the statements of a text is wrong with its tokens.** -/
theorem blameOnly_ofTokens (source : String) (ts : List Token) :
    Statement.BlameOnly env (· ∈ ts) (ofTokens source ts) := by
  unfold ofTokens
  split
  · rename_i nests hnests
    obtain ⟨htokens, -⟩ := Nest.read_spec hnests
    exact blameOnly_statements (blamesOnly_atoms source.toList nests fun t ht =>
      (List.mem_filter.mp (htokens ▸ ht)).1)
  · trivial

end Script

/-! ## Blamed tokens -/

namespace Token

/-- A token that is no constant was not put in by rewriting. -/
theorem isCopied_of_word {t : Token} (h : ∀ v, word t ≠ .constant v) : t.IsCopied := by
  constructor
  · intro hkind
    exact h (.str t.text) (by rw [word, hkind])
  · rintro ⟨hkind, hhead⟩
    obtain ⟨cs, hcs⟩ := List.head?_eq_some_iff.mp hhead
    have hquoted : word t = quotedString t := by rw [word, hkind]
    rw [quotedString, hcs] at hquoted
    exact h _ hquoted

/-- Neither was one that is neither a command word nor a string. -/
theorem isCopied_of_kind {t : Token} (hcommand : t.kind ≠ .command) (hstring : t.kind ≠ .string) :
    t.IsCopied :=
  ⟨hcommand, fun ⟨h, _⟩ => hstring h⟩

namespace Blamed

variable {env : BuildEnv} {t : Token} {c : Complaint}

/-- A token that can be blamed was not put in by rewriting. -/
theorem isCopied (h : t.Blamed env c) : t.IsCopied := by
  have hcast (hkind : t.kind = .cast) : t.IsCopied :=
    isCopied_of_kind (hkind ▸ TokenKind.noConfusion) (hkind ▸ TokenKind.noConfusion)
  cases h with
  | undefined hreads =>
    refine isCopied_of_word fun v hword => ?_
    rw [hword] at hreads
    exact hreads
  | unterminated hstring => exact isCopied_of_word fun v hword => nomatch hword.symm.trans hstring
  | unknownType hkind => exact hcast hkind
  | refusedCast hkind => exact hcast hkind
  | missingOperand hkind =>
    rcases hkind with hkind | hkind
    · exact hcast hkind
    · exact isCopied_of_kind (hkind ▸ TokenKind.noConfusion) (hkind ▸ TokenKind.noConfusion)
  | unexpected hfaulty => exact isCopied_of_word fun v hword => nomatch hword.symm.trans hfaulty

/-- **A complaint about a token tells the place of the token**, and no other. -/
theorem tells_iff (h : t.Blamed env c) {pos : Position} : c.Tells pos ↔ t.pos = pos := by
  cases h with
  | undefined => exact Position.fields_inj
  | _ => exact Iff.rfl

end Blamed

end Token

/-! ## Places in the source -/

namespace Build

/-- **Where a complaint is placed.** While the statements of a block run, a complaint that tells a
place is made by a command that they invoke, by whoever takes their values, or it is about a token of
the source. The place told is then the one in which this token stands in compiled text. It is the
place of the token in the source exactly if the constructor calls before it keep it. -/
theorem complaint_place_iff {config : CompilerConfig} (hconfig : config.check = .ok ())
    {name : String} (hname : config.elementConstructor = .str name) (hword : IsCommandWord name)
    {host : CompilerHost} (htokenizes : host.tokenizes = true) {known : String → Bool}
    (hknows : host.knows = some known) {cache : Cache}
    (hcache : cache.Reached config.settings host) (registry : Registry) {source : String}
    {ts : List Token} (h : tokenize source = .ok ts) :
    ∃ t, (cache.compile config.settings host registry source).outcome = .ok t ∧
      ∀ {σ : Type} (E : Engine) (env : BuildEnv) (scope : ScopeId) (kind : String)
        (consume : σ → List Value → Build σ) (yielded : Nat) (acc : σ) (s : BuildState)
        (c : Complaint),
        c.IsPlaced →
        Raises (drain E env scope kind consume ((ofTemplate t).map .statement) yielded acc) s c →
          Delegated E env scope consume (.block (ofTemplate t) acc) s c ∨
          ∃ u ∈ ts, ∃ moved ∈ t.tokens, moved.face = u.face ∧ moved.Blamed env c ∧
            c.Tells (u.compiledPos known registry name source.toList ts) ∧
            (c.Tells u.pos ↔ KeepsPlace registry name (u.wordsBefore known ts) u.pos.line) := by
  obtain ⟨row, htext, hrow, rfl⟩ := Lexer.tokenize_eq_ok_iff.mp h
  obtain ⟨t, houtcome, hcompiled, htokens⟩ :=
    outcome_textOf hconfig hname hword htokenizes hknows hcache registry htext hrow
  refine ⟨t, houtcome, ?_⟩
  intro σ E env scope kind consume yielded acc s c hplaced hraises
  have hblame : Statement.BlameOnly env (· ∈ t.tokens) (ofTemplate t) :=
    blameOnly_ofTokens t.compiled t.tokens
  refine (answers_drain hblame c hraises hplaced).imp_right ?_
  rintro ⟨moved, hmoved, hblamed⟩
  have hnewline : '\n' ∉ name.toList := (Lexer.begins_of_isCommandWord hword).newline_not_mem
  obtain ⟨u, hu, hface, hpos, hkeeps⟩ :=
    Lexer.exists_source_of_mem hrow hnewline (htokens ▸ hmoved) hblamed.isCopied
  refine ⟨u, hu, moved, hmoved, hface.symm, hblamed, ?_, ?_⟩
  · rw [hblamed.tells_iff, hpos, htext]
  · rw [hblamed.tells_iff]
    exact hkeeps

/-- A variable behind an element word is reported behind the call of the word. -/
theorem complaint_place_iff_variable :
    ∃ t c, (Cache.empty.compile ({} : CompilerConfig).settings ⟨true, some fun _ => false, none⟩
        .empty "a $x").outcome = .ok t ∧ c.IsPlaced ∧
      Raises (drain (engine plainEnv nestingBound) plainEnv 0 "ScriptBlock"
        (fun acc vs => pure (acc ++ vs)) ((ofTemplate t).map .statement) 0 ([] : List Value))
        plainState c ∧
      (Delegated (engine plainEnv nestingBound) plainEnv 0 (fun acc vs => pure (acc ++ vs))
          (.block (ofTemplate t) ([] : List Value)) plainState c ∨
        c.Tells ⟨1, 18⟩ ∧ ¬ c.Tells ⟨1, 3⟩) := by
  have hread : tokenize "a $x" =
      .ok [⟨.command, "a", ⟨1, 1⟩, 1, 0, 0⟩, ⟨.variable, "$x", ⟨1, 3⟩, 2, 0, 2⟩] := rfl
  obtain ⟨t, houtcome, hall⟩ := @complaint_place_iff {} rfl _ rfl ⟨_, rfl, rfl, rfl⟩
    ⟨true, some fun _ => false, none⟩ rfl _ rfl _ .empty .empty _ _ hread
  have hcodes : (Cache.empty.compile ({} : CompilerConfig).settings
      ⟨true, some fun _ => false, none⟩ .empty "a $x").outcome.toOption.map (fun t =>
        (drain (engine plainEnv nestingBound) plainEnv 0 "ScriptBlock"
          (fun acc vs => pure (acc ++ vs)) ((ofTemplate t).map .statement) 0 ([] : List Value)
            plainState).2.diagnostics.toList.map Diagnostic.code) = some [.undefinedVariable] := by
    decide +kernel
  rw [houtcome] at hcodes
  obtain ⟨r, hr, hcode⟩ := List.mem_map.mp
    (Option.some.inj hcodes ▸ List.mem_singleton_self DiagnosticCode.undefinedVariable)
  have hplaced : (Complaint.reported r).IsPlaced := hcode
  have hraises : Raises (drain (engine plainEnv nestingBound) plainEnv 0 "ScriptBlock"
      (fun acc vs => pure (acc ++ vs)) ((ofTemplate t).map .statement) 0 ([] : List Value))
        plainState (.reported r) := ⟨Array.mem_toList_iff.mp hr, Array.not_mem_empty r⟩
  refine ⟨t, .reported r, houtcome, hplaced, hraises, ?_⟩
  refine (hall _ _ _ _ _ _ _ _ _ hplaced hraises).imp_right ?_
  rintro ⟨u, hu, moved, -, hface, hblamed, htells, hkeeps⟩
  rcases List.mem_pair.mp hu with rfl | rfl
  · exact absurd (congrArg Token.Face.kind hface) hblamed.isCopied.1
  · exact ⟨htells, fun h => absurd (hkeeps.mp h) (by decide)⟩

/-- The constructor call of the word before it moves a variable along its line. -/
theorem undefined_variable_misplaced :
    let request : DocumentRequest := { root := .str "r", content := .str "a $x" }
    ∃ ts d r, tokenize "a $x" = .ok ts ∧ buildDocument {} stoppedClock request = .ok d ∧
      r ∈ d.diagnostics ∧ r.code = .undefinedVariable ∧
      ∀ u ∈ ts, u.text = "$x" → ¬ (Complaint.reported r).Tells u.pos := by
  intro request
  have hread : tokenize "a $x" =
      .ok [⟨.command, "a", ⟨1, 1⟩, 1, 0, 0⟩, ⟨.variable, "$x", ⟨1, 3⟩, 2, 0, 2⟩] := rfl
  have hbuilt : (buildDocument {} stoppedClock request).toOption.map (fun d =>
      d.diagnostics.map fun r => (r.code, r.position.map fun field => field.2.write none)) =
        some [(.undefinedVariable, ["1", "18"])] := by
    rw [buildDocument_plain rfl]
    decide +kernel
  cases hd : buildDocument {} stoppedClock request with
  | error fault =>
    rw [hd] at hbuilt
    cases hbuilt
  | ok d =>
    rw [hd] at hbuilt
    obtain ⟨r, hr, heq⟩ := List.mem_map.mp (Option.some.inj hbuilt ▸ List.mem_singleton_self _)
    obtain ⟨hcode, hplace⟩ := Prod.mk.inj heq
    refine ⟨_, d, r, hread, rfl, hr, hcode, fun u hu htext htells => ?_⟩
    rcases List.mem_pair.mp hu with rfl | rfl
    · exact absurd htext (by decide)
    · rw [show r.position = _ from htells] at hplace
      exact absurd hplace (by decide)

end Build

end TagScript
