import TagScript.Proofs.Template.Caching

/-!
# The tokens of compiled text

Rewriting puts a constructor call in the place of each element word. The tokens of the compiled text
are then those of the text as written, with two tokens for each element word, if no element word is
directly followed by an apostrophe: a literal and a string in apostrophes right behind it are one
string.

* `Token.Face` — what a token is, wherever it stands.
* `Parted` — a row in which no element word is directly followed by an apostrophe.
* `faces_respell_iff` — the tokens of a respelled row are the expected ones exactly if it is parted.
* **`compile_tokens_iff`** — the same for what a request for a template yields.
-/

namespace TagScript

/-- What a token is, wherever it stands. -/
structure Token.Face where
  /-- What it is. -/
  kind : TokenKind
  /-- The characters it consists of. -/
  text : String
  /-- The number of brace groups around it. -/
  depth : Int
  deriving Repr, DecidableEq

/-- What a token is, wherever it stands. -/
def Token.face (t : Token) : Face :=
  ⟨t.kind, t.text, t.depth⟩

/-- The tokens expected for a token: for an element word outside of all brace groups the constructor
and the literal with the resolved name, for any other token itself. -/
def Token.spelledOut (known : String → Bool) (registry : Registry) (name : String) (t : Token) :
    List Face :=
  if t.depth == 0 && t.isElementWord known then
    [⟨.command, name, 0⟩, ⟨.string, Text.literal (registry.spelled t.text), 0⟩]
  else [t.face]

/-- Whether a text is read as one command word. -/
def IsCommandWord (name : String) : Prop :=
  ∃ t, tokenize name = .ok [t] ∧ t.kind = .command ∧ t.text = name

namespace Lexer

variable {known : String → Bool} {registry : Registry} {name : String}

/-- The face of a stretch that is a token. -/
def Stretch.face? : Stretch → Option Token.Face
  | .blank _ => none
  | .token kind text depth => some ⟨kind, String.ofList text, depth⟩

@[simp] theorem filterMap_face?_blank (c : Char) (row : List Stretch) :
    (Stretch.blank c :: row).filterMap Stretch.face? = row.filterMap Stretch.face? := rfl

@[simp] theorem filterMap_face?_token (kind : TokenKind) (text : List Char) (depth : Nat)
    (row : List Stretch) :
    (Stretch.token kind text depth :: row).filterMap Stretch.face? =
      ⟨kind, String.ofList text, depth⟩ :: row.filterMap Stretch.face? := rfl

theorem map_face_tokensAt (pos : Position) (offset : Nat) (row : List Stretch) :
    (tokensAt pos offset row).map Token.face = row.filterMap Stretch.face? := by
  induction row generalizing pos offset with
  | nil => rfl
  | cons s row ih =>
    cases s with
    | blank c => exact ih ..
    | token kind text depth =>
      rw [tokensAt, List.map_cons, ih]
      rfl

theorem length_text_le {pos : Position} {offset : Nat} {row : List Stretch} {t : Token}
    (h : t ∈ tokensAt pos offset row) : t.text.toList.length ≤ (textOf row).length := by
  induction row generalizing pos offset with
  | nil => cases h
  | cons s row ih =>
    cases s with
    | blank c => exact Nat.le_succ_of_le (ih h)
    | token kind text depth =>
      rw [textOf_token, List.length_append]
      rcases List.mem_cons.mp h with rfl | h
      · simp
      · exact Nat.le_trans (ih h) (Nat.le_add_left ..)

/-- A command word that is a text of its own is read off its text. -/
theorem begins_of_isCommandWord (h : IsCommandWord name) :
    Begins true .command name.toList [] := by
  obtain ⟨t, hread, hkind, htext⟩ := h
  obtain ⟨row, hrow, hreadable, htokens⟩ := tokenize_eq_ok_iff.mp hread
  cases row with
  | nil => cases htokens
  | cons s row =>
    cases s with
    | blank c =>
      have hmem : t ∈ tokensAt (Position.start.advance c) 1 row := by
        rw [show tokensAt (Position.start.advance c) 1 row = [t] from htokens]
        exact List.mem_singleton.mpr rfl
      have hle := length_text_le hmem
      rw [htext, ← hrow, textOf_blank, List.length_cons] at hle
      omega
    | token kind text depth =>
      obtain ⟨rfl, -⟩ := List.cons.inj htokens
      obtain ⟨hbegins, -⟩ := hreadable
      dsimp only at hkind htext
      subst hkind
      have hnil : textOf row = [] := by
        rw [← htext, textOf_token, String.toList_ofList] at hrow
        exact List.append_right_eq_self.mp hrow
      rw [hnil] at hbegins
      rw [← htext, String.toList_ofList]
      exact hbegins

/-! ## Which rows keep their tokens -/

/-- Whether no element word of a row is directly followed by an apostrophe. -/
def Parted (known : String → Bool) : List Stretch → Prop
  | [] => True
  | s :: row =>
    (s.isElementWord known = true → (textOf row).head? ≠ some '\'') ∧ Parted known row

theorem spelledOut_word {text : List Char}
    (h : (Stretch.token .command text 0).isElementWord known = true) (pos : Position)
    (length offset : Nat) :
    (Token.mk .command (String.ofList text) pos length (0 : Nat) offset).spelledOut known registry
        name = [⟨.command, name, 0⟩, ⟨.string, String.ofList (literalOf registry text), 0⟩] := by
  rw [literalOf, String.ofList_toList]
  exact if_pos ((isElementWord_token ..).trans h)

theorem spelledOut_other {kind : TokenKind} {text : List Char} {depth : Nat}
    (h : (Stretch.token kind text depth).isElementWord known = false) (pos : Position)
    (length offset : Nat) :
    (Token.mk kind (String.ofList text) pos length depth offset).spelledOut known registry name =
      [⟨kind, String.ofList text, depth⟩] :=
  if_neg (ne_true_of_eq_false ((isElementWord_token ..).trans h))

theorem length_faces_joinLiteral_le (literal : List Char) (row : List Stretch) :
    ((joinLiteral literal row).filterMap Stretch.face?).length ≤
      (row.filterMap Stretch.face?).length + 1 := by
  unfold joinLiteral
  split <;> simp

/-- A respelled row has no more tokens than expected. -/
theorem length_faces_respell_le (pos : Position) (offset : Nat) (row : List Stretch) :
    ((respell known registry name row).filterMap Stretch.face?).length ≤
      ((tokensAt pos offset row).flatMap (Token.spelledOut known registry name)).length := by
  induction row generalizing pos offset with
  | nil => simp
  | cons s row ih =>
    cases s with
    | blank c => exact ih ..
    | token kind text depth =>
      have hrow := ih (pos.advanceAll text) (offset + text.length)
      rw [tokensAt, List.flatMap_cons, List.length_append]
      cases hw : (Stretch.token kind text depth).isElementWord known with
      | false =>
        rw [respell_other hw, spelledOut_other hw]
        simp only [filterMap_face?_token, List.length_cons, List.length_nil]
        omega
      | true =>
        obtain ⟨_, heq⟩ := Stretch.eq_of_isElementWord hw
        cases heq
        have hjoin := length_faces_joinLiteral_le (literalOf registry text)
          (respell known registry name row)
        rw [respell_word hw, spelledOut_word hw]
        simp only [filterMap_face?_token, filterMap_face?_blank, List.length_cons, List.length_nil,
          Stretch.chars]
        omega

/-- **The tokens of a respelled row are the expected ones exactly if the row is parted.** Where a
literal goes on with a string, a token is lost, and no other token makes up for it. -/
theorem faces_respell_iff {commandNext : Bool} {opened : List Char} {row : List Stretch}
    (h : Readable commandNext opened row) (pos : Position) (offset : Nat) :
    (respell known registry name row).filterMap Stretch.face? =
      (tokensAt pos offset row).flatMap (Token.spelledOut known registry name) ↔
        Parted known row := by
  induction row generalizing commandNext opened pos offset with
  | nil => simp [tokensAt, Parted]
  | cons s row ih =>
    cases s with
    | blank c =>
      have hblank : (Stretch.blank c).isElementWord known = false := rfl
      simpa [tokensAt, Parted, hblank] using ih h.2 (pos.advance c) (offset + 1)
    | token kind text depth =>
      obtain ⟨hbegins, inner, hnest, hrow⟩ := h
      have hih := ih hrow (pos.advanceAll text) (offset + text.length)
      rw [tokensAt, List.flatMap_cons, Parted]
      cases hw : (Stretch.token kind text depth).isElementWord known with
      | false =>
        rw [respell_other hw, spelledOut_other hw]
        simpa using hih
      | true =>
        obtain ⟨_, heq⟩ := Stretch.eq_of_isElementWord hw
        cases heq
        rw [respell_word hw, spelledOut_word hw]
        by_cases hhead : (textOf row).head? = some '\''
        · obtain ⟨cs, d, more, rfl⟩ := hrow.exists_string hhead
          have hle := @length_faces_respell_le known registry name (pos.advanceAll text)
            (offset + text.length) (.token .string ('\'' :: cs) d :: more)
          have hstring : (Stretch.token .string ('\'' :: cs) d).isElementWord known = false := by
            simp [Stretch.isElementWord]
          rw [respell_other hstring] at hle ⊢
          refine iff_of_false (fun heq => ?_) (fun hparted => hparted.1 rfl hhead)
          have hlength := congrArg List.length heq
          simp only [joinLiteral, filterMap_face?_token, filterMap_face?_blank, List.cons_append,
            List.nil_append, List.length_cons] at hlength hle
          omega
        · have hbehind : (textOf (respell known registry name row)).head? ≠ some '\'' := by
            rwa [← (alike_respell hrow).1]
          rw [joinLiteral_of_head hbehind]
          simpa [Stretch.chars, hhead] using hih

theorem getElem?_behind (before text after : List Char) :
    (before ++ (text ++ after))[before.length + text.length]? = after.head? := by
  rw [← List.append_assoc, ← List.length_append, List.getElem?_append_right (Nat.le_refl _),
    Nat.sub_self, List.head?_eq_getElem?]

/-- Whether a row is parted is seen at the characters behind its element words. -/
theorem parted_iff (pos : Position) (before : List Char) (row : List Stretch) :
    Parted known row ↔ ∀ w ∈ Token.elementWords known true (tokensAt pos before.length row),
      (before ++ textOf row)[w.offset + w.length]? ≠ some '\'' := by
  induction row generalizing pos before with
  | nil => simp [Parted, tokensAt, Token.elementWords]
  | cons s row ih =>
    have hrow := ih (pos.advanceAll s.chars) (before ++ s.chars)
    rw [List.append_assoc, ← textOf_cons, List.length_append] at hrow
    cases s with
    | blank c =>
      have hblank : (Stretch.blank c).isElementWord known = false := rfl
      rw [Parted, hrow, hblank]
      simp [elementWords_blank, Stretch.chars]
    | token kind text depth =>
      rw [Parted, hrow]
      cases hw : (Stretch.token kind text depth).isElementWord known with
      | false =>
        rw [elementWords_other hw]
        simp [Stretch.chars]
      | true =>
        obtain ⟨_, heq⟩ := Stretch.eq_of_isElementWord hw
        cases heq
        rw [elementWords_word hw, List.forall_mem_cons, textOf_token, getElem?_behind]
        simp [Stretch.chars]

end Lexer

/-! ## What a request yields -/

open Lexer

/-- What a request for the template of a text that is read comes to, by the row of the text. -/
theorem outcome_textOf {config : CompilerConfig} (hconfig : config.check = .ok ()) {name : String}
    (hname : config.elementConstructor = .str name) (hword : IsCommandWord name)
    {host : CompilerHost} (htokenizes : host.tokenizes = true) {known : String → Bool}
    (hknows : host.knows = some known) {cache : Cache}
    (hcache : cache.Reached config.settings host) (registry : Registry) {source : String}
    {row : List Stretch} (htext : textOf row = source.toList) (h : Readable true [] row) :
    ∃ t, (cache.compile config.settings host registry source).outcome = .ok t ∧
      t.compiled = String.ofList (textOf (respell known registry name row)) ∧
      t.tokens = tokensAt .start 0 (respell known registry name row) := by
  have hplain : config.settings.constructor.word = name := by
    simp [CompilerConfig.settings, hname, Json.plain]
  have hbegins := begins_of_isCommandWord (hplain ▸ hword)
  rw [(hcache.holds hknows).outcome (fun _ => config.usable hconfig hname) htokenizes hknows,
    ← hplain]
  exact ofSource_textOf hbegins htext h

/-- **The tokens of compiled text are the expected ones exactly if no element word is directly
followed by an apostrophe.** They are the tokens of the text as written, in order, with two tokens
for each element word outside of all brace groups. -/
theorem compile_tokens_iff {config : CompilerConfig} (hconfig : config.check = .ok ())
    {name : String} (hname : config.elementConstructor = .str name) (hword : IsCommandWord name)
    {host : CompilerHost} (htokenizes : host.tokenizes = true) {known : String → Bool}
    (hknows : host.knows = some known) {cache : Cache}
    (hcache : cache.Reached config.settings host) (registry : Registry) {source : String}
    {ts : List Token} (h : tokenize source = .ok ts) :
    ∃ t, (cache.compile config.settings host registry source).outcome = .ok t ∧
      tokenize t.compiled = .ok t.tokens ∧
      (t.tokens.map Token.face = ts.flatMap (Token.spelledOut known registry name) ↔
        ∀ w ∈ Token.elementWords known true ts,
          source.toList[w.offset + w.length]? ≠ some '\'') := by
  obtain ⟨row, htext, hrow, rfl⟩ := tokenize_eq_ok_iff.mp h
  obtain ⟨t, houtcome, hcompiled, htokens⟩ :=
    outcome_textOf hconfig hname hword htokenizes hknows hcache registry htext hrow
  refine ⟨t, houtcome, ?_, ?_⟩
  · rw [hcompiled, htokens]
    exact tokenize_textOf (hrow.respell (begins_of_isCommandWord hword))
  · rw [htokens, map_face_tokensAt, faces_respell_iff hrow, ← htext]
    exact parted_iff .start [] row

theorem compile_tokens_blank :
    ∃ t, (Cache.empty.compile ({} : CompilerConfig).settings
        ⟨true, some fun _ => false, none⟩ .empty "a 'x'").outcome = .ok t ∧
      t.tokens.map Token.face =
        [⟨.command, "New-XElement", 0⟩, ⟨.string, "'a'", 0⟩, ⟨.string, "'x'", 0⟩] := by
  have hread : tokenize "a 'x'" =
      .ok [⟨.command, "a", ⟨1, 1⟩, 1, 0, 0⟩, ⟨.string, "'x'", ⟨1, 3⟩, 3, 0, 2⟩] := rfl
  obtain ⟨t, houtcome, -, hiff⟩ := @compile_tokens_iff {} rfl _ rfl ⟨_, rfl, rfl, rfl⟩
    ⟨true, some fun _ => false, none⟩ rfl _ rfl _ .empty .empty _ _ hread
  exact ⟨t, houtcome, (hiff.mpr (by decide)).trans (by decide)⟩

/-- A word and a string in apostrophes with nothing between them. -/
theorem compile_joins_string :
    ∃ ts t, tokenize "a'x'" = .ok ts ∧
      (Cache.empty.compile ({} : CompilerConfig).settings ⟨true, some fun _ => false, none⟩ .empty
        "a'x'").outcome = .ok t ∧
      t.tokens.map Token.face ≠
        ts.flatMap (Token.spelledOut (fun _ => false) .empty "New-XElement") := by
  let row : List Stretch := [.token .command ['a'] 0, .token .string ['\'', 'x', '\''] 0]
  have hrow : Readable true [] row :=
    ⟨⟨'a', [], rfl, rfl⟩, [], rfl, ⟨'\'', ['x', '\''], rfl, rfl⟩, [], rfl, rfl⟩
  obtain ⟨t, houtcome, -, htokens⟩ := @outcome_textOf {} rfl _ rfl ⟨_, rfl, rfl, rfl⟩
    ⟨true, some fun _ => false, none⟩ rfl _ rfl _ .empty .empty "a'x'" row rfl hrow
  refine ⟨tokensAt .start 0 row, t, tokenize_textOf hrow, houtcome, ?_⟩
  rw [htokens]
  decide

end TagScript
