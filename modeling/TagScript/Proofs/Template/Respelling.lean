import TagScript.Proofs.Template.Splicing
import TagScript.Proofs.Token.Lookahead
import TagScript.Template

/-!
# Respelled rows

Rewriting works on lines and columns of a text. Here it is described on the stretches of the text.

* `respell` — the row in which each element word is a call of the constructor. The literal of a call
  and a string in apostrophes right behind the word become one string.
* **`Readable.respell`** — a respelled row is readable again: what is put in changes no token
  around.
* `rewrite_of_perm` — words that are listed in any order are replaced in their places.
* `rewrite_textOf` — the rewritten text is the text of the respelled row.
* `ofSource_textOf` — the template of a text that is read, made from its respelled row.
-/

namespace TagScript

/-- The name of an element word in brace notation. -/
def Registry.spelled (registry : Registry) (text : String) : String :=
  match registry.resolve text with
  | .ok (name, _) => name.clark
  | .error _ => text

/-- A name that is not empty is resolved. -/
theorem Registry.exists_resolve (registry : Registry) {text : String} (h : text ≠ "") :
    ∃ name resolved, registry.resolve text = .ok (name, resolved) ∧
      registry.spelled text = name.clark := by
  have hof (uri : Option String) {s : String} (hs : s ≠ "") : ∃ name, QName.of uri s = .ok name :=
    ⟨_, if_neg hs⟩
  have hmap (uri : Option String) {s : String} (hs : s ≠ "") (resolved : Bool) :
      ∃ name b, (QName.of uri s).map (·, resolved) = .ok (name, b) := by
    obtain ⟨name, hname⟩ := hof uri hs
    exact ⟨name, resolved, by rw [hname]; rfl⟩
  have hresolve : ∃ name resolved, registry.resolve text = .ok (name, resolved) := by
    unfold Registry.resolve Registry.resolvePrefixed
    split
    · rename_i pfx localName _
      dsimp only
      cases (if pfx = "xml" then some xmlUri else registry.get? pfx) with
      | none => exact hmap none h false
      | some uri =>
        dsimp only
        split
        · exact hmap none h false
        · rename_i hlocal
          exact hmap (some uri) hlocal true
    · exact hmap _ h true
  obtain ⟨name, resolved, hr⟩ := hresolve
  exact ⟨name, resolved, hr, by rw [Registry.spelled, hr]⟩

/-- What a template is made of, apart from the events meanwhile. -/
theorem Template.ofSource_snd (known : String → Bool) (registry : Registry)
    (constructor : Constructor) (source : String) :
    (Template.ofSource known registry constructor source).2 =
      (tokenize source).bind fun ts =>
        let words := Token.elementWords known true ts
        (rewrite source words registry constructor.word).bind fun compiled =>
          (if words.isEmpty then .ok ts else tokenize compiled).bind fun tokens =>
            .ok {
              source, compiled, tokens, words, constructor
              unresolved := words.filter (isUnresolved registry)
              bindings := registry.sorted } := by
  unfold Template.ofSource tokenizeWithEvent
  cases tokenize source with
  | error f => rfl
  | ok ts =>
    simp only [Template.finish, Except.bind]
    cases rewrite source (Token.elementWords known true ts) registry constructor.word with
    | error f => rfl
    | ok compiled =>
      by_cases hempty : (Token.elementWords known true ts).isEmpty = true
      · simp only [hempty, if_true]
      · simp only [hempty, tokenizeWithEvent]
        cases tokenize compiled <;> rfl

namespace Lexer

open Text (isNameChar)

/-! ## Respelling -/

/-- Whether a stretch is an element word outside of all brace groups. -/
def Stretch.isElementWord (known : String → Bool) : Stretch → Bool
  | .blank _ => false
  | .token kind text depth =>
    depth == 0 && kind == .command && !text.contains '-' && !known (String.ofList text)

/-- A literal before a row of stretches. A string in apostrophes right behind it goes on with it. -/
def joinLiteral (literal : List Char) : List Stretch → List Stretch
  | .token .string ('\'' :: text) depth :: row =>
    .token .string (literal ++ '\'' :: text) depth :: row
  | row => .token .string literal 0 :: row

section

variable (known : String → Bool) (registry : Registry) (name : String)

/-- The literal with the resolved name of an element word. -/
def literalOf (text : List Char) : List Char :=
  (Text.literal (registry.spelled (String.ofList text))).toList

/-- The row in which each element word is a call of the constructor. -/
def respell : List Stretch → List Stretch
  | [] => []
  | s :: row =>
    if s.isElementWord known then
      .token .command name.toList 0 :: .blank ' ' ::
        joinLiteral (literalOf registry s.chars) (respell row)
    else s :: respell row

end

variable {known : String → Bool} {registry : Registry} {name : String}

@[simp] theorem respell_nil : respell known registry name [] = [] := rfl

@[simp] theorem respell_blank (c : Char) (row : List Stretch) :
    respell known registry name (.blank c :: row) = .blank c :: respell known registry name row :=
  rfl

theorem respell_word {s : Stretch} (h : s.isElementWord known = true) (row : List Stretch) :
    respell known registry name (s :: row) =
      .token .command name.toList 0 :: .blank ' ' ::
        joinLiteral (literalOf registry s.chars) (respell known registry name row) := by
  rw [respell, if_pos h]

theorem respell_other {s : Stretch} (h : s.isElementWord known = false) (row : List Stretch) :
    respell known registry name (s :: row) = s :: respell known registry name row := by
  rw [respell, if_neg (by simp [h])]

/-- Of an element word its kind and its depth are known. -/
theorem Stretch.eq_of_isElementWord {s : Stretch} (h : s.isElementWord known = true) :
    ∃ text, s = .token .command text 0 := by
  cases s with
  | blank c => cases h
  | token kind text depth =>
    simp only [Stretch.isElementWord, Bool.and_eq_true, beq_iff_eq] at h
    obtain ⟨⟨⟨rfl, rfl⟩, -⟩, -⟩ := h
    exact ⟨text, rfl⟩

@[simp] theorem textOf_joinLiteral (literal : List Char) (row : List Stretch) :
    textOf (joinLiteral literal row) = literal ++ textOf row := by
  fun_cases joinLiteral literal row <;> simp

theorem textOf_cons (s : Stretch) (row : List Stretch) :
    textOf (s :: row) = s.chars ++ textOf row := rfl

/-! ## What a character begins -/

/-- The rule by which a token is read. -/
theorem Begins.rule {commandNext : Bool} {kind : TokenKind} {c : Char} {more after : List Char}
    (h : Begins commandNext kind (c :: more) after) :
    Rule commandNext c (more ++ after) kind more.length := by
  obtain ⟨_, _, heq, hlex⟩ := h
  obtain ⟨rfl, rfl⟩ := List.cons.inj heq
  exact rule_of_lexeme hlex

/-- A token is read by one rule only. -/
theorem Rule.unique {commandNext : Bool} {c : Char} {rest : List Char} {kind kind' : TokenKind}
    {n n' : Nat} (h : Rule commandNext c rest kind n) (h' : Rule commandNext c rest kind' n') :
    kind = kind' ∧ n = n' := by
  have heq := h.lexeme_eq.symm.trans h'.lexeme_eq
  cases heq
  exact ⟨rfl, rfl⟩

/-- A point begins a bare word. -/
theorem Begins.kind_of_point {commandNext : Bool} {kind : TokenKind} {more after : List Char}
    (h : Begins commandNext kind ('.' :: more) after) :
    ∃ word, kind = wordKind commandNext word :=
  ⟨_, (h.rule.unique (.word rfl)).1⟩

/-- A newline is a token of its own. -/
theorem Begins.kind_of_newline {commandNext : Bool} {kind : TokenKind} {more after : List Char}
    (h : Begins commandNext kind ('\n' :: more) after) : kind = .newline :=
  (h.rule.unique (.mark rfl)).1

/-- An apostrophe begins a string. -/
theorem Begins.kind_of_apostrophe {commandNext : Bool} {kind : TokenKind} {more after : List Char}
    (h : Begins commandNext kind ('\'' :: more) after) :
    kind = .string ∧ singleQuoted? (more ++ after) = some more.length := by
  have hlex := h.rule.lexeme_eq
  cases hq : singleQuoted? (more ++ after) with
  | none => simp [lexeme, isInlineSpace, hq] at hlex
  | some n =>
    obtain ⟨hkind, hn⟩ := h.rule.unique (.apostrophe hq)
    exact ⟨hkind, by rw [hn]⟩

/-! ## Literals -/

theorem literal_toList (s : String) :
    (Text.literal s).toList = '\'' :: (Text.doubleApostrophes s.toList ++ ['\'']) := by
  simp [Text.literal]

/-- Doubled apostrophes do not end a string. -/
theorem singleQuoted?_doubleApostrophes (cs rest : List Char) :
    singleQuoted? (Text.doubleApostrophes cs ++ rest) =
      (singleQuoted? rest).map (· + (Text.doubleApostrophes cs).length) := by
  induction cs with
  | nil => simp [Text.doubleApostrophes]
  | cons c cs ih =>
    by_cases hc : c = '\''
    · simp [Text.doubleApostrophes, singleQuoted?, hc, ih, Function.comp_def, Nat.add_assoc]
    · simp [Text.doubleApostrophes, singleQuoted?, hc, ih, Function.comp_def, Nat.add_assoc]

/-- A literal is read as one string where no apostrophe follows. -/
theorem begins_literal (s : String) {after : List Char} (h : after.head? ≠ some '\'') :
    Begins false .string (Text.literal s).toList after := by
  rw [literal_toList]
  refine ⟨_, _, rfl, (Rule.apostrophe ?_).lexeme_eq⟩
  have hend : singleQuoted? ('\'' :: after) = some 1 := by
    cases after with
    | nil => rfl
    | cons c after =>
      have hc : c ≠ '\'' := by simpa using h
      simp [singleQuoted?, hc]
  rw [List.append_assoc, singleQuoted?_doubleApostrophes]
  simp [hend, Nat.add_comm]

/-- A literal and a string in apostrophes right behind it are read as one string. -/
theorem begins_literal_append (s : String) {text after : List Char}
    (h : Begins false .string ('\'' :: text) after) :
    Begins false .string ((Text.literal s).toList ++ '\'' :: text) after := by
  have hq := h.kind_of_apostrophe.2
  rw [literal_toList]
  refine ⟨'\'', Text.doubleApostrophes s.toList ++ '\'' :: '\'' :: text, by simp,
    (Rule.apostrophe ?_).lexeme_eq⟩
  rw [List.append_assoc, singleQuoted?_doubleApostrophes]
  simp only [List.cons_append, singleQuoted?, hq, Option.map_some, List.length_append,
    List.length_cons]
  congr 1
  omega

/-! ## Readability -/

/-- Two texts that no token tells apart behind it. -/
def Alike (xs ys : List Char) : Prop :=
  xs.head? = ys.head? ∧ (xs.head? = some '.' → xs.tail.head? = ys.tail.head?)

theorem memberTail_eq_zero_iff {cs : List Char} :
    memberTail cs = 0 ↔ cs.head?.all (fun c => !isNameChar c) = true ∧
      (cs.head? = some '.' → cs.tail.head?.all (fun c => !isNameChar c) = true) := by
  cases cs with
  | nil => simp [memberTail]
  | cons c rest =>
    cases hc : isNameChar c with
    | true => simp [memberTail, hc]
    | false =>
      by_cases hdot : c = '.'
      · cases rest with
        | nil => simp [memberTail, hc]
        | cons d rest => cases hd : isNameChar d <;> simp [memberTail, hdot, hd]
      · simp [memberTail, hc, hdot]

/-- What fits behind a token is seen at the first character, and at the second one behind a point.
-/
theorem Fits.congr {xs ys : List Char} (h : Alike xs ys) {kind : TokenKind} {text : List Char}
    (hfits : Fits kind text xs) : Fits kind text ys := by
  obtain ⟨hhead, htail⟩ := h
  have hmember (hz : memberTail xs = 0) : memberTail ys = 0 := by
    rw [memberTail_eq_zero_iff] at hz ⊢
    rw [← hhead]
    exact ⟨hz.1, fun hd => htail hd ▸ hz.2 hd⟩
  have hmembers (hz : members xs = 0) : members ys = 0 := by
    unfold members at hz ⊢
    rw [← hhead]
    split
    · rename_i hdot
      exact hmember (by rwa [if_pos hdot] at hz)
    · rfl
  have hstops {p : Char → Bool} (hs : Stops p xs) : Stops p ys := by rwa [Stops, ← hhead]
  unfold Fits at hfits
  split at hfits
  · exact hstops hfits
  · exact hstops hfits
  · exact hstops hfits
  · exact hstops hfits
  · show ys.head? ≠ text.head?
    rwa [← hhead]
  · show if text.getLast? = some '}' then members ys = 0 else memberTail ys = 0
    split at hfits
    · rename_i hlast
      rw [if_pos hlast]
      exact hmembers hfits
    · rename_i hlast
      rw [if_neg hlast]
      exact hmember hfits
  · exact hstops hfits
  · refine hfits.imp_right fun hxs => ?_
    rw [hxs] at hhead
    exact List.head?_eq_none_iff.mp hhead.symm
  · unfold Fits
    split <;> trivial

/-- A bare word is read by the rule for bare words. -/
theorem Begins.of_bareWord {commandNext : Bool} {kind : TokenKind} {c : Char}
    {more after : List Char} (h : Begins commandNext kind (c :: more) after)
    (hkind : kind = .command ∨ kind = .argument) :
    kind = wordKind commandNext (c :: more) ∧ wordTail (more ++ after) = more := by
  have hrule := h.rule
  generalize hn : more.length = n at hrule
  cases hrule with
  | mark hmark =>
    unfold markKind? at hmark
    split at hmark <;> cases hmark <;> simp at hkind
  | word =>
    obtain ⟨happend, -, -⟩ := wordTail_append hn.symm
    rw [happend]
    exact ⟨rfl, rfl⟩
  | _ => simp at hkind

/-- Whether a bare word is a command is a matter of where it stands. -/
theorem Begins.command_iff {commandNext : Bool} {kind : TokenKind} {text after : List Char}
    (h : Begins commandNext kind text after) (hkind : kind = .command ∨ kind = .argument) :
    kind = .command ↔ commandNext = true := by
  obtain ⟨c, more, rfl, -⟩ := id h
  obtain ⟨hword, -⟩ := h.of_bareWord hkind
  unfold wordKind at hword
  split at hword
  · simp [hword] at hkind
  · split at hword <;> simp_all

/-- A command word stands where a statement begins. -/
theorem Begins.commandNext_eq {commandNext : Bool} {text after : List Char}
    (h : Begins commandNext .command text after) : commandNext = true :=
  (h.command_iff (.inl rfl)).mp rfl

theorem Begins.ne_nil {commandNext : Bool} {kind : TokenKind} {text after : List Char}
    (h : Begins commandNext kind text after) : text ≠ [] := by
  obtain ⟨c, more, rfl, -⟩ := h
  exact List.cons_ne_nil c more

/-- A command word holds no newline. -/
theorem Begins.newline_not_mem {commandNext : Bool} {text after : List Char}
    (h : Begins commandNext .command text after) : '\n' ∉ text := by
  obtain ⟨c, more, rfl, -⟩ := id h
  have htail := (h.of_bareWord (.inl rfl)).2
  intro hmem
  rcases List.mem_cons.mp hmem with rfl | hmem
  · cases h.kind_of_newline
  · rw [← htail] at hmem
    exact absurd (List.all_eq_true.mp List.all_takeWhile _ hmem) (by decide)

/-- Respelling a row in which no statement begins at once is not seen from before it. -/
theorem alike_respell {opened : List Char} {row : List Stretch} (h : Readable false opened row) :
    Alike (textOf row) (textOf (respell known registry name row)) := by
  induction row generalizing opened with
  | nil => exact ⟨rfl, fun _ => rfl⟩
  | cons s row ih =>
    cases s with
    | blank c =>
      obtain ⟨hc, -⟩ := h
      refine ⟨rfl, fun hdot => ?_⟩
      rw [textOf_blank, List.head?_cons, Option.some.injEq] at hdot
      rw [hdot] at hc
      cases hc
    | token kind text depth =>
      obtain ⟨hbegins, inner, hnest, hrow⟩ := h
      have hother : (Stretch.token kind text depth).isElementWord known = false := by
        cases hw : (Stretch.token kind text depth).isElementWord known with
        | false => rfl
        | true =>
          obtain ⟨_, heq⟩ := Stretch.eq_of_isElementWord hw
          cases heq
          cases hbegins.commandNext_eq
      rw [respell_other hother, textOf_token, textOf_token]
      obtain ⟨c, more, rfl, -⟩ := id hbegins
      refine ⟨rfl, fun hdot => ?_⟩
      cases more with
      | cons d more => rfl
      | nil =>
        -- a point alone is a word, so no statement begins behind it either
        rw [List.cons_append, List.head?_cons, Option.some.injEq] at hdot
        rw [hdot] at hbegins
        obtain ⟨word, rfl⟩ := hbegins.kind_of_point
        have hnext : (wordKind false word).beginsStatement false = false := by
          unfold wordKind
          split <;> rfl
        rw [hnext] at hrow
        exact (ih hrow).1

/-- Respelling a row that is empty or begins with a newline does not change how it begins. -/
theorem head?_respell {commandNext : Bool} {opened : List Char} {row : List Stretch}
    (h : Readable commandNext opened row) (hhead : ∀ c ∈ (textOf row).head?, c = '\n') :
    (textOf (respell known registry name row)).head? = (textOf row).head? := by
  cases row with
  | nil => rfl
  | cons s row =>
    cases s with
    | blank c => rfl
    | token kind text depth =>
      obtain ⟨hbegins, -⟩ := h
      obtain ⟨c, more, rfl, -⟩ := id hbegins
      have hc : c = '\n' := hhead c (by simp)
      rw [hc] at hbegins
      rw [hbegins.kind_of_newline, respell_other (by simp [Stretch.isElementWord])]
      rfl

/-- Respelling what follows a token leaves the token as it is. -/
theorem begins_respell {commandNext : Bool} {kind : TokenKind} {text : List Char}
    {opened : List Char} {row : List Stretch} (h : Begins commandNext kind text (textOf row))
    (hrow : Readable (kind.beginsStatement commandNext) opened row) :
    Begins commandNext kind text (textOf (respell known registry name row)) := by
  obtain ⟨hbegins, hfits⟩ := begins_iff.mp h
  refine begins_iff.mpr ⟨hbegins, ?_⟩
  cases hnext : kind.beginsStatement commandNext with
  | false =>
    rw [hnext] at hrow
    exact hfits.congr (alike_respell hrow)
  | true =>
    unfold Fits at hfits
    split at hfits
    · cases hnext
    · cases hnext
    · cases hnext
    · cases hnext
    · cases hnext
    · cases hnext
    · -- a remark ends where the text ends or a newline follows
      show Stops _ _
      rw [Stops, head?_respell hrow (fun c hc => by simpa using hfits c hc)]
      exact hfits
    · refine hfits.imp_right fun hnil => ?_
      rw [← List.head?_eq_none_iff, head?_respell hrow (by simp [hnil]), hnil]
      rfl
    · unfold Fits
      split <;> trivial

/-- A readable row that begins with an apostrophe begins with a string. -/
theorem Readable.exists_string {commandNext : Bool} {opened : List Char} {row : List Stretch}
    (h : Readable commandNext opened row) (hhead : (textOf row).head? = some '\'') :
    ∃ text depth more, row = .token .string ('\'' :: text) depth :: more := by
  cases row with
  | nil => cases hhead
  | cons s row =>
    cases s with
    | blank c =>
      obtain ⟨hc, -⟩ := h
      rw [textOf_blank, List.head?_cons, Option.some.injEq] at hhead
      rw [hhead] at hc
      cases hc
    | token kind text depth =>
      obtain ⟨hbegins, -⟩ := h
      obtain ⟨c, more, rfl, -⟩ := id hbegins
      rw [textOf_token, List.cons_append, List.head?_cons, Option.some.injEq] at hhead
      subst hhead
      exact ⟨more, depth, row, by rw [hbegins.kind_of_apostrophe.1]⟩

/-- A literal stays a token of its own where no apostrophe follows. -/
theorem joinLiteral_of_head {row : List Stretch} (h : (textOf row).head? ≠ some '\'')
    (literal : List Char) : joinLiteral literal row = .token .string literal 0 :: row := by
  unfold joinLiteral
  split
  · simp at h
  · rfl

/-- A literal before a readable row outside of all brace groups. -/
theorem Readable.joinLiteral (text : String) {opened : List Char} (hdepth : opened.count '{' = 0)
    {row : List Stretch} (h : Readable false opened row) :
    Readable false opened (joinLiteral (Text.literal text).toList row) := by
  by_cases hhead : (textOf row).head? = some '\''
  · obtain ⟨cs, depth, more, rfl⟩ := h.exists_string hhead
    obtain ⟨hbegins, hrest⟩ := h
    exact ⟨begins_literal_append text hbegins, hrest⟩
  · rw [joinLiteral_of_head hhead]
    exact ⟨begins_literal text hhead, opened, by simp [nest?, hdepth], h⟩

/-- **A respelled row is readable.** What is put in is read as the constructor and its literal, and
no token around is read otherwise. -/
theorem Readable.respell (hname : Begins true .command name.toList []) {commandNext : Bool}
    {opened : List Char} {row : List Stretch} (h : Readable commandNext opened row) :
    Readable commandNext opened (respell known registry name row) := by
  induction row generalizing commandNext opened with
  | nil => exact h
  | cons s row ih =>
    cases s with
    | blank c => exact ⟨h.1, ih h.2⟩
    | token kind text depth =>
      obtain ⟨hbegins, inner, hnest, hrow⟩ := h
      cases hw : (Stretch.token kind text depth).isElementWord known with
      | false =>
        rw [respell_other hw]
        exact ⟨begins_respell hbegins hrow, inner, hnest, ih hrow⟩
      | true =>
        obtain ⟨_, heq⟩ := Stretch.eq_of_isElementWord hw
        cases heq
        obtain rfl := hbegins.commandNext_eq
        have hinner := hnest
        simp only [nest?, Option.some.injEq, Prod.mk.injEq] at hinner
        obtain ⟨hdepth, rfl⟩ := hinner
        rw [respell_word hw]
        refine ⟨begins_iff.mpr ⟨hname, ?_⟩, opened, hnest, rfl, ?_⟩
        · rw [textOf_blank]
          exact stops_cons.mpr rfl
        · exact Readable.joinLiteral _ hdepth (ih hrow)

/-! ## The rewritten text -/

theorem elementWords_blank (pos : Position) (offset : Nat) (c : Char) (row : List Stretch) :
    Token.elementWords known true (tokensAt pos offset (.blank c :: row)) =
      Token.elementWords known true (tokensAt (pos.advance c) (offset + 1) row) := rfl

/-- Whether a token is listed as an element word is seen at its stretch. -/
theorem isElementWord_token (kind : TokenKind) (text : List Char) (depth : Nat) (pos : Position)
    (length offset : Nat) :
    ((Token.mk kind (String.ofList text) pos length depth offset).depth == 0 &&
      (Token.mk kind (String.ofList text) pos length depth offset).isElementWord known) =
        (Stretch.token kind text depth).isElementWord known := by
  have hdepth : ((depth : Int) == 0) = (depth == 0) := by
    rw [Bool.eq_iff_iff, beq_iff_eq, beq_iff_eq, Int.natCast_eq_zero]
  simp only [Token.isElementWord, Stretch.isElementWord, hdepth, Bool.and_assoc,
    String.toList_ofList]

theorem elementWords_word {text : List Char}
    (h : (Stretch.token .command text 0).isElementWord known = true) (pos : Position)
    (offset : Nat) (row : List Stretch) :
    Token.elementWords known true (tokensAt pos offset (.token .command text 0 :: row)) =
      ⟨.command, String.ofList text, pos, text.length, 0, offset⟩ ::
        Token.elementWords known true
          (tokensAt (pos.advanceAll text) (offset + text.length) row) := by
  rw [tokensAt, Token.elementWords, List.filter_cons_of_pos]
  · rfl
  · exact (isElementWord_token ..).trans h

theorem elementWords_other {kind : TokenKind} {text : List Char} {depth : Nat}
    (h : (Stretch.token kind text depth).isElementWord known = false) (pos : Position)
    (offset : Nat) (row : List Stretch) :
    Token.elementWords known true (tokensAt pos offset (.token kind text depth :: row)) =
      Token.elementWords known true
        (tokensAt (pos.advanceAll text) (offset + text.length) row) := by
  rw [tokensAt, Token.elementWords, List.filter_cons_of_neg]
  · rfl
  · exact ne_true_of_eq_false ((isElementWord_token ..).trans h)

/-- The text of a row that begins at a place when constructor calls stand for the chosen tokens. -/
def textWithCalls (registry : Registry) (name : String) (chosen : Token → Bool) (pos : Position)
    (offset : Nat) : List Stretch → List Char
  | [] => []
  | .blank c :: row => c :: textWithCalls registry name chosen (pos.advance c) (offset + 1) row
  | .token kind text depth :: row =>
    (if chosen ⟨kind, String.ofList text, pos, text.length, depth, offset⟩ then
        (constructorCall name (registry.spelled (String.ofList text))).toList
      else text) ++
      textWithCalls registry name chosen (pos.advanceAll text) (offset + text.length) row

/-- Replacing chosen words of a row, the last one first, in the lines of its text. -/
theorem foldlM_rewriteWord {chosen : Token → Bool}
    (hchosen : ∀ t, chosen t = true → t.kind = .command) {commandNext : Bool} {opened : List Char}
    {row : List Stretch} (h : Readable commandNext opened row) (before : List Char) (offset : Nat)
    {more : List (List Char)} (hmore : more ≠ []) :
    ∃ lines, lines ≠ [] ∧
      Text.joinLines lines =
        textWithCalls registry name chosen (Position.start.advanceAll before) offset row ++
          Text.joinLines more ∧
      ((tokensAt (Position.start.advanceAll before) offset row).filter chosen).reverse.foldlM
          (rewriteWord registry name) (Text.glue (Text.splitLines (before ++ textOf row)) more) =
        .ok (Text.glue (Text.splitLines before) lines) := by
  induction row generalizing commandNext opened before offset with
  | nil => exact ⟨more, hmore, rfl, by simp [tokensAt]; rfl⟩
  | cons s row ih =>
    cases s with
    | blank c =>
      obtain ⟨lines, hlines, hjoin, hfold⟩ := ih h.2 (before ++ [c]) (offset + 1)
      rw [Position.advanceAll_append] at hjoin hfold
      refine ⟨Text.glue (Text.splitLines [c]) lines, Text.glue_ne_nil (Text.splitLines_ne_nil _) _,
        ?_, ?_⟩
      · rw [Text.joinLines_glue, Text.joinLines_splitLines, hjoin]
        rfl
      · rw [List.append_assoc] at hfold
        rw [← Text.glue_assoc, ← Text.splitLines_append]
        exact hfold
    | token kind text depth =>
      obtain ⟨hbegins, inner, hnest, hrow⟩ := h
      obtain ⟨lines, hlines, hjoin, hfold⟩ := ih hrow (before ++ text) (offset + text.length)
      rw [Position.advanceAll_append] at hjoin hfold
      rw [List.append_assoc] at hfold
      cases hw : chosen ⟨kind, String.ofList text, Position.start.advanceAll before, text.length,
          depth, offset⟩ with
      | false =>
        refine ⟨Text.glue (Text.splitLines text) lines,
          Text.glue_ne_nil (Text.splitLines_ne_nil _) _, ?_, ?_⟩
        · rw [Text.joinLines_glue, Text.joinLines_splitLines, hjoin, textWithCalls, hw,
            if_neg Bool.false_ne_true, List.append_assoc]
        · rw [← Text.glue_assoc, ← Text.splitLines_append, tokensAt,
            List.filter_cons_of_neg (ne_true_of_eq_false hw), textOf_token]
          exact hfold
      | true =>
        obtain rfl : kind = .command := hchosen _ hw
        obtain ⟨clark, resolved, hresolve, hspelled⟩ :=
          registry.exists_resolve (mt String.ofList_eq_empty_iff.mp hbegins.ne_nil)
        refine ⟨Text.glue [(constructorCall name clark.clark).toList] lines,
          Text.glue_ne_nil (List.cons_ne_nil _ _) _, ?_, ?_⟩
        · rw [Text.joinLines_glue, hjoin, textWithCalls, hw, if_pos rfl, hspelled,
            List.append_assoc]
          rfl
        · rw [tokensAt, List.filter_cons_of_pos hw, List.reverse_cons, List.foldlM_append,
            textOf_token, hfold]
          have hline := line_le_length_glue before (Text.glue (Text.splitLines text) lines)
          rw [← Text.glue_assoc, ← Text.splitLines_append] at hline
          simp only [bind, Except.bind, List.foldlM_cons, List.foldlM_nil, rewriteWord, resolveWord,
            hresolve, splice?, if_pos hline, pure, Except.pure]
          rw [splice_glue before text _ hbegins.newline_not_mem lines hlines]

/-- The tokens of a readable row stand one behind the other. -/
theorem Readable.pairwise_tokensAt {commandNext : Bool} {opened : List Char} {row : List Stretch}
    (h : Readable commandNext opened row) (pos : Position) (offset : Nat) :
    (tokensAt pos offset row).Pairwise (fun a b => a.pos.isBefore b.pos = true) ∧
      ∀ t ∈ tokensAt pos offset row, t.pos.isBefore pos = false := by
  induction row generalizing commandNext opened pos offset with
  | nil => simp [tokensAt]
  | cons s row ih =>
    cases s with
    | blank c =>
      obtain ⟨hpair, hafter⟩ := ih h.2 (pos.advance c) (offset + 1)
      have hc := pos.isBefore_advanceAll (List.cons_ne_nil c [])
      exact ⟨hpair, fun t ht => Position.not_isBefore_of_isBefore hc (hafter t ht)⟩
    | token kind text depth =>
      obtain ⟨hbegins, inner, hnest, hrow⟩ := h
      obtain ⟨hpair, hafter⟩ := ih hrow (pos.advanceAll text) (offset + text.length)
      have htext := pos.isBefore_advanceAll hbegins.ne_nil
      rw [tokensAt]
      refine ⟨List.pairwise_cons.mpr ⟨fun t ht => ?_, hpair⟩, fun t ht => ?_⟩
      · exact Position.isBefore_of_not_isBefore htext (hafter t ht)
      · rcases List.mem_cons.mp ht with rfl | ht
        · exact pos.isBefore_irrefl
        · exact Position.not_isBefore_of_isBefore htext (hafter t ht)

/-- **Words that are listed in any order are replaced in their places.** -/
theorem rewrite_of_perm {source : String} {row : List Stretch} (htext : textOf row = source.toList)
    (h : Readable true [] row) {chosen : Token → Bool}
    (hchosen : ∀ t, chosen t = true → t.kind = .command) {words : List Token}
    (hwords : words.Perm ((tokensAt .start 0 row).filter chosen)) :
    rewrite source words registry name =
      .ok (String.ofList (textWithCalls registry name chosen .start 0 row)) := by
  obtain ⟨lines, -, hjoin, hfold⟩ :=
    @foldlM_rewriteWord registry name chosen hchosen true [] row h [] 0 [[]] (List.cons_ne_nil [] [])
  have hlast : Text.glue (Text.splitLines ([] ++ textOf row)) [[]] =
      Text.splitLines source.toList := by
    have happend := Text.splitLines_append source.toList []
    rw [List.append_nil] at happend
    rw [List.nil_append, htext]
    exact happend.symm
  rw [Position.advanceAll_nil] at hjoin hfold
  have hfirst : Text.joinLines (Text.glue (Text.splitLines []) lines) =
      textWithCalls registry name chosen .start 0 row := by
    rw [Text.joinLines_glue, hjoin]
    simp [Text.splitLines, Text.joinLines]
  rw [hlast] at hfold
  rw [rewrite]
  split
  · rename_i hempty
    rw [List.isEmpty_iff.mp hempty] at hwords
    rw [hwords.nil_eq.symm] at hfold
    have hsame : Text.splitLines source.toList = _ := Except.ok.inj hfold
    rw [← hfirst, ← hsame, Text.joinLines_splitLines, String.ofList_toList]
  · rw [backwards_eq_reverse_of_perm hwords ((h.pairwise_tokensAt .start 0).1.filter chosen), hfold,
      ← hfirst]
    rfl

/-- Calls stand for the element words exactly in the respelled row. -/
theorem textWithCalls_elementWords (pos : Position) (offset : Nat) (row : List Stretch) :
    textWithCalls registry name (fun t => t.depth == 0 && t.isElementWord known) pos offset row =
      textOf (respell known registry name row) := by
  induction row generalizing pos offset with
  | nil => rfl
  | cons s row ih =>
    cases s with
    | blank c => rw [textWithCalls, ih, respell_blank, textOf_blank]
    | token kind text depth =>
      rw [textWithCalls, ih, isElementWord_token]
      cases hw : (Stretch.token kind text depth).isElementWord known with
      | false => rw [respell_other hw, textOf_token, if_neg Bool.false_ne_true]
      | true =>
        rw [respell_word hw, if_pos rfl]
        simp [literalOf, Stretch.chars, constructorCall]

/-- **The rewritten text is the text of the respelled row.** -/
theorem rewrite_textOf {source : String} {row : List Stretch} (htext : textOf row = source.toList)
    (h : Readable true [] row) :
    rewrite source (Token.elementWords known true (tokensAt .start 0 row)) registry name =
      .ok (String.ofList (textOf (respell known registry name row))) := by
  rw [← textWithCalls_elementWords .start 0 row]
  refine rewrite_of_perm htext h (fun t ht => ?_) (.refl _)
  simp only [Token.isElementWord, Bool.and_eq_true, beq_iff_eq] at ht
  exact ht.2.1.1

/-- A row without element words stays as it is. -/
theorem respell_eq_self {pos : Position} {offset : Nat} {row : List Stretch}
    (h : Token.elementWords known true (tokensAt pos offset row) = []) :
    respell known registry name row = row := by
  induction row generalizing pos offset with
  | nil => rfl
  | cons s row ih =>
    cases s with
    | blank c => rw [respell_blank, ih h]
    | token kind text depth =>
      cases hw : (Stretch.token kind text depth).isElementWord known with
      | false =>
        rw [elementWords_other hw] at h
        rw [respell_other hw, ih h]
      | true =>
        obtain ⟨_, heq⟩ := Stretch.eq_of_isElementWord hw
        cases heq
        rw [elementWords_word hw] at h
        cases h

theorem tokenize_textOf {row : List Stretch} (h : Readable true [] row) :
    tokenize (String.ofList (textOf row)) = .ok (tokensAt .start 0 row) :=
  tokenize_eq_ok_iff.mpr ⟨row, String.toList_ofList.symm, h, rfl⟩

/-- **The template of a text that is read has the text and the tokens of the respelled row.** -/
theorem ofSource_textOf {constructor : Constructor}
    (hname : Begins true .command constructor.word.toList []) {source : String}
    {row : List Stretch} (htext : textOf row = source.toList) (h : Readable true [] row) :
    ∃ t, (Template.ofSource known registry constructor source).2 = .ok t ∧
      t.compiled = String.ofList (textOf (respell known registry constructor.word row)) ∧
      t.tokens = tokensAt .start 0 (respell known registry constructor.word row) := by
  have hsource : source = String.ofList (textOf row) := by rw [htext, String.ofList_toList]
  have hread : tokenize source = .ok (tokensAt .start 0 row) := by
    rw [hsource]
    exact tokenize_textOf h
  have hagain := tokenize_textOf (@Readable.respell known registry _ hname _ _ _ h)
  rw [Template.ofSource_snd, hread]
  simp only [Except.bind, rewrite_textOf htext h]
  by_cases hempty : (Token.elementWords known true (tokensAt .start 0 row)).isEmpty = true
  · rw [if_pos hempty, respell_eq_self (List.isEmpty_iff.mp hempty)]
    exact ⟨_, rfl, rfl, rfl⟩
  · rw [if_neg hempty, hagain]
    exact ⟨_, rfl, rfl, rfl⟩

end Lexer

end TagScript
