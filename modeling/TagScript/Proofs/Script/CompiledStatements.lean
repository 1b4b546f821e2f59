import TagScript.Proofs.Script.Boundaries
import TagScript.Proofs.Template.CompiledTokens

/-!
# The statements of compiled text

The tokens of compiled text correspond to those of the text as written. The correspondence goes
through the pairing of brackets and the cutting into statements, so that each statement of the
compiled text comes from one statement of the text as written.

* `Respelled` — the tokens of a text and those of its compiled text.
* `Nest.Respelled` — the same for rows of nests.
* `Nest.read_respelled` — brackets are paired alike.
* **`Nest.cut_respelled`** — statements are cut alike.
-/

namespace TagScript

section

variable (source : List Char) (known : String → Bool) (registry : Registry) (name : String)

/-- Whether tokens are those of a compiled text: the constructor and a literal stand for each
element word outside of all brace groups. The literal goes on with a string in apostrophes right
behind the word. -/
inductive Respelled : List Token → List Token → Prop where
  | nil : Respelled [] []
  | keep {t t' : Token} {ts us : List Token} :
      (t.depth == 0 && t.isElementWord known) = false → t'.face = t.face → Respelled ts us →
        Respelled (t :: ts) (t' :: us)
  | call {w c l : Token} {ts us : List Token} :
      (w.depth == 0 && w.isElementWord known) = true → c.face = ⟨.command, name, 0⟩ →
        l.face = ⟨.string, Text.literal (registry.spelled w.text), 0⟩ → Respelled ts us →
          Respelled (w :: ts) (c :: l :: us)
  | joined {w q c l : Token} {ts us : List Token} :
      (w.depth == 0 && w.isElementWord known) = true →
        source[w.offset + w.length]? = some '\'' → q.kind = .string →
          c.face = ⟨.command, name, 0⟩ →
            l.face = ⟨.string, Text.literal (registry.spelled w.text) ++ q.text, q.depth⟩ →
              Respelled ts us → Respelled (w :: q :: ts) (c :: l :: us)

/-- Whether a row of nests is that of a compiled text. -/
inductive Nest.Respelled : List Nest → List Nest → Prop where
  | nil : Nest.Respelled [] []
  | keep {t t' : Token} {ns ms : List Nest} :
      (t.depth == 0 && t.isElementWord known) = false → t'.face = t.face →
        Nest.Respelled ns ms → Nest.Respelled (.token t :: ns) (.token t' :: ms)
  | bracket {opener opener' closer closer' : Token} {inner inner' ns ms : List Nest} :
      opener'.face = opener.face → closer'.face = closer.face → Nest.Respelled inner inner' →
        Nest.Respelled ns ms →
          Nest.Respelled (.bracket opener inner closer :: ns)
            (.bracket opener' inner' closer' :: ms)
  | call {w c l : Token} {ns ms : List Nest} :
      (w.depth == 0 && w.isElementWord known) = true → c.face = ⟨.command, name, 0⟩ →
        l.face = ⟨.string, Text.literal (registry.spelled w.text), 0⟩ → Nest.Respelled ns ms →
          Nest.Respelled (.token w :: ns) (.token c :: .token l :: ms)
  | joined {w q c l : Token} {ns ms : List Nest} :
      (w.depth == 0 && w.isElementWord known) = true →
        source[w.offset + w.length]? = some '\'' → q.kind = .string →
          c.face = ⟨.command, name, 0⟩ →
            l.face = ⟨.string, Text.literal (registry.spelled w.text) ++ q.text, q.depth⟩ →
              Nest.Respelled ns ms →
                Nest.Respelled (.token w :: .token q :: ns) (.token c :: .token l :: ms)

end

variable {source : List Char} {known : String → Bool} {registry : Registry} {name : String}

theorem Token.kind_of_face {t : Token} {kind : TokenKind} {text : String} {depth : Int}
    (h : t.face = ⟨kind, text, depth⟩) : t.kind = kind :=
  congrArg Token.Face.kind h

theorem Token.kind_eq_of_face {t t' : Token} (h : t'.face = t.face) : t'.kind = t.kind :=
  congrArg Token.Face.kind h

/-- An element word is read as a command. -/
theorem Token.kind_of_word {w : Token} (h : (w.depth == 0 && w.isElementWord known) = true) :
    w.kind = .command := by
  simp only [Bool.and_eq_true, Token.isElementWord, beq_iff_eq] at h
  exact h.2.1.1

/-! ## Tokens -/

theorem Respelled.tail {t t' : Token} {ts us : List Token}
    (h : Respelled source known registry name (t :: ts) (t' :: us)) (ht : t.kind ≠ .command) :
    Respelled source known registry name ts us := by
  cases h with
  | keep _ _ h => exact h
  | call h => exact absurd (Token.kind_of_word h) ht
  | joined h => exact absurd (Token.kind_of_word h) ht

namespace Lexer

theorem joinLiteral_string (literal text : List Char) (depth : Nat) (row : List Stretch) :
    joinLiteral literal (.token .string ('\'' :: text) depth :: row) =
      .token .string (literal ++ '\'' :: text) depth :: row := rfl

/-- The tokens of a respelled row are those of a compiled text. -/
theorem Readable.respelled {commandNext : Bool} {opened : List Char} {row : List Stretch}
    (h : Readable commandNext opened row) (pos pos' : Position) (before : List Char)
    (offset' : Nat) :
    Respelled (before ++ textOf row) known registry name (tokensAt pos before.length row)
      (tokensAt pos' offset' (Lexer.respell known registry name row)) := by
  induction row generalizing commandNext opened pos pos' before offset' with
  | nil => exact .nil
  | cons s row ih =>
    cases s with
    | blank c =>
      have hrow := ih h.2 (pos.advance c) (pos'.advance c) (before ++ [c]) (offset' + 1)
      rw [List.append_assoc, List.length_append] at hrow
      exact hrow
    | token kind text depth =>
      obtain ⟨hbegins, inner, hnest, hrow⟩ := h
      have hih (pos' : Position) (offset' : Nat) :=
        ih hrow (pos.advanceAll text) pos' (before ++ text) offset'
      rw [textOf_token]
      simp only [List.append_assoc, List.length_append] at hih
      cases hw : (Stretch.token kind text depth).isElementWord known with
      | false =>
        rw [respell_other hw]
        exact .keep ((isElementWord_token ..).trans hw) rfl (hih ..)
      | true =>
        obtain ⟨_, heq⟩ := Stretch.eq_of_isElementWord hw
        cases heq
        rw [respell_word hw]
        by_cases hhead : (textOf row).head? = some '\''
        · obtain ⟨cs, d, more, rfl⟩ := hrow.exists_string hhead
          have hstring : (Stretch.token .string ('\'' :: cs) d).isElementWord known = false := by
            simp [Stretch.isElementWord]
          -- the string begins where the literal ends, and what follows them stays behind it
          have hmore := hih
            (((pos'.advanceAll name.toList).advance ' ').advanceAll (literalOf registry text))
            (offset' + name.toList.length + 1 + (literalOf registry text).length)
          simp only [respell_other hstring, joinLiteral_string, tokensAt, Stretch.chars] at hmore ⊢
          have hkind : TokenKind.string ≠ .command := by decide
          have htail := hmore.tail hkind
          simp only [Position.advanceAll_append _ (literalOf registry text), Nat.add_assoc,
            List.length_append] at htail ⊢
          refine .joined ((isElementWord_token ..).trans hw) ?_ rfl ?_ ?_ htail
          · rw [getElem?_behind, hhead]
          · exact congrArg (Token.Face.mk .command · 0) String.ofList_toList
          · refine congrArg (Token.Face.mk .string · d) ?_
            rw [String.ofList_append, literalOf, String.ofList_toList]
        · have hbehind : (textOf (Lexer.respell known registry name row)).head? ≠ some '\'' := by
            rwa [← (alike_respell hrow).1]
          rw [joinLiteral_of_head hbehind]
          refine .call ((isElementWord_token ..).trans hw) ?_ ?_ (hih ..)
          · exact congrArg (Token.Face.mk .command · 0) String.ofList_toList
          · exact congrArg (Token.Face.mk .string · 0) String.ofList_toList

end Lexer

theorem Token.significant_cons {t : Token} (h : t.kind.isSignificant = true) (ts : List Token) :
    Token.significant (t :: ts) = t :: Token.significant ts :=
  List.filter_cons_of_pos h

theorem Respelled.significant {ts us : List Token}
    (h : Respelled source known registry name ts us) :
    Respelled source known registry name (Token.significant ts) (Token.significant us) := by
  have hmeaning {t : Token} {kind : TokenKind} (hkind : t.kind = kind)
      (h : kind.isSignificant = true) : t.kind.isSignificant = true := hkind ▸ h
  induction h with
  | nil => exact .nil
  | @keep t t' ts us hword hface _ ih =>
    have hkind := Token.kind_eq_of_face hface
    cases hsignificant : t.kind.isSignificant with
    | true =>
      rw [Token.significant_cons hsignificant, Token.significant_cons (hmeaning hkind hsignificant)]
      exact .keep hword hface ih
    | false =>
      have hsignificant' : t'.kind.isSignificant = false := hkind ▸ hsignificant
      simpa [Token.significant, hsignificant, hsignificant'] using ih
  | call hword hc hl _ ih =>
    rw [Token.significant_cons (hmeaning (Token.kind_of_word hword) rfl),
      Token.significant_cons (hmeaning (Token.kind_of_face hc) rfl),
      Token.significant_cons (hmeaning (Token.kind_of_face hl) rfl)]
    exact .call hword hc hl ih
  | joined hword hq hstring hc hl _ ih =>
    rw [Token.significant_cons (hmeaning (Token.kind_of_word hword) rfl),
      Token.significant_cons (hmeaning hstring rfl),
      Token.significant_cons (hmeaning (Token.kind_of_face hc) rfl),
      Token.significant_cons (hmeaning (Token.kind_of_face hl) rfl)]
    exact .joined hword hq hstring hc hl ih

/-! ## Rows of nests -/

namespace Nest

theorem Respelled.append {ns ms ns' ms' : List Nest}
    (h : Nest.Respelled source known registry name ns ms)
    (h' : Nest.Respelled source known registry name ns' ms') :
    Nest.Respelled source known registry name (ns ++ ns') (ms ++ ms') := by
  induction h with
  | nil => exact h'
  | keep hword hface _ ih => exact .keep hword hface ih
  | bracket ho hc hinner _ _ ih => exact .bracket ho hc hinner ih
  | call hword hc hl _ ih => exact .call hword hc hl ih
  | joined hword hq hstring hc hl _ ih => exact .joined hword hq hstring hc hl ih

/-- A row goes on with a token and what stands for it. -/
theorem Respelled.keep_last {row row' : List Nest}
    (h : Nest.Respelled source known registry name row.reverse row'.reverse) {t t' : Token}
    (hword : (t.depth == 0 && t.isElementWord known) = false) (hface : t'.face = t.face) :
    Nest.Respelled source known registry name (Nest.token t :: row).reverse
      (Nest.token t' :: row').reverse := by
  rw [List.reverse_cons, List.reverse_cons]
  exact h.append (.keep hword hface .nil)

/-! ## Pairing brackets -/

/-- Whether open rows are those of a compiled text. -/
structure Open.Respelled (source : List Char) (known : String → Bool) (registry : Registry)
    (name : String) (s s' : Open) : Prop where
  /-- The innermost row is. -/
  row : Nest.Respelled source known registry name s.row.reverse s'.row.reverse
  /-- The rows around it are, and the brackets that were opened behind them. -/
  outer : List.Forall₂ (fun p p' => p'.1.face = p.1.face ∧
    Nest.Respelled source known registry name p.2.reverse p'.2.reverse) s.outer s'.outer

theorem step_respelled {s s' r : Open} (hs : s.Respelled source known registry name s')
    {t t' : Token} (hword : (t.depth == 0 && t.isElementWord known) = false)
    (hface : t'.face = t.face) (h : step s t = some r) :
    ∃ r', step s' t' = some r' ∧ r.Respelled source known registry name r' := by
  have hkind := Token.kind_eq_of_face hface
  obtain ⟨ht, rfl⟩ | ⟨ht, opener, before, outer, houter, rfl⟩ | ⟨ho, hc, rfl⟩ := step_cases h
  · exact ⟨_, step_opener (hkind ▸ ht) s', .nil, .cons ⟨hface, hs.row⟩ hs.outer⟩
  · have hall := hs.outer
    rw [houter] at hall
    generalize houter' : s'.outer = outer' at hall
    cases hall with
    | @cons p p' outer outer' hp hall =>
      refine ⟨_, step_closer (hkind ▸ ht) houter', ?_, hall⟩
      dsimp only
      rw [List.reverse_cons, List.reverse_cons]
      exact hp.2.append (.bracket hp.1 hface hs.row .nil)
  · exact ⟨_, step_other (hkind ▸ ho) (hkind ▸ hc) s', hs.row.keep_last hword hface, hs.outer⟩

/-- Words and strings are added to the innermost row. -/
theorem run_cons {t : Token} (ht : t.kind = .command ∨ t.kind = .string) (s : Open)
    (ts : List Token) : run s (t :: ts) = run ⟨.token t :: s.row, s.outer⟩ ts := by
  rw [run, step_other (by rcases ht with h | h <;> rw [h] <;> rfl)
    (by rcases ht with h | h <;> rw [h] <;> rfl), Option.bind_some]

/-- A walk over the tokens of a compiled text goes as the one over the text as written. -/
theorem run_respelled {ts us : List Token}
    (h : TagScript.Respelled source known registry name ts us) {s s' r : Open}
    (hs : s.Respelled source known registry name s') (hrun : run s ts = some r) :
    ∃ r', run s' us = some r' ∧ r.Respelled source known registry name r' := by
  induction h generalizing s s' with
  | nil =>
    cases hrun
    exact ⟨s', rfl, hs⟩
  | keep hword hface _ ih =>
    obtain ⟨next, hstep, hrun⟩ := Option.bind_eq_some_iff.mp hrun
    obtain ⟨next', hstep', hnext⟩ := step_respelled hs hword hface hstep
    obtain ⟨r', hrun', hr⟩ := ih hnext hrun
    exact ⟨r', by rw [run, hstep']; exact hrun', hr⟩
  | @call w c l ts us hword hc hl _ ih =>
    rw [run_cons (.inl (Token.kind_of_word hword))] at hrun
    rw [run_cons (.inl (Token.kind_of_face hc)), run_cons (.inr (Token.kind_of_face hl))]
    have hrow := hs.row.append (.call hword hc hl .nil)
    have hnext : Open.Respelled source known registry name ⟨.token w :: s.row, s.outer⟩
        ⟨.token l :: .token c :: s'.row, s'.outer⟩ := ⟨by simpa using hrow, hs.outer⟩
    exact ih hnext hrun
  | @joined w q c l ts us hword hq hstring hc hl _ ih =>
    rw [run_cons (.inl (Token.kind_of_word hword)), run_cons (.inr hstring)] at hrun
    rw [run_cons (.inl (Token.kind_of_face hc)), run_cons (.inr (Token.kind_of_face hl))]
    have hrow := hs.row.append (.joined hword hq hstring hc hl .nil)
    have hnext : Open.Respelled source known registry name
        ⟨.token q :: .token w :: s.row, s.outer⟩ ⟨.token l :: .token c :: s'.row, s'.outer⟩ :=
      ⟨by simpa using hrow, hs.outer⟩
    exact ih hnext hrun

/-- **The brackets of compiled text are paired like those of the text as written.** -/
theorem read_respelled {ts us : List Token}
    (h : TagScript.Respelled source known registry name ts us) {ns : List Nest}
    (hread : read ts = some ns) :
    ∃ ms, read us = some ms ∧ Nest.Respelled source known registry name ns ms := by
  unfold read at hread
  split at hread
  · rename_i row hrun
    cases hread
    have hstart : Open.Respelled source known registry name ⟨[], []⟩ ⟨[], []⟩ := ⟨.nil, .nil⟩
    obtain ⟨⟨row', outer'⟩, hrun', hr⟩ := run_respelled h hstart hrun
    cases hr.outer with
    | nil => exact ⟨row'.reverse, by rw [read, hrun'], hr.row⟩
  · cases hread

/-! ## Cutting rows -/

/-- Whether what is left of a statement is that of a compiled text. -/
structure Left (source : List Char) (known : String → Bool) (registry : Registry) (name : String)
    (current current' : List Nest) : Prop where
  /-- Its nests are. -/
  row : Nest.Respelled source known registry name current.reverse current'.reverse
  /-- One is empty when the other is. -/
  eq_nil_iff : current' = [] ↔ current = []
  /-- One ends with a comma when the other does. -/
  comma_eq : (current'.head?.map (isKind .comma)).getD false =
    (current.head?.map (isKind .comma)).getD false

theorem Left.nil : Left source known registry name [] [] :=
  ⟨.nil, Iff.rfl, rfl⟩

theorem Left.isEmpty_eq {current current' : List Nest}
    (h : Left source known registry name current current') :
    current'.isEmpty = current.isEmpty := by
  rw [Bool.eq_iff_iff, List.isEmpty_iff, List.isEmpty_iff, h.eq_nil_iff]

theorem cut_cons_other {n : Nest} (hnewline : n.isKind .newline = false)
    (hseparator : n.isKind .separator = false) (current row : List Nest) :
    cut current (n :: row) = cut (n :: current) row := by
  rw [cut, hnewline, hseparator]
  rfl

/-- Words and strings go on with a statement. -/
theorem cut_cons_token {t : Token} (ht : t.kind = .command ∨ t.kind = .string)
    (current row : List Nest) : cut current (.token t :: row) = cut (.token t :: current) row :=
  cut_cons_other (by rcases ht with h | h <;> simp [isKind, h])
    (by rcases ht with h | h <;> simp [isKind, h]) current row

/-- A statement goes on with nests and what stands for them. -/
theorem Left.append {current current' ns ms : List Nest}
    (h : Left source known registry name current current')
    (hnests : Nest.Respelled source known registry name ns ms) (hne : ns ≠ [])
    (hcomma : ((ms.reverse ++ current').head?.map (isKind .comma)).getD false =
      ((ns.reverse ++ current).head?.map (isKind .comma)).getD false) :
    Left source known registry name (ns.reverse ++ current) (ms.reverse ++ current') := by
  refine ⟨?_, ?_, hcomma⟩
  · simpa using h.row.append hnests
  · cases hnests <;> simp at hne ⊢

/-- What the rows of a compiled text are cut into, behind what is left of a statement. -/
theorem cut_respelled_left {ns ms : List Nest}
    (h : Nest.Respelled source known registry name ns ms) {current current' : List Nest}
    (hleft : Left source known registry name current current') :
    List.Forall₂ (Nest.Respelled source known registry name) (cut current ns)
      (cut current' ms) := by
  induction h generalizing current current' with
  | nil =>
    rw [cut, cut, hleft.isEmpty_eq]
    split
    · exact .nil
    · exact .cons hleft.row .nil
  | @keep t t' ns ms hword hface _ ih =>
    have hkind (kind : TokenKind) : (Nest.token t').isKind kind = (Nest.token t).isKind kind := by
      rw [isKind, isKind, Token.kind_eq_of_face hface]
    rw [cut, cut, hkind, hkind, hleft.comma_eq, hleft.isEmpty_eq]
    split
    · exact ih hleft
    · split
      · split
        · exact ih .nil
        · exact .cons hleft.row (ih .nil)
      · exact ih (hleft.append (.keep hword hface .nil) (List.cons_ne_nil _ _) (hkind .comma))
  | bracket ho hc hinner _ _ ih =>
    rw [cut_cons_other rfl rfl, cut_cons_other rfl rfl]
    exact ih (hleft.append (.bracket ho hc hinner .nil) (List.cons_ne_nil _ _) rfl)
  | call hword hc hl _ ih =>
    have hw := Token.kind_of_word hword
    rw [cut_cons_token (.inl hw), cut_cons_token (.inl (Token.kind_of_face hc)),
      cut_cons_token (.inr (Token.kind_of_face hl))]
    refine ih (hleft.append (.call hword hc hl .nil) (List.cons_ne_nil _ _) ?_)
    simp [isKind, hw, Token.kind_of_face hl]
  | joined hword hq hstring hc hl _ ih =>
    rw [cut_cons_token (.inl (Token.kind_of_word hword)), cut_cons_token (.inr hstring),
      cut_cons_token (.inl (Token.kind_of_face hc)), cut_cons_token (.inr (Token.kind_of_face hl))]
    refine ih (hleft.append (.joined hword hq hstring hc hl .nil) (List.cons_ne_nil _ _) ?_)
    simp [isKind, hstring, Token.kind_of_face hl]

/-- **The statements of compiled text come from those of the text as written, one from one.** -/
theorem cut_respelled {ns ms : List Nest}
    (h : Nest.Respelled source known registry name ns ms) :
    List.Forall₂ (Nest.Respelled source known registry name) (cut [] ns) (cut [] ms) :=
  cut_respelled_left h .nil

end Nest

end TagScript
