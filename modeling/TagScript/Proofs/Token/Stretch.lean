import TagScript.Token.Lexer

/-!
# A text as a row of stretches

`scan` walks over a text character by character. Here a text that it accepts is taken apart into
**stretches**, the blanks and the tokens it consists of.

* `Begins` — what it takes for a token to be read off the front of a text.
* `Readable` — a row of stretches in which each token is read off the text that follows it and the
  brackets are balanced. Nothing in it speaks of places, so a stretch can be moved.
* `tokensAt` — the tokens of a row that begins at a place.
* **`tokenize_eq_ok_iff`** — the tokens of a text are those of the readable rows that make it up.
-/

namespace TagScript.Lexer

/-- A part of a text. -/
inductive Stretch where
  /-- A blank between tokens. -/
  | blank (c : Char)
  /-- A token: its kind, its characters and its depth. -/
  | token (kind : TokenKind) (text : List Char) (depth : Nat)
  deriving Repr, DecidableEq

/-- The characters of a stretch. -/
def Stretch.chars : Stretch → List Char
  | .blank c => [c]
  | .token _ text _ => text

/-- The text that a row of stretches makes up. -/
def textOf (row : List Stretch) : List Char :=
  row.flatMap Stretch.chars

@[simp] theorem textOf_nil : textOf [] = [] := rfl

@[simp] theorem textOf_blank (c : Char) (row : List Stretch) :
    textOf (.blank c :: row) = c :: textOf row := rfl

@[simp] theorem textOf_token (kind : TokenKind) (text : List Char) (depth : Nat)
    (row : List Stretch) : textOf (.token kind text depth :: row) = text ++ textOf row := rfl

/-- The depth of a token of a kind and the opening brackets around what follows it, when those
around the token are `opened`, innermost first. A closing bracket must match. -/
def nest? (opened : List Char) (kind : TokenKind) : Option (Nat × List Char) :=
  match kind, opened with
  | .groupStart, _ => some (opened.count '{', '{' :: opened)
  | .parenStart, _ => some (opened.count '{', '(' :: opened)
  | .groupEnd, '{' :: outer => some (outer.count '{', outer)
  | .groupEnd, _ => none
  | .parenEnd, '(' :: outer => some (outer.count '{', outer)
  | .parenEnd, _ => none
  | _, _ => some (opened.count '{', opened)

/-- Whether `text` is the token that is read off the front of `text ++ after`. -/
def Begins (commandNext : Bool) (kind : TokenKind) (text after : List Char) : Prop :=
  ∃ c more, text = c :: more ∧
    lexeme commandNext c (more ++ after) = .ok (.token kind more.length)

/-- Whether a row of stretches is what its text is read as, between the brackets `opened`. -/
def Readable (commandNext : Bool) (opened : List Char) : List Stretch → Prop
  | [] => opened = []
  | .blank c :: row => isInlineSpace c = true ∧ Readable commandNext opened row
  | .token kind text depth :: row =>
    Begins commandNext kind text (textOf row) ∧
      ∃ inner, nest? opened kind = some (depth, inner) ∧
        Readable (kind.beginsStatement commandNext) inner row

/-- The tokens of a row of stretches that begins at a place. -/
def tokensAt (pos : Position) (offset : Nat) : List Stretch → List Token
  | [] => []
  | .blank c :: row => tokensAt (pos.advance c) (offset + 1) row
  | .token kind text depth :: row =>
    ⟨kind, String.ofList text, pos, text.length, depth, offset⟩ ::
      tokensAt (pos.advanceAll text) (offset + text.length) row

/-- The kind of a stretch that is a token. -/
def Stretch.kind? : Stretch → Option TokenKind
  | .blank _ => none
  | .token kind _ _ => some kind

/-- The tokens of a row have the kinds of its stretches. -/
theorem map_kind_tokensAt (pos : Position) (offset : Nat) (row : List Stretch) :
    (tokensAt pos offset row).map Token.kind = row.filterMap Stretch.kind? := by
  induction row generalizing pos offset with
  | nil => rfl
  | cons s row ih =>
    cases s with
    | blank c => exact ih ..
    | token kind text depth =>
      rw [tokensAt, List.map_cons, ih]
      rfl

/-! ## The rules by which tokens are read -/

/-- The kind of a token that is a single character. -/
def markKind? : Char → Option TokenKind
  | '\n' => some .newline
  | ';' => some .separator
  | ',' => some .comma
  | '{' => some .groupStart
  | '}' => some .groupEnd
  | '(' => some .parenStart
  | ')' => some .parenEnd
  | _ => none

/-- Whether a bare word begins with `c` when `rest` follows. -/
def beginsWord (c : Char) (rest : List Char) : Bool :=
  if c = '-' then beginsNumber rest else Text.isLetterOrNumber c || c == '_' || c == '.'

/-- The characters of a bare word after its first. -/
def wordTail (rest : List Char) : List Char :=
  rest.takeWhile fun d => !isDelimiter d

/-- The rules of `lexeme`: the kind of the token that begins with a character, and how many of the
characters that follow belong to it. -/
inductive Rule (commandNext : Bool) : Char → List Char → TokenKind → Nat → Prop where
  | mark {c rest kind} : markKind? c = some kind → Rule commandNext c rest kind 0
  | remark {rest} : Rule commandNext '#' rest .comment (rest.takeWhile (· ≠ '\n')).length
  | join {rest n} : continuationLength rest = .ok n → Rule commandNext '`' rest .continuation n
  | doubleQuote {rest n} : doubleQuoted? rest = some n → Rule commandNext '"' rest .string n
  | apostrophe {rest n} : singleQuoted? rest = some n → Rule commandNext '\'' rest .string n
  | dollar {rest n} : variableLength rest = .ok n → Rule commandNext '$' rest .variable n
  | square {rest n} : castLength rest = .ok n → Rule commandNext '[' rest .cast n
  | hyphen {rest n} : beginsNumber rest = false → parameterLength rest = .ok n →
      Rule commandNext '-' rest .parameter n
  | word {c rest} : beginsWord c rest = true →
      Rule commandNext c rest (wordKind commandNext (c :: wordTail rest)) (wordTail rest).length

theorem isDelimiter_iff {c : Char} : isDelimiter c = true ↔ c = ' ' ∨ c = '\t' ∨ c = '\r' ∨
    c = '\n' ∨ c = '{' ∨ c = '}' ∨ c = '(' ∨ c = ')' ∨ c = '[' ∨ c = ']' ∨ c = ';' ∨ c = ',' ∨
    c = '"' ∨ c = '\'' ∨ c = '$' ∨ c = '#' ∨ c = '`' := by
  simp only [isDelimiter, isInlineSpace, Bool.or_eq_true, beq_iff_eq, or_assoc]

/-- A delimiter begins no bare word. -/
theorem beginsWord_eq_false {c : Char} (h : isDelimiter c = true) (rest : List Char) :
    beginsWord c rest = false := by
  rw [isDelimiter_iff] at h
  rcases h with rfl | rfl | rfl | rfl | rfl | rfl | rfl | rfl | rfl | rfl | rfl | rfl | rfl | rfl |
    rfl | rfl | rfl <;> rfl

theorem exists_of_map_eq_ok {r : Except SyntaxProblem Nat} {kind : TokenKind} {l : Lexeme}
    (h : r.map (Lexeme.token kind) = .ok l) : ∃ n, r = .ok n ∧ l = .token kind n := by
  cases r with
  | error e => cases h
  | ok n =>
    cases h
    exact ⟨n, rfl, rfl⟩

/-- What `lexeme` finds is a blank, or a token by one of the rules. -/
theorem lexeme_eq_ok {commandNext : Bool} {c : Char} {rest : List Char} {l : Lexeme}
    (h : lexeme commandNext c rest = .ok l) :
    l = .blank ∧ isInlineSpace c = true ∨
      ∃ kind n, l = .token kind n ∧ Rule commandNext c rest kind n := by
  by_cases hd : isDelimiter c = true
  · rw [isDelimiter_iff] at hd
    rcases hd with rfl | rfl | rfl | rfl | rfl | rfl | rfl | rfl | rfl | rfl | rfl | rfl | rfl |
      rfl | rfl | rfl | rfl
    · cases h; exact .inl ⟨rfl, rfl⟩
    · cases h; exact .inl ⟨rfl, rfl⟩
    · cases h; exact .inl ⟨rfl, rfl⟩
    · cases h; exact .inr ⟨_, _, rfl, .mark rfl⟩
    · cases h; exact .inr ⟨_, _, rfl, .mark rfl⟩
    · cases h; exact .inr ⟨_, _, rfl, .mark rfl⟩
    · cases h; exact .inr ⟨_, _, rfl, .mark rfl⟩
    · cases h; exact .inr ⟨_, _, rfl, .mark rfl⟩
    · obtain ⟨n, hr, rfl⟩ := exists_of_map_eq_ok h
      exact .inr ⟨_, _, rfl, .square hr⟩
    · cases h
    · cases h; exact .inr ⟨_, _, rfl, .mark rfl⟩
    · cases h; exact .inr ⟨_, _, rfl, .mark rfl⟩
    · cases hq : doubleQuoted? rest with
      | none => simp [lexeme, isInlineSpace, hq] at h
      | some n =>
        simp only [lexeme, isInlineSpace, hq] at h
        cases h
        exact .inr ⟨_, _, rfl, .doubleQuote hq⟩
    · cases hq : singleQuoted? rest with
      | none => simp [lexeme, isInlineSpace, hq] at h
      | some n =>
        simp only [lexeme, isInlineSpace, hq] at h
        cases h
        exact .inr ⟨_, _, rfl, .apostrophe hq⟩
    · obtain ⟨n, hr, rfl⟩ := exists_of_map_eq_ok h
      exact .inr ⟨_, _, rfl, .dollar hr⟩
    · cases h; exact .inr ⟨_, _, rfl, .remark⟩
    · obtain ⟨n, hr, rfl⟩ := exists_of_map_eq_ok h
      exact .inr ⟨_, _, rfl, .join hr⟩
  · simp only [isDelimiter_iff, not_or] at hd
    simp only [lexeme, isInlineSpace, hd, Bool.or_eq_true, beq_iff_eq, or_self, if_false] at h
    split at h
    case isTrue hyphen =>
      split at h
      case isTrue number =>
        cases h
        exact .inr ⟨_, _, rfl, .word (by simp [beginsWord, hyphen, number])⟩
      case isFalse number =>
        obtain ⟨n, hr, rfl⟩ := exists_of_map_eq_ok h
        exact .inr ⟨_, _, rfl, hyphen ▸ .hyphen (by simpa using number) hr⟩
    case isFalse hyphen =>
      split at h
      case isTrue start =>
        cases h
        exact .inr ⟨_, _, rfl, .word (by simpa [beginsWord, hyphen] using start)⟩
      case isFalse => cases h

/-- A token that `lexeme` reads is read by one of the rules. -/
theorem rule_of_lexeme {commandNext : Bool} {c : Char} {rest : List Char} {kind : TokenKind}
    {n : Nat} (h : lexeme commandNext c rest = .ok (.token kind n)) :
    Rule commandNext c rest kind n := by
  rcases lexeme_eq_ok h with ⟨hl, _⟩ | ⟨_, _, hl, hr⟩
  · cases hl
  · cases hl
    exact hr

/-- Only blanks are passed over between tokens. -/
theorem isInlineSpace_of_lexeme {commandNext : Bool} {c : Char} {rest : List Char}
    (h : lexeme commandNext c rest = .ok .blank) : isInlineSpace c = true := by
  rcases lexeme_eq_ok h with ⟨_, hc⟩ | ⟨_, _, hl, _⟩
  · exact hc
  · cases hl

/-- What the rules say is what `lexeme` reads. -/
theorem Rule.lexeme_eq {commandNext : Bool} {c : Char} {rest : List Char} {kind : TokenKind}
    {n : Nat} (h : Rule commandNext c rest kind n) :
    lexeme commandNext c rest = .ok (.token kind n) := by
  cases h with
  | mark h =>
    unfold markKind? at h
    split at h <;> first | cases h; rfl | cases h
  | remark => rfl
  | join h => simp [lexeme, isInlineSpace, h, Except.map]
  | doubleQuote h => simp [lexeme, isInlineSpace, h]
  | apostrophe h => simp [lexeme, isInlineSpace, h]
  | dollar h => simp [lexeme, isInlineSpace, h, Except.map]
  | square h => simp [lexeme, isInlineSpace, h, Except.map]
  | hyphen hn h => simp [lexeme, isInlineSpace, hn, h, Except.map]
  | word h =>
    have hc : ¬ isDelimiter c = true := fun hc => by
      rw [beginsWord_eq_false hc] at h
      cases h
    simp only [isDelimiter_iff, not_or] at hc
    unfold beginsWord at h
    split at h
    case isTrue hyphen => simp [lexeme, isInlineSpace, hyphen, h, Lexer.word, wordTail]
    case isFalse hyphen =>
      simp only [Bool.or_eq_true, beq_iff_eq] at h
      simp [lexeme, isInlineSpace, hc, hyphen, h, Lexer.word, wordTail]

/-! ## The length of a token -/

theorem le_of_map_add {o : Option Nat} {n k len : Nat} (h : o.map (· + k) = some n)
    (ih : ∀ {m}, o = some m → m ≤ len) : n ≤ len + k := by
  obtain ⟨m, hm, rfl⟩ := Option.map_eq_some_iff.mp h
  exact Nat.add_le_add_right (ih hm) k

theorem le_of_doubleQuoted? {cs : List Char} {n : Nat} (h : doubleQuoted? cs = some n) :
    n ≤ cs.length := by
  fun_induction doubleQuoted? cs generalizing n with
  | case1 => cases h
  | case2 _ rest ih => exact show n ≤ rest.length + 2 from le_of_map_add h ih
  | case3 rest ih => exact show n ≤ rest.length + 2 from le_of_map_add h ih
  | case4 rest _ =>
    cases h
    simp
  | case5 _ rest _ _ _ ih => exact le_of_map_add h ih

theorem le_of_singleQuoted? {cs : List Char} {n : Nat} (h : singleQuoted? cs = some n) :
    n ≤ cs.length := by
  fun_induction singleQuoted? cs generalizing n with
  | case1 => cases h
  | case2 rest ih => exact show n ≤ rest.length + 2 from le_of_map_add h ih
  | case3 rest _ =>
    cases h
    simp
  | case4 _ rest _ _ ih => exact le_of_map_add h ih

theorem memberTail_le (cs : List Char) : memberTail cs ≤ cs.length := by
  induction cs with
  | nil => simp [memberTail]
  | cons c rest ih =>
    simp only [memberTail, List.length_cons]
    split
    · omega
    · split <;> omega

theorem members_le (cs : List Char) : members cs ≤ cs.length := by
  unfold members
  split
  · exact memberTail_le cs
  · exact Nat.zero_le _

/-- A list that holds an element is longer than what stands before it. -/
theorem length_takeWhile_ne_lt {cs : List Char} {c : Char} (h : c ∈ cs) :
    (cs.takeWhile (· ≠ c)).length < cs.length := by
  induction cs with
  | nil => cases h
  | cons d rest ih =>
    by_cases hd : d = c
    · simp [hd]
    · have hr : c ∈ rest := (List.mem_cons.mp h).resolve_left (Ne.symm hd)
      simpa [hd] using ih hr

theorem le_of_variableLength {rest : List Char} {n : Nat} (h : variableLength rest = .ok n) :
    n ≤ rest.length := by
  unfold variableLength at h
  split at h
  · rename_i inner
    dsimp only at h
    split at h
    · cases h
    · rename_i hc
      cases h
      simp only [Bool.or_eq_true, Bool.not_eq_true', not_or, Bool.not_eq_false] at hc
      have hlt := length_takeWhile_ne_lt (List.contains_iff_mem.mp hc.1)
      have hm := members_le (inner.drop ((inner.takeWhile (· ≠ '}')).length + 1))
      simp only [List.length_drop] at hm
      simp only [List.length_cons]
      omega
  · split at h
    · cases h
      exact memberTail_le _
    · cases h
  · cases h

theorem le_of_castLength {rest : List Char} {n : Nat} (h : castLength rest = .ok n) :
    n ≤ rest.length := by
  unfold castLength at h
  split at h
  case isTrue hc =>
    dsimp only at h
    split at h
    · cases h
      exact length_takeWhile_ne_lt (List.contains_iff_mem.mp hc)
    · cases h
  case isFalse => cases h

theorem le_of_parameterLength {rest : List Char} {n : Nat} (h : parameterLength rest = .ok n) :
    n ≤ rest.length := by
  unfold parameterLength at h
  split at h
  · split at h
    · cases h
      exact (List.takeWhile_sublist _).length_le
    · cases h
  · cases h

theorem le_of_continuationLength {rest : List Char} {n : Nat}
    (h : continuationLength rest = .ok n) : n ≤ rest.length := by
  have hle : (rest.takeWhile isInlineSpace).length ≤ rest.length :=
    (List.takeWhile_sublist _).length_le
  unfold continuationLength at h
  dsimp only at h
  split at h
  · cases h
    exact hle
  · rename_i c more hdrop
    split at h
    · cases h
      have := congrArg List.length hdrop
      simp only [List.length_drop, List.length_cons] at this
      omega
    · cases h

/-- A token takes no more characters than there are. -/
theorem Rule.le {commandNext : Bool} {c : Char} {rest : List Char} {kind : TokenKind} {n : Nat}
    (h : Rule commandNext c rest kind n) : n ≤ rest.length := by
  cases h with
  | mark _ => exact Nat.zero_le _
  | remark => exact (List.takeWhile_sublist _).length_le
  | join h => exact le_of_continuationLength h
  | doubleQuote h => exact le_of_doubleQuoted? h
  | apostrophe h => exact le_of_singleQuoted? h
  | dollar h => exact le_of_variableLength h
  | square h => exact le_of_castLength h
  | hyphen _ h => exact le_of_parameterLength h
  | word _ => exact (List.takeWhile_sublist _).length_le

/-! ## Scanning a row of stretches -/

/-- The characters that belong to a token read before are passed over. -/
theorem scan_append (s : State) (xs ys : List Char) (h : s.skip = xs.length) :
    scan s (xs ++ ys) =
      scan ⟨s.pos.advanceAll xs, s.offset + xs.length, 0, s.opened, s.commandNext⟩ ys := by
  induction xs generalizing s with
  | nil =>
    obtain ⟨pos, offset, skip, opened, commandNext⟩ := s
    cases h
    rfl
  | cons c xs ih =>
    have hs : s.skip ≠ 0 := by simp [h]
    rw [List.cons_append, scan, if_pos hs, ih (s.step c) (by simp [State.step, h])]
    simp [State.step, Nat.add_comm, Nat.add_left_comm]

/-- `bracketStep` does to the open brackets what `nest?` does to their characters. -/
theorem nest?_map (opened : Brackets) (kind : TokenKind) (pos : Position) :
    nest? (opened.map (·.1)) kind =
      (bracketStep opened kind pos).toOption.map fun r => (r.1, r.2.map (·.1)) := by
  have hdepth (bs : Brackets) : (bs.map (·.1)).count '{' = depth bs := by
    rw [List.count, List.countP_map]
    rfl
  cases kind with
  | groupEnd =>
    rcases opened with _ | ⟨⟨c, place⟩, outer⟩
    · rfl
    · by_cases hc : c = '{'
      · simp [nest?, bracketStep, hdepth, Except.toOption, hc]
      · simp [nest?, bracketStep, Except.toOption, hc]
  | parenEnd =>
    rcases opened with _ | ⟨⟨c, place⟩, outer⟩
    · rfl
    · by_cases hc : c = '('
      · simp [nest?, bracketStep, hdepth, Except.toOption, hc]
      · simp [nest?, bracketStep, Except.toOption, hc]
  | _ => simp [nest?, bracketStep, hdepth, Except.toOption]

/-- A bracket that `nest?` admits is admitted by `bracketStep`. -/
theorem exists_bracketStep {opened : Brackets} {kind : TokenKind} {depth : Nat}
    {inner : List Char} (h : nest? (opened.map (·.1)) kind = some (depth, inner))
    (pos : Position) :
    ∃ bs, bracketStep opened kind pos = .ok (depth, bs) ∧ bs.map (·.1) = inner := by
  rw [nest?_map opened kind pos] at h
  cases hb : bracketStep opened kind pos with
  | error problem => simp [hb, Except.toOption] at h
  | ok r =>
    obtain ⟨d, bs⟩ := r
    simp only [hb, Except.toOption, Option.map_some, Option.some.injEq, Prod.mk.injEq] at h
    obtain ⟨rfl, hbs⟩ := h
    exact ⟨bs, rfl, hbs⟩

/-- One step of a scan: a token is read, and the scan goes on behind it. -/
theorem scan_token {s : State} (hs : s.skip = 0) {c : Char} {more after : List Char}
    {kind : TokenKind} {depth : Nat} {opened : Brackets}
    (hlex : lexeme s.commandNext c (more ++ after) = .ok (.token kind more.length))
    (hstep : bracketStep s.opened kind s.pos = .ok (depth, opened)) :
    scan s (c :: (more ++ after)) =
      (scan ⟨s.pos.advanceAll (c :: more), s.offset + (c :: more).length, 0, opened,
        kind.beginsStatement s.commandNext⟩ after).map
        (⟨kind, String.ofList (c :: more), s.pos, (c :: more).length, depth, s.offset⟩ :: ·) := by
  rw [scan, if_neg (by simp [hs]), hlex]
  simp only [hstep, List.take_left]
  rw [scan_append _ more after rfl]
  simp [State.step, Nat.add_assoc, Nat.add_comm 1]

/-- A readable row is scanned to its tokens. -/
theorem scan_textOf {row : List Stretch} {s : State} (hs : s.skip = 0)
    (h : Readable s.commandNext (s.opened.map (·.1)) row) :
    scan s (textOf row) = .ok (tokensAt s.pos s.offset row) := by
  induction row generalizing s with
  | nil =>
    have hopened : s.opened = [] := List.map_eq_nil_iff.mp h
    rw [textOf_nil, scan, hopened]
    rfl
  | cons stretch row ih =>
    cases stretch with
    | blank c =>
      obtain ⟨hc, hrow⟩ := h
      rw [textOf_blank, scan, if_neg (by simp [hs])]
      simp only [lexeme, hc, if_true]
      exact ih (by simp [State.step, hs]) hrow
    | token kind text depth =>
      obtain ⟨⟨c, more, rfl, hlex⟩, inner, hnest, hrow⟩ := h
      obtain ⟨opened, hstep, rfl⟩ := exists_bracketStep hnest s.pos
      rw [textOf_token, List.cons_append, scan_token hs hlex hstep, ih rfl hrow]
      rfl

/-- What is scanned is the text of a readable row. -/
theorem exists_row_of_scan {s : State} (hs : s.skip = 0) {cs : List Char} {ts : List Token}
    (h : scan s cs = .ok ts) : ∃ row, textOf row = cs ∧
      Readable s.commandNext (s.opened.map (·.1)) row ∧ tokensAt s.pos s.offset row = ts := by
  induction hn : cs.length using Nat.strongRecOn generalizing s cs ts with
  | ind n ih =>
    subst hn
    cases cs with
    | nil =>
      rw [scan] at h
      split at h
      · rename_i hopened
        cases h
        exact ⟨[], rfl, by simp [Readable, hopened], rfl⟩
      · cases h
    | cons c rest =>
      cases hlex : lexeme s.commandNext c rest with
      | error problem => simp [scan, hs, hlex] at h
      | ok l =>
        cases l with
        | blank =>
          rw [scan, if_neg (by simp [hs]), hlex] at h
          obtain ⟨row, htext, hrow, htokens⟩ :=
            ih rest.length (by simp) (by simp [State.step, hs]) h rfl
          exact ⟨.blank c :: row, by rw [textOf_blank, htext],
            ⟨isInlineSpace_of_lexeme hlex, hrow⟩, htokens⟩
        | token kind n =>
          obtain ⟨more, after, rfl, rfl⟩ : ∃ more after, rest = more ++ after ∧ more.length = n :=
            ⟨rest.take n, rest.drop n, (List.take_append_drop n rest).symm,
              List.length_take_of_le (rule_of_lexeme hlex).le⟩
          cases hstep : bracketStep s.opened kind s.pos with
          | error problem => simp [scan, hs, hlex, hstep] at h
          | ok r =>
            obtain ⟨depth, opened⟩ := r
            rw [scan_token hs hlex hstep] at h
            cases hscan : scan _ after with
            | error f =>
              rw [hscan] at h
              cases h
            | ok us =>
              rw [hscan] at h
              cases h
              have hless : after.length < (c :: (more ++ after)).length := by
                rw [List.length_cons, List.length_append]
                omega
              obtain ⟨row, rfl, hrow, htokens⟩ := ih after.length hless rfl hscan rfl
              refine ⟨.token kind (c :: more) depth :: row, by simp, ⟨⟨c, more, rfl, hlex⟩,
                opened.map (·.1), ?_, hrow⟩, ?_⟩
              · rw [nest?_map s.opened kind s.pos, hstep]
                rfl
              · rw [tokensAt, htokens]

/-- **The tokens of a text are those of the readable rows that make it up.** -/
theorem tokenize_eq_ok_iff {source : String} {ts : List Token} :
    tokenize source = .ok ts ↔
      ∃ row, textOf row = source.toList ∧ Readable true [] row ∧ tokensAt .start 0 row = ts := by
  constructor
  · exact exists_row_of_scan rfl
  · rintro ⟨row, htext, hrow, rfl⟩
    rw [tokenize, ← htext]
    exact scan_textOf rfl hrow

end TagScript.Lexer
