import TagScript.Proofs.Template.Respelling
import TagScript.Proofs.Token.Tiling
import TagScript.Script

/-!
# Brace groups

What stands between two braces is read as it would be read alone, and a text that is read can be put
between two braces. A token looks at two characters behind it at most, and no token goes on with a
brace or with a newline.

* `Stretch.raise` — a stretch some levels further inside.
* `Fits.cut`, `Fits.extend` — what fits behind a token when the text is cut at a brace, or goes on
  with a newline.
* **`Readable.exists_group`** — behind an opening brace there are a row that is readable alone, the
  closing brace, and the rest.
* **`Readable.enclose`** — a readable row stays readable inside brackets.
* `Balanced`, `Readable.balanced` — the braces of a row have their partners there.
-/

namespace TagScript

namespace Lexer

open Text (isNameChar)

/-! ## Rows some levels further inside -/

/-- A stretch some levels further inside. -/
def Stretch.raise (levels : Nat) : Stretch → Stretch
  | .blank c => .blank c
  | .token kind text depth => .token kind text (depth + levels)

@[simp] theorem Stretch.chars_raise (levels : Nat) (s : Stretch) :
    (s.raise levels).chars = s.chars := by
  cases s <;> rfl

@[simp] theorem textOf_map_raise (levels : Nat) (row : List Stretch) :
    textOf (row.map (Stretch.raise levels)) = textOf row := by
  simp [textOf, List.flatMap_map]

/-! ## Marks -/

theorem eq_of_markKind? {c d : Char} {kind : TokenKind} (hc : markKind? c = some kind)
    (hd : markKind? d = some kind) : c = d := by
  unfold markKind? at hc hd
  split at hc <;> cases hc <;> (split at hd <;> first | rfl | cases hd)

/-- A token whose kind is that of a mark is the mark. -/
theorem Begins.eq_mark {commandNext : Bool} {kind : TokenKind} {text after : List Char}
    (h : Begins commandNext kind text after) {c : Char} (hc : markKind? c = some kind) :
    text = [c] := by
  obtain ⟨d, more, rfl, -⟩ := id h
  have hrule := h.rule
  generalize hn : more.length = n at hrule
  have hword (word : List Char) : markKind? c ≠ some (wordKind commandNext word) := by
    unfold markKind? wordKind
    split <;> split <;> (try split) <;> simp
  cases hrule with
  | mark hd => rw [eq_of_markKind? hd hc, List.length_eq_zero_iff.mp hn]
  | word => exact absurd hc (hword _)
  | _ => unfold markKind? at hc; split at hc <;> cases hc

/-- A mark is read wherever it stands. -/
theorem begins_mark {c : Char} {kind : TokenKind} (hc : markKind? c = some kind)
    (commandNext : Bool) (after : List Char) : Begins commandNext kind [c] after :=
  ⟨c, [], rfl, (Rule.mark hc).lexeme_eq⟩

/-- A string begins with a quote. -/
theorem Begins.head?_string {commandNext : Bool} {text after : List Char}
    (h : Begins commandNext .string text after) :
    text.head? = some '"' ∨ text.head? = some '\'' := by
  obtain ⟨c, more, rfl, -⟩ := id h
  have hrule := h.rule
  generalize hn : more.length = n at hrule
  generalize hkind : TokenKind.string = kind at hrule
  cases hrule with
  | doubleQuote => exact .inl rfl
  | apostrophe => exact .inr rfl
  | mark hc => unfold markKind? at hc; split at hc <;> cases hc <;> cases hkind
  | word => unfold wordKind at hkind; split at hkind <;> (try split at hkind) <;> cases hkind
  | _ => cases hkind

/-! ## What fits behind a token -/

section

variable {c : Char} {xs ys : List Char}

theorem stops_append {p : Char → Bool} (hc : p c = false) :
    Stops p (xs ++ c :: ys) ↔ Stops p xs := by
  cases xs <;> simp [hc]

/-- Names and points end before a character that is neither. -/
theorem memberTail_append_eq_zero (hname : isNameChar c = false) (hdot : c ≠ '.') :
    memberTail (xs ++ c :: ys) = 0 ↔ memberTail xs = 0 := by
  rw [memberTail_eq_zero_iff, memberTail_eq_zero_iff]
  rcases xs with _ | ⟨x, _ | ⟨y, xs⟩⟩
  · simp [hname, hdot]
  · simp [hname]
  · simp

theorem members_append_eq_zero (hname : isNameChar c = false) (hdot : c ≠ '.') :
    members (xs ++ c :: ys) = 0 ↔ members xs = 0 := by
  cases xs with
  | nil => simp [members, hdot]
  | cons x xs =>
    simp only [members, List.cons_append, List.head?_cons, Option.some.injEq]
    split
    · exact @memberTail_append_eq_zero c (x :: xs) ys hname hdot
    · rfl

end

theorem not_isParameterChar_brace : isParameterChar '}' = false := by decide

/-- What fits behind a token fits behind it where the text is cut at a brace. -/
theorem Fits.cut {kind : TokenKind} {text xs ys : List Char} (htext : text ≠ [])
    (h : Fits kind text (xs ++ '}' :: ys)) : Fits kind text xs := by
  have hname : isNameChar '}' = false := by decide
  have hdot : '}' ≠ '.' := by decide
  unfold Fits at h ⊢
  split at h
  · exact (stops_append rfl).mp h
  · exact (stops_append rfl).mp h
  · exact (stops_append rfl).mp h
  · exact (stops_append not_isParameterChar_brace).mp h
  · cases xs with
    | nil => exact fun heq => htext (List.head?_eq_none_iff.mp heq.symm)
    | cons x xs => exact h
  · simpa only [memberTail_append_eq_zero hname hdot, members_append_eq_zero hname hdot] using h
  · cases xs with
    | nil => exact stops_nil _
    | cons x xs => exact h
  · exact .inl (h.resolve_right (by simp))
  · trivial

/-- What fits behind a token fits behind it when the text goes on with a newline, unless the token
joins lines and the text is at its end. -/
theorem Fits.extend {kind : TokenKind} {text xs : List Char} (ys : List Char)
    (hstring : kind = .string → text.head? ≠ some '\n') (hjoin : kind = .continuation → xs ≠ [])
    (h : Fits kind text xs) : Fits kind text (xs ++ '\n' :: ys) := by
  have hname : isNameChar '\n' = false := by decide
  have hdot : '\n' ≠ '.' := by decide
  unfold Fits at h ⊢
  split at h
  · exact (stops_append rfl).mpr h
  · exact (stops_append rfl).mpr h
  · exact (stops_append rfl).mpr h
  · exact (stops_append (by decide)).mpr h
  · cases xs with
    | nil => exact (hstring rfl).symm
    | cons x xs => exact h
  · simpa only [memberTail_append_eq_zero hname hdot, members_append_eq_zero hname hdot] using h
  · exact (stops_append (by decide)).mpr h
  · exact .inl (h.resolve_right (hjoin rfl))
  · trivial

/-! ## Cutting a row at its closing brace -/

theorem count_inside (inside outer : List Char) :
    (inside ++ '{' :: outer).count '{' = inside.count '{' + (outer.count '{' + 1) := by
  simp

/-- A token inside a brace group does to the brackets of the group what it does alone, or it closes
the group. -/
theorem nest?_inside {inside outer inner : List Char} {kind : TokenKind} {depth : Nat}
    (h : nest? (inside ++ '{' :: outer) kind = some (depth, inner)) :
    (inside = [] ∧ kind = .groupEnd ∧ depth = outer.count '{' ∧ inner = outer) ∨
      ∃ d inner', nest? inside kind = some (d, inner') ∧ depth = d + (outer.count '{' + 1) ∧
        inner = inner' ++ '{' :: outer := by
  cases kind with
  | groupEnd =>
    cases inside with
    | nil =>
      cases h
      exact .inl ⟨rfl, rfl, rfl, rfl⟩
    | cons c inside =>
      by_cases hc : c = '{'
      · subst hc
        cases h
        exact .inr ⟨_, inside, rfl, count_inside .., rfl⟩
      · simp [nest?, hc] at h
  | parenEnd =>
    cases inside with
    | nil => cases h
    | cons c inside =>
      by_cases hc : c = '('
      · subst hc
        cases h
        exact .inr ⟨_, inside, rfl, count_inside .., rfl⟩
      · simp [nest?, hc] at h
  | _ =>
    cases h
    exact .inr ⟨_, _, rfl, count_inside .., rfl⟩

/-- **Behind an opening brace there are a row that is readable alone, the closing brace, and the
rest.** Here `inside` are the brackets that were opened within the group. -/
theorem Readable.exists_group {commandNext : Bool} {inside outer : List Char} {row : List Stretch}
    (h : Readable commandNext (inside ++ '{' :: outer) row) :
    ∃ inner after, row = inner.map (Stretch.raise (outer.count '{' + 1)) ++
        .token .groupEnd ['}'] (outer.count '{') :: after ∧
      Readable commandNext inside inner ∧ Readable false outer after := by
  induction row generalizing commandNext inside with
  | nil => simp [Readable] at h
  | cons s row ih =>
    cases s with
    | blank c =>
      obtain ⟨hc, hrow⟩ := h
      obtain ⟨inner, after, rfl, hinner, hafter⟩ := ih hrow
      exact ⟨.blank c :: inner, after, rfl, ⟨hc, hinner⟩, hafter⟩
    | token kind text depth =>
      obtain ⟨hbegins, opened, hnest, hrow⟩ := h
      obtain ⟨rfl, rfl, rfl, rfl⟩ | ⟨d, inside', hinside, rfl, rfl⟩ := nest?_inside hnest
      · rw [hbegins.eq_mark (show markKind? '}' = some .groupEnd from rfl)]
        exact ⟨[], row, rfl, rfl, hrow⟩
      · obtain ⟨inner, after, rfl, hinner, hafter⟩ := ih hrow
        refine ⟨.token kind text d :: inner, after, rfl, ⟨?_, inside', hinside, hinner⟩, hafter⟩
        rw [textOf_append, textOf_map_raise, textOf_token, List.singleton_append] at hbegins
        obtain ⟨halone, hfits⟩ := begins_iff.mp hbegins
        exact begins_iff.mpr ⟨halone, hfits.cut hbegins.ne_nil⟩

/-! ## Putting a row between braces -/

/-- A token does to the inner brackets what it does to them alone. -/
theorem nest?_append {opened inner : List Char} {kind : TokenKind} {depth : Nat}
    (h : nest? opened kind = some (depth, inner)) (outer : List Char) :
    nest? (opened ++ outer) kind = some (depth + outer.count '{', inner ++ outer) := by
  cases kind with
  | groupEnd | parenEnd =>
    unfold nest? at h
    split at h <;> first
      | contradiction
      | (cases h; simp [nest?])
  | _ =>
    cases h
    simp [nest?]

/-- **A readable row stays readable inside brackets**, when a newline comes behind it and it does
not end with a line join. -/
theorem Readable.enclose {commandNext : Bool} {opened outer : List Char} {row more : List Stretch}
    (h : Readable commandNext opened row)
    (hlast : ∀ earlier text depth, row ≠ earlier ++ [.token .continuation text depth])
    {newline : List Char} (hmore : textOf more = '\n' :: newline)
    (hrest : ∀ next, Readable next outer more) :
    Readable commandNext (opened ++ outer)
      (row.map (Stretch.raise (outer.count '{')) ++ more) := by
  induction row generalizing commandNext opened with
  | nil =>
    rw [show opened = [] from h]
    exact hrest _
  | cons s row ih =>
    have htail : ∀ earlier text depth, row ≠ earlier ++ [.token .continuation text depth] :=
      fun earlier text depth heq => hlast (s :: earlier) text depth (by rw [heq]; rfl)
    cases s with
    | blank c => exact ⟨h.1, ih h.2 htail⟩
    | token kind text depth =>
      obtain ⟨hbegins, inner, hnest, hrow⟩ := h
      refine ⟨?_, inner ++ outer, nest?_append hnest outer, ih hrow htail⟩
      obtain ⟨halone, hfits⟩ := begins_iff.mp hbegins
      show Begins commandNext kind text (textOf (row.map (Stretch.raise (outer.count '{')) ++ more))
      rw [textOf_append, textOf_map_raise, hmore]
      refine begins_iff.mpr ⟨halone, hfits.extend _ ?_ ?_⟩
      · rintro rfl
        rcases hbegins.head?_string with hq | hq <;> rw [hq] <;> decide
      · rintro rfl hempty
        cases row with
        | nil => exact hlast [] text depth rfl
        | cons s row =>
          cases s with
          | blank c => cases hempty
          | token _ _ _ =>
            obtain ⟨⟨c, _, rfl, -⟩, -⟩ := hrow
            cases hempty

/-! ## The outline of a row -/

/-- A part of an outermost row. -/
inductive Part where
  /-- A stretch outside of all brace groups. -/
  | stretch (s : Stretch)
  /-- A brace group and the row between its braces, as it is read alone. -/
  | group (inner : List Stretch)

/-- The stretches of a part. -/
def Part.row : Part → List Stretch
  | .stretch s => [s]
  | .group inner =>
    .token .groupStart ['{'] 0 :: (inner.map (Stretch.raise 1) ++ [.token .groupEnd ['}'] 0])

/-- Whether a stretch is no brace and stands outside of all brace groups. -/
def Stretch.IsOutside : Stretch → Prop
  | .blank _ => True
  | .token kind _ depth => kind ≠ .groupStart ∧ kind ≠ .groupEnd ∧ depth = 0

/-- Whether a part is what it says. -/
def Part.Proper : Part → Prop
  | .stretch s => s.IsOutside
  | .group inner => Readable true [] inner

/-- The stretches of an outline. -/
def rowOf (parts : List Part) : List Stretch :=
  parts.flatMap Part.row

@[simp] theorem rowOf_nil : rowOf [] = [] := rfl

@[simp] theorem rowOf_stretch (s : Stretch) (parts : List Part) :
    rowOf (.stretch s :: parts) = s :: rowOf parts := rfl

@[simp] theorem rowOf_group (inner : List Stretch) (parts : List Part) :
    rowOf (.group inner :: parts) = .token .groupStart ['{'] 0 ::
      (inner.map (Stretch.raise 1) ++ .token .groupEnd ['}'] 0 :: rowOf parts) := by
  simp [rowOf, Part.row]

/-- What a token does to the number of open braces. -/
theorem count_nest? {opened inner : List Char} {kind : TokenKind} {depth : Nat}
    (h : nest? opened kind = some (depth, inner)) :
    inner.count '{' + [kind].count .groupEnd = opened.count '{' + [kind].count .groupStart := by
  cases kind with
  | groupEnd | parenEnd =>
    unfold nest? at h
    split at h <;> first
      | contradiction
      | (cases h; simp)
  | _ =>
    cases h
    simp

/-- The depth of a token that is no brace is the number of braces around it. -/
theorem depth_nest? {opened inner : List Char} {kind : TokenKind} {depth : Nat}
    (h : nest? opened kind = some (depth, inner)) (hend : kind ≠ .groupEnd) :
    depth = opened.count '{' := by
  cases kind with
  | groupEnd => exact absurd rfl hend
  | parenEnd =>
    unfold nest? at h
    split at h <;> first
      | contradiction
      | (cases h; simp)
  | _ =>
    cases h
    rfl

/-- **A row outside of all brace groups has an outline.** -/
theorem Readable.exists_parts {commandNext : Bool} {opened : List Char} {row : List Stretch}
    (h : Readable commandNext opened row) (hopened : opened.count '{' = 0) :
    ∃ parts, rowOf parts = row ∧ ∀ p ∈ parts, p.Proper := by
  induction hn : row.length using Nat.strongRecOn generalizing commandNext opened row with
  | ind n ih =>
    subst hn
    cases row with
    | nil => exact ⟨[], rfl, nofun⟩
    | cons s row =>
      cases s with
      | blank c =>
        obtain ⟨parts, rfl, hparts⟩ := ih _ (Nat.lt_succ_self _) h.2 hopened rfl
        exact ⟨.stretch (.blank c) :: parts, rfl, List.forall_mem_cons.mpr ⟨trivial, hparts⟩⟩
      | token kind text depth =>
        obtain ⟨hbegins, inner, hnest, hrow⟩ := h
        by_cases hstart : kind = .groupStart
        · subst hstart
          rw [hbegins.eq_mark (show markKind? '{' = some .groupStart from rfl)]
          cases hnest
          obtain ⟨inner, after, rfl, hinner, hafter⟩ :=
            Readable.exists_group (show Readable _ ([] ++ '{' :: _) _ from hrow)
          have hless : after.length < (inner.map (Stretch.raise (opened.count '{' + 1)) ++
              .token .groupEnd ['}'] (opened.count '{') :: after).length + 1 := by
            simp only [List.length_append, List.length_map, List.length_cons]
            omega
          obtain ⟨parts, rfl, hparts⟩ := ih _ hless hafter hopened rfl
          rw [hopened]
          exact ⟨.group inner :: parts, rowOf_group .., List.forall_mem_cons.mpr ⟨hinner, hparts⟩⟩
        · by_cases hend : kind = .groupEnd
          · subst hend
            unfold nest? at hnest
            split at hnest <;> first
              | contradiction
              | simp at hopened
          · have hdepth := depth_nest? hnest hend
            have hinner : inner.count '{' = opened.count '{' := by
              simpa [List.count_singleton, hstart, hend] using count_nest? hnest
            obtain ⟨parts, rfl, hparts⟩ :=
              ih _ (Nat.lt_succ_self _) hrow (hinner.trans hopened) rfl
            exact ⟨.stretch (.token kind text depth) :: parts, rfl,
              List.forall_mem_cons.mpr ⟨⟨hstart, hend, hdepth.trans hopened⟩, hparts⟩⟩

end Lexer

/-! ## Groups in a row of tokens -/

/-- Whether the braces among kinds of tokens have their partners there. -/
structure Balanced (kinds : List TokenKind) : Prop where
  /-- All braces are closed. -/
  closed : kinds.count .groupEnd = kinds.count .groupStart
  /-- No brace is closed before it is opened. -/
  opened : ∀ before after, kinds = before ++ after →
    before.count .groupEnd ≤ before.count .groupStart

/-- Whether braces have their partners is seen at the first kinds of a row. -/
theorem balanced_iff {kinds : List TokenKind} :
    Balanced kinds ↔ kinds.count .groupEnd = kinds.count .groupStart ∧
      ∀ n < kinds.length + 1,
        (kinds.take n).count .groupEnd ≤ (kinds.take n).count .groupStart := by
  constructor
  · exact fun h => ⟨h.closed, fun n _ => h.opened _ _ (List.take_append_drop n kinds).symm⟩
  · rintro ⟨hclosed, hopened⟩
    refine ⟨hclosed, ?_⟩
    rintro before after rfl
    have hless : before.length < (before ++ after).length + 1 := by
      rw [List.length_append]
      omega
    simpa using hopened before.length hless

instance (kinds : List TokenKind) : Decidable (Balanced kinds) :=
  decidable_of_iff _ balanced_iff.symm

/-- A balanced row goes no further than up to its closing brace. -/
theorem Balanced.not_closed_within {inner between : List TokenKind} (h : Balanced inner)
    (h' : Balanced (inner ++ .groupEnd :: between)) : False := by
  have hle := h'.opened (inner ++ [.groupEnd]) between (by simp)
  have hclosed := h.closed
  simp only [List.count_append, List.count_singleton_self,
    List.count_singleton, beq_iff_eq, reduceCtorEq, if_false] at hle
  omega

/-- What is no brace can be put behind a balanced row. -/
theorem Balanced.concat {kinds : List TokenKind} (h : Balanced kinds) {kind : TokenKind}
    (hstart : kind ≠ .groupStart) (hend : kind ≠ .groupEnd) : Balanced (kinds ++ [kind]) := by
  have hcount : (kinds ++ [kind]).count .groupEnd = (kinds ++ [kind]).count .groupStart := by
    simp [hstart, hend, h.closed]
  refine ⟨hcount, fun before after heq => ?_⟩
  rcases List.eq_nil_or_concat after with rfl | ⟨after, k, rfl⟩
  · rw [← List.append_nil before, ← heq]
    exact Nat.le_of_eq hcount
  · rw [List.concat_eq_append, ← List.append_assoc] at heq
    exact h.opened before after (List.append_inj_left' heq rfl)

namespace Token

/-- A token further behind and further inside. -/
structure Moved (offset : Nat) (depth : Int) (t u : Token) : Prop where
  /-- It is the same kind of token. -/
  kind_eq : u.kind = t.kind
  /-- It consists of the same characters. -/
  text_eq : u.text = t.text
  /-- It takes as many characters. -/
  length_eq : u.length = t.length
  /-- More characters stand before it. -/
  offset_eq : u.offset = t.offset + offset
  /-- More brace groups stand around it. -/
  depth_eq : u.depth = t.depth + depth

/-- Whether an opening brace and a closing one belong together, with `inner` between them. -/
def IsGroup (ts : List Token) (opener : Token) (inner : List Token) (closer : Token) : Prop :=
  ∃ before after, ts = before ++ opener :: (inner ++ closer :: after) ∧
    opener.kind = .groupStart ∧ closer.kind = .groupEnd ∧ Balanced (inner.map Token.kind)

/-- **An opening brace has one partner only.** -/
theorem eq_of_balanced {inner inner' after after' : List Token} {closer closer' : Token}
    (h : Balanced (inner.map Token.kind)) (h' : Balanced (inner'.map Token.kind))
    (hcloser : closer.kind = .groupEnd) (hcloser' : closer'.kind = .groupEnd)
    (heq : inner ++ closer :: after = inner' ++ closer' :: after') :
    inner = inner' ∧ closer = closer' := by
  rcases List.append_eq_append_iff.mp heq with ⟨between, rfl, htail⟩ | ⟨between, rfl, htail⟩
  · cases between with
    | nil => exact ⟨(List.append_nil _).symm, (List.cons.inj htail).1⟩
    | cons b between =>
      obtain ⟨rfl, -⟩ := List.cons.inj htail
      rw [List.map_append, List.map_cons, hcloser] at h'
      exact (h.not_closed_within h').elim
  · cases between with
    | nil => exact ⟨List.append_nil _, (List.cons.inj htail).1.symm⟩
    | cons b between =>
      obtain ⟨rfl, -⟩ := List.cons.inj htail
      rw [List.map_append, List.map_cons, hcloser'] at h
      exact (h'.not_closed_within h).elim

end Token

namespace Lexer

theorem filterMap_kind?_raise (levels : Nat) (row : List Stretch) :
    (row.map (Stretch.raise levels)).filterMap Stretch.kind? = row.filterMap Stretch.kind? := by
  rw [List.filterMap_map]
  congr 1
  funext s
  cases s <;> rfl

/-- The tokens of a row further behind and further inside. -/
theorem forall₂_moved (pos pos' : Position) (offset more levels : Nat) (row : List Stretch) :
    List.Forall₂ (Token.Moved more levels) (tokensAt pos offset row)
      (tokensAt pos' (offset + more) (row.map (Stretch.raise levels))) := by
  induction row generalizing pos pos' offset with
  | nil => exact .nil
  | cons s row ih =>
    cases s with
    | blank c =>
      rw [List.map_cons, tokensAt, Stretch.raise, tokensAt, Nat.add_right_comm]
      exact ih ..
    | token kind text depth =>
      rw [List.map_cons, tokensAt, Stretch.raise, tokensAt, Nat.add_right_comm]
      exact .cons ⟨rfl, rfl, rfl, rfl, by simp⟩ (ih ..)

/-- The braces of a row close its own ones and those that were open before it. -/
theorem Readable.count_kinds {commandNext : Bool} {opened : List Char} {row : List Stretch}
    (h : Readable commandNext opened row) :
    (row.filterMap Stretch.kind?).count .groupEnd =
      opened.count '{' + (row.filterMap Stretch.kind?).count .groupStart := by
  induction row generalizing commandNext opened with
  | nil =>
    rw [show opened = [] from h]
    rfl
  | cons s row ih =>
    cases s with
    | blank c => exact ih h.2
    | token kind text depth =>
      obtain ⟨-, inner, hnest, hrow⟩ := h
      have hkind := count_nest? hnest
      have hrest := ih hrow
      simp only [List.filterMap_cons, Stretch.kind?]
      rw [← List.singleton_append, List.count_append, List.count_append]
      omega

/-- No part of a row closes more braces than there are. -/
theorem Readable.count_kinds_le {commandNext : Bool} {opened : List Char} {row : List Stretch}
    (h : Readable commandNext opened row) {before after : List TokenKind}
    (heq : row.filterMap Stretch.kind? = before ++ after) :
    before.count .groupEnd ≤ opened.count '{' + before.count .groupStart := by
  induction row generalizing commandNext opened before with
  | nil =>
    obtain ⟨rfl, rfl⟩ := List.append_eq_nil_iff.mp heq.symm
    exact Nat.zero_le _
  | cons s row ih =>
    cases s with
    | blank c => exact ih h.2 heq
    | token kind text depth =>
      obtain ⟨-, inner, hnest, hrow⟩ := h
      cases before with
      | nil => exact Nat.zero_le _
      | cons k before =>
        obtain ⟨rfl, htail⟩ := List.cons.inj heq
        have hkind := count_nest? hnest
        have hrest := ih hrow htail
        rw [← List.singleton_append, List.count_append, List.count_append]
        omega

/-- The braces of a row that is readable alone have their partners in it. -/
theorem Readable.balanced {commandNext : Bool} {row : List Stretch}
    (h : Readable commandNext [] row) : Balanced (row.filterMap Stretch.kind?) :=
  ⟨by simpa using h.count_kinds, fun before after heq => by simpa using h.count_kinds_le heq⟩

/-- What stands between two braces, cut out of a text. -/
theorem between_eq (before inner after : List Char) {opener closer : Token}
    (hopener : opener.offset = before.length)
    (hcloser : closer.offset = before.length + 1 + inner.length) :
    Script.between (before ++ '{' :: (inner ++ after)) opener closer = String.ofList inner := by
  have hdrop : (before ++ '{' :: (inner ++ after)).drop (before.length + 1) = inner ++ after := by
    rw [List.drop_append]
    simp
  rw [Script.between, hopener, hcloser, hdrop, Nat.add_sub_cancel_left, List.take_left]

/-- **Every opening brace has a partner, and what stands between the two is read alone as it is read
there.** -/
theorem exists_partner {source : String} {before rest : List Token} {opener : Token}
    (h : tokenize source = .ok (before ++ opener :: rest)) (hopener : opener.kind = .groupStart) :
    ∃ row inner closer after, rest = inner ++ closer :: after ∧ closer.kind = .groupEnd ∧
      Readable true [] row ∧ Balanced (inner.map Token.kind) ∧
      Script.between source.toList opener closer = String.ofList (textOf row) ∧
      List.Forall₂ (Token.Moved (opener.offset + 1) (opener.depth + 1)) (tokensAt .start 0 row)
        inner := by
  obtain ⟨row, htext, hrow, htokens⟩ := tokenize_eq_ok_iff.mp h
  obtain ⟨kind, text, depth, earlier, later, rfl, -, rfl, rfl⟩ := exists_split_of_tokensAt htokens
  obtain rfl : kind = .groupStart := hopener
  obtain ⟨_, opened, hbegins, inner, hnest, hlater⟩ := hrow.suffix
  cases hnest
  obtain ⟨row, after, rfl, hinner, -⟩ :=
    Readable.exists_group (show Readable _ ([] ++ '{' :: _) _ from hlater)
  obtain rfl := hbegins.eq_mark (show markKind? '{' = some .groupStart from rfl)
  rw [tokensAt_append, tokensAt]
  refine ⟨row, _, _, _, rfl, rfl, hinner, ?_, ?_, ?_⟩
  · rw [map_kind_tokensAt, filterMap_kind?_raise]
    exact hinner.balanced
  · rw [← htext, textOf_append, textOf_token, textOf_append, textOf_map_raise]
    exact between_eq (textOf earlier) (textOf row) _ (by simp) (by simp)
  · have hmoved := forall₂_moved .start
      (Position.start.advanceAll (textOf earlier ++ ['{'])) 0
      ((textOf earlier).length + 1) (opened.count '{' + 1) row
    simpa using hmoved

/-- **A text between two braces is read as one group**, with a newline before the closing brace and
unless the text ends with a line join. -/
theorem exists_enclosed {source : String} {ts : List Token} (h : tokenize source = .ok ts)
    (hlast : ∀ t ∈ ts.getLast?, t.kind ≠ .continuation) :
    ∃ opener inner newline closer,
      tokenize ("\x7b" ++ source ++ "\n\x7d") = .ok (opener :: (inner ++ [newline, closer])) ∧
      Token.IsGroup (opener :: (inner ++ [newline, closer])) opener (inner ++ [newline]) closer ∧
      List.Forall₂ (Token.Moved 1 1) ts inner ∧ newline.kind = .newline := by
  obtain ⟨row, htext, hrow, rfl⟩ := tokenize_eq_ok_iff.mp h
  have hends : ∀ earlier text depth, row ≠ earlier ++ [.token .continuation text depth] := by
    rintro earlier text depth rfl
    rw [tokensAt_append] at hlast
    exact hlast _ List.getLast?_concat rfl
  let more : List Stretch := [.token .newline ['\n'] 1, .token .groupEnd ['}'] 0]
  have hmore (next : Bool) : Readable next ['{'] more :=
    ⟨begins_mark rfl next _, ['{'], rfl, begins_mark rfl true _, [], rfl, rfl⟩
  have hinner : Readable true ['{'] (row.map (Stretch.raise 1) ++ more) :=
    hrow.enclose hends rfl hmore
  have hall :
      Readable true [] (.token .groupStart ['{'] 0 :: (row.map (Stretch.raise 1) ++ more)) :=
    ⟨begins_mark rfl true _, ['{'], rfl, hinner⟩
  have hread : tokenize ("\x7b" ++ source ++ "\n\x7d") = .ok (tokensAt .start 0
      (.token .groupStart ['{'] 0 :: (row.map (Stretch.raise 1) ++ more))) := by
    refine tokenize_eq_ok_iff.mpr ⟨_, ?_, hall, rfl⟩
    simp [textOf_append, htext, more, String.toList_append]
  rw [tokensAt, tokensAt_append] at hread
  refine ⟨_, _, _, _, hread, ⟨[], [], by simp, rfl, rfl, ?_⟩, forall₂_moved .start _ 0 1 1 row, rfl⟩
  rw [List.map_append, map_kind_tokensAt, filterMap_kind?_raise]
  exact hrow.balanced.concat (show TokenKind.newline ≠ .groupStart by decide)
    (show TokenKind.newline ≠ .groupEnd by decide)

end Lexer

/-! ## The groups outside of all others -/

/-- The brace groups that stand in no other one: their opening and closing braces, in order. -/
def Token.outerGroups (ts : List Token) : List (Token × Token) :=
  (ts.filter fun t => t.depth == 0 && t.kind == .groupStart).zip
    (ts.filter fun t => t.depth == 0 && t.kind == .groupEnd)

namespace Lexer

/-- Nothing inside of a brace group is outside of all of them. -/
theorem depth_ne_zero_of_mem {pos : Position} {offset : Nat} {row : List Stretch} {t : Token}
    (h : t ∈ tokensAt pos offset (row.map (Stretch.raise 1))) : t.depth ≠ 0 := by
  induction row generalizing pos offset with
  | nil => cases h
  | cons s row ih =>
    cases s with
    | blank c => exact ih h
    | token kind text depth =>
      rcases List.mem_cons.mp h with rfl | h
      · dsimp only
        omega
      · exact ih h

/-- An opening brace outside of all brace groups. -/
def openingBrace (pos : Position) (offset : Nat) : Token :=
  ⟨.groupStart, "\x7b", pos, 1, 0, offset⟩

/-- A closing brace outside of all brace groups. -/
def closingBrace (pos : Position) (offset : Nat) : Token :=
  ⟨.groupEnd, "\x7d", pos, 1, 0, offset⟩

/-- The tokens of an outline that begins with a group. -/
theorem exists_tokensAt_group (pos : Position) (offset : Nat) (inner : List Stretch)
    (parts : List Part) :
    ∃ pos₁ pos₂ pos₃, tokensAt pos offset (rowOf (.group inner :: parts)) =
      openingBrace pos offset ::
        (tokensAt pos₁ (offset + 1) (inner.map (Stretch.raise 1)) ++
          closingBrace pos₂ (offset + 1 + (textOf inner).length) ::
            tokensAt pos₃ (offset + 1 + (textOf inner).length + 1) (rowOf parts)) := by
  rw [rowOf_group, tokensAt, tokensAt_append, tokensAt, textOf_map_raise]
  exact ⟨_, _, _, rfl⟩

theorem outerGroups_outside {t : Token} (hstart : t.kind ≠ .groupStart) (hend : t.kind ≠ .groupEnd)
    (ts : List Token) : Token.outerGroups (t :: ts) = Token.outerGroups ts := by
  simp [Token.outerGroups, hstart, hend]

/-- A group in front is the first one. -/
theorem outerGroups_group (pos pos₁ pos₂ : Position) (offset offset₁ offset₂ : Nat)
    (inner : List Stretch) (ts : List Token) :
    Token.outerGroups (openingBrace pos offset ::
        (tokensAt pos₁ offset₁ (inner.map (Stretch.raise 1)) ++ closingBrace pos₂ offset₂ :: ts)) =
      (openingBrace pos offset, closingBrace pos₂ offset₂) :: Token.outerGroups ts := by
  have hnone (kind : TokenKind) :
      ((tokensAt pos₁ offset₁ (inner.map (Stretch.raise 1))).filter
        fun t => t.depth == 0 && t.kind == kind) = [] :=
    List.filter_eq_nil_iff.mpr fun t ht => by simp [depth_ne_zero_of_mem ht]
  simp only [Token.outerGroups, List.filter_cons, List.filter_append, hnone]
  rfl

theorem textOf_rowOf_group (inner : List Stretch) (parts : List Part) :
    textOf (rowOf (.group inner :: parts)) =
      '{' :: (textOf inner ++ '}' :: textOf (rowOf parts)) := by
  simp [textOf_append]

/-- The text up to the closing brace of a group, and its length. -/
theorem length_group (before inner : List Char) :
    (before ++ '{' :: (inner ++ ['}'])).length = before.length + 1 + inner.length + 1 := by
  simp
  omega

theorem textOf_group (before inner after : List Char) :
    before ++ '{' :: (inner ++ ['}']) ++ after = before ++ '{' :: (inner ++ '}' :: after) := by
  simp

/-- The text of a part that is a group. -/
def Part.text? : Part → Option String
  | .stretch _ => none
  | .group inner => some (String.ofList (textOf inner))

/-- **The outermost groups of a text are those of its outline.** -/
theorem map_between_outerGroups (before : List Char) (pos : Position) {parts : List Part}
    (h : ∀ p ∈ parts, p.Proper) :
    (Token.outerGroups (tokensAt pos before.length (rowOf parts))).map
        (fun g => Script.between (before ++ textOf (rowOf parts)) g.1 g.2) =
      parts.filterMap Part.text? := by
  induction parts generalizing before pos with
  | nil => rfl
  | cons p parts ih =>
    obtain ⟨hp, hparts⟩ := List.forall_mem_cons.mp h
    cases p with
    | stretch s =>
      have hrest := ih (before ++ s.chars) (pos.advanceAll s.chars) hparts
      rw [List.length_append, List.append_assoc, ← textOf_cons] at hrest
      cases s with
      | blank c => exact hrest
      | token kind text depth =>
        obtain ⟨hstart, hend, -⟩ := hp
        rw [rowOf_stretch, tokensAt, outerGroups_outside hstart hend]
        exact hrest
    | group inner =>
      obtain ⟨pos₁, pos₂, pos₃, htokens⟩ := exists_tokensAt_group pos before.length inner parts
      have hrest := ih (before ++ '{' :: (textOf inner ++ ['}'])) pos₃ hparts
      rw [length_group, textOf_group] at hrest
      rw [htokens, outerGroups_group, List.map_cons, textOf_rowOf_group, hrest,
        between_eq before (textOf inner) _ rfl rfl]
      rfl

end Lexer

end TagScript
