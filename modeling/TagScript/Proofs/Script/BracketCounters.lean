import TagScript.Proofs.Script.Boundaries
import TagScript.Proofs.Script.BracketPairs

/-!
# Brackets that are found again by counting

When the statements of a text are told apart, the brackets that were paired while it was read are
found again by counting. One count serves both kinds of brackets and says where a statement ends;
another one counts the brackets of a single kind and says where a bracket is closed. Neither can go
wrong on tokens that come from a text.

* `Script.splitStatements`, `Script.matching?` — the two counts.
* `Script.Interpreted` — the rows of tokens that are taken apart: those of the whole text, and what
  stands between two parentheses of a statement.
* `Nest.flatten_cut`, `Nest.ne_nil_of_mem_cut` — cutting a row of nests loses its separators only.
* **`Script.splitStatements_tokensOfAll`** — counting cuts a row where its nests are cut.
* **`Script.matching?_eq_some`** — counting finds the bracket that closes a nest.
* **`Script.Interpreted.exists_matched`** — every row that is taken apart consists of nests.
-/

namespace TagScript

/-- The kind of the brackets that close those of a kind. -/
def TokenKind.closer? : TokenKind → Option TokenKind
  | .groupStart => some .groupEnd
  | .parenStart => some .parenEnd
  | _ => none

/-- Whether a token of the kind stands between statements. -/
def TokenKind.separates : TokenKind → Bool
  | .newline | .separator => true
  | _ => false

namespace Script

/-! ## The two counts -/

/-- Cuts tokens into statements. `nesting` counts the open brackets of both kinds, and `current` is
the statement so far, backwards. -/
def splitFrom (nesting : Int) (current : List Token) : List Token → List (List Token)
  | [] => if current.isEmpty then [] else [current.reverse]
  | t :: ts =>
    if t.kind.isOpener then splitFrom (nesting + 1) (t :: current) ts
    else if t.kind.isCloser then splitFrom (nesting - 1) (t :: current) ts
    else if nesting = 0 ∧ t.kind.separates = true then
      if t.kind == .newline && current.head?.any (·.kind == .comma) then
        splitFrom nesting current ts
      else if current.isEmpty then splitFrom nesting [] ts
      else current.reverse :: splitFrom nesting [] ts
    else splitFrom nesting (t :: current) ts

/-- The statements of a row of tokens: it is cut at newlines and semicolons outside of brackets. A
newline behind a comma goes on with the statement. -/
def splitStatements (row : List Token) : List (List Token) :=
  splitFrom 0 [] row

/-- How many tokens stand before the one that brings the count of open brackets of a kind back to
nothing. -/
def closerFrom (opener closer : TokenKind) (nesting : Int) : List Token → Option Nat
  | [] => none
  | t :: ts =>
    if t.kind = opener then (closerFrom opener closer (nesting + 1) ts).map (· + 1)
    else if t.kind = closer then
      if nesting - 1 = 0 then some 0
      else (closerFrom opener closer (nesting - 1) ts).map (· + 1)
    else (closerFrom opener closer nesting ts).map (· + 1)

/-- The place of the bracket that closes the one at a place. Only brackets of its kind are
counted. -/
def matching? (ts : List Token) (i : Nat) : Option Nat :=
  ts[i]?.bind fun t => t.kind.closer?.bind fun closer =>
    (closerFrom t.kind closer 0 (ts.drop i)).map (i + ·)

/-- The rows of tokens that are taken apart when a text with these tokens is run. -/
inductive Interpreted (ts : List Token) : List Token → Prop where
  /-- The tokens of the text that carry meaning. -/
  | whole : Interpreted ts (Token.significant ts)
  /-- The tokens between two parentheses of a statement. -/
  | inside {row statement : List Token} {opener : Token} {i j : Nat} :
      Interpreted ts row → statement ∈ splitStatements row → statement[i]? = some opener →
        opener.kind = .parenStart → matching? statement i = some j →
          Interpreted ts ((statement.take j).drop (i + 1))

end Script

/-! ## Kinds of brackets -/

namespace TokenKind

theorem isOpener_of_closer? {opener closer : TokenKind} (h : opener.closer? = some closer) :
    opener.isOpener = true ∧ closer.isCloser = true := by
  cases opener <;> cases h <;> exact ⟨rfl, rfl⟩

theorem closer?_injective {opener opener' closer : TokenKind} (h : opener.closer? = some closer)
    (h' : opener'.closer? = some closer) : opener = opener' := by
  cases opener <;> cases h <;> cases opener' <;> first | rfl | cases h'

theorem ne_of_isOpener {kind opener : TokenKind} (h : kind.isOpener = false)
    (hopener : opener.isOpener = true) : kind ≠ opener := by
  rintro rfl
  exact Bool.false_ne_true (h.symm.trans hopener)

theorem ne_of_isCloser {kind closer : TokenKind} (h : kind.isCloser = false)
    (hcloser : closer.isCloser = true) : kind ≠ closer := by
  rintro rfl
  exact Bool.false_ne_true (h.symm.trans hcloser)

theorem isCloser_eq_false {kind : TokenKind} (h : kind.isOpener = true) :
    kind.isCloser = false := by
  cases kind <;> first | rfl | cases h

theorem isOpener_eq_false {kind : TokenKind} (h : kind.isCloser = true) :
    kind.isOpener = false := by
  cases kind <;> first | rfl | cases h

theorem not_bracket_of_not_significant (t : Token) (h : t.kind.isSignificant = false) :
    t.kind.isOpener = false ∧ t.kind.isCloser = false := by
  cases hkind : t.kind <;> rw [hkind] at h <;> first | exact ⟨rfl, rfl⟩ | cases h

end TokenKind

namespace Nest

theorem Matched.closer?_eq {pair : Token → Token → Prop} {d : Int} {opener closer : Token}
    {inner : List Nest} (h : (bracket opener inner closer).Matched pair d) :
    opener.kind.closer? = some closer.kind := by
  cases h with
  | group ho hc => rw [ho, hc, TokenKind.closer?]
  | paren ho hc => rw [ho, hc, TokenKind.closer?]

theorem Matched.exists_inner {pair : Token → Token → Prop} {d : Int} {opener closer : Token}
    {inner : List Nest} (h : (bracket opener inner closer).Matched pair d) :
    ∃ d, ∀ n ∈ inner, n.Matched pair d := by
  cases h with
  | group _ _ _ _ _ hinner => exact ⟨_, hinner⟩
  | paren _ _ _ _ _ hinner => exact ⟨_, hinner⟩

theorem Matched.pair {pair : Token → Token → Prop} {d : Int} {opener closer : Token}
    {inner : List Nest} (h : (bracket opener inner closer).Matched pair d) :
    pair opener closer := by
  cases h with
  | group _ _ _ _ hpair => exact hpair
  | paren _ _ _ _ hpair => exact hpair

/-- Whether a nest is a token that stands between statements. -/
def separates : Nest → Bool
  | .token t => t.kind.separates
  | .bracket .. => false

theorem separates_eq (n : Nest) : n.separates = (n.isKind .newline || n.isKind .separator) := by
  cases n with
  | bracket => rfl
  | token t => cases hkind : t.kind <;> simp [separates, isKind, TokenKind.separates, hkind]

/-! ## What a cut row holds -/

/-- A row that is cut loses the tokens between its statements only. -/
theorem flatten_cut (current ns : List Nest) :
    (cut current ns).flatten = current.reverse ++ ns.filter fun n => !n.separates := by
  induction ns generalizing current with
  | nil =>
    rw [cut]
    split
    · rename_i hempty
      simp [List.isEmpty_iff.mp hempty]
    · simp
  | cons n ns ih =>
    rw [cut, List.filter_cons, separates_eq]
    split
    · rename_i hjoin
      simp [ih, (Bool.and_eq_true_iff.mp hjoin).1]
    · split
      · rename_i hends
        rw [hends]
        split
        · rename_i hempty
          simp [ih, List.isEmpty_iff.mp hempty]
        · simp [ih]
      · rename_i hkept
        simp [ih, Bool.eq_false_iff.mpr hkept]

/-- No statement is empty. -/
theorem ne_nil_of_mem_cut {current ns g : List Nest} (h : g ∈ cut current ns) : g ≠ [] := by
  induction ns generalizing current with
  | nil =>
    rw [cut] at h
    split at h
    · cases h
    · rename_i hempty
      rw [List.mem_singleton.mp h]
      simpa using hempty
  | cons n ns ih =>
    rw [cut] at h
    split at h
    · exact ih h
    · split at h
      · split at h
        · exact ih h
        · rename_i hempty
          rcases List.mem_cons.mp h with rfl | h
          · simpa using hempty
          · exact ih h
      · exact ih h

/-- What a statement holds stands in the row and is no token between statements. -/
theorem kept_of_mem_cut {ns g : List Nest} (hg : g ∈ cut [] ns) {n : Nest} (hn : n ∈ g) :
    n ∈ ns ∧ n.separates = false := by
  have hmem : n ∈ (cut [] ns).flatten := List.mem_flatten_of_mem hg hn
  rw [flatten_cut] at hmem
  simpa using hmem

theorem exists_tokens_eq_cons (n : Nest) : ∃ t ts, n.tokens = t :: ts := by
  cases n with
  | token t => exact ⟨t, [], rfl⟩
  | bracket opener inner closer => exact ⟨opener, _, rfl⟩

theorem isEmpty_reverse_tokensOfAll (current : List Nest) :
    (tokensOfAll current.reverse).reverse.isEmpty = current.isEmpty := by
  cases current with
  | nil => rfl
  | cons n current =>
    obtain ⟨t, ts, htokens⟩ := n.exists_tokens_eq_cons
    simp [tokensOfAll_append, tokensOfAll, htokens]

/-- The last token of a row is a comma exactly if its last nest is. -/
theorem head?_reverse_tokensOfAll {current : List Nest} (h : ∀ n ∈ current, n.Paired) :
    ((tokensOfAll current.reverse).reverse.head?.any fun t => t.kind == .comma) =
      (current.head?.map (isKind .comma)).getD false := by
  cases current with
  | nil => rfl
  | cons n current =>
    rw [List.reverse_cons, tokensOfAll_append, tokensOfAll, tokensOfAll, List.append_nil]
    cases h n List.mem_cons_self with
    | token => simp [tokens, isKind]
    | bracket _ hcloser _ =>
      have hcomma : TokenKind.comma ≠ _ := TokenKind.ne_of_isCloser rfl hcloser
      simp [tokens, isKind, hcomma.symm]

end Nest

namespace Script

open Nest (tokens tokensOfAll)

/-! ## One count for both kinds -/

/-- A count that starts where brackets are open, or at what does not end a statement, comes back
behind a nest and has cut nothing. -/
theorem splitFrom_tokens {n : Nest} (h : n.Paired) {nesting : Int} (hnesting : 0 ≤ nesting)
    (hkept : nesting = 0 → n.separates = false) (current us : List Token) :
    splitFrom nesting current (n.tokens ++ us) =
      splitFrom nesting (n.tokens.reverse ++ current) us := by
  induction h generalizing nesting current us with
  | @token t hopener hcloser =>
    have hends : ¬ (nesting = 0 ∧ t.kind.separates = true) := fun ⟨hzero, hsep⟩ =>
      Bool.false_ne_true ((hkept hzero).symm.trans hsep)
    simp [tokens, splitFrom, hopener, hcloser, hends]
  | @bracket opener closer inner hopener hcloser _ ih =>
    -- behind the opening bracket the count is not at its start, whatever the nests there are
    have hinner : ∀ ns : List Nest, (∀ n ∈ ns, n ∈ inner) → ∀ current us,
        splitFrom (nesting + 1) current (tokensOfAll ns ++ us) =
          splitFrom (nesting + 1) ((tokensOfAll ns).reverse ++ current) us := by
      intro ns hns
      induction ns with
      | nil => exact fun current us => rfl
      | cons n ns ihns =>
        intro current us
        have hopen : 0 ≤ nesting + 1 := by omega
        have hn := ih n (hns n List.mem_cons_self) hopen (by omega)
        rw [tokensOfAll, List.append_assoc, hn,
          ihns (fun m hm => hns m (List.mem_cons_of_mem n hm))]
        simp
    have hback : nesting + 1 - 1 = nesting := by omega
    have hall := hinner inner (fun _ hn => hn) (opener :: current) (closer :: us)
    rw [tokens, List.cons_append, List.cons_append, List.append_assoc, List.singleton_append,
      splitFrom, if_pos hopener, hall]
    simp [splitFrom, hcloser, TokenKind.isOpener_eq_false hcloser, hback]

/-- A count that is at its start cuts tokens where their nests are cut. -/
theorem splitFrom_tokensOfAll {current ns : List Nest} (hcurrent : ∀ n ∈ current, n.Paired)
    (hns : ∀ n ∈ ns, n.Paired) :
    splitFrom 0 (tokensOfAll current.reverse).reverse (tokensOfAll ns) =
      (Nest.cut current ns).map tokensOfAll := by
  induction ns generalizing current with
  | nil =>
    rw [tokensOfAll, splitFrom, Nest.cut, Nest.isEmpty_reverse_tokensOfAll]
    split <;> simp
  | cons n ns ih =>
    obtain ⟨hn, hrest⟩ := List.forall_mem_cons.mp hns
    rw [tokensOfAll, Nest.cut]
    cases hsep : n.separates with
    | false =>
      have hkind := hsep
      rw [Nest.separates_eq, Bool.or_eq_false_iff] at hkind
      have hnext := ih (List.forall_mem_cons.mpr ⟨hn, hcurrent⟩) hrest
      rw [splitFrom_tokens hn (Int.le_refl 0) fun _ => hsep, hkind.1, hkind.2]
      simpa [Nest.tokensOfAll_append, tokensOfAll] using hnext
    | true =>
      cases hn with
      | bracket => cases hsep
      | @token t hopener hcloser =>
        have hends : (Nest.token t).isKind .newline || (Nest.token t).isKind .separator := by
          rw [← Nest.separates_eq, hsep]
        have hnewline : (t.kind == .newline) = (Nest.token t).isKind .newline := rfl
        have hnil : splitFrom 0 [] (tokensOfAll ns) = (Nest.cut [] ns).map tokensOfAll :=
          @ih [] (List.forall_mem_nil _) hrest
        rw [tokens, List.singleton_append, splitFrom, hopener, hcloser, if_neg Bool.false_ne_true,
          if_neg Bool.false_ne_true, if_pos ⟨rfl, hsep⟩, Nest.head?_reverse_tokensOfAll hcurrent,
          Nest.isEmpty_reverse_tokensOfAll, if_pos hends, hnewline]
        split
        · exact ih hcurrent hrest
        · split
          · exact hnil
          · rw [List.map_cons, hnil, List.reverse_reverse]

/-- **Counting cuts a row of tokens where its nests are cut.** -/
theorem splitStatements_tokensOfAll {ns : List Nest} (h : ∀ n ∈ ns, n.Paired) :
    splitStatements (tokensOfAll ns) = (Nest.cut [] ns).map tokensOfAll :=
  @splitFrom_tokensOfAll [] ns (List.forall_mem_nil _) h

/-! ## One count for each kind -/

/-- Whether a count of the brackets of one kind comes back behind a nest. -/
def Passes (opener closer : TokenKind) (n : Nest) : Prop :=
  ∀ {nesting : Int}, 0 < nesting → ∀ us,
    closerFrom opener closer nesting (n.tokens ++ us) =
      (closerFrom opener closer nesting us).map (n.tokens.length + ·)

theorem Passes.tokensOfAll {opener closer : TokenKind} {ns : List Nest}
    (h : ∀ n ∈ ns, Passes opener closer n) {nesting : Int} (hnesting : 0 < nesting)
    (us : List Token) :
    closerFrom opener closer nesting (tokensOfAll ns ++ us) =
      (closerFrom opener closer nesting us).map ((tokensOfAll ns).length + ·) := by
  induction ns with
  | nil => simp [Nest.tokensOfAll]
  | cons n ns ih =>
    obtain ⟨hn, hns⟩ := List.forall_mem_cons.mp h
    rw [Nest.tokensOfAll, List.append_assoc, hn hnesting, ih hns, Option.map_map,
      List.length_append]
    exact congrArg (Option.map · _) (funext fun _ => (Nat.add_assoc ..).symm)

theorem closerFrom_bracket {opener closer : TokenKind} (hkind : opener.closer? = some closer)
    {o c : Token} (hpair : o.kind.closer? = some c.kind) {inner : List Nest}
    (hinner : ∀ n ∈ inner, Passes opener closer n) : Passes opener closer (.bracket o inner c) := by
  intro nesting hnesting us
  have hopens := TokenKind.isOpener_of_closer? hkind
  have hcloses := (TokenKind.isOpener_of_closer? hpair).2
  have hne : c.kind ≠ opener :=
    TokenKind.ne_of_isOpener (TokenKind.isOpener_eq_false hcloses) hopens.1
  have hlength (k : Nat) : (tokensOfAll inner).length + (k + 1) + 1 =
      (Nest.bracket o inner c).tokens.length + k := by
    rw [tokens, List.length_append, List.length_cons, List.length_singleton]
    omega
  have hfront : (Nest.bracket o inner c).tokens ++ us = o :: (tokensOfAll inner ++ c :: us) := by
    simp [tokens]
  rw [hfront, closerFrom]
  by_cases ho : o.kind = opener
  · -- a bracket of the kind that is counted: one more is open inside of it
    obtain rfl : c.kind = closer := by simpa [ho, hkind] using hpair.symm
    have hback : nesting + 1 - 1 = nesting := by omega
    rw [if_pos ho, Passes.tokensOfAll hinner (by omega), closerFrom, if_neg hne, if_pos rfl, hback,
      if_neg (by omega), Option.map_map, Option.map_map]
    exact congrArg (Option.map · _) (funext hlength)
  · -- a bracket of the other kind, which is passed over
    have ho' : o.kind ≠ closer := TokenKind.ne_of_isCloser
      (TokenKind.isCloser_eq_false (TokenKind.isOpener_of_closer? hpair).1) hopens.2
    have hc : c.kind ≠ closer := fun heq => ho (TokenKind.closer?_injective (heq ▸ hpair) hkind)
    rw [if_neg ho, if_neg ho', Passes.tokensOfAll hinner hnesting, closerFrom, if_neg hne,
      if_neg hc, Option.map_map, Option.map_map]
    exact congrArg (Option.map · _) (funext hlength)

/-- A count of the brackets of one kind comes back behind a nest. -/
theorem passes_of_matched {pair : Token → Token → Prop} {d : Int} {n : Nest} (h : n.Matched pair d)
    {opener closer : TokenKind} (hkind : opener.closer? = some closer) :
    Passes opener closer n := by
  have hopens := TokenKind.isOpener_of_closer? hkind
  induction h with
  | @token _ t hopener hcloser =>
    intro nesting _ us
    have hother := TokenKind.ne_of_isOpener hopener hopens.1
    have hother' := TokenKind.ne_of_isCloser hcloser hopens.2
    simp [tokens, closerFrom, hother, hother', Nat.add_comm]
  | group ho hc _ _ _ _ ih | paren ho hc _ _ _ _ ih =>
    exact closerFrom_bracket hkind (by rw [ho, hc]; rfl) ih

/-- **Counting finds the bracket that closes a nest.** -/
theorem matching?_eq_some {pair : Token → Token → Prop} {d : Int} {opener closer : Token}
    {inner : List Nest} (h : (Nest.bracket opener inner closer).Matched pair d)
    (before after : List Token) :
    matching? (before ++ opener :: (tokensOfAll inner ++ closer :: after)) before.length =
      some (before.length + ((tokensOfAll inner).length + 1)) := by
  have hpair : opener.kind.closer? = some closer.kind := h.closer?_eq
  obtain ⟨d', hinner⟩ := h.exists_inner
  have hpasses := Passes.tokensOfAll (fun n hn => passes_of_matched (hinner n hn) hpair)
    Int.one_pos (closer :: after)
  have hne : closer.kind ≠ opener.kind := TokenKind.ne_of_isOpener
    (TokenKind.isOpener_eq_false (TokenKind.isOpener_of_closer? hpair).2)
    (TokenKind.isOpener_of_closer? hpair).1
  have hcount : closerFrom opener.kind closer.kind 0 (opener :: (tokensOfAll inner ++
      closer :: after)) = some ((tokensOfAll inner).length + 1) := by
    rw [closerFrom, if_pos rfl, Int.zero_add, hpasses, closerFrom, if_neg hne, if_pos rfl]
    simp
  simp [matching?, hpair, hcount]

end Script

namespace Nest

/-- Whether every opening bracket among tokens begins a nest. -/
def OpensNests (pair : Token → Token → Prop) (ts : List Token) : Prop :=
  ∀ {before rest : List Token} {opener : Token}, opener.kind.isOpener = true →
    ts = before ++ opener :: rest → ∃ d inner closer after,
      rest = tokensOfAll inner ++ closer :: after ∧ (bracket opener inner closer).Matched pair d

theorem OpensNests.append {pair : Token → Token → Prop} {ts us : List Token}
    (h : OpensNests pair ts) (h' : OpensNests pair us) : OpensNests pair (ts ++ us) := by
  intro before rest opener hopener hsplit
  rcases List.append_eq_append_iff.mp hsplit with ⟨between, rfl, hus⟩ | ⟨between, hts, hrest⟩
  · exact h' hopener hus
  · cases between with
    | nil => exact @h' [] rest opener hopener hrest.symm
    | cons t between =>
      obtain ⟨rfl, rfl⟩ := List.cons.inj hrest
      obtain ⟨d, inner, closer, after, rfl, hmatched⟩ := h hopener hts
      exact ⟨d, inner, closer, after ++ us, by simp, hmatched⟩

theorem OpensNests.tokensOfAll {pair : Token → Token → Prop} {ns : List Nest}
    (h : ∀ n ∈ ns, OpensNests pair n.tokens) : OpensNests pair (tokensOfAll ns) := by
  induction ns with
  | nil =>
    intro before rest opener _ hsplit
    simp [Nest.tokensOfAll] at hsplit
  | cons n ns ih =>
    obtain ⟨hn, hns⟩ := List.forall_mem_cons.mp h
    exact hn.append (ih hns)

theorem opensNests_singleton {pair : Token → Token → Prop} {t : Token}
    (h : t.kind.isOpener = false) : OpensNests pair [t] := by
  intro before rest opener hopener hsplit
  obtain ⟨rfl, -, -⟩ : opener = t ∧ before = [] ∧ rest = [] := by
    cases before <;> simp_all
  exact absurd (h.symm.trans hopener) Bool.false_ne_true

theorem opensNests_bracket {pair : Token → Token → Prop} {d : Int} {opener closer : Token}
    {inner : List Nest} (h : (bracket opener inner closer).Matched pair d)
    (hinner : ∀ n ∈ inner, OpensNests pair n.tokens) :
    OpensNests pair (bracket opener inner closer).tokens := by
  have hcloser := TokenKind.isOpener_eq_false (TokenKind.isOpener_of_closer? h.closer?_eq).2
  intro before rest opener' hopener' hsplit
  cases before with
  | nil =>
    obtain ⟨rfl, rfl⟩ := List.cons.inj hsplit
    exact ⟨d, inner, closer, [], rfl, h⟩
  | cons t before =>
    obtain ⟨-, hrest⟩ := List.cons.inj hsplit
    have hall : OpensNests pair (Nest.tokensOfAll inner ++ [closer]) :=
      OpensNests.append (OpensNests.tokensOfAll hinner) (opensNests_singleton hcloser)
    exact hall hopener' hrest

/-- **Every opening bracket of a matched nest begins a matched nest.** -/
theorem Matched.opensNests {pair : Token → Token → Prop} {d : Int} {n : Nest}
    (h : n.Matched pair d) : OpensNests pair n.tokens := by
  induction h with
  | token hopener => exact opensNests_singleton hopener
  | group ho hc hd hd' hpair hinner ih =>
    exact opensNests_bracket (.group ho hc hd hd' hpair hinner) ih
  | paren ho hc hd hd' hpair hinner ih =>
    exact opensNests_bracket (.paren ho hc hd hd' hpair hinner) ih

end Nest

namespace Script

open Nest (tokensOfAll)

/-- **Counting finds, for every opening bracket in a row of nests, the bracket that closes it**, and
what stands between the two is a row of nests. -/
theorem exists_matching {pair : Token → Token → Prop} {d : Int} {ns : List Nest}
    (h : ∀ n ∈ ns, n.Matched pair d) {i : Nat} {opener : Token}
    (hi : (tokensOfAll ns)[i]? = some opener) (hopener : opener.kind.isOpener = true) :
    ∃ j closer, matching? (tokensOfAll ns) i = some j ∧ (tokensOfAll ns)[j]? = some closer ∧
      pair opener closer ∧ ∃ d inner, ((tokensOfAll ns).take j).drop (i + 1) = tokensOfAll inner ∧
        (Nest.bracket opener inner closer).Matched pair d := by
  obtain ⟨before, rest, hsplit, rfl⟩ : ∃ before rest,
      tokensOfAll ns = before ++ opener :: rest ∧ before.length = i := by
    obtain ⟨hlt, hget⟩ := List.getElem?_eq_some_iff.mp hi
    refine ⟨(tokensOfAll ns).take i, (tokensOfAll ns).drop (i + 1), ?_, ?_⟩
    · rw [← hget, List.getElem_cons_drop, List.take_append_drop]
    · exact List.length_take_of_le (Nat.le_of_lt hlt)
  obtain ⟨d, inner, closer, after, rfl, hmatched⟩ :=
    Nest.OpensNests.tokensOfAll (fun n hn => (h n hn).opensNests) hopener hsplit
  rw [hsplit]
  refine ⟨_, closer, matching?_eq_some hmatched before after, ?_, hmatched.pair, d, inner, ?_,
    hmatched⟩
  · simp
  · simp [List.take_append, List.drop_append]

/-- **Every row that is taken apart consists of nests.** -/
theorem Interpreted.exists_matched {source : String} {ts row : List Token}
    (h : tokenize source = .ok ts) (hrow : Interpreted ts row) :
    ∃ d ns, tokensOfAll ns = row ∧ ∀ n ∈ ns, n.Matched (Lexer.Pairs ts) d := by
  induction hrow with
  | whole =>
    obtain ⟨top, -, htokens, hmatched⟩ :=
      Nest.exists_read_matched h TokenKind.not_bracket_of_not_significant
    exact ⟨0, top, htokens, hmatched⟩
  | @inside row statement opener i j _ hstatement hi hopener hj ih =>
    obtain ⟨d, ns, rfl, hns⟩ := ih
    rw [splitStatements_tokensOfAll fun n hn => (hns n hn).paired] at hstatement
    obtain ⟨g, hg, rfl⟩ := List.mem_map.mp hstatement
    have hmem (n : Nest) (hn : n ∈ g) := hns n (Nest.kept_of_mem_cut hg hn).1
    obtain ⟨j', closer, hj', -, -, d', inner, hslice, hmatched⟩ :=
      exists_matching hmem hi (by rw [hopener]; rfl)
    obtain rfl := Option.some.inj (hj.symm.trans hj')
    obtain ⟨d', hinner⟩ := hmatched.exists_inner
    exact ⟨d', inner, hslice.symm, hinner⟩

end Script

end TagScript
