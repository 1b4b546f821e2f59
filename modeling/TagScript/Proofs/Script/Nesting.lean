import TagScript.Proofs.Token.Stretch
import TagScript.Script.Nest

/-!
# Rows of nests

`Nest.read` pairs the brackets of a row of tokens. Every text that is read has such a pairing, and
nothing is lost in it.

* `Level` — the rows at all levels: the outermost one, and what stands between two brackets.
* `Paired` — brackets are opened and closed by brackets, and no bracket is left alone.
* `run_tokens` — a walk over tokens adds them to those that were there before.
* **`exists_read`** — the significant tokens of a text that is read are paired.
-/

namespace TagScript

/-- Whether a token of the kind opens a bracket. -/
def TokenKind.isOpener : TokenKind → Bool
  | .groupStart | .parenStart => true
  | _ => false

/-- Whether a token of the kind closes a bracket. -/
def TokenKind.isCloser : TokenKind → Bool
  | .groupEnd | .parenEnd => true
  | _ => false

namespace Nest

/-- The rows at all levels of an outermost row. -/
inductive Level (top : List Nest) : List Nest → Prop where
  /-- The outermost row. -/
  | top : Level top top
  /-- What stands between two brackets. -/
  | inner {row inner : List Nest} {opener closer : Token} :
      Level top row → .bracket opener inner closer ∈ row → Level top inner

/-- Whether brackets are opened and closed by brackets, and no bracket is left alone. -/
inductive Paired : Nest → Prop where
  | token {t : Token} :
      t.kind.isOpener = false → t.kind.isCloser = false → Paired (.token t)
  | bracket {opener closer : Token} {inner : List Nest} :
      opener.kind.isOpener = true → closer.kind.isCloser = true → (∀ n ∈ inner, Paired n) →
        Paired (.bracket opener inner closer)

theorem Level.paired {top row : List Nest} (h : Level top row) (htop : ∀ n ∈ top, Paired n) :
    ∀ n ∈ row, Paired n := by
  induction h with
  | top => exact htop
  | inner _ hmem ih =>
    cases ih _ hmem with
    | bracket _ _ hinner => exact hinner

/-! ## Tokens of rows -/

theorem mem_tokensOfAll {row : List Nest} {t : Token} (h : .token t ∈ row) :
    t ∈ tokensOfAll row := by
  induction row with
  | nil => cases h
  | cons n row ih =>
    rw [tokensOfAll]
    rcases List.mem_cons.mp h with rfl | h
    · exact List.mem_append_left _ (List.mem_singleton.mpr rfl)
    · exact List.mem_append_right _ (ih h)

theorem exists_mem_tokens {row : List Nest} {t : Token} (h : t ∈ tokensOfAll row) :
    ∃ n ∈ row, t ∈ tokens n := by
  induction row with
  | nil => cases h
  | cons n row ih =>
    rcases List.mem_append.mp h with h | h
    · exact ⟨n, List.mem_cons_self, h⟩
    · obtain ⟨m, hm, ht⟩ := ih h
      exact ⟨m, List.mem_cons_of_mem n hm, ht⟩

/-- Every token that is no bracket stands in a row at some level. -/
theorem Level.exists_row {top row : List Nest} (h : Level top row)
    (htop : ∀ n ∈ top, Paired n) {t : Token} (hopener : t.kind.isOpener = false)
    (hcloser : t.kind.isCloser = false) (ht : t ∈ tokensOfAll row) :
    ∃ row, Level top row ∧ .token t ∈ row := by
  induction hlen : (tokensOfAll row).length using Nat.strongRecOn generalizing row with
  | ind len ih =>
    subst hlen
    obtain ⟨n, hn, htn⟩ := exists_mem_tokens ht
    cases h.paired htop n hn with
    | token => exact ⟨row, h, List.mem_singleton.mp htn ▸ hn⟩
    | @bracket opener closer inner ho hc _ =>
      have hinner : t ∈ tokensOfAll inner := by
        simp only [tokens, List.cons_append, List.mem_cons, List.mem_append, List.not_mem_nil,
          or_false] at htn
        rcases htn with rfl | htn | rfl
        · rw [ho] at hopener
          cases hopener
        · exact htn
        · rw [hc] at hcloser
          cases hcloser
      refine ih _ ?_ (h.inner hn) hinner rfl
      obtain ⟨earlier, later, rfl⟩ := List.append_of_mem hn
      rw [tokensOfAll_append, tokensOfAll, tokens]
      simp only [List.length_append, List.length_cons]
      omega

theorem eq_nil_of_split {w : Token} {between after after' : List Nest}
    (hnodup : (tokensOfAll (.token w :: after)).Nodup)
    (heq : .token w :: after = between ++ .token w :: after') : between = [] := by
  cases between with
  | nil => rfl
  | cons n between =>
    obtain ⟨-, rfl⟩ := List.cons.inj heq
    rw [tokensOfAll, tokens, List.singleton_append, List.nodup_cons] at hnodup
    exact absurd (mem_tokensOfAll (by simp)) hnodup.1

/-- A token that stands once in the tokens of a row stands at one place of it. -/
theorem eq_of_split {before before' after after' : List Nest} {w : Token}
    (hnodup : (tokensOfAll (before ++ .token w :: after)).Nodup)
    (heq : before ++ .token w :: after = before' ++ .token w :: after') : before = before' := by
  have hright {earlier later : List Nest} (h : (tokensOfAll (earlier ++ later)).Nodup) :
      (tokensOfAll later).Nodup := by
    rw [tokensOfAll_append] at h
    exact h.sublist (List.sublist_append_right ..)
  rcases List.append_eq_append_iff.mp heq with ⟨between, rfl, hbetween⟩ | ⟨between, rfl, hbetween⟩
  · rw [eq_nil_of_split (hright hnodup) hbetween, List.append_nil]
  · rw [heq] at hnodup
    rw [eq_nil_of_split (hright hnodup) hbetween, List.append_nil]

/-! ## One step -/

/-- A token is an opening bracket, a closing one or neither. -/
theorem step_cases {s s' : Open} {t : Token} (h : step s t = some s') :
    (t.kind.isOpener = true ∧ s' = ⟨[], (t, s.row) :: s.outer⟩) ∨
    (t.kind.isCloser = true ∧ ∃ opener before outer, s.outer = (opener, before) :: outer ∧
      s' = ⟨.bracket opener s.row.reverse t :: before, outer⟩) ∨
    (t.kind.isOpener = false ∧ t.kind.isCloser = false ∧ s' = ⟨.token t :: s.row, s.outer⟩) := by
  unfold step at h
  cases hkind : t.kind with
  | groupStart | parenStart =>
    simp only [hkind] at h
    cases h
    exact .inl ⟨rfl, rfl⟩
  | groupEnd | parenEnd =>
    simp only [hkind] at h
    split at h
    · rename_i opener before outer houter
      cases h
      exact .inr (.inl ⟨rfl, opener, before, outer, houter, rfl⟩)
    · cases h
  | _ =>
    simp only [hkind] at h
    cases h
    exact .inr (.inr ⟨rfl, rfl, rfl⟩)

theorem step_opener {t : Token} (h : t.kind.isOpener = true) (s : Open) :
    step s t = some ⟨[], (t, s.row) :: s.outer⟩ := by
  unfold step
  cases hkind : t.kind <;> first | rfl | (rw [hkind] at h; cases h)

theorem step_closer {t : Token} (h : t.kind.isCloser = true) {s : Open} {opener : Token}
    {before : List Nest} {outer : List (Token × List Nest)}
    (houter : s.outer = (opener, before) :: outer) :
    step s t = some ⟨.bracket opener s.row.reverse t :: before, outer⟩ := by
  unfold step
  rw [houter]
  cases hkind : t.kind <;> first | rfl | (rw [hkind] at h; cases h)

theorem step_other {t : Token} (hopener : t.kind.isOpener = false)
    (hcloser : t.kind.isCloser = false) (s : Open) :
    step s t = some ⟨.token t :: s.row, s.outer⟩ := by
  unfold step
  cases hkind : t.kind <;> rw [hkind] at hopener hcloser <;> first | rfl | contradiction

/-- The tokens of the rows before the innermost one, with their opening brackets. -/
def outerTokens : List (Token × List Nest) → List Token
  | [] => []
  | (opener, before) :: outer => outerTokens outer ++ tokensOfAll before.reverse ++ [opener]

/-- The tokens of the open rows, in the order in which they were read. -/
def Open.tokens (s : Open) : List Token :=
  outerTokens s.outer ++ tokensOfAll s.row.reverse

/-- Whether the open rows are paired, the opening brackets apart. -/
structure Open.Paired (s : Open) : Prop where
  /-- The innermost row is paired. -/
  row : ∀ n ∈ s.row, Nest.Paired n
  /-- The rows around it are paired, and brackets were opened behind them. -/
  outer : ∀ p ∈ s.outer, p.1.kind.isOpener = true ∧ ∀ n ∈ p.2, Nest.Paired n

theorem step_tokens {s s' : Open} {t : Token} (h : step s t = some s') :
    s'.tokens = s.tokens ++ [t] := by
  obtain ⟨-, rfl⟩ | ⟨-, opener, before, outer, houter, rfl⟩ | ⟨-, -, rfl⟩ := step_cases h
  · simp [Open.tokens, outerTokens, tokensOfAll]
  · simp [Open.tokens, outerTokens, tokensOfAll, tokensOfAll_append, Nest.tokens, houter]
  · simp [Open.tokens, tokensOfAll, tokensOfAll_append, Nest.tokens]

theorem step_paired {s s' : Open} {t : Token} (h : step s t = some s') (hs : s.Paired) :
    s'.Paired := by
  obtain ⟨ht, rfl⟩ | ⟨ht, opener, before, outer, houter, rfl⟩ | ⟨ho, hc, rfl⟩ := step_cases h
  · exact ⟨nofun, List.forall_mem_cons.mpr ⟨⟨ht, hs.row⟩, hs.outer⟩⟩
  · have hall := hs.outer
    rw [houter] at hall
    obtain ⟨⟨hopener, hbefore⟩, hrest⟩ := List.forall_mem_cons.mp hall
    refine ⟨List.forall_mem_cons.mpr ⟨.bracket hopener ht fun n hn => ?_, hbefore⟩, hrest⟩
    exact hs.row n (List.mem_reverse.mp hn)
  · exact ⟨List.forall_mem_cons.mpr ⟨.token ho hc, hs.row⟩, hs.outer⟩

/-! ## A walk over tokens -/

/-- A walk over tokens adds them to those that were there before. -/
theorem run_tokens {s s' : Open} {ts : List Token} (h : run s ts = some s') :
    s'.tokens = s.tokens ++ ts := by
  induction ts generalizing s with
  | nil =>
    cases h
    exact (List.append_nil _).symm
  | cons t ts ih =>
    obtain ⟨next, hstep, hrun⟩ := Option.bind_eq_some_iff.mp h
    rw [ih hrun, step_tokens hstep, List.append_assoc]
    rfl

theorem run_paired {s s' : Open} {ts : List Token} (h : run s ts = some s') (hs : s.Paired) :
    s'.Paired := by
  induction ts generalizing s with
  | nil =>
    cases h
    exact hs
  | cons t ts ih =>
    obtain ⟨next, hstep, hrun⟩ := Option.bind_eq_some_iff.mp h
    exact ih hrun (step_paired hstep hs)

/-- What is read is paired, and nothing is lost. -/
theorem read_spec {ts : List Token} {ns : List Nest} (h : read ts = some ns) :
    tokensOfAll ns = ts ∧ ∀ n ∈ ns, Paired n := by
  unfold read at h
  split at h
  · rename_i row hrun
    cases h
    have htokens := run_tokens hrun
    have hpaired := run_paired hrun ⟨nofun, nofun⟩
    refine ⟨by simpa [Open.tokens, outerTokens, tokensOfAll] using htokens, fun n hn => ?_⟩
    exact hpaired.row n (List.mem_reverse.mp hn)
  · cases h

/-- A bracket that `nest?` admits changes the open rows in step, whatever stands around them. -/
theorem exists_step {opened inner : List Char} {t : Token} {depth : Nat}
    (h : Lexer.nest? opened t.kind = some (depth, inner)) (row : List Nest)
    {mine : List (Token × List Nest)} (hmine : mine.length = opened.length)
    (base : List (Token × List Nest)) :
    ∃ row' mine', step ⟨row, mine ++ base⟩ t = some ⟨row', mine' ++ base⟩ ∧
      mine'.length = inner.length := by
  unfold step
  cases hkind : t.kind with
  | groupEnd | parenEnd =>
    simp only [hkind] at h
    unfold Lexer.nest? at h
    cases opened with
    | nil => cases h
    | cons c opened =>
      obtain ⟨p, mine, rfl⟩ := List.exists_cons_of_length_eq_add_one hmine
      refine ⟨_, mine, rfl, ?_⟩
      split at h <;> simp_all
  | groupStart | parenStart =>
    rw [hkind] at h
    cases h
    exact ⟨[], (t, row) :: mine, rfl, congrArg (· + 1) hmine⟩
  | _ =>
    rw [hkind] at h
    cases h
    exact ⟨.token t :: row, mine, rfl, hmine⟩

/-- A walk over tokens with the kinds of a readable row closes the brackets that the row closes, and
leaves those around them. -/
theorem exists_run {commandNext : Bool} {opened : List Char} {row : List Lexer.Stretch}
    (h : Lexer.Readable commandNext opened row) {ts : List Token}
    (hkinds : ts.map Token.kind = row.filterMap Lexer.Stretch.kind?) (before : List Nest)
    {mine : List (Token × List Nest)} (hmine : mine.length = opened.length)
    (base : List (Token × List Nest)) :
    ∃ row', run ⟨before, mine ++ base⟩ (Token.significant ts) = some ⟨row', base⟩ := by
  induction row generalizing commandNext opened ts before mine with
  | nil =>
    rw [show opened = [] from h] at hmine
    rw [List.map_eq_nil_iff.mp hkinds, List.length_eq_zero_iff.mp hmine]
    exact ⟨before, rfl⟩
  | cons s row ih =>
    cases s with
    | blank c => exact ih h.2 hkinds before hmine
    | token kind text depth =>
      obtain ⟨-, inner, hnest, hrow⟩ := h
      obtain ⟨t, ts, rfl, rfl, hrest⟩ := List.map_eq_cons_iff.mp hkinds
      rw [Token.significant, List.filter_cons]
      split
      · obtain ⟨next, mine', hstep, hmine'⟩ := exists_step hnest before hmine base
        obtain ⟨row', hrun⟩ := ih hrow hrest next hmine'
        exact ⟨row', by rw [run, hstep]; exact hrun⟩
      · rename_i hremark
        have hinner : inner = opened := by
          cases hkind : t.kind <;> rw [hkind] at hnest hremark <;>
            first | exact absurd rfl hremark | (cases hnest; rfl)
        rw [hinner] at hrow
        exact ih hrow hrest before hmine

/-- A walk over tokens with the kinds of a readable row leaves the brackets that were open. -/
theorem exists_run_of_empty {row : List Lexer.Stretch} (h : Lexer.Readable true [] row)
    {ts : List Token} (hkinds : ts.map Token.kind = row.filterMap Lexer.Stretch.kind?)
    (base : List (Token × List Nest)) :
    ∃ row', run ⟨[], base⟩ (Token.significant ts) = some ⟨row', base⟩ :=
  @exists_run true [] row h ts hkinds [] [] rfl base

/-- **The significant tokens of a text that is read are paired.** -/
theorem exists_read {source : String} {ts : List Token} (h : tokenize source = .ok ts) :
    ∃ ns, read (Token.significant ts) = some ns := by
  obtain ⟨row, -, hrow, rfl⟩ := Lexer.tokenize_eq_ok_iff.mp h
  obtain ⟨ns, hrun⟩ := exists_run_of_empty hrow (Lexer.map_kind_tokensAt .start 0 row) []
  exact ⟨ns.reverse, by rw [read, hrun]⟩

end Nest

end TagScript
