import Mathlib.Data.List.Perm.Subperm
import TagScript.Proofs.Script.Nesting
import TagScript.Proofs.Template.Respelling

/-!
# Brackets that were paired while a text was read

While a text is read, the open brackets stand on a stack. A closing bracket takes the innermost one
off it, and by that the two are paired; the depth of a token is the number of braces on the stack.

* `Lexer.openedAfter`, `Lexer.Pairs` — the open brackets after some tokens, and the bracket that a
  closing one is paired with.
* `Lexer.Bracketed` — tokens that are read between open brackets and close them all.
* `Nest.Matched` — a nest in which braces close braces and parentheses close parentheses, and in
  which the depth of every token is the number of brace groups around it.
* **`Nest.exists_read_matched`** — the tokens of a text are those of such nests, and so are its
  significant tokens.
* **`Lexer.Pairs.unique`** — an opening bracket is paired with one closing bracket only.
-/

namespace TagScript

namespace Lexer

/-! ## The open brackets -/

/-- The open brackets after more tokens. -/
def openedAfter (opened : Brackets) : List Token → Except SyntaxProblem Brackets
  | [] => .ok opened
  | t :: ts =>
    match bracketStep opened t.kind t.pos with
    | .ok (_, inner) => openedAfter inner ts
    | .error problem => .error problem

/-- Whether one token of a text is the bracket that another one closed: when that one was read, the
innermost open bracket was at the place of the first, and then it was open no more. -/
def Pairs (ts : List Token) (opener closer : Token) : Prop :=
  ∃ before after mark outer, ts = before ++ closer :: after ∧
    openedAfter [] before = .ok ((mark, opener.pos) :: outer) ∧
    bracketStep ((mark, opener.pos) :: outer) closer.kind closer.pos = .ok (depth outer, outer)

/-- Whether tokens are what is read between open brackets and closes them all: each has the depth
that it is given. -/
def Bracketed (opened : Brackets) : List Token → Prop
  | [] => opened = []
  | t :: ts => ∃ d inner, bracketStep opened t.kind t.pos = .ok (d, inner) ∧ t.depth = d ∧
      Bracketed inner ts

@[simp] theorem depth_brace (place : Position) (opened : Brackets) :
    depth (('{', place) :: opened) = depth opened + 1 := by
  simp [depth]

@[simp] theorem depth_paren (place : Position) (opened : Brackets) :
    depth (('(', place) :: opened) = depth opened := by
  simp [depth]

/-- All that a token can do to the open brackets. -/
theorem bracketStep_cases {opened inner : Brackets} {kind : TokenKind} {pos : Position} {d : Nat}
    (h : bracketStep opened kind pos = .ok (d, inner)) :
    (kind = .groupStart ∧ d = depth opened ∧ inner = ('{', pos) :: opened) ∨
    (kind = .parenStart ∧ d = depth opened ∧ inner = ('(', pos) :: opened) ∨
    (∃ place, kind = .groupEnd ∧ d = depth inner ∧ opened = ('{', place) :: inner) ∨
    (∃ place, kind = .parenEnd ∧ d = depth inner ∧ opened = ('(', place) :: inner) ∨
    (kind.isOpener = false ∧ kind.isCloser = false ∧ d = depth opened ∧ inner = opened) := by
  unfold bracketStep at h
  split at h
  · cases h
    exact .inl ⟨rfl, rfl, rfl⟩
  · cases h
    exact .inr (.inl ⟨rfl, rfl, rfl⟩)
  · rename_i place outer
    cases h
    exact .inr (.inr (.inl ⟨place, rfl, rfl, rfl⟩))
  · cases h
  · rename_i place outer
    cases h
    exact .inr (.inr (.inr (.inl ⟨place, rfl, rfl, rfl⟩)))
  · cases h
  · rename_i hgroupStart hparenStart hgroupEnd _ hparenEnd _
    cases h
    refine .inr (.inr (.inr (.inr ⟨?_, ?_, rfl, rfl⟩)))
    all_goals cases kind <;> simp_all [TokenKind.isOpener, TokenKind.isCloser]

/-- A token that is no bracket leaves the open brackets as they are. -/
theorem bracketStep_other {kind : TokenKind} (hopener : kind.isOpener = false)
    (hcloser : kind.isCloser = false) (opened : Brackets) (pos : Position) :
    bracketStep opened kind pos = .ok (depth opened, opened) := by
  cases kind with
  | groupStart | parenStart => cases hopener
  | groupEnd | parenEnd => cases hcloser
  | _ => rfl

theorem openedAfter_concat {opened mid inner : Brackets} {ts : List Token} {t : Token} {d : Nat}
    (h : openedAfter opened ts = .ok mid)
    (hstep : bracketStep mid t.kind t.pos = .ok (d, inner)) :
    openedAfter opened (ts ++ [t]) = .ok inner := by
  induction ts generalizing opened with
  | nil =>
    cases h
    simp [openedAfter, hstep]
  | cons u ts ih =>
    rw [openedAfter] at h
    rw [List.cons_append, openedAfter]
    split at h
    · exact ih h
    · cases h

theorem openedAfter_append {opened inner : Brackets} {ts us : List Token}
    (h : openedAfter opened (ts ++ us) = .ok inner) :
    ∃ mid, openedAfter opened ts = .ok mid ∧ openedAfter mid us = .ok inner := by
  induction ts generalizing opened with
  | nil => exact ⟨opened, rfl, h⟩
  | cons t ts ih =>
    rw [List.cons_append, openedAfter] at h
    rw [openedAfter]
    split at h
    · exact ih h
    · cases h

/-- Brackets stand open at the places of tokens, each at another one. -/
theorem subperm_openedAfter {opened inner : Brackets} {ts : List Token}
    (h : openedAfter opened ts = .ok inner) :
    (inner.map (·.2)).Subperm (ts.map Token.pos ++ opened.map (·.2)) := by
  induction ts generalizing opened with
  | nil =>
    cases h
    exact .refl _
  | cons t ts ih =>
    rw [openedAfter] at h
    split at h
    · rename_i d mid hstep
      have hmid : (mid.map (·.2)).Subperm (t.pos :: opened.map (·.2)) := by
        rcases bracketStep_cases hstep with ⟨-, -, rfl⟩ | ⟨-, -, rfl⟩ | ⟨place, -, -, rfl⟩ |
          ⟨place, -, -, rfl⟩ | ⟨-, -, -, rfl⟩
        · exact .refl _
        · exact .refl _
        · exact (List.sublist_cons_of_sublist _ (List.sublist_cons_self ..)).subperm
        · exact (List.sublist_cons_of_sublist _ (List.sublist_cons_self ..)).subperm
        · exact (List.sublist_cons_self ..).subperm
      have hall : (ts.map Token.pos ++ mid.map (·.2)).Subperm
          (ts.map Token.pos ++ t.pos :: opened.map (·.2)) :=
        (List.subperm_append_left _).mpr hmid
      exact ((ih h).trans hall).trans (List.perm_middle.subperm)
    · cases h

/-- A bracket that was closed does not stand open again. -/
theorem not_mem_of_closed {before between : List Token} {closer : Token} {mark : Char}
    {place : Position} {outer opened : Brackets} {d : Nat}
    (hpos : ((before ++ closer :: between).map Token.pos).Nodup)
    (hopened : openedAfter [] before = .ok ((mark, place) :: outer))
    (hstep : bracketStep ((mark, place) :: outer) closer.kind closer.pos = .ok (d, outer))
    (hafter : openedAfter [] (before ++ closer :: between) = .ok opened) :
    place ∉ opened.map (·.2) := by
  obtain ⟨mid, hmid, hrest⟩ := openedAfter_append hafter
  obtain rfl := Except.ok.inj (hopened.symm.trans hmid)
  rw [openedAfter, hstep] at hrest
  rw [List.map_append, List.map_cons] at hpos
  obtain ⟨hnodup, -, hdisjoint⟩ := List.nodup_append.mp hpos
  have hbefore := subperm_openedAfter hopened
  rw [List.map_nil, List.append_nil] at hbefore
  have hplace : place ∈ before.map Token.pos := hbefore.subset List.mem_cons_self
  have houter : place ∉ outer.map (·.2) := by
    obtain ⟨l, hperm, hsub⟩ := hbefore
    exact (List.nodup_cons.mp (hperm.nodup_iff.mp (hnodup.sublist hsub))).1
  intro hmem
  rcases List.mem_append.mp ((subperm_openedAfter hrest).subset hmem) with hnew | hold
  · exact hdisjoint place hplace place (List.mem_cons_of_mem _ hnew) rfl
  · exact houter hold

theorem nodup_pos_of_tokenize {source : String} {ts : List Token} (h : tokenize source = .ok ts) :
    (ts.map Token.pos).Nodup := by
  obtain ⟨row, -, hrow, rfl⟩ := tokenize_eq_ok_iff.mp h
  refine List.pairwise_map.mpr ((hrow.pairwise_tokensAt .start 0).1.imp fun hab heq => ?_)
  rw [heq, Position.isBefore_irrefl] at hab
  cases hab

/-- **An opening bracket of a text is paired with one closing bracket only.** -/
theorem Pairs.unique {source : String} {ts : List Token} (h : tokenize source = .ok ts)
    {opener closer closer' : Token} (hc : Pairs ts opener closer) (hc' : Pairs ts opener closer') :
    closer' = closer := by
  obtain ⟨before, after, mark, outer, hts, hopened, hstep⟩ := hc
  obtain ⟨before', after', mark', outer', hts', hopened', hstep'⟩ := hc'
  have hpos := nodup_pos_of_tokenize h
  -- one of the two stands before the other, or they stand at the same place
  rcases List.append_eq_append_iff.mp (hts.symm.trans hts') with ⟨between, rfl, heq⟩ |
    ⟨between, rfl, heq⟩
  · cases between with
    | nil => exact (List.cons.inj heq).1.symm
    | cons t between =>
      obtain ⟨rfl, rfl⟩ := List.cons.inj heq
      rw [hts', List.map_append] at hpos
      have hclosed := not_mem_of_closed (List.nodup_append.mp hpos).1 hopened hstep hopened'
      exact absurd (by simp) hclosed
  · cases between with
    | nil => exact (List.cons.inj heq).1
    | cons t between =>
      obtain ⟨rfl, rfl⟩ := List.cons.inj heq
      rw [hts, List.map_append] at hpos
      have hclosed := not_mem_of_closed (List.nodup_append.mp hpos).1 hopened' hstep' hopened
      exact absurd (by simp) hclosed

/-- The tokens of a readable row close the brackets that are open before it. -/
theorem Readable.bracketed {commandNext : Bool} {opened : Brackets} {row : List Stretch}
    (h : Readable commandNext (opened.map (·.1)) row) (pos : Position) (offset : Nat) :
    Bracketed opened (tokensAt pos offset row) := by
  induction row generalizing commandNext opened pos offset with
  | nil => exact List.map_eq_nil_iff.mp h
  | cons s row ih =>
    cases s with
    | blank c => exact ih h.2 ..
    | token kind text d =>
      obtain ⟨-, inner, hnest, hrow⟩ := h
      obtain ⟨opened', hstep, rfl⟩ := exists_bracketStep hnest pos
      exact ⟨d, opened', hstep, rfl, ih hrow ..⟩

/-- The tokens of a text open and close their brackets among themselves. -/
theorem bracketed_of_tokenize {source : String} {ts : List Token}
    (h : tokenize source = .ok ts) : Bracketed [] ts := by
  obtain ⟨row, -, hrow, rfl⟩ := tokenize_eq_ok_iff.mp h
  exact @Readable.bracketed true [] row hrow .start 0

end Lexer

namespace Nest

open Lexer (Brackets bracketStep)

/-! ## Matched nests -/

/-- Whether brackets are closed by brackets of their kind that they are paired with, and the depth
of every token is the number of brace groups around it, of which `d` are around the nest. A brace
has the depth outside of it. -/
inductive Matched (pair : Token → Token → Prop) : Int → Nest → Prop where
  /-- A token that is no bracket. -/
  | token {d : Int} {t : Token} : t.kind.isOpener = false → t.kind.isCloser = false →
      t.depth = d → Matched pair d (.token t)
  /-- A brace group. -/
  | group {d : Int} {opener closer : Token} {inner : List Nest} :
      opener.kind = .groupStart → closer.kind = .groupEnd → opener.depth = d → closer.depth = d →
        pair opener closer → (∀ n ∈ inner, Matched pair (d + 1) n) →
          Matched pair d (.bracket opener inner closer)
  /-- Parentheses. -/
  | paren {d : Int} {opener closer : Token} {inner : List Nest} :
      opener.kind = .parenStart → closer.kind = .parenEnd → opener.depth = d → closer.depth = d →
        pair opener closer → (∀ n ∈ inner, Matched pair d n) →
          Matched pair d (.bracket opener inner closer)

theorem Matched.paired {pair : Token → Token → Prop} {d : Int} {n : Nest}
    (h : n.Matched pair d) : n.Paired := by
  induction h with
  | token hopener hcloser => exact .token hopener hcloser
  | group hopener hcloser _ _ _ _ ih | paren hopener hcloser _ _ _ _ ih =>
    exact .bracket (by rw [hopener]; rfl) (by rw [hcloser]; rfl) ih

/-- Whether open rows stand between open brackets: the opening bracket and the row before it, for
each of them. -/
inductive Between (pair : Token → Token → Prop) : List (Token × List Nest) → Brackets → Prop where
  | nil : Between pair [] []
  | group {opener : Token} {before : List Nest} {outer : List (Token × List Nest)}
      {opened : Brackets} :
      opener.kind = .groupStart → opener.depth = Lexer.depth opened →
        (∀ n ∈ before, n.Matched pair (Lexer.depth opened)) → Between pair outer opened →
          Between pair ((opener, before) :: outer) (('{', opener.pos) :: opened)
  | paren {opener : Token} {before : List Nest} {outer : List (Token × List Nest)}
      {opened : Brackets} :
      opener.kind = .parenStart → opener.depth = Lexer.depth opened →
        (∀ n ∈ before, n.Matched pair (Lexer.depth opened)) → Between pair outer opened →
          Between pair ((opener, before) :: outer) (('(', opener.pos) :: opened)

/-- Whether open rows are those between the open brackets of a text. -/
structure Open.Follows (pair : Token → Token → Prop) (s : Open) (opened : Brackets) : Prop where
  /-- The innermost row stands inside of all of them. -/
  row : ∀ n ∈ s.row, n.Matched pair (Lexer.depth opened)
  /-- The other rows stand between them. -/
  outer : Between pair s.outer opened

/-- **A token does to the open rows what it does to the open brackets.** -/
theorem exists_step_follows {pair : Token → Token → Prop} {s : Open} {opened inner : Brackets}
    {t : Token} {d : Nat} (hstep : bracketStep opened t.kind t.pos = .ok (d, inner))
    (hdepth : t.depth = d) (hs : s.Follows pair opened)
    (hpair : ∀ opener mark, opened = (mark, opener.pos) :: inner → d = Lexer.depth inner →
      pair opener t) :
    ∃ s', step s t = some s' ∧ s'.Follows pair inner := by
  obtain ⟨row, outer⟩ := s
  obtain ⟨hrow, houter⟩ := hs
  rcases Lexer.bracketStep_cases hstep with ⟨hkind, rfl, rfl⟩ | ⟨hkind, rfl, rfl⟩ |
    ⟨place, hkind, rfl, rfl⟩ | ⟨place, hkind, rfl, rfl⟩ | ⟨hopener, hcloser, rfl, rfl⟩
  · exact ⟨_, step_opener (by rw [hkind]; rfl) _, nofun, .group hkind hdepth hrow houter⟩
  · exact ⟨_, step_opener (by rw [hkind]; rfl) _, nofun, .paren hkind hdepth hrow houter⟩
  · cases houter with
    | @group opener before outer opened ho hd hbefore houter =>
      refine ⟨_, step_closer (by rw [hkind]; rfl) rfl, ?_, houter⟩
      have hnest : (Nest.bracket opener row.reverse t).Matched pair (Lexer.depth inner) := by
        refine .group ho hkind hd hdepth (hpair opener '{' rfl rfl) fun n hn => ?_
        simpa using hrow n (List.mem_reverse.mp hn)
      exact List.forall_mem_cons.mpr ⟨hnest, hbefore⟩
  · cases houter with
    | @paren opener before outer opened ho hd hbefore houter =>
      refine ⟨_, step_closer (by rw [hkind]; rfl) rfl, ?_, houter⟩
      have hnest : (Nest.bracket opener row.reverse t).Matched pair (Lexer.depth inner) := by
        refine .paren ho hkind hd hdepth (hpair opener '(' rfl rfl) fun n hn => ?_
        simpa using hrow n (List.mem_reverse.mp hn)
      exact List.forall_mem_cons.mpr ⟨hnest, hbefore⟩
  · refine ⟨_, step_other hopener hcloser _, ?_, houter⟩
    exact List.forall_mem_cons.mpr ⟨.token hopener hcloser hdepth, hrow⟩

/-- A walk over the tokens of a text ends with no open row around the outermost one. Tokens that are
no brackets can be left out of it. -/
theorem exists_run_follows {keep : Token → Bool}
    (hkeep : ∀ t, keep t = false → t.kind.isOpener = false ∧ t.kind.isCloser = false)
    {ts before after : List Token} {opened : Brackets} {s : Open} (hts : ts = before ++ after)
    (hopened : Lexer.openedAfter [] before = .ok opened) (h : Lexer.Bracketed opened after)
    (hs : s.Follows (Lexer.Pairs ts) opened) :
    ∃ s', run s (after.filter keep) = some s' ∧ s'.Follows (Lexer.Pairs ts) [] := by
  induction after generalizing before opened s with
  | nil =>
    obtain rfl : opened = [] := h
    exact ⟨s, rfl, hs⟩
  | cons t after ih =>
    obtain ⟨d, inner, hstep, hdepth, hafter⟩ := h
    have hpair (opener : Token) (mark : Char) (heq : opened = (mark, opener.pos) :: inner)
        (hd : d = Lexer.depth inner) : Lexer.Pairs ts opener t :=
      ⟨before, after, mark, inner, hts, heq ▸ hopened, by rw [← heq, hstep, hd]⟩
    have hrest : ts = (before ++ [t]) ++ after := by simp [hts]
    have hopened' := Lexer.openedAfter_concat hopened hstep
    by_cases hkept : keep t = true
    · obtain ⟨next, hnext, hfollows⟩ := exists_step_follows hstep hdepth hs hpair
      obtain ⟨s', hrun, hend⟩ := ih hrest hopened' hafter hfollows
      refine ⟨s', ?_, hend⟩
      rw [List.filter_cons_of_pos hkept, run, hnext]
      exact hrun
    · have hkept := Bool.eq_false_iff.mpr hkept
      obtain ⟨hopener, hcloser⟩ := hkeep t hkept
      obtain ⟨-, rfl⟩ := Prod.mk.inj (Except.ok.inj
        ((Lexer.bracketStep_other hopener hcloser opened t.pos).symm.trans hstep))
      rw [List.filter_cons_of_neg (Bool.eq_false_iff.mp hkept)]
      exact ih hrest hopened' hafter hs

/-- **The tokens of a text are nested**, also when tokens that are no brackets are left out: braces
close braces, parentheses close parentheses, as they were paired when the text was read, and the
depth of every token is the number of brace groups around it. -/
theorem exists_read_matched {source : String} {ts : List Token} (h : tokenize source = .ok ts)
    {keep : Token → Bool}
    (hkeep : ∀ t, keep t = false → t.kind.isOpener = false ∧ t.kind.isCloser = false) :
    ∃ top, read (ts.filter keep) = some top ∧ tokensOfAll top = ts.filter keep ∧
      ∀ n ∈ top, n.Matched (Lexer.Pairs ts) 0 := by
  have hstart : (Open.mk [] []).Follows (Lexer.Pairs ts) [] := ⟨nofun, .nil⟩
  obtain ⟨⟨row, outer⟩, hrun, hrow, houter⟩ := exists_run_follows hkeep
    (List.nil_append ts).symm rfl (Lexer.bracketed_of_tokenize h) hstart
  cases houter
  have hread : read (ts.filter keep) = some row.reverse := by rw [read, hrun]
  exact ⟨row.reverse, hread, (read_spec hread).1, fun n hn => hrow n (List.mem_reverse.mp hn)⟩

end Nest

end TagScript
