import TagScript.Proofs.Script.Groups

/-!
# Element words level by level

When a block is made ready, only the words outside of its brace groups are looked at; those inside a
group are looked at when the text of the group is made ready in its turn. Nothing gets lost this
way, since the text of a group is read alone as it is read between its braces.

* `WordsByLevel` — the element words of a text, found level by level.
* `perm_of_wordsByLevel` — they are the words that are found at all levels at once.
* **`tokenize_groups`** — reading is compatible with brace groups, and so is looking for words.
-/

namespace TagScript

/-- The place of a word and its characters. -/
def Token.site (t : Token) : Nat × String :=
  (t.offset, t.text)

/-- A place in a text that begins some characters further behind. -/
def shiftSite (more : Nat) (site : Nat × String) : Nat × String :=
  (site.1 + more, site.2)

/-- The element words of a text, found level by level: those outside of all brace groups, and those
that are found in this way in the text of each outermost group. -/
inductive WordsByLevel (known : String → Bool) : String → List (Nat × String) → Prop where
  | level {source : String} {ts : List Token} (found : Token × Token → List (Nat × String)) :
      tokenize source = .ok ts →
      (∀ g ∈ Token.outerGroups ts,
        WordsByLevel known (Script.between source.toList g.1 g.2) (found g)) →
      WordsByLevel known source
        ((Token.elementWords known true ts).map Token.site ++
          (Token.outerGroups ts).flatMap fun g => (found g).map (shiftSite (g.1.offset + 1)))

namespace Lexer

variable {known : String → Bool}

/-- The element words of moved tokens stand where they were moved to. -/
theorem map_site_of_moved {more : Nat} {deeper : Int} {ts us : List Token}
    (h : List.Forall₂ (Token.Moved more deeper) ts us) :
    (Token.elementWords known false us).map Token.site =
      ((Token.elementWords known false ts).map Token.site).map (shiftSite more) := by
  induction h with
  | nil => rfl
  | @cons t u ts us htu _ ih =>
    have hword : u.isElementWord known = t.isElementWord known := by
      rw [Token.isElementWord, Token.isElementWord, htu.kind_eq, htu.text_eq]
    have hsite : u.site = shiftSite more t.site := by
      rw [Token.site, htu.offset_eq, htu.text_eq]
      rfl
    unfold Token.elementWords at ih ⊢
    simp only [List.filter_cons, Bool.not_false, Bool.true_or, Bool.true_and, hword]
    split
    · rw [List.map_cons, List.map_cons, List.map_cons, hsite]
      exact congrArg _ ih
    · exact ih

/-- Nothing inside of a brace group is found outside of all of them. -/
theorem elementWords_raise (pos : Position) (offset : Nat) (row : List Stretch) :
    Token.elementWords known true (tokensAt pos offset (row.map (Stretch.raise 1))) = [] :=
  List.filter_eq_nil_iff.mpr fun t ht => by simp [depth_ne_zero_of_mem ht]

theorem elementWords_append (topLevelOnly : Bool) (ts us : List Token) :
    Token.elementWords known topLevelOnly (ts ++ us) =
      Token.elementWords known topLevelOnly ts ++ Token.elementWords known topLevelOnly us :=
  List.filter_append ..

/-- A token outside of all brace groups is found in both ways or in none. -/
theorem elementWords_outside (topLevelOnly : Bool) {t : Token} (h : t.depth = 0) (ts : List Token) :
    Token.elementWords known topLevelOnly (t :: ts) =
      (if t.isElementWord known then [t] else []) ++ Token.elementWords known topLevelOnly ts := by
  have hdepth : (!topLevelOnly || t.depth == 0) = true := by simp [h]
  rw [Token.elementWords, List.filter_cons, hdepth, Bool.true_and]
  split <;> rfl

theorem elementWords_of_ne (topLevelOnly : Bool) {t : Token} (h : t.kind ≠ .command)
    (ts : List Token) :
    Token.elementWords known topLevelOnly (t :: ts) = Token.elementWords known topLevelOnly ts := by
  rw [Token.elementWords, List.filter_cons_of_neg]
  · rfl
  · simp [Token.isElementWord, h]

/-- Words found in each outermost group, together with those outside, are the words of a row. -/
theorem perm_of_found (before : List Char) (pos : Position) {parts : List Part}
    (hparts : ∀ p ∈ parts, p.Proper) (found : Token × Token → List (Nat × String))
    (hfound : ∀ g ∈ Token.outerGroups (tokensAt pos before.length (rowOf parts)),
      ∀ us, tokenize (Script.between (before ++ textOf (rowOf parts)) g.1 g.2) = .ok us →
        (found g).Perm ((Token.elementWords known false us).map Token.site)) :
    ((Token.elementWords known true (tokensAt pos before.length (rowOf parts))).map Token.site ++
      (Token.outerGroups (tokensAt pos before.length (rowOf parts))).flatMap
        fun g => (found g).map (shiftSite (g.1.offset + 1))).Perm
      ((Token.elementWords known false (tokensAt pos before.length (rowOf parts))).map
        Token.site) := by
  induction parts generalizing before pos with
  | nil => exact .refl _
  | cons p parts ih =>
    obtain ⟨hp, htail⟩ := List.forall_mem_cons.mp hparts
    cases p with
    | stretch s =>
      have hrest := ih (before ++ s.chars) (pos.advanceAll s.chars) htail
      rw [List.length_append, List.append_assoc, ← textOf_cons] at hrest
      cases s with
      | blank c => exact hrest hfound
      | token kind text depth =>
        obtain ⟨hstart, hend, rfl⟩ := hp
        rw [rowOf_stretch, tokensAt, outerGroups_outside hstart hend] at hfound ⊢
        rw [elementWords_outside _ rfl, elementWords_outside _ rfl, List.map_append,
          List.map_append, List.append_assoc]
        exact (hrest hfound).append_left _
    | group inner =>
      obtain ⟨pos₁, pos₂, pos₃, htokens⟩ := exists_tokensAt_group pos before.length inner parts
      have hrest := ih (before ++ '{' :: (textOf inner ++ ['}'])) pos₃ htail
      rw [length_group, textOf_group] at hrest
      rw [htokens, outerGroups_group, textOf_rowOf_group] at hfound
      obtain ⟨hfirst, hmore⟩ := List.forall_mem_cons.mp hfound
      rw [between_eq before (textOf inner) _ rfl rfl] at hfirst
      have hinner := (hfirst _ (tokenize_textOf hp)).map (shiftSite (before.length + 1))
      have hmoved := @map_site_of_moved known _ _ _ _
        (forall₂_moved .start pos₁ 0 (before.length + 1) 1 inner)
      rw [Nat.zero_add] at hmoved
      rw [← hmoved] at hinner
      have hopening : (openingBrace pos before.length).kind ≠ .command :=
        show TokenKind.groupStart ≠ .command by decide
      have hclosing (offset : Nat) : (closingBrace pos₂ offset).kind ≠ .command :=
        show TokenKind.groupEnd ≠ .command by decide
      rw [htokens, outerGroups_group, elementWords_of_ne _ hopening, elementWords_of_ne _ hopening,
        elementWords_append, elementWords_append, elementWords_raise,
        elementWords_of_ne _ (hclosing _), elementWords_of_ne _ (hclosing _), List.nil_append,
        List.flatMap_cons, List.map_append]
      exact (List.perm_append_comm_assoc ..).trans (hinner.append (hrest hmore))

/-- A group of an outline is shorter than the outline. -/
theorem length_lt_of_group_mem {inner : List Stretch} {parts : List Part}
    (h : .group inner ∈ parts) : inner.length < (rowOf parts).length := by
  induction parts with
  | nil => cases h
  | cons p parts ih =>
    rcases List.mem_cons.mp h with rfl | h
    · rw [rowOf_group]
      simp only [List.length_cons, List.length_append, List.length_map]
      omega
    · have := ih h
      rw [rowOf, List.flatMap_cons, List.length_append]
      exact Nat.lt_add_left _ this

/-- The text of every outermost group is read alone, and it is shorter. -/
theorem exists_of_mem_outerGroups {parts : List Part} (hparts : ∀ p ∈ parts, p.Proper)
    {g : Token × Token} (hg : g ∈ Token.outerGroups (tokensAt .start 0 (rowOf parts))) :
    ∃ inner, Script.between (textOf (rowOf parts)) g.1 g.2 = String.ofList (textOf inner) ∧
      Readable true [] inner ∧ inner.length < (rowOf parts).length := by
  have hall := map_between_outerGroups [] .start hparts
  rw [List.nil_append, List.length_nil] at hall
  have hmem := List.mem_map_of_mem (f := fun g => Script.between (textOf (rowOf parts)) g.1 g.2) hg
  rw [hall] at hmem
  obtain ⟨p, hp, htext⟩ := List.mem_filterMap.mp hmem
  cases p with
  | stretch s => cases htext
  | group inner =>
    exact ⟨inner, (Option.some.inj htext).symm, hparts _ hp, length_lt_of_group_mem hp⟩

/-- Looking for words level by level comes to an end. -/
theorem Readable.exists_wordsByLevel {row : List Stretch} (h : Readable true [] row) :
    ∃ words, WordsByLevel known (String.ofList (textOf row)) words := by
  induction hn : row.length using Nat.strongRecOn generalizing row with
  | ind n ih =>
    subst hn
    obtain ⟨parts, rfl, hparts⟩ := h.exists_parts rfl
    have hinner : ∀ g, ∃ words, g ∈ Token.outerGroups (tokensAt .start 0 (rowOf parts)) →
        WordsByLevel known (Script.between (textOf (rowOf parts)) g.1 g.2) words := by
      intro g
      by_cases hg : g ∈ Token.outerGroups (tokensAt .start 0 (rowOf parts))
      · obtain ⟨inner, htext, hinner, hless⟩ := exists_of_mem_outerGroups hparts hg
        obtain ⟨words, hwords⟩ := ih inner.length hless hinner rfl
        exact ⟨words, fun _ => htext ▸ hwords⟩
      · exact ⟨[], fun h => absurd h hg⟩
    obtain ⟨found, hfound⟩ := Classical.axiomOfChoice hinner
    refine ⟨_, .level found (tokenize_textOf h) fun g hg => ?_⟩
    rw [String.toList_ofList]
    exact hfound g hg

end Lexer

open Lexer

/-- **The words found level by level are those found at all levels at once**, each as often. -/
theorem perm_of_wordsByLevel {known : String → Bool} {source : String}
    {words : List (Nat × String)} (h : WordsByLevel known source words) {ts : List Token}
    (hts : tokenize source = .ok ts) :
    words.Perm ((Token.elementWords known false ts).map Token.site) := by
  induction h generalizing ts with
  | @level source us found hread _ ih =>
    obtain rfl : us = ts := Except.ok.inj (hread.symm.trans hts)
    obtain ⟨row, htext, hrow, rfl⟩ := tokenize_eq_ok_iff.mp hts
    obtain ⟨parts, rfl, hparts⟩ := hrow.exists_parts rfl
    refine perm_of_found [] .start hparts found fun g hg us hus => ?_
    rw [List.nil_append, htext] at hus
    exact ih g hg hus

/-- No two element words of a text stand at the same place. -/
theorem nodup_elementWords (known : String → Bool) {source : String} {ts : List Token}
    (h : tokenize source = .ok ts) :
    ((Token.elementWords known false ts).map Token.site).Nodup := by
  obtain ⟨row, -, hrow, rfl⟩ := tokenize_eq_ok_iff.mp h
  refine List.pairwise_map.mpr (hrow.ordered.filter _ |>.imp fun {a b} hab hsite => ?_)
  exact Nat.ne_of_lt hab.1 (congrArg Prod.fst hsite)

/-- **Reading is compatible with brace groups.** Every opening brace has a partner; what stands
between a brace and its partner is read alone as it is read there, with places counted from the
opening brace and depths from the inside of the group. A text that does not end with a line join is
read as a group when it is put between braces with a newline before the closing one. So looking for
element words level by level finds the words of all levels, each once. -/
theorem tokenize_groups {source : String} {ts : List Token} (h : tokenize source = .ok ts) :
    (∀ opener ∈ ts, opener.kind = .groupStart →
      ∃ inner closer, Token.IsGroup ts opener inner closer) ∧
    (∀ opener inner closer, Token.IsGroup ts opener inner closer →
      ∃ us, tokenize (Script.between source.toList opener closer) = .ok us ∧
        List.Forall₂ (Token.Moved (opener.offset + 1) (opener.depth + 1)) us inner) ∧
    ((∀ t ∈ ts.getLast?, t.kind ≠ .continuation) →
      ∃ opener inner newline closer,
        tokenize ("\x7b" ++ source ++ "\n\x7d") = .ok (opener :: (inner ++ [newline, closer])) ∧
        Token.IsGroup (opener :: (inner ++ [newline, closer])) opener (inner ++ [newline]) closer ∧
        List.Forall₂ (Token.Moved 1 1) ts inner ∧ newline.kind = .newline) ∧
    ∀ known, (∃ words, WordsByLevel known source words) ∧
      ∀ words, WordsByLevel known source words →
        words.Nodup ∧ words.Perm ((Token.elementWords known false ts).map Token.site) := by
  refine ⟨fun opener hmem hkind => ?_, ?_, exists_enclosed h, fun known => ⟨?_, ?_⟩⟩
  · obtain ⟨before, rest, rfl⟩ := List.append_of_mem hmem
    obtain ⟨row, inner, closer, after, rfl, hcloser, -, hbalanced, -⟩ := exists_partner h hkind
    exact ⟨inner, closer, before, after, rfl, hkind, hcloser, hbalanced⟩
  · rintro opener inner closer ⟨before, after, rfl, hkind, hcloser, hbalanced⟩
    obtain ⟨row, inner', closer', after', hrest, hcloser', hrow, hbalanced', htext, hmoved⟩ :=
      exists_partner h hkind
    obtain ⟨rfl, rfl⟩ := Token.eq_of_balanced hbalanced hbalanced' hcloser hcloser' hrest
    rw [htext]
    exact ⟨tokensAt .start 0 row, tokenize_textOf hrow, hmoved⟩
  · obtain ⟨row, htext, hrow, -⟩ := tokenize_eq_ok_iff.mp h
    have hwords := @Readable.exists_wordsByLevel known row hrow
    rwa [htext, String.ofList_toList] at hwords
  · intro words hwords
    have hperm := perm_of_wordsByLevel hwords h
    exact ⟨hperm.nodup_iff.mpr (nodup_elementWords known h), hperm⟩

/-- A group within a group. -/
theorem tokenize_groups_nested :
    ∃ ts opener inner closer us words, tokenize "a {b {c}}" = .ok ts ∧
      Token.IsGroup ts opener inner closer ∧ tokenize "b {c}" = .ok us ∧
      List.Forall₂ (Token.Moved 3 1) us inner ∧
      WordsByLevel (fun _ => false) "a {b {c}}" words ∧
      words.Perm [(0, "a"), (3, "b"), (6, "c")] := by
  let opener : Token := ⟨.groupStart, "\x7b", ⟨1, 3⟩, 1, 0, 2⟩
  let inner : List Token := [⟨.command, "b", ⟨1, 4⟩, 1, 1, 3⟩,
    ⟨.groupStart, "\x7b", ⟨1, 6⟩, 1, 1, 5⟩, ⟨.command, "c", ⟨1, 7⟩, 1, 2, 6⟩,
    ⟨.groupEnd, "\x7d", ⟨1, 8⟩, 1, 1, 7⟩]
  let closer : Token := ⟨.groupEnd, "\x7d", ⟨1, 9⟩, 1, 0, 8⟩
  have hread : tokenize "a {b {c}}" =
      .ok (⟨.command, "a", ⟨1, 1⟩, 1, 0, 0⟩ :: opener :: (inner ++ [closer])) := rfl
  have hgroup : Token.IsGroup _ opener inner closer :=
    ⟨[⟨.command, "a", ⟨1, 1⟩, 1, 0, 0⟩], [], rfl, rfl, rfl, by decide⟩
  obtain ⟨-, hinside, -, hwords⟩ := tokenize_groups hread
  obtain ⟨us, hus, hmoved⟩ := hinside opener inner closer hgroup
  obtain ⟨⟨words, hfound⟩, hperm⟩ := hwords fun _ => false
  exact ⟨_, opener, inner, closer, us, words, hread, hgroup, hus, hmoved, hfound,
    (hperm words hfound).2⟩

end TagScript
