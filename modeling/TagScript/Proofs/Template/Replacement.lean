import TagScript.Proofs.Template.Respelling
import TagScript.Proofs.Token.Tiling

/-!
# Rewriting as a replacement at places

Rewriting replaces words at their lines and columns, the last one first. What comes of that is said
here without lines, columns and order: every character of the text is copied, unless it belongs to a
listed word.

* `replaceAt`, `callOf` — the text in which the listed tokens are replaced, and by what.
* `textWithCalls_eq_replaceAt` — along a row of stretches both come to the same.
* **`rewrite_eq_replaceAt`** — what rewriting any words of a text comes to, in whatever order they
  are listed.
-/

namespace TagScript

/-- Whether the character at a place of the text belongs to a token. -/
def Token.covers (t : Token) (place : Nat) : Bool :=
  t.offset ≤ place && place < t.offset + t.length

/-- The text from a place on in which something stands for each of the listed tokens: it is put where
the token begins, and the other characters of the token are left out. All other characters stand as
they are. -/
def replaceAt (put : Token → List Char) (words : List Token) (place : Nat) :
    List Char → List Char
  | [] => []
  | c :: cs =>
    (match words.find? (·.covers place) with
      | none => [c]
      | some word => if place = word.offset then put word else []) ++
      replaceAt put words (place + 1) cs

/-- What is put for a word: the constructor, a blank and the resolved name as a literal. -/
def callOf (registry : Registry) (name : String) (word : Token) : List Char :=
  (constructorCall name (registry.spelled word.text)).toList

section

variable {put : Token → List Char} {words : List Token}

theorem replaceAt_append (place : Nat) (xs ys : List Char) :
    replaceAt put words place (xs ++ ys) =
      replaceAt put words place xs ++ replaceAt put words (place + xs.length) ys := by
  induction xs generalizing place with
  | nil => rfl
  | cons c xs ih =>
    rw [List.cons_append, replaceAt, replaceAt, ih, List.append_assoc, List.length_cons,
      Nat.add_assoc, Nat.add_comm 1]

/-- Where no listed token stands the text is copied. -/
theorem replaceAt_of_uncovered {place : Nat} {xs : List Char}
    (h : ∀ word ∈ words, ∀ i < xs.length, word.covers (place + i) = false) :
    replaceAt put words place xs = xs := by
  induction xs generalizing place with
  | nil => rfl
  | cons c xs ih =>
    have hnone : words.find? (·.covers place) = none :=
      List.find?_eq_none.mpr fun word hword =>
        ne_true_of_eq_false (h word hword 0 (Nat.zero_lt_succ _))
    have hrest : replaceAt put words (place + 1) xs = xs := by
      refine ih fun word hword i hi => ?_
      rw [Nat.add_assoc, Nat.add_comm 1]
      exact h word hword (i + 1) (Nat.succ_lt_succ hi)
    rw [replaceAt, hnone, hrest]
    rfl

/-- The rest of a listed token is left out. -/
theorem replaceAt_rest {word : Token} {place : Nat} (hafter : word.offset < place) {xs : List Char}
    (h : ∀ i < xs.length, words.find? (·.covers (place + i)) = some word) :
    replaceAt put words place xs = [] := by
  induction xs generalizing place with
  | nil => rfl
  | cons c xs ih =>
    have hrest : replaceAt put words (place + 1) xs = [] := by
      refine ih (Nat.lt_succ_of_lt hafter) fun i hi => ?_
      rw [Nat.add_assoc, Nat.add_comm 1]
      exact h (i + 1) (Nat.succ_lt_succ hi)
    have hword := h 0 (Nat.zero_lt_succ _)
    rw [Nat.add_zero] at hword
    rw [replaceAt, hword, hrest]
    simp only [if_neg (Nat.ne_of_gt hafter), List.append_nil]

/-- Something stands for a listed token that no other listed token overlaps. -/
theorem replaceAt_word {word : Token} (hword : word ∈ words) {xs : List Char} (hne : xs ≠ [])
    (hlength : word.length = xs.length)
    (halone : ∀ other ∈ words, ∀ i < xs.length, other.covers (word.offset + i) = true →
      other = word) :
    replaceAt put words word.offset xs = put word := by
  have hfind : ∀ i < xs.length, words.find? (·.covers (word.offset + i)) = some word := by
    intro i hi
    have hcovers : word.covers (word.offset + i) = true := by
      simp only [Token.covers, Bool.and_eq_true, decide_eq_true_eq]
      omega
    cases hfind : words.find? (·.covers (word.offset + i)) with
    | none => exact absurd hcovers (List.find?_eq_none.mp hfind word hword)
    | some other =>
      have hother : other.covers (word.offset + i) = true := by simpa using List.find?_some hfind
      rw [halone other (List.mem_of_find?_eq_some hfind) i hi hother]
  obtain ⟨c, xs, rfl⟩ := List.exists_cons_of_ne_nil hne
  have hrest : replaceAt put words (word.offset + 1) xs = [] := by
    refine replaceAt_rest (Nat.lt_add_one _) fun i hi => ?_
    rw [Nat.add_assoc, Nat.add_comm 1]
    exact hfind (i + 1) (Nat.succ_lt_succ hi)
  have hfirst := hfind 0 (Nat.zero_lt_succ _)
  rw [Nat.add_zero] at hfirst
  rw [replaceAt, hfirst, hrest]
  simp only [if_pos, List.append_nil]

end

namespace Lexer

/-- No stretch of a readable row is empty. -/
theorem Readable.chars_ne_nil {commandNext : Bool} {opened : List Char} {row : List Stretch}
    (h : Readable commandNext opened row) : ∀ s ∈ row, s.chars ≠ [] := by
  induction row generalizing commandNext opened with
  | nil => exact nofun
  | cons s row ih =>
    cases s with
    | blank c => exact List.forall_mem_cons.mpr ⟨List.cons_ne_nil c [], ih h.2⟩
    | token kind text depth =>
      obtain ⟨hbegins, inner, hnest, hrow⟩ := h
      exact List.forall_mem_cons.mpr ⟨hbegins.ne_nil, ih hrow⟩

/-- **Along a row** the text with constructor calls is the one in which the chosen words are replaced
at their places. Words that are listed but do not stand in the row end before it. -/
theorem textWithCalls_eq_replaceAt (registry : Registry) (name : String) {words : List Token}
    {row : List Stretch} (hne : ∀ s ∈ row, s.chars ≠ []) (pos : Position) (offset : Nat)
    (hwords : ∀ word ∈ words,
      word.offset + word.length ≤ offset ∨ word ∈ tokensAt pos offset row) :
    textWithCalls registry name (words.contains ·) pos offset row =
      replaceAt (callOf registry name) words offset (textOf row) := by
  induction row generalizing pos offset with
  | nil => rfl
  | cons s row ih =>
    obtain ⟨hs, hrow⟩ := List.forall_mem_cons.mp hne
    cases s with
    | blank c =>
      have hbefore : ∀ word ∈ words, word.offset + word.length ≤ offset + 1 ∨
          word ∈ tokensAt (pos.advance c) (offset + 1) row := fun word hword =>
        (hwords word hword).imp_left (Nat.le_trans · (Nat.le_succ offset))
      have hcopied : ∀ word ∈ words, ∀ i < [c].length, word.covers (offset + i) = false := by
        intro word hword i hi
        have hplace : word.offset + word.length ≤ offset ∨ offset + 1 ≤ word.offset :=
          (hwords word hword).imp_right le_offset_of_mem_tokensAt
        simp only [List.length_singleton] at hi
        simp only [Token.covers, Bool.and_eq_false_iff, decide_eq_false_iff_not]
        omega
      rw [textWithCalls, ih hrow _ _ hbefore, textOf_blank, ← List.singleton_append,
        ← List.singleton_append (l := textOf row), replaceAt_append,
        replaceAt_of_uncovered hcopied]
      rfl
    | token kind text depth =>
      have htextne : text ≠ [] := hs
      generalize ht : (⟨kind, String.ofList text, pos, text.length, depth, offset⟩ : Token) = t
      have hoffset : t.offset = offset := by rw [← ht]
      have hlength : t.length = text.length := by rw [← ht]
      have htext : t.text = String.ofList text := by rw [← ht]
      have hcases : ∀ word ∈ words, word.offset + word.length ≤ offset ∨ word = t ∨
          word ∈ tokensAt (pos.advanceAll text) (offset + text.length) row := by
        intro word hword
        rw [tokensAt, ht] at hwords
        exact (hwords word hword).imp_right List.mem_cons.mp
      have hbefore : ∀ word ∈ words, word.offset + word.length ≤ offset + text.length ∨
          word ∈ tokensAt (pos.advanceAll text) (offset + text.length) row := by
        intro word hword
        rcases hcases word hword with hends | rfl | hmem
        · exact .inl (Nat.le_trans hends (Nat.le_add_right ..))
        · exact .inl (Nat.le_of_eq (by rw [hoffset, hlength]))
        · exact .inr hmem
      -- of all listed words only the token itself can have a character of it
      have halone : ∀ word ∈ words, ∀ i < text.length, word.covers (offset + i) = true →
          word = t := by
        intro word hword i hi hcovers
        simp only [Token.covers, Bool.and_eq_true, decide_eq_true_eq] at hcovers
        rcases hcases word hword with hends | heq | hmem
        · omega
        · exact heq
        · have hle := le_offset_of_mem_tokensAt hmem
          omega
      rw [textWithCalls, ht, ih hrow _ _ hbefore, textOf_token, replaceAt_append]
      congr 1
      by_cases hmem : t ∈ words
      · have hput := @replaceAt_word (callOf registry name) words t hmem text htextne hlength
          (by rwa [hoffset])
        rw [hoffset, callOf, htext] at hput
        rw [if_pos (List.contains_iff_mem.mpr hmem), hput]
      · have hcopied : ∀ word ∈ words, ∀ i < text.length, word.covers (offset + i) = false := by
          intro word hword i hi
          rw [Bool.eq_false_iff]
          exact fun hcovers => hmem (halone word hword i hi hcovers ▸ hword)
        rw [if_neg (mt List.contains_iff_mem.mp hmem), replaceAt_of_uncovered hcopied]

end Lexer

open Lexer

/-- **Rewriting replaces the listed words at their places and nothing else.** Of a text that is read,
any of the words that begin a statement are listed, of whatever depth and in whatever order; the
constructor is any text. For each of them the constructor, a blank and the resolved name as a literal
stand where its characters stood, and every other character is kept in its place. -/
theorem rewrite_eq_replaceAt {source : String} {ts : List Token} (hread : tokenize source = .ok ts)
    (registry : Registry) (name : String) {words : List Token}
    (hwords : ∀ word ∈ words, word ∈ ts ∧ word.kind = .command) (hdistinct : words.Nodup) :
    rewrite source words registry name =
        .ok (String.ofList (replaceAt (callOf registry name) words 0 source.toList)) ∧
      ∀ listed : List Token, listed.Perm words →
        rewrite source listed registry name = rewrite source words registry name := by
  obtain ⟨row, htext, hrow, rfl⟩ := tokenize_eq_ok_iff.mp hread
  have hchosen (t : Token) (ht : words.contains t = true) : t.kind = .command :=
    (hwords t (List.contains_iff_mem.mp ht)).2
  have hnodup : (tokensAt .start 0 row).Nodup := by
    refine hrow.ordered.imp fun {a b} hab heq => ?_
    rw [heq] at hab
    exact Nat.lt_irrefl _ hab.1
  have hperm : words.Perm ((tokensAt .start 0 row).filter (words.contains ·)) := by
    refine (List.perm_ext_iff_of_nodup hdistinct (hnodup.filter _)).mpr fun word => ?_
    rw [List.mem_filter, List.contains_iff_mem]
    exact ⟨fun hword => ⟨(hwords word hword).1, hword⟩, fun hword => hword.2⟩
  have hrewrite (listed : List Token) (hlisted : listed.Perm words) :
      rewrite source listed registry name =
        .ok (String.ofList (replaceAt (callOf registry name) words 0 source.toList)) := by
    rw [rewrite_of_perm htext hrow hchosen (hlisted.trans hperm), ← htext,
      textWithCalls_eq_replaceAt registry name hrow.chars_ne_nil .start 0
        fun word hword => .inr (hwords word hword).1]
  refine ⟨hrewrite words (.refl words), fun listed hlisted => ?_⟩
  rw [hrewrite listed hlisted, hrewrite words (.refl words)]

/-- Two words of one line and one within braces behind a string over two lines, listed from the last
to the first. -/
theorem rewrite_eq_replaceAt_lines :
    let words : List Token := [⟨.command, "c:d", ⟨2, 6⟩, 3, 1, 13⟩,
      ⟨.command, "b", ⟨1, 4⟩, 1, 0, 3⟩, ⟨.command, "a", ⟨1, 1⟩, 1, 0, 0⟩]
    ∃ ts, tokenize "a; b 'x\ny' \x7b c:d \x7d" = .ok ts ∧
      (∀ word ∈ words, word ∈ ts ∧ word.kind = .command) ∧ words.Nodup ∧
      rewrite "a; b 'x\ny' \x7b c:d \x7d" words ⟨[("", "u"), ("c", "v\n")]⟩ "N" =
        .ok "N '\x7bu\x7da'; N '\x7bu\x7db' 'x\ny' \x7b N '\x7bv\n\x7dd' \x7d" := by
  intro words
  have hread : ∃ ts, tokenize "a; b 'x\ny' \x7b c:d \x7d" = .ok ts ∧
      ∀ word ∈ words, word ∈ ts ∧ word.kind = .command := ⟨_, rfl, by decide +kernel⟩
  obtain ⟨ts, hts, hwords⟩ := hread
  have hdistinct : words.Nodup := by decide +kernel
  refine ⟨ts, hts, hwords, hdistinct, ?_⟩
  rw [(rewrite_eq_replaceAt hts ⟨[("", "u"), ("c", "v\n")]⟩ "N" hwords hdistinct).1]
  exact congrArg Except.ok (by decide +kernel)

end TagScript
