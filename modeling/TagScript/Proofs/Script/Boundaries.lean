import Mathlib.Data.List.Induction
import TagScript.Proofs.Script.Nesting
import TagScript.Proofs.Template.Respelling
import TagScript.Script

/-!
# Where statements begin

Two rules say where a statement begins. A bare word is read as a command when the token before it
ends a statement; a row is cut into statements at its newlines and semicolons, but not at a newline
behind a comma.

* `Placed` — the first rule, for a row of tokens.
* `exists_head_cut_iff` — the second rule: what stands where nothing is left of a statement.
* **`command_iff_begins_statement`** — the two rules agree on a word exactly if no comma and
  newlines stand right before it.
-/

namespace TagScript

/-- Whether a token is a bare word. -/
def Token.IsBareWord (t : Token) : Prop :=
  t.kind = .command ∨ t.kind = .argument

/-! ## Command words in a row of tokens -/

/-- Whether a bare word would begin a statement after more tokens. -/
def nextAfter (next : Bool) (ts : List Token) : Bool :=
  ts.foldl (fun next t => t.kind.beginsStatement next) next

theorem nextAfter_append (next : Bool) (ts us : List Token) :
    nextAfter next (ts ++ us) = nextAfter (nextAfter next ts) us :=
  List.foldl_append

/-- Whether the bare words that are commands are those where a statement begins. -/
def Placed (next : Bool) : List Token → Prop
  | [] => True
  | t :: ts =>
    (t.IsBareWord → (t.kind = .command ↔ next = true)) ∧ Placed (t.kind.beginsStatement next) ts

theorem Placed.command_iff {next : Bool} {before after : List Token} {w : Token}
    (h : Placed next (before ++ w :: after)) (hw : w.IsBareWord) :
    w.kind = .command ↔ nextAfter next before = true := by
  induction before generalizing next with
  | nil => exact h.1 hw
  | cons t before ih => exact ih h.2

/-- Tokens without meaning do not matter. -/
theorem Placed.significant {next : Bool} {ts : List Token} (h : Placed next ts) :
    Placed next (Token.significant ts) := by
  induction ts generalizing next with
  | nil => exact h
  | cons t ts ih =>
    rw [Token.significant, List.filter_cons]
    split
    · exact ⟨h.1, ih h.2⟩
    · rename_i hremark
      have hsame : t.kind.beginsStatement next = next := by
        cases hkind : t.kind <;> first | rfl | simp [hkind, TokenKind.isSignificant] at hremark
      exact ih (hsame ▸ h.2)

namespace Lexer

theorem Readable.placed {commandNext : Bool} {opened : List Char} {row : List Stretch}
    (h : Readable commandNext opened row) (pos : Position) (offset : Nat) :
    Placed commandNext (tokensAt pos offset row) := by
  induction row generalizing commandNext opened pos offset with
  | nil => trivial
  | cons s row ih =>
    cases s with
    | blank c => exact ih h.2 ..
    | token kind text depth =>
      obtain ⟨hbegins, inner, -, hrow⟩ := h
      exact ⟨hbegins.command_iff, ih hrow ..⟩

end Lexer

namespace Nest

/-- Whether a nest is a token of a kind. -/
def isKind (kind : TokenKind) : Nest → Bool
  | .token t => t.kind == kind
  | .bracket .. => false

/-! ## Cutting a row of nests -/

/-- What is left of the statement before a nest after it, backwards. -/
def cutStep (current : List Nest) (n : Nest) : List Nest :=
  if n.isKind .newline && (current.head?.map (isKind .comma)).getD false then current
  else if n.isKind .newline || n.isKind .separator then []
  else n :: current

/-- Cuts a row of nests into statements, as `Script.cut` cuts the atoms of the row. -/
def cut (current : List Nest) : List Nest → List (List Nest)
  | [] => if current.isEmpty then [] else [current.reverse]
  | n :: rest =>
    if n.isKind .newline && (current.head?.map (isKind .comma)).getD false then cut current rest
    else if n.isKind .newline || n.isKind .separator then
      if current.isEmpty then cut [] rest else current.reverse :: cut [] rest
    else cut (n :: current) rest

theorem isKind_atom (source : List Char) (kind : TokenKind) (n : Nest) :
    (Script.atom source n).isKind kind = n.isKind kind := by
  cases n <;> simp [Script.atom, Script.Atom.isKind, isKind]

theorem atoms_eq_map (source : List Char) (row : List Nest) :
    Script.atoms source row = row.map (Script.atom source) := by
  induction row with
  | nil => simp [Script.atoms]
  | cons n row ih => simp [Script.atoms, ih]

theorem head?_atoms_isKind (source : List Char) (kind : TokenKind) (row : List Nest) :
    (Script.atoms source row).head?.map (Script.Atom.isKind kind) =
      row.head?.map (isKind kind) := by
  rw [atoms_eq_map]
  cases row with
  | nil => rfl
  | cons n row => simp [isKind_atom]

/-- Cutting the atoms of a row is cutting the row. -/
theorem cut_atoms (source : List Char) (current row : List Nest) :
    Script.cut (Script.atoms source current) (Script.atoms source row) =
      (cut current row).map (Script.atoms source) := by
  induction row generalizing current with
  | nil =>
    rw [cut, Script.atoms, Script.cut, atoms_eq_map, List.isEmpty_map]
    split
    · rfl
    · rw [← List.map_reverse, List.map_singleton, atoms_eq_map]
  | cons n row ih =>
    rw [cut, Script.atoms, Script.cut, head?_atoms_isKind, isKind_atom, isKind_atom]
    split
    · exact ih current
    · split
      · have hempty : (Script.atoms source current).isEmpty = current.isEmpty := by
          rw [atoms_eq_map, List.isEmpty_map]
        rw [hempty]
        split
        · exact ih []
        · rw [List.map_cons, ← ih [], atoms_eq_map source current.reverse, List.map_reverse,
            ← atoms_eq_map]
          rfl
      · exact ih (n :: current)

/-- A statement begins with a nest that is no separator exactly where nothing is left of a statement
before it. -/
theorem exists_head_cut_iff {n : Nest} (hnewline : n.isKind .newline = false)
    (hseparator : n.isKind .separator = false) {current row : List Nest} :
    (∃ statement ∈ cut current row, statement.head? = some n) ↔
      current.getLast? = some n ∨
        ∃ before after, row = before ++ n :: after ∧ before.foldl cutStep current = [] := by
  induction row generalizing current with
  | nil =>
    rw [cut]
    split
    · rename_i hempty
      simp [List.isEmpty_iff.mp hempty]
    · simp
  | cons m row ih =>
    -- `n` is `m` itself or stands behind it
    have hsplit : (∃ before after, m :: row = before ++ n :: after ∧
        before.foldl cutStep current = []) ↔
          (m = n ∧ current = []) ∨ ∃ before after, row = before ++ n :: after ∧
            before.foldl cutStep (cutStep current m) = [] := by
      constructor
      · rintro ⟨before, after, hrow, hleft⟩
        cases before with
        | nil => exact .inl ⟨(List.cons.inj hrow).1, hleft⟩
        | cons b before =>
          obtain ⟨rfl, rfl⟩ := List.cons.inj hrow
          exact .inr ⟨before, after, rfl, hleft⟩
      · rintro (⟨rfl, rfl⟩ | ⟨before, after, rfl, hleft⟩)
        · exact ⟨[], row, rfl, rfl⟩
        · exact ⟨m :: before, after, rfl, hleft⟩
    have hne (kind : TokenKind) (hm : m.isKind kind = true) (hn : n.isKind kind = false) :
        m ≠ n := fun heq => Bool.false_ne_true (hn.symm.trans (heq ▸ hm))
    rw [hsplit, cut, cutStep]
    split
    · rename_i hjoin
      have hmn := hne .newline (Bool.and_eq_true_iff.mp hjoin).1 hnewline
      rw [ih]
      simp [hmn]
    · split
      · rename_i hends
        have hmn : m ≠ n := (Bool.or_eq_true_iff.mp hends).elim
          (fun hm => hne .newline hm hnewline) (fun hm => hne .separator hm hseparator)
        split
        · rename_i hempty
          rw [ih]
          simp [hmn, List.isEmpty_iff.mp hempty]
        · simp only [List.mem_cons, exists_eq_or_imp, List.head?_reverse]
          rw [ih]
          simp [hmn]
      · rw [ih]
        cases current with
        | nil => simp
        | cons c current => simp

/-! ## What is left of a statement -/

/-- Whether a row ends with a newline or a semicolon, or is empty. -/
def endsStatement (before : List Nest) : Bool :=
  before.getLast?.all fun n => n.isKind .newline || n.isKind .separator

/-- Whether a row ends with a comma and at least `least` newlines. -/
def EndsWithComma (least : Nat) (before : List Nest) : Prop :=
  ∃ earlier comma newlines, before = earlier ++ comma :: newlines ∧ comma.isKind .comma = true ∧
    (∀ n ∈ newlines, n.isKind .newline = true) ∧ least ≤ newlines.length

theorem isKind_unique {n : Nest} {kind kind' : TokenKind} (h : n.isKind kind = true)
    (h' : n.isKind kind' = true) : kind = kind' := by
  cases n with
  | token t => exact (beq_iff_eq.mp h).symm.trans (beq_iff_eq.mp h')
  | bracket => cases h

theorem not_endsWithComma_nil (least : Nat) : ¬ EndsWithComma least [] := by
  rintro ⟨earlier, comma, newlines, heq, -⟩
  simp at heq

theorem endsWithComma_append_newline {least : Nat} {before : List Nest} {n : Nest}
    (h : n.isKind .newline = true) :
    EndsWithComma least (before ++ [n]) ↔ EndsWithComma (least - 1) before := by
  constructor
  · rintro ⟨earlier, comma, newlines, heq, hcomma, hnewlines, hleast⟩
    rcases List.eq_nil_or_concat newlines with rfl | ⟨newlines, m, rfl⟩
    · obtain ⟨-, hn⟩ := List.append_inj' heq rfl
      obtain rfl := List.singleton_inj.mp hn
      cases isKind_unique h hcomma
    · rw [List.concat_eq_append] at heq hnewlines hleast
      rw [← List.cons_append, ← List.append_assoc] at heq
      obtain ⟨rfl, -⟩ := List.append_inj' heq rfl
      refine ⟨earlier, comma, newlines, rfl, hcomma, fun x hx => ?_, ?_⟩
      · exact hnewlines x (List.mem_append_left _ hx)
      · simp only [List.length_append, List.length_singleton] at hleast
        omega
  · rintro ⟨earlier, comma, newlines, rfl, hcomma, hnewlines, hleast⟩
    refine ⟨earlier, comma, newlines ++ [n], by simp, hcomma, fun x hx => ?_, ?_⟩
    · rcases List.mem_append.mp hx with hx | hx
      · exact hnewlines x hx
      · exact List.mem_singleton.mp hx ▸ h
    · simp only [List.length_append, List.length_singleton]
      omega

theorem endsWithComma_append_other {least : Nat} {before : List Nest} {n : Nest}
    (h : n.isKind .newline = false) :
    EndsWithComma least (before ++ [n]) ↔ least = 0 ∧ n.isKind .comma = true := by
  constructor
  · rintro ⟨earlier, comma, newlines, heq, hcomma, hnewlines, hleast⟩
    rcases List.eq_nil_or_concat newlines with rfl | ⟨newlines, m, rfl⟩
    · obtain ⟨-, hn⟩ := List.append_inj' heq rfl
      obtain rfl := List.singleton_inj.mp hn
      exact ⟨Nat.le_zero.mp hleast, hcomma⟩
    · rw [List.concat_eq_append] at heq hnewlines
      rw [← List.cons_append, ← List.append_assoc] at heq
      obtain ⟨-, hn⟩ := List.append_inj' heq rfl
      obtain rfl := List.singleton_inj.mp hn
      exact absurd (h.symm.trans (hnewlines n (by simp))) Bool.false_ne_true
  · rintro ⟨rfl, hcomma⟩
    exact ⟨before, n, [], rfl, hcomma, nofun, Nat.le_refl 0⟩

/-- A statement is left open behind a comma, also when newlines follow. -/
theorem head?_foldl_cutStep (before : List Nest) :
    ((before.foldl cutStep []).head?.map (isKind .comma)).getD false = true ↔
      EndsWithComma 0 before := by
  induction before using List.reverseRecOn with
  | nil => simp [not_endsWithComma_nil]
  | append_singleton before n ih =>
    rw [List.foldl_append, List.foldl_cons, List.foldl_nil, cutStep]
    cases hnewline : n.isKind .newline with
    | true =>
      rw [endsWithComma_append_newline hnewline, ← ih]
      split <;> simp_all
    | false =>
      rw [endsWithComma_append_other hnewline]
      cases hseparator : n.isKind .separator with
      | true =>
        have hcomma : n.isKind .comma ≠ true := fun hcomma => by
          cases isKind_unique hseparator hcomma
        simp [hcomma]
      | false => simp

/-- Nothing is left of a statement behind its end, unless the end is a newline behind a comma. -/
theorem foldl_cutStep_eq_nil_iff (before : List Nest) :
    before.foldl cutStep [] = [] ↔ endsStatement before = true ∧ ¬ EndsWithComma 1 before := by
  rcases List.eq_nil_or_concat before with rfl | ⟨before, n, rfl⟩
  · simp [endsStatement, not_endsWithComma_nil]
  · have hopen := head?_foldl_cutStep before
    rw [List.concat_eq_append, List.foldl_append, List.foldl_cons, List.foldl_nil, cutStep]
    cases hnewline : n.isKind .newline with
    | true =>
      rw [endsWithComma_append_newline hnewline, ← hopen]
      simp only [endsStatement, List.getLast?_concat, Option.all_some, hnewline, Bool.true_or,
        Bool.true_and, true_and, if_true]
      split
      · rename_i hcomma
        refine iff_of_false (fun hnil => ?_) (fun hnot => hnot hcomma)
        rw [hnil] at hcomma
        cases hcomma
      · rename_i hcomma
        exact iff_of_true rfl hcomma
    | false =>
      rw [endsWithComma_append_other hnewline]
      cases hseparator : n.isKind .separator <;> simp [endsStatement, hnewline, hseparator]

/-! ## The two rules -/

/-- A row at any level stands in the tokens where a statement begins. -/
theorem Level.exists_tokens {top row : List Nest} (h : Level top row)
    (htop : ∀ n ∈ top, Paired n) :
    ∃ before after, tokensOfAll top = before ++ tokensOfAll row ++ after ∧
      nextAfter true before = true := by
  induction h with
  | top => exact ⟨[], [], by simp, rfl⟩
  | inner hlevel hmem ih =>
    rename_i row inner opener closer
    obtain ⟨before, after, htokens, -⟩ := ih
    obtain ⟨earlier, later, rfl⟩ := List.append_of_mem hmem
    refine ⟨before ++ tokensOfAll earlier ++ [opener], closer :: (tokensOfAll later ++ after),
      ?_, ?_⟩
    · rw [htokens, tokensOfAll_append, tokensOfAll, tokens]
      simp
    · cases hlevel.paired htop _ hmem with
      | bracket hopener _ _ =>
        rw [nextAfter, List.foldl_append, List.foldl_cons, List.foldl_nil]
        cases hkind : opener.kind <;> first | rfl | (rw [hkind] at hopener; cases hopener)

/-- Behind a row a statement begins if the row is empty or ends with a newline or a semicolon. -/
theorem nextAfter_tokensOfAll {row : List Nest} (hpaired : ∀ n ∈ row, Paired n)
    (hsignificant : ∀ t ∈ tokensOfAll row, t.kind.isSignificant = true) :
    nextAfter true (tokensOfAll row) = endsStatement row := by
  rcases List.eq_nil_or_concat row with rfl | ⟨earlier, n, rfl⟩
  · rfl
  · rw [List.concat_eq_append] at hpaired hsignificant ⊢
    rw [tokensOfAll_append, nextAfter, List.foldl_append, endsStatement, List.getLast?_concat]
    rw [tokensOfAll_append] at hsignificant
    cases hpaired n (by simp) with
    | @token t hopener hcloser =>
      have ht := hsignificant t (by simp [tokensOfAll, tokens])
      simp only [tokensOfAll, tokens, List.append_nil, List.foldl_cons, List.foldl_nil,
        Option.all_some, isKind]
      cases hkind : t.kind <;> rw [hkind] at hopener hcloser ht <;> first | rfl | contradiction
    | @bracket opener closer inner _ hcloser _ =>
      simp only [tokensOfAll, tokens, List.append_nil, List.foldl_append, List.foldl_cons,
        List.foldl_nil, Option.all_some, isKind]
      cases hkind : closer.kind <;> first | rfl | (rw [hkind] at hcloser; cases hcloser)

theorem endsStatement_of_endsWithComma {before : List Nest} (h : EndsWithComma 1 before) :
    endsStatement before = true := by
  obtain ⟨earlier, comma, newlines, rfl, -, hnewlines, hone⟩ := h
  rcases List.eq_nil_or_concat newlines with rfl | ⟨newlines, n, rfl⟩
  · cases hone
  · rw [List.concat_eq_append] at hnewlines ⊢
    rw [← List.cons_append, ← List.append_assoc, endsStatement, List.getLast?_concat]
    simp [hnewlines n (by simp)]

end Nest

/-- Whether a word begins one of the statements that a row is cut into. -/
def BeginsStatement (source : String) (row : List Nest) (w : Token) : Prop :=
  ∃ statement ∈ Script.cut [] (Script.atoms source.toList row), statement.head? = some (.token w)

/-- Whether a comma and at least one newline stand right before a word of a row. -/
def FollowsBrokenComma (row : List Nest) (w : Token) : Prop :=
  ∃ before after, row = before ++ .token w :: after ∧ Nest.EndsWithComma 1 before

theorem beginsStatement_iff {source : String} {row : List Nest} {w : Token} (hw : w.IsBareWord) :
    BeginsStatement source row w ↔
      ∃ before after, row = before ++ .token w :: after ∧ before.foldl Nest.cutStep [] = [] := by
  have hkind (kind : TokenKind) (hne : w.kind ≠ kind) : (Nest.token w).isKind kind = false :=
    beq_eq_false_iff_ne.mpr hne
  have hhead (statement : List Nest) :
      (Script.atoms source.toList statement).head? = some (.token w) ↔
        statement.head? = some (.token w) := by
    rw [Nest.atoms_eq_map]
    cases statement with
    | nil => simp
    | cons n statement => cases n <;> simp [Script.atom]
  have hcut := Nest.cut_atoms source.toList [] row
  rw [Script.atoms] at hcut
  rw [BeginsStatement, hcut]
  simp only [List.mem_map, exists_exists_and_eq_and, hhead]
  rw [Nest.exists_head_cut_iff (hkind _ (by rcases hw with h | h <;> simp [h]))
    (hkind _ (by rcases hw with h | h <;> simp [h]))]
  simp

/-- What is known of the pairing of a text that is read. -/
structure Nest.Sound (top : List Nest) : Prop where
  /-- Brackets are paired. -/
  paired : ∀ n ∈ top, Nest.Paired n
  /-- No token stands at two places. -/
  nodup : (Nest.tokensOfAll top).Nodup
  /-- There are no tokens without meaning. -/
  significant : ∀ t ∈ Nest.tokensOfAll top, t.kind.isSignificant = true
  /-- The bare words that are commands are those where a statement begins. -/
  placed : Placed true (Nest.tokensOfAll top)

theorem Nest.sound_of_read {source : String} {ts : List Token} (h : tokenize source = .ok ts)
    {top : List Nest} (hread : Nest.read (Token.significant ts) = some top) : Nest.Sound top := by
  obtain ⟨row, -, hrow, rfl⟩ := Lexer.tokenize_eq_ok_iff.mp h
  obtain ⟨htokens, hpaired⟩ := Nest.read_spec hread
  refine ⟨hpaired, ?_, ?_, ?_⟩
  · rw [htokens]
    refine ((hrow.pairwise_tokensAt .start 0).1.filter _).imp fun hab heq => ?_
    rw [heq, Position.isBefore_irrefl] at hab
    cases hab
  · rw [htokens]
    exact fun t ht => (List.mem_filter.mp ht).2
  · rw [htokens]
    exact (hrow.placed .start 0).significant

/-- Both rules at one place of a row. A bare word is a command behind the end of a statement, and it
begins a statement there unless the end is a newline behind a comma. -/
theorem command_iff_of_split {source : String} {top before after : List Nest} {w : Token}
    (hsound : Nest.Sound top) (hlevel : Nest.Level top (before ++ .token w :: after))
    (hw : w.IsBareWord) :
    (w.kind = .command ↔ Nest.endsStatement before = true) ∧
      (BeginsStatement source (before ++ .token w :: after) w ↔
        Nest.endsStatement before = true ∧ ¬ Nest.EndsWithComma 1 before) ∧
      (FollowsBrokenComma (before ++ .token w :: after) w ↔ Nest.EndsWithComma 1 before) := by
  obtain ⟨earlier, later, htokens, hnext⟩ := hlevel.exists_tokens hsound.paired
  have hpaired : ∀ n ∈ before, Nest.Paired n := fun n hn =>
    hlevel.paired hsound.paired n (List.mem_append_left _ hn)
  have hplaced := hsound.placed
  have hnodup := hsound.nodup
  have hsignificant := hsound.significant
  rw [htokens] at hplaced hnodup hsignificant
  have hone {before' after' : List Nest}
      (heq : before ++ .token w :: after = before' ++ .token w :: after') : before = before' :=
    Nest.eq_of_split (hnodup.sublist (by simp)) heq
  rw [Nest.tokensOfAll_append] at hplaced hsignificant
  refine ⟨?_, ?_, ?_⟩
  · rw [Nest.tokensOfAll, Nest.tokens, List.singleton_append, List.append_assoc, List.append_assoc,
      ← List.append_assoc, List.cons_append] at hplaced
    rw [hplaced.command_iff hw, nextAfter_append, hnext,
      Nest.nextAfter_tokensOfAll hpaired fun t ht => hsignificant t (by simp [ht])]
  · rw [beginsStatement_iff hw, ← Nest.foldl_cutStep_eq_nil_iff]
    constructor
    · rintro ⟨before', after', heq, hleft⟩
      rwa [hone heq]
    · exact fun hleft => ⟨before, after, rfl, hleft⟩
  · constructor
    · rintro ⟨before', after', heq, hcomma⟩
      rwa [hone heq]
    · exact fun hcomma => ⟨before, after, rfl, hcomma⟩

/-- **The two rules agree on a word exactly if no comma and newlines stand right before it.** A word
that names an element stands in a row at some level, so the same holds for what is rewritten. -/
theorem command_iff_begins_statement {source : String} {ts : List Token}
    (h : tokenize source = .ok ts) :
    ∃ top, Nest.read (Token.significant ts) = some top ∧
      (∀ row, Nest.Level top row → ∀ w, .token w ∈ row → w.IsBareWord →
        ((w.kind = .command ↔ BeginsStatement source row w) ↔ ¬ FollowsBrokenComma row w)) ∧
      ∀ known topLevelOnly, ∀ w ∈ Token.elementWords known topLevelOnly ts,
        ∃ row, Nest.Level top row ∧ .token w ∈ row ∧
          (BeginsStatement source row w ↔ ¬ FollowsBrokenComma row w) := by
  obtain ⟨top, hread⟩ := Nest.exists_read h
  have hsound := Nest.sound_of_read h hread
  have hrules {row : List Nest} (hlevel : Nest.Level top row) {w : Token} (hmem : .token w ∈ row)
      (hw : w.IsBareWord) :
      (w.kind = .command ↔ BeginsStatement source row w) ↔ ¬ FollowsBrokenComma row w := by
    obtain ⟨before, after, rfl⟩ := List.append_of_mem hmem
    obtain ⟨hcommand, hbegins, hcomma⟩ := @command_iff_of_split source _ _ _ _ hsound hlevel hw
    have hends := @Nest.endsStatement_of_endsWithComma before
    rw [hcommand, hbegins, hcomma]
    grind
  refine ⟨top, hread, fun row hlevel w hmem hw => hrules hlevel hmem hw, fun known only w hw => ?_⟩
  obtain ⟨hmem, hkeep⟩ := List.mem_filter.mp hw
  have hkind : w.kind = .command := by
    simp only [Bool.and_eq_true, Token.isElementWord, beq_iff_eq] at hkeep
    exact hkeep.2.1.1
  have htop : w ∈ Nest.tokensOfAll top := by
    rw [(Nest.read_spec hread).1]
    exact List.mem_filter.mpr ⟨hmem, by rw [hkind]; rfl⟩
  obtain ⟨row, hlevel, hrow⟩ := Nest.Level.top.exists_row hsound.paired (by rw [hkind]; rfl)
    (by rw [hkind]; rfl) htop
  have hiff := hrules hlevel hrow (.inl hkind)
  exact ⟨row, hlevel, hrow, by simpa [hkind] using hiff⟩

theorem command_iff_begins_statement_words :
    tokenize "a b" = .ok [⟨.command, "a", ⟨1, 1⟩, 1, 0, 0⟩, ⟨.argument, "b", ⟨1, 3⟩, 1, 0, 2⟩] ∧
      ∃ top,
        Nest.read [⟨.command, "a", ⟨1, 1⟩, 1, 0, 0⟩, ⟨.argument, "b", ⟨1, 3⟩, 1, 0, 2⟩] = some top ∧
          ∀ row, Nest.Level top row → ∀ w, .token w ∈ row → w.IsBareWord →
            ((w.kind = .command ↔ BeginsStatement "a b" row w) ↔ ¬ FollowsBrokenComma row w) := by
  have hread : tokenize "a b" =
      .ok [⟨.command, "a", ⟨1, 1⟩, 1, 0, 0⟩, ⟨.argument, "b", ⟨1, 3⟩, 1, 0, 2⟩] := rfl
  obtain ⟨top, htop, hrules, -⟩ := command_iff_begins_statement hread
  exact ⟨hread, top, htop, hrules⟩

/-- A word behind a comma and a newline is listed as an element word, and goes on with the statement
before it. -/
theorem element_word_in_statement :
    ∃ ts top w, tokenize "Write-Output a,\nb" = .ok ts ∧
      Nest.read (Token.significant ts) = some top ∧ .token w ∈ top ∧
      w ∈ Token.elementWords (fun _ => false) true ts ∧
      ¬ BeginsStatement "Write-Output a,\nb" top w := by
  let ts : List Token := [⟨.command, "Write-Output", ⟨1, 1⟩, 12, 0, 0⟩,
    ⟨.argument, "a", ⟨1, 14⟩, 1, 0, 13⟩, ⟨.comma, ",", ⟨1, 15⟩, 1, 0, 14⟩,
    ⟨.newline, "\n", ⟨1, 16⟩, 1, 0, 15⟩, ⟨.command, "b", ⟨2, 1⟩, 1, 0, 16⟩]
  refine ⟨ts, ts.map .token, ⟨.command, "b", ⟨2, 1⟩, 1, 0, 16⟩, rfl, rfl, by simp [ts],
    by decide, ?_⟩
  rintro ⟨statement, hstatement, hhead⟩
  have hcut : statement ∈ [[Script.Atom.token ts[0], .token ts[1], .token ts[2], .token ts[4]]] :=
    hstatement
  rw [List.mem_singleton.mp hcut, List.head?_cons, Option.some.injEq,
    Script.Atom.token.injEq] at hhead
  revert hhead
  decide

end TagScript
