import TagScript.Json.Reader
import TagScript.Json.Writer
import TagScript.Proofs.Value.Flags

/-!
# JSON values are read as they are written

A value is written in ASCII, with or without line breaks, and read back as it was. Every character
of a text is written so that the reader finds it again: as itself, as an escape of one letter, or as
one or two units of sixteen bits. The reader takes one step for each character of a text and for
each item of a row, and the bound that it is given on its steps is never reached. Values with
doubles are left out here, and so are objects in which a key stands twice.

* `Json.Exact` — the values without doubles and with keys that are apart.
* `Json.stringBody_writeChar` — how a character is written and read.
* `Json.number_toString` — a whole number is read as it is written, if it has few enough digits.
* `Json.reads_written` — a value is read with enough steps, wherever it stands and whatever follows.
* **`Json.read_write`** — a text that was written is read as the value that it was written for.
-/

namespace TagScript.Json

/-! ## Texts -/

theorem hexValue?_digitChar : ∀ d < 16, hexValue? d.digitChar = some d := by decide

/-- The last digit of a number stands behind the others, with zeros in front of them. -/
theorem hex_succ {width : Nat} (h : 0 < width) (n : Nat) :
    Text.hex (width + 1) n = Text.hex width (n / 16) ++ [(n % 16).digitChar] := by
  unfold Text.hex
  dsimp only
  rcases Nat.lt_or_ge n 16 with hlt | hge
  · obtain ⟨more, rfl⟩ : ∃ more, width = more + 1 := ⟨width - 1, by omega⟩
    rw [Nat.div_eq_of_lt hlt, Nat.mod_eq_of_lt hlt, Nat.toDigits_of_lt_base hlt, Nat.toDigits_zero]
    simp [List.replicate_succ']
  · rw [Nat.toDigits_of_base_le (by decide) hge, List.length_append, List.append_assoc]
    simp

/-- Four digits are read as the number that they are written for. -/
theorem unit?_hex {n : Nat} (h : n < 0x10000) (rest : List Char) :
    unit? (Text.hex 4 n ++ rest) = some (n, rest) := by
  have hone : Text.hex 1 (n / 16 / 16 / 16) = [(n / 16 / 16 / 16).digitChar] := by
    unfold Text.hex
    rw [Nat.toDigits_of_lt_base (by omega)]
    rfl
  rw [hex_succ (by decide), hex_succ (by decide), hex_succ (by decide), hone]
  have hdigit (m : Nat) : hexValue? (m % 16).digitChar = some (m % 16) :=
    hexValue?_digitChar _ (Nat.mod_lt m (by decide))
  have hfirst : hexValue? (n / 16 / 16 / 16).digitChar = some (n / 16 / 16 / 16) :=
    hexValue?_digitChar _ (by omega)
  simp only [List.cons_append, List.nil_append, unit?, hdigit, hfirst, Option.bind_eq_bind,
    Option.bind_some]
  congr 2
  omega

/-- A unit that is half of no surrogate pair is its character. -/
theorem unitChar_toNat (c : Char) : unitChar c.toNat = c := by
  unfold unitChar
  rw [if_pos (show c.toNat.isValidChar from c.valid)]
  exact Char.ofNat_toNat c

/-- A unit that is half of no surrogate pair is read alone. -/
theorem stringBody_unit {n : Nat} (h : n < 0x10000) (halone : n < 0xd800 ∨ 0xdc00 ≤ n) (fuel : Nat)
    (rest : List Char) :
    stringBody (fuel + 1) (unitEscape n ++ rest) =
      (stringBody fuel rest).map fun read => (unitChar n :: read.1, read.2) := by
  have hpair : ¬(0xd800 ≤ n ∧ n < 0xdc00) := by omega
  rw [unitEscape, List.cons_append, List.cons_append, stringBody]
  simp only [unit?_hex h, if_neg hpair]

/-- Two halves of a surrogate pair are read as one character. -/
theorem stringBody_pair {high low : Nat} (hhigh : 0xd800 ≤ high ∧ high < 0xdc00)
    (hlow : 0xdc00 ≤ low ∧ low < 0xe000) (fuel : Nat) (rest : List Char) :
    stringBody (fuel + 1) (unitEscape high ++ unitEscape low ++ rest) =
      (stringBody fuel rest).map fun read =>
        (Char.ofNat (0x10000 + (high - 0xd800) * 0x400 + (low - 0xdc00)) :: read.1, read.2) := by
  have hin : (decide (0xdc00 ≤ low) && decide (low < 0xe000)) = true := by
    simp [hlow.1, hlow.2]
  rw [unitEscape, unitEscape, List.append_assoc, List.cons_append, List.cons_append, stringBody]
  simp only [unit?_hex (show high < 0x10000 by omega), if_pos hhigh, List.cons_append,
    unit?_hex (show low < 0x10000 by omega), Option.filter_some, hin, if_true]

/-- A character that stands for itself is read as itself. -/
theorem stringBody_shown {c : Char} (hquote : c ≠ '"') (hslash : c ≠ '\\') (hplain : 32 ≤ c.toNat)
    (fuel : Nat) (rest : List Char) :
    stringBody (fuel + 1) (c :: rest) =
      (stringBody fuel rest).map fun read => (c :: read.1, read.2) := by
  have hshown : ¬(c.toNat < 32 ∨ c = '\\') := by
    rw [not_or]
    exact ⟨by omega, hslash⟩
  conv =>
    lhs
    unfold stringBody
  split
  · rename_i h
    cases h
  · rename_i h
    exact absurd (List.cons.inj h).1 hquote
  · rename_i h
    exact absurd (List.cons.inj h).1 hslash
  · rename_i h
    exact absurd (List.cons.inj h).1 hslash
  · rename_i h
    obtain ⟨rfl, rfl⟩ := List.cons.inj h
    rw [if_neg hshown]

/-- **Every character is read as it is written**, whatever follows. -/
theorem stringBody_writeChar (c : Char) (fuel : Nat) (rest : List Char) :
    stringBody (fuel + 1) (writeChar c ++ rest) =
      (stringBody fuel rest).map fun read => (c :: read.1, read.2) := by
  have hvalid : c.toNat < 0xd800 ∨ 0xdfff < c.toNat ∧ c.toNat < 0x110000 := c.valid
  unfold writeChar
  split
  · rename_i hquote
    rcases hquote with rfl | rfl <;> rfl
  split
  · subst_vars; rfl
  split
  · subst_vars; rfl
  split
  · subst_vars; rfl
  split
  · subst_vars; rfl
  split
  · subst_vars; rfl
  split
  · rename_i hquote _ _ _ _ _ hprints
    rw [not_or] at hquote
    exact stringBody_shown hquote.1 hquote.2 hprints.1 fuel rest
  split
  · rw [stringBody_unit (by omega) (by omega), unitChar_toNat]
  · dsimp only
    rw [stringBody_pair (by omega) (by omega)]
    have hnumber : 0x10000 + (0xd800 + (c.toNat - 0x10000) / 0x400 - 0xd800) * 0x400 +
        (0xdc00 + (c.toNat - 0x10000) % 0x400 - 0xdc00) = c.toNat := by omega
    rw [hnumber, Char.ofNat_toNat]

/-- A text is read up to its closing quote. -/
theorem stringBody_write (cs : List Char) {fuel : Nat} (h : cs.length < fuel) (rest : List Char) :
    stringBody fuel (cs.flatMap writeChar ++ '"' :: rest) = .ok (cs, rest) := by
  induction cs generalizing fuel with
  | nil =>
    obtain ⟨more, rfl⟩ : ∃ more, fuel = more + 1 := ⟨fuel - 1, by omega⟩
    rfl
  | cons c cs ih =>
    obtain ⟨more, rfl⟩ : ∃ more, fuel = more + 1 := ⟨fuel - 1, by omega⟩
    rw [List.length_cons] at h
    rw [List.flatMap_cons, List.append_assoc, stringBody_writeChar, ih (by omega)]
    rfl

theorem length_le_flatMap_writeChar (cs : List Char) :
    cs.length ≤ (cs.flatMap writeChar).length := by
  have hone (c : Char) : 1 ≤ (writeChar c).length := by
    unfold writeChar unitEscape
    split
    · exact Nat.le_add_left 1 _
    repeat' split
    all_goals exact Nat.le_add_left 1 _
  induction cs with
  | nil => exact Nat.le_refl 0
  | cons c cs ih =>
    have := hone c
    simp only [List.length_cons, List.flatMap_cons, List.length_append]
    omega

theorem string_write (s : String) (rest : List Char) :
    string ((writeString s).toList ++ rest) = .ok (s, rest) := by
  have hlength := length_le_flatMap_writeChar s.toList
  unfold writeString
  rw [String.toList_ofList, List.cons_append, List.cons_append, List.append_assoc, string,
    List.singleton_append, stringBody_write s.toList]
  · simp [Except.map]
  · simp only [List.length_append, List.length_cons]
    omega

/-! ## Numbers -/

/-- Whether a number ends before a text: the text does not go on with it. -/
def EndsNumber (cs : List Char) : Prop :=
  ∀ c rest, cs = c :: rest → c.isDigit = false ∧ c ≠ '.' ∧ c ≠ 'e' ∧ c ≠ 'E'

/-- A number that is not zero is written without a zero in front. -/
theorem head_toDigits {n : Nat} (h : 0 < n) :
    ∃ c rest, Nat.toDigits 10 n = c :: rest ∧ c ≠ '0' := by
  induction n using Nat.strongRecOn with
  | ind n ih =>
    rcases Nat.lt_or_ge n 10 with hlt | hge
    · refine ⟨n.digitChar, [], Nat.toDigits_of_lt_base hlt, ?_⟩
      rw [ne_eq, Nat.digitChar_eq_zero]
      omega
    · obtain ⟨c, rest, hdigits, hc⟩ := ih (n / 10) (by omega) (by omega)
      refine ⟨c, rest ++ [(n % 10).digitChar], ?_, hc⟩
      rw [Nat.toDigits_of_base_le (by decide) hge, hdigits]
      rfl

theorem isDigit_of_mem_toDigits {n : Nat} : ∀ c ∈ Nat.toDigits 10 n, c.isDigit = true :=
  fun _ hc => Nat.isDigit_of_mem_toDigits (by decide) (by decide) hc

/-- Digits are read as the number that they are written for. -/
theorem ofDigits_toDigits (n : Nat) :
    Number.ofDigits ((Nat.toDigits 10 n).filterMap Text.decimalValue?) = n := by
  have hfold (cs : List Char) (hdigits : ∀ c ∈ cs, c.isDigit = true) (m : Nat) :
      (cs.filterMap Text.decimalValue?).foldl (fun n d => 10 * n + d) m =
        Nat.ofDigitChars 10 cs m := by
    induction cs generalizing m with
    | nil => rfl
    | cons c cs ih =>
      have hc : c.isDigit = true := hdigits c List.mem_cons_self
      have hbelow : c.toNat < 128 := by
        simp only [Char.isDigit, ge_iff_le, Bool.and_eq_true, decide_eq_true_eq] at hc
        have hle := UInt32.le_iff_toNat_le.mp hc.2
        exact Nat.lt_of_le_of_lt hle (by decide)
      have hvalue : Text.decimalValue? c = some (c.toNat - '0'.toNat) := by
        rw [Text.decimalValue?, if_pos hbelow, if_pos hc]
      rw [List.filterMap_cons_some hvalue, List.foldl_cons,
        ih fun d hd => hdigits d (List.mem_cons_of_mem c hd)]
      rfl
  exact (hfold _ isDigit_of_mem_toDigits 0).trans Nat.ofDigitChars_ten_toDigits

/-- The digits in front of a text that no number goes on with. -/
theorem wholePart_toDigits (n : Nat) {rest : List Char} (h : EndsNumber rest) :
    wholePart (Nat.toDigits 10 n ++ rest) = Nat.toDigits 10 n := by
  rcases Nat.eq_zero_or_pos n with rfl | hpos
  · rfl
  · have htake : (Nat.toDigits 10 n ++ rest).takeWhile Char.isDigit = Nat.toDigits 10 n := by
      rw [List.takeWhile_append_of_pos isDigit_of_mem_toDigits]
      cases rest with
      | nil => rw [List.takeWhile_nil, List.append_nil]
      | cons d rest =>
        rw [List.takeWhile_cons_of_neg (by simp [(h d rest rfl).1]), List.append_nil]
    obtain ⟨c, more, hdigits, hc⟩ := head_toDigits hpos
    unfold wholePart
    split
    · rename_i heq
      rw [hdigits] at heq
      exact absurd (List.cons.inj heq).1 hc
    · exact htake

/-- What is written in front of digits is a minus sign or nothing. -/
theorem splitMinus_toDigits (negative : Bool) (n : Nat) (rest : List Char) :
    splitMinus ((if negative then ['-'] else []) ++ (Nat.toDigits 10 n ++ rest)) =
      (negative, Nat.toDigits 10 n ++ rest) := by
  cases negative with
  | true => rfl
  | false =>
    obtain ⟨c, more, hdigits, hc⟩ := beginsWithDigit_toDigits n
    rw [if_neg Bool.false_ne_true, List.nil_append, hdigits]
    unfold splitMinus
    split
    · rename_i heq
      obtain rfl : c = '-' := (List.cons.inj heq).1
      exact absurd hc (by decide)
    · rfl

/-- A number without a fraction and an exponent. -/
theorem number_digits {n : Nat} (hn : (Nat.toDigits 10 n).length ≤ Number.digitLimit)
    {rest : List Char} (h : EndsNumber rest) (negative : Bool) :
    number ((if negative then ['-'] else []) ++ (Nat.toDigits 10 n ++ rest)) =
      .ok (.int (if negative then -(n : Int) else n), rest) := by
  have hlength : ¬Number.digitLimit < (Nat.toDigits 10 n).length := Nat.not_lt.mpr hn
  have hsome : ¬(Nat.toDigits 10 n).isEmpty = true := by
    rw [List.isEmpty_iff]
    exact Nat.toDigits_ne_nil
  have hfraction : fraction rest = ([], rest) := by
    unfold fraction
    split
    · exact absurd rfl (h _ _ rfl).2.1
    · rfl
  have hexponent : exponent? rest = none := by
    unfold exponent?
    split
    · obtain ⟨-, -, hsmall, hlarge⟩ := h _ _ rfl
      rw [if_neg (not_or.mpr ⟨hsmall, hlarge⟩)]
    · rfl
  unfold number
  simp only [splitMinus_toDigits, wholePart_toDigits n h, if_neg hsome, List.drop_left, hfraction,
    hexponent, if_neg hlength, ofDigits_toDigits]

/-- **A whole number is read as it is written**, if it has few enough digits. -/
theorem number_toString {i : Int} (hi : (Nat.toDigits 10 i.natAbs).length ≤ Number.digitLimit)
    {rest : List Char} (h : EndsNumber rest) :
    number ((toString i).toList ++ rest) = .ok (.int i, rest) := by
  cases i with
  | ofNat n =>
    have hread := number_digits hi h false
    rw [if_neg Bool.false_ne_true, List.nil_append, if_neg Bool.false_ne_true] at hread
    rw [show toString (Int.ofNat n) = toString n from rfl, Nat.toString_eq_ofList_toDigits,
      String.toList_ofList]
    exact hread
  | negSucc n =>
    have hread := number_digits hi h true
    rw [if_pos rfl, if_pos rfl] at hread
    rw [show toString (Int.negSucc n) = "-" ++ toString (n + 1) from rfl,
      Nat.toString_eq_ofList_toDigits, String.toList_append, List.append_assoc]
    simp only [String.toList_ofList]
    exact hread

/-! ## Values -/

mutual

/-- Whether a value has no doubles, and no object in it a key twice. -/
def Exact : Json → Prop
  | .float _ => False
  | .arr items => ExactItems items
  | .obj fields => (Fields.keys fields).Nodup ∧ ExactFields fields
  | _ => True

/-- Whether all items of a list are exact. -/
def ExactItems : List Json → Prop
  | [] => True
  | v :: rest => Exact v ∧ ExactItems rest

/-- Whether the values of all fields of an object are exact. -/
def ExactFields : List (String × Json) → Prop
  | [] => True
  | (_, v) :: rest => Exact v ∧ ExactFields rest

end

theorem skipSpace_cons {c : Char} (hc : isSpace c = false) (rest : List Char) :
    skipSpace (c :: rest) = c :: rest :=
  List.dropWhile_cons_of_neg (by simp [hc])

/-- A row of blanks is passed over, up to what is no blank. -/
theorem skipSpace_append {gap : List Char} (hgap : ∀ c ∈ gap, isSpace c = true) {c : Char}
    (hc : isSpace c = false) (rest : List Char) : skipSpace (gap ++ c :: rest) = c :: rest := by
  exact (List.dropWhile_append_of_pos hgap).trans (skipSpace_cons hc rest)

theorem isSpace_of_mem_lineBreak {indent : Option Nat} {level : Nat} :
    ∀ c ∈ (lineBreak indent level).toList, isSpace c = true := by
  unfold lineBreak
  cases indent with
  | none => exact nofun
  | some n =>
    rw [String.toList_ofList]
    intro c hc
    rcases List.mem_cons.mp hc with rfl | hc
    · rfl
    · rw [List.eq_of_mem_replicate hc]
      rfl

/-- What parts the items of a row, behind the comma. -/
def gapOf (indent : Option Nat) (level : Nat) : List Char :=
  match indent with
  | some _ => (lineBreak indent level).toList
  | none => [' ']

theorem isSpace_of_mem_gapOf (indent : Option Nat) (level : Nat) :
    ∀ c ∈ gapOf indent level, isSpace c = true := by
  unfold gapOf
  cases indent with
  | none =>
    intro c hc
    rw [List.mem_singleton.mp hc]
    rfl
  | some n => exact isSpace_of_mem_lineBreak

/-- A row of items with what parts them. -/
def rowOf (indent : Option Nat) (level : Nat) (items : List String) : List Char :=
  (',' :: gapOf indent level).intercalate (items.map String.toList)

theorem rowOf_singleton (indent : Option Nat) (level : Nat) (item : String) :
    rowOf indent level [item] = item.toList :=
  List.intercalate_singleton

theorem rowOf_cons_cons (indent : Option Nat) (level : Nat) (item next : String)
    (items : List String) :
    rowOf indent level (item :: next :: items) =
      item.toList ++ ',' :: (gapOf indent level ++ rowOf indent level (next :: items)) := by
  unfold rowOf
  rw [List.map_cons, List.map_cons, List.intercalate_cons_cons, List.append_assoc]
  rfl

/-- A row begins as its first item does. -/
theorem exists_rowOf_cons (indent : Option Nat) (level : Nat) {item : String} {c : Char}
    {cs : List Char} (h : item.toList = c :: cs) (items : List String) :
    ∃ more, rowOf indent level (item :: items) = c :: more := by
  unfold rowOf
  rw [List.map_cons, h, List.intercalate_cons_cons_left]
  exact ⟨_, rfl⟩

/-- The text of a row of items between brackets. -/
theorem toList_bracket (indent : Option Nat) (level : Nat) (opener closer : String)
    {items : List String} (h : items ≠ []) :
    (bracket indent level opener closer items).toList =
      opener.toList ++ ((lineBreak indent (level + 1)).toList ++
        (rowOf indent (level + 1) items ++
          ((lineBreak indent level).toList ++ closer.toList))) := by
  have hnone : ¬items.isEmpty = true := by
    rw [List.isEmpty_iff]
    exact h
  unfold bracket
  rw [if_neg hnone]
  cases indent with
  | none =>
    simp only [String.toList_append, String.toList_intercalate, rowOf, gapOf, List.append_assoc]
    rfl
  | some n =>
    simp only [String.toList_append, String.toList_intercalate, rowOf, gapOf, List.append_assoc]
    rfl

theorem toList_bracket_nil (indent : Option Nat) (level : Nat) (opener closer : String) :
    (bracket indent level opener closer []).toList = opener.toList ++ closer.toList :=
  String.toList_append

/-- What begins with a blank, a comma or a closing bracket goes on with no number. -/
theorem endsNumber_cons {c : Char} (h : isSpace c = true ∨ c = ',' ∨ c = ']' ∨ c = '}')
    (rest : List Char) : EndsNumber (c :: rest) := by
  rintro d more heq
  obtain rfl : c = d := (List.cons.inj heq).1
  have hcases : c = ' ' ∨ c = '\t' ∨ c = '\n' ∨ c = '\r' ∨ c = ',' ∨ c = ']' ∨ c = '}' := by
    simpa only [isSpace, Bool.or_eq_true, beq_iff_eq, or_assoc] using h
  rcases hcases with rfl | rfl | rfl | rfl | rfl | rfl | rfl <;> decide

theorem endsNumber_gap {gap : List Char} (hgap : ∀ c ∈ gap, isSpace c = true) {c : Char}
    (hc : c = ',' ∨ c = ']' ∨ c = '}') (rest : List Char) : EndsNumber (gap ++ c :: rest) := by
  cases gap with
  | nil => exact endsNumber_cons (.inr hc) rest
  | cons d gap => exact endsNumber_cons (.inl (hgap d List.mem_cons_self)) _

/-- A value is written with no blank and no closing bracket in front. -/
theorem head_writeAt (indent : Option Nat) (level : Nat) {v : Json} (h : v.Exact) :
    ∃ c rest, (writeAt indent level v).toList = c :: rest ∧ isSpace c = false ∧ c ≠ ']' := by
  have hbracket (opener closer : String) (items : List String) :
      ∃ rest, (bracket indent level opener closer items).toList = opener.toList ++ rest := by
    unfold bracket
    split
    · exact ⟨closer.toList, String.toList_append⟩
    · dsimp only
      exact ⟨_, by simp only [String.toList_append, List.append_assoc]; rfl⟩
  cases v with
  | null => exact ⟨'n', "ull".toList, by rw [writeAt]; rfl, rfl, by decide⟩
  | bool b =>
    rw [writeAt]
    cases b with
    | true => exact ⟨'t', "rue".toList, rfl, rfl, by decide⟩
    | false => exact ⟨'f', "alse".toList, rfl, rfl, by decide⟩
  | int i =>
    have hdigit {c : Char} (hc : c.isDigit = true) : isSpace c = false ∧ c ≠ ']' := by
      refine ⟨Bool.eq_false_iff.mpr fun hspace => ?_, ?_⟩
      · simp only [isSpace, Bool.or_eq_true, beq_iff_eq] at hspace
        rcases hspace with ((rfl | rfl) | rfl) | rfl <;> exact absurd hc (by decide)
      · rintro rfl
        exact absurd hc (by decide)
    obtain ⟨cs, ⟨c, rest, rfl, hc⟩, htext | htext⟩ := toList_toString_int i
    · exact ⟨c, rest, htext, hdigit hc⟩
    · exact ⟨'-', _, htext, rfl, by decide⟩
  | float x => exact absurd h id
  | str s =>
    refine ⟨'"', s.toList.flatMap writeChar ++ ['"'], ?_, rfl, by decide⟩
    rw [writeAt, writeString, String.toList_ofList]
    rfl
  | arr items =>
    obtain ⟨rest, htext⟩ := hbracket "[" "]" (writeItems indent (level + 1) items)
    exact ⟨'[', rest, htext, rfl, by decide⟩
  | obj fields =>
    obtain ⟨rest, htext⟩ := hbracket "\x7b" "\x7d" (writeFields indent (level + 1) fields)
    exact ⟨'\x7b', rest, htext, rfl, by decide⟩

/-- A whole number is no word. -/
theorem scalar_toString {i : Int} (hi : (Nat.toDigits 10 i.natAbs).length ≤ Number.digitLimit)
    {rest : List Char} (h : EndsNumber rest) :
    scalar ((toString i).toList ++ rest) = .ok (.int i, rest) := by
  have hnone : words.find? (fun w => w.1.isPrefixOf ((toString i).toList ++ rest)) = none := by
    rw [List.find?_eq_none]
    have hapart {c d : Char} (hne : c ≠ d) (word cs : List Char) :
        ¬(c :: word).isPrefixOf (d :: cs) = true := by
      rw [List.isPrefixOf_iff_prefix, List.cons_prefix_cons]
      exact fun h => hne h.1
    have hdigit {c d : Char} (hd : d.isDigit = true) (hc : c.isDigit = false) : c ≠ d := by
      rintro rfl
      rw [hd] at hc
      cases hc
    obtain ⟨cs, ⟨d, more, rfl, hd⟩, htext | htext⟩ := toList_toString_int i
    · rw [htext]
      intro w hw
      simp only [words, List.mem_cons, List.not_mem_nil, or_false] at hw
      rcases hw with rfl | rfl | rfl | rfl | rfl | rfl <;>
        exact hapart (hdigit hd (by decide)) _ _
    · rw [htext]
      intro w hw
      simp only [words, List.mem_cons, List.not_mem_nil, or_false] at hw
      rcases hw with rfl | rfl | rfl | rfl | rfl | rfl
      iterate 5 exact hapart (by decide) _ _
      exact hapart (hdigit hd (c := 'I') (by decide)) "nfinity".toList _
  unfold scalar
  rw [hnone]
  exact number_toString hi h

/-- A value that is no text, no list and no object is a word or a number. -/
theorem value_scalar {c : Char} (hquote : c ≠ '"') (hlist : c ≠ '[') (hobject : c ≠ '\x7b')
    (fuel : Nat) (cs : List Char) : value (fuel + 1) (c :: cs) = scalar (c :: cs) := by
  rw [value]
  · exact fun _ h => hquote (List.cons.inj h).1
  · exact fun _ h => hlist (List.cons.inj h).1
  · exact fun _ h => hobject (List.cons.inj h).1

theorem value_toString {i : Int} (hi : (Nat.toDigits 10 i.natAbs).length ≤ Number.digitLimit)
    (fuel : Nat) {rest : List Char} (h : EndsNumber rest) :
    value (fuel + 1) ((toString i).toList ++ rest) = .ok (.int i, rest) := by
  have hread := scalar_toString hi h
  obtain ⟨cs, ⟨d, more, rfl, hd⟩, htext | htext⟩ := toList_toString_int i
  · have hne {c : Char} (hc : c.isDigit = false) : d ≠ c := by
      rintro rfl
      rw [hd] at hc
      cases hc
    rw [htext] at hread ⊢
    rw [List.cons_append, value_scalar (hne (by decide)) (hne (by decide)) (hne (by decide))]
    exact hread
  · rw [htext] at hread ⊢
    rw [List.cons_append, value_scalar (by decide) (by decide) (by decide)]
    exact hread

theorem value_writeString (s : String) (fuel : Nat) (rest : List Char) :
    value (fuel + 1) ((writeString s).toList ++ rest) = .ok (.str s, rest) := by
  have hread := string_write s rest
  unfold writeString at hread ⊢
  rw [String.toList_ofList, List.cons_append, List.cons_append] at hread ⊢
  rw [value, hread]
  rfl

/-! ## Rows -/

/-- A list that does not end at once. -/
theorem value_list {cs more : List Char} {c : Char} (hskip : skipSpace cs = c :: more)
    (hc : c ≠ ']') (fuel : Nat) :
    value (fuel + 1) ('[' :: cs) =
      (items fuel (c :: more)).map fun read => (.arr read.1, read.2) := by
  rw [value, hskip]
  split
  · rename_i h
    exact absurd (List.cons.inj h).1 hc
  · rfl

/-- An object that does not end at once. -/
theorem value_object {cs more : List Char} {c : Char} (hskip : skipSpace cs = c :: more)
    (hc : c ≠ '\x7d') (fuel : Nat) :
    value (fuel + 1) ('\x7b' :: cs) =
      (fields fuel [] (c :: more)).map fun read => (.obj read.1, read.2) := by
  rw [value, hskip]
  split
  · rename_i h
    exact absurd (List.cons.inj h).1 hc
  · rfl

section

variable {fuel : Nat} {cs gap more rest : List Char} {c : Char} {v : Json}

/-- The last item of a list. -/
theorem items_last (hgap : ∀ c ∈ gap, isSpace c = true)
    (hread : value fuel cs = .ok (v, gap ++ ']' :: rest)) :
    items (fuel + 1) cs = .ok ([v], rest) := by
  rw [items, hread]
  simp only [bind, Except.bind, skipSpace_append hgap (show isSpace ']' = false from rfl)]

/-- An item of a list that is followed by others. -/
theorem items_more {vs : List Json} (hgap : ∀ c ∈ gap, isSpace c = true) (hc : isSpace c = false)
    (hread : value fuel cs = .ok (v, ',' :: (gap ++ c :: more)))
    (hmore : items fuel (c :: more) = .ok (vs, rest)) :
    items (fuel + 1) cs = .ok (v :: vs, rest) := by
  rw [items, hread]
  simp only [bind, Except.bind, skipSpace_cons (show isSpace ',' = false from rfl),
    skipSpace_append hgap hc, hmore]

/-- The last field of an object. -/
theorem fields_last {key : String} {before : List (String × Json)} (hc : isSpace c = false)
    (hgap : ∀ c ∈ gap, isSpace c = true)
    (hread : value fuel (c :: cs) = .ok (v, gap ++ '\x7d' :: rest)) :
    fields (fuel + 1) before ((writeString key).toList ++ ':' :: ' ' :: c :: cs) =
      .ok (Fields.insert before key v, rest) := by
  have hblank : skipSpace (' ' :: c :: cs) = c :: cs := skipSpace_cons hc cs
  rw [fields, string_write]
  simp only [bind, Except.bind, skipSpace_cons (show isSpace ':' = false from rfl), hblank, hread,
    skipSpace_append hgap (show isSpace '\x7d' = false from rfl)]

/-- A field of an object that is followed by others. -/
theorem fields_more {key : String} {before : List (String × Json)} {d : Char}
    (hc : isSpace c = false) (hgap : ∀ c ∈ gap, isSpace c = true) (hd : isSpace d = false)
    (hread : value fuel (c :: cs) = .ok (v, ',' :: (gap ++ d :: more))) :
    fields (fuel + 1) before ((writeString key).toList ++ ':' :: ' ' :: c :: cs) =
      fields fuel (Fields.insert before key v) (d :: more) := by
  have hblank : skipSpace (' ' :: c :: cs) = c :: cs := skipSpace_cons hc cs
  rw [fields, string_write]
  simp only [bind, Except.bind, skipSpace_cons (show isSpace ':' = false from rfl), hblank, hread,
    skipSpace_cons (show isSpace ',' = false from rfl), skipSpace_append hgap hd]

end

/-! ## The run of the reader -/

/-- Whether values are read with `fuel` steps as they are written, wherever they stand and whatever
follows them, if that does not go on with a number. Each character of a text pays for two steps. -/
def ReadsValues (indent : Option Nat) (fuel : Nat) : Prop :=
  ∀ (v : Json) (level : Nat) (rest : List Char), v.Exact → v.isWritable = true →
    2 * (writeAt indent level v).toList.length ≤ fuel → EndsNumber rest →
    value fuel ((writeAt indent level v).toList ++ rest) = .ok (v, rest)

/-- Whether the items of lists are read with `fuel` steps as they are written. -/
def ReadsItems (indent : Option Nat) (fuel : Nat) : Prop :=
  ∀ (vs : List Json) (level : Nat) (gap rest : List Char), vs ≠ [] → ExactItems vs →
    areWritable vs = true → (∀ c ∈ gap, isSpace c = true) →
    2 * ((rowOf indent level (writeItems indent level vs)).length + 1) ≤ fuel →
    items fuel (rowOf indent level (writeItems indent level vs) ++ (gap ++ ']' :: rest)) =
      .ok (vs, rest)

/-- Whether the fields of objects are read with `fuel` steps as they are written, and added to those
before. -/
def ReadsFields (indent : Option Nat) (fuel : Nat) : Prop :=
  ∀ (fs before : List (String × Json)) (level : Nat) (gap rest : List Char), fs ≠ [] →
    ExactFields fs → haveWritable fs = true → (Fields.keys (before ++ fs)).Nodup →
    (∀ c ∈ gap, isSpace c = true) →
    2 * ((rowOf indent level (writeFields indent level fs)).length + 1) ≤ fuel →
    fields fuel before (rowOf indent level (writeFields indent level fs) ++
      (gap ++ '\x7d' :: rest)) = .ok (before ++ fs, rest)

variable {indent : Option Nat} {fuel : Nat}

/-- The text of a field begins with the quote of its key. -/
theorem toList_field (level : Nat) (key : String) (v : Json) :
    (writeString key ++ ": " ++ writeAt indent level v).toList =
      '"' :: (key.toList.flatMap writeChar ++ ['"'] ++
        (": ".toList ++ (writeAt indent level v).toList)) := by
  rw [String.toList_append, String.toList_append, writeString, String.toList_ofList,
    List.append_assoc]
  rfl

/-- Lists are read as they are written, if their items are. -/
theorem value_writeAt_arr (hitems : ReadsItems indent fuel) {vs : List Json} {level : Nat}
    (hexact : ExactItems vs) (hwritable : areWritable vs = true)
    (hfuel : 2 * (writeAt indent level (.arr vs)).toList.length ≤ fuel + 1) (rest : List Char) :
    value (fuel + 1) ((writeAt indent level (.arr vs)).toList ++ rest) = .ok (.arr vs, rest) := by
  cases vs with
  | nil =>
    rw [writeAt, writeItems, toList_bracket_nil]
    rfl
  | cons v vs =>
    obtain ⟨d, cs, hitem, hd, hclose⟩ := head_writeAt indent (level + 1) hexact.1
    obtain ⟨more, hrow⟩ := exists_rowOf_cons indent (level + 1) hitem
      (writeItems indent (level + 1) vs)
    rw [← writeItems] at hrow
    have hsome : writeItems indent (level + 1) (v :: vs) ≠ [] := by
      rw [writeItems]
      exact List.cons_ne_nil _ _
    rw [writeAt, toList_bracket indent level "[" "]" hsome] at hfuel ⊢
    have hread : items fuel
        (rowOf indent (level + 1) (writeItems indent (level + 1) (v :: vs)) ++
          ((lineBreak indent level).toList ++ ']' :: rest)) = .ok (v :: vs, rest) := by
      refine hitems (v :: vs) _ _ _ nofun hexact hwritable isSpace_of_mem_lineBreak ?_
      have hbrackets : "[".toList.length = 1 ∧ "]".toList.length = 1 := ⟨rfl, rfl⟩
      simp only [List.length_append] at hfuel
      omega
    rw [hrow] at hread ⊢
    have htext : "[".toList ++ ((lineBreak indent (level + 1)).toList ++ (d :: more ++
        ((lineBreak indent level).toList ++ "]".toList))) ++ rest =
          '[' :: ((lineBreak indent (level + 1)).toList ++
            d :: (more ++ ((lineBreak indent level).toList ++ ']' :: rest))) := by
      simp
    rw [htext, value_list (skipSpace_append isSpace_of_mem_lineBreak hd _) hclose]
    exact congrArg _ hread

/-- Objects are read as they are written, if their fields are. -/
theorem value_writeAt_obj (hfields : ReadsFields indent fuel) {fs : List (String × Json)}
    {level : Nat} (hkeys : (Fields.keys fs).Nodup) (hexact : ExactFields fs)
    (hwritable : haveWritable fs = true)
    (hfuel : 2 * (writeAt indent level (.obj fs)).toList.length ≤ fuel + 1) (rest : List Char) :
    value (fuel + 1) ((writeAt indent level (.obj fs)).toList ++ rest) = .ok (.obj fs, rest) := by
  cases fs with
  | nil =>
    rw [writeAt, writeFields, toList_bracket_nil]
    rfl
  | cons field fs =>
    obtain ⟨key, v⟩ := field
    obtain ⟨more, hrow⟩ := exists_rowOf_cons indent (level + 1)
      (toList_field (level + 1) key v) (writeFields indent (level + 1) fs)
    rw [← writeFields] at hrow
    have hsome : writeFields indent (level + 1) ((key, v) :: fs) ≠ [] := by
      rw [writeFields]
      exact List.cons_ne_nil _ _
    rw [writeAt, toList_bracket indent level "\x7b" "\x7d" hsome] at hfuel ⊢
    have hread : fields fuel []
        (rowOf indent (level + 1) (writeFields indent (level + 1) ((key, v) :: fs)) ++
          ((lineBreak indent level).toList ++ '\x7d' :: rest)) = .ok ((key, v) :: fs, rest) := by
      refine hfields ((key, v) :: fs) [] _ _ _ nofun hexact hwritable hkeys
        isSpace_of_mem_lineBreak ?_
      have hbraces : "\x7b".toList.length = 1 ∧ "\x7d".toList.length = 1 := ⟨rfl, rfl⟩
      simp only [List.length_append] at hfuel
      omega
    rw [hrow] at hread ⊢
    have htext : "\x7b".toList ++ ((lineBreak indent (level + 1)).toList ++ ('"' :: more ++
        ((lineBreak indent level).toList ++ "\x7d".toList))) ++ rest =
          '\x7b' :: ((lineBreak indent (level + 1)).toList ++
            '"' :: (more ++ ((lineBreak indent level).toList ++ '\x7d' :: rest))) := by
      simp
    rw [htext, value_object (skipSpace_append isSpace_of_mem_lineBreak (by decide) _) (by decide)]
    exact congrArg _ hread

/-- One step more reads the values of which the items and the fields are read. -/
theorem readsValues_succ (hitems : ReadsItems indent fuel) (hfields : ReadsFields indent fuel) :
    ReadsValues indent (fuel + 1) := by
  intro v level rest hexact hwritable hfuel hrest
  cases v with
  | null =>
    rw [writeAt]
    rfl
  | bool b =>
    rw [writeAt]
    cases b <;> rfl
  | int i =>
    rw [writeAt]
    rw [isWritable, decide_eq_true_eq] at hwritable
    exact value_toString hwritable fuel hrest
  | float x => exact absurd hexact id
  | str s =>
    rw [writeAt]
    exact value_writeString s fuel rest
  | arr vs =>
    rw [isWritable] at hwritable
    exact value_writeAt_arr hitems hexact hwritable hfuel rest
  | obj fs =>
    rw [isWritable] at hwritable
    exact value_writeAt_obj hfields hexact.1 hexact.2 hwritable hfuel rest

/-- One step more reads a row of items. -/
theorem readsItems_succ (hvalues : ReadsValues indent fuel) (hitems : ReadsItems indent fuel) :
    ReadsItems indent (fuel + 1) := by
  intro vs level gap rest hsome hexact hwritable hgap hfuel
  match vs with
  | [] => exact absurd rfl hsome
  | [v] =>
    rw [areWritable, Bool.and_eq_true] at hwritable
    rw [writeItems, writeItems, rowOf_singleton] at hfuel ⊢
    refine items_last hgap (hvalues v _ _ hexact.1 hwritable.1 (by omega) ?_)
    exact endsNumber_gap hgap (.inr (.inl rfl)) rest
  | v :: next :: vs =>
    obtain ⟨hv, hvs⟩ := hexact
    rw [areWritable, Bool.and_eq_true] at hwritable
    obtain ⟨d, cs, hnext, hd, -⟩ := head_writeAt indent level hvs.1
    obtain ⟨more, hrow⟩ := exists_rowOf_cons indent level hnext (writeItems indent level vs)
    rw [← writeItems] at hrow
    have hsplit : rowOf indent level (writeItems indent level (v :: next :: vs)) =
        (writeAt indent level v).toList ++ ',' :: (gapOf indent level ++
          rowOf indent level (writeItems indent level (next :: vs))) := by
      rw [writeItems, writeItems, rowOf_cons_cons]
    rw [hsplit] at hfuel ⊢
    simp only [List.length_append, List.length_cons] at hfuel
    have hread := hitems (next :: vs) level gap rest nofun hvs hwritable.2 hgap (by omega)
    rw [hrow] at hread ⊢
    have htext : (writeAt indent level v).toList ++ ',' :: (gapOf indent level ++ d :: more) ++
        (gap ++ ']' :: rest) = (writeAt indent level v).toList ++
          ',' :: (gapOf indent level ++ d :: (more ++ (gap ++ ']' :: rest))) := by
      simp
    rw [htext]
    refine items_more (isSpace_of_mem_gapOf indent level) hd ?_ hread
    exact hvalues v _ _ hv hwritable.1 (by omega) (endsNumber_cons (.inr (.inl rfl)) _)

/-- One step more reads a row of fields. -/
theorem readsFields_succ (hvalues : ReadsValues indent fuel) (hfields : ReadsFields indent fuel) :
    ReadsFields indent (fuel + 1) := by
  intro fs before level gap rest hsome hexact hwritable hkeys hgap hfuel
  match fs with
  | [] => exact absurd rfl hsome
  | (key, v) :: fs =>
    obtain ⟨hv, hfs⟩ := hexact
    rw [haveWritable, Bool.and_eq_true] at hwritable
    obtain ⟨c, cs, hvalue, hc, -⟩ := head_writeAt indent level hv
    have hnew : Fields.insert before key v = before ++ [(key, v)] := by
      refine Fields.insert_of_not_mem ?_ v
      rw [Fields.keys, List.map_append, List.nodup_append] at hkeys
      exact fun h => hkeys.2.2 key h key List.mem_cons_self rfl
    have hfield (more : List Char) :
        (writeString key ++ ": " ++ writeAt indent level v).toList ++ more =
          (writeString key).toList ++ ':' :: ' ' :: c :: (cs ++ more) := by
      simp [hvalue]
    cases fs with
    | nil =>
      rw [writeFields, writeFields, rowOf_singleton] at hfuel ⊢
      simp only [String.toList_append, List.length_append] at hfuel
      rw [hfield, ← hnew]
      refine fields_last hc hgap ?_
      rw [← List.cons_append, ← hvalue]
      exact hvalues v _ _ hv hwritable.1 (by omega) (endsNumber_gap hgap (.inr (.inr rfl)) rest)
    | cons next fs =>
      obtain ⟨nextKey, nextValue⟩ := next
      obtain ⟨more, hrow⟩ := exists_rowOf_cons indent level
        (toList_field level nextKey nextValue) (writeFields indent level fs)
      rw [← writeFields] at hrow
      have hsplit : rowOf indent level
          (writeFields indent level ((key, v) :: (nextKey, nextValue) :: fs)) =
            (writeString key ++ ": " ++ writeAt indent level v).toList ++ ',' ::
              (gapOf indent level ++
                rowOf indent level (writeFields indent level ((nextKey, nextValue) :: fs))) := by
        rw [writeFields, writeFields, rowOf_cons_cons]
      rw [hsplit] at hfuel ⊢
      simp only [String.toList_append, List.length_append, List.length_cons] at hfuel
      have hread := hfields ((nextKey, nextValue) :: fs) (before ++ [(key, v)]) level gap rest
        (List.cons_ne_nil _ _) hfs hwritable.2 (by rwa [List.append_assoc]) hgap (by omega)
      rw [hrow, List.append_assoc] at hread
      rw [hrow, List.append_assoc, hfield]
      have htext : cs ++ (',' :: (gapOf indent level ++ '"' :: more) ++ (gap ++ '\x7d' :: rest)) =
          cs ++ ',' :: (gapOf indent level ++ '"' :: (more ++ (gap ++ '\x7d' :: rest))) := by
        simp
      have hquote : isSpace '"' = false := rfl
      rw [htext, fields_more hc (isSpace_of_mem_gapOf indent level) hquote ?_, hnew]
      · exact hread
      · rw [← List.cons_append, ← hvalue]
        exact hvalues v _ _ hv hwritable.1 (by omega) (endsNumber_cons (.inr (.inl rfl)) _)

/-- Whatever the bound on the steps: what is short enough for it is read as it is written. -/
theorem reads_written (indent : Option Nat) (fuel : Nat) :
    ReadsValues indent fuel ∧ ReadsItems indent fuel ∧ ReadsFields indent fuel := by
  induction fuel with
  | zero =>
    refine ⟨fun v level rest hexact _ hfuel _ => ?_, fun _ _ _ _ _ _ _ _ hfuel => ?_,
      fun _ _ _ _ _ _ _ _ _ _ hfuel => ?_⟩
    · obtain ⟨c, cs, htext, -⟩ := head_writeAt indent level hexact
      rw [htext, List.length_cons] at hfuel
      omega
    · omega
    · omega
  | succ fuel ih =>
    obtain ⟨hvalues, hitems, hfields⟩ := ih
    exact ⟨readsValues_succ hitems hfields, readsItems_succ hvalues hitems,
      readsFields_succ hvalues hfields⟩

/-- **A text that was written is read as the value that it was written for**: with line breaks or
without them, the texts in the value may hold any characters. -/
theorem read_write (indent : Option Nat) {v : Json} (hexact : v.Exact)
    (hwritable : v.isWritable = true) : read (v.write indent) = .ok v := by
  obtain ⟨c, cs, htext, hc, -⟩ := head_writeAt indent 0 hexact
  have hskip : skipSpace (v.write indent).toList = (writeAt indent 0 v).toList := by
    rw [write, htext]
    exact skipSpace_cons hc cs
  have hread := (reads_written indent (2 * (writeAt indent 0 v).toList.length + 2)).1 v 0 [] hexact
    hwritable (Nat.le_add_right _ 2) nofun
  rw [List.append_nil] at hread
  unfold read
  rw [hskip]
  simp only [hread]
  rfl

end TagScript.Json
