import TagScript.Proofs.Build.ResolvedNames
import TagScript.Script

/-!
# Words that are numbers

A word counts as a number by the characters that it consists of; its value is made by the readers of
whole numbers and of decimals, which are used elsewhere for what a person may type. They accept
every such word, apart from whole numbers with too many digits.

* `Lexer.exists_parts_of_isNumber` — the parts of a word that is a number.
* **`Script.number_cases`** — the operand that it is.
* `Token.isNumber_text` — tokens that are numbers consist of such words.
-/

namespace TagScript

open Lexer

/-! ## Characters of numbers -/

namespace Text

/-- No digit is blank. -/
theorem isBlank_of_isDecimal {c : Char} (h : isDecimal c = true) : isBlank c = false := by
  have hapart : ∀ z ∈ decimalZeros, ∀ r ∈ blankRanges, z + 10 ≤ r.1 ∨ r.2 < z := by decide
  have hascii : ∀ r ∈ blankRanges, 58 ≤ r.1 ∨ r.2 < 48 := by decide
  obtain ⟨d, hd⟩ := Option.isSome_iff_exists.mp h
  rw [isBlank, inRanges, List.any_eq_false]
  intro r hr hin
  simp only [Bool.and_eq_true, decide_eq_true_eq] at hin
  unfold decimalValue? at hd
  split at hd
  · split at hd
    · rename_i hdigit
      have hbounds : 48 ≤ c.toNat ∧ c.toNat ≤ 57 := by
        rw [Char.isDigit, Bool.and_eq_true, decide_eq_true_eq, decide_eq_true_eq] at hdigit
        exact hdigit
      have := hascii r hr
      omega
    · cases hd
  · obtain ⟨z, hfound, -⟩ := Option.map_eq_some_iff.mp hd
    have hz := List.find?_some hfound
    simp only [Bool.and_eq_true, decide_eq_true_eq] at hz
    have := hapart z (List.mem_of_find?_eq_some hfound) r hr
    omega

end Text

namespace Number

/-- Whether a character may stand in a number. -/
def IsNumeral (c : Char) : Prop :=
  Text.isDecimal c = true ∨ c = '-' ∨ c = '+' ∨ c = '.' ∨ c = 'e' ∨ c = 'E'

theorem IsNumeral.not_margin {c : Char} (h : IsNumeral c) : isMargin c = false := by
  have hblank : Text.isBlank c = false := by
    rcases h with h | rfl | rfl | rfl | rfl | rfl
    · exact Text.isBlank_of_isDecimal h
    all_goals rfl
  rw [isMargin, hblank, Bool.false_and]

theorem IsNumeral.ne_underscore {c : Char} (h : IsNumeral c) : c ≠ '_' := by
  rintro rfl
  rcases h with h | h | h | h | h | h <;> cases h

theorem ne_of_isDecimal {c d : Char} (h : Text.isDecimal c = true)
    (hd : Text.isDecimal d = false) : c ≠ d := by
  rintro rfl
  rw [h] at hd
  cases hd

theorem dropWhile_isMargin {cs : List Char} (h : ∀ c ∈ cs, IsNumeral c) :
    cs.dropWhile isMargin = cs := by
  cases cs with
  | nil => rfl
  | cons c cs => rw [List.dropWhile_cons_of_neg (by simp [(h c List.mem_cons_self).not_margin])]

theorem trimMargin_eq {cs : List Char} (h : ∀ c ∈ cs, IsNumeral c) : trimMargin cs = cs := by
  rw [trimMargin, dropWhile_isMargin h,
    dropWhile_isMargin fun c hc => h c (List.mem_reverse.mp hc), List.reverse_reverse]

theorem dropUnderscores?_eq {cs : List Char} (h : ∀ c ∈ cs, IsNumeral c) (afterDigit : Bool) :
    dropUnderscores? afterDigit cs = some cs := by
  induction cs generalizing afterDigit with
  | nil => rfl
  | cons c cs ih =>
    obtain ⟨hc, hcs⟩ := List.forall_mem_cons.mp h
    unfold dropUnderscores?
    rw [if_neg hc.ne_underscore, ih hcs, Option.map_some]

/-! ## Rows of digits -/

/-- A row of digits is read to its end. -/
theorem exists_digitRow? {cs : List Char} (h : ∀ c ∈ cs, Text.isDecimal c = true)
    {afterDigit : Bool} (hsome : afterDigit = true ∨ cs ≠ []) :
    ∃ digits, digitRow? afterDigit cs = some (digits, []) := by
  induction cs generalizing afterDigit with
  | nil => exact ⟨[], by rw [digitRow?, if_pos (hsome.resolve_right fun hne => hne rfl)]⟩
  | cons c cs ih =>
    obtain ⟨hc, hcs⟩ := List.forall_mem_cons.mp h
    obtain ⟨d, hd⟩ := Option.isSome_iff_exists.mp hc
    obtain ⟨digits, hrow⟩ := ih hcs (.inl rfl)
    exact ⟨d :: digits, by rw [digitRow?, hd, hrow]; rfl⟩

theorem spanDigits_append {digits rest : List Char} (h : ∀ c ∈ digits, Text.isDecimal c = true)
    (hrest : ∀ c ∈ rest.head?, Text.isDecimal c = false) :
    spanDigits (digits ++ rest) = (digits.filterMap Text.decimalValue?, rest) := by
  have hnone : rest.takeWhile Text.isDecimal = [] ∧ rest.dropWhile Text.isDecimal = rest := by
    cases rest with
    | nil => exact ⟨rfl, rfl⟩
    | cons c rest =>
      have hc := hrest c rfl
      exact ⟨List.takeWhile_cons_of_neg (by simp [hc]), List.dropWhile_cons_of_neg (by simp [hc])⟩
  rw [spanDigits, List.takeWhile_append_of_pos h, List.dropWhile_append_of_pos h, hnone.1, hnone.2,
    List.append_nil]

/-- Digits have values. -/
theorem exists_filterMap_decimalValue? {digits : List Char}
    (h : ∀ c ∈ digits, Text.isDecimal c = true) (hne : digits ≠ []) :
    ∃ d ds, digits.filterMap Text.decimalValue? = d :: ds := by
  obtain ⟨c, digits, rfl⟩ := List.exists_cons_of_ne_nil hne
  obtain ⟨d, hd⟩ := Option.isSome_iff_exists.mp (h c List.mem_cons_self)
  exact ⟨d, _, List.filterMap_cons_some hd⟩

/-! ## Exponents -/

theorem mem_splitSign {cs : List Char} {c : Char} (h : c ∈ cs) :
    c ∈ (splitSign cs).2 ∨ c = '-' ∨ c = '+' := by
  unfold splitSign
  split
  · exact (List.mem_cons.mp h).symm.imp_right .inl
  · exact (List.mem_cons.mp h).symm.imp_right .inr
  · exact .inl h

/-- An exponent is the letter, perhaps a sign, and digits. -/
theorem isExponent_cons (c : Char) (rest : List Char) : isExponent (c :: rest) =
    ((c == 'e' || c == 'E') && !(splitSign rest).2.isEmpty &&
      (splitSign rest).2.all Text.isDecimal) := by
  rw [isExponent.eq_def]
  dsimp only
  unfold splitSign
  split
  · rfl
  · rfl
  · rename_i hplus hminus
    split
    · exact (hminus _ rfl).elim
    · exact (hplus _ rfl).elim
    · rfl

/-- An exponent consists of characters of numbers, begins with no digit or point, and is read. -/
theorem exponent_spec {cs : List Char} (h : isExponent cs = true) :
    (∀ c ∈ cs, IsNumeral c) ∧ (∀ c ∈ cs.head?, Text.isDecimal c = false ∧ c ≠ '.') ∧
      ∃ e, exponent? cs = some e := by
  cases cs with
  | nil => exact ⟨nofun, nofun, 0, rfl⟩
  | cons c rest =>
    rw [isExponent_cons] at h
    simp only [Bool.and_eq_true, Bool.or_eq_true, beq_iff_eq, Bool.not_eq_true',
      List.isEmpty_eq_false_iff, List.all_eq_true] at h
    obtain ⟨⟨hc, hne⟩, hall⟩ := h
    have hhead : IsNumeral c ∧ Text.isDecimal c = false ∧ c ≠ '.' := by
      rcases hc with rfl | rfl
      · exact ⟨by simp [IsNumeral], rfl, by decide⟩
      · exact ⟨by simp [IsNumeral], rfl, by decide⟩
    refine ⟨List.forall_mem_cons.mpr ⟨hhead.1, fun d hd => ?_⟩, ?_, ?_⟩
    · rcases mem_splitSign hd with hd | rfl | rfl
      · exact .inl (hall d hd)
      · exact .inr (.inl rfl)
      · exact .inr (.inr (.inl rfl))
    · intro d hd
      cases hd
      exact hhead.2
    · have hspan := @spanDigits_append _ [] hall nofun
      obtain ⟨d, ds, hvalues⟩ := exists_filterMap_decimalValue? hall hne
      rw [List.append_nil, hvalues] at hspan
      rw [exponent?, if_pos hc]
      dsimp only
      rw [hspan]
      exact ⟨_, rfl⟩

end Number

/-! ## Words -/

/-- A word without the hyphen at its front. -/
def Lexer.unsigned (word : List Char) : List Char :=
  match word with
  | '-' :: rest => rest
  | _ => word

/-- Without a hyphen at its front a word stays as it is. -/
theorem Lexer.unsigned_of_ne {word : List Char} (h : ∀ rest, word = '-' :: rest → False) :
    unsigned word = word := by
  unfold unsigned
  split
  · exact (h _ rfl).elim
  · rfl

/-- The fraction that a text begins with, without its point. -/
def Lexer.fractionDigits (rest : List Char) : List Char :=
  match rest with
  | '.' :: more => more.takeWhile Text.isDecimal
  | _ => []

theorem Lexer.isNumber_eq (word : List Char) : isNumber word =
    (!((unsigned word).takeWhile Text.isDecimal).isEmpty &&
      (isExponent ((unsigned word).dropWhile Text.isDecimal) ||
        (!(fractionDigits ((unsigned word).dropWhile Text.isDecimal)).isEmpty &&
          isExponent (((unsigned word).dropWhile Text.isDecimal).drop
            ((fractionDigits ((unsigned word).dropWhile Text.isDecimal)).length + 1))))) := rfl

/-- What follows the digits at the front of a number: an exponent, perhaps behind a fraction. -/
theorem Lexer.exists_fraction {rest : List Char} (h : isExponent rest = true ∨
    (!(fractionDigits rest).isEmpty &&
      isExponent (rest.drop ((fractionDigits rest).length + 1))) = true) :
    ∃ fraction exponent, rest = fraction ++ exponent ∧ isExponent exponent = true ∧
      (fraction = [] ∨ ∃ digits, fraction = '.' :: digits ∧
        ∀ c ∈ digits, Text.isDecimal c = true) := by
  rcases h with hexponent | hfraction
  · exact ⟨[], rest, rfl, hexponent, .inl rfl⟩
  · rw [Bool.and_eq_true] at hfraction
    obtain ⟨hsome, hexponent⟩ := hfraction
    unfold fractionDigits at hsome hexponent
    split at hsome
    · rename_i more
      have hdrop : more.drop (more.takeWhile Text.isDecimal).length =
          more.dropWhile Text.isDecimal := by
        calc more.drop (more.takeWhile Text.isDecimal).length
            = (more.takeWhile Text.isDecimal ++ more.dropWhile Text.isDecimal).drop
                (more.takeWhile Text.isDecimal).length := by rw [List.takeWhile_append_dropWhile]
          _ = more.dropWhile Text.isDecimal := List.drop_left
      refine ⟨'.' :: more.takeWhile Text.isDecimal, more.dropWhile Text.isDecimal, ?_, ?_,
        .inr ⟨_, rfl, fun c hc => ?_⟩⟩
      · rw [List.cons_append, List.takeWhile_append_dropWhile]
      · rw [← hdrop]
        exact hexponent
      · exact List.all_eq_true.mp List.all_takeWhile c hc
    · cases hsome

/-- **The parts of a word that is a number**: digits, then perhaps a point and more digits, then
perhaps an exponent. -/
theorem Lexer.exists_parts_of_isNumber {word : List Char} (h : isNumber word = true) :
    ∃ whole fraction exponent, unsigned word = whole ++ (fraction ++ exponent) ∧ whole ≠ [] ∧
      (∀ c ∈ whole, Text.isDecimal c = true) ∧ isExponent exponent = true ∧
      (fraction = [] ∨ ∃ digits, fraction = '.' :: digits ∧
        ∀ c ∈ digits, Text.isDecimal c = true) := by
  rw [isNumber_eq, Bool.and_eq_true, Bool.or_eq_true] at h
  obtain ⟨fraction, exponent, hrest, hexponent, hfraction⟩ := exists_fraction h.2
  refine ⟨(unsigned word).takeWhile Text.isDecimal, fraction, exponent, ?_, by simpa using h.1,
    List.all_eq_true.mp List.all_takeWhile, hexponent, hfraction⟩
  rw [← hrest, List.takeWhile_append_dropWhile]

/-! ## Operands -/

namespace Number

variable {word : List Char}

/-- A number is its sign and what follows it. -/
theorem splitSign_of_isNumber (h : isNumber word = true) :
    (splitSign word).2 = unsigned word ∧ ∀ c ∈ word, c ∈ unsigned word ∨ c = '-' := by
  obtain ⟨whole, fraction, exponent, hunsigned, hne, hwhole, -⟩ := exists_parts_of_isNumber h
  obtain ⟨c, whole, rfl⟩ := List.exists_cons_of_ne_nil hne
  have hc : c ≠ '+' := ne_of_isDecimal (hwhole c List.mem_cons_self) rfl
  unfold unsigned at hunsigned ⊢
  unfold splitSign
  split
  · exact ⟨rfl, fun d hd => (List.mem_cons.mp hd).symm⟩
  · cases hunsigned
    exact absurd rfl hc
  · rename_i hminus _
    split
    · exact absurd rfl (hminus _)
    · exact ⟨rfl, fun d hd => .inl hd⟩

/-- A number consists of characters of numbers. -/
theorem isNumeral_of_isNumber (h : isNumber word = true) : ∀ c ∈ word, IsNumeral c := by
  obtain ⟨whole, fraction, exponent, hunsigned, -, hwhole, hexponent, hfraction⟩ :=
    exists_parts_of_isNumber h
  intro c hc
  rcases (splitSign_of_isNumber h).2 c hc with hc | rfl
  · rw [hunsigned] at hc
    rcases List.mem_append.mp hc with hc | hc
    · exact .inl (hwhole c hc)
    · rcases List.mem_append.mp hc with hc | hc
      · rcases hfraction with rfl | ⟨digits, rfl, hdigits⟩
        · cases hc
        · rcases List.mem_cons.mp hc with rfl | hc
          · exact .inr (.inr (.inr (.inl rfl)))
          · exact .inl (hdigits c hc)
      · exact (exponent_spec hexponent).1 c hc
  · exact .inr (.inl rfl)

/-- A number without point and exponent is read as a whole number if it is not too long. -/
theorem readInt_of_isNumber {text : String} (h : isNumber text.toList = true)
    (hall : ∀ c ∈ unsigned text.toList, Text.isDecimal c = true) :
    (∃ i, readInt text = .ok i) ∨ ∃ n, digitLimit < n ∧ readInt text = .error (.tooLong n) := by
  obtain ⟨whole, fraction, exponent, hunsigned, hne, -⟩ := exists_parts_of_isNumber h
  have hsome : unsigned text.toList ≠ [] := by
    rw [hunsigned]
    exact List.append_ne_nil_of_left_ne_nil hne _
  obtain ⟨digits, hrow⟩ := exists_digitRow? hall (.inr hsome)
  rw [readInt, dropWhile_isMargin (isNumeral_of_isNumber h)]
  dsimp only
  rw [(splitSign_of_isNumber h).1, hrow]
  dsimp only
  split
  · rename_i hlong
    exact .inr ⟨digits.length, hlong, rfl⟩
  · exact .inl ⟨_, rfl⟩

/-- Digits, perhaps a fraction and perhaps an exponent are read as a decimal. -/
theorem exists_decimal? {whole fraction exponent : List Char} (hne : whole ≠ [])
    (hwhole : ∀ c ∈ whole, Text.isDecimal c = true) (hexponent : isExponent exponent = true)
    (hfraction : fraction = [] ∨ ∃ digits, fraction = '.' :: digits ∧
      ∀ c ∈ digits, Text.isDecimal c = true) :
    ∃ d, decimal? (whole ++ (fraction ++ exponent)) = some d := by
  obtain ⟨-, hhead, e, hread⟩ := exponent_spec hexponent
  obtain ⟨d, ds, hvalues⟩ := exists_filterMap_decimalValue? hwhole hne
  rcases hfraction with rfl | ⟨digits, rfl, hdigits⟩
  · have hspan := spanDigits_append hwhole fun c hc => (hhead c hc).1
    rw [List.nil_append, decimal?, hspan, hvalues]
    dsimp only
    split
    · rename_i more
      exact absurd rfl (hhead '.' rfl).2
    · simp [hread]
  · have hspan := @spanDigits_append _ ('.' :: (digits ++ exponent)) hwhole fun c hc => by
      cases hc
      rfl
    have hmore := spanDigits_append hdigits fun c hc => (hhead c hc).1
    rw [List.cons_append, decimal?, hspan, hvalues]
    simp [hmore, hread]

/-- Every number is read as a decimal. -/
theorem exists_readFloat? {text : String} (h : isNumber text.toList = true) :
    ∃ x, readFloat? text = some x := by
  obtain ⟨whole, fraction, exponent, hunsigned, hne, hwhole, hexponent, hfraction⟩ :=
    exists_parts_of_isNumber h
  have hnumeral := isNumeral_of_isNumber h
  obtain ⟨d, hd⟩ := exists_decimal? hne hwhole hexponent hfraction
  rw [readFloat?, trimMargin_eq hnumeral, dropUnderscores?_eq hnumeral]
  dsimp only
  rw [(splitSign_of_isNumber h).1, hunsigned, hd]
  split
  · exact ⟨_, rfl⟩
  · exact ⟨_, rfl⟩

end Number

/-- **The operand that a number is**: its value, or the refusal of a whole number too long. -/
theorem Script.number_cases {text : String} (h : isNumber text.toList = true) :
    (∃ i, number text = .constant (.int i)) ∨ (∃ x, number text = .constant (.float x)) ∨
      ∃ n, Number.digitLimit < n ∧ number text = .faulty (.invalid (.tooManyDigits n)) := by
  generalize hoperand : number text = operand
  unfold number at hoperand
  extract_lets digits at hoperand
  have hdigits : digits = unsigned text.toList := by
    unfold digits
    split
    · rename_i heq
      exact (congrArg unsigned heq).symm
    · rename_i hother
      exact (unsigned_of_ne hother).symm
  rw [hdigits] at hoperand
  split at hoperand
  · rename_i hall
    rcases Number.readInt_of_isNumber h (List.all_eq_true.mp hall) with ⟨i, hi⟩ | ⟨n, hn, htoo⟩
    · rw [hi] at hoperand
      exact .inl ⟨i, hoperand.symm⟩
    · rw [htoo] at hoperand
      exact .inr (.inr ⟨n, hn, hoperand.symm⟩)
  · obtain ⟨x, hx⟩ := Number.exists_readFloat? h
    rw [hx] at hoperand
    exact .inr (.inl ⟨x, hoperand.symm⟩)

/-! ## Tokens -/

/-- A token that is a number is read as one. -/
theorem Lexer.Begins.isNumber {commandNext : Bool} {text after : List Char}
    (h : Begins commandNext .number text after) : isNumber text = true := by
  obtain ⟨c, more, rfl, -⟩ := id h
  have hrule := h.rule
  generalize hn : more.length = n at hrule
  generalize hkind : TokenKind.number = kind at hrule
  cases hrule with
  | mark hmark =>
    subst hkind
    unfold markKind? at hmark
    split at hmark <;> cases hmark
  | word hword =>
    have htail : wordTail (more ++ after) = more := by
      have hprefix : wordTail (more ++ after) <+: more ++ after := List.takeWhile_prefix _
      rw [List.prefix_iff_eq_take.mp hprefix, ← hn, List.take_left]
    rw [htail, wordKind] at hkind
    split at hkind
    · rename_i hnumber
      exact hnumber
    · split at hkind <;> cases hkind
  | _ => cases hkind

/-- The tokens of a text that are numbers are read as numbers. -/
theorem Token.isNumber_text {source : String} {ts : List Token} (h : tokenize source = .ok ts)
    {t : Token} (ht : t ∈ ts) (hkind : t.kind = .number) : isNumber t.text.toList = true := by
  obtain ⟨row, -, hrow, rfl⟩ := tokenize_eq_ok_iff.mp h
  obtain ⟨next, after, hbegins⟩ := hrow.exists_begins ht
  rw [hkind] at hbegins
  exact hbegins.isNumber

end TagScript
