import TagScript.Build.Argument

/-!
# Values that are written like parameters

An argument is written like a parameter if its text is a hyphen with a name character behind it that
is no digit. Of numbers only negative infinity is: all other negative numbers have a digit behind
their sign. Nodes, lists and templates are shown with a word or a bracket in front, but the text of
a block is what was written between its braces.

* `Value.CanBeValue` — the kinds of values that attributes are made of.
* `Value.LooksLikeFlag` — the two kinds of them that are written like parameters.
* **`Value.isFlag_iff`** — there are no others.
-/

namespace TagScript

theorem Text.isDecimal_of_isDigit {c : Char} (h : c.isDigit = true) : isDecimal c = true := by
  have hbelow : c.toNat < 128 := by
    simp only [Char.isDigit, ge_iff_le, Bool.and_eq_true, decide_eq_true_eq] at h
    have hle := UInt32.le_iff_toNat_le.mp h.2
    exact Nat.lt_of_le_of_lt hle (by decide)
  rw [isDecimal, decimalValue?, if_pos hbelow, if_pos h]
  rfl

/-! ## Texts of numbers -/

/-- Whether a text begins with a digit. -/
def BeginsWithDigit (cs : List Char) : Prop :=
  ∃ c rest, cs = c :: rest ∧ c.isDigit = true

theorem BeginsWithDigit.append {cs : List Char} (h : BeginsWithDigit cs) (more : List Char) :
    BeginsWithDigit (cs ++ more) := by
  obtain ⟨c, rest, rfl, hc⟩ := h
  exact ⟨c, rest ++ more, rfl, hc⟩

theorem beginsWithDigit_toDigits (n : Nat) : BeginsWithDigit (Nat.toDigits 10 n) := by
  cases hdigits : Nat.toDigits 10 n with
  | nil => exact absurd hdigits Nat.toDigits_ne_nil
  | cons c rest =>
    have hmem : c ∈ Nat.toDigits 10 n := hdigits ▸ List.mem_cons_self ..
    exact ⟨c, rest, rfl, Nat.isDigit_of_mem_toDigits (by decide) (by decide) hmem⟩

theorem Number.beginsWithDigit_render (layout : Layout) (digits : Nat) (exponent : Int) :
    BeginsWithDigit (layout.render digits exponent) := by
  have hdigits := beginsWithDigit_toDigits digits
  unfold Layout.render
  dsimp only
  split
  · split
    · exact (hdigits.append _).append _
    · split
      · rename_i hpoint
        obtain ⟨c, rest, hds, hc⟩ := hdigits
        rw [hds] at hpoint ⊢
        obtain ⟨k, hk⟩ : ∃ k, ((↑(c :: rest).length + exponent : Int)).toNat = k + 1 :=
          ⟨((↑(c :: rest).length + exponent : Int)).toNat - 1, by omega⟩
        rw [hk]
        exact ⟨c, _, rfl, hc⟩
      · exact ⟨'0', _, rfl, by decide⟩
  · obtain ⟨c, rest, hds, hc⟩ := hdigits
    rw [hds]
    cases rest with
    | nil => exact ⟨c, _, rfl, hc⟩
    | cons d rest => exact ⟨c, _, rfl, hc⟩

/-- A finite number is written with a digit in front, or with a digit behind its sign. -/
theorem Number.floatText_finite {x : Float} {negative : Bool} {mantissa : Nat} {exponent : Int}
    (h : Binary.ofFloat x = .finite negative mantissa exponent) :
    ∃ cs, BeginsWithDigit cs ∧
      (floatText x).toList = if negative then '-' :: cs else cs := by
  unfold floatText
  rw [h]
  dsimp only
  refine ⟨_, ?_, String.toList_ofList⟩
  split
  · exact ⟨'0', _, rfl, by decide⟩
  · exact beginsWithDigit_render ..

/-- A whole number is written with a digit in front, or with a digit behind its sign. -/
theorem toList_toString_int (i : Int) :
    ∃ cs, BeginsWithDigit cs ∧ ((toString i).toList = cs ∨ (toString i).toList = '-' :: cs) := by
  cases i with
  | ofNat n =>
    refine ⟨_, beginsWithDigit_toDigits n, .inl ?_⟩
    rw [show toString (Int.ofNat n) = toString n from rfl, Nat.toString_eq_ofList_toDigits,
      String.toList_ofList]
  | negSucc n =>
    refine ⟨_, beginsWithDigit_toDigits (n + 1), .inr ?_⟩
    rw [show toString (Int.negSucc n) = "-" ++ toString (n + 1) from rfl,
      Nat.toString_eq_ofList_toDigits]
    simp only [String.toList_append, String.toList_ofList]
    rfl

namespace Value

/-! ## Values that look like parameters -/

/-- Whether a value is of a kind that attributes are made of: a number, a truth value, a node, a row
or content. -/
def CanBeValue : Value → Prop
  | .int _ | .float _ | .bool _ | .text _ | .element _ | .list _ | .tuple _ => True
  | v => v.isContentBlock = true

/-- Whether a value of these kinds is written like a parameter: negative infinity, or a block whose
text begins like one. -/
def LooksLikeFlag : Value → Prop
  | .float x => Number.Binary.ofFloat x = .infinite true
  | .block b => ∃ c rest, b.source.toList = '-' :: c :: rest ∧ Text.isNameChar c = true ∧
      Text.isDecimal c = false
  | _ => False

theorem isFlag_iff_plain {v : Value} (h : v ≠ .null) :
    v.isFlag = true ↔ ∃ c rest, v.plain.toList = '-' :: c :: rest ∧ Text.isNameChar c = true ∧
      Text.isDecimal c = false := by
  unfold isFlag
  split
  · exact absurd rfl h
  · split
    · rename_i c rest hplain
      rw [hplain]
      constructor
      · intro hv
        simp only [Bool.and_eq_true, Bool.not_eq_true'] at hv
        exact ⟨c, rest, rfl, hv.1, hv.2⟩
      · rintro ⟨_, _, heq, hname, hdigit⟩
        cases heq
        simp [hname, hdigit]
    · rename_i hother
      constructor
      · intro hv
        cases hv
      · rintro ⟨c, rest, hplain, -, -⟩
        exact absurd hplain (hother c rest)

/-- A value whose text begins with another character is not written like a parameter. -/
theorem isFlag_of_head {v : Value} {c : Char} {rest : List Char} (h : v ≠ .null)
    (hplain : v.plain.toList = c :: rest) (hc : c ≠ '-') : v.isFlag = false := by
  by_cases hv : v.isFlag = true
  · obtain ⟨d, more, heq, -⟩ := (isFlag_iff_plain h).mp hv
    rw [hplain] at heq
    exact absurd (List.cons.inj heq).1 hc
  · exact Bool.eq_false_iff.mpr hv

/-- Nor is one that is shown with a word in front. -/
theorem isFlag_of_beginning {v : Value} (first : String) (h : v ≠ .null)
    (hplain : first.toList <+: v.plain.toList)
    (hfirst : first.toList.head?.any (· ≠ '-') = true) : v.isFlag = false := by
  obtain ⟨rest, hplain⟩ := hplain
  replace hplain := hplain.symm
  cases hcs : first.toList with
  | nil =>
    rw [hcs] at hfirst
    cases hfirst
  | cons c cs =>
    rw [hcs] at hplain hfirst
    exact isFlag_of_head h hplain (by simpa using hfirst)

/-- Nor is one with a digit in front, or behind its sign. -/
theorem isFlag_of_digit {v : Value} {cs : List Char} (h : v ≠ .null) (hdigit : BeginsWithDigit cs)
    (hplain : v.plain.toList = cs ∨ v.plain.toList = '-' :: cs) : v.isFlag = false := by
  obtain ⟨c, rest, rfl, hc⟩ := hdigit
  rcases hplain with hplain | hplain
  · refine isFlag_of_head h hplain fun heq => ?_
    subst heq
    cases hc
  · by_cases hv : v.isFlag = true
    · obtain ⟨d, more, heq, -, hnot⟩ := (isFlag_iff_plain h).mp hv
      rw [hplain] at heq
      cases heq
      rw [Text.isDecimal_of_isDigit hc] at hnot
      cases hnot
    · exact Bool.eq_false_iff.mpr hv

/-- **Only negative infinity and some blocks are written like parameters** among the values that
attributes are made of. -/
theorem isFlag_iff {v : Value} (h : v.CanBeValue) : v.isFlag = true ↔ v.LooksLikeFlag := by
  have hnot {p : Prop} (hp : ¬p) (hfalse : v.isFlag = false) : v.isFlag = true ↔ p :=
    ⟨fun hv => absurd (hfalse.symm.trans hv) Bool.false_ne_true, fun h => absurd h hp⟩
  have hnull : v ≠ .null := by
    rintro rfl
    cases h
  cases v with
  | int i =>
    obtain ⟨cs, hdigit, hplain⟩ := toList_toString_int i
    exact hnot id (isFlag_of_digit hnull hdigit hplain)
  | float x =>
    have hplain : (Value.float x).plain = Number.floatText x := rfl
    show _ ↔ Number.Binary.ofFloat x = .infinite true
    cases hx : Number.Binary.ofFloat x with
    | nan =>
      have htext : (Value.float x).plain = "nan" := by rw [hplain, Number.floatText, hx]
      exact hnot (by simp)
        (isFlag_of_beginning "nan" hnull (by simp only [htext, List.prefix_refl]) (by decide))
    | infinite negative =>
      cases negative with
      | true =>
        have htext : (Value.float x).plain = "-inf" := by rw [hplain, Number.floatText, hx]; rfl
        have hflag : (Value.float x).isFlag = true :=
          (isFlag_iff_plain hnull).mpr
            ⟨'i', ['n', 'f'], by rw [htext]; rfl, by decide, by decide⟩
        exact ⟨fun _ => rfl, fun _ => hflag⟩
      | false =>
        have htext : (Value.float x).plain = "inf" := by rw [hplain, Number.floatText, hx]; rfl
        exact hnot (by simp)
          (isFlag_of_beginning "inf" hnull (by simp only [htext, List.prefix_refl]) (by decide))
    | finite negative mantissa exponent =>
      obtain ⟨cs, hdigit, htext⟩ := Number.floatText_finite hx
      refine hnot (by simp) (isFlag_of_digit hnull hdigit ?_)
      rw [hplain, htext]
      cases negative with
      | true => exact .inr rfl
      | false => exact .inl rfl
  | bool b => cases b <;> exact hnot id (by decide)
  | text s =>
    refine hnot id (isFlag_of_beginning "Text(value=" hnull ?_ (by decide))
    unfold plain shown Node.describe
    simp only [String.toList_append, List.append_assoc, List.prefix_append]
  | element e =>
    refine hnot id (isFlag_of_beginning "Element(tag=" hnull ?_ (by decide))
    unfold plain shown Element.describe Node.ofElement Node.describe
    simp only [String.toList_append, List.append_assoc, List.prefix_append]
  | list vs =>
    refine hnot id (isFlag_of_beginning "[" hnull ?_ (by decide))
    simp only [plain, shown, String.toList_append, List.append_assoc, List.prefix_append]
  | tuple vs =>
    refine hnot id (isFlag_of_beginning "(" hnull ?_ (by decide))
    show _ <+: (Node.describeRow (shownAll vs)).toList
    unfold Node.describeRow
    split <;> simp only [String.toList_append, List.append_assoc, List.prefix_append]
  | block b => exact isFlag_iff_plain hnull
  | template t =>
    refine hnot id (isFlag_of_beginning "CompiledBlock(source=" hnull ?_ (by decide))
    unfold plain shown Template.describe
    simp only [String.toList_append, List.append_assoc, List.prefix_append]
  | routine mode steps =>
    have htext : (routine mode steps).plain = "<python block>" := rfl
    exact hnot id (isFlag_of_beginning "<python block>" hnull
      (by simp only [htext, List.prefix_refl]) (by decide))
  | operation o =>
    have htext : (operation o).plain = "<operation>" := rfl
    exact hnot id (isFlag_of_beginning "<operation>" hnull
      (by simp only [htext, List.prefix_refl]) (by decide))
  | _ => cases h

end Value

end TagScript
