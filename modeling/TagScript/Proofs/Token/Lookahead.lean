import TagScript.Proofs.Token.Stretch

/-!
# How far a token looks ahead

The rules by which tokens are read look at the whole rest of the text. Here is what they depend on:

* `Fits` — what may follow a token, by the kind of the token. It looks at two characters at most.
* **`rule_append_iff`** — a token is read before a text if and only if it is read where the text
  ends with it, and the text fits behind it.
-/

namespace TagScript.Lexer

open Text (isNameChar isLetter isLetterOrNumber isDigit)

/-- Whether a text is empty or begins with a character that fails a test. -/
def Stops (p : Char → Bool) (after : List Char) : Prop :=
  ∀ c ∈ after.head?, p c = false

/-- The characters of a parameter behind its hyphen. -/
def isParameterChar (c : Char) : Bool :=
  isNameChar c || c == '-' || c == '.' || c == ':'

/-- Whether what follows a token leaves the token as it is. -/
def Fits (kind : TokenKind) (text after : List Char) : Prop :=
  match kind with
  | .command | .argument | .number => Stops (fun c => !isDelimiter c) after
  | .parameter => Stops isParameterChar after
  | .string => after.head? ≠ text.head?
  | .variable => if text.getLast? = some '}' then members after = 0 else memberTail after = 0
  | .comment => Stops (· ≠ '\n') after
  | .continuation => text.getLast? = some '\n' ∨ after = []
  | _ => True

@[simp] theorem stops_nil (p : Char → Bool) : Stops p [] := by simp [Stops]

@[simp] theorem stops_cons {p : Char → Bool} {c : Char} {after : List Char} :
    Stops p (c :: after) ↔ p c = false := by simp [Stops]

/-- The characters that pass a test end with `xs` exactly if all of `xs` pass it and what follows
does not go on. -/
theorem length_takeWhile_append {p : Char → Bool} {xs ys : List Char} :
    ((xs ++ ys).takeWhile p).length = xs.length ↔
      (xs.takeWhile p).length = xs.length ∧ Stops p ys := by
  rw [List.takeWhile_append]
  split
  case isTrue hall =>
    cases ys with
    | nil => simp [hall]
    | cons y ys =>
      cases hy : p y with
      | false => simp [hall, hy]
      | true => simp [hy]
  case isFalse hall => simp [hall]

/-! ## Strings -/

theorem doubleQuoted?_ne_zero (cs : List Char) : doubleQuoted? cs ≠ some 0 := by
  fun_cases doubleQuoted? cs <;> simp

theorem singleQuoted?_ne_zero (cs : List Char) : singleQuoted? cs ≠ some 0 := by
  fun_cases singleQuoted? cs <;> simp

theorem map_add_eq_some {o : Option Nat} {n k : Nat} :
    o.map (· + k) = some (n + k) ↔ o = some n := by
  cases o <;> simp

theorem doubleQuoted?_append (xs ys : List Char) :
    doubleQuoted? (xs ++ ys) = some xs.length ↔
      doubleQuoted? xs = some xs.length ∧ ys.head? ≠ some '"' := by
  fun_induction doubleQuoted? xs with
  | case1 => simpa using doubleQuoted?_ne_zero ys
  | case2 d rest ih =>
    simp only [List.cons_append, doubleQuoted?, List.length_cons]
    rw [map_add_eq_some, map_add_eq_some, ih]
  | case3 rest ih =>
    simp only [List.cons_append, doubleQuoted?, List.length_cons]
    rw [map_add_eq_some, map_add_eq_some, ih]
  | case4 rest hrest =>
    cases rest with
    | nil =>
      cases ys with
      | nil => simp [doubleQuoted?]
      | cons y ys =>
        by_cases hy : y = '"'
        · simp [doubleQuoted?, hy]
        · simp [doubleQuoted?, hy]
    | cons r rest =>
      have hr : r ≠ '"' := fun hr => hrest rest (by rw [hr])
      simp [doubleQuoted?, hr]
  | case5 c rest h₁ h₂ h₃ ih =>
    have hc : c ≠ '"' := fun hc => h₃ hc
    by_cases hb : c = '`'
    · -- a backtick at the very end takes the character that follows with it
      cases rest with
      | nil =>
        cases ys with
        | nil => simp [doubleQuoted?, hb]
        | cons y ys => simp [doubleQuoted?, hb, Option.map_eq_some_iff]
      | cons r rest => exact absurd rfl (h₁ r rest hb)
    · have hstep (zs : List Char) : doubleQuoted? (c :: zs) = (doubleQuoted? zs).map (· + 1) := by
        simp [doubleQuoted?, hb, hc]
      rw [List.cons_append, hstep, List.length_cons, map_add_eq_some, map_add_eq_some, ih]

theorem singleQuoted?_append (xs ys : List Char) :
    singleQuoted? (xs ++ ys) = some xs.length ↔
      singleQuoted? xs = some xs.length ∧ ys.head? ≠ some '\'' := by
  fun_induction singleQuoted? xs with
  | case1 => simpa using singleQuoted?_ne_zero ys
  | case2 rest ih =>
    simp only [List.cons_append, singleQuoted?, List.length_cons]
    rw [map_add_eq_some, map_add_eq_some, ih]
  | case3 rest hrest =>
    cases rest with
    | nil =>
      cases ys with
      | nil => simp [singleQuoted?]
      | cons y ys => by_cases hy : y = '\'' <;> simp [singleQuoted?, hy]
    | cons r rest =>
      have hr : r ≠ '\'' := fun hr => hrest rest (by rw [hr])
      simp [singleQuoted?, hr]
  | case4 c rest h₁ h₂ ih =>
    have hc : c ≠ '\'' := fun hc => h₂ hc
    have hstep (zs : List Char) : singleQuoted? (c :: zs) = (singleQuoted? zs).map (· + 1) := by
      simp [singleQuoted?, hc]
    rw [List.cons_append, hstep, List.length_cons, map_add_eq_some, map_add_eq_some, ih]

/-! ## Variables -/

/-- What stands before the first `c` of a text. -/
theorem takeWhile_ne_append {c : Char} {xs ys : List Char} (h : c ∉ xs) :
    (xs ++ c :: ys).takeWhile (· ≠ c) = xs := by
  have hxs : ∀ a ∈ xs, decide (a ≠ c) = true := fun a ha =>
    decide_eq_true fun hac => h (hac ▸ ha)
  rw [List.takeWhile_append_of_pos hxs]
  simp

theorem memberTail_eq_zero_of_not {c : Char} {rest : List Char} (h : isNameChar c = false)
    (hdot : c ≠ '.') : memberTail (c :: rest) = 0 := by
  simp [memberTail, h, hdot]

theorem memberTail_append (xs ys : List Char) :
    memberTail (xs ++ ys) = xs.length ↔ memberTail xs = xs.length ∧ memberTail ys = 0 := by
  induction xs with
  | nil => simp [memberTail]
  | cons x xs ih =>
    cases hx : isNameChar x with
    | true => simp [memberTail, hx, ih]
    | false =>
      by_cases hdot : x = '.'
      · subst hdot
        cases xs with
        | nil =>
          cases ys with
          | nil => simp [memberTail, hx]
          | cons y ys => cases hy : isNameChar y <;> simp [memberTail, hx, hy]
        | cons z zs =>
          have hstep (ws : List Char) : memberTail ('.' :: z :: ws) =
              if isNameChar z = true then memberTail (z :: ws) + 1 else 0 := by
            rw [memberTail, if_neg (by simp [hx])]
            simp
          rw [List.cons_append, List.cons_append, hstep, hstep, ← List.cons_append]
          split
          · simpa using ih
          · simp
      · rw [List.cons_append, memberTail_eq_zero_of_not hx hdot, memberTail_eq_zero_of_not hx hdot]
        simp

/-- A row of names and points does not end in a brace. -/
theorem getLast?_ne_of_memberTail {xs : List Char} (h : memberTail xs = xs.length) :
    xs.getLast? ≠ some '}' := by
  have hall : ∀ c ∈ xs, isNameChar c = true ∨ c = '.' := by
    induction xs with
    | nil => simp
    | cons x xs ih =>
      rw [memberTail] at h
      split at h
      · rename_i hx
        simpa [hx] using ih (Nat.add_right_cancel h)
      · split at h
        · rename_i hx
          simpa [hx.1] using ih (Nat.add_right_cancel h)
        · cases h
  intro hlast
  rcases hall _ (List.mem_of_getLast? hlast) with hname | hdot
  · exact absurd hname (by decide)
  · exact absurd hdot (by decide)

theorem members_append (xs ys : List Char) :
    members (xs ++ ys) = xs.length ↔
      members xs = xs.length ∧ if xs = [] then members ys = 0 else memberTail ys = 0 := by
  cases xs with
  | nil => simp [members]
  | cons x xs =>
    by_cases hdot : x = '.'
    · simpa [members, hdot] using memberTail_append ('.' :: xs) ys
    · simp [members, hdot]

theorem memberTail_of_members {xs : List Char} (h : members xs = xs.length) :
    memberTail xs = xs.length := by
  unfold members at h
  split at h
  · exact h
  · rw [List.length_eq_zero_iff.mp h.symm]
    rfl

theorem variableLength_brace {name : List Char} (h : '}' ∉ name) (rest : List Char) :
    variableLength ('{' :: (name ++ '}' :: rest)) =
      if '\n' ∈ name then .error .unterminatedVariable
      else .ok (name.length + 2 + members rest) := by
  have hmem : (name ++ '}' :: rest).contains '}' = true := by simp
  have hdrop : (name ++ '}' :: rest).drop (name.length + 1) = rest := by simp
  simp only [variableLength, takeWhile_ne_append h, hmem, hdrop, Bool.not_true, Bool.false_or,
    List.contains_iff_mem]

theorem variableLength_unclosed {name : List Char} (h : '}' ∉ name) :
    variableLength ('{' :: name) = .error .unterminatedVariable := by
  simp [variableLength, h]

theorem variableLength_ne_zero (cs : List Char) : variableLength cs ≠ .ok 0 := by
  unfold variableLength
  split
  · dsimp only
    split <;> simp
  · rename_i c rest _
    cases hc : isNameChar c <;> simp [memberTail, hc]
  · simp

theorem variableLength_name {x : Char} (h : x ≠ '{') (xs : List Char) :
    variableLength (x :: xs) =
      if isNameChar x = true then .ok (memberTail (x :: xs)) else .error .missingVariableName := by
  unfold variableLength
  split
  · rename_i heq
    exact absurd (List.cons.inj heq).1 h
  · rename_i heq
    rw [(List.cons.inj heq).1]
  · rename_i heq
    cases heq

/-- The characters of a variable end with `xs` exactly if they do so where the text ends, and what
follows does not go on. -/
theorem variableLength_append (xs ys : List Char) :
    variableLength (xs ++ ys) = .ok xs.length ↔
      variableLength xs = .ok xs.length ∧
        if xs.getLast? = some '}' then members ys = 0 else memberTail ys = 0 := by
  cases xs with
  | nil => simp [variableLength_ne_zero]
  | cons x xs =>
    by_cases hx : x = '{'
    · subst hx
      by_cases hmem : '}' ∈ xs
      · obtain ⟨name, rest, rfl, hname⟩ := List.eq_append_cons_of_mem hmem
        have hlast : ('{' :: (name ++ '}' :: rest)).getLast? = some '}' ↔
            rest = [] ∨ rest.getLast? = some '}' := by
          rw [← List.cons_append, List.getLast?_append]
          cases rest <;> simp [List.getLast?_cons_cons]
        have hlen : ('{' :: (name ++ '}' :: rest)).length = name.length + 2 + rest.length := by
          simp
          omega
        rw [List.cons_append, List.append_assoc, List.cons_append, variableLength_brace hname,
          variableLength_brace hname, hlen]
        split
        · simp
        · simp only [Except.ok.injEq, Nat.add_left_cancel_iff, members_append]
          refine and_congr_right fun hrest => ?_
          have hend := getLast?_ne_of_memberTail (memberTail_of_members hrest)
          simp only [hlast, hend, or_false]
      · rw [variableLength_unclosed hmem]
        by_cases hys : '}' ∈ ys
        · obtain ⟨name, rest, rfl, hname⟩ := List.eq_append_cons_of_mem hys
          have hnot : '}' ∉ xs ++ name := by simp [hmem, hname]
          rw [List.cons_append, ← List.append_assoc, variableLength_brace hnot]
          split
          · simp
          · simp only [Except.ok.injEq, List.length_append, List.length_cons, reduceCtorEq,
              false_and, iff_false]
            omega
        · have hnot : '}' ∉ xs ++ ys := by simp [hmem, hys]
          simp [variableLength_unclosed hnot]
    · rw [List.cons_append, variableLength_name hx, variableLength_name hx]
      split
      case isTrue hname =>
        have happend := memberTail_append (x :: xs) ys
        simp only [Except.ok.injEq]
        rw [← List.cons_append, happend]
        refine and_congr_right fun htail => ?_
        rw [if_neg (getLast?_ne_of_memberTail htail)]
      case isFalse => simp

/-! ## Casts, parameters and line joins -/

theorem castLength_closed {name : List Char} (h : ']' ∉ name) (rest : List Char) :
    castLength (name ++ ']' :: rest) =
      if isTypeName name = true then .ok (name.length + 1)
      else .error (.invalidTypeName (String.ofList name)) := by
  have hmem : (name ++ ']' :: rest).contains ']' = true := by simp
  simp only [castLength, takeWhile_ne_append h, hmem, if_true]

theorem castLength_append (xs ys : List Char) :
    castLength (xs ++ ys) = .ok xs.length ↔ castLength xs = .ok xs.length := by
  by_cases hmem : ']' ∈ xs
  · obtain ⟨name, rest, rfl, hname⟩ := List.eq_append_cons_of_mem hmem
    rw [List.append_assoc, List.cons_append, castLength_closed hname, castLength_closed hname]
  · have hxs : castLength xs = .error .unterminatedCast := by simp [castLength, hmem]
    rw [hxs]
    by_cases hys : ']' ∈ ys
    · obtain ⟨name, rest, rfl, hname⟩ := List.eq_append_cons_of_mem hys
      have hnot : ']' ∉ xs ++ name := by simp [hmem, hname]
      rw [← List.append_assoc, castLength_closed hnot]
      split
      · simp only [Except.ok.injEq, List.length_append, reduceCtorEq, iff_false]
        omega
      · simp
    · simp [castLength, hmem, hys]

theorem isParameterChar_of_first {c : Char} (h : (isLetter c || c == '_') = true) :
    isParameterChar c = true := by
  have hname : isNameChar c = true := by
    rcases Bool.or_eq_true _ _ ▸ h with hletter | hscore
    · unfold isLetter at hletter
      unfold isNameChar isLetterOrNumber
      split at hletter <;> simp_all [Char.isAlphanum]
    · simp [isNameChar, hscore]
  simp [isParameterChar, hname]

theorem parameterLength_append (xs ys : List Char) :
    parameterLength (xs ++ ys) = .ok xs.length ↔
      parameterLength xs = .ok xs.length ∧ Stops isParameterChar ys := by
  have hcons (c : Char) (cs : List Char) : parameterLength (c :: cs) =
      if isLetter c || c == '_' then .ok ((c :: cs).takeWhile isParameterChar).length
      else .error .missingParameterName := rfl
  cases xs with
  | nil =>
    cases ys with
    | nil => simp [parameterLength]
    | cons y ys =>
      rw [List.nil_append, hcons]
      split
      · rename_i hy
        have hpar := isParameterChar_of_first hy
        simp [parameterLength, hpar]
      · simp [parameterLength]
  | cons x xs =>
    rw [List.cons_append, hcons, hcons]
    split
    · simp only [Except.ok.injEq]
      exact @length_takeWhile_append isParameterChar (x :: xs) ys
    · simp

theorem continuationLength_blanks {blanks : List Char}
    (h : ∀ c ∈ blanks, isInlineSpace c = true) : continuationLength blanks = .ok blanks.length := by
  have htake : blanks.takeWhile isInlineSpace = blanks := by
    simpa using @List.takeWhile_append_of_pos _ _ blanks [] h
  simp [continuationLength, htake]

/-- The blanks of a line join end where something else begins. -/
theorem continuationLength_cons {blanks : List Char} (h : ∀ c ∈ blanks, isInlineSpace c = true)
    {c : Char} (hc : isInlineSpace c = false) (rest : List Char) :
    continuationLength (blanks ++ c :: rest) =
      if c = '\n' then .ok (blanks.length + 1) else .error .strayBacktick := by
  have htake : (blanks ++ c :: rest).takeWhile isInlineSpace = blanks := by
    rw [List.takeWhile_append_of_pos h]
    simp [hc]
  simp only [continuationLength, htake, List.drop_left]

/-- A text is blanks and perhaps something that is none. -/
theorem exists_blanks (cs : List Char) : ∃ blanks rest, cs = blanks ++ rest ∧
    (∀ c ∈ blanks, isInlineSpace c = true) ∧ Stops isInlineSpace rest := by
  induction cs with
  | nil => exact ⟨[], [], rfl, by simp, by simp⟩
  | cons c cs ih =>
    obtain ⟨blanks, rest, rfl, hblanks, hrest⟩ := ih
    cases hc : isInlineSpace c with
    | true => exact ⟨c :: blanks, rest, rfl, by simpa [hc] using hblanks, hrest⟩
    | false => exact ⟨[], c :: (blanks ++ rest), rfl, by simp, by simpa using hc⟩

theorem continuationLength_append (xs ys : List Char) :
    continuationLength (xs ++ ys) = .ok xs.length ↔
      continuationLength xs = .ok xs.length ∧ (xs.getLast? = some '\n' ∨ ys = []) := by
  obtain ⟨blanks, rest, rfl, hblanks, hrest⟩ := exists_blanks xs
  cases rest with
  | nil =>
    rw [List.append_nil, continuationLength_blanks hblanks]
    have hlast : blanks.getLast? ≠ some '\n' := fun h =>
      absurd (hblanks _ (List.mem_of_getLast? h)) (by decide)
    simp only [hlast, false_or, true_and]
    obtain ⟨more, after, rfl, hmore, hafter⟩ := exists_blanks ys
    have hall : ∀ c ∈ blanks ++ more, isInlineSpace c = true := by
      simpa [or_imp, forall_and] using ⟨hblanks, hmore⟩
    rw [← List.append_assoc]
    cases after with
    | nil =>
      rw [List.append_nil, continuationLength_blanks hall]
      simp
    | cons c after =>
      rw [continuationLength_cons hall (by simpa using hafter)]
      split
      · simp
        omega
      · simp
  | cons c rest =>
    have hc : isInlineSpace c = false := by simpa using hrest
    rw [List.append_assoc, List.cons_append, continuationLength_cons hblanks hc,
      continuationLength_cons hblanks hc]
    split
    · rename_i hnl
      simp only [Except.ok.injEq, List.length_append, List.length_cons]
      constructor
      · intro hlen
        refine ⟨hlen, .inl ?_⟩
        have hnil : rest = [] := List.length_eq_zero_iff.mp (by omega)
        simp [hnl, hnil]
      · exact fun h => h.1
    · simp

/-! ## All tokens -/

theorem beginsNumber_cons {c : Char} (h : c ≠ '.') (xs : List Char) :
    beginsNumber (c :: xs) = isDigit c := by
  unfold beginsNumber
  split
  · rename_i heq
    exact absurd (List.cons.inj heq).1 h
  · rename_i heq
    rw [(List.cons.inj heq).1]
  · rename_i heq
    cases heq

theorem isDigit_of_isDelimiter {c : Char} (h : isDelimiter c = true) :
    c ≠ '.' ∧ isDigit c = false := by
  rw [isDelimiter_iff] at h
  rcases h with rfl | rfl | rfl | rfl | rfl | rfl | rfl | rfl | rfl | rfl | rfl | rfl | rfl | rfl |
    rfl | rfl | rfl <;> decide

/-- Whether a hyphen begins a number is seen before the next delimiter. -/
theorem beginsNumber_append {xs ys : List Char} (h : Stops (fun c => !isDelimiter c) ys) :
    beginsNumber (xs ++ ys) = beginsNumber xs := by
  have hys : beginsNumber ys = false := by
    cases ys with
    | nil => rfl
    | cons y ys =>
      have hy := isDigit_of_isDelimiter (by simpa using h)
      rw [beginsNumber_cons hy.1, hy.2]
  rcases xs with _ | ⟨x, xs⟩
  · exact hys
  · by_cases hx : x = '.'
    · subst hx
      rcases xs with _ | ⟨z, xs⟩
      · cases ys with
        | nil => rfl
        | cons y ys =>
          have hy := isDigit_of_isDelimiter (by simpa using h)
          simpa [beginsNumber, hy.2] using show isDigit '.' = false by decide
      · rfl
    · rw [List.cons_append, beginsNumber_cons hx, beginsNumber_cons hx]

theorem getLast?_cons_of_ne {c d : Char} (h : c ≠ d) (more : List Char) :
    (c :: more).getLast? = some d ↔ more.getLast? = some d := by
  cases more with
  | nil => simp [h]
  | cons m more => rw [List.getLast?_cons_cons]

theorem ne_point_of_first {c : Char} (h : (isLetter c || c == '_') = true) : c ≠ '.' := by
  rintro rfl
  exact absurd h (by decide)

theorem beginsWord_append {c : Char} {xs ys : List Char} (h : Stops (fun c => !isDelimiter c) ys) :
    beginsWord c (xs ++ ys) = beginsWord c xs := by
  simp only [beginsWord, beginsNumber_append h]

theorem fits_mark {c : Char} {kind : TokenKind} (h : markKind? c = some kind)
    (text after : List Char) : Fits kind text after := by
  unfold markKind? at h
  split at h <;> first | cases h; trivial | cases h

theorem fits_wordKind {commandNext : Bool} {word text after : List Char} :
    Fits (wordKind commandNext word) text after ↔ Stops (fun c => !isDelimiter c) after := by
  unfold wordKind
  split
  · rfl
  · split <;> rfl

theorem wordTail_append {more after : List Char}
    (h : (wordTail (more ++ after)).length = more.length) :
    wordTail (more ++ after) = more ∧ wordTail more = more ∧
      Stops (fun c => !isDelimiter c) after := by
  obtain ⟨hmore, hafter⟩ := length_takeWhile_append.mp h
  have htail : wordTail more = more :=
    (List.takeWhile_prefix _).eq_of_length hmore
  have happend : wordTail (more ++ after) = more :=
    List.prefix_of_prefix_length_le (List.takeWhile_prefix _) (List.prefix_append more after)
      (Nat.le_of_eq h) |>.eq_of_length h
  exact ⟨happend, htail, hafter⟩

/-- Whether a hyphen begins a parameter is seen at the character behind it. -/
theorem beginsNumber_append_of_parameter {xs : List Char} {n : Nat}
    (h : parameterLength xs = .ok n) (ys : List Char) :
    beginsNumber (xs ++ ys) = beginsNumber xs := by
  cases xs with
  | nil => cases h
  | cons x xs =>
    rw [parameterLength] at h
    split at h
    · rename_i hx
      rw [List.cons_append, beginsNumber_cons (ne_point_of_first hx),
        beginsNumber_cons (ne_point_of_first hx)]
    · cases h

/-- **A token is read before a text if and only if it is read where the text ends with it, and the
text fits behind it.** -/
theorem rule_append_iff {commandNext : Bool} {c : Char} {more after : List Char}
    {kind : TokenKind} :
    Rule commandNext c (more ++ after) kind more.length ↔
      Rule commandNext c more kind more.length ∧ Fits kind (c :: more) after := by
  constructor
  · intro h
    generalize hrest : more ++ after = rest at h
    generalize hn : more.length = n at h
    cases h with
    | mark h => exact ⟨.mark h, fits_mark h _ _⟩
    | remark =>
      subst hrest
      obtain ⟨hmore, hafter⟩ := length_takeWhile_append.mp hn.symm
      rw [← hn, ← hmore]
      exact ⟨.remark, hafter⟩
    | join h =>
      subst hrest hn
      obtain ⟨hj, hafter⟩ := (continuationLength_append more after).mp h
      refine ⟨.join hj, ?_⟩
      rwa [Fits, getLast?_cons_of_ne (by decide)]
    | doubleQuote h =>
      subst hrest hn
      obtain ⟨hq, hafter⟩ := (doubleQuoted?_append more after).mp h
      exact ⟨.doubleQuote hq, by simpa [Fits] using hafter⟩
    | apostrophe h =>
      subst hrest hn
      obtain ⟨hq, hafter⟩ := (singleQuoted?_append more after).mp h
      exact ⟨.apostrophe hq, by simpa [Fits] using hafter⟩
    | dollar h =>
      subst hrest hn
      obtain ⟨hv, hafter⟩ := (variableLength_append more after).mp h
      refine ⟨.dollar hv, ?_⟩
      simpa only [Fits, getLast?_cons_of_ne (show '$' ≠ '}' by decide)] using hafter
    | square h =>
      subst hrest hn
      exact ⟨.square ((castLength_append more after).mp h), trivial⟩
    | hyphen hb h =>
      subst hrest hn
      obtain ⟨hp, hafter⟩ := (parameterLength_append more after).mp h
      rw [beginsNumber_append_of_parameter hp] at hb
      exact ⟨.hyphen hb hp, hafter⟩
    | word h =>
      subst hrest
      obtain ⟨happend, htail, hafter⟩ := wordTail_append hn.symm
      rw [beginsWord_append hafter] at h
      have hword : Rule commandNext c _ _ _ := .word h
      rw [htail] at hword
      rw [happend]
      exact ⟨hword, fits_wordKind.mpr hafter⟩
  · rintro ⟨h, hfits⟩
    generalize hn : more.length = n at h ⊢
    cases h with
    | mark h => exact .mark h
    | remark =>
      have hrest := length_takeWhile_append.mpr ⟨hn.symm, hfits⟩
      rw [hn] at hrest
      rw [← hrest]
      exact .remark
    | join h =>
      subst hn
      rw [Fits, getLast?_cons_of_ne (by decide)] at hfits
      exact .join ((continuationLength_append more after).mpr ⟨h, hfits⟩)
    | doubleQuote h =>
      subst hn
      exact .doubleQuote ((doubleQuoted?_append more after).mpr ⟨h, by simpa [Fits] using hfits⟩)
    | apostrophe h =>
      subst hn
      exact .apostrophe ((singleQuoted?_append more after).mpr ⟨h, by simpa [Fits] using hfits⟩)
    | dollar h =>
      subst hn
      simp only [Fits, getLast?_cons_of_ne (show '$' ≠ '}' by decide)] at hfits
      exact .dollar ((variableLength_append more after).mpr ⟨h, hfits⟩)
    | square h =>
      subst hn
      exact .square ((castLength_append more after).mpr h)
    | hyphen hb h =>
      subst hn
      refine .hyphen ?_ ((parameterLength_append more after).mpr ⟨h, hfits⟩)
      rw [beginsNumber_append_of_parameter h, hb]
    | word h =>
      have hafter := fits_wordKind.mp hfits
      have hlen := length_takeWhile_append.mpr ⟨hn.symm, hafter⟩
      obtain ⟨happend, htail, -⟩ := wordTail_append hlen
      rw [← beginsWord_append hafter] at h
      have hword : Rule commandNext c _ _ _ := .word h
      rw [happend] at hword
      rwa [htail]

/-- A token is read before a text if and only if it is read at the end of a text, and the text fits
behind it. -/
theorem begins_iff {commandNext : Bool} {kind : TokenKind} {text after : List Char} :
    Begins commandNext kind text after ↔
      Begins commandNext kind text [] ∧ Fits kind text after := by
  constructor
  · rintro ⟨c, more, rfl, hlex⟩
    obtain ⟨hrule, hfits⟩ := rule_append_iff.mp (rule_of_lexeme hlex)
    refine ⟨⟨c, more, rfl, ?_⟩, hfits⟩
    rw [List.append_nil]
    exact hrule.lexeme_eq
  · rintro ⟨⟨c, more, rfl, hlex⟩, hfits⟩
    rw [List.append_nil] at hlex
    exact ⟨c, more, rfl, (rule_append_iff.mpr ⟨rule_of_lexeme hlex, hfits⟩).lexeme_eq⟩

end TagScript.Lexer
