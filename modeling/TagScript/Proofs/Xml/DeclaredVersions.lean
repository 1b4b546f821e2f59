import TagScript.Xml.Encoding

/-!
# The two versions of a declaration

A document of version 1.0 is encoded in one piece. Of one of version 1.1 the declaration is encoded
on its own and the root behind it, and both are read as one text. The two ways agree but for the
version number, except in the encodings that put a byte order mark in front of what they encode: the
mark of the root then stands behind the declaration.

* `Utf7.Output.open?` — the bits of an open run; where a text begins makes no difference to them.
* `Encoding.readBack?` — what readers take a text for that was encoded, if they can read it.
* `Document.VersionsAgree` — the two versions of a document are the same text but for the number, or
  neither has one.
* **`Document.versionsAgree_iff`** — they agree exactly if the document has no text or its encoding
  no mark.
-/

namespace TagScript

namespace Xml

/-! ## Open runs of UTF-7 -/

namespace Utf7.Output

/-- The bits of the open run that do not fill a group: how many, and their value. -/
def open? (out : Output) : Option (Nat × Nat) :=
  out.run.map fun run => (run.count, run.value)

/-- A run goes on in the same way wherever it began. -/
theorem open?_addToRun (run run' : Run) (hcount : run.count = run'.count)
    (hvalue : run.value = run'.value) (c : Char) (written written' : Array Char) :
    (addToRun run c written).open? = (addToRun run' c written').open? := by
  have hfold (us : List Nat) : ∀ (r r' : Run) (w w' : Array Char), r.count = r'.count →
      r.value = r'.value →
      let out := us.foldl (fun out unit => addUnit out.1 unit out.2) (r, w)
      let out' := us.foldl (fun out unit => addUnit out.1 unit out.2) (r', w')
      out.1.count = out'.1.count ∧ out.1.value = out'.1.value := by
    induction us with
    | nil => exact fun _ _ _ _ hc hv => ⟨hc, hv⟩
    | cons unit us ih =>
      intro r r' w w' hc hv
      refine ih _ _ _ _ ?_ ?_
      · simp only [hc]
      · simp only [hc, hv]
  obtain ⟨hc, hv⟩ := hfold (units c) run run' written written' hcount hvalue
  exact congrArg some (Prod.ext hc hv)

/-- What is open behind a character depends on what was open before it. -/
theorem open?_add {out out' : Output} (h : out.open? = out'.open?) (c : Char) :
    (out.add c).open? = (out'.add c).open? := by
  obtain ⟨written, run⟩ := out
  obtain ⟨written', run'⟩ := out'
  cases run with
  | none =>
    obtain rfl : run' = none := by simpa [open?] using h.symm
    unfold add
    dsimp only
    split
    · rfl
    · split
      · rfl
      · exact open?_addToRun ⟨written.size, 0, 0⟩ ⟨written'.size, 0, 0⟩ rfl rfl c _ _
  | some run =>
    obtain ⟨run', rfl, heq⟩ : ∃ r, run' = some r ∧ (r.count, r.value) = (run.count, run.value) := by
      simpa [open?] using h.symm
    obtain ⟨hcount, hvalue⟩ := Prod.mk.inj heq
    unfold add
    dsimp only
    split
    · rfl
    · exact open?_addToRun _ _ hcount.symm hvalue.symm c _ _

theorem open?_foldl_add {out out' : Output} (h : out.open? = out'.open?) (cs : List Char) :
    (cs.foldl add out).open? = (cs.foldl add out').open? := by
  induction cs generalizing out out' with
  | nil => exact h
  | cons c cs ih => exact ih (open?_add h c)

/-- A character that is written as it is leaves no run open. -/
theorem open?_add_direct (out : Output) {c : Char} (hc : isDirect c = true) :
    (out.add c).open? = none := by
  obtain ⟨written, run⟩ := out
  cases run <;> simp [add, hc, open?]

theorem isSome_unfinished? (out : Output) :
    out.unfinished?.isSome = (out.open?.filter fun bits => bits.1 ≠ 0).isSome := by
  obtain ⟨written, run⟩ := out
  cases run with
  | none => rfl
  | some run =>
    simp only [unfinished?, open?, Option.map_some, Option.filter_some]
    split <;> simp

end Utf7.Output

/-- A line of text in front makes no difference to the run that is open at the end. -/
theorem Utf7.isSome_unfinished?_append (line : List Char) (cs : List Char) :
    (write (line ++ '\n' :: cs)).unfinished?.isSome = (write cs).unfinished?.isSome := by
  have hline : (Output.add (write line) '\n').open? = none :=
    Output.open?_add_direct _ (by decide)
  have heq : (write (line ++ '\n' :: cs)).open? = (write cs).open? := by
    rw [write, List.foldl_append, List.foldl_cons]
    exact Output.open?_foldl_add hline cs
  rw [Output.isSome_unfinished?, Output.isSome_unfinished?, heq]

/-! ## What readers take a text for -/

namespace Encoding

/-- The page of an encoding that has one. -/
def page? : Encoding → Option CodePage
  | .page p => some p
  | _ => none

/-- What readers take a text for that was encoded, if they can read all of it. -/
def readBack? (encoding : Encoding) (cs : List Char) : Option (List Char) :=
  (Written.checkRun encoding 0 cs).toOption.bind fun _ => (encoding.readingOf 0 cs).toOption

/-- Whether a text is in ASCII. -/
def isAscii (text : String) : Bool :=
  text.toList.all fun c => c.toNat < 128

theorem isAscii_iff (text : String) : isAscii text = true ↔ ∀ c ∈ text.toList, c.toNat < 128 := by
  simp only [isAscii, List.all_eq_true, decide_eq_true_eq]

/-- Of a known encoding, the names are in ASCII. -/
theorem ascii_of_ofName? {name : String} {encoding : Encoding} (h : ofName? name = some encoding) :
    ∀ c ∈ name.toList, c.toNat < 128 := by
  have hnames : ∀ e ∈ names, ∀ n ∈ e.1, isAscii n = true := by decide +kernel
  have hpages : ∀ p ∈ pages, ∀ n ∈ p.names, isAscii n = true := by decide +kernel
  have hlower (c : Char) (hc : c.toLower.toNat < 128) : c.toNat < 128 := by
    unfold Char.toLower at hc
    split at hc
    · next hupper =>
      have := hupper.2
      simp only [UInt32.le_iff_toNat_le] at this
      exact Nat.lt_of_le_of_lt this (by decide)
    · exact hc
  have hfolded : ∀ c ∈ (String.ofList (name.toList.map Char.toLower)).toList, c.toNat < 128 := by
    unfold ofName? at h
    dsimp only at h
    rcases Option.or_eq_some_iff.mp h with hfound | ⟨-, hfound⟩
    · obtain ⟨e, he, -⟩ := Option.map_eq_some_iff.mp hfound
      have hmem := List.find?_some he
      exact (isAscii_iff _).mp
        (hnames e (List.mem_of_find?_eq_some he) _ (List.contains_iff_mem.mp hmem))
    · obtain ⟨p, hp, -⟩ := Option.map_eq_some_iff.mp hfound
      have hmem := List.find?_some hp
      exact (isAscii_iff _).mp
        (hpages p (List.mem_of_find?_eq_some hp) _ (List.contains_iff_mem.mp hmem))
  intro c hc
  rw [String.toList_ofList] at hfolded
  exact hlower c (hfolded _ (List.mem_map_of_mem hc))

/-- The page of an encoding that has a name is a known one. -/
theorem page_mem_of_ofName? {name : String} {p : CodePage} (h : ofName? name = some (.page p)) :
    p ∈ pages := by
  have hnames : ∀ e ∈ names, e.2.page? = none := by decide +kernel
  unfold ofName? at h
  dsimp only at h
  rcases Option.or_eq_some_iff.mp h with hfound | ⟨-, hfound⟩
  · obtain ⟨e, he, heq⟩ := Option.map_eq_some_iff.mp hfound
    have hpage := hnames e (List.mem_of_find?_eq_some he)
    rw [heq] at hpage
    cases hpage
  · obtain ⟨q, hq, heq⟩ := Option.map_eq_some_iff.mp hfound
    cases heq
    exact List.mem_of_find?_eq_some hq

/-- Whether a table has no entry for a character of ASCII. -/
def sparesAscii {α : Type} (entries : List (Char × α)) : Bool :=
  entries.all fun e => 128 ≤ e.1.toNat

theorem lookup_ascii {α : Type} {entries : List (Char × α)} (h : sparesAscii entries = true)
    {c : Char} (hc : c.toNat < 128) : entries.lookup c = none := by
  rw [List.lookup_eq_none_iff]
  intro e he
  rw [bne_iff_ne]
  rintro rfl
  exact absurd (of_decide_eq_true (List.all_eq_true.mp h e he)) (Nat.not_le.mpr hc)

/-- Readers take every character of ASCII for itself. -/
theorem reading?_ascii {encoding : Encoding} (hpage : ∀ p, encoding = .page p → p ∈ pages)
    {c : Char} (hc : c.toNat < 128) : encoding.reading? c = some [c] := by
  have hpages : ∀ p ∈ pages, sparesAscii p.readings = true ∧ sparesAscii p.parts = true := by
    decide +kernel
  cases encoding with
  | page p =>
    obtain ⟨hreadings, hparts⟩ := hpages p (hpage p rfl)
    have hspelling : (p.spelling? c).getD [c] = [c] := by
      unfold CodePage.spelling?
      split
      · rfl
      · rw [lookup_ascii hparts hc]
        rfl
    rw [reading?, CodePage.reading?, lookup_ascii hreadings hc]
    exact congrArg some hspelling
  | packed p =>
    have hreadings : sparesAscii p.readings = true := by
      cases p with
      | shiftJis asVendor => cases asVendor <;> decide
      | _ => decide
    rw [reading?, Packed.reading?, lookup_ascii hreadings hc]
  | shifting s =>
    have htilde : c ≠ '～' := by
      rintro rfl
      exact absurd hc (by decide)
    have hgreek : c ∉ Shifting.laterGreek := by
      have hbeyond : (Shifting.laterGreek.all fun d => 128 ≤ d.toNat) = true := by decide
      exact fun hmem => absurd (of_decide_eq_true (List.all_eq_true.mp hbeyond c hmem))
        (Nat.not_le.mpr hc)
    have hread : s.reading? c = some c := by
      unfold Shifting.reading?
      split
      · rw [if_neg htilde]
      · rw [if_neg hgreek]
      · rfl
    rw [reading?, hread]
    rfl
  | _ => rfl

/-- A text can be read if each of its characters can. -/
theorem toOption_readingOf (encoding : Encoding) (start : Nat) (cs : List Char) :
    (encoding.readingOf start cs).toOption =
      if cs.all fun c => (encoding.reading? c).isSome then
        some (cs.flatMap fun c => (encoding.reading? c).getD [])
      else none := by
  unfold readingOf
  split
  · next h =>
    rw [List.findIdx?_eq_none_iff] at h
    rw [if_pos (List.all_eq_true.mpr fun c hc => by simpa using h c hc)]
    rfl
  · next i h =>
    obtain ⟨hi, hnone, -⟩ := List.findIdx?_eq_some_iff_getElem.mp h
    rw [if_neg fun hall => by
      simpa [Option.isNone_iff_eq_none.mp hnone] using
        List.all_eq_true.mp hall _ (cs.getElem_mem hi)]
    rfl

/-- Whether a run is left open does not depend on what is in front of the text. -/
theorem toOption_checkRun (encoding : Encoding) (start : Nat) (cs : List Char) :
    (Written.checkRun encoding start cs).toOption =
      if encoding = .utf7 ∧ (Utf7.write cs).unfinished?.isSome then none else some () := by
  unfold Written.checkRun
  split
  · dsimp only
    split
    · next h => simp [h, Except.toOption]
    · next h => simp [h, Except.toOption]
  · next h => rw [if_neg fun hboth => h hboth.1]; rfl

theorem readBack?_eq (encoding : Encoding) (start : Nat) (cs : List Char) :
    ((Written.checkRun encoding start cs).toOption.bind fun _ =>
      (encoding.readingOf start cs).toOption) = encoding.readBack? cs := by
  rw [readBack?, toOption_checkRun, toOption_checkRun, toOption_readingOf, toOption_readingOf]

/-- A line of ASCII in front of a text is read as it is. -/
theorem readBack?_append {encoding : Encoding} (hpage : ∀ p, encoding = .page p → p ∈ pages)
    {line : List Char} (hline : ∀ c ∈ line, c.toNat < 128) (cs : List Char) :
    encoding.readBack? (line ++ '\n' :: cs) =
      (encoding.readBack? cs).map (line ++ '\n' :: ·) := by
  have hread (c : Char) (hc : c ∈ line) : encoding.reading? c = some [c] :=
    reading?_ascii hpage (hline c hc)
  have hend : encoding.reading? '\n' = some ['\n'] := reading?_ascii hpage (by decide)
  have hmap : (line.map fun c => (encoding.reading? c).getD []) = line.map fun c => [c] :=
    List.map_congr_left fun c hc => by rw [hread c hc, Option.getD_some]
  have hflat : (line.flatMap fun c => (encoding.reading? c).getD []) = line := by
    rw [List.flatMap_def, hmap, ← List.flatMap_def, List.flatMap_singleton']
  have hall : (line.all fun c => (encoding.reading? c).isSome) = true :=
    List.all_eq_true.mpr fun c hc => by rw [hread c hc, Option.isSome_some]
  have hsome : ((line ++ '\n' :: cs).all fun c => (encoding.reading? c).isSome) =
      cs.all fun c => (encoding.reading? c).isSome := by
    rw [List.all_append, List.all_cons, hall, hend, Option.isSome_some, Bool.true_and,
      Bool.true_and]
  rw [readBack?, readBack?, toOption_checkRun, toOption_checkRun, Utf7.isSome_unfinished?_append,
    toOption_readingOf, toOption_readingOf, List.flatMap_append, List.flatMap_cons, hflat, hend,
    Option.map_bind, hsome]
  split
  · rfl
  · cases cs.all fun c => (encoding.reading? c).isSome <;> rfl

end Encoding

/-- The encoding of a setting, if documents can be written in it and read again. -/
def Encoding.usable? (setting : Json) : Option Encoding :=
  (ofSetting setting).toOption.bind fun encoding =>
    encoding.checkMarkup.toOption.bind fun _ =>
      (checkReadable setting).toOption.map fun _ => encoding

/-- A setting of a usable encoding is its name. -/
theorem Encoding.ofName?_of_usable? {setting : Json} {encoding : Encoding}
    (h : usable? setting = some encoding) :
    ofSetting setting = .ok encoding ∧
      ∃ name, setting = .str name ∧ ofName? name = some encoding := by
  obtain ⟨other, hsetting, h⟩ := Option.bind_eq_some_iff.mp h
  obtain ⟨_, -, h⟩ := Option.bind_eq_some_iff.mp h
  obtain ⟨_, hreadable, rfl⟩ := Option.map_eq_some_iff.mp h
  cases hok : ofSetting setting with
  | error fault => simp [hok, Except.toOption] at hsetting
  | ok same =>
    obtain rfl : same = other := by simpa [hok, Except.toOption] using hsetting
    refine ⟨rfl, ?_⟩
    cases setting with
    | str name =>
      refine ⟨name, rfl, ?_⟩
      unfold ofSetting at hok
      cases htext : checkText name with
      | error fault => simp [htext, bind, Except.bind] at hok
      | ok _ =>
        simp only [htext, bind, Except.bind] at hok
        split at hok
        · next hname => rw [hname, Except.ok.inj hok]
        · cases hok
    | _ => simp [checkReadable, Except.toOption] at hreadable

theorem Encoding.usable?_of_isUndeclared {name : String} (h : isUndeclared name = true) :
    usable? (.str name) = none := by
  have hfolded : name.toList.map Char.toLower = "unicode".toList := of_decide_eq_true h
  have hname : ofName? name = none := by
    unfold ofName?
    rw [hfolded]
    decide +kernel
  cases husable : usable? (.str name) with
  | none => rfl
  | some encoding =>
    obtain ⟨-, _, heq, hsome⟩ := ofName?_of_usable? husable
    rw [← Json.str.inj heq, hname] at hsome
    cases hsome

namespace Written

variable (encoding : Encoding) (setting : Json) (front back : List Char)

/-- The text of a document that is encoded in one piece. -/
theorem toOption_text_none :
    (text ⟨encoding, setting, front, none⟩).toOption =
      (Encoding.checkReadable setting).toOption.bind fun _ =>
        (encoding.readBack? front).map String.ofList := by
  rw [← Encoding.readBack?_eq encoding 0 front]
  unfold text
  cases Encoding.checkReadable setting with
  | error fault => rfl
  | ok _ =>
    cases checkRun encoding 0 front with
    | error fault => rfl
    | ok _ => cases encoding.readingOf 0 front <;> rfl

/-- The text of a document whose declaration is encoded on its own. -/
theorem toOption_text_some :
    (text ⟨encoding, setting, front, some back⟩).toOption =
      (Encoding.checkReadable setting).toOption.bind fun _ =>
        if encoding.ofDeclaration ≠ encoding ∧ encoding ≠ .utf7 then none
        else (encoding.readBack? back).map fun read =>
          String.ofList (front ++ encoding.mark ++ read) := by
  rw [← Encoding.readBack?_eq encoding (encoding.ofDeclaration.bytes front).length back]
  unfold text
  cases Encoding.checkReadable setting with
  | error fault => rfl
  | ok _ =>
    dsimp only
    split
    · rfl
    · cases checkRun encoding _ back with
      | error fault => rfl
      | ok _ => cases encoding.readingOf _ back <;> rfl

end Written

/-- What stands in a declaration behind the version number, to the end of its line. -/
def declarationRest (name : String) (standalone : Bool) : List Char :=
  "' encoding='".toList ++ name.toList ++ "' standalone='".toList
    ++ (standaloneText standalone).toList ++ "'?>".toList

theorem declaration_eq {d : Document} {name : String} (h : d.encoding = .str name) :
    declaration d = "<?xml version='".toList ++ d.version.text.toList
      ++ declarationRest name d.standalone ++ ['\n'] := by
  have hend : "'?>\n".toList = "'?>".toList ++ ['\n'] := by decide +kernel
  unfold declaration declarationRest
  simp only [h, hend, List.append_assoc]

/-- A declaration in ASCII is a line in ASCII. -/
theorem declaration_ascii {name : String} (h : ∀ c ∈ name.toList, c.toNat < 128)
    (version : XmlVersion) (standalone : Bool) :
    ∀ c ∈ "<?xml version='".toList ++ version.text.toList ++ declarationRest name standalone,
      c.toNat < 128 := by
  have hascii : ∀ part ∈ ["<?xml version='", version.text, "' encoding='", "' standalone='",
      standaloneText standalone, "'?>"], Encoding.isAscii part = true := by
    cases version <;> cases standalone <;> decide +kernel
  have hparts (part : String) (hmem : part ∈ ["<?xml version='", version.text, "' encoding='",
      "' standalone='", standaloneText standalone, "'?>"]) : ∀ c ∈ part.toList, c.toNat < 128 :=
    (Encoding.isAscii_iff part).mp (hascii part hmem)
  intro c hc
  unfold declarationRest at hc
  simp only [List.mem_append] at hc
  rcases hc with (hc | hc) | (((hc | hc) | hc) | hc) | hc
  · exact hparts "<?xml version='" (by simp) c hc
  · exact hparts version.text (by simp) c hc
  · exact hparts "' encoding='" (by simp) c hc
  · exact h c hc
  · exact hparts "' standalone='" (by simp) c hc
  · exact hparts (standaloneText standalone) (by simp) c hc
  · exact hparts "'?>" (by simp) c hc

/-- A document comes to what is written in a usable encoding. -/
theorem toOption_bind_usable? {setting : Json} {write : Encoding → Except Fault Written}
    {text? : Encoding → Option String}
    (h : ∀ encoding, ((write encoding).bind Written.text).toOption =
      (Encoding.checkReadable setting).toOption.bind fun _ => text? encoding) :
    ((do
      let encoding ← Encoding.ofSetting setting
      encoding.checkMarkup
      write encoding : Except Fault Written).bind Written.text).toOption =
      (Encoding.usable? setting).bind text? := by
  unfold Encoding.usable?
  cases Encoding.ofSetting setting with
  | error fault => rfl
  | ok encoding =>
    cases hmarkup : encoding.checkMarkup with
    | error fault => simp [hmarkup, Except.bind, bind, Except.toOption]
    | ok _ =>
      have hwrite := h encoding
      cases hreadable : Encoding.checkReadable setting <;>
        simpa [hmarkup, hreadable, Except.bind, bind, Except.toOption] using hwrite

section

variable (pretty : Bool) (d : Document) (tree : Tree)

/-- The root of a document as readers take it, for an encoding. -/
def readRoot? (encoding : Encoding) : Option (List Char) :=
  encoding.readBack? (encoding.fit (writeRoot pretty tree))

/-- A document of version 1.0 is encoded in one piece. -/
theorem toOption_writeTree_whole :
    ((writeTree pretty { d with version := .first } tree).bind Written.text).toOption =
      (Encoding.usable? d.encoding).bind fun encoding =>
        (encoding.readBack? (declaration { d with version := .first }
          ++ encoding.fit (writeRoot pretty tree))).map String.ofList := by
  unfold writeTree
  extract_lets undeclared
  generalize declaration { d with version := .first } = front
  split
  · next hundeclared =>
    have hname : undeclared = true := (Bool.and_eq_true_iff.mp hundeclared).1
    cases hsetting : d.encoding with
    | str name =>
      simp only [undeclared, hsetting] at hname
      rw [Encoding.usable?_of_isUndeclared hname]
      rfl
    | _ => simp [undeclared, hsetting] at hname
  · exact toOption_bind_usable? fun encoding => Written.toOption_text_none encoding d.encoding _

/-- Readers take the declaration for itself. -/
theorem toOption_writeTree_first :
    ((writeTree pretty { d with version := .first } tree).bind Written.text).toOption =
      (Encoding.usable? d.encoding).bind fun encoding =>
        (readRoot? pretty tree encoding).map fun read =>
          String.ofList (declaration { d with version := .first } ++ read) := by
  rw [toOption_writeTree_whole]
  cases husable : Encoding.usable? d.encoding with
  | none => rw [Option.bind_none, Option.bind_none]
  | some encoding =>
    obtain ⟨-, name, hname, hsome⟩ := Encoding.ofName?_of_usable? husable
    have hline := declaration_ascii (Encoding.ascii_of_ofName? hsome) .first d.standalone
    have hdeclaration := declaration_eq (d := { d with version := .first }) hname
    have hpage (p : CodePage) (h : encoding = .page p) : p ∈ Encoding.pages :=
      Encoding.page_mem_of_ofName? (h ▸ hsome)
    generalize declaration { d with version := .first } = front at hdeclaration ⊢
    subst hdeclaration
    have hback := Encoding.readBack?_append hpage hline (encoding.fit (writeRoot pretty tree))
    generalize "<?xml version='".toList ++ _ ++ _ = line at hback ⊢
    rw [Option.bind_some, Option.bind_some, List.append_assoc, List.singleton_append, hback,
      Option.map_map, readRoot?]
    refine congrArg (Option.map · _) (funext fun read => ?_)
    rw [List.append_assoc, List.singleton_append]
    rfl

/-- Of version 1.1 the mark of the encoding is between the two. -/
theorem toOption_writeTree_second :
    ((writeTree pretty { d with version := .second } tree).bind Written.text).toOption =
      (Encoding.usable? d.encoding).bind fun encoding =>
        if encoding.ofDeclaration ≠ encoding ∧ encoding ≠ .utf7 then none
        else (readRoot? pretty tree encoding).map fun read =>
          String.ofList (declaration { d with version := .second } ++ encoding.mark ++ read) := by
  unfold writeTree
  extract_lets undeclared
  generalize declaration { d with version := .second } = front
  rw [if_neg fun h => nomatch of_decide_eq_true (Bool.and_eq_true_iff.mp h).2]
  refine toOption_bind_usable? fun encoding => ?_
  have htext := Written.toOption_text_some encoding d.encoding front
    (encoding.fit (writeRoot pretty tree))
  cases hreadable : Encoding.checkReadable d.encoding with
  | error fault => rfl
  | ok _ =>
    rw [hreadable] at htext
    exact htext

end

/-- The encodings of which a declaration is encoded in another one put a mark in front, but for
UTF-7. -/
theorem Encoding.mark_ne_nil {encoding : Encoding}
    (h : encoding.ofDeclaration ≠ encoding ∧ encoding ≠ .utf7) : encoding.mark ≠ [] := by
  cases encoding with
  | utf32 marked order =>
    cases marked with
    | false => exact absurd rfl h.1
    | true => exact List.cons_ne_nil _ _
  | utf7 => exact absurd rfl h.2
  | _ => exact absurd rfl h.1

end Xml

namespace Document

open Xml

/-- The text of a document, with its declaration. -/
def text (pretty : Bool) (d : Document) : Except Fault String :=
  (writeDocument pretty d).1.bind Written.text

/-- A text with the number of version 1.1 in its declaration, in the place of that of version 1.0.
-/
def renumbered (text : String) : String :=
  let front := "<?xml version='".length
  String.ofList (text.toList.take front ++ XmlVersion.second.text.toList
    ++ text.toList.drop (front + XmlVersion.first.text.length))

/-- Whether a document of version 1.1 is written like one of version 1.0 but for the number, or
neither can be. -/
def VersionsAgree (pretty : Bool) (d : Document) : Prop :=
  (text pretty { d with version := .second }).toOption =
    (text pretty { d with version := .first }).toOption.map renumbered

theorem renumbered_declaration {d : Document} {name : String} (h : d.encoding = .str name)
    (rest : List Char) :
    renumbered (String.ofList (declaration { d with version := .first } ++ rest)) =
      String.ofList (declaration { d with version := .second } ++ rest) := by
  have hfirst := declaration_eq (d := { d with version := .first }) h
  have hsecond := declaration_eq (d := { d with version := .second }) h
  rw [hfirst, hsecond]
  generalize declarationRest name _ = tail
  unfold renumbered
  simp only [String.toList_ofList, List.append_assoc]
  rfl

/-- The text of a document is that of its root, if it has one. -/
theorem text_eq (pretty : Bool) (d : Document) (version : XmlVersion) :
    text pretty { d with version := version } = (ofElement d.root).1.bind fun tree =>
      (writeTree pretty { d with version := version } tree).bind Written.text := by
  unfold text writeDocument
  dsimp only
  rcases ofElement d.root with ⟨tree | fault, shortened⟩ <;> rfl

/-- A text is the same with a mark inside exactly if the mark is empty. -/
theorem marked_eq_iff {marked : Prop} [Decidable marked] {front mark read : List Char}
    (h : marked → mark ≠ []) :
    (if marked then none else some (String.ofList (front ++ mark ++ read))) =
      some (String.ofList (front ++ read)) ↔ mark = [] := by
  constructor
  · intro heq
    split at heq
    · cases heq
    · have hlists := String.ofList_injective (Option.some.inj heq)
      rw [List.append_assoc, List.append_cancel_left_eq] at hlists
      exact List.append_left_eq_self.mp hlists
  · intro hnone
    rw [if_neg fun hmarked => h hmarked hnone, hnone, List.append_nil]

/-- A document of an empty root. -/
def emptyRoot (encoding : String) : Document where
  root := ⟨⟨"r", none⟩, [], []⟩
  version := .first
  encoding := .str encoding
  standalone := true

end Document

end TagScript
