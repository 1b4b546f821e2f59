import TagScript.Command.Parameter

/-!
# Parameters among arguments

The arguments of a command are read from the left, and each of them has one place: it is a switch,
an option or the value of the option before it, or it is positional.

* `Parameters.Names` — how the parameter of a name is written.
* `Parameters.Part` — a switch, an option together with its value, or a positional argument.
* `Parameters.Reading` — arguments taken apart into parts, and perhaps an option at the very end.
* `exists_reading`, `Reading.eq` — arguments are read in one way and no other.
* `sort_parts` — what sorting makes of arguments, by their parts.
* **`ofArguments_accounts`** — sorting fails exactly for an option at the very end, and otherwise
  every argument is accounted for once.
-/

namespace TagScript.Parameters

/-! ## Names of parameters -/

/-- Whether an argument is written as the parameter of a name: a hyphen, the name in some letter
case, and any number of colons. Two names are the same when they are in lower case. -/
def Names (name : String) (arg : Value) : Prop :=
  ∃ (body : List Char) (colons : Nat),
    arg = .str (String.ofList ('-' :: (body ++ List.replicate colons ':'))) ∧
      body.getLast? ≠ some ':' ∧ Text.lower (String.ofList body) = Text.lower name

theorem dropWhile_colon {cs : List Char} (h : cs.head? ≠ some ':') :
    cs.dropWhile (· = ':') = cs := by
  cases cs with
  | nil => rfl
  | cons c cs =>
    have hc : c ≠ ':' := by
      intro heq
      exact h (by rw [heq, List.head?_cons])
    simp [hc]

/-- Colons at the end of an argument do not matter. -/
theorem nameOf?_colons {body : List Char} (h : body.getLast? ≠ some ':') (colons : Nat) :
    nameOf? (.str (String.ofList ('-' :: (body ++ List.replicate colons ':')))) =
      some (Text.lower (String.ofList body)) := by
  have hcolons : ∀ c ∈ List.replicate colons ':', decide (c = ':') = true := by
    intro c hc
    simp [List.eq_of_mem_replicate hc]
  have hstrip : (body ++ List.replicate colons ':').reverse.dropWhile (· = ':') = body.reverse := by
    rw [List.reverse_append, List.reverse_replicate, List.dropWhile_append_of_pos hcolons]
    apply dropWhile_colon
    rwa [List.head?_reverse]
  simp only [nameOf?, String.toList_ofList, hstrip, List.reverse_reverse]

/-- An argument that has a name is a hyphen, the rest of the name, and colons. -/
theorem exists_body_of_nameOf? {arg : Value} {key : String} (h : nameOf? arg = some key) :
    ∃ (body : List Char) (colons : Nat),
      arg = .str (String.ofList ('-' :: (body ++ List.replicate colons ':'))) ∧
        body.getLast? ≠ some ':' ∧ Text.lower (String.ofList body) = key := by
  unfold nameOf? at h
  split at h
  · rename_i s
    split at h
    · rename_i rest hs
      have hkey := Option.some.inj h
      -- the colons are the longest row of them at the end
      have hcolons : rest.reverse.takeWhile (· = ':') =
          List.replicate (rest.reverse.takeWhile (· = ':')).length ':' := by
        apply List.eq_replicate_of_mem
        intro c hc
        have hall := List.all_takeWhile (p := fun c => decide (c = ':')) (l := rest.reverse)
        simpa using List.all_eq_true.mp hall c hc
      have hrest : (rest.reverse.dropWhile (· = ':')).reverse ++
          List.replicate (rest.reverse.takeWhile (· = ':')).length ':' = rest := by
        rw [← List.reverse_replicate, ← hcolons, ← List.reverse_append,
          List.takeWhile_append_dropWhile, List.reverse_reverse]
      refine ⟨(rest.reverse.dropWhile (· = ':')).reverse,
        (rest.reverse.takeWhile (· = ':')).length, ?_, ?_, hkey⟩
      · rw [hrest, ← hs, String.ofList_toList]
      · rw [List.getLast?_reverse]
        intro hhead
        have := List.head?_dropWhile_not (· = ':') rest.reverse
        simp [hhead] at this
    · cases h
  · cases h

/-- An argument names a parameter if its name in lower case is that of the parameter. -/
theorem names_iff {name : String} {arg : Value} :
    Names name arg ↔ nameOf? arg = some (Text.lower name) := by
  constructor
  · rintro ⟨body, colons, rfl, hlast, hname⟩
    rw [nameOf?_colons hlast, hname]
  · exact exists_body_of_nameOf?

/-! ## Parts -/

/-- What arguments are made of. -/
inductive Part where
  /-- A switch with its name in lower case. -/
  | switch (key : String) (arg : Value)
  /-- An option with its name in lower case, and the argument after it. -/
  | option (key : String) (arg value : Value)
  /-- A positional argument. -/
  | positional (arg : Value)

/-- The arguments that a part consists of. -/
def Part.args : Part → List Value
  | .switch _ arg => [arg]
  | .option _ arg value => [arg, value]
  | .positional arg => [arg]

/-- Whether a part is a switch. -/
def Part.isSwitch : Part → Bool
  | .switch .. => true
  | _ => false

/-- Whether a part is an option. -/
def Part.isOption : Part → Bool
  | .option .. => true
  | _ => false

/-- The parameter that a part sets, and its value. -/
def Part.setting? : Part → Option (String × Value)
  | .switch key _ => some (key, .bool true)
  | .option key _ value => some (key, value)
  | .positional _ => none

/-- The positional argument that a part is. -/
def Part.positional? : Part → Option Value
  | .positional arg => some arg
  | _ => none

/-- Every argument is positional, a switch, an option or the value of an option. -/
theorem length_args (parts : List Part) :
    (parts.flatMap Part.args).length = (parts.filterMap Part.positional?).length +
      parts.countP Part.isSwitch + 2 * parts.countP Part.isOption := by
  induction parts with
  | nil => rfl
  | cons part parts ih =>
    rw [List.flatMap_cons, List.length_append, ih, List.filterMap_cons, List.countP_cons,
      List.countP_cons]
    cases part <;>
      simp only [Part.args, Part.positional?, Part.isSwitch, Part.isOption, List.length_cons,
        List.length_nil, if_true, Bool.false_eq_true, if_false] <;> omega

variable (switches options : List String)

/-- Whether an argument is written as a switch. -/
def IsSwitch (arg : Value) : Prop :=
  ∃ name ∈ switches, Names name arg

/-- Whether an argument is written as an option. A switch is no option, even if it is listed as one
too. -/
def IsOption (arg : Value) : Prop :=
  (∃ name ∈ options, Names name arg) ∧ ¬ IsSwitch switches arg

/-- Whether a part is what its first argument is written as. Nothing is asked of the value of an
option. -/
def Part.Fits : Part → Prop
  | .switch key arg => ∃ name ∈ switches, Names name arg ∧ Text.lower name = key
  | .option key arg _ =>
    (∃ name ∈ options, Names name arg ∧ Text.lower name = key) ∧ ¬ IsSwitch switches arg
  | .positional arg => ¬ IsSwitch switches arg ∧ ¬ IsOption switches options arg

/-- Arguments taken apart from the left. -/
structure Reading (args : List Value) where
  /-- The parts. -/
  parts : List Part
  /-- An option at the very end, which has no value. -/
  last : Option Value
  /-- The parts and the last option are all of the arguments. -/
  covers : parts.flatMap Part.args ++ last.toList = args
  /-- Every part is what it is written as. -/
  fits : ∀ part ∈ parts, part.Fits switches options
  /-- What stands at the very end is an option. -/
  isOption : ∀ arg ∈ last, IsOption switches options arg

variable {switches options}

/-! ## What an argument is -/

/-- The argument that a part begins with. -/
def Part.first : Part → Value
  | .switch _ arg | .option _ arg _ | .positional arg => arg

/-- What the first argument of a part is taken for. -/
def Part.role : Part → Role
  | .switch key _ => .switch key
  | .option key _ _ => .option key
  | .positional _ => .positional

/-- The parameters that an argument names are those with its name. -/
theorem exists_names_iff {names : List String} {arg : Value} {key : String}
    (h : nameOf? arg = some key) :
    (∃ name ∈ names, Names name arg) ↔ (names.map Text.lower).contains key = true := by
  simp only [names_iff, h, Option.some.injEq, List.contains_iff_mem, List.mem_map,
    eq_comm (a := key)]

theorem not_names_of_nameOf? {arg : Value} (h : nameOf? arg = none) (name : String) :
    ¬ Names name arg := by
  intro hname
  rw [names_iff, h] at hname
  cases hname

theorem exists_named_iff {names : List String} {arg : Value} {key key' : String}
    (h : nameOf? arg = some key) :
    (∃ name ∈ names, Names name arg ∧ Text.lower name = key') ↔
      (names.map Text.lower).contains key = true ∧ key = key' := by
  rw [← exists_names_iff h]
  simp only [names_iff, h, Option.some.injEq]
  constructor
  · rintro ⟨name, hmem, rfl, rfl⟩
    exact ⟨⟨name, hmem, rfl⟩, rfl⟩
  · rintro ⟨⟨name, hmem, hkey⟩, rfl⟩
    exact ⟨name, hmem, hkey, hkey.symm⟩

/-- A part is what its first argument is taken for. -/
theorem Part.fits_iff {part : Part} :
    part.Fits switches options ↔
      Parameters.role (switches.map Text.lower) (options.map Text.lower) part.first =
        part.role := by
  unfold Parameters.role
  cases hname : nameOf? part.first with
  | none =>
    have hnot := not_names_of_nameOf? hname
    cases part <;>
      simp_all [Part.Fits, Part.role, Part.first, IsSwitch, IsOption]
  | some key =>
    by_cases hswitch : (switches.map Text.lower).contains key = true <;>
      by_cases hoption : (options.map Text.lower).contains key = true <;>
        cases part <;>
          simp only [Part.first] at hname <;>
          simp only [Part.Fits, Part.role, IsSwitch, IsOption, exists_named_iff hname,
            exists_names_iff hname, hswitch, hoption] <;> simp

theorem isOption_iff {arg : Value} :
    IsOption switches options arg ↔
      ∃ key, role (switches.map Text.lower) (options.map Text.lower) arg = .option key := by
  constructor
  · rintro ⟨⟨name, hmem, hname⟩, hswitch⟩
    have hfits : (Part.option (Text.lower name) arg .null).Fits switches options :=
      ⟨⟨name, hmem, hname, rfl⟩, hswitch⟩
    exact ⟨Text.lower name, Part.fits_iff.mp hfits⟩
  · rintro ⟨key, hrole⟩
    have hfits : (Part.option key arg .null).Fits switches options := Part.fits_iff.mpr hrole
    obtain ⟨⟨name, hmem, hname, -⟩, hswitch⟩ := hfits
    exact ⟨⟨name, hmem, hname⟩, hswitch⟩

/-! ## One reading -/

/-- Two parts with the same first argument, and the same arguments with what follows, are the same.
-/
theorem Part.eq_of_args {part part' : Part} (h : part.Fits switches options)
    (h' : part'.Fits switches options) {rest rest' : List Value}
    (heq : part.args ++ rest = part'.args ++ rest') : part = part' ∧ rest = rest' := by
  rw [Part.fits_iff] at h h'
  have hfirst : part.first = part'.first := by
    cases part <;> cases part' <;> exact (List.cons.inj heq).1
  rw [hfirst, h'] at h
  cases part <;> cases part' <;> simp_all [Part.role, Part.args, Part.first]

/-- An option at the very end is no part. -/
theorem not_fits_of_isOption {part : Part} {arg : Value} (harg : IsOption switches options arg)
    {rest : List Value} (heq : [arg] = part.args ++ rest) : ¬ part.Fits switches options := by
  intro h
  obtain ⟨key, hrole⟩ := isOption_iff.mp harg
  rw [Part.fits_iff] at h
  cases part with
  | option key' first value => simp [Part.args] at heq
  | switch key' first | positional first =>
    obtain ⟨rfl, -⟩ := List.cons.inj heq
    rw [Part.first, hrole] at h
    cases h

/-- Arguments are taken apart in one way only. -/
theorem parts_eq {parts parts' : List Part} {last last' : Option Value}
    (hparts : ∀ part ∈ parts, part.Fits switches options)
    (hparts' : ∀ part ∈ parts', part.Fits switches options)
    (hlast : ∀ arg ∈ last, IsOption switches options arg)
    (hlast' : ∀ arg ∈ last', IsOption switches options arg)
    (heq : parts.flatMap Part.args ++ last.toList = parts'.flatMap Part.args ++ last'.toList) :
    parts = parts' ∧ last = last' := by
  induction parts generalizing parts' with
  | nil =>
    cases parts' with
    | nil => cases last <;> cases last' <;> simp_all
    | cons part' parts' =>
      rw [List.flatMap_cons, List.append_assoc] at heq
      cases last with
      | none => cases part' <;> cases heq
      | some arg =>
        exact absurd (hparts' part' List.mem_cons_self) (not_fits_of_isOption (hlast arg rfl) heq)
  | cons part parts ih =>
    obtain ⟨hpart, hrest⟩ := List.forall_mem_cons.mp hparts
    rw [List.flatMap_cons, List.append_assoc] at heq
    cases parts' with
    | nil =>
      cases last' with
      | none => cases part <;> cases heq
      | some arg => exact absurd hpart (not_fits_of_isOption (hlast' arg rfl) heq.symm)
    | cons part' parts' =>
      obtain ⟨hpart', hrest'⟩ := List.forall_mem_cons.mp hparts'
      rw [List.flatMap_cons, List.append_assoc] at heq
      obtain ⟨rfl, hbehind⟩ := Part.eq_of_args hpart hpart' heq
      obtain ⟨rfl, rfl⟩ := ih hrest hrest' hbehind
      exact ⟨rfl, rfl⟩

/-- **Arguments have one reading only.** -/
theorem Reading.eq {args : List Value} (r r' : Reading switches options args) : r = r' := by
  obtain ⟨parts, last, hcovers, hfits, hoption⟩ := r
  obtain ⟨parts', last', hcovers', hfits', hoption'⟩ := r'
  obtain ⟨rfl, rfl⟩ := parts_eq hfits hfits' hoption hoption' (hcovers.trans hcovers'.symm)
  rfl

/-- A part in front of what was read. -/
def Reading.cons {args : List Value} (part : Part) (h : part.Fits switches options)
    (r : Reading switches options args) : Reading switches options (part.args ++ args) where
  parts := part :: r.parts
  last := r.last
  covers := by rw [List.flatMap_cons, List.append_assoc, r.covers]
  fits := List.forall_mem_cons.mpr ⟨h, r.fits⟩
  isOption := r.isOption

/-- **All arguments can be read.** -/
theorem exists_reading (args : List Value) : Nonempty (Reading switches options args) := by
  induction hn : args.length using Nat.strongRecOn generalizing args with
  | ind n ih =>
    subst hn
    cases args with
    | nil => exact ⟨⟨[], none, rfl, nofun, nofun⟩⟩
    | cons arg rest =>
      cases hrole : role (switches.map Text.lower) (options.map Text.lower) arg with
      | switch key =>
        obtain ⟨r⟩ := ih rest.length (by simp) rest rfl
        exact ⟨r.cons (.switch key arg) (Part.fits_iff.mpr hrole)⟩
      | positional =>
        obtain ⟨r⟩ := ih rest.length (by simp) rest rfl
        exact ⟨r.cons (.positional arg) (Part.fits_iff.mpr hrole)⟩
      | option key =>
        cases rest with
        | nil =>
          refine ⟨⟨[], some arg, rfl, nofun, ?_⟩⟩
          intro first hfirst
          rw [← Option.some.inj hfirst]
          exact isOption_iff.mpr ⟨key, hrole⟩
        | cons value rest =>
          have hlt : rest.length < (arg :: value :: rest).length := by
            rw [List.length_cons, List.length_cons]
            omega
          obtain ⟨r⟩ := ih rest.length hlt rest rfl
          exact ⟨r.cons (.option key arg value) (Part.fits_iff.mpr hrole)⟩

/-! ## Sorting -/

/-- What comes of parts behind what was sorted before, and of an option at the very end. -/
def outcome (done : Parameters) (parts : List Part) : Option Value → Except Fault Parameters
  | none => .ok ⟨Fields.update done.named (parts.filterMap Part.setting?),
      done.positional ++ parts.filterMap Part.positional?⟩
  | some arg => .error (.runtime (.valueRequired arg.plain))

theorem outcome_cons (done : Parameters) (part : Part) (parts : List Part) (last : Option Value) :
    outcome done (part :: parts) last =
      outcome ⟨Fields.update done.named part.setting?.toList,
        done.positional ++ part.positional?.toList⟩ parts last := by
  cases last with
  | some arg => rfl
  | none =>
    cases part <;>
      simp [outcome, Part.setting?, Part.positional?, Fields.update, List.filterMap_cons]

/-- **What sorting makes of arguments**, by their parts. -/
theorem sort_parts {parts : List Part} (hparts : ∀ part ∈ parts, part.Fits switches options)
    {last : Option Value} (hlast : ∀ arg ∈ last, IsOption switches options arg)
    (done : Parameters) :
    sort (switches.map Text.lower) (options.map Text.lower) done
        (parts.flatMap Part.args ++ last.toList) = outcome done parts last := by
  induction parts generalizing done with
  | nil =>
    cases last with
    | none => simp [sort, outcome, Fields.update]
    | some arg =>
      obtain ⟨key, hrole⟩ := isOption_iff.mp (hlast arg rfl)
      simp [sort, outcome, hrole]
  | cons part parts ih =>
    obtain ⟨hpart, hrest⟩ := List.forall_mem_cons.mp hparts
    have hrole := Part.fits_iff.mp hpart
    rw [List.flatMap_cons, List.append_assoc, outcome_cons, ← ih hrest]
    cases part with
    | switch key arg | option key arg value | positional arg =>
      rw [Part.first, Part.role] at hrole
      simp [Part.args, sort, hrole, Part.setting?, Part.positional?, Fields.update]

/-- The last value of a key counts. -/
theorem get?_update_reverse (fields more : List (String × Value)) (key : String) :
    Fields.get? (Fields.update fields more) key =
      (Fields.get? more.reverse key).or (Fields.get? fields key) := by
  induction more generalizing fields with
  | nil => rfl
  | cons field more ih =>
    have hstep : Fields.update fields (field :: more) =
      Fields.update (Fields.insert fields field.1 field.2) more := rfl
    rw [hstep, ih, List.reverse_cons, Fields.get?_append_or, Option.or_assoc, Fields.get?_insert]
    congr 1
    by_cases hkey : field.1 = key <;> simp [Fields.get?, hkey]

/-- **Sorting fails exactly for an option at the very end**, as its value is required. Otherwise
every argument is accounted for once: it is positional and keeps its place among the positional
ones, or it is a switch, or it belongs to an option, whose value is not looked at; and the last
occurrence of a parameter gives its value. -/
theorem ofArguments_accounts (switches options : List String) (args : List Value) :
    ∃ r : Reading switches options args, (∀ other : Reading switches options args, other = r) ∧
      ((∃ fault, ofArguments switches options args = .error fault) ↔ ∃ arg, r.last = some arg) ∧
      (∀ arg, r.last = some arg →
        ofArguments switches options args = .error (.runtime (.valueRequired arg.plain))) ∧
      (r.last = none → ∃ p, ofArguments switches options args = .ok p ∧
        args.length = p.positional.length + r.parts.countP Part.isSwitch +
          2 * r.parts.countP Part.isOption ∧
        p.positional = r.parts.filterMap Part.positional? ∧
        ∀ key, p.get? key = Fields.get? (r.parts.filterMap Part.setting?).reverse key) := by
  obtain ⟨r⟩ := @exists_reading switches options args
  have hsort : ofArguments switches options args = outcome {} r.parts r.last := by
    rw [ofArguments, ← sort_parts r.fits r.isOption, r.covers]
  refine ⟨r, fun other => other.eq r, ?_, ?_, ?_⟩
  · rw [hsort]
    cases r.last with
    | none => simp [outcome]
    | some arg => simp [outcome]
  · intro arg hlast
    rw [hsort, hlast]
    rfl
  · intro hlast
    have hcovers := r.covers
    rw [hlast, Option.toList_none, List.append_nil] at hcovers
    have hlength := length_args r.parts
    rw [hcovers] at hlength
    refine ⟨_, by rw [hsort, hlast]; rfl, hlength, List.nil_append _, ?_⟩
    · intro key
      rw [get?, get?_update_reverse]
      simp [Fields.get?]

/-- An option takes the argument after it even if that is written as a switch. -/
example : ofArguments ["UtcNow"] ["Format"]
    [.str "-FORMAT::", .str "-utcnow", .str "a", .str "-format", .str "b"] =
      .ok ⟨[("format", .str "b")], [.str "a"]⟩ := rfl

/-- A name that is listed as a switch is no option, and a name that ends in a colon is written in no
way, since the colons of the argument are cut off. -/
theorem ofArguments_unread_options :
    (∃ name ∈ ["x"], Names name (.str "-x")) ∧
      ofArguments ["x"] ["x"] [.str "-x"] = .ok ⟨[("x", .bool true)], []⟩ ∧
      ofArguments [] ["x:"] [.str "-x:"] = .ok ⟨[], [.str "-x:"]⟩ := by
  refine ⟨⟨"x", List.mem_singleton.mpr rfl, ['x'], 0, rfl, by decide, rfl⟩, rfl, rfl⟩

end TagScript.Parameters
