import TagScript.Config.Data

/-!
# How reading a configuration ends

A configuration is read setting by setting, and each setting is checked as it is found, whatever
kind of value it is. A value that its check refuses is reported as an error of the configuration.
But some checks compare, search or go through a value before they know its kind, and a value that
this cannot be done with ends the reading in another way; and a policy is looked up by its name only
if it is a text, any other value is taken for a policy. The first value that does not pass decides.

* `Verdict` — how the check of a value ends; `Verdict.first` — the one that decides.
* `Config.verdicts` — the verdicts on what data give, in the order in which they are asked for.
* `Verdict.of_askField_bind`, `Verdict.of_askChoice_bind` — asking for a setting is a check too.
* `CompilerConfig.of_read`, `RuntimeConfig.of_read`, `BuilderConfig.of_read`,
  `DocumentConfig.of_read` — how reading a component ends, whatever is given for it.
* `Config.of_read` — reading a configuration ends as the first verdict says that is not `fit`.
* **`Config.read_documented_iff`** — which data are read in the documented way.
-/

namespace TagScript

/-- How the check of a value ends. -/
inductive Verdict where
  /-- The value passes. -/
  | fit
  /-- The value is refused, with an error of the configuration. -/
  | refused
  /-- The check cannot be made with a value of this kind. -/
  | unfit
  deriving DecidableEq

namespace Verdict

/-- The first of two verdicts that is not `fit`. -/
def andThen : Verdict → Verdict → Verdict
  | .fit, v => v
  | v, _ => v

/-- The first verdict of a row that is not `fit`. -/
def first : List Verdict → Verdict
  | [] => .fit
  | v :: vs => v.andThen (first vs)

/-- How something ends. -/
def of {α : Type} : Except Fault α → Verdict
  | .ok _ => .fit
  | .error (.config _) => .refused
  | .error _ => .unfit

/-- The verdict on a value that may be missing; then a default that passes takes its place. -/
def onGiven (check : Json → Verdict) : Option Json → Verdict
  | some v => check v
  | none => .fit

@[simp] theorem fit_andThen (v : Verdict) : fit.andThen v = v := rfl

@[simp] theorem refused_andThen (v : Verdict) : refused.andThen v = .refused := rfl

@[simp] theorem unfit_andThen (v : Verdict) : unfit.andThen v = .unfit := rfl

@[simp] theorem andThen_fit (v : Verdict) : v.andThen .fit = v := by cases v <;> rfl

theorem andThen_assoc (u v w : Verdict) : (u.andThen v).andThen w = u.andThen (v.andThen w) := by
  cases u <;> rfl

theorem first_append (us vs : List Verdict) : first (us ++ vs) = (first us).andThen (first vs) := by
  induction us with
  | nil => rfl
  | cons u us ih => rw [List.cons_append, first, first, ih, andThen_assoc]

variable {α β : Type}

/-- What is done in two steps ends as the first step does, or else as the second one does. -/
theorem of_bind {m : Except Fault α} {f : α → Except Fault β} {v : Verdict}
    (h : ∀ a, m = .ok a → of (f a) = v) : of (m >>= f) = (of m).andThen v := by
  cases m with
  | ok a => exact h a rfl
  | error fault => cases fault <;> rfl

theorem of_map (m : Except Fault α) (f : α → β) : of (m.map f) = of m := by
  cases m with
  | ok a => rfl
  | error fault => cases fault <;> rfl

/-- How a check ends whose refusals are reported as errors of the configuration. -/
def ofCheck (m : Except Fault α) : Verdict :=
  of (m.mapError (Fault.inConfig none))

/-- How a check ends that refuses what a question is answered with yes for. -/
def ofTest : Except Fault Bool → Verdict
  | .ok true => .refused
  | .ok false => .fit
  | .error fault => ofCheck (.error fault : Except Fault Bool)

theorem ofCheck_bind {m : Except Fault α} {f : α → Except Fault β} {v : Verdict}
    (h : ∀ a, m = .ok a → ofCheck (f a) = v) : ofCheck (m >>= f) = (ofCheck m).andThen v := by
  cases m with
  | ok a => exact h a rfl
  | error fault => cases fault <;> rfl

/-- A question that refuses a value, and what is done if it does not. -/
theorem ofCheck_test (m : Except Fault Bool) (problem : InvalidValue) (rest : Except Fault Unit) :
    ofCheck (m >>= fun b => if b then .error (.invalid problem) else rest) =
      (ofTest m).andThen (ofCheck rest) := by
  cases m with
  | ok b => cases b <;> rfl
  | error fault => cases fault <;> rfl

end Verdict

/-! ## The checks of single values -/

namespace Json

/-- The constructor name is a word: what consists of texts is searched for blanks. -/
def constructorVerdict (v : Json) : Verdict :=
  if v.truthy then
    match v with
    | .str s => if s.toList.any Text.isBlank then .refused else .fit
    | .arr items => listVerdict items
    | .obj fields => if fields.any fun f => holdsBlank.isBlankText f.1 then .refused else .fit
    | _ => .unfit
  else .refused
where
  /-- The first item that is a blank text, or no text at all, decides. -/
  listVerdict : List Json → Verdict
    | [] => .fit
    | .str s :: rest => if holdsBlank.isBlankText s then .refused else listVerdict rest
    | _ :: _ => .unfit

/-- A limit is a number that is not too small. -/
def limitVerdict (ints : Int → Bool) (floats : Float → Bool) : Json → Verdict
  | .int i => if ints i then .refused else .fit
  | .bool b => if ints (if b then 1 else 0) then .refused else .fit
  | .float x => if floats x then .refused else .fit
  | _ => .unfit

/-- The content marker is a word of letters. -/
def markerVerdict (v : Json) : Verdict :=
  if v.truthy then
    match v with
    | .str s => if s.toList.all Text.isLetter then .fit else .refused
    | _ => .unfit
  else .refused

/-- A policy that is a text is one of the known names; nothing else is checked. -/
def policyVerdict (names : List String) : Json → Verdict
  | .str s => if s ∈ names then .fit else .refused
  | _ => .fit

/-- A setting that is one of a few words; everything else is refused, whatever its kind. -/
def wordVerdict (words : List String) : Json → Verdict
  | .str s => if s ∈ words then .fit else .refused
  | _ => .refused

/-- The encoding is a text, and a known name. -/
def encodingVerdict : Json → Verdict
  | .str s => if !s.toList.contains '\x00' && isEncodingName s then .fit else .refused
  | _ => .unfit

/-- What can be asked for a key is an object, or a text or a list that does not hold the key. -/
def askVerdict (data : Json) (key : String) : Verdict :=
  match data with
  | .obj _ => .fit
  | .arr items =>
    if items.any fun v => match v with
        | .str s => s == key
        | _ => false then .unfit else .fit
  | .str s => if (s.splitOn key).length > 1 then .unfit else .fit
  | _ => .unfit

end Json

namespace Verdict

theorem ofTest_compareZero (sign : String) (v : Json) (ints : Int → Bool) (floats : Float → Bool) :
    ofTest (v.compareZero sign ints floats) = v.limitVerdict ints floats := by
  cases v with
  | int i => cases h : ints i <;> simp [Json.compareZero, Json.limitVerdict, ofTest, h]
  | bool b =>
    cases h : ints (if b then 1 else 0) <;>
      simp [Json.compareZero, Json.limitVerdict, ofTest, h]
  | float x => cases h : floats x <;> simp [Json.compareZero, Json.limitVerdict, ofTest, h]
  | null => rfl
  | str s => rfl
  | arr items => rfl
  | obj fields => rfl

theorem ofTest_anyBlank (items : List Json) :
    ofTest (Json.holdsBlank.anyBlank items) = Json.constructorVerdict.listVerdict items := by
  induction items with
  | nil => rfl
  | cons v rest ih =>
    cases v with
    | str s =>
      rw [Json.holdsBlank.anyBlank, Json.constructorVerdict.listVerdict]
      split
      · rfl
      · exact ih
    | null => rfl
    | bool b => rfl
    | int i => rfl
    | float x => rfl
    | arr items => rfl
    | obj fields => rfl

/-- A constructor name that counts as true is searched for blanks. -/
theorem ofTest_holdsBlank {v : Json} (h : v.truthy = true) :
    ofTest v.holdsBlank = v.constructorVerdict := by
  unfold Json.constructorVerdict
  rw [if_pos h]
  cases v with
  | str s => cases hblank : s.toList.any Text.isBlank <;> simp [Json.holdsBlank, ofTest, hblank]
  | arr items => exact ofTest_anyBlank items
  | obj fields =>
    cases hblank : fields.any (fun f => Json.holdsBlank.isBlankText f.1) <;>
      simp [Json.holdsBlank, ofTest, hblank]
  | null => rfl
  | bool b => rfl
  | int i => rfl
  | float x => rfl

end Verdict

/-! ## The checks of the components -/

open Verdict

theorem CompilerConfig.ofCheck_check (c : CompilerConfig) :
    ofCheck c.check = first [c.elementConstructor.constructorVerdict,
      c.cacheLimit.limitVerdict (· < 0) (· < 0.0)] := by
  unfold check
  cases htruthy : c.elementConstructor.truthy with
  | false =>
    have hrefused : c.elementConstructor.constructorVerdict = .refused :=
      if_neg (Bool.eq_false_iff.mp htruthy)
    rw [first, hrefused]
    rfl
  | true =>
    rw [first, ← ofTest_holdsBlank htruthy]
    have hlimit := ofCheck_test (c.cacheLimit.compareZero "<" (· < 0) (· < 0.0)) .cacheSize (.ok ())
    rw [ofTest_compareZero] at hlimit
    refine (ofCheck_test c.elementConstructor.holdsBlank .constructorName _).trans ?_
    exact congrArg _ hlimit

theorem BuilderConfig.ofCheck_check (c : BuilderConfig) :
    ofCheck c.check = first [c.maxDepth.limitVerdict (· ≤ 0) (· ≤ 0.0),
      c.contentMarker.markerVerdict] := by
  unfold check
  rw [first, ← ofTest_compareZero "<="]
  refine (ofCheck_test (c.maxDepth.compareZero "<=" (· ≤ 0) (· ≤ 0.0)) .maxDepth _).trans ?_
  refine congrArg _ ?_
  rw [first, first, andThen_fit]
  generalize c.contentMarker = marker
  unfold Json.markerVerdict
  cases htruthy : marker.truthy with
  | false => rfl
  | true =>
    cases marker with
    | str s => cases hletters : s.toList.all Text.isLetter <;> simp [hletters] <;> rfl
    | null => rfl
    | bool b => rfl
    | int i => rfl
    | float x => rfl
    | arr items => rfl
    | obj fields => rfl

theorem Json.wordVerdict_of_ne {v : Json} {words : List String} (h : ∀ w ∈ words, v ≠ .str w) :
    v.wordVerdict words = .refused := by
  cases v with
  | str s => exact if_neg fun hs => h s hs rfl
  | null => rfl
  | bool b => rfl
  | int i => rfl
  | float x => rfl
  | arr items => rfl
  | obj fields => rfl

theorem ofCheck_readVersion (v : Json) :
    ofCheck (XmlVersion.read v) = v.wordVerdict ["1.0", "1.1"] := by
  unfold XmlVersion.read
  split
  · rfl
  · rfl
  · rename_i hfirst hsecond
    rw [Json.wordVerdict_of_ne]
    · rfl
    · simp only [List.forall_mem_cons]
      exact ⟨hfirst, hsecond, nofun⟩

theorem ofCheck_readStandaloneWord (v : Json) :
    ofCheck (readStandaloneWord v) = v.wordVerdict ["yes", "no"] := by
  unfold readStandaloneWord
  split
  · rfl
  · rfl
  · rename_i hyes hno
    rw [Json.wordVerdict_of_ne]
    · rfl
    · simp only [List.forall_mem_cons]
      exact ⟨hyes, hno, nofun⟩

theorem DocumentConfig.ofCheck_check (c : DocumentConfig) :
    ofCheck c.check = first [c.version.wordVerdict ["1.0", "1.1"],
      c.standalone.wordVerdict ["yes", "no"], c.encoding.encodingVerdict] := by
  unfold check
  rw [first, ← ofCheck_readVersion]
  refine ofCheck_bind fun _ _ => ?_
  rw [first, ← ofCheck_readStandaloneWord]
  refine ofCheck_bind fun _ _ => ?_
  rw [first, first, andThen_fit]
  generalize c.encoding = encoding
  cases encoding with
  | str s =>
    unfold Json.encodingVerdict
    dsimp only
    cases s.toList.contains '\x00' <;> cases isEncodingName s <;> rfl
  | null => rfl
  | bool b => rfl
  | int i => rfl
  | float x => rfl
  | arr items => rfl
  | obj fields => rfl

/-! ## Reading the components -/

/-- A key of an object, or of what has no keys. -/
theorem askField_cases (data : Json) (key : String) :
    data.askVerdict key = .fit ∧ data.askField key = .ok (data.get? key) ∨
      data.askVerdict key = .unfit ∧ ∃ problem, data.askField key = .error (.wrongKind problem) := by
  cases data with
  | obj fields => exact .inl ⟨rfl, rfl⟩
  | arr items =>
    by_cases hheld : (items.any fun v => match v with
      | .str s => s == key
      | _ => false) = true
    · exact .inr ⟨if_pos hheld, _, if_pos hheld⟩
    · exact .inl ⟨if_neg hheld, if_neg hheld⟩
  | str s =>
    by_cases hheld : (s.splitOn key).length > 1
    · exact .inr ⟨if_pos hheld, _, if_pos hheld⟩
    · exact .inl ⟨if_neg hheld, if_neg hheld⟩
  | null => exact .inr ⟨rfl, _, rfl⟩
  | bool b => exact .inr ⟨rfl, _, rfl⟩
  | int i => exact .inr ⟨rfl, _, rfl⟩
  | float x => exact .inr ⟨rfl, _, rfl⟩

variable {α β : Type}

/-- Asking for a setting comes first, and then what is done with it. -/
theorem Verdict.of_askField_bind (data : Json) (key : String)
    (f : Option Json → Except Fault α) :
    of (data.askField key >>= f) = (data.askVerdict key).andThen (of (f (data.get? key))) := by
  rcases askField_cases data key with ⟨hverdict, hask⟩ | ⟨hverdict, problem, hask⟩
  · rw [hverdict, hask]
    rfl
  · rw [hverdict, hask]
    rfl

theorem Verdict.of_askFieldOr_bind (data : Json) (key : String) (default : Json)
    (f : Json → Except Fault α) :
    of (data.askFieldOr key default >>= f) =
      (data.askVerdict key).andThen (of (f ((data.get? key).getD default))) := by
  rw [← of_askField_bind data key fun v => f (v.getD default)]
  unfold Json.askFieldOr
  cases data.askField key <;> rfl

/-- What is taken for a policy: what a text names, and anything else as it is. -/
theorem Json.askChoice_cases (data : Json) (key : String) (all : List β) (label : β → String)
    (default : Choice β) :
    (data.askVerdict key = .unfit ∧
      ∃ problem, data.askChoice key all label default = .error (.wrongKind problem)) ∨
    (data.askVerdict key = .fit ∧ onGiven (policyVerdict (all.map label)) (data.get? key) = .refused ∧
      ∃ problem, data.askChoice key all label default = .error (.config problem)) ∨
    data.askVerdict key = .fit ∧ onGiven (policyVerdict (all.map label)) (data.get? key) = .fit ∧
      ∃ c, data.askChoice key all label default = .ok c ∧
        ((∃ a, default = .known a) →
          ((∃ a, c = .known a) ↔ ∀ v, data.get? key = some v → ∃ s, v = .str s)) := by
  rcases askField_cases data key with ⟨hverdict, hask⟩ | ⟨hverdict, problem, hask⟩
  · refine .inr ?_
    unfold askChoice
    rw [hask, hverdict]
    cases hget : data.get? key with
    | none => exact .inr ⟨rfl, rfl, default, rfl, fun h => ⟨fun _ => nofun, fun _ => h⟩⟩
    | some v =>
      cases v with
      | str s =>
        cases hfind : all.find? fun a => label a == s with
        | none =>
          have hnot : s ∉ all.map label := by
            intro hs
            obtain ⟨a, ha, hlabel⟩ := List.mem_map.mp hs
            exact List.find?_eq_none.mp hfind a ha (beq_iff_eq.mpr hlabel)
          refine .inl ⟨rfl, if_neg hnot, .unknownPolicy (Text.quoted s) key (all.map label), ?_⟩
          simp only [bind, Except.bind, hfind]
        | some a =>
          have hin : s ∈ all.map label := by
            have hlabel := List.find?_some hfind
            exact List.mem_map.mpr ⟨a, List.mem_of_find?_eq_some hfind, beq_iff_eq.mp hlabel⟩
          refine .inr ⟨rfl, if_pos hin, .known a, ?_, fun _ => ?_⟩
          · simp only [bind, Except.bind, hfind]
          · exact ⟨fun _ v hv => ⟨s, (Option.some.inj hv).symm⟩, fun _ => ⟨a, rfl⟩⟩
      | _ =>
        refine .inr ⟨rfl, rfl, _, rfl, fun _ => ⟨nofun, fun h => ?_⟩⟩
        obtain ⟨s, hs⟩ := h _ rfl
        cases hs
  · unfold askChoice
    rw [hask]
    exact .inl ⟨hverdict, problem, rfl⟩

/-- The policy that a text names is looked up. -/
theorem Verdict.of_askChoice_bind (data : Json) (key : String) (all : List β) (label : β → String)
    (default : Choice β) {f : Choice β → Except Fault α} {v : Verdict} (h : ∀ c, of (f c) = v) :
    of (data.askChoice key all label default >>= f) =
      (data.askVerdict key).andThen
        ((onGiven (Json.policyVerdict (all.map label)) (data.get? key)).andThen v) := by
  rcases data.askChoice_cases key all label default with
    ⟨hverdict, problem, hask⟩ | ⟨hverdict, hpolicy, problem, hask⟩ | ⟨hverdict, hpolicy, c, hask, -⟩
  · rw [hverdict, hask]
    rfl
  · rw [hverdict, hpolicy, hask]
    rfl
  · rw [hverdict, hpolicy, hask]
    exact h c

/-- A default that passes takes the place of what is missing. -/
theorem Verdict.onGiven_eq {check : Json → Verdict} {default : Json} (h : check default = .fit)
    (given : Option Json) : check (given.getD default) = onGiven check given := by
  cases given with
  | none => exact h
  | some v => rfl

/-- The verdicts on data given for the compiler settings. -/
def CompilerConfig.verdicts (data : Json) : List Verdict := [
  data.askVerdict "element_ctor_name", data.askVerdict "enable_template_cache",
  data.askVerdict "cache_size_limit",
  onGiven Json.constructorVerdict (data.get? "element_ctor_name"),
  onGiven (Json.limitVerdict (· < 0) (· < 0.0)) (data.get? "cache_size_limit")]

/-- The verdicts on data given for the settings for running blocks. -/
def RuntimeConfig.verdicts (data : Json) : List Verdict := [
  data.askVerdict "strict_variables", data.askVerdict "case_insensitive_commands",
  data.askVerdict "register_builtins"]

/-- The verdicts on data given for the settings for building elements. -/
def BuilderConfig.verdicts (data : Json) : List Verdict := [
  data.askVerdict "namespace_collision_policy",
  onGiven (Json.policyVerdict ["WARN", "STRICT"]) (data.get? "namespace_collision_policy"),
  data.askVerdict "duplicate_attribute_policy",
  onGiven (Json.policyVerdict ["REJECT", "FIRST", "LAST"]) (data.get? "duplicate_attribute_policy"),
  data.askVerdict "strict_arguments", data.askVerdict "max_depth", data.askVerdict "content_marker",
  onGiven (Json.limitVerdict (· ≤ 0) (· ≤ 0.0)) (data.get? "max_depth"),
  onGiven Json.markerVerdict (data.get? "content_marker")]

/-- The verdicts on data given for the declaration settings. -/
def DocumentConfig.verdicts (data : Json) : List Verdict := [
  data.askVerdict "version", data.askVerdict "encoding", data.askVerdict "standalone",
  onGiven (Json.wordVerdict ["1.0", "1.1"]) (data.get? "version"),
  onGiven (Json.wordVerdict ["yes", "no"]) (data.get? "standalone"),
  onGiven Json.encodingVerdict (data.get? "encoding")]

theorem CompilerConfig.of_read (data : Json) : of (read data) = first (verdicts data) := by
  have hconstructor : (Json.str "New-XElement").constructorVerdict = .fit := by decide
  have hlimit : (Json.int 256).limitVerdict (· < 0) (· < 0.0) = .fit := rfl
  unfold read verdicts
  simp only [of_askFieldOr_bind, of_map, first, ← onGiven_eq hconstructor, ← onGiven_eq hlimit]
  rw [← ofCheck, CompilerConfig.ofCheck_check]
  rfl

theorem RuntimeConfig.of_read (data : Json) : of (read data) = first (verdicts data) := by
  unfold read verdicts
  simp only [of_askFieldOr_bind, first]
  rfl

theorem BuilderConfig.of_read (data : Json) : of (read data) = first (verdicts data) := by
  have hdepth : (Json.int 64).limitVerdict (· ≤ 0) (· ≤ 0.0) = .fit := rfl
  have hmarker : (Json.str "CONTENT").markerVerdict = .fit := by decide
  unfold read verdicts
  simp only [first]
  refine of_askChoice_bind _ _ _ _ _ fun collisions => ?_
  refine of_askChoice_bind _ _ _ _ _ fun duplicates => ?_
  simp only [of_askFieldOr_bind, of_map, ← onGiven_eq hdepth, ← onGiven_eq hmarker]
  rw [← ofCheck, BuilderConfig.ofCheck_check]
  rfl

theorem DocumentConfig.of_read (data : Json) : of (read data) = first (verdicts data) := by
  have hversion : (Json.str "1.0").wordVerdict ["1.0", "1.1"] = .fit := by decide
  have hstandalone : (Json.str "yes").wordVerdict ["yes", "no"] = .fit := by decide
  have hencoding : (Json.str "utf-8").encodingVerdict = .fit := by decide
  unfold read verdicts
  simp only [of_askFieldOr_bind, of_map, first, ← onGiven_eq hversion, ← onGiven_eq hstandalone,
    ← onGiven_eq hencoding]
  rw [← ofCheck, DocumentConfig.ofCheck_check]
  rfl

/-! ## What is read -/

theorem exists_of_bind_eq_ok {m : Except Fault α} {f : α → Except Fault β} {b : β}
    (h : m >>= f = .ok b) : ∃ a, m = .ok a ∧ f a = .ok b := by
  cases m with
  | ok a => exact ⟨a, rfl, h⟩
  | error fault => cases h

theorem eq_of_askFieldOr_eq_ok {data : Json} {key : String} {default v : Json}
    (h : data.askFieldOr key default = .ok v) : v = (data.get? key).getD default := by
  unfold Json.askFieldOr at h
  rcases askField_cases data key with ⟨-, hask⟩ | ⟨-, problem, hask⟩
  · rw [hask] at h
    cases h
    rfl
  · rw [hask] at h
    cases h

/-- A checked component passes its checks. -/
theorem eq_and_check_of_eq_ok {c d : α} {check : Except Fault Unit}
    (h : ((check.mapError (Fault.inConfig none)).map fun _ => c) = .ok d) :
    d = c ∧ check = .ok () := by
  cases check with
  | ok => exact ⟨(Except.ok.inj h).symm, rfl⟩
  | error fault => cases h

theorem CompilerConfig.of_read_eq_ok {data : Json} {c : CompilerConfig} (h : read data = .ok c) :
    c.elementConstructor = (data.get? "element_ctor_name").getD (.str "New-XElement") ∧
      c.check = .ok () := by
  unfold read at h
  obtain ⟨constructor, hconstructor, h⟩ := exists_of_bind_eq_ok h
  obtain ⟨keeps, -, h⟩ := exists_of_bind_eq_ok h
  obtain ⟨limit, -, h⟩ := exists_of_bind_eq_ok h
  obtain ⟨rfl, hcheck⟩ := eq_and_check_of_eq_ok h
  exact ⟨eq_of_askFieldOr_eq_ok hconstructor, hcheck⟩

theorem RuntimeConfig.of_read_eq_ok {data : Json} {c : RuntimeConfig} (h : read data = .ok c) :
    c.hasBuiltins = (data.get? "register_builtins").getD (.bool true) := by
  unfold read at h
  obtain ⟨strict, -, h⟩ := exists_of_bind_eq_ok h
  obtain ⟨folds, -, h⟩ := exists_of_bind_eq_ok h
  obtain ⟨builtins, hbuiltins, h⟩ := exists_of_bind_eq_ok h
  cases h
  exact eq_of_askFieldOr_eq_ok hbuiltins

theorem DocumentConfig.of_read_eq_ok {data : Json} {c : DocumentConfig} (h : read data = .ok c) :
    c.check = .ok () := by
  unfold read at h
  obtain ⟨version, -, h⟩ := exists_of_bind_eq_ok h
  obtain ⟨encoding, -, h⟩ := exists_of_bind_eq_ok h
  obtain ⟨standalone, -, h⟩ := exists_of_bind_eq_ok h
  obtain ⟨rfl, hcheck⟩ := eq_and_check_of_eq_ok h
  exact hcheck

/-- Whether both policies are known ones. -/
def BuilderConfig.HasPolicies (c : BuilderConfig) : Prop :=
  (∃ p, c.collisions = .known p) ∧ ∃ p, c.duplicates = .known p

/-- Whether a key has a text, if it has a value at all. -/
def Json.TextIfGiven (data : Json) (key : String) : Prop :=
  ∀ v, data.get? key = some v → ∃ s, v = .str s

theorem eq_known_iff_of_askChoice_eq_ok {data : Json} {key : String} {all : List β}
    {label : β → String} {a : β} {c : Choice β}
    (h : data.askChoice key all label (.known a) = .ok c) :
    (∃ a, c = .known a) ↔ data.TextIfGiven key := by
  rcases data.askChoice_cases key all label (.known a) with
    ⟨-, problem, hask⟩ | ⟨-, -, problem, hask⟩ | ⟨-, -, d, hask, hknown⟩
  · rw [hask] at h
    cases h
  · rw [hask] at h
    cases h
  · rw [hask] at h
    cases h
    exact hknown ⟨a, rfl⟩

theorem BuilderConfig.of_read_eq_ok {data : Json} {c : BuilderConfig} (h : read data = .ok c) :
    (c.HasPolicies ↔ data.TextIfGiven "namespace_collision_policy" ∧
      data.TextIfGiven "duplicate_attribute_policy") ∧ c.check = .ok () := by
  unfold read at h
  obtain ⟨collisions, hcollisions, h⟩ := exists_of_bind_eq_ok h
  obtain ⟨duplicates, hduplicates, h⟩ := exists_of_bind_eq_ok h
  obtain ⟨strict, -, h⟩ := exists_of_bind_eq_ok h
  obtain ⟨depth, -, h⟩ := exists_of_bind_eq_ok h
  obtain ⟨marker, -, h⟩ := exists_of_bind_eq_ok h
  obtain ⟨rfl, hcheck⟩ := eq_and_check_of_eq_ok h
  exact ⟨and_congr (eq_known_iff_of_askChoice_eq_ok hcollisions)
    (eq_known_iff_of_askChoice_eq_ok hduplicates), hcheck⟩

/-! ## Reading a configuration -/

namespace Config

/-- The verdicts on a component that may be missing. -/
def componentVerdicts (verdicts : Json → List Verdict) : Option Json → List Verdict
  | some data => verdicts data
  | none => []

/-- A setting of a component as it is given, or a default. -/
def settingOr (fields : List (String × Json)) (component key : String) (default : Json) : Json :=
  (((Fields.get? fields component).bind (Json.get? key))).getD default

/-- The constructor command exists: it is another one than the built-in one, or there are built-in
commands. -/
def constructorExists (fields : List (String × Json)) : Verdict :=
  match settingOr fields "compiler" "element_ctor_name" (.str "New-XElement") with
  | .str "New-XElement" =>
    if (settingOr fields "runtime" "register_builtins" (.bool true)).truthy then .fit else .refused
  | _ => .fit

/-- The verdicts on what an object gives for a configuration, in the order in which they are asked
for. -/
def verdicts (fields : List (String × Json)) : List Verdict :=
  componentVerdicts CompilerConfig.verdicts (Fields.get? fields "compiler")
    ++ componentVerdicts RuntimeConfig.verdicts (Fields.get? fields "runtime")
    ++ componentVerdicts BuilderConfig.verdicts (Fields.get? fields "builder")
    ++ componentVerdicts DocumentConfig.verdicts (Fields.get? fields "document")
    ++ [constructorExists fields]

/-- A component is read if it is given, and then the rest. -/
theorem of_readComponent_bind {fields : List (String × Json)} {key : String} {default : α}
    {read : Json → Except Fault α} {verdicts : Json → List Verdict}
    (hread : ∀ data, of (read data) = first (verdicts data)) {f : α → Except Fault β} {v : Verdict}
    (h : ∀ a, readComponent (.obj fields) key default read = .ok a → of (f a) = v) :
    of (readComponent (.obj fields) key default read >>= f) =
      (first (componentVerdicts verdicts (Fields.get? fields key))).andThen v := by
  rw [of_bind h]
  refine congrArg (fun u => andThen u v) ?_
  have hask : (Json.obj fields).askField key = .ok (Fields.get? fields key) := rfl
  rw [readComponent, hask]
  cases Fields.get? fields key with
  | none => rfl
  | some data => exact hread data

/-- A component that was read is its default, or it was read from what is given for it. -/
theorem readComponent_eq_ok {fields : List (String × Json)} {key : String} {default a : α}
    {read : Json → Except Fault α} (h : readComponent (.obj fields) key default read = .ok a) :
    Fields.get? fields key = none ∧ a = default ∨
      ∃ data, Fields.get? fields key = some data ∧ read data = .ok a := by
  have hask : (Json.obj fields).askField key = .ok (Fields.get? fields key) := rfl
  rw [readComponent, hask] at h
  cases hget : Fields.get? fields key with
  | none =>
    rw [hget] at h
    exact .inl ⟨rfl, (Except.ok.inj h).symm⟩
  | some data =>
    rw [hget] at h
    exact .inr ⟨data, rfl, h⟩

variable {fields : List (String × Json)}

theorem compiler_of_readComponent {c : CompilerConfig}
    (h : readComponent (.obj fields) "compiler" {} CompilerConfig.read = .ok c) :
    c.elementConstructor =
        settingOr fields "compiler" "element_ctor_name" (.str "New-XElement") ∧
      c.check = .ok () := by
  unfold settingOr
  rcases readComponent_eq_ok h with ⟨hget, rfl⟩ | ⟨data, hget, hread⟩
  · rw [hget]
    exact ⟨rfl, by rfl⟩
  · rw [hget]
    exact CompilerConfig.of_read_eq_ok hread

theorem runtime_of_readComponent {c : RuntimeConfig}
    (h : readComponent (.obj fields) "runtime" {} RuntimeConfig.read = .ok c) :
    c.hasBuiltins = settingOr fields "runtime" "register_builtins" (.bool true) := by
  unfold settingOr
  rcases readComponent_eq_ok h with ⟨hget, rfl⟩ | ⟨data, hget, hread⟩
  · rw [hget]
    rfl
  · rw [hget]
    exact RuntimeConfig.of_read_eq_ok hread

/-- Whether the policies that an object gives are given as texts. -/
def PoliciesAreTexts (fields : List (String × Json)) : Prop :=
  ∀ data, Fields.get? fields "builder" = some data →
    data.TextIfGiven "namespace_collision_policy" ∧ data.TextIfGiven "duplicate_attribute_policy"

theorem builder_of_readComponent {c : BuilderConfig}
    (h : readComponent (.obj fields) "builder" {} BuilderConfig.read = .ok c) :
    (c.HasPolicies ↔ PoliciesAreTexts fields) ∧ c.check = .ok () := by
  unfold PoliciesAreTexts
  rcases readComponent_eq_ok h with ⟨hget, rfl⟩ | ⟨data, hget, hread⟩
  · refine ⟨⟨fun _ data hdata => ?_, fun _ => ⟨⟨_, rfl⟩, _, rfl⟩⟩, by rfl⟩
    rw [hget] at hdata
    cases hdata
  · obtain ⟨hpolicies, hcheck⟩ := BuilderConfig.of_read_eq_ok hread
    refine ⟨hpolicies.trans ⟨fun htexts other hother => ?_, fun htexts => htexts data hget⟩, hcheck⟩
    rw [hget] at hother
    exact Option.some.inj hother ▸ htexts

theorem document_of_readComponent {c : DocumentConfig}
    (h : readComponent (.obj fields) "document" {} DocumentConfig.read = .ok c) :
    c.check = .ok () := by
  rcases readComponent_eq_ok h with ⟨-, rfl⟩ | ⟨data, -, hread⟩
  · rfl
  · exact DocumentConfig.of_read_eq_ok hread

/-- Where the components pass their checks, the constructor command decides. -/
theorem of_checked {c : Config} (hcompiler : c.compiler.check = .ok ())
    (hbuilder : c.builder.check = .ok ()) (hdocument : c.document.check = .ok ())
    (hconstructor : c.compiler.elementConstructor =
      settingOr fields "compiler" "element_ctor_name" (.str "New-XElement"))
    (hbuiltins : c.runtime.hasBuiltins =
      settingOr fields "runtime" "register_builtins" (.bool true)) :
    of c.checked = constructorExists fields := by
  unfold checked check constructorExists
  rw [of_map, hcompiler, hbuilder, hdocument, hconstructor, hbuiltins]
  generalize settingOr fields "compiler" "element_ctor_name" (.str "New-XElement") = constructor
  generalize (settingOr fields "runtime" "register_builtins" (.bool true)).truthy = hasBuiltins
  dsimp only [bind, Except.bind, Except.mapError]
  cases constructor with
  | str s =>
    by_cases hname : s = "New-XElement"
    · subst hname
      cases hasBuiltins <;> rfl
    · simp [hname, of]
  | null => rfl
  | bool b => rfl
  | int i => rfl
  | float x => rfl
  | arr items => rfl
  | obj fields => rfl

/-- **Reading a configuration ends as the first verdict says that is not `fit`.** -/
theorem of_read (fields : List (String × Json)) :
    of (read (.obj fields)) = first (verdicts fields) := by
  unfold read verdicts
  simp only [first_append, andThen_assoc]
  refine of_readComponent_bind CompilerConfig.of_read fun compiler hcompiler => ?_
  refine of_readComponent_bind RuntimeConfig.of_read fun runtime hruntime => ?_
  refine of_readComponent_bind BuilderConfig.of_read fun builder hbuilder => ?_
  refine of_readComponent_bind DocumentConfig.of_read fun document hdocument => ?_
  rw [of_askFieldOr_bind, of_askFieldOr_bind, first, first, andThen_fit]
  obtain ⟨hconstructor, hchecked⟩ := compiler_of_readComponent hcompiler
  exact of_checked hchecked (builder_of_readComponent hbuilder).2
    (document_of_readComponent hdocument) hconstructor (runtime_of_readComponent hruntime)

theorem checked_eq_ok {c d : Config} (h : c.checked = .ok d) : d = c := by
  unfold checked at h
  cases hcheck : c.check with
  | ok =>
    rw [hcheck] at h
    exact (Except.ok.inj h).symm
  | error fault =>
    rw [hcheck] at h
    cases h

/-- A configuration that was read has components that pass their checks. -/
theorem of_read_eq_ok {c : Config} (h : read (.obj fields) = .ok c) :
    (c.builder.HasPolicies ↔ PoliciesAreTexts fields) ∧ c.compiler.check = .ok () ∧
      c.builder.check = .ok () ∧ c.document.check = .ok () := by
  unfold read at h
  obtain ⟨compiler, hcompiler, h⟩ := exists_of_bind_eq_ok h
  obtain ⟨runtime, -, h⟩ := exists_of_bind_eq_ok h
  obtain ⟨builder, hbuilder, h⟩ := exists_of_bind_eq_ok h
  obtain ⟨document, hdocument, h⟩ := exists_of_bind_eq_ok h
  obtain ⟨name, -, h⟩ := exists_of_bind_eq_ok h
  obtain ⟨description, -, h⟩ := exists_of_bind_eq_ok h
  obtain rfl : c = ⟨compiler, runtime, builder, document, name, description⟩ := checked_eq_ok h
  obtain ⟨hpolicies, hchecked⟩ := builder_of_readComponent hbuilder
  exact ⟨hpolicies, (compiler_of_readComponent hcompiler).2, hchecked,
    document_of_readComponent hdocument⟩

/-! ## The documented way -/

/-- Whether reading a configuration ends in the documented way: with a configuration whose policies
are known ones and whose components pass their checks, or with an error of the configuration. -/
def Documented : Except Fault Config → Prop
  | .ok c => c.builder.HasPolicies ∧ c.compiler.check = .ok () ∧ c.builder.check = .ok () ∧
      c.document.check = .ok ()
  | .error fault => ∃ problem, fault = .config problem

/-- **Which data are read in the documented way.** For every object, whatever it holds under any
key: if the first verdict that is not `fit` refuses a value, then the error is one of the
configuration; if it is that a check cannot be made with a value of this kind, then the reading ends
in another error; and if there is none, a configuration is read, and its policies are known ones
exactly if those that are given are texts. -/
theorem read_documented_iff (fields : List (String × Json)) :
    of (read (.obj fields)) = first (verdicts fields) ∧
      (Documented (read (.obj fields)) ↔
        first (verdicts fields) = .refused ∨
          first (verdicts fields) = .fit ∧ PoliciesAreTexts fields) := by
  refine ⟨of_read fields, ?_⟩
  rw [← of_read fields]
  cases hread : read (.obj fields) with
  | ok c =>
    obtain ⟨hpolicies, hchecked⟩ := of_read_eq_ok hread
    refine ⟨fun h => .inr ⟨rfl, hpolicies.mp h.1⟩, fun h => ?_⟩
    rcases h with h | ⟨-, htexts⟩
    · cases h
    · exact ⟨hpolicies.mpr htexts, hchecked⟩
  | error fault =>
    refine ⟨fun ⟨problem, hfault⟩ => .inl (hfault ▸ rfl), fun h => ?_⟩
    cases fault with
    | config problem => exact ⟨problem, rfl⟩
    | _ => rcases h with h | ⟨h, -⟩ <;> cases h

/-- Data with a limit that is no number, with a component that is no object, and with a policy that
is no text. -/
theorem read_undocumented :
    ¬Documented (read (.obj [("compiler", .obj [("cache_size_limit", .str "x")])])) ∧
      ¬Documented (read (.obj [("compiler", .int 5)])) ∧
      ¬Documented (read (.obj [("builder", .obj [("namespace_collision_policy", .int 5)])])) := by
  refine ⟨?_, ?_, ?_⟩
  · rintro ⟨problem, hfault⟩
    cases hfault
  · rintro ⟨problem, hfault⟩
    cases hfault
  · rintro ⟨⟨⟨policy, hpolicy⟩, -⟩, -⟩
    cases hpolicy

end Config

end TagScript
