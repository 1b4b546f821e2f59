import TagScript.Proofs.Build.DroppedArguments
import TagScript.Proofs.Build.SparedStreams

/-!
# Attributes that are given twice

Names and values are taken one after another, and a name that was met before is handled as the
policy says. Names are compared after their prefixes were resolved.

* `ReadPair` — a name and a value as they are read, and what is reported meanwhile.
* `DuplicatePolicy.addPairs` — the attributes that pairs come to under a policy.
* **`DuplicatePolicy.collects_addPairs`** — these are the names in the order in which they were met
  first, each with its first or its last value.
* **`DuplicatePolicy.addPairs_reject_iff`** — pairs are refused exactly if a name is met twice.
* `Build.ReadAs` — how a row of arguments is read as pairs.
* **`Build.feedAll_readAs`** — an element takes such a row as the policy says.
* **`Build.element_repeats`** — what an element comes to whose arguments are pairs.
-/

namespace TagScript

/-! ## Pairs under a policy -/

/-- A name and a value as they are read. -/
structure ReadPair where
  /-- The name, its prefix resolved. -/
  name : QName
  /-- The text of the value. -/
  text : String
  /-- What is reported while the two are read. -/
  reports : Array Diagnostic

/-- The attribute that a pair makes. -/
def ReadPair.made (p : ReadPair) : Attribute :=
  ⟨p.name, p.text⟩

/-- The names of pairs. -/
def ReadPair.names (pairs : List ReadPair) : List QName :=
  pairs.map (·.name)

/-- The names of attributes. -/
def Attribute.names (attributes : List Attribute) : List QName :=
  attributes.map (·.name)

namespace DuplicatePolicy

/-- The attributes after one more pair, or the name that is refused. -/
def addPair (policy : DuplicatePolicy) (attributes : List Attribute) (p : ReadPair) :
    Except QName (List Attribute) :=
  if p.name ∈ Attribute.names attributes then
    match policy with
    | .reject => .error p.name
    | .first => .ok attributes
    | .last => .ok (attributes.map fun a => if a.name = p.name then p.made else a)
  else .ok (attributes ++ [p.made])

/-- The attributes after more pairs, or the first name that is refused. -/
def addPairs (policy : DuplicatePolicy) (attributes : List Attribute) :
    List ReadPair → Except QName (List Attribute)
  | [] => .ok attributes
  | p :: pairs =>
    match policy.addPair attributes p with
    | .ok attributes => policy.addPairs attributes pairs
    | .error q => .error q

/-- Whether attributes are what pairs come to: the distinct names in the order in which they were
met first, each with its first value or with its last one, as the policy says. -/
structure Collects (policy : DuplicatePolicy) (pairs : List ReadPair)
    (attributes : List Attribute) : Prop where
  /-- The names in the order in which they were met first. -/
  names_eq : Attribute.names attributes = (ReadPair.names pairs).eraseDups
  /-- Each of them has the value of the first pair, or of the last one, with this name. -/
  values : ∀ a ∈ attributes, ∃ before p after, pairs = before ++ p :: after ∧ a = p.made ∧
    (policy = .first → p.name ∉ ReadPair.names before) ∧
    (policy = .last → p.name ∉ ReadPair.names after)

variable {policy : DuplicatePolicy} {attributes attributes' : List Attribute}
  {earlier pairs : List ReadPair} {p : ReadPair} {q : QName}

theorem addPair_of_new (h : p.name ∉ Attribute.names attributes) :
    policy.addPair attributes p = .ok (attributes ++ [p.made]) :=
  if_neg h

/-- A pair with a new value leaves the names and their order. -/
theorem names_replaced (attributes : List Attribute) (p : ReadPair) :
    Attribute.names (attributes.map fun a => if a.name = p.name then p.made else a) =
      Attribute.names attributes := by
  unfold Attribute.names
  rw [List.map_map]
  apply List.map_congr_left
  intro a _
  by_cases h : a.name = p.name
  · simp [h, ReadPair.made]
  · simp [h]

/-- What one more pair with a name that was met before does, where that is tolerated. -/
theorem names_of_known (hknown : p.name ∈ Attribute.names attributes)
    (h : policy.addPair attributes p = .ok attributes') :
    Attribute.names attributes' = Attribute.names attributes := by
  unfold addPair at h
  rw [if_pos hknown] at h
  cases policy with
  | reject => cases h
  | first =>
    cases h
    rfl
  | last =>
    cases h
    exact names_replaced attributes p

theorem names_addPair (h : policy.addPair attributes p = .ok attributes') :
    q ∈ Attribute.names attributes' ↔ q = p.name ∨ q ∈ Attribute.names attributes := by
  by_cases hknown : p.name ∈ Attribute.names attributes
  · rw [names_of_known hknown h]
    constructor
    · exact .inr
    · rintro (rfl | hq)
      · exact hknown
      · exact hq
  · rw [addPair_of_new hknown] at h
    cases h
    simp [Attribute.names, ReadPair.made, or_comm]

/-! ## What pairs come to -/

/-- One more name is new, or was met before. -/
theorem eraseDups_snoc (names : List QName) (q : QName) :
    (names ++ [q]).eraseDups = names.eraseDups ++ if q ∈ names then [] else [q] := by
  rw [List.eraseDups_append]
  by_cases h : q ∈ names
  · simp [List.removeAll, h]
  · simp [List.removeAll, h, List.eraseDups_cons]

theorem Collects.mem_names (h : policy.Collects earlier attributes) :
    q ∈ Attribute.names attributes ↔ q ∈ ReadPair.names earlier := by
  rw [h.names_eq, List.mem_eraseDups]

/-- A value that was the one of its name still is after a pair with another name. -/
theorem exists_snoc {a : Attribute} (hne : policy = .last → a.name ≠ p.name)
    (h : ∃ before r after, earlier = before ++ r :: after ∧ a = r.made ∧
      (policy = .first → r.name ∉ ReadPair.names before) ∧
      (policy = .last → r.name ∉ ReadPair.names after)) :
    ∃ before r after, earlier ++ [p] = before ++ r :: after ∧ a = r.made ∧
      (policy = .first → r.name ∉ ReadPair.names before) ∧
      (policy = .last → r.name ∉ ReadPair.names after) := by
  obtain ⟨before, r, after, rfl, rfl, hfirst, hlast⟩ := h
  refine ⟨before, r, after ++ [p], by simp, rfl, hfirst, fun hpolicy => ?_⟩
  have hr := hlast hpolicy
  have hp : r.name ≠ p.name := hne hpolicy
  simp only [ReadPair.names, List.map_append, List.map_cons, List.map_nil, List.mem_append,
    List.mem_singleton]
  rintro (hmem | heq)
  · exact hr hmem
  · exact hp heq

/-- One more pair: a new name comes to the end, and of a known name a value is kept. -/
theorem collects_addPair (h : policy.Collects earlier attributes)
    (hadd : policy.addPair attributes p = .ok attributes') :
    policy.Collects (earlier ++ [p]) attributes' := by
  have hnames : ReadPair.names (earlier ++ [p]) = ReadPair.names earlier ++ [p.name] :=
    List.map_append
  by_cases hknown : p.name ∈ Attribute.names attributes
  · constructor
    · rw [names_of_known hknown hadd, hnames, eraseDups_snoc, if_pos (h.mem_names.mp hknown),
        List.append_nil, h.names_eq]
    · intro a ha
      unfold addPair at hadd
      rw [if_pos hknown] at hadd
      cases policy with
      | reject => cases hadd
      | first =>
        cases hadd
        exact exists_snoc nofun (h.values a ha)
      | last =>
        cases hadd
        obtain ⟨b, hb, rfl⟩ := List.mem_map.mp ha
        by_cases hname : b.name = p.name
        · rw [if_pos hname]
          exact ⟨earlier, p, [], rfl, rfl, nofun, fun _ => List.not_mem_nil⟩
        · rw [if_neg hname]
          exact exists_snoc (fun _ => hname) (h.values b hb)
  · rw [addPair_of_new hknown] at hadd
    cases hadd
    have hnew : p.name ∉ ReadPair.names earlier := fun hmem => hknown (h.mem_names.mpr hmem)
    constructor
    · rw [hnames, eraseDups_snoc, if_neg hnew, ← h.names_eq]
      exact List.map_append
    · intro a ha
      rcases List.mem_append.mp ha with hold | hmade
      · have hother : a.name ≠ p.name := by
          intro heq
          exact hknown (heq ▸ List.mem_map_of_mem hold)
        exact exists_snoc (fun _ => hother) (h.values a hold)
      · obtain rfl := List.mem_singleton.mp hmade
        exact ⟨earlier, p, [], rfl, rfl, fun _ => hnew, fun _ => List.not_mem_nil⟩

/-- **Pairs come to the distinct names in the order in which they were met first**, each with its
first or its last value, as the policy says. -/
theorem collects_addPairs (h : policy.Collects earlier attributes)
    (hadd : policy.addPairs attributes pairs = .ok attributes') :
    policy.Collects (earlier ++ pairs) attributes' := by
  induction pairs generalizing earlier attributes with
  | nil =>
    cases hadd
    rwa [List.append_nil]
  | cons p pairs ih =>
    rw [addPairs] at hadd
    cases hp : policy.addPair attributes p with
    | error q =>
      rw [hp] at hadd
      cases hadd
    | ok attributes₁ =>
      rw [hp] at hadd
      have hrest := ih (collects_addPair h hp) hadd
      rwa [List.append_assoc] at hrest

/-- Under the other policies nothing is refused. -/
theorem exists_addPairs (hpolicy : policy ≠ .reject) (attributes : List Attribute)
    (pairs : List ReadPair) :
    ∃ attributes', policy.addPairs attributes pairs = .ok attributes' := by
  induction pairs generalizing attributes with
  | nil => exact ⟨attributes, rfl⟩
  | cons p pairs ih =>
    have hstep : ∃ attributes₁, policy.addPair attributes p = .ok attributes₁ := by
      unfold addPair
      split
      · cases policy with
        | reject => exact absurd rfl hpolicy
        | first => exact ⟨_, rfl⟩
        | last => exact ⟨_, rfl⟩
      · exact ⟨_, rfl⟩
    obtain ⟨attributes₁, hp⟩ := hstep
    rw [addPairs, hp]
    exact ih attributes₁

/-! ## What is refused -/

/-- If all names differ, every pair makes an attribute under each policy. -/
theorem addPairs_of_nodup
    (h : (Attribute.names attributes ++ ReadPair.names pairs).Nodup) :
    policy.addPairs attributes pairs = .ok (attributes ++ pairs.map ReadPair.made) := by
  induction pairs generalizing attributes with
  | nil => simp [addPairs]
  | cons p pairs ih =>
    have hnew : p.name ∉ Attribute.names attributes := by
      intro hmem
      exact (List.nodup_append.mp h).2.2 p.name hmem p.name (List.mem_cons_self ..) rfl
    have hrest : (Attribute.names (attributes ++ [p.made]) ++ ReadPair.names pairs).Nodup := by
      simpa [Attribute.names, ReadPair.names, ReadPair.made] using h
    rw [addPairs, addPair_of_new hnew]
    dsimp only
    rw [ih hrest]
    simp

/-- If a name is met twice, it is refused. -/
theorem exists_addPairs_reject (hnodup : (Attribute.names attributes).Nodup)
    (h : ¬(Attribute.names attributes ++ ReadPair.names pairs).Nodup) :
    ∃ q, DuplicatePolicy.reject.addPairs attributes pairs = .error q := by
  induction pairs generalizing attributes with
  | nil => exact absurd (by simpa [ReadPair.names] using hnodup) h
  | cons p pairs ih =>
    by_cases hknown : p.name ∈ Attribute.names attributes
    · refine ⟨p.name, ?_⟩
      unfold addPairs addPair
      rw [if_pos hknown]
    · have hsame : Attribute.names (attributes ++ [p.made]) =
          Attribute.names attributes ++ [p.name] := by
        simp [Attribute.names, ReadPair.made]
      rw [addPairs, addPair_of_new hknown]
      apply ih
      · rw [hsame]
        refine List.nodup_append.mpr ⟨hnodup, by simp, ?_⟩
        rintro q hq r hr rfl
        exact hknown (List.mem_singleton.mp hr ▸ hq)
      · rw [hsame, List.append_assoc]
        exact h

/-- Whether a name is met twice. -/
def Repeats (pairs : List ReadPair) : Prop :=
  ∃ i j, ∃ (hi : i < pairs.length) (hj : j < pairs.length), i < j ∧ pairs[i].name = pairs[j].name

theorem repeats_iff : Repeats pairs ↔ ¬(ReadPair.names pairs).Nodup := by
  have hnodup : (ReadPair.names pairs).Nodup ↔
      ∀ (i j : Nat) (hi : i < pairs.length) (hj : j < pairs.length), i < j →
        pairs[i].name ≠ pairs[j].name := by
    unfold List.Nodup ReadPair.names
    rw [List.pairwise_map, List.pairwise_iff_getElem]
  rw [hnodup]
  constructor
  · rintro ⟨i, j, hi, hj, hlt, heq⟩ hall
    exact hall i j hi hj hlt heq
  · intro hnot
    by_contra hnone
    exact hnot fun i j hi hj hlt heq => hnone ⟨i, j, hi, hj, hlt, heq⟩

/-- **Pairs are refused exactly if a name is met twice.** -/
theorem addPairs_reject_iff :
    (∃ q, DuplicatePolicy.reject.addPairs [] pairs = .error q) ↔ Repeats pairs := by
  rw [repeats_iff]
  constructor
  · rintro ⟨q, hq⟩ hnodup
    rw [addPairs_of_nodup (by simpa [Attribute.names] using hnodup)] at hq
    cases hq
  · intro h
    exact exists_addPairs_reject List.nodup_nil (by simpa [Attribute.names] using h)

end DuplicatePolicy

namespace Build

/-! ## How pairs are read -/

section

variable (E : Engine) (env : BuildEnv) (tag : QName)

/-- Reads a name and a value. -/
def readPair (head : Head) (v : Value) : Build (Option QName × String) := do
  let name ← attributeName env tag head
  let text ← attributeText E env v
  pure (name, text)

/-- Whether a row of arguments is read as pairs, with a name that may wait. Each pair is read where
the ones before it were, null between pairs is passed over, and a stream stands for its chunks. -/
inductive ReadAs :
    Option Head → BuildState → List Value → List ReadPair → BuildState → Prop where
  /-- There is nothing. -/
  | done (s : BuildState) : ReadAs none s [] [] s
  /-- Null is passed over. -/
  | idle {s s' : BuildState} {vs : List Value} {pairs : List ReadPair}
      (rest : ReadAs none s vs pairs s') : ReadAs none s (.null :: vs) pairs s'
  /-- A name waits for its value. -/
  | name {s s' : BuildState} {head : Head} {vs : List Value} {pairs : List ReadPair}
      (rest : ReadAs (some head) s vs pairs s') : ReadAs none s (head.value :: vs) pairs s'
  /-- A name and a value are a pair. -/
  | value {s s₁ s' : BuildState} {head : Head} {v : Value} {vs : List Value} {p : ReadPair}
      {pairs : List ReadPair} (plain : ∀ id, v ≠ .stream id)
      (reading : head.reading env.settings.contentMarker v = .ok .attribute)
      (read : readPair E env tag head v s = (.ok (some p.name, p.text), s₁))
      (reports : s₁.diagnostics = s.diagnostics ++ p.reports)
      (rest : ReadAs none s₁ vs pairs s') : ReadAs (some head) s (v :: vs) (p :: pairs) s'
  /-- A stream hands over its next chunk. -/
  | chunk {waiting : Option Head} {s s₁ s' : BuildState} {id : StreamId} {chunk vs : List Value}
      {pairs : List ReadPair} (handed : nextChunk id s = (.ok (some chunk), s₁))
      (rest : ReadAs waiting s₁ (chunk ++ .stream id :: vs) pairs s') :
      ReadAs waiting s (.stream id :: vs) pairs s'
  /-- A stream has no chunk left. -/
  | spent {waiting : Option Head} {s s₁ s' : BuildState} {id : StreamId} {vs : List Value}
      {pairs : List ReadPair} (handed : nextChunk id s = (.ok none, s₁))
      (rest : ReadAs waiting s₁ vs pairs s') : ReadAs waiting s (.stream id :: vs) pairs s'

/-- The report of a name that was met before. -/
def repeatReport (policy : DuplicatePolicy) (q : QName) : Diagnostic :=
  Diagnostic.warning
    ("Duplicate attribute '" ++ q.display ++ "' on '" ++ tag.clark ++ "', kept the "
      ++ policy.word ++ " value")
    "element_builder" .duplicateAttribute []
    [("tag", .str tag.clark), ("attribute", .str q.display)] env.correlationId

/-- What is reported of pairs: what is reported while each is read, and behind it one report if its
name is among those met before. -/
def pairReports (policy : DuplicatePolicy) (met : List QName) : List ReadPair → Array Diagnostic
  | [] => #[]
  | p :: pairs =>
    p.reports ++ (if p.name ∈ met then #[repeatReport env tag policy p.name] else #[]) ++
      pairReports policy (p.name :: met) pairs

/-- What taking pairs comes to: parts with other attributes, and no name waits; or a name is
refused. -/
inductive Settles (parts : Parts) (s : BuildState) (reports : Array Diagnostic) :
    Except QName (List Attribute) → Except Fault Parts × BuildState → Prop where
  /-- All pairs are taken. -/
  | kept (attributes : List Attribute) (records : Array LogRecord) :
      Settles parts s reports (.ok attributes)
        (.ok { parts.settled with attributes }, s.noted reports records)
  /-- A name is refused. -/
  | refused (q : QName) (ended : BuildState) :
      Settles parts s reports (.error q) (.error (.duplicateAttribute tag.clark q.display), ended)

end

variable {E : Engine} {env : BuildEnv} {tag : QName} {policy : DuplicatePolicy}

theorem pairUp_eq (parts : Parts) (head : Head) (v : Value) :
    pairUp E env tag parts head v = readPair E env tag head v >>= fun r =>
      match r.1 with
      | some name => addAttribute env tag parts name r.2
      | none => pure parts :=
  calc pairUp E env tag parts head v
      = attributeName env tag head >>= fun name => attributeText E env v >>= fun text =>
          match name with
          | some name => addAttribute env tag parts name text
          | none => pure parts := rfl
    _ = _ := by simp only [readPair, bind_assoc, pure_bind]

/-- A pair is read in the same way after other reports. -/
theorem adds_readPair
    (hE : ∀ reports records, Engine.Related (Commutes (.before reports records)) E E)
    (head : Head) (v : Value) : Adds (readPair E env tag head v) := by
  intro reports records
  have L := lockstep_commutes (t := .before reports records) env rfl
  refine (L.attributeName tag head).bind fun name => ?_
  exact ((L.attributeText_and_texts (hE reports records)).1 v).bind fun text => commutes_value _

theorem nextChunk_noted {id : StreamId} {s s₁ : BuildState} {chunk : Option (List Value)}
    (h : nextChunk id s = (.ok chunk, s₁)) (reports : Array Diagnostic)
    (records : Array LogRecord) :
    nextChunk id (s.noted reports records) = (.ok chunk, s₁.noted reports records) := by
  unfold nextChunk at h ⊢
  rw [show (s.noted reports records).streams = s.streams from rfl]
  split at h <;> cases h <;> rfl

theorem hasAttribute_iff {attributes : List Attribute} {q : QName} :
    hasAttribute attributes q = true ↔ q ∈ Attribute.names attributes := by
  simp [hasAttribute, Attribute.names]

/-- A warning adds one report, and perhaps a record. -/
theorem warn_noted (logMessage : String) (logFields : List (String × Json)) (message : String)
    (code : DiagnosticCode) (details : List (String × Json)) (s : BuildState) :
    ∃ records, warn env logMessage logFields message code details s =
      (.ok (), s.noted (s.diagnostics ++ #[Diagnostic.warning message "element_builder" code []
        details env.correlationId]) records) := by
  have hadd (r : LogRecord) : ∃ records, s.log.add r = { s.log with records } := by
    unfold Log.add
    split
    · exact ⟨_, rfl⟩
    · exact ⟨s.log.records, rfl⟩
  obtain ⟨records, hrecords⟩ :=
    hadd ((elementLogger env).record .warning logMessage logFields false)
  refine ⟨records, ?_⟩
  rw [warn, bind_apply, record, change]
  dsimp only
  rw [hrecords, report, change, ← Array.push_eq_append]
  rfl

/-- Adding one pair is what the policy says. -/
theorem addAttribute_settles (hpolicy : env.settings.duplicates = some policy) {parts : Parts}
    (hnone : parts.pending = none) (p : ReadPair) (s : BuildState) :
    Settles tag parts s
      (s.diagnostics ++ if p.name ∈ Attribute.names parts.attributes
        then #[repeatReport env tag policy p.name] else #[])
      (policy.addPair parts.attributes p) (addAttribute env tag parts p.name p.text s) := by
  obtain ⟨attributes, children, pending⟩ := parts
  obtain rfl : pending = none := hnone
  unfold addAttribute DuplicatePolicy.addPair
  by_cases hknown : p.name ∈ Attribute.names attributes
  · rw [if_pos hknown, if_pos hknown, hasAttribute_iff.mpr hknown, hpolicy]
    cases policy with
    | reject => exact .refused p.name s
    | first =>
      obtain ⟨records, hwarn⟩ := @warn_noted env _ _ _ _ _ s
      dsimp only
      rw [Bool.not_true, if_neg Bool.false_ne_true, bind_of_ok hwarn]
      exact .kept attributes records
    | last =>
      obtain ⟨records, hwarn⟩ := @warn_noted env _ _ _ _ _ s
      dsimp only
      rw [Bool.not_true, if_neg Bool.false_ne_true, bind_of_ok hwarn]
      exact .kept _ records
  · rw [if_neg hknown, if_neg hknown, if_pos (by simpa using mt hasAttribute_iff.mp hknown),
      Array.append_empty]
    exact .kept (attributes ++ [p.made]) s.log.records

namespace Settles

variable {parts parts' : Parts} {s : BuildState} {reports : Array Diagnostic}
  {result : Except QName (List Attribute)} {outcome : Except Fault Parts × BuildState}

theorem exists_of_ok {attributes : List Attribute}
    (h : Settles tag parts s reports (.ok attributes) outcome) :
    ∃ records, outcome = (.ok { parts.settled with attributes }, s.noted reports records) := by
  cases h with
  | kept _ records => exact ⟨records, rfl⟩

theorem exists_of_error {q : QName} (h : Settles tag parts s reports (.error q) outcome) :
    ∃ ended, outcome = (.error (.duplicateAttribute tag.clark q.display), ended) := by
  cases h with
  | refused _ ended => exact ⟨ended, rfl⟩

/-- Which attributes there were before, and which name waited, does not show in what pairs come
to. -/
theorem of_children (h : Settles tag parts' s reports result outcome)
    (hchildren : parts'.children = parts.children) :
    Settles tag parts s reports result outcome := by
  obtain ⟨attributes', children, pending'⟩ := parts'
  obtain rfl : children = parts.children := hchildren
  cases h with
  | kept attributes records => exact .kept attributes records
  | refused q ended => exact .refused q ended

end Settles

section

variable (hfeed : ∀ limit parts v,
    Keeps OnlyTakes (feed E env tag limit parts v) (feed E env tag limit parts v))
  (hE : ∀ reports records, Engine.Related (Commutes (.before reports records)) E E)
include hE

/-- A pair is read after other reports as it is read by itself. -/
theorem readPair_noted {head : Head} {v : Value} {p : ReadPair} {s s₁ : BuildState}
    (hread : readPair E env tag head v s = (.ok (some p.name, p.text), s₁))
    (hreports : s₁.diagnostics = s.diagnostics ++ p.reports) (reports : Array Diagnostic)
    (records : Array LogRecord) :
    ∃ records', readPair E env tag head v (s.noted reports records) =
      (.ok (some p.name, p.text), s₁.noted (reports ++ p.reports) records') := by
  obtain ⟨added, noted, hrun⟩ := exists_added (adds_readPair hE head v) s
  have hself := hrun s.diagnostics s.log.records
  rw [BuildState.noted_self, hread] at hself
  have hadded : s.diagnostics ++ added = s.diagnostics ++ p.reports :=
    (congrArg (fun r => r.2.diagnostics) hself).symm.trans hreports
  have hsame := hrun reports records
  rw [hread, (Array.append_right_inj _).mp hadded] at hsame
  exact ⟨_, hsame⟩

include hfeed

/-- **An element takes a row that is read as pairs as the policy says**, whatever was reported
before: the pairs are read as they are by themselves, and behind each one a report is added if its
name was met before. -/
theorem feedAll_readAs (hpolicy : env.settings.duplicates = some policy) {waiting : Option Head}
    {s s' : BuildState} {vs : List Value} {pairs : List ReadPair}
    (h : ReadAs E env tag waiting s vs pairs s') {parts : Parts}
    (hwaiting : parts.pending = waiting) {met : List QName}
    (hmet : ∀ q, q ∈ met ↔ q ∈ Attribute.names parts.attributes)
    (reports : Array Diagnostic) (records : Array LogRecord) :
    Settles tag parts s' (reports ++ pairReports env tag policy met pairs)
      (policy.addPairs parts.attributes pairs)
      (feedAll E env tag vs parts (s.noted reports records)) := by
  induction h generalizing parts met reports records with
  | done s =>
    rw [pairReports, Array.append_empty, ← Parts.settled_eq hwaiting]
    exact .kept parts.attributes records
  | @idle s _ vs _ _ ih =>
    have htake : take E env tag parts .null = pure parts := by
      rw [take, hwaiting]
      rfl
    rw [feedAll_value hfeed (by nofun), htake, pure_bind]
    exact ih hwaiting hmet reports records
  | @name s _ head vs _ _ ih =>
    have htake : take E env tag parts head.value = pure { parts with pending := some head } := by
      rw [take, hwaiting]
      cases head <;> rfl
    have hplain (id : StreamId) : head.value ≠ .stream id := by
      cases head <;> nofun
    rw [feedAll_value hfeed hplain, htake, pure_bind]
    exact (@ih { parts with pending := some head } rfl met hmet reports records).of_children rfl
  | @value s s₁ _ head v vs p pairs hplain hreading hread hreports _ ih =>
    have htake : take E env tag parts v = pairUp E env tag parts.settled head v := by
      rw [take, hwaiting]
      dsimp only
      rw [takeSecond, hreading]
      rfl
    obtain ⟨records₁, hread'⟩ := readPair_noted hE hread hreports reports records
    rw [feedAll_value hfeed hplain, htake, pairUp_eq, bind_assoc, bind_of_ok hread']
    dsimp only
    have hknown : p.name ∈ Attribute.names parts.settled.attributes ↔ p.name ∈ met :=
      (hmet p.name).symm
    have hstep := @addAttribute_settles env tag policy hpolicy parts.settled rfl p
      (s₁.noted (reports ++ p.reports) records₁)
    rw [if_congr hknown rfl rfl] at hstep
    rw [DuplicatePolicy.addPairs, pairReports, ← Array.append_assoc, ← Array.append_assoc]
    cases hadd : policy.addPair parts.attributes p with
    | error q =>
      obtain ⟨ended, hrefused⟩ := (hadd ▸ hstep).exists_of_error
      rw [bind_of_error hrefused]
      exact .refused q ended
    | ok attributes =>
      obtain ⟨records₂, hkept⟩ := (hadd ▸ hstep).exists_of_ok
      rw [bind_of_ok hkept]
      have hmet' (q : QName) : q ∈ p.name :: met ↔ q ∈ Attribute.names attributes := by
        rw [DuplicatePolicy.names_addPair hadd, List.mem_cons, hmet]
      exact (@ih { parts.settled with attributes } rfl (p.name :: met) hmet' _ records₂).of_children
        rfl
  | chunk handed _ ih =>
    rw [feedAll_stream hfeed, bind_of_ok (nextChunk_noted handed reports records)]
    exact ih hwaiting hmet reports records
  | spent handed _ ih =>
    rw [feedAll_stream hfeed, bind_of_ok (nextChunk_noted handed reports records)]
    exact ih hwaiting hmet reports records

end

/-! ## Elements made of pairs -/

section

variable {gather : Parts → Build Parts} {s s₁ : BuildState}
  (hdepth : (checkDepth env tag { s with depth := s.depth + 1 }).1 = .ok ())
include hdepth

theorem checkDepth_of_ok : checkDepth env tag { s with depth := s.depth + 1 } =
    (.ok (), { s with depth := s.depth + 1 }) := by
  rcases hcheck : checkDepth env tag { s with depth := s.depth + 1 } with ⟨result, ended⟩
  rw [hcheck] at hdepth
  obtain rfl : result = .ok () := hdepth
  rw [of_checkDepth_ok hcheck]

/-- An element is made of the parts that were gathered, if no name waits. -/
theorem elementWith_of_ok {parts : Parts}
    (hgather : gather {} { s with depth := s.depth + 1 } = (.ok parts, s₁))
    (hnone : parts.pending = none) :
    ∃ ended, elementWith env tag gather s =
        (.ok ⟨tag, parts.attributes, parts.children⟩, ended) ∧
      ended.diagnostics = s₁.diagnostics := by
  have hfinish : finish env tag parts = pure parts := by
    rw [finish, hnone]
  have hbody : (do
      checkDepth env tag
      let parts ← finish env tag (← gather {})
      pure (Element.mk tag parts.attributes parts.children)) { s with depth := s.depth + 1 } =
        (.ok ⟨tag, parts.attributes, parts.children⟩, s₁) := by
    rw [bind_of_ok (checkDepth_of_ok hdepth), bind_of_ok hgather, hfinish]
    rfl
  rw [elementWith, bind_of_ok (deeper_of_eq hbody)]
  exact ⟨_, rfl, rfl⟩

/-- An element fails with what gathering its parts fails with. -/
theorem elementWith_of_error {fault : Fault}
    (hgather : gather {} { s with depth := s.depth + 1 } = (.error fault, s₁)) :
    (elementWith env tag gather s).1 = .error fault := by
  have hbody : (do
      checkDepth env tag
      let parts ← finish env tag (← gather {})
      pure (Element.mk tag parts.attributes parts.children)) { s with depth := s.depth + 1 } =
        (.error fault, s₁) := by
    rw [bind_of_ok (checkDepth_of_ok hdepth), bind_of_error hgather]
  rw [elementWith, bind_of_error (deeper_of_eq hbody)]

end

end Build

/-! ## Names with prefixes -/

namespace Registry

/-- The URI that a prefix stands for. -/
def uri? (r : Registry) (pfx : String) : Option String :=
  if pfx = "xml" then some xmlUri else r.get? pfx

/-- Whether two texts stand for the same name of an attribute. -/
def SameName (r : Registry) (text text' : String) : Prop :=
  ∃ q resolved resolved', r.resolveAttribute text = .ok (q, resolved) ∧
    r.resolveAttribute text' = .ok (q, resolved')

variable {r : Registry} {text text' pfx pfx' localName uri : String}

/-- **Two prefixes of one URI make the same names.** -/
theorem sameName_of_uri (hsplit : splitColon text = some (pfx, localName))
    (hsplit' : splitColon text' = some (pfx', localName)) (hlocal : localName ≠ "")
    (huri : r.uri? pfx = some uri) (huri' : r.uri? pfx' = some uri) : r.SameName text text' := by
  have hname (text pfx : String) (hsplit : splitColon text = some (pfx, localName))
      (huri : r.uri? pfx = some uri) : r.resolveAttribute text =
        .ok (⟨localName, if uri = "" then none else some uri⟩, true) := by
    unfold resolveAttribute
    rw [hsplit]
    dsimp only
    unfold resolvePrefixed
    rw [show (if pfx = "xml" then some xmlUri else r.get? pfx) = some uri from huri]
    simp [QName.of, hlocal]
    rfl
  exact ⟨_, true, true, hname text pfx hsplit huri, hname text' pfx' hsplit' huri'⟩

/-- A text that is resolved to itself is a name in no namespace. -/
theorem eq_of_unqualified {q : QName} {resolved resolved' : Bool}
    (h : (QName.of none text).map (·, resolved) = .ok (q, resolved')) : q = ⟨text, none⟩ := by
  unfold QName.of at h
  split at h
  · cases h
  · cases h
    rfl

/-- **A name with an unbound prefix is the name of no other text.** -/
theorem not_sameName_of_unbound (hr : r.Proper) (hsplit : splitColon text = some (pfx, localName))
    (hunbound : r.uri? pfx = none) (hne : text ≠ text') : ¬r.SameName text text' := by
  rintro ⟨q, resolved, resolved', h, h'⟩
  have hself : q = ⟨text, none⟩ := by
    unfold resolveAttribute at h
    rw [hsplit] at h
    dsimp only at h
    unfold resolvePrefixed at h
    rw [show (if pfx = "xml" then some xmlUri else r.get? pfx) = none from hunbound] at h
    exact eq_of_unqualified h
  have hother : q ≠ ⟨text', none⟩ := by
    rw [hself]
    intro heq
    exact hne (congrArg QName.localName heq)
  unfold resolveAttribute at h'
  cases hsplit' : splitColon text' with
  | none =>
    rw [hsplit'] at h'
    exact hother (eq_of_unqualified h')
  | some parts =>
    rw [hsplit'] at h'
    have hnonempty : text' ≠ "" := by
      rintro rfl
      cases hsplit'
    rcases resolvePrefixed_cases hr hnonempty parts.1 parts.2 with
      ⟨b, hkept⟩ | ⟨uri, -, -, -, hbound⟩
    · cases hkept.symm.trans h'
      exact hother rfl
    · cases (hbound r r.extends_refl).symm.trans h'
      cases hself

end Registry

namespace Build

/-- **What an element comes to whose arguments are pairs**, with a policy for names that are met
twice. Where they are tolerated, it has the distinct names in the order in which they were met
first, each with its first or its last value, and behind what is reported of a pair there is one
report more if its name was met before. Where they are not, the element is refused exactly if there
are any. Names are compared as they are after their prefixes were resolved: two prefixes of one URI
make the same name, and an unbound prefix makes another one. -/
theorem element_repeats {n : Nat} {env : BuildEnv} {tag : Value} {args : List Value}
    {policy : DuplicatePolicy} {name : QName} {pairs : List ReadPair} {s s' : BuildState}
    (hpolicy : env.settings.duplicates = some policy) (hname : elementName tag s = (.ok name, s))
    (hdepth : (checkDepth env name { s with depth := s.depth + 1 }).1 = .ok ())
    (hread : ReadAs (engine env n) env name none { s with depth := s.depth + 1 } args pairs s') :
    (policy ≠ .reject → ∃ attributes ended,
      element (engine env n) env tag args s = (.ok ⟨name, attributes, []⟩, ended) ∧
      policy.Collects pairs attributes ∧
      ended.diagnostics = s.diagnostics ++ pairReports env name policy [] pairs) ∧
    (policy = .reject →
      ((∃ q : QName, (element (engine env n) env tag args s).1 =
        .error (.duplicateAttribute name.clark q.display)) ↔ DuplicatePolicy.Repeats pairs) ∧
      (¬DuplicatePolicy.Repeats pairs → ∃ ended,
        element (engine env n) env tag args s =
          (.ok ⟨name, pairs.map ReadPair.made, []⟩, ended))) ∧
    ∀ (r : Registry) (text text' pfx pfx' localName : String), r.Proper →
      splitColon text = some (pfx, localName) → splitColon text' = some (pfx', localName) →
      localName ≠ "" →
        (∀ uri, r.uri? pfx = some uri → r.uri? pfx' = some uri → r.SameName text text') ∧
        (r.uri? pfx = none → text ≠ text' → ¬r.SameName text text') := by
  have hsettles : Settles name {} s' (s.diagnostics ++ pairReports env name policy [] pairs)
      (policy.addPairs [] pairs)
      (feedAll (engine env n) env name args {} { s with depth := s.depth + 1 }) :=
    feedAll_readAs (feed_onlyTakes env n name) (engine_commutes env n) hpolicy hread rfl
      (fun _ => Iff.rfl) s.diagnostics s.log.records
  have helement : element (engine env n) env tag args s =
      elementWith env name (feedAll (engine env n) env name args) s := by
    rw [element, bind_of_ok hname]
  have hmade {attributes : List Attribute} (h : policy.addPairs [] pairs = .ok attributes) :
      ∃ ended, element (engine env n) env tag args s = (.ok ⟨name, attributes, []⟩, ended) ∧
        ended.diagnostics = s.diagnostics ++ pairReports env name policy [] pairs := by
    rw [h] at hsettles
    obtain ⟨records, hfed⟩ := hsettles.exists_of_ok
    rw [helement]
    exact elementWith_of_ok hdepth hfed rfl
  refine ⟨fun htolerated => ?_, ?_, fun r text text' pfx pfx' localName hr hsplit hsplit' hlocal =>
    ⟨fun uri => Registry.sameName_of_uri hsplit hsplit' hlocal, fun hunbound =>
      Registry.not_sameName_of_unbound hr hsplit hunbound⟩⟩
  · obtain ⟨attributes, hadded⟩ := DuplicatePolicy.exists_addPairs htolerated [] pairs
    obtain ⟨ended, hbuilt, hreports⟩ := hmade hadded
    have hcollects : policy.Collects [] [] := ⟨rfl, fun a ha => absurd ha List.not_mem_nil⟩
    exact ⟨attributes, ended, hbuilt, DuplicatePolicy.collects_addPairs hcollects hadded, hreports⟩
  · rintro rfl
    have hdistinct (h : ¬DuplicatePolicy.Repeats pairs) : ∃ ended,
        element (engine env n) env tag args s =
          (.ok ⟨name, pairs.map ReadPair.made, []⟩, ended) := by
      rw [DuplicatePolicy.repeats_iff, Classical.not_not] at h
      obtain ⟨ended, hbuilt, -⟩ := hmade (DuplicatePolicy.addPairs_of_nodup h)
      exact ⟨ended, hbuilt⟩
    refine ⟨⟨?_, fun hrepeats => ?_⟩, hdistinct⟩
    · rintro ⟨q, hrefused⟩
      by_contra hnone
      obtain ⟨ended, hbuilt⟩ := hdistinct hnone
      rw [hbuilt] at hrefused
      cases hrefused
    · obtain ⟨q, hq⟩ := DuplicatePolicy.addPairs_reject_iff.mpr hrepeats
      rw [hq] at hsettles
      obtain ⟨ended, hfed⟩ := hsettles.exists_of_error
      rw [helement]
      exact ⟨q, elementWith_of_error hdepth hfed⟩

/-- The default settings, but of an attribute that is given twice the last value is kept. -/
def lastEnv : BuildEnv :=
  { plainEnv with settings := { plainEnv.settings with duplicates := some .last } }

/-- A build that has just begun, with two prefixes of one URI. -/
def aliasedState : BuildState :=
  { plainState with registry := ⟨[("p", "urn:u"), ("q", "urn:u")]⟩ }

theorem element_repeats_aliased :
    lastEnv.settings.duplicates = some .last ∧
      ∃ ended, element (engine lastEnv 1) lastEnv (.str "a")
          [.str "p:k", .str "1", .str "m", .str "2", .str "-q:k:", .int 3] aliasedState =
            (.ok ⟨⟨"a", none⟩, [⟨⟨"k", some "urn:u"⟩, "3"⟩, ⟨⟨"m", none⟩, "2"⟩], []⟩, ended) ∧
        ended.diagnostics = #[repeatReport lastEnv ⟨"a", none⟩ .last ⟨"k", some "urn:u"⟩] := by
  have hread : ReadAs (engine lastEnv 1) lastEnv ⟨"a", none⟩ none
      { aliasedState with depth := aliasedState.depth + 1 }
      [.str "p:k", .str "1", .str "m", .str "2", .str "-q:k:", .int 3]
      [⟨⟨"k", some "urn:u"⟩, "1", #[]⟩, ⟨⟨"m", none⟩, "2", #[]⟩, ⟨⟨"k", some "urn:u"⟩, "3", #[]⟩]
      { aliasedState with depth := aliasedState.depth + 1 } := by
    refine @ReadAs.name _ _ _ _ _ (.word "p:k") _ _ (.value (by nofun) rfl rfl rfl ?_)
    refine @ReadAs.name _ _ _ _ _ (.word "m") _ _ (.value (by nofun) rfl rfl rfl ?_)
    refine @ReadAs.name _ _ _ _ _ (.word "-q:k:") _ _ (.value (by nofun) rfl rfl rfl ?_)
    exact .done _
  obtain ⟨attributes, ended, hbuilt, -, hreports⟩ :=
    (@element_repeats 1 lastEnv (.str "a") _ .last _ _ aliasedState _ rfl rfl rfl hread).1 nofun
  have hmade : (element (engine lastEnv 1) lastEnv (.str "a")
      [.str "p:k", .str "1", .str "m", .str "2", .str "-q:k:", .int 3] aliasedState).1 =
        .ok ⟨⟨"a", none⟩, [⟨⟨"k", some "urn:u"⟩, "3"⟩, ⟨⟨"m", none⟩, "2"⟩], []⟩ := rfl
  rw [hbuilt] at hmade
  cases hmade
  exact ⟨rfl, ended, hbuilt, hreports⟩

end Build

end TagScript
