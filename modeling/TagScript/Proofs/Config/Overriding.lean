import TagScript.Config.Override
import TagScript.Proofs.Config.RoundTrip

/-!
# What a configuration becomes when it is changed

Changes are grouped by component before they are made, each component is checked with its changes,
and then the whole. Grouping changes the order of what is set, but no setting is set twice, so the
outcome is what setting one after the other makes of the configuration: in the data, the entries
with the given names hold what was given, and nothing else is changed.

* `Change.WellTyped` — changes of declared settings to values of their types.
* `Change.path`, `Json.put` — where a change stands in the data, and the data with it.
* `Config.changed` — the outcome of a change, without a check.
* `Config.toJson_changed`, `Config.Typed.changed` — a change does just this to data and types.
* `Config.together` — the outcome of grouped changes; `Config.group_eq_ok` — it is that of the
  changes one after the other.
* `Config.foldlM_change` — what passes its checks is changed to that outcome.
* **`Config.overrideWith_eq_ok_iff`** — changes succeed exactly if their outcome is accepted.
* **`Config.data_texts_and_changes`** — data, texts and changes of an accepted configuration.
-/

namespace TagScript

/-! ## Changes -/

/-- The settings of the components that hold data: the component, the name and the type. -/
inductive Config.Declared : String → String → Kind → Prop
  | elementConstructor : Declared "compiler" "element_ctor_name" .text
  | keepsTemplates : Declared "compiler" "enable_template_cache" .flag
  | cacheLimit : Declared "compiler" "cache_size_limit" .whole
  | strictVariables : Declared "runtime" "strict_variables" .flag
  | foldsCommandCase : Declared "runtime" "case_insensitive_commands" .flag
  | hasBuiltins : Declared "runtime" "register_builtins" .flag
  | strictArguments : Declared "builder" "strict_arguments" .flag
  | maxDepth : Declared "builder" "max_depth" .whole
  | contentMarker : Declared "builder" "content_marker" .text
  | version : Declared "document" "version" .text
  | encoding : Declared "document" "encoding" .text
  | standalone : Declared "document" "standalone" .text

namespace Change

/-- Whether a declared setting is given a value of its type. -/
inductive WellTyped : Change → Prop
  | setting {component field : String} {kind : Kind} {v : Json}
      (hdeclared : Config.Declared component field kind) (hv : kind.Holds v) :
      WellTyped (.data (component ++ "__" ++ field) v)
  | collisions (p : CollisionPolicy) : WellTyped (.collisions p)
  | duplicates (p : DuplicatePolicy) : WellTyped (.duplicates p)
  | name {v : Json} (hv : Kind.optionalText.Holds v) : WellTyped (.data "name" v)
  | description {v : Json} (hv : Kind.optionalText.Holds v) : WellTyped (.data "description" v)

/-- Where a change stands in the data: under its component, or on its own. -/
def path (change : Change) : List String :=
  match Config.splitName [] change.name.toList with
  | some (component, field) => [component, field]
  | none => [change.name]

end Change

/-- Data with the entry at a path replaced. -/
def Json.put (data : Json) (path : List String) (v : Json) : Json :=
  match path, data with
  | [], _ => v
  | key :: path, .obj fields =>
    .obj (fields.map fun f => if f.1 = key then (f.1, f.2.put path v) else f)
  | _, data => data

namespace Config

/-- A configuration with one setting of a component set, without a check. -/
def give (c : Config) (component field : String) (setting : Setting) : Config :=
  match component with
  | "compiler" =>
    { c with compiler := (giveData? CompilerConfig.set? c.compiler field setting).getD c.compiler }
  | "runtime" =>
    { c with runtime := (giveData? RuntimeConfig.set? c.runtime field setting).getD c.runtime }
  | "builder" => { c with builder := (c.builder.give? field setting).getD c.builder }
  | "document" =>
    { c with document := (giveData? DocumentConfig.set? c.document field setting).getD c.document }
  | _ => c

/-- A configuration with one change, without a check. -/
def changed (c : Config) (change : Change) : Config :=
  match splitName [] change.name.toList with
  | some (component, field) => c.give component field change.setting
  | none =>
    match change.name with
    | "name" => { c with name := change.setting.toJson }
    | "description" => { c with description := change.setting.toJson }
    | _ => c

end Config

/-! ## One change -/

namespace Config

/-- The name of a setting is split where it was put together. -/
theorem splitName_append {component : String} (h : component ∈ components) (field : String) :
    splitName [] (component ++ "__" ++ field).toList = some (component, field) := by
  simp only [components, List.mem_cons, List.not_mem_nil, or_false] at h
  rcases h with rfl | rfl | rfl | rfl <;> simp [splitName]

theorem Declared.component_mem {component field : String} {kind : Kind}
    (h : Declared component field kind) : component ∈ components := by
  cases h <;> decide

end Config

namespace Change

open Config (splitName splitName_append components)

/-- Whether a component takes a setting, whatever it holds. -/
def Taken (component field : String) (setting : Setting) : Prop :=
  match component with
  | "compiler" => ∀ part, (giveData? CompilerConfig.set? part field setting).isSome = true
  | "runtime" => ∀ part, (giveData? RuntimeConfig.set? part field setting).isSome = true
  | "builder" => ∀ part, (BuilderConfig.give? part field setting).isSome = true
  | "document" => ∀ part, (giveData? DocumentConfig.set? part field setting).isSome = true
  | _ => False

/-- A well-typed change is about a setting that a component takes, or about one of the two outside
of the components. -/
theorem WellTyped.taken_or_outside {change : Change} (h : change.WellTyped) :
    (∃ component field, change.name = component ++ "__" ++ field ∧ component ∈ components ∧
      Taken component field change.setting) ∨
    (change.name = "name" ∨ change.name = "description") ∧
      Given.ofJson change.setting.toJson = .value change.setting.toJson := by
  have hvalue {v : Json} (hv : Kind.optionalText.Holds v) : Given.ofJson v = .value v := by
    rcases hv with rfl | ⟨s, rfl⟩ <;> rfl
  cases h with
  | collisions p =>
    exact .inl ⟨"builder", "namespace_collision_policy", rfl, by decide, fun _ => rfl⟩
  | duplicates p =>
    exact .inl ⟨"builder", "duplicate_attribute_policy", rfl, by decide, fun _ => rfl⟩
  | name hv => exact .inr ⟨.inl rfl, hvalue hv⟩
  | description hv => exact .inr ⟨.inr rfl, hvalue hv⟩
  | @setting component field kind v hdeclared hv =>
    refine .inl ⟨component, field, rfl, hdeclared.component_mem, ?_⟩
    cases hdeclared <;> exact fun _ => rfl

/-- No setting is called like the configuration itself. -/
theorem WellTyped.name_ne_ownName {change : Change} (h : change.WellTyped) :
    change.name ≠ ownName := by
  rcases h.taken_or_outside with ⟨component, field, hname, hcomponent, -⟩ | ⟨hname, -⟩
  · intro hown
    have hsplit := splitName_append hcomponent field
    rw [← hname, hown] at hsplit
    cases hsplit
  · rcases hname with h | h <;> rw [h] <;> decide

end Change

namespace Config

variable {c : Config} {change : Change}

/-- A change that is named like a setting of a component sets it, and stands there in the data. -/
theorem changed_of_component {component field : String}
    (hname : change.name = component ++ "__" ++ field) (hcomponent : component ∈ components)
    (c : Config) :
    c.changed change = c.give component field change.setting ∧
      change.path = [component, field] := by
  unfold changed Change.path
  rw [hname, splitName_append hcomponent]
  exact ⟨rfl, rfl⟩

theorem changed_of_name (hname : change.name = "name") (c : Config) :
    c.changed change = { c with name := change.setting.toJson } ∧ change.path = ["name"] := by
  have hsplit : splitName [] "name".toList = none := rfl
  unfold changed Change.path
  rw [hname, hsplit]
  exact ⟨rfl, rfl⟩

theorem changed_of_description (hname : change.name = "description") (c : Config) :
    c.changed change = { c with description := change.setting.toJson } ∧
      change.path = ["description"] := by
  have hsplit : splitName [] "description".toList = none := rfl
  unfold changed Change.path
  rw [hname, hsplit]
  exact ⟨rfl, rfl⟩

theorem changed_collisions (c : Config) (p : CollisionPolicy) :
    c.changed (.collisions p) = c.give "builder" "namespace_collision_policy" (.collisions p) ∧
      (Change.collisions p).path = ["builder", "namespace_collision_policy"] :=
  changed_of_component rfl (by decide) c

theorem changed_duplicates (c : Config) (p : DuplicatePolicy) :
    c.changed (.duplicates p) = c.give "builder" "duplicate_attribute_policy" (.duplicates p) ∧
      (Change.duplicates p).path = ["builder", "duplicate_attribute_policy"] :=
  changed_of_component rfl (by decide) c

theorem changed_setting (c : Config) {component : String} (h : component ∈ components)
    (field : String) (v : Json) :
    c.changed (.data (component ++ "__" ++ field) v) = c.give component field (.data v) ∧
      (Change.data (component ++ "__" ++ field) v).path = [component, field] :=
  changed_of_component rfl h c

theorem changed_name (c : Config) (v : Json) :
    c.changed (.data "name" v) = { c with name := v } ∧ (Change.data "name" v).path = ["name"] :=
  changed_of_name rfl c

theorem changed_description (c : Config) (v : Json) :
    c.changed (.data "description" v) = { c with description := v } ∧
      (Change.data "description" v).path = ["description"] :=
  changed_of_description rfl c

/-- **A change replaces its entry in the data**, and no other one. -/
theorem toJson_changed (h : change.WellTyped) (c : Config) :
    (c.changed change).toJson = c.toJson.put change.path change.setting.toJson := by
  cases h with
  | collisions p =>
    obtain ⟨hchanged, hpath⟩ := changed_collisions c p
    rw [hchanged, hpath]
    rfl
  | duplicates p =>
    obtain ⟨hchanged, hpath⟩ := changed_duplicates c p
    rw [hchanged, hpath]
    rfl
  | @name v hv =>
    obtain ⟨hchanged, hpath⟩ := changed_name c v
    rw [hchanged, hpath]
    rfl
  | @description v hv =>
    obtain ⟨hchanged, hpath⟩ := changed_description c v
    rw [hchanged, hpath]
    rfl
  | @setting component field kind v hdeclared hv =>
    obtain ⟨hchanged, hpath⟩ := changed_setting c hdeclared.component_mem field v
    rw [hchanged, hpath]
    cases hdeclared <;> rfl

/-- A change to a value of the declared type keeps the types. -/
theorem Typed.changed (hc : c.Typed) (h : change.WellTyped) : (c.changed change).Typed := by
  cases h with
  | collisions p =>
    rw [(changed_collisions c p).1]
    have hpolicies := hc.builder.policies.2
    exact { hc with builder := { hc.builder with policies := ⟨⟨p, rfl⟩, hpolicies⟩ } }
  | duplicates p =>
    rw [(changed_duplicates c p).1]
    have hpolicies := hc.builder.policies.1
    exact { hc with builder := { hc.builder with policies := ⟨hpolicies, p, rfl⟩ } }
  | @name v hv =>
    rw [(changed_name c v).1]
    exact { hc with name := hv }
  | @description v hv =>
    rw [(changed_description c v).1]
    exact { hc with description := hv }
  | @setting component field kind v hdeclared hv =>
    rw [(changed_setting c hdeclared.component_mem field v).1]
    cases hdeclared with
    | elementConstructor =>
      exact { hc with compiler := { hc.compiler with elementConstructor := hv } }
    | keepsTemplates => exact { hc with compiler := { hc.compiler with keepsTemplates := hv } }
    | cacheLimit => exact { hc with compiler := { hc.compiler with cacheLimit := hv } }
    | strictVariables => exact { hc with runtime := { hc.runtime with strictVariables := hv } }
    | foldsCommandCase => exact { hc with runtime := { hc.runtime with foldsCommandCase := hv } }
    | hasBuiltins => exact { hc with runtime := { hc.runtime with hasBuiltins := hv } }
    | strictArguments => exact { hc with builder := { hc.builder with strictArguments := hv } }
    | maxDepth => exact { hc with builder := { hc.builder with maxDepth := hv } }
    | contentMarker => exact { hc with builder := { hc.builder with contentMarker := hv } }
    | version => exact { hc with document := { hc.document with version := hv } }
    | encoding => exact { hc with document := { hc.document with encoding := hv } }
    | standalone => exact { hc with document := { hc.document with standalone := hv } }

/-! ## Grouped changes -/

/-- The settings that are given for a component. -/
def settingsOf (grouped : List (String × Given)) (component : String) : List (String × Setting) :=
  match Fields.get? grouped component with
  | some (.settings fields) => fields
  | _ => []

/-- What is given for a setting outside of the components, or a default. -/
def valueOf (grouped : List (String × Given)) (name : String) (default : Json) : Json :=
  ((Fields.get? grouped name).map Given.toJson).getD default

/-- A component with settings set one after the other, without a check. -/
def giveAll {α : Type} (give? : α → String → Setting → Option α) (part : α)
    (settings : List (String × Setting)) : α :=
  settings.foldl (fun part p => (give? part p.1 p.2).getD part) part

/-- A configuration with grouped changes, without a check. -/
def together (c : Config) (grouped : List (String × Given)) : Config where
  compiler := giveAll (giveData? CompilerConfig.set?) c.compiler (settingsOf grouped "compiler")
  runtime := giveAll (giveData? RuntimeConfig.set?) c.runtime (settingsOf grouped "runtime")
  builder := giveAll BuilderConfig.give? c.builder (settingsOf grouped "builder")
  document := giveAll (giveData? DocumentConfig.set?) c.document (settingsOf grouped "document")
  name := valueOf grouped "name" c.name
  description := valueOf grouped "description" c.description

/-- What is given for components are settings that they take; what is given besides is data for one
of the two settings outside of the components. -/
inductive Sound : String × Given → Prop
  | settings {component : String} {fields : List (String × Setting)}
      (hcomponent : component ∈ components)
      (htaken : ∀ p ∈ fields, Change.Taken component p.1 p.2) : Sound (component, .settings fields)
  | value {name : String} (hname : name = "name" ∨ name = "description") (v : Json) :
      Sound (name, .value v)

section Grouped

variable {grouped : List (String × Given)}

theorem giveAll_append {α : Type} (give? : α → String → Setting → Option α) (part : α)
    (settings more : List (String × Setting)) :
    giveAll give? part (settings ++ more) = giveAll give? (giveAll give? part settings) more :=
  List.foldl_append

theorem settingsOf_insert (grouped : List (String × Given)) (key component : String)
    (given : Given) :
    settingsOf (Fields.insert grouped key given) component =
      if key = component then settingsOf [(key, given)] component
      else settingsOf grouped component := by
  unfold settingsOf
  rw [Fields.get?_insert]
  by_cases h : key = component <;> simp [h, Fields.get?]

theorem valueOf_insert (grouped : List (String × Given)) (key name : String) (given : Given)
    (default : Json) :
    valueOf (Fields.insert grouped key given) name default =
      if key = name then given.toJson else valueOf grouped name default := by
  unfold valueOf
  rw [Fields.get?_insert]
  by_cases h : key = name <;> simp [h]

/-- **One more setting of a component is set last**, if it was not set before. -/
theorem together_insert_setting {component field : String} (hcomponent : component ∈ components)
    (hfield : field ∉ Fields.keys (settingsOf grouped component)) (setting : Setting) (c : Config) :
    c.together (Fields.insert grouped component
      (.settings (Fields.insert (settingsOf grouped component) field setting))) =
        (c.together grouped).give component field setting := by
  rw [Fields.insert_of_not_mem hfield]
  unfold together
  simp only [settingsOf_insert, valueOf_insert]
  simp only [components, List.mem_cons, List.not_mem_nil, or_false] at hcomponent
  rcases hcomponent with rfl | rfl | rfl | rfl <;>
    simp [give, settingsOf, Fields.get?, giveAll]

/-- A setting outside of the components is set last. -/
theorem together_insert_value {change : Change}
    (hname : change.name = "name" ∨ change.name = "description") (c : Config) :
    c.together (Fields.insert grouped change.name (.value change.setting.toJson)) =
      (c.together grouped).changed change := by
  rcases hname with hname | hname
  · rw [(changed_of_name hname _).1, hname]
    simp [together, settingsOf_insert, valueOf_insert, Given.toJson]
  · rw [(changed_of_description hname _).1, hname]
    simp [together, settingsOf_insert, valueOf_insert, Given.toJson]

/-- What is given first, and what is given then for other components. -/
theorem together_cons {p : String × Given} (h : p.1 ∉ Fields.keys grouped) (c : Config) :
    c.together (p :: grouped) = (c.together [p]).together grouped := by
  have hnone : Fields.get? grouped p.1 = none := Fields.get?_eq_none_iff.mpr h
  have hsettings (component : String) : settingsOf (p :: grouped) component =
      settingsOf [p] component ++ settingsOf grouped component := by
    unfold settingsOf
    by_cases hkey : p.1 = component
    · subst hkey
      cases hgiven : p.2 <;> simp [Fields.get?, hnone, hgiven]
    · simp [Fields.get?, hkey]
  have hvalue (name : String) (default : Json) : valueOf (p :: grouped) name default =
      valueOf grouped name (valueOf [p] name default) := by
    unfold valueOf
    by_cases hkey : p.1 = name
    · subst hkey
      simp [Fields.get?, hnone]
    · simp [Fields.get?, hkey]
  unfold together
  simp only [hsettings, hvalue, giveAll_append]

/-- Settings that are taken are all set. -/
theorem setAll_eq_ok {α : Type} (named : String) {give? : α → String → Setting → Option α}
    {settings : List (String × Setting)}
    (h : ∀ p ∈ settings, ∀ part, (give? part p.1 p.2).isSome = true) (part : α) :
    setAll named give? part settings = .ok (giveAll give? part settings) := by
  induction settings generalizing part with
  | nil => rfl
  | cons p settings ih =>
    obtain ⟨next, hnext⟩ := Option.isSome_iff_exists.mp (h p List.mem_cons_self part)
    have hset : giveAll give? part (p :: settings) = giveAll give? next settings := by
      simp [giveAll, hnext]
    rw [setAll, hnext, hset]
    exact ih (fun q hq => h q (List.mem_cons_of_mem p hq)) next

/-- The changes of one component are made, if the component then passes its check. -/
theorem change_eq_ok {p : String × Given} (hsound : Sound p) {c : Config}
    (hparts : (c.together [p]).PartsPass) : c.change p.1 p.2 = .ok (c.together [p]) := by
  cases hsound with
  | value hname v => rcases hname with rfl | rfl <;> rfl
  | @settings component fields hcomponent htaken =>
    obtain ⟨hcompiler, hbuilder, hdocument⟩ := hparts
    simp only [components, List.mem_cons, List.not_mem_nil, or_false] at hcomponent
    rcases hcomponent with rfl | rfl | rfl | rfl
    · have hcheck : (giveAll (giveData? CompilerConfig.set?) c.compiler fields).check = .ok () :=
        hcompiler
      simp only [change, setAll_eq_ok "CompilerConfig" htaken, Except.bind, hcheck]
      rfl
    · simp only [change, setAll_eq_ok "RuntimeConfig" htaken, Except.bind]
      rfl
    · have hcheck : (giveAll BuilderConfig.give? c.builder fields).check = .ok () := hbuilder
      simp only [change, setAll_eq_ok "BuilderConfig" htaken, Except.bind, hcheck]
      rfl
    · have hcheck : (giveAll (giveData? DocumentConfig.set?) c.document fields).check = .ok () :=
        hdocument
      simp only [change, setAll_eq_ok "DocumentConfig" htaken, Except.bind, hcheck]
      rfl

/-- The components of an intermediate outcome are those from before or those of the last one. -/
theorem partsPass_together {p : String × Given} {c : Config} (hbefore : c.PartsPass)
    (hafter : (c.together (p :: grouped)).PartsPass) : (c.together [p]).PartsPass := by
  have hsettings (component : String) : settingsOf [p] component = [] ∨
      settingsOf (p :: grouped) component = settingsOf [p] component := by
    unfold settingsOf
    by_cases hkey : p.1 = component
    · exact .inr (by simp [Fields.get?, hkey])
    · exact .inl (by simp [Fields.get?, hkey])
  obtain ⟨hcompiler, hbuilder, hdocument⟩ := hbefore
  obtain ⟨hcompiler', hbuilder', hdocument'⟩ := hafter
  unfold together at hcompiler' hbuilder' hdocument'
  refine ⟨?_, ?_, ?_⟩
  · rcases hsettings "compiler" with h | h
    · unfold together
      rw [h]
      exact hcompiler
    · rw [h] at hcompiler'
      exact hcompiler'
  · rcases hsettings "builder" with h | h
    · unfold together
      rw [h]
      exact hbuilder
    · rw [h] at hbuilder'
      exact hbuilder'
  · rcases hsettings "document" with h | h
    · unfold together
      rw [h]
      exact hdocument
    · rw [h] at hdocument'
      exact hdocument'

/-- **Changes that are grouped by component are all made**, one component after the other, if the
components of the outcome pass their checks. -/
theorem foldlM_change (hsound : ∀ p ∈ grouped, Sound p) (hkeys : (Fields.keys grouped).Nodup)
    {c : Config} (hbefore : c.PartsPass) (hafter : (c.together grouped).PartsPass) :
    grouped.foldlM (fun c p => c.change p.1 p.2) c = .ok (c.together grouped) := by
  induction grouped generalizing c with
  | nil => rfl
  | cons p grouped ih =>
    obtain ⟨hnew, hrest⟩ := List.nodup_cons.mp hkeys
    have hfirst := partsPass_together hbefore hafter
    rw [List.foldlM_cons, change_eq_ok (hsound p List.mem_cons_self) hfirst]
    rw [together_cons hnew] at hafter ⊢
    exact ih (fun q hq => hsound q (List.mem_cons_of_mem p hq)) hrest hfirst hafter

/-! ## Grouping -/

/-- What is there for a component is what was given for it. -/
theorem getD_get?_eq (hsound : ∀ p ∈ grouped, Sound p) {component : String}
    (hcomponent : component ∈ components) :
    (Fields.get? grouped component).getD (.settings []) =
      .settings (settingsOf grouped component) := by
  unfold settingsOf
  cases hget : Fields.get? grouped component with
  | none => rfl
  | some given =>
    cases given with
    | settings fields => rfl
    | value v =>
      cases hsound _ (Fields.mem_of_get? hget) with
      | value hname => rcases hname with rfl | rfl <;> exact absurd hcomponent (by decide)

theorem Sound.insert (hsound : ∀ p ∈ grouped, Sound p) {p : String × Given} (h : Sound p) :
    ∀ q ∈ Fields.insert grouped p.1 p.2, Sound q := by
  intro q hq
  rcases Fields.mem_of_mem_insert hq with hq | rfl
  · exact hsound q hq
  · exact h

theorem taken_of_mem_settingsOf (hsound : ∀ p ∈ grouped, Sound p) {component : String} :
    ∀ p ∈ settingsOf grouped component, Change.Taken component p.1 p.2 := by
  unfold settingsOf
  split
  · rename_i fields hget
    cases hsound _ (Fields.mem_of_get? hget) with
    | settings _ htaken => exact htaken
  · exact nofun

/-- What is given for a component stays sound with one more setting that the component takes. -/
theorem Sound.insert_setting (hsound : ∀ p ∈ grouped, Sound p) {component field : String}
    (hcomponent : component ∈ components) {setting : Setting}
    (htaken : Change.Taken component field setting) :
    ∀ q ∈ Fields.insert grouped component
      (.settings (Fields.insert (settingsOf grouped component) field setting)), Sound q := by
  refine Sound.insert hsound (.settings hcomponent fun p hp => ?_)
  rcases Fields.mem_of_mem_insert hp with hp | rfl
  · exact taken_of_mem_settingsOf hsound p hp
  · exact htaken

/-- The change of one setting joins those that are there for its component. -/
theorem group_cons_setting (hsound : ∀ p ∈ grouped, Sound p) {change : Change}
    {component field : String} (hname : change.name = component ++ "__" ++ field)
    (hcomponent : component ∈ components) (changes : List Change) :
    group grouped (change :: changes) = group (Fields.insert grouped component
      (.settings (Fields.insert (settingsOf grouped component) field change.setting))) changes := by
  have hcontains : components.contains component = true := List.elem_eq_true_of_mem hcomponent
  rw [group, hname, splitName_append hcomponent]
  simp only [hcontains, Bool.not_true, Bool.false_eq_true, if_false,
    getD_get?_eq hsound hcomponent]

/-- What is outside of the components is kept by its name. -/
theorem group_cons_value {change : Change}
    (hname : change.name = "name" ∨ change.name = "description")
    (hvalue : Given.ofJson change.setting.toJson = .value change.setting.toJson)
    (changes : List Change) :
    group grouped (change :: changes) =
      group (Fields.insert grouped change.name (.value change.setting.toJson)) changes := by
  have hsplit : splitName [] change.name.toList = none := by
    rcases hname with h | h <;> rw [h] <;> rfl
  rw [group, hsplit]
  simp only [hvalue]

/-- Whether a change is about nothing that was given before. -/
def Fresh (grouped : List (String × Given)) (change : Change) : Prop :=
  ∀ component field, change.name = component ++ "__" ++ field → component ∈ components →
    field ∉ Fields.keys (settingsOf grouped component)

/-- A setting makes a change about another one no less fresh. -/
theorem Fresh.insert_setting {change other : Change} {component field : String}
    (hname : change.name = component ++ "__" ++ field)
    (hfield : field ∉ Fields.keys (settingsOf grouped component)) (hother : Fresh grouped other)
    (hne : other.name ≠ change.name) :
    Fresh (Fields.insert grouped component
      (.settings (Fields.insert (settingsOf grouped component) field change.setting))) other := by
  intro otherComponent otherField hotherName hcomponent
  have hold := hother otherComponent otherField hotherName hcomponent
  rw [settingsOf_insert]
  split
  · rename_i heq
    subst heq
    have hapart : otherField ≠ field := by
      rintro rfl
      exact hne (hotherName.trans hname.symm)
    have hkeys : settingsOf [(component, Given.settings
        (Fields.insert (settingsOf grouped component) field change.setting))] component =
          settingsOf grouped component ++ [(field, change.setting)] := by
      rw [Fields.insert_of_not_mem hfield]
      simp [settingsOf, Fields.get?]
    rw [hkeys, Fields.keys, List.map_append, List.mem_append]
    exact not_or.mpr ⟨hold, by simpa using hapart⟩
  · exact hold

/-- What is given outside of the components makes no change less fresh. -/
theorem Fresh.insert_value {other : Change} {name : String} (hname : name ∉ components) (v : Json)
    (hother : Fresh grouped other) : Fresh (Fields.insert grouped name (.value v)) other := by
  intro component field hotherName hcomponent
  have hne : name ≠ component := fun h => hname (h ▸ hcomponent)
  rw [settingsOf_insert, if_neg hne]
  exact hother component field hotherName hcomponent

/-- **Changes are grouped without a loss**: what is grouped, made together, is what the changes make
one after the other. -/
theorem group_eq_ok {changes : List Change} (htyped : ∀ change ∈ changes, change.WellTyped)
    (hnames : (changes.map Change.name).Nodup) (hsound : ∀ p ∈ grouped, Sound p)
    (hkeys : (Fields.keys grouped).Nodup) (hfresh : ∀ change ∈ changes, Fresh grouped change)
    (c : Config) :
    ∃ all, group grouped changes = .ok all ∧ (∀ p ∈ all, Sound p) ∧ (Fields.keys all).Nodup ∧
      c.together all = changes.foldl changed (c.together grouped) := by
  induction changes generalizing grouped with
  | nil => exact ⟨grouped, rfl, hsound, hkeys, rfl⟩
  | cons change changes ih =>
    rw [List.map_cons, List.nodup_cons] at hnames
    have hne (other : Change) (hother : other ∈ changes) : other.name ≠ change.name :=
      fun h => hnames.1 (h ▸ List.mem_map_of_mem hother)
    have htypedRest := fun other hother => htyped other (List.mem_cons_of_mem change hother)
    have hfreshRest := fun other hother => hfresh other (List.mem_cons_of_mem change hother)
    rcases (htyped change List.mem_cons_self).taken_or_outside with
      ⟨component, field, hname, hcomponent, htaken⟩ | ⟨hname, hvalue⟩
    · have hfield := hfresh change List.mem_cons_self component field hname hcomponent
      rw [group_cons_setting hsound hname hcomponent, List.foldl_cons,
        (changed_of_component hname hcomponent _).1,
        ← together_insert_setting hcomponent hfield change.setting c]
      exact ih htypedRest hnames.2 (Sound.insert_setting hsound hcomponent htaken)
        (Fields.nodup_keys_insert hkeys _ _) fun other hother =>
          (hfreshRest other hother).insert_setting hname hfield (hne other hother)
    · have hcomponent : change.name ∉ components := by
        rcases hname with h | h <;> rw [h] <;> decide
      rw [group_cons_value hname hvalue, List.foldl_cons, ← together_insert_value hname]
      exact ih htypedRest hnames.2 (Sound.insert hsound (.value hname change.setting.toJson))
        (Fields.nodup_keys_insert hkeys _ _) fun other hother =>
          (hfreshRest other hother).insert_value hcomponent _

end Grouped

/-! ## The outcome -/

/-- What was accepted by the last check passed it. -/
theorem check_of_overrideWith {c d : Config} {changes : List Change}
    (h : c.overrideWith changes = .ok d) : d.check = .ok () := by
  unfold overrideWith at h
  split at h
  · cases h
  · obtain ⟨grouped, -, h⟩ := exists_of_bind_eq_ok h
    obtain ⟨outcome, -, h⟩ := exists_of_bind_eq_ok h
    split at h
    · cases h
    · obtain ⟨-, -, h⟩ := exists_of_bind_eq_ok h
      obtain rfl := checked_eq_ok h
      unfold checked at h
      cases hcheck : d.check with
      | ok => rfl
      | error fault =>
        rw [hcheck] at h
        cases h

theorem checkParts_nil {c : Config} (h : c.PartsPass) : c.checkParts [] = .ok () := by
  obtain ⟨hcompiler, hbuilder, hdocument⟩ := h
  unfold checkParts
  rw [hcompiler, hbuilder, hdocument]
  rfl

/-- Nothing is given besides the components and the two settings outside of them. -/
theorem Sound.known {p : String × Given} (h : Sound p) :
    (components ++ ["name", "description"]).contains p.1 = true := by
  cases h with
  | settings hcomponent htaken =>
    exact List.elem_eq_true_of_mem (List.mem_append_left _ hcomponent)
  | value hname v => rcases hname with rfl | rfl <;> rfl

/-- **Changes succeed exactly if their outcome is accepted**, and then they make just this outcome:
for every accepted configuration and all well-typed changes with names that are apart. -/
theorem overrideWith_eq_ok_iff {c : Config} (hcheck : c.check = .ok ()) {changes : List Change}
    (htyped : ∀ change ∈ changes, change.WellTyped) (hnames : (changes.map Change.name).Nodup) :
    c.overrideWith changes = .ok (changes.foldl changed c) ↔
      (changes.foldl changed c).check = .ok () := by
  refine ⟨check_of_overrideWith, fun houtcome => ?_⟩
  have hself : ¬(changes.any fun change => change.name = ownName) = true := by
    rw [List.any_eq_true]
    rintro ⟨change, hchange, hown⟩
    exact (htyped change hchange).name_ne_ownName (of_decide_eq_true hown)
  have hnone : (Fields.keys ([] : List (String × Given))).Nodup := List.nodup_nil
  have hfresh : ∀ change ∈ changes, Fresh [] change := fun _ _ _ _ _ _ => List.not_mem_nil
  have hempty : ∀ p ∈ ([] : List (String × Given)), Sound p := nofun
  obtain ⟨all, hgroup, hsound, hkeys, hall⟩ := group_eq_ok htyped hnames hempty hnone hfresh c
  change c.together all = changes.foldl changed c at hall
  rw [← hall] at houtcome ⊢
  have hparts := partsPass_of_check houtcome
  have hmade := foldlM_change hsound hkeys (partsPass_of_check hcheck) hparts
  have hfind :
      all.find? (fun p => !(components ++ ["name", "description"]).contains p.1) = none := by
    rw [List.find?_eq_none]
    intro p hp
    rw [(hsound p hp).known]
    decide
  unfold overrideWith
  rw [if_neg hself, hgroup]
  simp only [bind, Except.bind] at hmade ⊢
  rw [hmade]
  simp only [hfind]
  -- settings alone are given for components, so none is replaced by something else
  rw [List.filter_eq_nil_iff.mpr, List.map_nil, checkParts_nil hparts]
  · dsimp only
    rw [checked, houtcome]
    rfl
  · intro p hp
    cases hsound p hp with
    | settings _ _ => exact Bool.false_ne_true
    | value hname v => rcases hname with rfl | rfl <;> exact Bool.false_ne_true

/-- What changes do to the data and the types, one after the other. -/
theorem foldl_changed {c : Config} (hc : c.Typed) {changes : List Change}
    (h : ∀ change ∈ changes, change.WellTyped) :
    (changes.foldl changed c).Typed ∧ (changes.foldl changed c).toJson =
      changes.foldl (fun data change => data.put change.path change.setting.toJson) c.toJson := by
  induction changes generalizing c with
  | nil => exact ⟨hc, rfl⟩
  | cons change changes ih =>
    have hchange := h change List.mem_cons_self
    rw [List.foldl_cons, List.foldl_cons, ← toJson_changed hchange c]
    exact ih (hc.changed hchange) fun other hother => h other (List.mem_cons_of_mem change hother)

/-- **Data, texts and changes of an accepted configuration whose settings have their declared
types.** It is read from its data as it was. It is read from its text as it was, with every
indentation and without one, if its whole numbers have few enough digits; else it has no text. And
any number of well-typed changes, of which no two have the same name, have an outcome whose data are
those of the configuration with just the named entries replaced; the changes succeed, and make this
outcome, exactly if it is accepted. -/
theorem data_texts_and_changes {c : Config} (htyped : c.Typed) (hcheck : c.check = .ok ()) :
    read c.toJson = .ok c ∧
      (∀ indent : Option Nat,
        (c.NumbersFit → (c.write indent >>= readText) = .ok c) ∧
          (¬c.NumbersFit → c.write indent = .error (.invalid .tooManyDigitsToWrite))) ∧
      ∀ changes : List Change, (∀ change ∈ changes, change.WellTyped) →
        (changes.map Change.name).Nodup →
          ∃ d : Config, d.Typed ∧
            d.toJson = changes.foldl
              (fun data change => data.put change.path change.setting.toJson) c.toJson ∧
            (c.overrideWith changes = .ok d ↔ d.check = .ok ()) := by
  refine ⟨read_toJson htyped.builder.policies hcheck, readText_write htyped hcheck,
    fun changes hchanges hnames => ?_⟩
  obtain ⟨houtcome, hdata⟩ := foldl_changed htyped hchanges
  exact ⟨changes.foldl changed c, houtcome, hdata, overrideWith_eq_ok_iff hcheck hchanges hnames⟩

theorem strict_typed : strict.Typed where
  compiler := ⟨⟨_, rfl⟩, ⟨_, rfl⟩, .inl ⟨_, rfl⟩⟩
  runtime := ⟨⟨_, rfl⟩, ⟨_, rfl⟩, ⟨_, rfl⟩⟩
  builder := ⟨⟨⟨_, rfl⟩, _, rfl⟩, ⟨_, rfl⟩, .inl ⟨_, rfl⟩, ⟨_, rfl⟩⟩
  document := ⟨⟨_, rfl⟩, ⟨_, rfl⟩, ⟨_, rfl⟩⟩
  name := .inr ⟨_, rfl⟩
  description := .inr ⟨_, rfl⟩

/-- The strict configuration, and three changes of it that are accepted. -/
theorem data_texts_and_changes_strict :
    read strict.toJson = .ok strict ∧ (strict.write (some 2) >>= readText) = .ok strict ∧
      strict.overrideWith
          [.data "builder__max_depth" (.int 16), .duplicates .last, .data "name" (.str "short")] =
        .ok { strict with
          builder := { strict.builder with maxDepth := .int 16, duplicates := .known .last }
          name := .str "short" } := by
  obtain ⟨hdata, htexts, hchanges⟩ := data_texts_and_changes strict_typed rfl
  have hfit : strict.NumbersFit := by
    rintro i (h | h) <;> cases h <;> decide
  refine ⟨hdata, (htexts (some 2)).1 hfit, ?_⟩
  obtain ⟨d, htyped, hput, hoverride⟩ := hchanges
    [.data "builder__max_depth" (.int 16), .duplicates .last, .data "name" (.str "short")]
    (by
      simp only [List.forall_mem_cons]
      exact ⟨.setting .maxDepth (.inl ⟨16, rfl⟩), .duplicates .last, .name (.inr ⟨_, rfl⟩),
        nofun⟩)
    (by decide)
  have hdepth : (Change.data "builder__max_depth" (.int 16)).path = ["builder", "max_depth"] :=
    (changed_of_component rfl (by decide) strict).2
  simp only [List.foldl_cons, hdepth, (changed_duplicates strict .last).2,
    (changed_name strict (.str "short")).2] at hput
  have hd : d = { strict with
      builder := { strict.builder with maxDepth := .int 16, duplicates := .known .last }
      name := .str "short" } :=
    eq_of_toJson_eq htyped.builder.policies ⟨⟨_, rfl⟩, _, rfl⟩ (hput.trans rfl)
  subst hd
  exact hoverride.mpr rfl

/-- A depth with a digit too many is accepted, but has no text. -/
theorem accepted_unwritable :
    ¬∀ c : Config, c.Typed → c.check = .ok () →
      ∀ indent : Option Nat, (c.write indent >>= readText) = .ok c := by
  intro h
  have hlength : ¬(Nat.toDigits 10 (10 ^ Number.digitLimit)).length ≤ Number.digitLimit := by
    rw [Nat.length_toDigits_le_iff (by decide) (by decide)]
    exact Nat.lt_irrefl _
  have hpos : 0 < 10 ^ Number.digitLimit := Nat.pow_pos (by decide)
  generalize 10 ^ Number.digitLimit = n at hlength hpos
  let c : Config := { builder := { maxDepth := .int n } }
  have htyped : c.Typed := { strict_typed with
    runtime := ⟨⟨_, rfl⟩, ⟨_, rfl⟩, ⟨_, rfl⟩⟩
    builder := ⟨⟨⟨_, rfl⟩, _, rfl⟩, ⟨_, rfl⟩, .inl ⟨_, rfl⟩, ⟨_, rfl⟩⟩
    name := .inl rfl
    description := .inl rfl }
  have hcheck : c.check = .ok () := by
    have hdepth : decide ((n : Int) ≤ 0) = false := decide_eq_false (by omega)
    have hcompare : c.builder.maxDepth.compareZero "<=" (· ≤ 0) (· ≤ 0.0) = .ok false :=
      congrArg Except.ok hdepth
    have hbuilder : c.builder.check = .ok () := by
      unfold BuilderConfig.check
      rw [hcompare]
      rfl
    unfold check
    rw [hbuilder]
    rfl
  have hunfit : ¬c.NumbersFit := fun hfit => hlength (hfit n (.inr rfl))
  have hread := h c htyped hcheck none
  rw [(readText_write htyped hcheck none).2 hunfit] at hread
  cases hread

end Config

end TagScript
