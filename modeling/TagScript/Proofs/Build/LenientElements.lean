import TagScript.Proofs.Build.Documents
import TagScript.Proofs.Build.RepeatedAttributes

/-!
# Elements under lenient settings

An element that tolerates what can be tolerated is built from every row of arguments for which
nothing has to be run. Whatever stands next to whatever, a name that comes of it is never empty: an
empty name, an empty prefix and a prefix with a colon are reported and left out, and a name whose
prefix is unbound is kept as it stands.

* `Value.Inert` — plain data, names, namespaces, nodes, and rows of these.
* `Arguments.heads` — the arguments of a row that are in the head position.
* `Build.Makes` — the step comes to a value, whatever the state, and the value has a property.
* `BuildSettings.Tolerates`, `Config.lenient_tolerates` — the settings under which nothing is
  refused.
* `Build.gather_makes` — what taking a row of arguments comes to.
* **`Build.element_lenient`** — the element is built, its attributes have distinct names, and its
  children are the nodes in the head position.
-/

namespace TagScript

/-! ## Arguments for which nothing is run -/

namespace Value

/-- Whether nothing has to be run for a value: it is plain data, a name, a namespace, a node or a
row of such values. -/
inductive Inert : Value → Prop where
  /-- Nothing. -/
  | null : Inert .null
  /-- A truth value. -/
  | bool (b : Bool) : Inert (.bool b)
  /-- A whole number. -/
  | int (i : Int) : Inert (.int i)
  /-- A double. -/
  | float (x : Float) : Inert (.float x)
  /-- A text. -/
  | str (s : String) : Inert (.str s)
  /-- A qualified name. -/
  | name (q : QName) : Inert (.name q)
  /-- A namespace, which has a URI. -/
  | ns {n : Namespace} (h : n.uri ≠ "") : Inert (.ns n)
  /-- A text node. -/
  | text (s : String) : Inert (.text s)
  /-- An element. -/
  | element (e : Element) : Inert (.element e)
  /-- A list. -/
  | list {vs : List Value} (h : ∀ v ∈ vs, Inert v) : Inert (.list vs)
  /-- A row of fixed length. -/
  | tuple {vs : List Value} (h : ∀ v ∈ vs, Inert v) : Inert (.tuple vs)

variable {v : Value}

theorem Inert.ne_stream (h : v.Inert) (id : StreamId) : v ≠ .stream id := by
  rintro rfl
  cases h

/-- Content has to be run. -/
theorem Inert.isContentBlock_eq (h : v.Inert) : v.isContentBlock = false := by
  cases h <;> rfl

/-- The node that a value is. -/
def node? : Value → Option Node
  | .text s => some (.text s)
  | .element e => some (.ofElement e)
  | _ => none

/-- Names are no nodes. -/
theorem node?_of_name {head : Head} (h : v.head? = some head) : v.node? = none := by
  cases v <;> first | rfl | cases h

theorem filterMap_node?_cons (v : Value) (vs : List Value) :
    (v :: vs).filterMap node? = v.node?.toList ++ vs.filterMap node? := by
  cases h : v.node? with
  | none => rw [List.filterMap_cons_none h]; rfl
  | some n => rw [List.filterMap_cons_some h]; rfl

/-- Whether a name takes the argument behind it: a namespace, or anything that is not written like a
parameter. -/
def followsName : Value → Bool
  | .ns _ => true
  | v => !v.isFlag

end Value

/-- The arguments in the head position: each but those that a name before them takes. -/
def Arguments.heads : List Value → List Value
  | [] => []
  | [v] => [v]
  | v :: w :: rest =>
    if v.head?.isSome && w.followsName then v :: heads rest else v :: heads (w :: rest)

/-- An attribute name that is not empty is resolved. -/
theorem Registry.exists_resolveAttribute (r : Registry) {text : String} (h : text ≠ "") :
    ∃ p, r.resolveAttribute text = .ok p := by
  unfold resolveAttribute
  split
  · rename_i hsplit
    obtain ⟨name, resolved, hresolve, -⟩ := r.exists_resolve h
    rw [resolve, hsplit] at hresolve
    exact ⟨_, hresolve⟩
  · exact ⟨_, by rw [QName.of, if_neg h]; rfl⟩

/-! ## Settings that refuse nothing -/

/-- Whether settings tolerate arguments that cannot be used, prefixes that are bound twice and names
that are given twice. -/
structure BuildSettings.Tolerates (settings : BuildSettings) : Prop where
  /-- Arguments that cannot be used are reported. -/
  arguments : settings.strictArguments = false
  /-- Second URIs of prefixes are reported. -/
  collisions : settings.strictCollisions = false
  /-- Names that are given twice are reported. -/
  duplicates : ∃ policy, settings.duplicates = some policy ∧ policy ≠ .reject

theorem Config.lenient_tolerates : Config.lenient.settings.Tolerates :=
  ⟨rfl, rfl, .last, rfl, nofun⟩

/-- Whether parts are complete with these children: no name waits, and no name is given to two
attributes. -/
structure Parts.Holds (parts : Parts) (nodes : List Node) : Prop where
  /-- The children. -/
  children : parts.children = nodes
  /-- No two attributes have one name. -/
  distinct : (Attribute.names parts.attributes).Nodup
  /-- No name waits. -/
  settled : parts.pending = none

namespace Build

/-! ## Steps that come to a value -/

/-- The step comes to a value in every state, and the value has the property. -/
def Makes {α : Type} (m : Build α) (Q : α → Prop) : Prop :=
  ∀ s : BuildState, ∃ a s', m s = (.ok a, s') ∧ Q a

namespace Makes

variable {α β : Type} {m : Build α} {Q : α → Prop}

theorem of_pure {a : α} (h : Q a) : Makes (Pure.pure a) Q := fun s => ⟨a, s, rfl, h⟩

theorem bind {f : α → Build β} {P : β → Prop} (hm : Makes m Q) (hf : ∀ a, Q a → Makes (f a) P) :
    Makes (m >>= f) P := by
  intro s
  obtain ⟨a, s', hrun, ha⟩ := hm s
  rw [bind_of_ok hrun]
  exact hf a ha s'

/-- What is looked up in the state and is there is handed on. -/
theorem lookup {f : BuildState → Except Fault α} {k : α → Build β} {P : β → Prop}
    (h : ∀ s, ∃ a, f s = .ok a) (hk : ∀ a, Makes (k a) P) :
    Makes (read f >>= fun found => lift found >>= k) P := by
  intro s
  obtain ⟨a, ha⟩ := h s
  rw [read_bind, ha, bind_of_ok (show lift (.ok a) s = (.ok a, s) from rfl)]
  exact hk a s

end Makes

variable {env : BuildEnv} {tag : QName} {parts : Parts} {nodes : List Node} {head : Head}
  {v : Value}

theorem warn_makes (logMessage : String) (logFields : List (String × Json)) (message : String)
    (code : DiagnosticCode) (details : List (String × Json)) :
    Makes (warn env logMessage logFields message code details) fun _ => True :=
  fun _ => ⟨(), _, rfl, trivial⟩

section

variable (htolerates : env.settings.Tolerates)
include htolerates

theorem malformed_makes (problem : ArgumentProblem) (value : String) :
    Makes (malformed env tag problem value) fun _ => True := by
  rw [malformed, if_neg (by simp [htolerates.arguments])]
  exact warn_makes _ _ _ _ _

theorem drop_makes (h : parts.Holds nodes) (problem : ArgumentProblem × String) :
    Makes (drop env tag parts problem) (·.Holds nodes) :=
  .bind (malformed_makes htolerates _ _) fun _ _ => .of_pure h

theorem bindPrefix_makes (pfx : String) {uri : String} (huri : uri ≠ "") :
    Makes (bindPrefix env tag pfx uri) fun _ => True := by
  intro s
  rw [bindPrefix, read_bind, Registry.add, if_neg huri]
  split
  · exact ⟨(), _, rfl, trivial⟩
  · rename_i known _
    by_cases hknown : known = uri
    · rw [if_pos hknown]
      exact ⟨(), _, rfl, trivial⟩
    · rw [if_neg hknown, htolerates.collisions]
      exact warn_makes _ _ _ _ _ s

theorem addAttribute_makes (h : parts.Holds nodes) (name : QName) (value : String) :
    Makes (addAttribute env tag parts name value) (·.Holds nodes) := by
  obtain ⟨policy, hpolicy, hreject⟩ := htolerates.duplicates
  unfold addAttribute
  split
  · rename_i hnew
    refine .of_pure ⟨h.children, ?_, h.settled⟩
    have hnew : name ∉ Attribute.names parts.attributes := by
      simpa [← hasAttribute_iff] using hnew
    have hnames : Attribute.names (parts.attributes ++ [⟨name, value⟩]) =
        Attribute.names parts.attributes ++ [name] := List.map_append
    rw [hnames]
    exact List.nodup_append.mpr ⟨h.distinct, by simp, by grind⟩
  · rw [hpolicy]
    cases policy with
    | reject => exact absurd rfl hreject
    | first => exact .bind (warn_makes _ _ _ _ _) fun _ _ => .of_pure h
    | last =>
      refine .bind (warn_makes _ _ _ _ _) fun _ _ => .of_pure ⟨h.children, ?_, h.settled⟩
      have hnames : Attribute.names (parts.attributes.map fun a =>
          if a.name = name then ⟨name, value⟩ else a) = Attribute.names parts.attributes :=
        DuplicatePolicy.names_replaced parts.attributes ⟨name, value, #[]⟩
      rw [if_pos rfl, hnames]
      exact h.distinct

theorem declare_makes (h : parts.Holds nodes) (head : Head) {n : Namespace} (hn : n.uri ≠ "") :
    Makes (declare env tag parts head n) (·.Holds nodes) := by
  unfold declare
  split
  · exact .bind (bindPrefix_makes htolerates _ hn) fun _ _ => .of_pure h
  · dsimp only
    split
    · exact drop_makes htolerates h (_, _)
    · exact .bind (addAttribute_makes htolerates h _ _) fun parts hparts =>
        .bind (bindPrefix_makes htolerates _ hn) fun _ _ => .of_pure hparts

/-- The name of an attribute is resolved only if it is not empty, and then it is not refused. -/
theorem attributeName_makes (head : Head) :
    Makes (attributeName env tag head) fun _ => True := by
  cases head with
  | name q => exact .of_pure trivial
  | word text =>
    rw [attributeName]
    dsimp only
    split
    · exact .bind (malformed_makes htolerates _ _) fun _ _ => .of_pure trivial
    · rename_i hname
      refine .lookup (fun s => s.registry.exists_resolveAttribute hname) fun p => ?_
      split
      · exact .bind (warn_makes _ _ _ _ _) fun _ _ => .of_pure trivial
      · exact .of_pure trivial

/-! ## Arguments -/

omit htolerates in
/-- Where nothing has to be run, the text of a value is there at once, and that of a row. -/
theorem exists_attributeText (E : Engine) :
    (∀ v : Value, v.Inert → ∃ text, attributeText E env v = pure text) ∧
      ∀ vs : List Value, (∀ v ∈ vs, v.Inert) → ∃ text, attributeTexts E env vs = pure text := by
  apply attributeText.mutual_induct
  case case1 =>
    intro vs ih hv
    cases hv with
    | list h =>
      rw [attributeText]
      exact ih h
  case case2 =>
    intro vs ih hv
    cases hv with
    | tuple h =>
      rw [attributeText]
      exact ih h
  case case3 =>
    intro e _
    exact ⟨e.text, by rw [attributeText]⟩
  case case4 =>
    intro s _
    exact ⟨s, by rw [attributeText]⟩
  case case5 =>
    intro _
    exact ⟨"", by rw [attributeText]⟩
  case case6 =>
    intro v _ _ _ _ _ hcontent hv
    rw [hv.isContentBlock_eq] at hcontent
    cases hcontent
  case case7 =>
    intro v _ _ _ _ _ hplain hv
    exact ⟨v.plain, by simp only [attributeText, hplain]; rfl⟩
  case case8 =>
    intro _
    exact ⟨"", by rw [attributeTexts]⟩
  case case9 =>
    intro v vs ihv ihvs hvs
    obtain ⟨hv, hvs⟩ := List.forall_mem_cons.mp hvs
    obtain ⟨first, hfirst⟩ := ihv hv
    obtain ⟨rest, hrest⟩ := ihvs hvs
    exact ⟨first ++ rest, by rw [attributeTexts, hfirst, hrest]; rfl⟩

variable {E : Engine}

/-- An argument that is no name becomes a child or is left out. -/
theorem takeFirst_makes (h : parts.Holds nodes) (hv : v.Inert) (hname : v.head? = none) :
    Makes (takeFirst E env tag parts v) (·.Holds (nodes ++ v.node?.toList)) := by
  have hleft (problem : ArgumentProblem × String) :
      Makes (drop env tag parts problem) (·.Holds (nodes ++ [])) := by
    rw [List.append_nil]
    exact drop_makes htolerates h problem
  have hchild (n : Node) :
      Makes (pure { parts with children := parts.children ++ [n] }) (·.Holds (nodes ++ [n])) :=
    .of_pure ⟨by rw [h.children], h.distinct, h.settled⟩
  cases hv with
  | null => exact .of_pure ⟨by simp [h.children, Value.node?], h.distinct, h.settled⟩
  | str s => cases hname
  | name q => cases hname
  | text s => exact hchild (.text s)
  | element e => exact hchild (.ofElement e)
  | bool _ | int _ | float _ | ns _ | list _ | tuple _ => exact hleft (.notAName _, _)

/-- A name and a value make an attribute, or are left out. -/
theorem pairUp_makes (h : parts.Holds nodes) (head : Head) (hv : v.Inert) :
    Makes (pairUp E env tag parts head v) (·.Holds nodes) := by
  obtain ⟨text, htext⟩ := (exists_attributeText E).1 v hv
  rw [pairUp, htext]
  refine .bind (attributeName_makes htolerates head) fun name _ => ?_
  rw [pure_bind]
  cases name with
  | none => exact .of_pure h
  | some name => exact addAttribute_makes htolerates h name text

/-- A name and an argument that it takes make a declaration or an attribute, or are left out. -/
theorem takeSecond_makes (h : parts.Holds nodes) (head : Head) (hv : v.Inert)
    (hfollows : v.followsName = true) :
    Makes (takeSecond E env tag parts head v) (·.Holds nodes) := by
  have hvalue (hns : ∀ n, v ≠ .ns n) (hnull : v ≠ .null) (hflag : v.isFlag = false) :
      Makes (takeSecond E env tag parts head v) (·.Holds nodes) := by
    have hpairs : takeSecond E env tag parts head v = pairUp E env tag parts head v := by
      rw [takeSecond, head.reading_of_value _ hv.isContentBlock_eq hns hnull, hflag]
      rfl
    rw [hpairs]
    exact pairUp_makes htolerates h head hv
  cases hv with
  | null => exact drop_makes htolerates h (.noValue head.shown, head.shown)
  | ns hn => exact declare_makes htolerates h head hn
  | _ => exact hvalue (by simp) (by simp) (by simpa [Value.followsName] using hfollows)

omit htolerates in
/-- An argument that is written like a parameter is taken as if no name had waited. -/
theorem takeSecond_of_flag (hv : v.Inert) (hfollows : v.followsName = false) :
    takeSecond E env tag parts head v = takeFirst E env tag parts v := by
  have hvalue (hns : ∀ n, v ≠ .ns n) (hnull : v ≠ .null) (hflag : v.isFlag = true) :
      takeSecond E env tag parts head v = takeFirst E env tag parts v := by
    rw [takeSecond, head.reading_of_value _ hv.isContentBlock_eq hns hnull, hflag]
    rfl
  cases hv with
  | null => cases hfollows
  | ns _ => cases hfollows
  | _ => exact hvalue (by simp) (by simp) (by simpa [Value.followsName] using hfollows)

section

variable (hfeed : ∀ limit parts v, Keeps OnlyTakes (feed E env tag limit parts v)
  (feed E env tag limit parts v))
include hfeed

omit htolerates in
/-- A name waits for the argument behind it. -/
theorem feedAll_name (hsettled : parts.pending = none) (hname : v.head? = some head) {w : Value}
    (hw : w.Inert) (rest : List Value) :
    feedAll E env tag (v :: w :: rest) parts =
      takeSecond E env tag parts head w >>= fun parts => feedAll E env tag rest parts := by
  have hwaits : take E env tag parts v = pure { parts with pending := some head } := by
    rw [take, hsettled, Value.head?_eq_some hname]
    cases head <;> rfl
  have hv (id : StreamId) : v ≠ .stream id := by
    rintro rfl
    cases hname
  rw [feedAll_value hfeed hv, hwaits, pure_bind, feedAll_value hfeed hw.ne_stream, take]
  dsimp only
  rw [← hsettled]

/-- **What taking a row of arguments comes to**: the nodes in the head position are added. -/
theorem gather_makes {vs : List Value} (hvs : ∀ v ∈ vs, v.Inert) (h : parts.Holds nodes) :
    Makes (feedAll E env tag vs parts >>= finish env tag)
      (·.Holds (nodes ++ (Arguments.heads vs).filterMap Value.node?)) := by
  have hempty {parts : Parts} {nodes : List Node} (h : parts.Holds nodes) :
      Makes (feedAll E env tag [] parts >>= finish env tag) (·.Holds nodes) := by
    have hdone : feedAll E env tag [] parts >>= finish env tag = pure parts := by
      rw [show feedAll E env tag [] parts = pure parts from rfl, pure_bind, finish, h.settled]
    rw [hdone]
    exact .of_pure h
  have hfirst {parts : Parts} {nodes : List Node} {v : Value} {rest : List Value}
      (h : parts.Holds nodes) (hv : v.Inert) (hname : v.head? = none) {Q : Parts → Prop}
      (hrest : ∀ parts : Parts, parts.Holds (nodes ++ v.node?.toList) →
        Makes (feedAll E env tag rest parts >>= finish env tag) Q) :
      Makes (feedAll E env tag (v :: rest) parts >>= finish env tag) Q := by
    rw [feedAll_value hfeed hv.ne_stream, take, h.settled, bind_assoc]
    exact .bind (takeFirst_makes htolerates h hv hname) hrest
  fun_induction Arguments.heads vs generalizing parts nodes with
  | case1 => simpa using hempty h
  | case2 v =>
    have hv : v.Inert := hvs v List.mem_cons_self
    rw [Value.filterMap_node?_cons, List.filterMap_nil, List.append_nil]
    cases hname : v.head? with
    | none => exact hfirst h hv hname fun parts hparts => hempty hparts
    | some head =>
      have hwaits : feedAll E env tag [v] parts = pure { parts with pending := some head } := by
        rw [feedAll_value hfeed hv.ne_stream, take, h.settled, Value.head?_eq_some hname]
        cases head <;> rfl
      rw [hwaits, pure_bind, Value.node?_of_name hname, Option.toList_none, List.append_nil]
      exact .bind (malformed_makes htolerates _ _) fun _ _ =>
        .of_pure ⟨h.children, h.distinct, rfl⟩
  | case3 v w rest htaken ih =>
    rw [Bool.and_eq_true] at htaken
    obtain ⟨head, hname⟩ := Option.isSome_iff_exists.mp htaken.1
    have hw : w.Inert := hvs w (by simp)
    rw [feedAll_name hfeed h.settled hname hw, bind_assoc, Value.filterMap_node?_cons,
      Value.node?_of_name hname]
    exact .bind (takeSecond_makes htolerates h head hw htaken.2) fun parts hparts =>
      ih (fun v hv => hvs v (by simp [hv])) hparts
  | case4 v w rest htaken ih =>
    have hv : v.Inert := hvs v List.mem_cons_self
    have hw : w.Inert := hvs w (by simp)
    have hbehind : ∀ v ∈ w :: rest, v.Inert := fun v hv => hvs v (List.mem_cons_of_mem _ hv)
    rw [Value.filterMap_node?_cons]
    cases hname : v.head? with
    | none =>
      rw [← List.append_assoc]
      exact hfirst h hv hname fun parts hparts => ih hbehind hparts
    | some head =>
      have hflag : w.followsName = false := by simpa [hname] using htaken
      have hdropped : feedAll E env tag (v :: w :: rest) parts =
          feedAll E env tag (w :: rest) parts := by
        rw [feedAll_name hfeed h.settled hname hw, takeSecond_of_flag hw hflag,
          feedAll_value hfeed hw.ne_stream, take, h.settled]
      rw [hdropped, Value.node?_of_name hname]
      exact ih hbehind h

end

end

/-- The lenient settings. -/
def lenientEnv : BuildEnv :=
  ⟨Config.lenient.settings, 0, none⟩

/-- Names that are nothing but decoration, names that are dropped, and values that are no names. -/
def adjoining : List Value :=
  [.str "-", .str "v", .str "xmlns::", .ns ⟨"urn:u"⟩, .list [.int 1], .text "t", .str ":k",
    .text "taken", .name ⟨"k", some "urn:u"⟩, .str "-p:k", .bool true,
    .element ⟨⟨"e", none⟩, [], []⟩, .str "last"]

end Build

end TagScript
