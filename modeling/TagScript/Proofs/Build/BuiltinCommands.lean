import TagScript.Proofs.Build.ObedientRuns

/-!
# Builds with the built-in commands

The built-in commands bring nothing along. They build elements and namespaces and run blocks, or
they yield their arguments or a text, and they fail at run time only. A document that is built with
them, in a session of its own, keeps to a regime if its parameters and its content do.

* `Command.builtins_cases` — what the built-in commands do.
* `CommandTable.mem_withBuiltins` — the table of the built-in commands holds no other ones.
* `CommandTable.lookup_withBuiltins` — each of them is behind all of its names.
* `Regime.admits_builtins` — the built-in commands keep to every regime.
* `stoppedClock` — a clock that tells nothing.
* **`Regime.buildDocument_meets`** — a document or a fault that the regime allows.
-/

namespace TagScript

/-! ## What they do -/

/-- Arguments are refused at run time, when an option has no value. -/
theorem Parameters.sort_error {switches options : List String} {done : Parameters}
    {args : List Value} {fault : Fault} (h : sort switches options done args = .error fault) :
    ∃ problem, fault = .runtime problem := by
  fun_induction sort switches options done args with
  | case1 => cases h
  | case2 done arg rest name _ ih => exact ih h
  | case3 done arg rest _ ih => exact ih h
  | case4 =>
    cases h
    exact ⟨_, rfl⟩
  | case5 done arg name _ value rest ih => exact ih h

theorem dateText_cases (clock : Clock) (args : List Value) :
    (∃ s, dateText clock args = .ok (.str s)) ∨
      ∃ problem, dateText clock args = .error (.runtime problem) := by
  unfold dateText
  cases hsorted : Parameters.ofArguments ["UtcNow"] ["Format"] args with
  | error fault =>
    obtain ⟨problem, rfl⟩ := Parameters.sort_error hsorted
    exact .inr ⟨problem, rfl⟩
  | ok p =>
    dsimp only [bind, Except.bind]
    split
    · split
      · exact .inl ⟨_, rfl⟩
      · exact .inl ⟨_, rfl⟩
    · exact .inr ⟨_, rfl⟩

namespace Command

theorem joinText_cases (args : List Value) :
    (∃ s, joinText args = .ok (.str s)) ∨
      ∃ problem, joinText args = .error (.runtime problem) := by
  unfold joinText
  cases hsorted : Parameters.ofArguments [] ["Separator"] args with
  | error fault =>
    obtain ⟨problem, rfl⟩ := Parameters.sort_error hsorted
    exact .inr ⟨problem, rfl⟩
  | ok p => exact .inl ⟨_, rfl⟩

/-- **What the built-in commands do.** -/
theorem builtins_cases {clock : Clock} {c : Command} (h : c ∈ builtins clock) :
    c.action = .acting .newElement ∨ c.action = .acting .newNamespace ∨
      c.action = .acting .forEachItem ∨ ∃ f, c.action = .plain f ∧ ∀ args,
        f args = .ok (.list args) ∨ (∃ s, f args = .ok (.str s)) ∨
          ∃ problem, f args = .error (.runtime problem) := by
  simp only [builtins, List.mem_cons, List.not_mem_nil, or_false] at h
  rcases h with rfl | rfl | rfl | rfl | rfl | rfl
  · exact .inl rfl
  · exact .inr (.inl rfl)
  · exact .inr (.inr (.inl rfl))
  · exact .inr (.inr (.inr ⟨_, rfl, fun args => .inl rfl⟩))
  · exact .inr (.inr (.inr ⟨_, rfl, fun args => .inr (dateText_cases clock args)⟩))
  · exact .inr (.inr (.inr ⟨_, rfl, fun args => .inr (joinText_cases args)⟩))

end Command

/-! ## Where they are -/

/-- The table of the built-in commands holds no other ones. -/
theorem CommandTable.mem_withBuiltins {foldsCase : Bool} {clock : Clock}
    {entry : String × Nat × Command} (h : entry ∈ (withBuiltins foldsCase clock).entries) :
    entry.2.2 ∈ Command.builtins clock := by
  have hfold (cs : List Command) (t : CommandTable) (hmem : entry ∈ (cs.foldl install t).entries) :
      entry ∈ t.entries ∨ entry.2.2 ∈ cs := by
    induction cs generalizing t with
    | nil => exact .inl hmem
    | cons c cs ih =>
      rcases ih (t.install c) hmem with hbefore | hcs
      · rcases mem_entries_install hbefore with hold | hnew
        · exact .inl hold
        · exact .inr (hnew ▸ List.mem_cons_self)
      · exact .inr (List.mem_cons_of_mem c hcs)
  exact (hfold _ _ h).resolve_left List.not_mem_nil

/-- A table that a configuration asks for holds built-in commands only. -/
theorem Session.mem_newTable {config : Config} {clock : Clock} {entry : String × Nat × Command}
    (h : entry ∈ (newTable config clock).entries) : entry.2.2 ∈ Command.builtins clock := by
  unfold newTable at h
  dsimp only at h
  split at h
  · exact CommandTable.mem_withBuiltins h
  · cases h

theorem Session.builtins_newTable (config : Config) (clock : Clock) :
    ∀ entry ∈ (newTable config clock).entries, ∃ clock, entry.2.2 ∈ Command.builtins clock :=
  fun _ hentry => ⟨clock, mem_newTable hentry⟩

/-- **The built-in commands keep to a regime** that holds texts and lets what fails at run time
fail. -/
theorem Regime.admits_builtins {R : Regime} (hstr : ∀ s, R.held (.str s))
    (hruntime : ∀ problem, R.fault (.runtime problem)) {clock : Clock} {c : Command}
    (h : c ∈ Command.builtins clock) : R.Admits c := by
  unfold Regime.Admits
  rcases Command.builtins_cases h with haction | haction | haction | ⟨f, haction, hf⟩
  · rw [haction]
    trivial
  · rw [haction]
    trivial
  · rw [haction]
    trivial
  · rw [haction]
    intro args hargs
    unfold Command.applyPlain
    rcases hf args with hlist | ⟨s, hs⟩ | ⟨problem, hproblem⟩
    · rw [hlist]
      exact .list hargs
    · rw [hs]
      exact .leaf rfl (hstr s)
    · rw [hproblem]
      exact hruntime problem

/-- A clock that tells nothing. -/
def stoppedClock : Clock :=
  ⟨fun _ => "", fun _ _ _ => ""⟩

/-! ## How they are found -/

namespace CommandTable

section

variable {t : CommandTable} {c : Command} {name : String}

theorem find?_foldl_install_of_notMem {cs : List Command}
    (h : ∀ d ∈ cs, t.key name ∉ (d.name :: d.aliases).map t.key) :
    (cs.foldl install t).find? name = t.find? name := by
  induction cs generalizing t with
  | nil => rfl
  | cons d cs ih =>
    obtain ⟨hd, hcs⟩ := List.forall_mem_cons.mp h
    rw [List.foldl_cons, @ih (t.install d) hcs, find?_install, if_neg hd]

/-- Commands that have no name in common are behind all of their names. -/
theorem lookup_foldl_install {cs : List Command}
    (hcs : cs.Pairwise fun c d =>
      ∀ name ∈ c.name :: c.aliases, t.key name ∉ (d.name :: d.aliases).map t.key)
    (hc : c ∈ cs) (hname : name ∈ c.name :: c.aliases) :
    (cs.foldl install t).lookup name = .ok c := by
  induction cs generalizing t with
  | nil => cases hc
  | cons d cs ih =>
    obtain ⟨hd, hcs⟩ := List.pairwise_cons.mp hcs
    rcases List.mem_cons.mp hc with rfl | hc
    · rw [List.foldl_cons, lookup,
        @find?_foldl_install_of_notMem (t.install c) name cs fun d hdcs => hd d hdcs name hname,
        find?_install, if_pos (List.mem_map_of_mem hname)]
    · exact @ih (t.install d) hcs hc

end

/-- The built-in commands have no name in common. -/
theorem apart_builtins (t : CommandTable) (clock : Clock) :
    (Command.builtins clock).Pairwise fun c d =>
      ∀ name ∈ c.name :: c.aliases, t.key name ∉ (d.name :: d.aliases).map t.key := by
  have hnames : (Command.builtins clock).map (fun c => c.name :: c.aliases) =
      (Command.builtins stoppedClock).map fun c => c.name :: c.aliases := rfl
  have hkey : t.key = (empty t.foldsCase).key := rfl
  have hapart : ((Command.builtins clock).map fun c => c.name :: c.aliases).Pairwise
      fun names others => ∀ name ∈ names, t.key name ∉ others.map t.key := by
    rw [hnames, hkey]
    cases t.foldsCase <;> decide
  exact hapart.of_map _ fun _ _ h => h

/-- **Each built-in command is behind all of its names.** -/
theorem lookup_withBuiltins (foldsCase : Bool) {clock : Clock} {c : Command}
    (hc : c ∈ Command.builtins clock) {name : String} (hname : name ∈ c.name :: c.aliases) :
    (withBuiltins foldsCase clock).lookup name = .ok c :=
  lookup_foldl_install (apart_builtins (empty foldsCase) clock) hc hname

end CommandTable

/-! ## Documents -/

section

variable {R : Regime} {config : Config} {clock : Clock}

/-- A build in a session of its own begins in a state that keeps to a regime, unless a parameter has
no name. -/
theorem Regime.beginBuild_meets (henv : R.env = ⟨config.settings, 0, none⟩) (hown : ∀ id, R.own id)
    (hcommands : ∀ c ∈ Command.builtins clock, R.Admits c) {parameters : List (String × Value)}
    (hparameters : ∀ b ∈ parameters, R.Holds b.2) :
    let session := Session.create config clock none
    (∃ s, session.beginBuild parameters .empty = .ok (R.env, s) ∧ R.Alike 0 s s) ∨
      session.beginBuild parameters .empty = .error (.invalid .emptyVariableName) ∧
        ∃ b ∈ parameters, b.1 = "" := by
  intro session
  have hempty : R.ScopesAlike Scopes.empty Scopes.empty := by
    constructor
    case size => rfl
    case same => exact fun _ _ => rfl
    case bound => exact nofun
    case later => exact fun id _ => hown id
  rw [Session.beginBuild_eq]
  rcases hempty.add none nofun hparameters with
    ⟨t, t', hadd, hadd', halike, -⟩ | ⟨hrefused, -, hunnamed⟩
  · obtain rfl : t = t' := by
      rw [hadd] at hadd'
      cases hadd'
      rfl
    have hcaches : Workshop.Invariant R.env.settings.compiler ⟨session.table, .empty⟩ :=
      Workshop.invariant_empty _ _
    refine .inl ⟨session.begun .empty t, ?_, ?_⟩
    · rw [henv]
      exact congrArg (Except.map _) hadd
    · exact ⟨rfl, rfl, rfl, rfl, rfl, rfl, halike, hcaches, hcaches,
        fun entry hentry => hcommands _ (Session.mem_newTable hentry), nofun⟩
  · exact .inr ⟨congrArg (Except.map _) hrefused, hunnamed⟩

/-- **A document that is built in a session of its own keeps to a regime**, and so does a fault,
unless a parameter has no name. -/
theorem Regime.buildDocument_meets (L : R.Lawful) (henv : R.env = ⟨config.settings, 0, none⟩)
    (hown : ∀ id, R.own id) (hcommands : ∀ c ∈ Command.builtins clock, R.Admits c)
    (request : DocumentRequest) (hdeclared : ∀ root s, ∃ doc,
      (Build.documentOf R.env config.document request root s).1 = .ok doc)
    (hrequest : R.RequestMeets request) (hparameters : ∀ b ∈ request.parameters, R.Holds b.2) :
    (∀ doc, buildDocument config clock request = .ok doc → R.Grows 0 doc.root) ∧
      ∀ fault, buildDocument config clock request = .error fault →
        R.fault fault ∨
          fault = .invalid .emptyVariableName ∧ ∃ b ∈ request.parameters, b.1 = "" := by
  let session := Session.create config clock none
  change (∀ doc, (session.buildDocument request).1 = .ok doc → _) ∧
    ∀ fault, (session.buildDocument request).1 = .error fault → _
  rcases beginBuild_meets henv hown hcommands hparameters with
    ⟨begun, hbegin, hstart⟩ | ⟨hbegin, hunnamed⟩
  · have hfaultless : ∀ root s fault,
        (Build.documentOf R.env config.document request root s).1 = .error fault →
          R.fault fault := by
      intro root s fault hfault
      obtain ⟨doc, hdoc⟩ := hdeclared root s
      rw [hdoc] at hfault
      cases hfault
    have houtcome := Obedience.document L (Obedience.engine L nestingBound) hfaultless hrequest _ _
      hstart
    rw [Session.buildDocument_fst hbegin]
    refine ⟨fun doc hdoc => ?_, fun fault hfault => .inl ?_⟩
    · refine houtcome.value doc.root ?_
      rw [Build.map_apply]
      exact congrArg (Except.map Document.root) hdoc
    · refine houtcome.fault fault ?_
      rw [Build.map_apply]
      exact congrArg (Except.map Document.root) hfault
  · unfold Session.buildDocument
    rw [hbegin]
    refine ⟨nofun, fun fault hfault => .inr ⟨?_, hunnamed⟩⟩
    cases hfault
    rfl

end

end TagScript
