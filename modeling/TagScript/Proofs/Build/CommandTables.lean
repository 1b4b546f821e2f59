import TagScript.Proofs.Build.Kept
import TagScript.Proofs.Template.Caching
import TagScript.Session

/-!
# The tables of commands in a session

One table tells which words are commands while a block is made ready, and one table is where
statements invoke their commands from. In a session that begins with commands both are the same
table. In a session that begins without any they are two: its users register their commands to the
first one, and the second one stays empty.

* `Build.Changes` — all that a build does to the tables: it may register a command, if the table
  that it invokes from has one.
* `Build.changes_document`, `Build.changes_element` — building a document or an element makes only
  such changes.
* `Session.Wired` — how the tables of a session stand to each other, whatever its users have ordered
  so far.
* **`Session.invokesWords_iff`** — a session invokes the commands that it tells from element words
  exactly if the built-in commands are there, or no word is told to be a command.
-/

namespace TagScript

namespace CommandTable

/-! ## Tables -/

/-- The size of a table is zero only without entries. -/
theorem size_eq_zero_iff (t : CommandTable) : t.size = 0 ↔ t.entries = [] := by
  unfold size names
  rw [List.length_mergeSort]
  cases t.entries with
  | nil => exact iff_of_true rfl rfl
  | cons e entries =>
    rw [List.map_cons, List.eraseDups_cons]
    exact iff_of_false (Nat.succ_ne_zero _) (List.cons_ne_nil e entries)

/-- The command behind a name is found exactly if the name is resolved. -/
theorem exists_lookup {t : CommandTable} {name : String} (h : t.canResolve name = true) :
    ∃ c, t.lookup name = .ok c := by
  obtain ⟨entry, hentry⟩ := Option.isSome_iff_exists.mp h
  exact ⟨entry.2, by rw [lookup, hentry]⟩

theorem lookup_of_empty {t : CommandTable} (h : t.entries = []) (name : String) :
    t.lookup name = .error (.unknownCommand name) := by
  rw [lookup, find?, h]
  rfl

/-- A command that is found stands in the table. -/
theorem exists_mem_of_lookup {t : CommandTable} {name : String} {c : Command}
    (h : t.lookup name = .ok c) : ∃ entry ∈ t.entries, entry.2.2 = c := by
  unfold lookup at h
  split at h
  · rename_i found hfound
    cases h
    exact ⟨_, Fields.mem_of_get? hfound, rfl⟩
  · cases h

theorem entries_ne_nil_of_lookup {t : CommandTable} {name : String} {c : Command}
    (h : t.lookup name = .ok c) : t.entries ≠ [] := by
  intro hempty
  rw [lookup_of_empty hempty] at h
  cases h

/-- A command is behind each of its names once it is installed, and what is behind other names
stays. -/
theorem find?_install (t : CommandTable) (c : Command) (name : String) :
    (t.install c).find? name =
      if t.key name ∈ (c.name :: c.aliases).map t.key then some (t.version, c)
      else t.find? name := by
  have hfold (names : List String) (entries : List (String × Nat × Command)) :
      Fields.get? (names.foldl (fun entries n => Fields.insert entries (t.key n) (t.version, c))
        entries) (t.key name) =
        if t.key name ∈ names.map t.key then some (t.version, c)
        else Fields.get? entries (t.key name) := by
    induction names generalizing entries with
    | nil => exact (if_neg List.not_mem_nil).symm
    | cons n names ih =>
      rw [List.foldl_cons, ih, Fields.get?_insert, List.map_cons]
      by_cases hlater : t.key name ∈ names.map t.key
      · rw [if_pos hlater, if_pos (List.mem_cons_of_mem _ hlater)]
      · by_cases hsame : t.key n = t.key name
        · rw [if_neg hlater, if_pos hsame, hsame, if_pos List.mem_cons_self]
        · have hother : t.key name ∉ t.key n :: names.map t.key :=
            List.not_mem_cons_of_ne_of_not_mem (fun heq => hsame heq.symm) hlater
          rw [if_neg hlater, if_neg hsame, if_neg hother]
  exact hfold _ _

/-- A table with one more command resolves what it resolved before. -/
theorem canResolve_install {t : CommandTable} {name : String} (h : t.canResolve name = true)
    (c : Command) : (t.install c).canResolve name = true := by
  rw [canResolve, find?_install]
  split
  · rfl
  · exact h

/-- A table to which a command was added has entries. -/
theorem entries_install_ne_nil (t : CommandTable) (c : Command) : (t.install c).entries ≠ [] := by
  intro hempty
  have hnone : (t.install c).find? c.name = none := by
    rw [find?, hempty]
    rfl
  rw [find?_install, if_pos (List.mem_map_of_mem List.mem_cons_self)] at hnone
  cases hnone

theorem entries_foldl_install_ne_nil {t : CommandTable} (h : t.entries ≠ []) (cs : List Command) :
    (cs.foldl install t).entries ≠ [] := by
  induction cs generalizing t with
  | nil => exact h
  | cons c cs ih => exact ih (entries_install_ne_nil t c)

/-- The built-in commands are commands. -/
theorem entries_withBuiltins_ne_nil (foldsCase : Bool) (clock : Clock) :
    (withBuiltins foldsCase clock).entries ≠ [] :=
  entries_foldl_install_ne_nil (entries_install_ne_nil (empty foldsCase) _) _

/-- A command is registered by installing it. -/
theorem eq_install_of_register {t t' : CommandTable} {c : Command} (h : t.register c = .ok t') :
    t' = t.install c := by
  unfold register at h
  split at h
  · cases h
  · exact (Except.ok.inj h).symm

end CommandTable

namespace Build

/-! ## What a build does to the tables -/

/-- All that a build does to the tables of commands: it leaves them as they are, or it registers a
command to the table it invokes from, which then has commands already. -/
inductive Changes : BuildState → BuildState → Prop where
  | keep {s s' : BuildState} (commands : s'.commands = s.commands) (words : s'.words = s.words) :
      Changes s s'
  | register {s s' : BuildState} (c : Command) (known : s.commands.entries ≠ [])
      (commands : s'.commands = s.commands.install c) (words : s'.words = s.words) : Changes s s'
  | trans {s s' s'' : BuildState} (first : Changes s s') (second : Changes s' s'') : Changes s s''

namespace Changes

variable {s s' : BuildState}

/-- The table that tells command words from element words stays the one it is. -/
theorem words_eq (h : Changes s s') : s'.words = s.words := by
  induction h with
  | keep _ words => exact words
  | register _ _ _ words => exact words
  | trans _ _ ihfirst ihsecond => exact ihsecond.trans ihfirst

/-- A table without commands stays as it is. -/
theorem commands_eq (h : Changes s s') (hempty : s.commands.entries = []) :
    s'.commands = s.commands := by
  induction h with
  | keep commands _ => exact commands
  | register _ known _ _ => exact absurd hempty known
  | trans _ _ ihfirst ihsecond =>
    have hfirst := ihfirst hempty
    rw [← hfirst] at hempty
    exact (ihsecond hempty).trans hfirst

/-- A table with commands has commands afterwards. -/
theorem entries_ne_nil (h : Changes s s') (hsome : s.commands.entries ≠ []) :
    s'.commands.entries ≠ [] := by
  induction h with
  | keep commands _ => rw [commands]; exact hsome
  | register c _ commands _ => rw [commands]; exact CommandTable.entries_install_ne_nil _ c
  | trans _ _ ihfirst ihsecond => exact ihsecond (ihfirst hsome)

/-- A word that is resolved stays resolved. -/
theorem canResolve (h : Changes s s') {w : String} (hw : s.commands.canResolve w = true) :
    s'.commands.canResolve w = true := by
  induction h with
  | keep commands _ => rw [commands]; exact hw
  | register c _ commands _ => rw [commands]; exact CommandTable.canResolve_install hw c
  | trans _ _ ihfirst ihsecond => exact ihsecond (ihfirst hw)

end Changes

/-! ## Steps of a build -/

/-- Whether a step changes the tables as builds do, in every state with a property. As a relation,
so that it can be carried through all steps of a build. -/
def Moves (A : BuildState → Prop) {α : Type} (m m' : Build α) : Prop :=
  m = m' ∧ ∀ s, A s → Changes s (m s).2

variable {A : BuildState → Prop}

/-- Such changes can be kept throughout a build, if they keep the property. -/
theorem kept_changes (hA : ∀ s s', Changes s s' → A s → A s') :
    Kept fun s s' => A s → Changes s s' where
  trans hfirst hsecond hs := (hfirst hs).trans (hsecond (hA _ _ (hfirst hs) hs))
  same _ hcommands hwords _ := .keep hcommands hwords
  bound _ _ := .keep rfl rfl

/-- The small steps of a build leave the tables as they are. -/
theorem lockstep_moves (env : BuildEnv) (hA : ∀ s s', Changes s s' → A s → A s') :
    Lockstep env env (Moves A) :=
  (kept_changes hA).lockstep env

theorem moves_template (env : BuildEnv) (source : String) :
    Moves (fun _ => True) (template env source) (template env source) :=
  (kept_changes fun _ _ _ => id).steady.template env source

/-! ## Commands that register commands -/

/-- Finding the name of a new command changes nothing. -/
theorem commandName_snd (v : Value) (s : BuildState) : (commandName v s).2 = s := by
  unfold commandName
  split
  · rfl
  · split
    · rfl
    · split <;> rfl

theorem argument_snd (i : Invocation) (n : Nat) (s : BuildState) : (argument i n s).2 = s := by
  unfold argument
  cases i.args[n]? <;> rfl

/-- What holds before a step that changes nothing, and after whatever goes on with it, holds after
both. -/
theorem snd_bind_of_snd {α β : Type} {m : Build α} {s : BuildState} (hm : (m s).2 = s)
    {f : α → Build β} {P : BuildState → Prop} (hs : P s) (hf : ∀ a, P (f a s).2) :
    P ((m >>= f) s).2 := by
  rcases hrun : m s with ⟨fault | a, s₁⟩
  · obtain rfl : s₁ = s := by rw [← hm, hrun]
    rw [bind_of_error hrun]
    exact hs
  · obtain rfl : s₁ = s := by rw [← hm, hrun]
    rw [bind_of_ok hrun]
    exact hf a

/-- Registering a command fails and changes nothing, or installs the command. -/
theorem registerConstant_cases (i : Invocation) (s : BuildState) :
    (registerConstant i s).2 = s ∨
      ∃ c, (registerConstant i s).2 = { s with commands := s.commands.install c } := by
  let P (s' : BuildState) : Prop := s' = s ∨ ∃ c, s' = { s with commands := s.commands.install c }
  have hsame : P s := .inl rfl
  change P (registerConstant i s).2
  unfold registerConstant
  refine snd_bind_of_snd (argument_snd i 0 s) hsame fun v => ?_
  refine snd_bind_of_snd (commandName_snd v s) hsame fun name => ?_
  refine snd_bind_of_snd (argument_snd i 1 s) hsame fun v => ?_
  rw [read_bind]
  cases hregister : s.commands.register (.constant name v []) with
  | error fault => exact hsame
  | ok table => exact .inr ⟨_, by rw [CommandTable.eq_install_of_register hregister]; rfl⟩

/-- Whether a state has commands to invoke. -/
def HasCommands (s : BuildState) : Prop :=
  s.commands.entries ≠ []

theorem hasCommands_of_changes {s s' : BuildState} (h : Changes s s') (hs : HasCommands s) :
    HasCommands s' :=
  h.entries_ne_nil hs

theorem moves_registerConstant (i : Invocation) :
    Moves HasCommands (registerConstant i) (registerConstant i) := by
  refine ⟨rfl, fun s hs => ?_⟩
  rcases registerConstant_cases i s with hsame | ⟨c, hinstalled⟩
  · rw [hsame]
    exact .keep rfl rfl
  · rw [hinstalled]
    exact .register c hs rfl rfl

/-- Invoking a command changes the tables as builds do: a command that is found stands in a table
that has commands. -/
theorem moves_invoke {env : BuildEnv} {E E' : Engine}
    (hE : Engine.Related (Moves fun _ => True) E E') (i : Invocation) :
    Moves (fun _ => True) (invoke E env i) (invoke E' env i) := by
  obtain rfl := hE.eq fun h => h.1
  refine ⟨rfl, fun s _ => ?_⟩
  rw [invoke, read_bind]
  cases hlookup : s.commands.lookup i.name with
  | error fault => exact .keep rfl rfl
  | ok c =>
    have hs : HasCommands s := CommandTable.entries_ne_nil_of_lookup hlookup
    have hruns : Engine.Related (Moves HasCommands) E E :=
      ⟨fun block vars scope => ⟨rfl, fun s _ => (hE.run block vars scope).2 s trivial⟩,
        fun vs => ⟨rfl, fun s _ => (hE.texts vs).2 s trivial⟩⟩
    have hsteps := lockstep_moves env fun s s' h => hasCommands_of_changes h
    exact (hsteps.perform hruns i fun _ => moves_registerConstant i).2 s hs

/-! ## Whole builds -/

/-- **Every step of a build changes the tables as builds do.** -/
theorem documenting_moves (env : BuildEnv) :
    Lockstep.Documenting env env (Moves fun _ => True) :=
  (kept_changes fun _ _ _ => id).documenting env moves_invoke

theorem changes_document (env : BuildEnv) (n : Nat) (config : DocumentConfig)
    (request : DocumentRequest) (s : BuildState) :
    Changes s (document (engine env n) env config request s).2 :=
  ((documenting_moves env).document ((documenting_moves env).engine n) config request).2 s trivial

theorem changes_element (env : BuildEnv) (n : Nat) (tag : Value) (args : List Value)
    (s : BuildState) : Changes s (element (engine env n) env tag args s).2 :=
  ((documenting_moves env).element ((documenting_moves env).engine n) tag args).2 s trivial

/-- Every word is unknown to a table without commands. -/
theorem statement_unknown (E : Engine) (env : BuildEnv) (scope : ScopeId) (w : String)
    {s : BuildState} (h : s.commands.entries = []) :
    statement E env scope (.mk (some w) []) s = (.error (.unknownCommand w), s) := by
  have hargs : rows E env scope [] s = (.ok [], s) := by
    rw [rows]
    rfl
  have hinvoke : invoke E env ⟨w, [], scope⟩ s = (.error (.unknownCommand w), s) := by
    rw [invoke, read_bind, CommandTable.lookup_of_empty h]
    rfl
  rw [statement, bind_of_ok hargs]
  exact bind_of_error hinvoke _

end Build

/-! ## Sessions -/

/-- The table that tells command words from element words. -/
def BuildState.wordTable (s : BuildState) : CommandTable :=
  s.words.getD s.commands

/-- Making templates asks the table that tells command words from element words. -/
theorem Build.compilerHost_eq (s : BuildState) :
    compilerHost s = ⟨true, some s.wordTable.canResolve, some s.wordTable.version⟩ :=
  rfl

namespace Session

/-- What the users of a session can order. -/
inductive Order where
  /-- To register a command. -/
  | register (c : Command)
  /-- To remove a command. -/
  | unregister (name : String)
  /-- To forget the kept templates. -/
  | clear
  /-- To make a template for many builds. -/
  | compile (source : String) (bindings : List (String × String))
  /-- To build a document. -/
  | document (request : DocumentRequest)
  /-- To build an element outside of any document. -/
  | element (tag : Value) (args : List Value) (bindings : List (String × String))
    (parameters : List (String × Value))

/-- A session whose users changed their table, or did not because the change failed. -/
def afterChange (s : Session) : Except Fault CommandTable → Session
  | .ok table => s.setTable table
  | .error _ => s

/-- The session after an order. -/
def step (s : Session) : Order → Session
  | .register c => s.afterChange (s.table.register c)
  | .unregister name => s.afterChange (s.table.unregister name)
  | .clear => s.clearCache
  | .compile source bindings => (s.compile source bindings).2
  | .document request => (s.buildDocument request).2
  | .element tag args bindings parameters => (s.buildElement tag args bindings parameters).2

/-- The session after a row of orders. -/
def run (s : Session) (orders : List Order) : Session :=
  orders.foldl step s

/-- How the tables of a session stand to each other: they are one table if the built-in commands are
there; otherwise they are two, and the one that is invoked from has no commands. -/
structure Wired (builtins : Bool) (s : Session) : Prop where
  /-- With the built-in commands there is one table. -/
  one : builtins = true → s.words = none
  /-- Without them the users have a table of their own, and the other one has no commands. -/
  two : builtins = false → s.words.isSome = true ∧ s.commands.entries = []

variable {builtins : Bool} {s : Session}

/-- A session begins with one table or two. -/
theorem wired_create (config : Config) (clock : Clock) (correlationId : Option String) :
    (create config clock correlationId).Wired config.runtime.hasBuiltins.truthy := by
  have hwords : (create config clock correlationId).words =
      if (newTable config clock).size = 0 then some (newTable config clock) else none := rfl
  constructor
  · intro hyes
    have hsize : (newTable config clock).size ≠ 0 := by
      rw [newTable, if_pos hyes, ne_eq, CommandTable.size_eq_zero_iff]
      exact CommandTable.entries_withBuiltins_ne_nil _ clock
    rw [hwords, if_neg hsize]
  · intro hno
    have hempty : (newTable config clock).entries = [] := by
      rw [newTable, hno]
      rfl
    have hsize := (CommandTable.size_eq_zero_iff _).mpr hempty
    refine ⟨?_, hempty⟩
    rw [hwords, if_pos hsize]
    rfl

/-- A build leaves the tables as they stood to each other. -/
theorem Wired.endBuild (h : s.Wired builtins) {state state' : BuildState}
    (hwords : state.words = s.words) (hcommands : state.commands = s.commands)
    (hchanges : Build.Changes state state') : (s.endBuild state').Wired builtins where
  one hyes := hchanges.words_eq.trans (hwords.trans (h.one hyes))
  two hno := by
    obtain ⟨hsome, hempty⟩ := h.two hno
    have hwords' : state'.words = s.words := hchanges.words_eq.trans hwords
    have hcommands' : state'.commands = s.commands :=
      (hchanges.commands_eq (by rw [hcommands]; exact hempty)).trans hcommands
    exact ⟨by rw [← hwords'] at hsome; exact hsome, by rw [← hcommands'] at hempty; exact hempty⟩

/-- The users of a session change their own table. -/
theorem Wired.setTable (h : s.Wired builtins) (table : CommandTable) :
    (s.setTable table).Wired builtins := by
  unfold Session.setTable
  split
  · refine ⟨fun hyes => ?_, fun hno => ⟨rfl, (h.two hno).2⟩⟩
    rename_i hwords
    rw [h.one hyes] at hwords
    cases hwords
  · rename_i hwords
    refine ⟨fun _ => hwords, fun hno => ?_⟩
    have hsome := (h.two hno).1
    rw [hwords] at hsome
    cases hsome

theorem Wired.afterChange (h : s.Wired builtins) (change : Except Fault CommandTable) :
    (s.afterChange change).Wired builtins := by
  cases change with
  | ok table => exact h.setTable table
  | error fault => exact h

/-- A build begins with the tables of its session. -/
theorem beginBuild_tables {parameters : List (String × Value)} {registry : Registry}
    {env : BuildEnv} {state : BuildState}
    (h : s.beginBuild parameters registry = .ok (env, state)) :
    state.words = s.words ∧ state.commands = s.commands := by
  unfold beginBuild at h
  cases hadd : s.scopes.add none parameters with
  | error fault =>
    rw [hadd] at h
    cases h
  | ok added =>
    rw [hadd] at h
    cases h
    exact ⟨rfl, rfl⟩

/-- Every order leaves the tables as they stood to each other. -/
theorem Wired.step (h : s.Wired builtins) (order : Order) : (s.step order).Wired builtins := by
  cases order with
  | register c => exact h.afterChange _
  | unregister name => exact h.afterChange _
  | clear => exact ⟨h.one, h.two⟩
  | compile source bindings =>
    change (s.compile source bindings).2.Wired builtins
    unfold Session.compile
    split
    · exact h
    · exact ⟨h.one, h.two⟩
  | document request =>
    change (s.buildDocument request).2.Wired builtins
    cases hbegin : s.beginBuild request.parameters .empty with
    | error fault =>
      unfold Session.buildDocument
      rw [hbegin]
      exact h
    | ok begun =>
      obtain ⟨env, state⟩ := begun
      obtain ⟨hwords, hcommands⟩ := beginBuild_tables hbegin
      obtain ⟨builds, hend⟩ := buildDocument_snd hbegin
      have hwired := h.endBuild hwords hcommands
        (Build.changes_document env nestingBound s.config.document request state)
      rw [hend]
      exact ⟨hwired.one, hwired.two⟩
  | element tag args bindings parameters =>
    change (s.buildElement tag args bindings parameters).2.Wired builtins
    unfold Session.buildElement
    cases hbegin : s.beginBuild parameters .empty with
    | error fault => exact h
    | ok begun =>
      obtain ⟨env, state⟩ := begun
      obtain ⟨hwords, hcommands⟩ := beginBuild_tables hbegin
      dsimp only
      split
      · exact h
      · rename_i registry _
        have hregistry : Build.Changes state { state with registry } := .keep rfl rfl
        have hchanges := Build.changes_element env nestingBound tag args { state with registry }
        exact h.endBuild hwords hcommands (hregistry.trans hchanges)

/-- Every row of orders leaves the tables as they stood to each other. -/
theorem Wired.run (h : s.Wired builtins) (orders : List Order) :
    (s.run orders).Wired builtins := by
  induction orders generalizing s with
  | nil => exact h
  | cons order orders ih => exact ih (h.step order)

/-! ## Invoking the words of a block -/

/-- Whether the builds of a session invoke the commands that words were told to be: a word that is
resolved when a block is made ready leads to a command whenever it is invoked after that, and this is
the command that is invoked. -/
def InvokesWords (s : Session) : Prop :=
  ∀ parameters registry env state, s.beginBuild parameters registry = .ok (env, state) →
    ∀ compiled running, Build.Changes state compiled → Build.Changes compiled running →
      ∀ w, compiled.wordTable.canResolve w = true →
        ∃ c, running.wordTable.lookup w = .ok c ∧ running.commands.lookup w = .ok c ∧
          ∀ E args scope, Build.invoke E env ⟨w, args, scope⟩ running =
            Build.perform E env c ⟨w, args, scope⟩ running

/-- One table is asked and invoked from, so what it resolves is invoked. -/
theorem invokesWords_of_one (h : s.words = none) : s.InvokesWords := by
  intro parameters registry env state hbegin compiled running hcompiled hrunning w hw
  have hwords : compiled.words = none := by
    rw [hcompiled.words_eq, (beginBuild_tables hbegin).1, h]
  have htable (st : BuildState) (hst : st.words = none) : st.wordTable = st.commands := by
    rw [BuildState.wordTable, hst]
    rfl
  rw [htable compiled hwords] at hw
  obtain ⟨c, hc⟩ := CommandTable.exists_lookup (hrunning.canResolve hw)
  refine ⟨c, ?_, hc, fun E args scope => ?_⟩
  · rw [htable running (hrunning.words_eq.trans hwords)]
    exact hc
  · rw [Build.invoke, Build.read_bind, hc]
    rfl

/-- Every session can begin a build. -/
theorem exists_beginBuild (s : Session) :
    ∃ env state, s.beginBuild [] .empty = .ok (env, state) :=
  ⟨_, _, rfl⟩

/-- Nothing is invoked from a table without commands. -/
theorem not_invokesWords_of_two (hcommands : s.commands.entries = []) {w : String}
    (hw : s.table.canResolve w = true) : ¬ s.InvokesWords := by
  intro hinvokes
  obtain ⟨env, state, hbegin⟩ := s.exists_beginBuild
  obtain ⟨hwords, hsame⟩ := beginBuild_tables hbegin
  have hstay : Build.Changes state state := .keep rfl rfl
  have hresolved : state.wordTable.canResolve w = true := by
    rw [BuildState.wordTable, hwords, hsame]
    exact hw
  obtain ⟨c, -, hfound, -⟩ := hinvokes [] .empty env state hbegin state state hstay hstay w hresolved
  rw [hsame, CommandTable.lookup_of_empty hcommands] at hfound
  cases hfound

/-- A session whose users' table resolves no word has nothing to invoke. -/
theorem invokesWords_of_none (htwo : s.words.isSome = true)
    (hnone : ∀ w, s.table.canResolve w = false) : s.InvokesWords := by
  intro parameters registry env state hbegin compiled running hcompiled _ w hw
  obtain ⟨own, hown⟩ := Option.isSome_iff_exists.mp htwo
  have hwords : compiled.words = some own := by
    rw [hcompiled.words_eq, (beginBuild_tables hbegin).1, hown]
  have hresolves := hnone w
  rw [table, hown, Option.getD_some] at hresolves
  rw [BuildState.wordTable, hwords, Option.getD_some, hresolves] at hw
  cases hw

/-- **A session invokes the words it tells to be commands exactly if the built-in commands are there,
or no word is told to be one.** The two tables are one exactly if the built-in commands are there.
This holds after whatever its users have ordered. -/
theorem invokesWords_iff (config : Config) (clock : Clock) (correlationId : Option String)
    (orders : List Order) :
    let s := (create config clock correlationId).run orders
    (s.words = none ↔ config.runtime.hasBuiltins.truthy = true) ∧
      (s.InvokesWords ↔ config.runtime.hasBuiltins.truthy = true ∨
        ∀ w, s.table.canResolve w = false) := by
  intro s
  have hwired : s.Wired config.runtime.hasBuiltins.truthy :=
    (wired_create config clock correlationId).run orders
  cases hbuiltins : config.runtime.hasBuiltins.truthy with
  | true =>
    have hone := hwired.one hbuiltins
    exact ⟨iff_of_true hone rfl, iff_of_true (invokesWords_of_one hone) (.inl rfl)⟩
  | false =>
    obtain ⟨htwo, hcommands⟩ := hwired.two hbuiltins
    refine ⟨iff_of_false ?_ Bool.false_ne_true, fun hinvokes => .inr fun w => ?_, ?_⟩
    · intro hnone
      rw [hnone] at htwo
      cases htwo
    · exact Bool.eq_false_iff.mpr fun hw => not_invokesWords_of_two hcommands hw hinvokes
    · rintro (hyes | hnone)
      · cases hyes
      · exact invokesWords_of_none htwo hnone

/-- A template that can be made is made. -/
theorem exists_template {env : BuildEnv} {state : BuildState} {source : String} {t : Template}
    (hsettings : env.settings.compiler.caching = true → env.settings.compiler.Usable)
    (hcache : state.cache.Holds env.settings.compiler state.wordTable.canResolve
      (some state.wordTable.version))
    (h : (Template.ofSource state.wordTable.canResolve state.registry
      env.settings.compiler.constructor source).2 = .ok t) :
    ∃ state', Build.template env source state = (.ok t, state') := by
  have houtcome : (Cache.compile env.settings.compiler (Build.compilerHost state) state.registry
      source state.cache).outcome = .ok t :=
    (@Cache.Holds.outcome _ (Build.compilerHost state) _ _ _ _ hcache hsettings rfl rfl).trans h
  unfold Build.template
  dsimp only
  rw [houtcome]
  exact ⟨_, rfl⟩

/-- An accepted configuration without the built-in commands: it names another constructor. -/
def bare : Config where
  compiler := { elementConstructor := .str "make" }
  runtime := { hasBuiltins := .bool false }

/-- A command that yields a text. -/
def greeting : Command :=
  .constant "greet" (.text "hello") []

/-- Its users' table has the command, and the table that is invoked from does not. -/
theorem run_register_greeting (clock : Clock) :
    (create bare clock none).run [.register greeting] =
      { config := bare, commands := .empty true
        words := some ((CommandTable.empty true).install greeting) } := by
  have hsize : (newTable bare clock).size = 0 := (CommandTable.size_eq_zero_iff _).mpr rfl
  have hcreate : create bare clock none =
      { config := bare, commands := .empty true, words := some (.empty true) } := by
    have hwords : (create bare clock none).words = some (.empty true) := if_pos hsize
    change ({ create bare clock none with words := (create bare clock none).words } : Session) = _
    rw [hwords]
    rfl
  rw [hcreate]
  rfl

/-- A word that was registered is told to be a command while its block is made ready, and is unknown
when it is invoked. -/
theorem registered_word_unknown :
    let s := (create bare ⟨fun _ => "", fun _ _ _ => ""⟩ none).run [.register greeting]
    bare.check = .ok () ∧ s.table.canResolve "greet" = true ∧
      ∃ env state, s.beginBuild [] .empty = .ok (env, state) ∧
        ∃ t state', Build.template env "greet" state = (.ok t, state') ∧
          Script.ofTemplate t = [.mk (some "greet") []] ∧
          ∀ E scope, (Build.statement E env scope (.mk (some "greet") []) state').1 =
            .error (.unknownCommand "greet") := by
  rw [run_register_greeting]
  let env : BuildEnv := ⟨bare.settings, 0, none⟩
  let state : BuildState :=
    { registry := .empty, scopes := ⟨#[⟨[], none⟩]⟩, streams := .empty, cache := .empty
      commands := .empty true, words := some ((CommandTable.empty true).install greeting)
      log := .empty .critical }
  refine ⟨rfl, rfl, env, state, rfl, ?_⟩
  have hread : tokenize "greet" = .ok [⟨.command, "greet", ⟨1, 1⟩, 5, 0, 0⟩] := rfl
  have hwords : Token.elementWords state.wordTable.canResolve true
      [⟨.command, "greet", ⟨1, 1⟩, 5, 0, 0⟩] = [] := rfl
  have hmade : ∃ t, (Template.ofSource state.wordTable.canResolve .empty
      env.settings.compiler.constructor "greet").2 = .ok t ∧
        Script.ofTemplate t = [.mk (some "greet") []] := by
    rw [Template.ofSource_snd, hread]
    simp only [Except.bind, hwords]
    exact ⟨_, rfl, rfl⟩
  obtain ⟨t, hmade, hscript⟩ := hmade
  obtain ⟨state', htemplate⟩ := @exists_template env state "greet" t
    (fun _ => bare.compiler.usable rfl rfl) (Cache.holds_empty _ _ _) hmade
  refine ⟨t, state', htemplate, hscript, fun E scope => ?_⟩
  have hchanges := (Build.moves_template env "greet").2 state trivial
  rw [htemplate] at hchanges
  have hcommands : state'.commands = .empty true := hchanges.commands_eq rfl
  rw [Build.statement_unknown E env scope "greet" (by rw [hcommands]; rfl)]

end Session

end TagScript
