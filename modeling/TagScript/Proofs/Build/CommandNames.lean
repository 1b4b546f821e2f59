import TagScript.Proofs.Build.BuiltinCommands

/-!
# The names of commands

A table is changed by registering and removing commands, and a change that fails leaves it as it
is. Removing a command takes all of its names away, however many of them other commands took before.
Registering one gives it all of its names; a command that had its primary name is replaced under
that name, but is left behind under the others.

* `CommandTable.Call`, `CommandTable.run` — what is done to a table, and what becomes of it.
* `CommandTable.Sound` — what is so in every table: names stand once, and each command was
  registered in a version of its own.
* `CommandTable.Owns` — every command is behind its primary name.
* `CommandTable.find?_unregister` — what a removal leaves.
* `CommandTable.TakesWhole` — a new command takes no primary name without all the other names of
  its command.
* **`CommandTable.coherent_iff`** — the names that are listed lead to their commands, and commands
  that were replaced are gone, exactly if every command is taken whole. What is removed is gone, and
  no name is found or lost without a new version, in any case.
-/

namespace TagScript.CommandTable

/-! ## Calls -/

/-- What is done to a table. -/
inductive Call where
  /-- A command is registered. -/
  | register (c : Command)
  /-- The command behind a name is removed. -/
  | unregister (name : String)

/-- The table after a change, or as it was if the change failed. -/
def settle (t : CommandTable) : Except Fault CommandTable → CommandTable
  | .ok t' => t'
  | .error _ => t

/-- The table after a call. -/
def step (t : CommandTable) : Call → CommandTable
  | .register c => t.settle (t.register c)
  | .unregister name => t.settle (t.unregister name)

/-- The table after a row of calls. -/
def run (t : CommandTable) (calls : List Call) : CommandTable :=
  calls.foldl step t

/-- A new table, with the built-in commands or without any. -/
def made (foldsCase hasBuiltins : Bool) (clock : Clock) : CommandTable :=
  if hasBuiltins then withBuiltins foldsCase clock else empty foldsCase

/-- Whether something is so at every call of a row, on the table that it finds. -/
def Throughout (P : CommandTable → Call → Prop) : CommandTable → List Call → Prop
  | _, [] => True
  | t, call :: calls => P t call ∧ Throughout P (t.step call) calls

/-- A call fails and changes nothing, or installs a command, or removes one. -/
theorem step_cases (t : CommandTable) (call : Call) :
    t.step call = t ∨
      (∃ c, call = .register c ∧ t.register c = .ok (t.install c) ∧ t.step call = t.install c) ∨
      ∃ name t', call = .unregister name ∧ t.unregister name = .ok t' ∧ t.step call = t' := by
  cases call with
  | register c =>
    rw [step]
    cases hregister : t.register c with
    | error fault => exact .inl rfl
    | ok t' =>
      obtain rfl := eq_install_of_register hregister
      exact .inr (.inl ⟨c, rfl, hregister, rfl⟩)
  | unregister name =>
    rw [step]
    cases hremove : t.unregister name with
    | error fault => exact .inl rfl
    | ok t' => exact .inr (.inr ⟨name, t', rfl, hremove, rfl⟩)

/-! ## What is so in every table -/

/-- What is so in every table: a name stands once, as the table keeps it, and each command has a
number of its own, which is lower than the version. -/
structure Sound (t : CommandTable) : Prop where
  /-- Names stand once. -/
  apart : (Fields.keys t.entries).Nodup
  /-- They are kept as the table keeps names. -/
  named : ∀ e ∈ t.entries, ∃ name, t.key name = e.1
  /-- Numbers are older versions. -/
  older : ∀ e ∈ t.entries, e.2.1 < t.version
  /-- A number stands for one command. -/
  single : ∀ e ∈ t.entries, ∀ e' ∈ t.entries, e.2.1 = e'.2.1 → e.2.2 = e'.2.2

variable {t t' : CommandTable}

theorem sound_empty (foldsCase : Bool) : (empty foldsCase).Sound :=
  ⟨List.nodup_nil, nofun, nofun, nofun⟩

theorem Sound.install (h : t.Sound) (c : Command) : (t.install c).Sound := by
  have hfold (names : List String) (entries : List (String × Nat × Command))
      (hapart : (Fields.keys entries).Nodup) (hentries : ∀ e ∈ entries,
        (∃ name, t.key name = e.1) ∧ (e ∈ t.entries ∨ e.2 = (t.version, c))) :
      let all := names.foldl (fun all n => Fields.insert all (t.key n) (t.version, c)) entries
      (Fields.keys all).Nodup ∧ ∀ e ∈ all,
        (∃ name, t.key name = e.1) ∧ (e ∈ t.entries ∨ e.2 = (t.version, c)) := by
    induction names generalizing entries with
    | nil => exact ⟨hapart, hentries⟩
    | cons n names ih =>
      refine ih _ (Fields.nodup_keys_insert hapart _ _) fun e he => ?_
      rcases Fields.mem_of_mem_insert he with hold | rfl
      · exact hentries e hold
      · exact ⟨⟨n, rfl⟩, .inr rfl⟩
  obtain ⟨hapart, hall⟩ := hfold (c.name :: c.aliases) t.entries h.apart fun e he =>
    ⟨h.named e he, .inl he⟩
  refine ⟨hapart, fun e he => (hall e he).1, fun e he => ?_, fun e he e' he' hnumber => ?_⟩
  · rcases (hall e he).2 with hold | hnew
    · exact Nat.lt_succ_of_lt (h.older e hold)
    · rw [hnew]
      exact Nat.lt_succ_self _
  · -- an old number is lower than the new one
    rcases (hall e he).2 with hold | hnew <;> rcases (hall e' he').2 with hold' | hnew'
    · exact h.single e hold e' hold' hnumber
    · have hless := h.older e hold
      rw [hnumber, hnew'] at hless
      exact absurd hless (Nat.lt_irrefl _)
    · have hless := h.older e' hold'
      rw [← hnumber, hnew] at hless
      exact absurd hless (Nat.lt_irrefl _)
    · rw [hnew, hnew']

/-- What stands in a table is found by some name. -/
theorem Sound.exists_find? (h : t.Sound) {e : String × Nat × Command} (he : e ∈ t.entries) :
    ∃ name, t.key name = e.1 ∧ t.find? name = some e.2 := by
  obtain ⟨name, hname⟩ := h.named e he
  refine ⟨name, hname, ?_⟩
  rw [find?, hname]
  exact Fields.get?_of_mem h.apart he

/-- The listed names are the primary names of the commands that are found. -/
theorem Sound.mem_names_iff (h : t.Sound) {n : String} :
    n ∈ t.names ↔ ∃ name number c, t.find? name = some (number, c) ∧ c.name = n := by
  unfold names
  rw [List.mem_mergeSort, List.mem_eraseDups, List.mem_map]
  constructor
  · rintro ⟨e, he, hn⟩
    obtain ⟨name, -, hfound⟩ := h.exists_find? he
    exact ⟨name, e.2.1, e.2.2, hfound, hn⟩
  · rintro ⟨name, number, c, hfound, hn⟩
    exact ⟨_, Fields.mem_of_get? hfound, hn⟩

/-- Entries that are left out are not found, and the others are found as before. -/
theorem get?_filter_value {α : Type} (p : α → Bool) {fields : List (String × α)}
    (h : (Fields.keys fields).Nodup) (key : String) :
    Fields.get? (fields.filter fun e => p e.2) key = (Fields.get? fields key).filter p := by
  induction fields with
  | nil => rfl
  | cons e rest ih =>
    obtain ⟨hfirst, hrest⟩ := List.nodup_cons.mp h
    by_cases hkey : e.1 = key
    · have hgone : Fields.get? rest key = none := Fields.get?_eq_none_iff.mpr (hkey ▸ hfirst)
      cases hp : p e.2 with
      | true => simp [Fields.get?, hkey, hp, Option.filter]
      | false => simp [Fields.get?, hkey, hp, ih hrest, hgone, Option.filter]
    · cases hp : p e.2 <;> simp [Fields.get?, hkey, hp, ih hrest]

/-- A name is removed only if it leads to a command. -/
theorem unregister_eq_ok {name : String} (h : t.unregister name = .ok t') :
    ∃ number c, t.find? name = some (number, c) ∧ t' =
      { t with entries := t.entries.filter fun e => e.2.1 ≠ number, version := t.version + 1 } := by
  unfold unregister at h
  split at h
  · cases h
  · rename_i number c hfound
    exact ⟨number, c, hfound, (Except.ok.inj h).symm⟩

theorem Sound.unregister (h : t.Sound) {name : String} (hremove : t.unregister name = .ok t') :
    t'.Sound := by
  obtain ⟨number, c, -, rfl⟩ := unregister_eq_ok hremove
  have hold {e : String × Nat × Command}
      (he : e ∈ t.entries.filter fun e => e.2.1 ≠ number) : e ∈ t.entries :=
    (List.mem_filter.mp he).1
  refine ⟨?_, fun e he => ?_, fun e he => ?_, fun e he e' he' => ?_⟩
  · exact h.apart.sublist (List.filter_sublist.map _)
  · exact h.named e (hold he)
  · exact Nat.lt_succ_of_lt (h.older e (hold he))
  · exact h.single e (hold he) e' (hold he')

/-- **What a removal leaves**: of the names, those that led to the command are gone, and the others
lead to where they led. -/
theorem Sound.find?_unregister (h : t.Sound) {name : String}
    (hremove : t.unregister name = .ok t') :
    ∃ number c, t.find? name = some (number, c) ∧
      ∀ other, t'.find? other = (t.find? other).filter fun e => e.1 ≠ number := by
  obtain ⟨number, c, hfound, rfl⟩ := unregister_eq_ok hremove
  refine ⟨number, c, hfound, fun other => ?_⟩
  exact get?_filter_value (fun e : Nat × Command => decide (e.1 ≠ number)) h.apart (t.key other)

theorem Sound.step (h : t.Sound) (call : Call) : (t.step call).Sound := by
  rcases step_cases t call with hsame | ⟨c, -, -, hinstall⟩ | ⟨name, t', -, hremove, hstep⟩
  · rw [hsame]
    exact h
  · rw [hinstall]
    exact h.install c
  · rw [hstep]
    exact h.unregister hremove

theorem Sound.foldl_install (h : t.Sound) (cs : List Command) :
    (cs.foldl CommandTable.install t).Sound := by
  induction cs generalizing t with
  | nil => exact h
  | cons c cs ih => exact ih (h.install c)

theorem sound_made (foldsCase hasBuiltins : Bool) (clock : Clock) :
    (made foldsCase hasBuiltins clock).Sound := by
  cases hasBuiltins with
  | true => exact (sound_empty foldsCase).foldl_install _
  | false => exact sound_empty foldsCase

/-! ## Commands behind their primary names -/

/-- Whether every command that is found is the one behind its own primary name. -/
def Owns (t : CommandTable) : Prop :=
  ∀ name number c, t.find? name = some (number, c) → t.find? c.name = some (number, c)

/-- The names of a command, as a table keeps them. -/
def keysOf (t : CommandTable) (c : Command) : List String :=
  (c.name :: c.aliases).map t.key

/-- Whether a new command takes other commands whole: where it takes a primary name, it takes every
name that leads to the command of that name. -/
def TakesWhole (t : CommandTable) (c : Command) : Prop :=
  ∀ name number d, t.find? name = some (number, d) → t.key d.name ∈ t.keysOf c →
    t.key name ∈ t.keysOf c

theorem Owns.install (h : t.Owns) {c : Command} (hwhole : t.TakesWhole c) :
    (t.install c).Owns := by
  intro name number d hfound
  rw [find?_install] at hfound ⊢
  split at hfound
  · cases hfound
    exact if_pos (List.mem_map_of_mem List.mem_cons_self)
  · rename_i hother
    refine (if_neg fun htaken => ?_).trans (h name number d hfound)
    exact hother (hwhole name number d hfound htaken)

theorem Owns.unregister (h : t.Owns) (ht : t.Sound) {name : String}
    (hremove : t.unregister name = .ok t') : t'.Owns := by
  obtain ⟨removed, -, -, hleft⟩ := ht.find?_unregister hremove
  intro other number d hfound
  rw [hleft, Option.filter_eq_some_iff] at hfound ⊢
  exact ⟨h other number d hfound.1, hfound.2⟩

theorem owns_empty (foldsCase : Bool) : (empty foldsCase).Owns :=
  nofun

theorem Owns.foldl_install (h : t.Owns) {cs : List Command}
    (hcs : cs.Pairwise fun c d => ∀ name ∈ c.name :: c.aliases, t.key name ∉ t.keysOf d)
    (hapart : ∀ name number d, t.find? name = some (number, d) →
      ∀ c ∈ cs, t.key d.name ∉ t.keysOf c) :
    (cs.foldl CommandTable.install t).Owns := by
  induction cs generalizing t with
  | nil => exact h
  | cons c cs ih =>
    obtain ⟨hc, hcs⟩ := List.pairwise_cons.mp hcs
    have hwhole : t.TakesWhole c := fun name number d hfound htaken =>
      absurd htaken (hapart name number d hfound c List.mem_cons_self)
    refine ih (h.install hwhole) hcs fun name number d hfound e he => ?_
    rw [find?_install] at hfound
    split at hfound
    · cases hfound
      exact hc e he c.name List.mem_cons_self
    · exact hapart name number d hfound e (List.mem_cons_of_mem c he)

theorem owns_made (foldsCase hasBuiltins : Bool) (clock : Clock) :
    (made foldsCase hasBuiltins clock).Owns := by
  cases hasBuiltins with
  | true => exact (owns_empty foldsCase).foldl_install (apart_builtins _ clock) nofun
  | false => exact owns_empty foldsCase

/-! ## Coherence -/

/-- Whether every listed name leads to a command that has it as its primary name. -/
def ListsOwn (t : CommandTable) : Prop :=
  ∀ n ∈ t.names, t.canResolve n = true ∧ ∃ c, t.lookup n = .ok c ∧ c.name = n

/-- Whether no name leads to a command any more that had the primary name of the one registered. -/
def Replaces (t : CommandTable) (c : Command) : Prop :=
  ∀ name number d, t.find? name = some (number, d) → d.name = c.name →
    ∀ other e, (t.install c).find? other = some e → e.1 ≠ number

/-- Whether a call leaves the table coherent: the listed names lead to their commands, and what a
registered command replaces is gone. -/
def StaysCoherent (t : CommandTable) (call : Call) : Prop :=
  (t.step call).ListsOwn ∧ ∀ c, call = .register c → (t.register c).isOk = true → t.Replaces c

/-- Whether a call that registers a command takes other commands whole. -/
def RegistersWhole (t : CommandTable) (call : Call) : Prop :=
  ∀ c, call = .register c → (t.register c).isOk = true → t.TakesWhole c

/-- Whether a call that removes a command leaves neither the name nor any other one that led to the
command. -/
def RemovesWhole (t : CommandTable) (call : Call) : Prop :=
  ∀ name, call = .unregister name → (t.unregister name).isOk = true →
    (t.step call).canResolve name = false ∧
      ∀ other number c d, t.find? name = some (number, c) → t.find? other = some (number, d) →
        (t.step call).canResolve other = false

theorem Owns.listsOwn (h : t.Owns) (ht : t.Sound) : t.ListsOwn := by
  intro n hn
  obtain ⟨name, number, c, hfound, rfl⟩ := ht.mem_names_iff.mp hn
  have hown := h name number c hfound
  exact ⟨by rw [canResolve, hown]; rfl, c, by rw [lookup, hown], rfl⟩

/-- What a command takes whole is gone. -/
theorem TakesWhole.replaces {c : Command} (h : t.TakesWhole c) (ht : t.Sound) : t.Replaces c := by
  rintro name number d hfound hname other ⟨number', e⟩ hother heq
  obtain rfl : number' = number := heq
  rw [find?_install] at hother
  split at hother
  · cases hother
    exact Nat.lt_irrefl _ (ht.older _ (Fields.mem_of_get? hfound))
  · rename_i hfree
    obtain rfl : e = d :=
      ht.single _ (Fields.mem_of_get? hother) _ (Fields.mem_of_get? hfound) rfl
    refine hfree (h other number' e hother ?_)
    rw [hname]
    exact List.mem_map_of_mem List.mem_cons_self

/-- A command that was not taken whole is left behind: under its primary name if that is the name of
the new command, too, and otherwise by the list of names. -/
theorem takesWhole_of_replaces {c : Command} (ht : t.Sound) (hlists : (t.install c).ListsOwn)
    (hreplaces : t.Replaces c) : t.TakesWhole c := by
  intro name number d hfound htaken
  refine Classical.byContradiction fun hfree => ?_
  have hstays : (t.install c).find? name = some (number, d) := by
    rw [find?_install]
    exact (if_neg hfree).trans hfound
  by_cases hname : d.name = c.name
  · exact hreplaces name number d hfound hname name _ hstays rfl
  · have hlisted : d.name ∈ (t.install c).names :=
      (ht.install c).mem_names_iff.mpr ⟨name, number, d, hstays, rfl⟩
    obtain ⟨-, e, hlookup, he⟩ := hlists d.name hlisted
    have hnew : (t.install c).find? d.name = some (t.version, c) := by
      rw [find?_install]
      exact if_pos htaken
    rw [lookup, hnew] at hlookup
    cases hlookup
    exact hname he.symm

/-- If a call leaves a table coherent, a command that it registers takes other ones whole. -/
theorem StaysCoherent.registersWhole {call : Call} (h : t.StaysCoherent call) (ht : t.Sound) :
    t.RegistersWhole call := by
  rintro c rfl hok
  obtain ⟨hlists, hreplaces⟩ := h
  rw [step] at hlists
  cases hregister : t.register c with
  | error fault =>
    rw [hregister] at hok
    cases hok
  | ok t' =>
    obtain rfl := eq_install_of_register hregister
    rw [hregister] at hlists
    exact takesWhole_of_replaces ht hlists (hreplaces c rfl hok)

/-- Commands stay behind their primary names if new ones take them whole. -/
theorem Owns.step (h : t.Owns) (ht : t.Sound) {call : Call} (hwhole : t.RegistersWhole call) :
    (t.step call).Owns := by
  rcases step_cases t call with
    hsame | ⟨c, hcall, hregister, hinstall⟩ | ⟨name, t', -, hremove, hstep⟩
  · rw [hsame]
    exact h
  · rw [hinstall]
    exact h.install (hwhole c hcall (by rw [hregister]; rfl))
  · rw [hstep]
    exact h.unregister ht hremove

/-- **Coherence of a table whose commands are behind their primary names** after a call. -/
theorem Owns.staysCoherent_iff (h : t.Owns) (ht : t.Sound) (call : Call) :
    t.StaysCoherent call ↔ t.RegistersWhole call := by
  refine ⟨fun hcoherent => hcoherent.registersWhole ht, fun hwhole => ⟨?_, fun c hc hok => ?_⟩⟩
  · exact (h.step ht hwhole).listsOwn (ht.step call)
  · exact (hwhole c hc hok).replaces ht

/-- So is coherence after every call of a row. -/
theorem Owns.throughout_iff (h : t.Owns) (ht : t.Sound) (calls : List Call) :
    Throughout StaysCoherent t calls ↔ Throughout RegistersWhole t calls := by
  induction calls generalizing t with
  | nil => exact Iff.rfl
  | cons call calls ih =>
    rw [Throughout, Throughout, h.staysCoherent_iff ht call]
    exact and_congr_right fun hwhole => ih (h.step ht hwhole) (ht.step call)

/-- A removal leaves no name of the command. -/
theorem Sound.removesWhole (h : t.Sound) (call : Call) : t.RemovesWhole call := by
  rintro name rfl hok
  rw [CommandTable.step]
  cases hremove : t.unregister name with
  | error fault =>
    rw [hremove] at hok
    cases hok
  | ok t' =>
    obtain ⟨removed, d, hfound, hleft⟩ := h.find?_unregister hremove
    have hgone (other : String) (e : Command) (hother : t.find? other = some (removed, e)) :
        t'.canResolve other = false := by
      rw [canResolve, hleft, hother]
      simp [Option.filter]
    refine ⟨hgone name d hfound, fun other number c e hname hother => ?_⟩
    obtain ⟨rfl, -⟩ := Prod.mk.inj (Option.some.inj (hname.symm.trans hfound))
    exact hgone other e hother

/-- What is so at every call on a sound table is so throughout a row of calls. -/
theorem Sound.throughout {P : CommandTable → Call → Prop} (hP : ∀ t call, t.Sound → P t call)
    (h : t.Sound) (calls : List Call) : Throughout P t calls := by
  induction calls generalizing t with
  | nil => trivial
  | cons call calls ih => exact ⟨hP t call h, ih (h.step call)⟩

/-! ## Versions -/

/-- A call changes nothing, or makes a new version. -/
theorem eq_or_version_lt_step (t : CommandTable) (call : Call) :
    t.step call = t ∨ t.version < (t.step call).version := by
  rcases step_cases t call with hsame | ⟨c, -, hregister, hinstall⟩ | ⟨name, t', -, hremove, hstep⟩
  · exact .inl hsame
  · rw [hinstall]
    exact .inr (Workshop.version_register hregister)
  · rw [hstep]
    exact .inr (Workshop.version_unregister hremove)

/-- So do the calls of a row. -/
theorem eq_or_version_lt_run (t : CommandTable) (calls : List Call) :
    t.run calls = t ∨ t.version < (t.run calls).version := by
  induction calls generalizing t with
  | nil => exact .inl rfl
  | cons call calls ih =>
    change (t.step call).run calls = t ∨ t.version < ((t.step call).run calls).version
    rcases eq_or_version_lt_step t call with hsame | hless
    · rw [hsame]
      exact ih t
    · rcases ih (t.step call) with hrest | hmore
      · rw [hrest]
        exact .inr hless
      · exact .inr (Nat.lt_trans hless hmore)

/-! ## All calls -/

/-- **A table is coherent throughout exactly if commands are taken whole.** For every new table and
every row of calls, failed ones included: after each call every listed name leads to a command that
has it as its primary name, and what a new command replaces is gone, exactly if each new command
that takes a primary name takes all names of the command of that name. Whatever is registered, a
removal leaves no name of its command, and a name is found or lost only if the version grew. -/
theorem coherent_iff (foldsCase hasBuiltins : Bool) (clock : Clock) (calls : List Call) :
    let start := made foldsCase hasBuiltins clock
    (Throughout StaysCoherent start calls ↔ Throughout RegistersWhole start calls) ∧
      Throughout RemovesWhole start calls ∧
      ∀ done later, calls = done ++ later → ∀ name,
        (start.run calls).canResolve name ≠ (start.run done).canResolve name →
          (start.run done).version < (start.run calls).version := by
  intro start
  have hsound : start.Sound := sound_made foldsCase hasBuiltins clock
  have howns : start.Owns := owns_made foldsCase hasBuiltins clock
  refine ⟨howns.throughout_iff hsound calls, hsound.throughout (fun _ call ht => ?_) calls, ?_⟩
  · exact ht.removesWhole call
  · rintro done later rfl name hchanged
    have hrun : start.run (done ++ later) = (start.run done).run later := List.foldl_append
    rw [hrun] at hchanged ⊢
    rcases eq_or_version_lt_run (start.run done) later with hsame | hless
    · rw [hsame] at hchanged
      exact absurd rfl hchanged
    · exact hless

/-- A command that takes the primary name of another one in any case, and its only alias. -/
theorem coherent_iff_recased :
    let first := Command.constant "b" .null ["a"]
    let second := Command.constant "B" .null ["A"]
    let start := made true false stoppedClock
    let calls := [Call.register first, .register second, .unregister "b"]
    Throughout RegistersWhole start calls ∧ Throughout StaysCoherent start calls ∧
      Throughout RemovesWhole start calls ∧
      (start.run calls).canResolve "a" ≠ (start.run (calls.take 2)).canResolve "a" ∧
        (start.run (calls.take 2)).version < (start.run calls).version := by
  have hentries :
      ((made true false stoppedClock).step (.register (.constant "b" .null ["a"]))).entries =
        [("b", 0, .constant "b" .null ["a"]), ("a", 0, .constant "b" .null ["a"])] := rfl
  intro first second start calls
  have hwhole : Throughout RegistersWhole start calls := by
    refine ⟨fun c hc _ => ?_, fun c hc _ => ?_, nofun, trivial⟩
    · exact nofun
    · cases hc
      intro name number d hfound _
      have hmem := Fields.mem_of_get? hfound
      rw [hentries] at hmem
      rcases List.mem_cons.mp hmem with heq | hmem
      · rw [(Prod.mk.inj heq).1]
        decide
      · rw [(Prod.mk.inj (List.mem_singleton.mp hmem)).1]
        decide
  obtain ⟨hiff, hremoves, hversions⟩ := coherent_iff true false stoppedClock calls
  have hlost : (start.run calls).canResolve "a" ≠ (start.run (calls.take 2)).canResolve "a" := by
    decide
  exact ⟨hwhole, hiff.mpr hwhole, hremoves, hlost, hversions _ [.unregister "b"] rfl "a" hlost⟩

/-- A command that has the primary name of another one leaves that one behind under its alias. One
that takes the primary name as an alias leaves it in the list of names, where it leads to the new
command. -/
theorem replaced_command_stays :
    let renewed := [.constant "b" .null ["a"], .constant "b" .null []].map Call.register
    let covered := [.constant "b" .null ["a"], .constant "c" .null ["b"]].map Call.register
    ¬ Throughout StaysCoherent (made true false stoppedClock) renewed ∧
      ((made true false stoppedClock).run renewed).find? "a" =
        some (0, .constant "b" .null ["a"]) ∧
      ¬ Throughout StaysCoherent (made true false stoppedClock) covered ∧
      "b" ∈ ((made true false stoppedClock).run covered).names ∧
      ((made true false stoppedClock).run covered).lookup "b" =
        .ok (.constant "c" .null ["b"]) := by
  have hsound := ((sound_made true false stoppedClock).step
    (.register (.constant "b" .null ["a"]))).step (.register (.constant "c" .null ["b"]))
  have hlisted := hsound.mem_names_iff.mpr ⟨"a", 0, .constant "b" .null ["a"], rfl, rfl⟩
  refine ⟨?_, rfl, ?_, hlisted, rfl⟩
  · rintro ⟨-, ⟨-, hreplaces⟩, -⟩
    exact hreplaces _ rfl rfl "a" 0 (.constant "b" .null ["a"]) rfl rfl "a"
      (0, .constant "b" .null ["a"]) rfl rfl
  · rintro ⟨-, ⟨hlists, -⟩, -⟩
    obtain ⟨-, c, hlookup, hname⟩ := hlists "b" hlisted
    have hfound : Except.ok (.constant "c" .null ["b"]) = .ok c := hlookup
    cases hfound
    exact absurd hname (by decide)

end TagScript.CommandTable
