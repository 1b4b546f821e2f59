import TagScript.Build.Compile
import TagScript.Proofs.Template.Caching

/-!
# What is reported when a template was kept

While a template is made, the words whose prefix is unbound are reported in the order in which they
are rewritten: from the last one to the first. A template that was kept has the list of these words
in the order of the text, and the list is what is reported when it is handed out again.

* `Template.reported` — what is reported while a template is made.
* `Cache.Holds.unresolvedWords_of_ok` — what is reported by any request that comes to a template.
* `Cache.Filled` — the caches that requests lead to while the version tells the command words apart.
* `Cache.exists_kept` — where a template that was found comes from.
* **`Cache.kept_reports_iff`** — a template that was found is reported in the reverse order, and so
  as if it were made exactly if it has at most one report.
-/

namespace TagScript

/-! ## The reports of a new template -/

namespace CompileEvent

theorem unresolvedWords_append (events more : List CompileEvent) :
    unresolvedWords (events ++ more) = unresolvedWords events ++ unresolvedWords more :=
  List.filterMap_append

/-- The events of unresolved words report these words. -/
theorem unresolvedWords_map (words : List Token) :
    unresolvedWords (words.map .unresolved) = words := by
  rw [unresolvedWords, List.filterMap_map]
  exact List.filterMap_some

/-- Reading a text reports no words. -/
theorem unresolvedWords_tokenizeWithEvent (source : String) :
    unresolvedWords (tokenizeWithEvent source).1 = [] := by
  unfold tokenizeWithEvent
  split <;> rfl

end CompileEvent

open CompileEvent (unresolvedWords)

/-- The element words of a text stand one behind the other. -/
theorem Token.pairwise_elementWords {source : String} {ts : List Token}
    (h : tokenize source = .ok ts) (known : String → Bool) :
    (Token.elementWords known true ts).Pairwise fun a b => a.pos.isBefore b.pos = true := by
  obtain ⟨row, -, hrow, rfl⟩ := Lexer.tokenize_eq_ok_iff.mp h
  exact (hrow.pairwise_tokensAt .start 0).1.filter _

/-- Words one behind the other are reported from the last one to the first. -/
theorem unresolvedInRewriting_eq_reverse {words : List Token}
    (h : words.Pairwise fun a b => a.pos.isBefore b.pos = true) (registry : Registry) :
    unresolvedInRewriting words registry = (words.filter (isUnresolved registry)).reverse := by
  rw [unresolvedInRewriting, backwards_eq_reverse h, List.filter_reverse]

namespace Template

variable {known : String → Bool} {registry : Registry} {constructor : Constructor}
  {source : String}

/-- What is reported while the rest of a template is made, and which words it is kept with. -/
theorem reported_finish {ts : List Token} {t : Template}
    (h : (finish known registry constructor source ts).2 = .ok t) :
    unresolvedWords (finish known registry constructor source ts).1 =
        unresolvedInRewriting (Token.elementWords known true ts) registry ∧
      t.unresolved = (Token.elementWords known true ts).filter (isUnresolved registry) := by
  unfold finish at h ⊢
  cases hrewrite :
      rewrite source (Token.elementWords known true ts) registry constructor.word with
  | error f => simp [hrewrite] at h
  | ok compiled =>
    simp only [hrewrite] at h ⊢
    split at h
    · cases h
    · rename_i hagain
      have hread : unresolvedWords
          (if (Token.elementWords known true ts).isEmpty then ([], .ok ts)
            else tokenizeWithEvent compiled).1 = [] := by
        split
        · rfl
        · exact CompileEvent.unresolvedWords_tokenizeWithEvent compiled
      refine ⟨?_, by rw [← Except.ok.inj h]⟩
      rw [CompileEvent.unresolvedWords_append, CompileEvent.unresolvedWords_append, hread,
        List.append_nil]
      have hcompiled (words tokens : Nat) : unresolvedWords [.compiled words tokens] = [] := rfl
      rw [hcompiled, List.append_nil]
      exact CompileEvent.unresolvedWords_map _

/-- **While a template is made, the words it is kept with are reported in the reverse order.** They
stand one behind the other. -/
theorem reported {t : Template} (h : (ofSource known registry constructor source).2 = .ok t) :
    unresolvedWords (ofSource known registry constructor source).1 = t.unresolved.reverse ∧
      t.unresolved.Pairwise fun a b => a.pos.isBefore b.pos = true := by
  have hevents := CompileEvent.unresolvedWords_tokenizeWithEvent source
  unfold ofSource at h ⊢
  cases hread : tokenizeWithEvent source with
  | mk events result =>
    rw [hread] at hevents h
    cases result with
    | error f => cases h
    | ok ts =>
      have htokens : tokenize source = .ok ts := by
        unfold tokenizeWithEvent at hread
        split at hread
        · cases hread
        · rename_i heq
          rw [heq, (Prod.mk.inj hread).2]
      have hwords := Token.pairwise_elementWords htokens known
      obtain ⟨hreported, hkept⟩ := reported_finish h
      rw [CompileEvent.unresolvedWords_append, hevents, List.nil_append, hreported, hkept]
      exact ⟨unresolvedInRewriting_eq_reverse hwords registry, hwords.filter _⟩

/-- The words that a template is kept with. -/
theorem unresolved_eq {ts : List Token} {t : Template} (hread : tokenize source = .ok ts)
    (h : (ofSource known registry constructor source).2 = .ok t) :
    t.unresolved = (Token.elementWords known true ts).filter (isUnresolved registry) := by
  unfold ofSource tokenizeWithEvent at h
  rw [hread] at h
  exact (reported_finish h).2

end Template

/-! ## Reports in another order -/

/-- Of values that are all different, at most one is the same in the reverse order. -/
theorem reverse_eq_self_iff_of_nodup {α : Type} {l : List α} (h : l.Nodup) :
    l.reverse = l ↔ l.length ≤ 1 := by
  constructor
  · intro hreverse
    refine Nat.le_of_not_lt fun hlength => ?_
    have hfirst : 0 < l.length := Nat.zero_lt_of_lt hlength
    have hends : l[l.length - 1 - 0] = l[0] := by
      rw [← List.getElem_reverse (by simpa using hfirst)]
      exact List.getElem_of_eq hreverse _
    exact List.pairwise_iff_getElem.mp h 0 (l.length - 1) hfirst (by omega) (by omega) hends.symm
  · intro hlength
    match l, hlength with
    | [], _ => rfl
    | [a], _ => rfl

/-- Places with the same report fields are the same. -/
theorem Position.fields_inj {p q : Position} : p.fields = q.fields ↔ p = q := by
  cases p
  cases q
  simp [Position.fields, Int.natCast_inj]

/-- Words at different places have different reports. -/
theorem Diagnostic.pos_eq_of_unresolvedWord {text text' : String} {pos pos' : Position}
    {correlationId : Option String}
    (h : unresolvedWord text pos correlationId = unresolvedWord text' pos' correlationId) :
    pos = pos' :=
  Position.fields_inj.mp (congrArg Diagnostic.position h)

namespace CompileEvent

variable (correlationId : Option String)

/-- The reports of words that stand one behind the other are all different. -/
theorem nodup_reports {events : List CompileEvent}
    (h : (unresolvedWords events).Pairwise fun a b => a.pos.isBefore b.pos = true) :
    (reports correlationId events).Nodup := by
  refine List.Pairwise.map _ (fun a b hab heq => ?_) h
  have hpos := Diagnostic.pos_eq_of_unresolvedWord heq
  rw [hpos, Position.isBefore_irrefl] at hab
  cases hab

/-- The reports of words in the reverse order are in the reverse order. -/
theorem reports_of_reverse {events events' : List CompileEvent}
    (h : unresolvedWords events' = (unresolvedWords events).reverse) :
    reports correlationId events' = (reports correlationId events).reverse := by
  rw [reports, reports, h, List.map_reverse]

end CompileEvent

/-! ## Templates that are found -/

/-- What making templates asks of a resolver whose answers depend on its version. -/
def CompilerHost.ofVersion (knowsAt : Option Nat → String → Bool) (version : Option Nat) :
    CompilerHost :=
  ⟨true, some (knowsAt version), version⟩

namespace Cache

variable {settings : CompilerSettings} {knowsAt : Option Nat → String → Bool} {c : Cache}

/-- The caches that requests and clearings lead to, under any bindings and any versions of the
command words. -/
inductive Filled (settings : CompilerSettings) (knowsAt : Option Nat → String → Bool) :
    Cache → Prop where
  | empty : Filled settings knowsAt .empty
  | compile {before : Cache} (h : Filled settings knowsAt before) (version : Option Nat)
      (registry : Registry) (source : String) :
      Filled settings knowsAt
        (before.compile settings (.ofVersion knowsAt version) registry source).cache
  | clear {before : Cache} (h : Filled settings knowsAt before) :
      Filled settings knowsAt before.clear

/-- The invariant of the cache holds for every version. -/
theorem Filled.holds (h : Filled settings knowsAt c) (version : Option Nat) :
    c.Holds settings (knowsAt version) version := by
  induction h with
  | empty => exact holds_empty settings (knowsAt version) version
  | compile _ version' registry source ih =>
    intro e he hversion r hr
    rcases mem_entries_compile he with he | ⟨knows, hknows, hkey, hmade⟩
    · exact ih e he hversion r hr
    · have hsame : version' = version := by rw [hkey] at hversion; exact hversion
      subst hsame
      cases hknows
      rw [hkey] at hr ⊢
      rw [Template.ofSource_congr hr]
      exact hmade
  | clear _ _ =>
    intro e he
    cases he

/-- A request that finds a template finds one of those that are kept, and reports the words it is
kept with. -/
theorem exists_kept {host : CompilerHost} {registry : Registry} {source : String}
    (h : (c.compile settings host registry source).found = true) :
    ∃ t, (⟨source, registry.sorted, settings.constructor.word, host.version⟩, t) ∈ c.entries ∧
      (c.compile settings host registry source).events = t.unresolved.map .unresolved := by
  have hrequest := request_compile settings host registry source c
  generalize c.compile settings host registry source = r at h hrequest ⊢
  cases hrequest with
  | unread | unknown | unfixed => cases h
  | found _ hget => exact ⟨_, Fields.mem_of_get? hget, rfl⟩
  | made _ _ hmaking => cases hmaking <;> cases h

/-- **A request that comes to a template reports the words that the template is kept with**, whether
it was found or made. -/
theorem Holds.unresolvedWords_of_ok {knows : String → Bool} {version : Option Nat}
    (h : c.Holds settings knows version) {registry : Registry} {source : String} {t : Template}
    (hok : (c.compile settings ⟨true, some knows, version⟩ registry source).outcome = .ok t) :
    (Template.ofSource knows registry settings.constructor source).2 = .ok t ∧
      ∀ w, w ∈ unresolvedWords
        (c.compile settings ⟨true, some knows, version⟩ registry source).events ↔
          w ∈ t.unresolved := by
  have hrequest := request_compile settings ⟨true, some knows, version⟩ registry source c
  generalize c.compile settings ⟨true, some knows, version⟩ registry source = r at hok hrequest ⊢
  cases hrequest with
  | unread | unknown | unfixed => cases hok
  | found _ hget =>
    cases hok
    refine ⟨h _ (Fields.mem_of_get? hget) rfl registry rfl, fun w => ?_⟩
    simp only [CompileEvent.unresolvedWords_map]
  | made hknows _ hmaking =>
    cases hknows
    cases hmaking with
    | malformed | unkept => cases hok
    | kept hmade =>
      cases hok
      have hreported := (Template.reported (congrArg Prod.snd hmade)).1
      rw [hmade] at hreported
      exact ⟨congrArg Prod.snd hmade, fun w => by simp only [hreported, List.mem_reverse]⟩

/-- Without keeping templates, what happens is what happens while a template is made. -/
theorem events_uncached (hcaching : settings.caching = false) {version : Option Nat}
    {registry : Registry} {source : String} :
    (c.compile settings (.ofVersion knowsAt version) registry source).events =
      (Template.ofSource (knowsAt version) registry settings.constructor source).1 := by
  have hkeep (key : TemplateKey) (t : Template) : c.put settings key t = (c, .ok ()) := by
    simp [put, hcaching]
  have hcompile : c.compile settings (.ofVersion knowsAt version) registry source =
      c.compileNew settings (knowsAt version) registry
        ⟨source, registry.sorted, settings.constructor.word, version⟩ := by
    simp [compile, CompilerHost.ofVersion, hcaching]
  rw [hcompile, compileNew]
  split
  · rename_i heq
    rw [heq]
  · rename_i heq
    rw [heq, hkeep]

/-- What a request that finds a template reports, and what it would report if nothing were kept. -/
theorem unresolvedWords_found (hc : c.Filled settings knowsAt) {version : Option Nat}
    {registry : Registry} {source : String}
    (hfound : (c.compile settings (.ofVersion knowsAt version) registry source).found = true) :
    ∃ t, (Template.ofSource (knowsAt version) registry settings.constructor source).2 = .ok t ∧
      unresolvedWords (c.compile settings (.ofVersion knowsAt version) registry source).events =
        t.unresolved ∧
      unresolvedWords (Cache.empty.compile { settings with caching := false }
        (.ofVersion knowsAt version) registry source).events = t.unresolved.reverse ∧
      t.unresolved.Pairwise fun a b => a.pos.isBefore b.pos = true := by
  obtain ⟨t, hkept, hevents⟩ := exists_kept hfound
  have hmade := hc.holds version _ hkept rfl registry rfl
  obtain ⟨hreported, hordered⟩ := Template.reported hmade
  refine ⟨t, hmade, ?_, ?_, hordered⟩
  · rw [hevents]
    exact CompileEvent.unresolvedWords_map t.unresolved
  · rw [events_uncached rfl]
    exact hreported

/-- A template that was made is found when it is asked for again, if one template can be kept. -/
theorem found_again (hcaching : settings.caching = true)
    (hfixed : settings.constructor.isFixed = true) {limit : Nat}
    (hlimit : settings.limit = .whole (limit + 1)) {version : Option Nat} {registry : Registry}
    {source : String} {t : Template}
    (h : (Template.ofSource (knowsAt version) registry settings.constructor source).2 = .ok t) :
    ((Cache.empty.compile settings (.ofVersion knowsAt version) registry source).cache.compile
      settings (.ofVersion knowsAt version) registry source).found = true := by
  let key : TemplateKey := ⟨source, registry.sorted, settings.constructor.word, version⟩
  have hkept : (Cache.empty.compile settings (.ofVersion knowsAt version) registry source).cache =
      ⟨[(key, t)], 0, 1⟩ := by
    cases hmade : Template.ofSource (knowsAt version) registry settings.constructor source with
    | mk events result =>
      rw [hmade] at h
      dsimp only at h
      have hone : Limit.isExceededBy (.whole (limit + 1)) 1 = .ok false :=
        congrArg Except.ok (decide_eq_false (by omega))
      have hsome : limitIsZero (.whole (limit + 1)) = false :=
        beq_eq_false_iff_ne.mpr (by omega)
      simp [compile, CompilerHost.ofVersion, hcaching, hfixed, compileNew, Cache.empty, Fields.get?,
        hmade, h, put, hlimit, hsome, Fields.insert, trimTo, hone, key]
  rw [hkept]
  simp [compile, CompilerHost.ofVersion, hcaching, hfixed, Fields.get?, key]

/-- **A template that was kept is reported in the reverse order.** So it is reported as if it were
made exactly if there is at most one report. -/
theorem kept_reports_iff (hc : c.Filled settings knowsAt) (version : Option Nat)
    (registry : Registry) (source : String)
    (hfound : (c.compile settings (.ofVersion knowsAt version) registry source).found = true)
    (correlationId : Option String) :
    let kept := CompileEvent.reports correlationId
      (c.compile settings (.ofVersion knowsAt version) registry source).events
    let made := CompileEvent.reports correlationId
      (Cache.empty.compile { settings with caching := false } (.ofVersion knowsAt version) registry
        source).events
    kept = made.reverse ∧ (kept = made ↔ made.length ≤ 1) := by
  intro kept made
  obtain ⟨t, -, hkept, hmade, hordered⟩ := unresolvedWords_found hc hfound
  have hreverse : made = kept.reverse :=
    CompileEvent.reports_of_reverse correlationId (by rw [hkept, hmade])
  have hdifferent : kept.Nodup := CompileEvent.nodup_reports correlationId (hkept ▸ hordered)
  refine ⟨by rw [hreverse, List.reverse_reverse], ?_⟩
  rw [hreverse, List.length_reverse, ← reverse_eq_self_iff_of_nodup hdifferent, eq_comm]

/-- Two lines, each an element word whose prefix is unbound. -/
theorem exists_made_two :
    ∃ t, (Template.ofSource (fun _ => false) .empty ({} : CompilerConfig).settings.constructor
        "p:a\nq:b").2 = .ok t ∧
      t.unresolved = [⟨.command, "p:a", ⟨1, 1⟩, 3, 0, 0⟩, ⟨.command, "q:b", ⟨2, 1⟩, 3, 0, 4⟩] := by
  let row : List Lexer.Stretch := [.token .command ['p', ':', 'a'] 0, .token .newline ['\n'] 0,
    .token .command ['q', ':', 'b'] 0]
  have hrow : Lexer.Readable true [] row :=
    ⟨⟨'p', [':', 'a'], rfl, rfl⟩, [], rfl, ⟨'\n', [], rfl, rfl⟩, [], rfl,
      ⟨'q', [':', 'b'], rfl, rfl⟩, [], rfl, rfl⟩
  have hconstructor : Lexer.Begins true .command
      ({} : CompilerConfig).settings.constructor.word.toList [] := ⟨'N', _, rfl, rfl⟩
  obtain ⟨t, hmade, -, -⟩ := @Lexer.ofSource_textOf (fun _ => false) .empty _ hconstructor
    "p:a\nq:b" row rfl hrow
  have hread : tokenize "p:a\nq:b" = .ok (Lexer.tokensAt .start 0 row) :=
    Lexer.tokenize_eq_ok_iff.mpr ⟨row, rfl, hrow, rfl⟩
  exact ⟨t, hmade, Template.unresolved_eq hread hmade⟩

theorem kept_reports_iff_two :
    let host : CompilerHost := .ofVersion (fun _ _ => false) none
    let c := (Cache.empty.compile ({} : CompilerConfig).settings host .empty "p:a\nq:b").cache
    c.Filled ({} : CompilerConfig).settings (fun _ _ => false) ∧
      (c.compile ({} : CompilerConfig).settings host .empty "p:a\nq:b").found = true ∧
      ∀ correlationId,
        let kept := CompileEvent.reports correlationId
          (c.compile ({} : CompilerConfig).settings host .empty "p:a\nq:b").events
        let made := CompileEvent.reports correlationId
          (Cache.empty.compile { ({} : CompilerConfig).settings with caching := false } host .empty
            "p:a\nq:b").events
        kept = made.reverse ∧ (kept = made ↔ made.length ≤ 1) := by
  intro host c
  obtain ⟨t, hmade, -⟩ := exists_made_two
  have hfilled : c.Filled ({} : CompilerConfig).settings (fun _ _ => false) :=
    .compile .empty none .empty _
  have hfound := @found_again ({} : CompilerConfig).settings (fun _ _ => false) rfl rfl 255 rfl none
    _ _ _ hmade
  exact ⟨hfilled, hfound, kept_reports_iff hfilled none .empty _ hfound⟩

/-- Two reports come in the order of the text from a kept template, and in the reverse order while
it is made. -/
theorem kept_reports_reversed :
    let host : CompilerHost := .ofVersion (fun _ _ => false) none
    let c := (Cache.empty.compile ({} : CompilerConfig).settings host .empty "p:a\nq:b").cache
    let first := Diagnostic.unresolvedWord "p:a" ⟨1, 1⟩ none
    let second := Diagnostic.unresolvedWord "q:b" ⟨2, 1⟩ none
    (c.compile ({} : CompilerConfig).settings host .empty "p:a\nq:b").found = true ∧
      CompileEvent.reports none
          (c.compile ({} : CompilerConfig).settings host .empty "p:a\nq:b").events =
        [first, second] ∧
      CompileEvent.reports none
          (Cache.empty.compile { ({} : CompilerConfig).settings with caching := false } host .empty
            "p:a\nq:b").events =
        [second, first] ∧
      [first, second] ≠ [second, first] := by
  intro host c first second
  obtain ⟨t, hmade, hwords⟩ := exists_made_two
  have hfound := @found_again ({} : CompilerConfig).settings (fun _ _ => false) rfl rfl 255 rfl none
    _ _ _ hmade
  obtain ⟨t', hmade', hkept, huncached, -⟩ :=
    unresolvedWords_found (.compile .empty none .empty _) hfound
  have hsame : t' = t := Except.ok.inj (hmade'.symm.trans hmade)
  rw [hsame, hwords] at hkept huncached
  refine ⟨hfound, ?_, ?_, fun heq => ?_⟩
  · rw [CompileEvent.reports, hkept]
    rfl
  · rw [CompileEvent.reports, huncached]
    rfl
  · have hpos := Diagnostic.pos_eq_of_unresolvedWord (List.cons.inj heq).1
    cases hpos

end Cache

end TagScript
