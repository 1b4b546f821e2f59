import TagScript.Build
import TagScript.Proofs.Template.Respelling

/-!
# Kept templates are never out of date

A template is kept under its text, the bindings in the order of their prefixes, the constructor and
the version of the command words. These decide what the template is:

* `ofSource_congr` — the bindings matter only in that order.
* `Cache.Request`, `Cache.request_compile` — all that a request can come to.
* `Cache.mem_entries_compile` — all that a request can do to the kept templates.
* `Cache.Holds` — the invariant: a template kept under the present version is what would be made.
* **`compile_eq_uncached`** — after any requests, clearings, registrations and removals, a request
  comes to what it would come to if nothing were kept.
-/

namespace TagScript

/-! ## What the bindings of a registry decide -/

namespace Registry

/-- Sorting leaves the bindings of one prefix in their order. -/
theorem filter_sorted (r : Registry) (pfx : String) :
    r.sorted.filter (fun b => b.1 = pfx) = r.bindings.filter fun b => b.1 = pfx := by
  have hsorted : (r.bindings.filter fun b => b.1 = pfx).Pairwise
      (fun a b => decide (a.1 ≤ b.1) = true) := by
    refine List.pairwise_of_forall_mem_list fun a ha b hb => ?_
    have hab : a.1 = b.1 := by
      rw [of_decide_eq_true (List.mem_filter.mp ha).2, of_decide_eq_true (List.mem_filter.mp hb).2]
    exact decide_eq_true (hab ▸ String.le_refl a.1)
  have hsub : (r.bindings.filter fun b => b.1 = pfx).Sublist r.sorted := by
    refine List.sublist_mergeSort (fun a b c hab hbc => ?_) (fun a b => ?_) hsorted
      List.filter_sublist
    · exact decide_eq_true (String.le_trans (of_decide_eq_true hab) (of_decide_eq_true hbc))
    · simpa using String.le_total a.1 b.1
  have hfilter := hsub.filter (fun b => decide (b.1 = pfx))
  rw [List.filter_filter] at hfilter
  simp only [Bool.and_self] at hfilter
  refine (hfilter.eq_of_length ?_).symm
  exact ((List.mergeSort_perm r.bindings _).filter _).length_eq.symm

theorem get?_eq_head? (r : Registry) (pfx : String) :
    r.get? pfx = ((r.bindings.filter fun b => b.1 = pfx).head?).map (·.2) := by
  unfold get?
  induction r.bindings with
  | nil => rfl
  | cons b bindings ih =>
    by_cases hb : b.1 = pfx
    · simp [Fields.get?, hb]
    · simp [Fields.get?, hb, ih]

/-- Bindings that are the same when sorted bind each prefix alike. -/
theorem get?_congr {r r' : Registry} (h : r.sorted = r'.sorted) (pfx : String) :
    r.get? pfx = r'.get? pfx := by
  rw [get?_eq_head?, get?_eq_head?, ← filter_sorted r, ← filter_sorted r', h]

theorem resolve_congr {r r' : Registry} (h : r.sorted = r'.sorted) (text : String) :
    r.resolve text = r'.resolve text := by
  simp only [resolve, resolvePrefixed, get?_congr h]

end Registry

/-- A template depends on the bindings only as far as they differ when sorted. -/
theorem Template.ofSource_congr {r r' : Registry} (h : r.sorted = r'.sorted)
    (known : String → Bool) (constructor : Constructor) (source : String) :
    (Template.ofSource known r constructor source).2 =
      (Template.ofSource known r' constructor source).2 := by
  have hresolve : resolveWord r = resolveWord r' := funext fun w => r.resolve_congr h w.text
  have hrewrite : rewriteWord r = rewriteWord r' := by
    unfold rewriteWord
    rw [hresolve]
  have hunresolved : isUnresolved r = isUnresolved r' := by
    unfold isUnresolved
    rw [hresolve]
  simp only [Template.ofSource_snd, rewrite, hrewrite, hunresolved, h]

/-! ## One request -/

/-- Settings under which templates can be kept: they can be told apart by the constructor, and the
limit can be compared with counts. -/
structure CompilerSettings.Usable (s : CompilerSettings) : Prop where
  /-- The setting for the constructor does not change. -/
  isFixed : s.constructor.isFixed = true
  /-- No template is not too many. -/
  zero : s.limit.isExceededBy 0 = .ok false
  /-- The limit can be compared with every count. -/
  compares : ∀ n, ∃ b, s.limit.isExceededBy n = .ok b

/-- A limit refuses counts only if it has no order with numbers. -/
theorem Limit.isExceededBy_error {limit : Limit} {n : Nat} {fault : Fault}
    (h : limit.isExceededBy n = .error fault) : fault = .wrongKind .unsupported := by
  cases limit with
  | whole _ | real _ => cases h
  | incomparable =>
    cases h
    rfl

/-- A setting that is not below zero is a limit that no template exceeds. -/
theorem Limit.compares_ofJson {setting : Json}
    (h : setting.compareZero "<" (· < 0) (· < 0.0) = .ok false) :
    (Limit.ofJson setting).isExceededBy 0 = .ok false ∧
      ∀ n, ∃ b, (Limit.ofJson setting).isExceededBy n = .ok b := by
  cases setting with
  | int i => exact ⟨h, fun n => ⟨_, rfl⟩⟩
  | bool b => exact ⟨h, fun n => ⟨_, rfl⟩⟩
  | float x =>
    have hzero : (0.0 : Float) = Float.ofNat 0 := by decide
    rw [Json.compareZero, hzero] at h
    exact ⟨h, fun n => ⟨_, rfl⟩⟩
  | _ => cases h

/-- A configuration that passes its checks gives usable settings. -/
theorem CompilerConfig.usable {c : CompilerConfig} (h : c.check = .ok ()) {name : String}
    (hname : c.elementConstructor = .str name) : c.settings.Usable := by
  have hlimit : c.cacheLimit.compareZero "<" (· < 0) (· < 0.0) = .ok false := by
    simp only [CompilerConfig.check, hname, Json.holdsBlank, bind, Except.bind] at h
    split at h
    · cases h
    · split at h
      · cases h
      · cases hc : c.cacheLimit.compareZero "<" (· < 0) (· < 0.0) with
        | error f => simp [hc] at h
        | ok below =>
          cases below with
          | false => rfl
          | true => simp [hc] at h
  obtain ⟨hzero, hcompares⟩ := Limit.compares_ofJson hlimit
  exact ⟨by simp [Constructor.isFixed, CompilerConfig.settings, hname], hzero, hcompares⟩

namespace Cache

variable {settings : CompilerSettings} {host : CompilerHost} {registry : Registry}
  {source : String} {c : Cache}

theorem mem_of_mem_trimTo {limit : Limit} {entries : List (TemplateKey × Template)}
    {e : TemplateKey × Template} (h : e ∈ (trimTo limit entries).1) : e ∈ entries := by
  induction entries with
  | nil =>
    rw [trimTo] at h
    split at h <;> cases h
  | cons entry rest ih =>
    rw [trimTo] at h
    split at h
    · exact List.mem_cons_of_mem entry (ih h)
    · exact h
    · exact h

theorem mem_entries_put {key : TemplateKey} {t : Template} {e : TemplateKey × Template}
    (h : e ∈ (c.put settings key t).1.entries) : e ∈ c.entries ∨ e = (key, t) := by
  unfold put at h
  split at h
  · exact .inl h
  · exact Fields.mem_of_mem_insert (mem_of_mem_trimTo h)

/-- What making a template for a key can come to. -/
inductive Making (settings : CompilerSettings) (knows : String → Bool) (registry : Registry)
    (key : TemplateKey) (c : Cache) : Compilation → Prop where
  /-- The text is malformed. -/
  | malformed {events : List CompileEvent} {fault : Fault}
      (hmade : Template.ofSource knows registry settings.constructor key.source =
        (events, .error fault)) :
      Making settings knows registry key c ⟨c, events, false, .error fault⟩
  /-- The template is made and kept. -/
  | kept {events : List CompileEvent} {t : Template} {c' : Cache}
      (hmade : Template.ofSource knows registry settings.constructor key.source = (events, .ok t))
      (hput : c.put settings key t = (c', .ok ())) :
      Making settings knows registry key c ⟨c', events, false, .ok t⟩
  /-- The template is made, but there is no telling how many may be kept. -/
  | unkept {events : List CompileEvent} {t : Template} {c' : Cache} {fault : Fault}
      (hmade : Template.ofSource knows registry settings.constructor key.source = (events, .ok t))
      (hput : c.put settings key t = (c', .error fault)) :
      Making settings knows registry key c ⟨c', events.dropLast, false, .error fault⟩

theorem making_compileNew (settings : CompilerSettings) (knows : String → Bool)
    (registry : Registry) (key : TemplateKey) (c : Cache) :
    Making settings knows registry key c (c.compileNew settings knows registry key) := by
  unfold compileNew
  split
  · rename_i hmade
    exact .malformed hmade
  · rename_i hmade
    split
    · rename_i hput
      exact .kept hmade hput
    · rename_i hput
      exact .unkept hmade hput

/-- What a request for a template can come to. -/
inductive Request (settings : CompilerSettings) (host : CompilerHost) (registry : Registry)
    (source : String) (c : Cache) : Compilation → Prop where
  /-- Nobody reads texts. -/
  | unread (htokenizes : host.tokenizes = false) : Request settings host registry source c
      ⟨c, [], false, .error (.missingCapability "tokenizer")⟩
  /-- Nobody knows the command words. -/
  | unknown (hknows : host.knows = none) : Request settings host registry source c
      ⟨c, [], false, .error (.missingCapability "command resolver")⟩
  /-- Nothing can be kept under the constructor. -/
  | unfixed (hcaching : settings.caching = true) (hfixed : settings.constructor.isFixed = false) :
      Request settings host registry source c ⟨c, [], false, .error (.wrongKind .unsupported)⟩
  /-- The template is found. -/
  | found {t : Template} (hcaching : settings.caching = true)
      (hget : Fields.get? c.entries
        ⟨source, registry.sorted, settings.constructor.word, host.version⟩ = some t) :
      Request settings host registry source c
        ⟨{ c with
            entries := Fields.erase c.entries
                ⟨source, registry.sorted, settings.constructor.word, host.version⟩ ++
              [(⟨source, registry.sorted, settings.constructor.word, host.version⟩, t)]
            hits := c.hits + 1 },
          t.unresolved.map .unresolved, true, .ok t⟩
  /-- The template is made; if templates are kept, the request is counted first. -/
  | made {knows : String → Bool} {r : Compilation} (hknows : host.knows = some knows)
      (hget : settings.caching = true → Fields.get? c.entries
        ⟨source, registry.sorted, settings.constructor.word, host.version⟩ = none)
      (h : Making settings knows registry
        ⟨source, registry.sorted, settings.constructor.word, host.version⟩
        { c with misses := c.misses + if settings.caching then 1 else 0 } r) :
      Request settings host registry source c r

/-- **All that a request can come to.** -/
theorem request_compile (settings : CompilerSettings) (host : CompilerHost) (registry : Registry)
    (source : String) (c : Cache) :
    Request settings host registry source c (c.compile settings host registry source) := by
  unfold compile
  split
  · rename_i htokenizes
    exact .unread (by simpa using htokenizes)
  · split
    · rename_i hknows
      exact .unknown hknows
    · rename_i knows hknows
      dsimp only
      cases hcaching : settings.caching with
      | false =>
        rw [if_neg Bool.false_ne_true]
        refine .made hknows (fun hyes => absurd (hcaching.symm.trans hyes) Bool.false_ne_true) ?_
        rw [hcaching]
        exact making_compileNew settings knows registry _ c
      | true =>
        rw [if_pos rfl]
        split
        · rename_i hfixed
          exact .unfixed hcaching (by simpa using hfixed)
        · split
          · rename_i t hget
            exact .found hcaching hget
          · rename_i hget
            refine .made hknows (fun _ => hget) ?_
            rw [hcaching]
            exact making_compileNew settings knows registry _ _

/-- Keeping a template counts nothing. -/
theorem counts_put (settings : CompilerSettings) (c : Cache) (key : TemplateKey) (t : Template) :
    (c.put settings key t).1.hits = c.hits ∧ (c.put settings key t).1.misses = c.misses := by
  unfold Cache.put
  split
  · exact ⟨rfl, rfl⟩
  · exact ⟨rfl, rfl⟩

/-- Making a template counts nothing. -/
theorem Making.counts {knows : String → Bool} {key : TemplateKey} {r : Compilation}
    (h : Making settings knows registry key c r) :
    r.cache.hits = c.hits ∧ r.cache.misses = c.misses ∧ r.found = false := by
  have hkept {t : Template} {c' : Cache} {result : Except Fault Unit}
      (hput : c.put settings key t = (c', result)) : c'.hits = c.hits ∧ c'.misses = c.misses := by
    have hcounts := counts_put settings c key t
    rwa [hput] at hcounts
  cases h with
  | malformed => exact ⟨rfl, rfl, rfl⟩
  | kept _ hput => exact ⟨(hkept hput).1, (hkept hput).2, rfl⟩
  | unkept _ hput => exact ⟨(hkept hput).1, (hkept hput).2, rfl⟩

/-- A made template is added to the kept ones, of which some are dropped. -/
theorem Making.mem_entries {knows : String → Bool} {key : TemplateKey} {r : Compilation}
    (h : Making settings knows registry key c r) {e : TemplateKey × Template}
    (he : e ∈ r.cache.entries) :
    e ∈ c.entries ∨ e.1 = key ∧
      (Template.ofSource knows registry settings.constructor key.source).2 = .ok e.2 := by
  have hkept {t : Template} {c' : Cache} {result : Except Fault Unit}
      (hmade : (Template.ofSource knows registry settings.constructor key.source).2 = .ok t)
      (hput : c.put settings key t = (c', result)) (he : e ∈ c'.entries) :
      e ∈ c.entries ∨ e.1 = key ∧
        (Template.ofSource knows registry settings.constructor key.source).2 = .ok e.2 := by
    have hin : e ∈ (c.put settings key t).1.entries := by
      rw [hput]
      exact he
    rcases mem_entries_put hin with hold | rfl
    · exact .inl hold
    · exact .inr ⟨rfl, hmade⟩
  cases h with
  | malformed => exact .inl he
  | kept hmade hput => exact hkept (congrArg Prod.snd hmade) hput he
  | unkept hmade hput => exact hkept (congrArg Prod.snd hmade) hput he

/-- All that a request can do to the kept templates: it drops some of them, and it adds what it has
made. -/
theorem mem_entries_compile {e : TemplateKey × Template}
    (h : e ∈ (c.compile settings host registry source).cache.entries) :
    e ∈ c.entries ∨ ∃ knows, host.knows = some knows ∧
      e.1 = ⟨source, registry.sorted, settings.constructor.word, host.version⟩ ∧
      (Template.ofSource knows registry settings.constructor source).2 = .ok e.2 := by
  have hrequest := request_compile settings host registry source c
  generalize c.compile settings host registry source = r at h hrequest
  cases hrequest with
  | unread | unknown | unfixed => exact .inl h
  | found _ hget =>
    rcases List.mem_append.mp h with h | h
    · exact .inl ((List.mem_filter.mp h).1)
    · cases List.mem_singleton.mp h
      exact .inl (Fields.mem_of_get? hget)
  | made hknows _ hmaking => exact (hmaking.mem_entries h).imp_right fun hnew => ⟨_, hknows, hnew⟩

/-- A limit that can be compared is kept to. -/
theorem trimTo_snd (hsettings : settings.Usable) (entries : List (TemplateKey × Template)) :
    (trimTo settings.limit entries).2 = .ok () := by
  induction entries with
  | nil => simp [trimTo, hsettings.zero]
  | cons entry rest ih =>
    obtain ⟨b, hb⟩ := hsettings.compares (rest.length + 1)
    rw [trimTo, hb]
    cases b with
    | true => exact ih
    | false => rfl

theorem put_snd (hsettings : settings.caching = true → settings.Usable) (c : Cache)
    (key : TemplateKey) (t : Template) : (c.put settings key t).2 = .ok () := by
  unfold put
  split
  · rfl
  · rename_i hkept
    simp only [Bool.or_eq_true, Bool.not_eq_true', not_or, Bool.not_eq_false] at hkept
    exact trimTo_snd (hsettings hkept.1) _

/-- Usable settings keep every template that is made. -/
theorem Making.outcome_eq (hsettings : settings.caching = true → settings.Usable)
    {knows : String → Bool} {key : TemplateKey} {r : Compilation}
    (h : Making settings knows registry key c r) :
    r.outcome = (Template.ofSource knows registry settings.constructor key.source).2 := by
  cases h with
  | malformed hmade => rw [hmade]
  | kept hmade => rw [hmade]
  | unkept hmade hput =>
    have hrefused := congrArg Prod.snd hput
    rw [put_snd hsettings] at hrefused
    cases hrefused

/-- **The invariant of the cache.** A template kept under the present version is the one that is
made for every registry with the bindings it is kept under. -/
def Holds (settings : CompilerSettings) (knows : String → Bool) (version : Option Nat)
    (c : Cache) : Prop :=
  ∀ e ∈ c.entries, e.1.version = version → ∀ registry : Registry, registry.sorted = e.1.bindings →
    (Template.ofSource knows registry settings.constructor e.1.source).2 = .ok e.2

theorem holds_empty (settings : CompilerSettings) (knows : String → Bool) (version : Option Nat) :
    Cache.empty.Holds settings knows version := by
  intro e he
  cases he

/-- A request keeps the invariant. -/
theorem Holds.compile {knows : String → Bool} (h : c.Holds settings knows host.version)
    (hknows : host.knows = some knows) :
    (c.compile settings host registry source).cache.Holds settings knows host.version := by
  intro e he hversion r hr
  rcases mem_entries_compile he with he | ⟨knows', hknows', hkey, hmade⟩
  · exact h e he hversion r hr
  · rw [hknows] at hknows'
    cases hknows'
    rw [hkey] at hr ⊢
    rw [Template.ofSource_congr hr]
    exact hmade

/-- A request comes to the template that is made, kept or not. -/
theorem Holds.outcome {knows : String → Bool} (h : c.Holds settings knows host.version)
    (hsettings : settings.caching = true → settings.Usable) (htokenizes : host.tokenizes = true)
    (hknows : host.knows = some knows) :
    (c.compile settings host registry source).outcome =
      (Template.ofSource knows registry settings.constructor source).2 := by
  have hrequest := request_compile settings host registry source c
  generalize c.compile settings host registry source = r at hrequest
  cases hrequest with
  | unread hno =>
    rw [htokenizes] at hno
    cases hno
  | unknown hnone =>
    rw [hknows] at hnone
    cases hnone
  | unfixed hcaching hopen =>
    rw [(hsettings hcaching).isFixed] at hopen
    cases hopen
  | found _ hget => exact (h _ (Fields.mem_of_get? hget) rfl registry rfl).symm
  | made hsome _ hmaking =>
    rw [hknows] at hsome
    cases hsome
    exact hmaking.outcome_eq hsettings

/-- The caches that requests and clearings lead to while the command words stay the same. -/
inductive Reached (settings : CompilerSettings) (host : CompilerHost) : Cache → Prop where
  | empty : Reached settings host .empty
  | compile {before : Cache} (h : Reached settings host before) (registry : Registry)
      (source : String) :
      Reached settings host (before.compile settings host registry source).cache
  | clear {before : Cache} (h : Reached settings host before) : Reached settings host before.clear

theorem Reached.holds (h : Reached settings host c) {knows : String → Bool}
    (hknows : host.knows = some knows) : c.Holds settings knows host.version := by
  induction h with
  | empty => exact holds_empty settings knows host.version
  | compile _ _ _ ih => exact ih.compile hknows
  | clear _ _ =>
    intro e he
    cases he

end Cache

/-! ## A compiler and its command table -/

/-- What making templates asks of a command table. -/
def CommandTable.host (table : CommandTable) : CompilerHost :=
  ⟨true, some table.canResolve, some table.version⟩

/-- A command table and the templates kept for it. -/
structure Workshop where
  /-- The command table. -/
  table : CommandTable
  /-- The kept templates. -/
  cache : Cache

/-- What can be asked of a compiler and its command table. -/
inductive Workshop.Order where
  /-- The template of a text under some bindings. -/
  | compile (source : String) (registry : Registry)
  /-- To forget all templates. -/
  | clear
  /-- To register a command. -/
  | register (c : Command)
  /-- To remove a command. -/
  | unregister (name : String)

namespace Workshop

/-- A command table that was changed, or is left as it was because the change failed. -/
def afterChange (w : Workshop) : Except Fault CommandTable → Workshop
  | .ok table => { w with table }
  | .error _ => w

/-- What an order does. -/
def step (settings : CompilerSettings) (w : Workshop) : Order → Workshop
  | .compile source registry =>
    { w with cache := (w.cache.compile settings w.table.host registry source).cache }
  | .clear => { w with cache := w.cache.clear }
  | .register c => w.afterChange (w.table.register c)
  | .unregister name => w.afterChange (w.table.unregister name)

/-- What a row of orders does. -/
def run (settings : CompilerSettings) (w : Workshop) (orders : List Order) : Workshop :=
  orders.foldl (step settings) w

variable {settings : CompilerSettings} {w : Workshop}

/-- The kept templates are those of the present version and older ones, and the invariant of the
cache holds for the present version. -/
structure Invariant (settings : CompilerSettings) (w : Workshop) : Prop where
  /-- No template is kept under a version that is still to come. -/
  past : ∀ e ∈ w.cache.entries, ∃ v, e.1.version = some v ∧ v ≤ w.table.version
  /-- What is kept under the present version is what would be made. -/
  holds : w.cache.Holds settings w.table.canResolve (some w.table.version)

/-- After a change of the table nothing is kept under its version. -/
theorem Invariant.afterChange (h : Invariant settings w) {change : Except Fault CommandTable}
    (hchange : ∀ table, change = .ok table → w.table.version < table.version) :
    Invariant settings (w.afterChange change) := by
  cases change with
  | error f => exact h
  | ok table =>
    have hlt := hchange table rfl
    refine ⟨fun e he => ?_, fun e he hversion => ?_⟩
    · obtain ⟨v, hv, hle⟩ := h.past e he
      exact ⟨v, hv, Nat.le_of_lt (Nat.lt_of_le_of_lt hle hlt)⟩
    · obtain ⟨v, hv, hle⟩ := h.past e he
      have heq : v = table.version := Option.some.inj (hv.symm.trans hversion)
      omega

theorem version_register {table table' : CommandTable} {c : Command}
    (h : table.register c = .ok table') : table.version < table'.version := by
  unfold CommandTable.register at h
  split at h
  · cases h
  · cases h
    exact Nat.lt_succ_self _

theorem version_unregister {table table' : CommandTable} {name : String}
    (h : table.unregister name = .ok table') : table.version < table'.version := by
  unfold CommandTable.unregister at h
  split at h
  · cases h
  · cases h
    exact Nat.lt_succ_self _

/-- Every order keeps the invariant. -/
theorem Invariant.step (h : Invariant settings w) (order : Order) :
    Invariant settings (w.step settings order) := by
  cases order with
  | compile source registry =>
    refine ⟨fun e he => ?_, h.holds.compile rfl⟩
    rcases Cache.mem_entries_compile he with he | ⟨_, -, hkey, -⟩
    · exact h.past e he
    · exact ⟨w.table.version, by rw [hkey]; rfl, Nat.le_refl _⟩
  | clear => exact ⟨nofun, nofun⟩
  | register c => exact h.afterChange fun _ hr => version_register hr
  | unregister name => exact h.afterChange fun _ hr => version_unregister hr

/-- Every row of orders keeps the invariant. -/
theorem Invariant.run (h : Invariant settings w) (orders : List Order) :
    Invariant settings (w.run settings orders) := by
  induction orders generalizing w with
  | nil => exact h
  | cons order orders ih => exact ih (h.step order)

theorem invariant_empty (settings : CompilerSettings) (table : CommandTable) :
    Invariant settings ⟨table, .empty⟩ :=
  ⟨nofun, Cache.holds_empty settings table.canResolve (some table.version)⟩

/-- **No template that is out of date is ever handed out.** After any row of orders, a request comes
to what it would come to then if nothing were kept. -/
theorem compile_eq_uncached {config : CompilerConfig} (hconfig : config.check = .ok ())
    {name : String} (hname : config.elementConstructor = .str name) (table : CommandTable)
    (orders : List Order) (source : String) (registry : Registry) :
    let w := Workshop.run config.settings ⟨table, .empty⟩ orders
    (w.cache.compile config.settings w.table.host registry source).outcome =
      (Cache.empty.compile { config.settings with caching := false } w.table.host registry
        source).outcome := by
  intro w
  have hw : Invariant config.settings w := (invariant_empty _ table).run orders
  rw [hw.holds.outcome (fun _ => config.usable hconfig hname) rfl rfl,
    (Cache.holds_empty { config.settings with caching := false } w.table.canResolve
      (some w.table.version)).outcome
      (fun hcaching => absurd hcaching Bool.false_ne_true) rfl rfl]

theorem compile_eq_uncached_builtins :
    ({} : CompilerConfig).check = .ok () ∧
      ({} : CompilerConfig).elementConstructor = .str "New-XElement" ∧
      ∀ orders source registry,
        let w := Workshop.run ({} : CompilerConfig).settings ⟨.empty true, .empty⟩ orders
        (w.cache.compile ({} : CompilerConfig).settings w.table.host registry source).outcome =
          (Cache.empty.compile { ({} : CompilerConfig).settings with caching := false } w.table.host
            registry source).outcome :=
  ⟨rfl, rfl, compile_eq_uncached rfl rfl (.empty true)⟩

end Workshop

end TagScript
