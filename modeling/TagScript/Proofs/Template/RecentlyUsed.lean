import TagScript.Proofs.Template.Caching

/-!
# The cache keeps the templates used last

A request that comes to a template uses the key that the template is kept under. The reference is
the row of all uses since the last clearing: of it the cache keeps the latest keys, each once, as
many as the limit allows.

* `Cache.usedKeys` — the keys that requests used, the latest first.
* `Cache.recent` — the distinct ones among the latest, up to a limit.
* `Cache.KeepsRecent` — the invariant: the kept keys are the recent ones, in the order of their use.
* `Cache.KeepsRecent.step` — every request and every clearing keeps it.
* **`Cache.keeps_most_recently_used`** — after any orders the kept keys are the recent ones, a
  request finds its template exactly if its key is one of them, and a request that fails leaves
  them.
-/

namespace TagScript

/-! ## Rows of which each item counts once -/

section

variable {α : Type} [DecidableEq α]

/-- Items may be left out before or after doubles are dropped. -/
theorem eraseDups_filter (p : α → Bool) (l : List α) :
    (l.filter p).eraseDups = l.eraseDups.filter p := by
  induction hn : l.length using Nat.strongRecOn generalizing l with
  | ind n ih =>
    subst hn
    cases l with
    | nil => rfl
    | cons a l =>
      have hless : (l.filter fun b => !b == a).length < (a :: l).length :=
        Nat.lt_succ_of_le (List.length_filter_le _ l)
      have hrest := ih _ hless _ rfl
      rw [List.eraseDups_cons, List.filter_cons, List.filter_cons, ← hrest, List.filter_filter]
      cases ha : p a with
      | true =>
        simp only [if_true, List.eraseDups_cons, List.filter_filter, Bool.and_comm]
      | false =>
        simp only [Bool.false_eq_true, if_false]
        -- an item that is left out anyway is not the one that is dropped
        congr 1
        refine List.filter_congr fun b _ => ?_
        by_cases hb : b = a
        · simp [hb, ha]
        · simp [hb]

theorem nodup_eraseDups (l : List α) : l.eraseDups.Nodup := by
  induction l with
  | nil => exact List.nodup_nil
  | cons a l ih =>
    rw [List.eraseDups_cons, eraseDups_filter]
    refine List.nodup_cons.mpr ⟨fun hmem => ?_, ih.filter _⟩
    simp at hmem

/-- Of a row without doubles, an item is left out of the first ones: one more of them fits. -/
theorem take_filter_ne {l : List α} (h : l.Nodup) (a : α) (n : Nat) :
    (l.filter fun b => !b == a).take n = ((l.take (n + 1)).filter fun b => !b == a).take n := by
  induction l generalizing n with
  | nil => rfl
  | cons b l ih =>
    obtain ⟨hb, hl⟩ := List.nodup_cons.mp h
    by_cases hba : b = a
    · subst hba
      have hall : ∀ c ∈ l, (!c == b) = true := fun c hc => by
        have hne : c ≠ b := fun heq => hb (heq ▸ hc)
        simpa using hne
      simp [List.filter_eq_self.mpr hall, List.filter_eq_self.mpr fun c hc =>
        hall c (List.mem_of_mem_take hc), List.take_take]
    · cases n with
      | zero => rfl
      | succ n => simpa [hba] using ih hl n

end

/-- Whether a host has all that making templates asks for. -/
def CompilerHost.Supplied (host : CompilerHost) : Prop :=
  host.tokenizes = true ∧ host.knows.isSome = true

namespace Cache

/-! ## Orders and uses -/

/-- What can be asked of a cache. -/
inductive Order where
  /-- The template of a text under some bindings, with what the host offers then. -/
  | compile (host : CompilerHost) (registry : Registry) (source : String)
  /-- To forget all templates. -/
  | clear

/-- Whether an order is a request for a template. -/
def Order.isRequest : Order → Bool
  | .compile .. => true
  | .clear => false

/-- Whether the host of an order has all that the order asks for. -/
def Order.Supplied : Order → Prop
  | .compile host _ _ => host.Supplied
  | .clear => True

section

variable (settings : CompilerSettings)

/-- The key of a request. -/
def keyOf (host : CompilerHost) (registry : Registry) (source : String) : TemplateKey :=
  ⟨source, registry.sorted, settings.constructor.word, host.version⟩

/-- What an order does. -/
def step (c : Cache) : Order → Cache
  | .compile host registry source => (c.compile settings host registry source).cache
  | .clear => c.clear

/-- What a row of orders does. -/
def run (c : Cache) (orders : List Order) : Cache :=
  orders.foldl (step settings) c

/-- The keys that were used when an order is done: a request that comes to a template uses its key,
and a clearing makes all uses forgotten. -/
def usedBy (c : Cache) (used : List TemplateKey) : Order → List TemplateKey
  | .compile host registry source =>
    if (c.compile settings host registry source).outcome.isOk then
      keyOf settings host registry source :: used
    else used
  | .clear => []

/-- The keys that a row of orders has used since its last clearing, the latest first. -/
def usedKeys (c : Cache) (used : List TemplateKey) : List Order → List TemplateKey
  | [] => used
  | order :: orders => usedKeys (c.step settings order) (c.usedBy settings used order) orders

end

/-- The keys used last, at most so many, each once and the latest first. -/
def recent (limit : Nat) (used : List TemplateKey) : List TemplateKey :=
  used.eraseDups.take limit

theorem length_recent_le (limit : Nat) (used : List TemplateKey) :
    (recent limit used).length ≤ limit := by
  rw [recent, List.length_take]
  exact Nat.min_le_left ..

/-- **A use moves its key to the front**, and the last key goes if there are too many. -/
theorem recent_cons (limit : Nat) (key : TemplateKey) (used : List TemplateKey) :
    recent limit (key :: used) =
      (key :: (recent limit used).filter fun k => !k == key).take limit := by
  cases limit with
  | zero => rfl
  | succ n =>
    rw [recent, recent, List.eraseDups_cons, eraseDups_filter, List.take_succ_cons,
      List.take_succ_cons, take_filter_ne (nodup_eraseDups used)]

/-- A key that is among the recent ones moves only. -/
theorem recent_cons_of_mem {limit : Nat} {key : TemplateKey} {used : List TemplateKey}
    (h : key ∈ recent limit used) :
    recent limit (key :: used) = key :: (recent limit used).filter fun k => !k == key := by
  have hless : ((recent limit used).filter fun k => !k == key).length <
      (recent limit used).length := by
    refine Nat.lt_of_le_of_ne (List.length_filter_le _ _) fun heq => ?_
    have hall := List.length_filter_eq_length_iff.mp heq key h
    simp at hall
  have hle := length_recent_le limit used
  rw [recent_cons, List.take_of_length_le]
  rw [List.length_cons]
  omega

/-- A key that is not among the recent ones is put before them. -/
theorem recent_cons_of_not_mem {limit : Nat} {key : TemplateKey} {used : List TemplateKey}
    (h : key ∉ recent limit used) :
    recent limit (key :: used) = (key :: recent limit used).take limit := by
  have hall : ∀ k ∈ recent limit used, (!k == key) = true := fun k hk => by
    have hne : k ≠ key := fun heq => h (heq ▸ hk)
    simpa using hne
  rw [recent_cons, List.filter_eq_self.mpr hall]

/-! ## What is kept -/

variable {settings : CompilerSettings} {limit : Nat} {used : List TemplateKey} {c : Cache}

/-- **The invariant of the cache.** The kept keys are the recent ones, the one used last at the
end. -/
def KeepsRecent (limit : Nat) (used : List TemplateKey) (c : Cache) : Prop :=
  Fields.keys c.entries = (recent limit used).reverse

theorem KeepsRecent.mem_iff (h : KeepsRecent limit used c) {key : TemplateKey} :
    key ∈ Fields.keys c.entries ↔ key ∈ recent limit used := by
  rw [h, List.mem_reverse]

/-- After a clearing nothing is kept, and nothing was used. -/
theorem keepsRecent_nil (limit hits misses : Nat) : KeepsRecent limit [] ⟨[], hits, misses⟩ := by
  rw [KeepsRecent, recent, List.eraseDups_nil, List.take_nil]
  rfl

/-- Entries are dropped from the front until the limit is kept to. -/
theorem trimTo_whole (limit : Nat) (entries : List (TemplateKey × Template)) :
    trimTo (.whole limit) entries = (entries.drop (entries.length - limit), .ok ()) := by
  have hexceeded (n : Nat) : (Limit.whole limit).isExceededBy n = .ok (decide (limit < n)) := by
    simp [Limit.isExceededBy]
  induction entries with
  | nil => simp [trimTo, hexceeded]
  | cons entry rest ih =>
    rw [trimTo, hexceeded]
    by_cases hless : limit < rest.length + 1
    · have hdrop : (entry :: rest).length - limit = rest.length - limit + 1 := by
        rw [List.length_cons]
        omega
      simp only [hless, decide_true, ih, hdrop, List.drop_succ_cons]
    · have hdrop : (entry :: rest).length - limit = 0 := by
        rw [List.length_cons]
        omega
      simp only [hless, decide_false, hdrop, List.drop_zero]

/-- A key that is not there yet is set at the end. -/
theorem insert_of_not_mem {entries : List (TemplateKey × Template)} {key : TemplateKey}
    (h : key ∉ Fields.keys entries) (t : Template) :
    Fields.insert entries key t = entries ++ [(key, t)] := by
  induction entries with
  | nil => rfl
  | cons entry rest ih =>
    obtain ⟨hne, hrest⟩ : key ≠ entry.1 ∧ key ∉ Fields.keys rest := by
      simpa [Fields.keys] using h
    rw [Fields.insert, if_neg (Ne.symm hne), ih hrest]
    rfl

/-- A template that is not kept yet is kept as the one used last. -/
theorem KeepsRecent.put (hcaching : settings.caching = true) (hlimit : settings.limit = .whole limit)
    (h : KeepsRecent limit used c) {key : TemplateKey} (hkey : key ∉ Fields.keys c.entries)
    (t : Template) :
    ∃ c', c.put settings key t = (c', .ok ()) ∧ KeepsRecent limit (key :: used) c' := by
  unfold Cache.put
  rw [hcaching, hlimit]
  cases limit with
  | zero => exact ⟨c, rfl, h⟩
  | succ n =>
    have hzero : limitIsZero (.whole ((n + 1 : Nat) : Int)) = false := by
      rw [limitIsZero, beq_eq_false_iff_ne]
      omega
    have hkeys : Fields.keys (c.entries ++ [(key, t)]) =
        (key :: recent (n + 1) used).reverse := by
      rw [Fields.keys, List.map_append, ← Fields.keys, h, List.reverse_cons]
      rfl
    rw [hzero]
    simp only [Bool.not_true, Bool.or_false, Bool.false_eq_true, if_false, trimTo_whole,
      insert_of_not_mem hkey]
    refine ⟨_, rfl, ?_⟩
    have hlength : (c.entries ++ [(key, t)]).length = (key :: recent (n + 1) used).length := by
      have hlength := congrArg List.length hkeys
      rwa [Fields.keys, List.length_map, List.length_reverse] at hlength
    rw [KeepsRecent, recent_cons_of_not_mem (mt h.mem_iff.mpr hkey), List.reverse_take, ← hkeys,
      ← hlength, Fields.keys, Fields.keys, List.map_drop]

section

variable (hcaching : settings.caching = true) (hfixed : settings.constructor.isFixed = true)
  (hlimit : settings.limit = .whole limit)
include hcaching hlimit

/-- A template that is made is kept as the one used last; a text of which none can be made leaves
everything as it is. -/
theorem KeepsRecent.making (h : KeepsRecent limit used c) {key : TemplateKey}
    (hkey : key ∉ Fields.keys c.entries) {knows : String → Bool} {registry : Registry}
    {r : Compilation} (hmaking : Making settings knows registry key c r) :
    (r.outcome.isOk = true → KeepsRecent limit (key :: used) r.cache) ∧
      (r.outcome.isOk = false → r.cache.entries = c.entries) := by
  cases hmaking with
  | malformed => exact ⟨fun hmade => Bool.noConfusion hmade, fun _ => rfl⟩
  | kept _ hput =>
    obtain ⟨c', hkept, hkeeps⟩ := h.put hcaching hlimit hkey _
    rw [hput] at hkept
    cases hkept
    exact ⟨fun _ => hkeeps, fun hfails => Bool.noConfusion hfails⟩
  | unkept _ hput =>
    obtain ⟨c', hkept, -⟩ := h.put hcaching hlimit hkey _
    rw [hput] at hkept
    cases hkept

/-- **What comes of a request** with some key. It finds its template exactly if its key is a recent
one, and it is counted as that. If it comes to a template, its key is the one used last, and
otherwise nothing changes. -/
structure Serves (limit : Nat) (used : List TemplateKey) (key : TemplateKey) (c : Cache)
    (r : Compilation) : Prop where
  /-- The template is found exactly if it was used recently. -/
  found_iff : r.found = true ↔ key ∈ recent limit used
  /-- A template that was found counts as such. -/
  hits : r.cache.hits = c.hits + if r.found then 1 else 0
  /-- A template that was not found counts as such. -/
  misses : r.cache.misses = c.misses + if r.found then 0 else 1
  /-- The key is the one used last. -/
  keeps : r.outcome.isOk = true → KeepsRecent limit (key :: used) r.cache
  /-- A request that fails changes neither what is kept nor its order. -/
  unchanged : r.outcome.isOk = false → r.cache.entries = c.entries

include hfixed

/-- Every request is served so. -/
theorem KeepsRecent.compile (h : KeepsRecent limit used c) {host : CompilerHost}
    (hhost : host.Supplied) (registry : Registry) (source : String) :
    Serves limit used (keyOf settings host registry source) c
      (c.compile settings host registry source) := by
  let key := keyOf settings host registry source
  have hrequest := request_compile settings host registry source c
  generalize c.compile settings host registry source = r at hrequest
  cases hrequest with
  | unread hno =>
    rw [hhost.1] at hno
    cases hno
  | unknown hnone =>
    have hknows := hhost.2
    rw [hnone] at hknows
    cases hknows
  | unfixed _ hopen =>
    rw [hfixed] at hopen
    cases hopen
  | @found t _ hget =>
    have hin : key ∈ Fields.keys c.entries :=
      List.mem_map.mpr ⟨_, Fields.mem_of_get? hget, rfl⟩
    have hrecent := h.mem_iff.mp hin
    have hkeys : Fields.keys (Fields.erase c.entries key) =
        (Fields.keys c.entries).filter fun k => !k == key := by
      rw [Fields.keys, Fields.erase, Fields.keys, List.filter_map]
      congr 1
      refine List.filter_congr fun e _ => ?_
      simp [Function.comp_apply, Bool.beq_eq_decide_eq]
    refine ⟨iff_of_true rfl hrecent, rfl, rfl, fun _ => ?_, fun hfails => Bool.noConfusion hfails⟩
    change Fields.keys (Fields.erase c.entries key ++ [(key, t)]) =
      (recent limit (key :: used)).reverse
    rw [recent_cons_of_mem hrecent, List.reverse_cons, ← List.filter_reverse, ← h, ← hkeys,
      Fields.keys, List.map_append]
    rfl
  | made _ hget hmaking =>
    have hout : key ∉ Fields.keys c.entries := Fields.get?_eq_none_iff.mp (hget hcaching)
    have hnot : key ∉ recent limit used := mt h.mem_iff.mpr hout
    obtain ⟨hhits, hmisses, hfound⟩ := hmaking.counts
    obtain ⟨hkeeps, hsame⟩ := KeepsRecent.making hcaching hlimit
      (c := { c with misses := c.misses + if settings.caching then 1 else 0 }) h hout hmaking
    rw [hcaching] at hmisses
    refine ⟨?_, ?_, ?_, hkeeps, hsame⟩
    · rw [hfound]
      exact iff_of_false Bool.false_ne_true hnot
    · rw [hhits, hfound]
      rfl
    · rw [hmisses, hfound]
      rfl

/-- **Every order keeps the invariant.** -/
theorem KeepsRecent.step (h : KeepsRecent limit used c) {order : Order} (horder : order.Supplied) :
    KeepsRecent limit (c.usedBy settings used order) (c.step settings order) := by
  cases order with
  | clear => exact keepsRecent_nil limit c.hits c.misses
  | compile host registry source =>
    have hserves := h.compile hcaching hfixed hlimit horder registry source
    rw [usedBy, Cache.step]
    cases hok : (c.compile settings host registry source).outcome.isOk with
    | true => exact hserves.keeps hok
    | false =>
      rw [KeepsRecent, hserves.unchanged hok]
      exact h

/-- Every row of orders keeps the invariant. -/
theorem KeepsRecent.run (h : KeepsRecent limit used c) {orders : List Order}
    (horders : ∀ order ∈ orders, order.Supplied) :
    KeepsRecent limit (c.usedKeys settings used orders) (c.run settings orders) := by
  induction orders generalizing c used with
  | nil => exact h
  | cons order orders ih =>
    obtain ⟨horder, horders⟩ := List.forall_mem_cons.mp horders
    exact ih (h.step hcaching hfixed hlimit horder) horders

/-- Each request is counted once, as found or as not found; a clearing leaves the counts. -/
theorem KeepsRecent.counts_run (h : KeepsRecent limit used c) {orders : List Order}
    (horders : ∀ order ∈ orders, order.Supplied) :
    (c.run settings orders).hits + (c.run settings orders).misses =
      c.hits + c.misses + orders.countP Order.isRequest := by
  induction orders generalizing c used with
  | nil => rfl
  | cons order orders ih =>
    obtain ⟨horder, horders⟩ := List.forall_mem_cons.mp horders
    have hstep : (c.step settings order).hits + (c.step settings order).misses =
        c.hits + c.misses + if order.isRequest then 1 else 0 := by
      cases order with
      | clear => rfl
      | compile host registry source =>
        have hserves := h.compile hcaching hfixed hlimit horder registry source
        rw [Cache.step, hserves.hits, hserves.misses, Order.isRequest, if_pos rfl]
        split
        · omega
        · omega
    have hrest := ih (h.step hcaching hfixed hlimit horder) horders
    rw [hstep] at hrest
    rw [List.countP_cons, Nat.add_comm (orders.countP _), ← Nat.add_assoc, ← hrest]
    rfl

/-- **The cache keeps the templates used last, and no others.** After any requests and clearings the
kept keys are the last ones that requests came to a template with since the last clearing, each once
and in the order of their last use, as many of them as the limit allows. A request finds its template
exactly if its key is one of them, and a request that fails leaves them and their order. Each request
was counted once. -/
theorem keeps_most_recently_used {orders : List Order}
    (horders : ∀ order ∈ orders, order.Supplied) :
    let c := Cache.empty.run settings orders
    let used := Cache.empty.usedKeys settings [] orders
    Fields.keys c.entries = (recent limit used).reverse ∧
      c.hits + c.misses = orders.countP Order.isRequest ∧
      ∀ (host : CompilerHost) (registry : Registry) (source : String), host.Supplied →
        ((c.compile settings host registry source).found = true ↔
          keyOf settings host registry source ∈ recent limit used) ∧
        (c.compile settings host registry source).cache.hits =
          c.hits + (if (c.compile settings host registry source).found then 1 else 0) ∧
        ((c.compile settings host registry source).outcome.isOk = false →
          (c.compile settings host registry source).cache.entries = c.entries) := by
  intro c used
  have hempty : KeepsRecent limit [] Cache.empty := keepsRecent_nil limit 0 0
  have hkeeps : KeepsRecent limit used c := hempty.run hcaching hfixed hlimit horders
  refine ⟨hkeeps, ?_, fun host registry source hhost => ?_⟩
  · rw [hempty.counts_run hcaching hfixed hlimit horders]
    exact Nat.zero_add _
  · have hserves := hkeeps.compile hcaching hfixed hlimit hhost registry source
    exact ⟨hserves.found_iff, hserves.hits, hserves.unchanged⟩

end

/-- Under a limit of two the text used before the last two is gone; a malformed one was never kept. -/
theorem keeps_most_recently_used_two :
    let settings : CompilerSettings := { ({} : CompilerConfig).settings with limit := .whole 2 }
    let host : CompilerHost := ⟨true, some fun _ => false, some 0⟩
    let orders := ["x", "a", "b", "a", "(", "c"].map (Order.compile host .empty ·)
    let c := Cache.empty.run settings orders
    let used := Cache.empty.usedKeys settings [] orders
    settings.caching = true ∧ settings.constructor.isFixed = true ∧
      (∀ order ∈ orders, order.Supplied) ∧
      used.map (·.source) = ["c", "a", "b", "a", "x"] ∧
      (Fields.keys c.entries).map (·.source) = ["a", "c"] ∧
      Fields.keys c.entries = (recent 2 used).reverse ∧
      c.hits + c.misses = orders.countP Order.isRequest := by
  intro settings host orders c used
  have horders : ∀ order ∈ orders, order.Supplied := by
    intro order horder
    obtain ⟨source, -, rfl⟩ := List.mem_map.mp horder
    exact ⟨rfl, rfl⟩
  have hkept := @keeps_most_recently_used settings 2 rfl rfl rfl orders horders
  exact ⟨rfl, rfl, horders, by decide +kernel, by decide +kernel, hkept.1, hkept.2.1⟩

end Cache

end TagScript
