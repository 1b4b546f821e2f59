import TagScript.Proofs.Build.CommandTables
import TagScript.Proofs.Build.ResolvedNames

/-!
# Declarations among arguments

A row of arguments can be read without building anything: which name waits at its end, and which
bindings it declares. An element that takes the row ends with the same name waiting, and attempts to
add these bindings, in this order. Content among the arguments is run on the way, and what runs adds
bindings too, but nothing ever takes a binding away.

* `Arguments.waitingAfter`, `Arguments.declarations` — the reading of a row.
* `Build.OnlyBinds` — all that a step of a build does to the bindings: it attempts to add some.
* `Taken` — what becomes of the waiting name and of the bindings while a row is taken.
* `Unrolled` — a row of arguments in which streams are replaced by what they handed over.
* `Build.Rowwise` — what can be said of every argument, and so of a row of arguments.
* **`Build.feedAll_taken`** — an element takes its arguments as the row is read.
-/

namespace TagScript

/-! ## Reading a row of arguments -/

/-- The name that an argument is. -/
def Value.head? : Value → Option Head
  | .str s => some (.word s)
  | .name q => some (.name q)
  | _ => none

/-- The binding that a name and a namespace declare, if the prefix can be used. -/
def Head.binding? (head : Head) (n : Namespace) : Option (String × String) :=
  if head.bare = "xmlns" then some ("", n.uri)
  else if Build.declaredPrefix head.bare = "" ||
      (Build.declaredPrefix head.bare).toList.contains ':' then none
  else some (Build.declaredPrefix head.bare, n.uri)

/-- The binding that a name declares with the argument behind it, by the way they are read. -/
def Reading.binding? (head : Head) : Reading → Option (String × String)
  | .declaration n => head.binding? n
  | _ => none

/-- The name that waits when a name was read with the argument behind it. -/
def Reading.waiting (v : Value) : Reading → Option Head
  | .flag => v.head?
  | _ => none

namespace Arguments

variable (marker : Option String)

/-- The name that waits after one more argument. -/
def nextWaiting (waiting : Option Head) (v : Value) : Option Head :=
  match waiting with
  | none => v.head?
  | some head =>
    match head.reading marker v with
    | .ok reading => reading.waiting v
    | .error _ => none

/-- The binding that one more argument declares with the name that waits for it. -/
def declared? (waiting : Option Head) (v : Value) : Option (String × String) :=
  match waiting with
  | none => none
  | some head =>
    match head.reading marker v with
    | .ok reading => reading.binding? head
    | .error _ => none

/-- The name that waits after a row of arguments. -/
def waitingAfter (waiting : Option Head) (row : List Value) : Option Head :=
  row.foldl (nextWaiting marker) waiting

/-- The bindings that a row of arguments declares, in order. -/
def declarations (waiting : Option Head) : List Value → List (String × String)
  | [] => []
  | v :: row =>
    (declared? marker waiting v).toList ++ declarations (nextWaiting marker waiting v) row

variable {marker}

theorem waitingAfter_append (waiting : Option Head) (row more : List Value) :
    waitingAfter marker waiting (row ++ more) =
      waitingAfter marker (waitingAfter marker waiting row) more :=
  List.foldl_append

theorem declarations_append (waiting : Option Head) (row more : List Value) :
    declarations marker waiting (row ++ more) =
      declarations marker waiting row ++
        declarations marker (waitingAfter marker waiting row) more := by
  induction row generalizing waiting with
  | nil => rfl
  | cons v row ih =>
    rw [List.cons_append, declarations, declarations, ih, List.append_assoc]
    rfl

theorem declarations_singleton (waiting : Option Head) (v : Value) :
    declarations marker waiting [v] = (declared? marker waiting v).toList :=
  List.append_nil _

theorem nextWaiting_some {head : Head} {v : Value} {reading : Reading}
    (h : head.reading marker v = .ok reading) :
    nextWaiting marker (some head) v = reading.waiting v := by
  rw [nextWaiting, h]

theorem declared?_some {head : Head} {v : Value} {reading : Reading}
    (h : head.reading marker v = .ok reading) :
    declared? marker (some head) v = reading.binding? head := by
  rw [declared?, h]

/-- Only a name can wait. -/
theorem head?_of_nextWaiting {waiting : Option Head} {v : Value} {head : Head}
    (h : nextWaiting marker waiting v = some head) : v.head? = some head := by
  unfold nextWaiting at h
  split at h
  · exact h
  · split at h
    · rename_i reading _
      cases reading with
      | flag => exact h
      | _ => cases h
    · cases h

/-- **At most one name waits, and it is the last argument.** -/
theorem exists_of_waitingAfter {row : List Value} {head : Head}
    (h : waitingAfter marker none row = some head) :
    ∃ before v, row = before ++ [v] ∧ v.head? = some head := by
  rcases List.eq_nil_or_concat row with rfl | ⟨before, v, rfl⟩
  · cases h
  · rw [List.concat_eq_append] at h ⊢
    rw [waitingAfter_append] at h
    exact ⟨before, v, rfl, head?_of_nextWaiting h⟩

end Arguments

/-! ## Rows with streams -/

/-- A row of arguments in which every stream is replaced by what it handed over. -/
inductive Unrolled : List Value → List Value → Prop where
  /-- There is nothing. -/
  | nil : Unrolled [] []
  /-- Other arguments stay as they are. -/
  | value {v : Value} {vs row : List Value} (plain : ∀ id, v ≠ .stream id)
      (rest : Unrolled vs row) : Unrolled (v :: vs) (v :: row)
  /-- A stream hands over arguments. -/
  | stream {id : StreamId} {handed vs row : List Value} (plain : ∀ v ∈ handed, ∀ id, v ≠ .stream id)
      (rest : Unrolled vs row) : Unrolled (.stream id :: vs) (handed ++ row)

namespace Unrolled

theorem append {vs ws row more : List Value} (h : Unrolled vs row) (h' : Unrolled ws more) :
    Unrolled (vs ++ ws) (row ++ more) := by
  induction h with
  | nil => exact h'
  | value plain _ ih => exact ih.value plain
  | stream plain _ ih =>
    rw [List.append_assoc]
    exact ih.stream plain

/-- No stream is left. -/
theorem plain {vs row : List Value} (h : Unrolled vs row) : ∀ v ∈ row, ∀ id, v ≠ .stream id := by
  induction h with
  | nil => nofun
  | value plain _ ih => exact List.forall_mem_cons.mpr ⟨plain, ih⟩
  | stream plain _ ih => exact List.forall_mem_append.mpr ⟨plain, ih⟩

/-- A row without streams stays as it is. -/
theorem eq_of_plain {vs row : List Value} (h : Unrolled vs row)
    (hplain : ∀ v ∈ vs, ∀ id, v ≠ .stream id) : row = vs := by
  induction h with
  | nil => rfl
  | value _ _ ih => rw [ih (List.forall_mem_cons.mp hplain).2]
  | stream _ _ _ => exact absurd rfl ((List.forall_mem_cons.mp hplain).1 _)

end Unrolled

/-! ## What is taken -/

namespace Registry

theorem afterAdds_append (r : Registry) (adds more : List (String × String)) :
    r.afterAdds (adds ++ more) = (r.afterAdds adds).afterAdds more :=
  List.foldl_append

/-- A binding that was added is what an attempt to add it comes to. -/
theorem afterAdd_of_ok {r r' : Registry} {pfx uri : String} {created : Bool}
    (h : r.add pfx uri = .ok (created, r')) : r.afterAdd (pfx, uri) = r' := by
  rw [afterAdd, h]

/-- A prefix has the URI that was added for it. -/
theorem get?_of_add_ok {r r' : Registry} {pfx uri : String} {created : Bool}
    (h : r.add pfx uri = .ok (created, r')) : r'.get? pfx = some uri := by
  unfold add at h
  split at h
  · cases h
  · cases hget : r.get? pfx with
    | none =>
      rw [hget] at h
      cases h
      rw [get?, Fields.get?_append_of_none hget]
      exact if_pos rfl
    | some known =>
      rw [hget] at h
      dsimp only at h
      split at h
      · cases h
        rename_i heq
        rw [hget, heq]
      · cases h

/-- An attempt to bind a prefix to another URI changes nothing. -/
theorem afterAdd_of_bound {r : Registry} {pfx known : String} (h : r.get? pfx = some known)
    (uri : String) : r.afterAdd (pfx, uri) = r := by
  unfold afterAdd add
  by_cases hempty : uri = ""
  · rw [if_pos hempty]
  · rw [if_neg hempty, h]
    dsimp only
    split <;> rename_i heq
    · split at heq <;> cases heq
      rfl
    · rfl

end Registry

/-- What becomes of the waiting name and of the bindings while a row of arguments is taken. -/
structure Taken (env : BuildEnv) (waiting : Option Head) (r : Registry) (row : List Value)
    (waiting' : Option Head) (r' : Registry) : Prop where
  /-- The name waits that waits after the row. -/
  waiting_eq : waiting' = Arguments.waitingAfter env.settings.contentMarker waiting row
  /-- The declared bindings were added, among those of whatever ran. -/
  adds : ∃ adds, r' = r.afterAdds adds ∧
    (Arguments.declarations env.settings.contentMarker waiting row).Sublist adds
  /-- The declared prefixes are bound: under the strict policy to their URIs. -/
  bound : ∀ b ∈ Arguments.declarations env.settings.contentMarker waiting row,
    ∃ uri, r'.get? b.1 = some uri ∧ (env.settings.strictCollisions = true → uri = b.2)

namespace Taken

variable {env : BuildEnv} {waiting waiting' waiting'' : Option Head} {r r' r'' : Registry}
  {row more : List Value}

theorem nil (waiting : Option Head) (r : Registry) : Taken env waiting r [] waiting r :=
  ⟨rfl, ⟨[], rfl, List.nil_sublist []⟩, nofun⟩

/-- Whatever runs while nothing is taken may add bindings. -/
theorem of_adds (waiting : Option Head) {adds : List (String × String)}
    (h : r' = r.afterAdds adds) : Taken env waiting r [] waiting r' :=
  ⟨rfl, ⟨adds, h, List.nil_sublist adds⟩, nofun⟩

theorem append (h : Taken env waiting r row waiting' r')
    (h' : Taken env waiting' r' more waiting'' r'') :
    Taken env waiting r (row ++ more) waiting'' r'' := by
  obtain ⟨rfl, ⟨adds, rfl, hadds⟩, hbound⟩ := h
  obtain ⟨rfl, ⟨adds', rfl, hadds'⟩, hbound'⟩ := h'
  refine ⟨(Arguments.waitingAfter_append ..).symm, ⟨adds ++ adds', ?_, ?_⟩, ?_⟩
  · exact (r.afterAdds_append adds adds').symm
  · rw [Arguments.declarations_append]
    exact hadds.append hadds'
  · rw [Arguments.declarations_append]
    refine List.forall_mem_append.mpr ⟨fun b hb => ?_, hbound'⟩
    obtain ⟨uri, hget, huri⟩ := hbound b hb
    exact ⟨uri, Registry.extends_afterAdds _ adds' _ _ hget, huri⟩

/-- One argument is taken. -/
theorem single {v : Value}
    (hwaiting : waiting' = Arguments.nextWaiting env.settings.contentMarker waiting v)
    (hadds : ∃ adds, r' = r.afterAdds adds ∧
      (Arguments.declared? env.settings.contentMarker waiting v).toList.Sublist adds)
    (hbound : ∀ b ∈ (Arguments.declared? env.settings.contentMarker waiting v).toList,
      ∃ uri, r'.get? b.1 = some uri ∧ (env.settings.strictCollisions = true → uri = b.2)) :
    Taken env waiting r [v] waiting' r' :=
  ⟨hwaiting, Arguments.declarations_singleton waiting v ▸ hadds,
    Arguments.declarations_singleton waiting v ▸ hbound⟩

/-- One argument is taken that declares nothing, and whatever it runs may add bindings. -/
theorem single_of_adds {v : Value}
    (hwaiting : waiting' = Arguments.nextWaiting env.settings.contentMarker waiting v)
    (hnone : Arguments.declared? env.settings.contentMarker waiting v = none)
    (hadds : ∃ adds, r' = r.afterAdds adds) : Taken env waiting r [v] waiting' r' := by
  obtain ⟨adds, hadds⟩ := hadds
  refine single hwaiting ⟨adds, hadds, ?_⟩ ?_
  · rw [hnone]
    exact List.nil_sublist adds
  · rw [hnone]
    nofun

end Taken

namespace Build

/-! ## What builds do to the bindings -/

/-- All that a step of a build does to the bindings: it attempts to add some. -/
def OnlyBinds (s s' : BuildState) : Prop :=
  ∃ adds, s'.registry = s.registry.afterAdds adds

theorem kept_onlyBinds : Kept OnlyBinds where
  trans := by
    rintro s s' s'' ⟨adds, hadds⟩ ⟨more, hmore⟩
    exact ⟨adds ++ more, by rw [hmore, hadds, Registry.afterAdds_append]⟩
  same hregistry _ _ := ⟨[], hregistry⟩
  bound {s pfx uri _ _} hadd := ⟨[(pfx, uri)], (Registry.afterAdd_of_ok hadd).symm⟩

/-- **Every step of a build only adds bindings.** -/
theorem documenting_onlyBinds (env : BuildEnv) :
    Lockstep.Documenting env env (Keeps OnlyBinds) :=
  (kept_onlyBinds).documenting env fun {E E'} hE i => by
    have L := kept_onlyBinds.lockstep env
    refine (L.invoking fun i => ⟨rfl, fun s => ?_⟩).invoke hE i
    rcases registerConstant_cases i s with hsame | ⟨c, hinstalled⟩
    · rw [hsame]
      exact ⟨[], rfl⟩
    · rw [hinstalled]
      exact ⟨[], rfl⟩

/-! ## The waiting name -/

variable {E : Engine} {env : BuildEnv} {tag : QName} {parts parts' : Parts} {s s' : BuildState}

theorem pending_addChildren {vs : List Value}
    (h : addChildren env tag parts vs s = (.ok parts', s')) : parts'.pending = parts.pending := by
  induction vs generalizing parts s with
  | nil =>
    cases h
    rfl
  | cons v vs ih =>
    obtain ⟨child, s₁, -, hrest⟩ := exists_of_bind_ok h
    exact (ih hrest).trans rfl

theorem pending_addContent {block : Value}
    (h : addContent E env tag parts block s = (.ok parts', s')) :
    parts'.pending = parts.pending := by
  obtain ⟨vs, s₁, -, hchildren⟩ := exists_of_bind_ok h
  exact pending_addChildren hchildren

/-- While no name is waiting, an argument that is a name waits next. -/
theorem pending_takeFirst {v : Value} (hnone : parts.pending = none)
    (h : takeFirst E env tag parts v s = (.ok parts', s')) : parts'.pending = v.head? := by
  have hother (v : Value) (h : takeFirst E env tag parts v s = (.ok parts', s'))
      (hv : takeFirst E env tag parts v = if v.isContentBlock then addContent E env tag parts v
        else do
          malformed env tag (.notAName v.shown) v.shown
          pure parts) : parts'.pending = none := by
    rw [hv] at h
    split at h
    · exact (pending_addContent h).trans hnone
    · obtain ⟨_, s₁, -, hkept⟩ := exists_of_bind_ok h
      cases hkept
      exact hnone
  cases v with
  | null =>
    cases h
    exact hnone
  | str _ | name _ =>
    cases h
    rfl
  | element _ | text _ | xml _ _ => exact (pending_addChildren h).trans hnone
  | _ => exact hother _ h rfl

/-- Adding an attribute leaves the bindings and the waiting name. -/
theorem addAttribute_spec {name : QName} {value : String}
    (h : addAttribute env tag parts name value s = (.ok parts', s')) :
    parts'.pending = parts.pending ∧ s'.registry = s.registry := by
  unfold addAttribute at h
  split at h
  · cases h
    exact ⟨rfl, rfl⟩
  · rcases hpolicy : env.settings.duplicates with _ | policy
    · rw [hpolicy] at h
      cases h
    · rw [hpolicy] at h
      cases policy with
      | reject => cases h
      | first | last =>
        obtain ⟨_, s₁, hwarn, hkept⟩ := exists_of_bind_ok h
        cases hwarn
        cases hkept
        exact ⟨rfl, rfl⟩

/-- Dropping an argument leaves the bindings. -/
theorem registry_malformed {problem : ArgumentProblem} {value : String}
    (h : malformed env tag problem value s = (.ok (), s')) : s'.registry = s.registry := by
  unfold malformed at h
  split at h
  · cases h
  · cases h
    rfl

/-! ## One argument -/

/-- Binding a prefix comes to what an attempt to bind it comes to. -/
theorem registry_bindPrefix {pfx uri : String}
    (h : bindPrefix env tag pfx uri s = (.ok (), s')) :
    s'.registry = s.registry.afterAdd (pfx, uri) ∧ ∃ known, s'.registry.get? pfx = some known ∧
      (env.settings.strictCollisions = true → known = uri) := by
  rcases bindPrefix_cases env tag pfx uri s with ⟨created, registry, hadd, hstep⟩ |
    ⟨known, s₁, hget, -, hlenient, hstep, ⟨hregistry, -, -, -⟩⟩ | ⟨fault, hstep⟩
  · obtain ⟨-, rfl⟩ := Prod.mk.inj (h.symm.trans hstep)
    exact ⟨(Registry.afterAdd_of_ok hadd).symm, uri, Registry.get?_of_add_ok hadd, fun _ => rfl⟩
  · obtain ⟨-, rfl⟩ := Prod.mk.inj (h.symm.trans hstep)
    refine ⟨?_, known, hregistry ▸ hget, fun hstrict => ?_⟩
    · rw [hregistry, Registry.afterAdd_of_bound hget]
    · rw [hstrict] at hlenient
      cases hlenient
  · rw [hstep] at h
    cases h

/-- A declaration adds its binding, unless the prefix cannot be used. -/
theorem declare_spec {head : Head} {n : Namespace}
    (h : declare env tag parts head n s = (.ok parts', s')) :
    parts'.pending = parts.pending ∧
      s'.registry = s.registry.afterAdds (head.binding? n).toList ∧
      ∀ b ∈ (head.binding? n).toList, ∃ uri, s'.registry.get? b.1 = some uri ∧
        (env.settings.strictCollisions = true → uri = b.2) := by
  unfold declare at h
  unfold Head.binding?
  split at h
  · rename_i hxmlns
    obtain ⟨_, s₁, hbound, hkept⟩ := exists_of_bind_ok h
    cases hkept
    obtain ⟨hregistry, hget⟩ := registry_bindPrefix hbound
    rw [if_pos hxmlns]
    exact ⟨rfl, hregistry, fun b hb => List.mem_singleton.mp hb ▸ hget⟩
  · rename_i hxmlns
    rw [if_neg hxmlns]
    dsimp only at h
    split at h
    · rename_i hunusable
      obtain ⟨_, s₁, hmalformed, hkept⟩ := exists_of_bind_ok h
      cases hkept
      rw [if_pos hunusable]
      exact ⟨rfl, registry_malformed hmalformed, nofun⟩
    · rename_i hunusable
      obtain ⟨parts₁, s₁, hattribute, hrest⟩ := exists_of_bind_ok h
      obtain ⟨_, s₂, hbound, hkept⟩ := exists_of_bind_ok hrest
      cases hkept
      obtain ⟨hpending, hsame⟩ := addAttribute_spec hattribute
      obtain ⟨hregistry, hget⟩ := registry_bindPrefix hbound
      rw [hsame] at hregistry
      rw [if_neg hunusable]
      exact ⟨hpending, hregistry, fun b hb => List.mem_singleton.mp hb ▸ hget⟩

/-- What a name and the argument behind it come to, by the way they are read. -/
theorem takeSecond_taken (hE : Engine.Related (Keeps OnlyBinds) E E) {head : Head} {v : Value}
    (hnone : parts.pending = none)
    (h : takeSecond E env tag parts head v s = (.ok parts', s')) :
    Taken env (some head) s.registry [v] parts'.pending s'.registry := by
  have hbinds : OnlyBinds s (takeSecond E env tag parts head v s).2 :=
    ((documenting_onlyBinds env).takeSecond hE tag parts head v).2 s
  rw [h] at hbinds
  obtain ⟨reading, s₁, hlift, hrest⟩ := exists_of_bind_ok h
  obtain ⟨hreading, rfl⟩ := Prod.mk.inj hlift
  have hwaiting := Arguments.nextWaiting_some hreading
  have hdeclared := Arguments.declared?_some hreading
  match reading, hwaiting, hdeclared, hrest with
  | .content, hwaiting, hdeclared, hrest =>
    have hpending : parts'.pending = none := (pending_addContent hrest).trans hnone
    exact .single_of_adds (hpending.trans hwaiting.symm) hdeclared hbinds
  | .declaration n, hwaiting, hdeclared, hrest =>
    obtain ⟨hpending, hregistry, hbound⟩ := declare_spec hrest
    rw [show head.binding? n = _ from hdeclared.symm] at hregistry hbound
    exact .single ((hpending.trans hnone).trans hwaiting.symm)
      ⟨_, hregistry, List.Sublist.refl _⟩ hbound
  | .flag, hwaiting, hdeclared, hrest =>
    exact .single_of_adds ((pending_takeFirst hnone hrest).trans hwaiting.symm) hdeclared hbinds
  | .attribute, hwaiting, hdeclared, hrest =>
    refine .single_of_adds (Eq.trans ?_ hwaiting.symm) hdeclared hbinds
    obtain ⟨name, s₂, -, hnamed⟩ := exists_of_bind_ok hrest
    obtain ⟨text, s₃, -, hadded⟩ := exists_of_bind_ok hnamed
    cases name with
    | some name => exact (addAttribute_spec hadded).1.trans hnone
    | none =>
      cases hadded
      exact hnone
  | .nothing, hwaiting, hdeclared, hrest =>
    refine .single_of_adds (Eq.trans ?_ hwaiting.symm) hdeclared hbinds
    obtain ⟨_, s₂, -, hkept⟩ := exists_of_bind_ok hrest
    cases hkept
    exact hnone

/-- **An element takes an argument as it is read.** -/
theorem take_taken (hE : Engine.Related (Keeps OnlyBinds) E E) {v : Value}
    (h : take E env tag parts v s = (.ok parts', s')) :
    Taken env parts.pending s.registry [v] parts'.pending s'.registry := by
  unfold take at h
  cases hpending : parts.pending with
  | none =>
    rw [hpending] at h
    have hbinds : OnlyBinds s (takeFirst E env tag parts v s).2 :=
      ((documenting_onlyBinds env).takeFirst hE tag parts v).2 s
    rw [show takeFirst E env tag parts v s = (.ok parts', s') from h] at hbinds
    exact .single_of_adds (pending_takeFirst hpending h) rfl hbinds
  | some head =>
    rw [hpending] at h
    exact takeSecond_taken hE rfl h

/-! ## Rows of arguments -/

/-- What can be said of taking a row of arguments, because it can be said of every argument and of
taking chunks in between. -/
structure Rowwise (E : Engine) (env : BuildEnv) (tag : QName)
    (T : Parts → BuildState → List Value → Parts → BuildState → Prop) : Prop where
  /-- There is nothing to take. -/
  nil : ∀ parts s, T parts s [] parts s
  /-- Two rows, one behind the other. -/
  append : ∀ {parts parts₁ parts' : Parts} {s s₁ s' : BuildState} {row more : List Value},
    T parts s row parts₁ s₁ → T parts₁ s₁ more parts' s' → T parts s (row ++ more) parts' s'
  /-- A stream is asked for its next chunk. -/
  chunk : ∀ {parts : Parts} {s s' : BuildState} {id : StreamId} {chunk : Option (List Value)},
    nextChunk id s = (.ok chunk, s') → T parts s [] parts s'
  /-- An argument is taken. -/
  take : ∀ {parts parts' : Parts} {s s' : BuildState} {v : Value}, (∀ id, v ≠ .stream id) →
    take E env tag parts v s = (.ok parts', s') → T parts s [v] parts' s'

namespace Rowwise

variable {T : Parts → BuildState → List Value → Parts → BuildState → Prop}

/-- What can be said of a row of arguments is put together from what can be said of each. -/
theorem foldlM (H : Rowwise E env tag T) {f : Parts → Value → Build Parts} {vs : List Value}
    (hf : ∀ {v : Value} {parts parts' : Parts} {s s' : BuildState}, f parts v s = (.ok parts', s') →
      ∃ row, Unrolled [v] row ∧ T parts s row parts' s')
    (h : List.foldlM f parts vs s = (.ok parts', s')) :
    ∃ row, Unrolled vs row ∧ T parts s row parts' s' := by
  induction vs generalizing parts s with
  | nil =>
    cases h
    exact ⟨[], .nil, H.nil ..⟩
  | cons v vs ih =>
    rw [List.foldlM_cons] at h
    obtain ⟨parts₁, s₁, hfirst, hrest⟩ := exists_of_bind_ok h
    obtain ⟨row, hrow, htaken⟩ := hf hfirst
    obtain ⟨more, hmore, htaken'⟩ := ih hrest
    exact ⟨row ++ more, hrow.append hmore, H.append htaken htaken'⟩

theorem feed (H : Rowwise E env tag T) {limit : Nat} {v : Value}
    (h : feed E env tag limit parts v s = (.ok parts', s')) :
    ∃ row, Unrolled [v] row ∧ T parts s row parts' s' := by
  -- the limit goes down both for the arguments of a chunk and for the chunks behind it
  induction limit generalizing parts parts' v s s' with
  | zero =>
    cases v with
    | stream id => cases h
    | _ => exact ⟨[_], .value nofun .nil, H.take nofun h⟩
  | succ limit ih =>
    cases v with
    | stream id =>
      rw [Build.feed] at h
      obtain ⟨chunk, s₁, hchunk, hrest⟩ := exists_of_bind_ok h
      cases chunk with
      | none =>
        cases hrest
        have hnothing : Unrolled [.stream id] ([] ++ []) := .stream (List.forall_mem_nil _) .nil
        exact ⟨_, hnothing, H.chunk hchunk⟩
      | some chunk =>
        obtain ⟨parts₁, s₂, hfirst, hmore⟩ := exists_of_bind_ok hrest
        obtain ⟨row, hrow, htaken⟩ := H.foldlM (fun h => ih h) hfirst
        obtain ⟨more, hunrolled, htaken'⟩ := ih hmore
        have hplain := List.forall_mem_append.mpr ⟨hrow.plain, hunrolled.plain⟩
        refine ⟨row ++ more, ?_, H.append (H.append (H.chunk hchunk) htaken) htaken'⟩
        rw [← List.append_nil (row ++ more)]
        exact .stream hplain .nil
    | _ => exact ⟨[_], .value nofun .nil, H.take nofun h⟩

/-- **What can be said of every argument can be said of the row that an element takes.** -/
theorem feedAll (H : Rowwise E env tag T) {vs : List Value}
    (h : feedAll E env tag vs parts s = (.ok parts', s')) :
    ∃ row, Unrolled vs row ∧ T parts s row parts' s' := by
  rw [Build.feedAll, read_bind] at h
  exact H.foldlM (fun h => H.feed h) h

end Rowwise

/-- Taking a chunk leaves the bindings. -/
theorem registry_nextChunk {id : StreamId} {chunk : Option (List Value)}
    (h : nextChunk id s = (.ok chunk, s')) : s'.registry = s.registry := by
  unfold nextChunk at h
  split at h <;> cases h <;> rfl

theorem rowwise_taken (hE : Engine.Related (Keeps OnlyBinds) E E) (tag : QName) :
    Rowwise E env tag fun parts s row parts' s' =>
      Taken env parts.pending s.registry row parts'.pending s'.registry where
  nil _ _ := .nil ..
  append := Taken.append
  chunk hchunk := registry_nextChunk hchunk ▸ .nil ..
  take _ h := take_taken hE h

/-- **An element takes its arguments as the row is read.** -/
theorem feedAll_taken (hE : Engine.Related (Keeps OnlyBinds) E E) {vs : List Value}
    (h : feedAll E env tag vs parts s = (.ok parts', s')) :
    ∃ row, Unrolled vs row ∧
      Taken env parts.pending s.registry row parts'.pending s'.registry :=
  (rowwise_taken hE tag).feedAll h

end Build

end TagScript
