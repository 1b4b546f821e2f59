import TagScript.Proofs.Build.SparedStreams
import TagScript.Proofs.Build.StatementOrder

/-!
# Streamed arguments

Arguments that are handed over by streams are taken like arguments that are written out. A stream
stands for all its chunks at the first place of a row where it stands, and for nothing at the places
behind it, since it hands over every chunk only once. Whatever runs meanwhile must leave the streams
of the row alone: it would get chunks that are the row's.

* `Streams.Flattens` — a row in which streams are replaced by what they stand for.
* `Streams.exists_flattens` — there is such a row if no stream contains itself.
* `Streams.Hands` — how streams hand over their chunks while a row is taken.
* `Build.Mirrors` — whether a step that takes chunks does the same as one without them.
* **`Build.element_flattened`** — an element comes out the same from both rows.
-/

namespace TagScript

namespace Streams

/-! ## Rows without streams -/

/-- What a row of arguments comes to when every stream is replaced, recursively and in place, by all
its chunks, if it was not replaced before. `seen` are the streams that were. -/
inductive Flattens (s : Streams) :
    List StreamId → List Value → List Value → List StreamId → Prop where
  /-- There is nothing. -/
  | nil (seen : List StreamId) : Flattens s seen [] [] seen
  /-- Other arguments stay as they are. -/
  | value {v : Value} {vs row : List Value} {seen seen' : List StreamId}
      (plain : ∀ id, v ≠ .stream id) (rest : Flattens s seen vs row seen') :
      Flattens s seen (v :: vs) (v :: row) seen'
  /-- A stream that does not stand in its own chunks is replaced by them. -/
  | stream {id : StreamId} {vs inner row : List Value} {seen seen₁ seen' : List StreamId}
      (inside : Flattens s seen (s.chunks id).flatten inner seen₁) (apart : id ∉ seen₁)
      (rest : Flattens s (id :: seen₁) vs row seen') :
      Flattens s seen (.stream id :: vs) (inner ++ row) seen'
  /-- A stream that was replaced before stands for nothing. -/
  | again {id : StreamId} {vs row : List Value} {seen seen' : List StreamId} (known : id ∈ seen)
      (rest : Flattens s seen vs row seen') : Flattens s seen (.stream id :: vs) row seen'

namespace Flattens

variable {s : Streams} {seen seen' : List StreamId} {vs row : List Value}

theorem subset (h : s.Flattens seen vs row seen') : seen ⊆ seen' := by
  induction h with
  | nil _ => exact List.Subset.refl _
  | value _ _ ih => exact ih
  | stream _ _ _ ih₁ ih => exact fun id hid => ih (List.mem_cons_of_mem _ (ih₁ hid))
  | again _ _ ih => exact ih

/-- No stream is left. -/
theorem plain (h : s.Flattens seen vs row seen') : ∀ v ∈ row, ∀ id, v ≠ .stream id := by
  induction h with
  | nil _ => nofun
  | value plain _ ih => exact List.forall_mem_cons.mpr ⟨plain, ih⟩
  | stream _ _ _ ih₁ ih => exact List.forall_mem_append.mpr ⟨ih₁, ih⟩
  | again _ _ ih => exact ih

end Flattens

section

variable {s : Streams} {rank : StreamId → Nat}
  (hrank : ∀ id other, Value.stream other ∈ (s.chunks id).flatten → rank other < rank id)
include hrank

/-- Only streams below a bound are met in a row whose streams are below it. -/
theorem exists_flattens_below (bound : Nat) (vs : List Value) (seen : List StreamId)
    (hvs : ∀ id, Value.stream id ∈ vs → rank id < bound) :
    ∃ row seen', s.Flattens seen vs row seen' ∧ ∀ id ∈ seen', id ∈ seen ∨ rank id < bound := by
  induction bound using Nat.strongRecOn generalizing vs seen with
  | ind bound ihbound =>
    induction vs generalizing seen with
    | nil => exact ⟨[], seen, .nil seen, fun id hid => .inl hid⟩
    | cons v vs ih =>
      have hrest (id : StreamId) (hid : Value.stream id ∈ vs) : rank id < bound :=
        hvs id (List.mem_cons_of_mem v hid)
      by_cases hplain : ∀ id, v ≠ .stream id
      · obtain ⟨row, seen', hrow, hseen'⟩ := ih seen hrest
        exact ⟨v :: row, seen', .value hplain hrow, hseen'⟩
      · obtain ⟨id, hv⟩ := Classical.not_forall.mp hplain
        obtain rfl : v = .stream id := Classical.not_not.mp hv
        by_cases hid : id ∈ seen
        · obtain ⟨row, seen', hrow, hseen'⟩ := ih seen hrest
          exact ⟨row, seen', .again hid hrow, hseen'⟩
        · have hless := hvs id (List.mem_cons_self ..)
          obtain ⟨inner, seen₁, hinner, hseen₁⟩ :=
            ihbound (rank id) hless (s.chunks id).flatten seen (hrank id)
          have hapart : id ∉ seen₁ := by
            intro hmem
            rcases hseen₁ id hmem with hknown | hlower
            · exact hid hknown
            · exact Nat.lt_irrefl _ hlower
          obtain ⟨row, seen', hrow, hseen'⟩ := ih (id :: seen₁) hrest
          refine ⟨inner ++ row, seen', .stream hinner hapart hrow, fun other hother => ?_⟩
          rcases hseen' other hother with hmem | hlower
          · rcases List.mem_cons.mp hmem with rfl | hmem
            · exact .inr hless
            · exact (hseen₁ other hmem).imp_right fun h => Nat.lt_trans h hless
          · exact .inr hlower

/-- **Streams can be replaced if none contains itself**, as those do not where every stream ranks
above the streams in its chunks. -/
theorem exists_flattens (seen : List StreamId) (vs : List Value) :
    ∃ row seen', s.Flattens seen vs row seen' := by
  have hbound : ∃ bound, ∀ id, Value.stream id ∈ vs → rank id < bound := by
    clear hrank
    induction vs with
    | nil => exact ⟨0, nofun⟩
    | cons v vs ih =>
      obtain ⟨bound, h⟩ := ih
      cases v with
      | stream id =>
        refine ⟨max bound (rank id + 1), fun other hother => ?_⟩
        rcases List.mem_cons.mp hother with heq | hmem
        · cases heq
          omega
        · have := h other hmem
          omega
      | _ => exact ⟨bound, fun id hid => h id (by simpa using hid)⟩
  obtain ⟨bound, hbound⟩ := hbound
  obtain ⟨row, seen', hrow, -⟩ := exists_flattens_below hrank bound vs seen hbound
  exact ⟨row, seen', hrow⟩

end

/-! ## Handing over -/

/-- What a row of arguments comes to while its streams, all of them among `ids`, hand over their
chunks one by one; and what is left of the streams then. -/
inductive Hands (ids : List StreamId) : Streams → List Value → List Value → Streams → Prop where
  /-- There is nothing. -/
  | nil (s : Streams) : Hands ids s [] [] s
  /-- Other arguments stay as they are. -/
  | value {v : Value} {vs row : List Value} {s s' : Streams} (plain : ∀ id, v ≠ .stream id)
      (rest : Hands ids s vs row s') : Hands ids s (v :: vs) (v :: row) s'
  /-- A chunk stands before what is left of its stream. -/
  | chunk {id : StreamId} {chunk vs row : List Value} {s s₁ s' : Streams} (known : id ∈ ids)
      (taken : s.take? id = some (chunk, s₁))
      (rest : Hands ids s₁ (chunk ++ .stream id :: vs) row s') :
      Hands ids s (.stream id :: vs) row s'
  /-- Nothing is left of a stream. -/
  | spent {id : StreamId} {vs row : List Value} {s s' : Streams} (known : id ∈ ids)
      (empty : s.chunks id = []) (rest : Hands ids s vs row s') :
      Hands ids s (.stream id :: vs) row s'

/-- Two changes of different streams can be made in any order. -/
theorem put_comm (s : Streams) {id other : StreamId} (h : id ≠ other)
    (rest more : List (List Value)) : (s.put id rest).put other more =
      (s.put other more).put id rest :=
  congrArg Streams.mk (Array.setIfInBounds_comm rest more h)

theorem put_put (s : Streams) (id : StreamId) (rest more : List (List Value)) :
    (s.put id rest).put id more = s.put id more :=
  congrArg Streams.mk (Array.setIfInBounds_setIfInBounds rest)

theorem put_self (s : Streams) (id : StreamId) : s.put id (s.chunks id) = s := by
  refine ext_chunks (size_put _) fun other => ?_
  by_cases hid : id < s.left.size
  · rw [chunks_put hid]
    split
    · rename_i heq
      rw [heq]
    · rfl
  · simp [put, chunks, Array.setIfInBounds, hid]

theorem chunks_put_of_ne (s : Streams) {id other : StreamId} (h : other ≠ id)
    (rest : List (List Value)) : (s.put id rest).chunks other = s.chunks other := by
  unfold chunks put
  rw [Array.getElem?_setIfInBounds_ne (Ne.symm h)]

theorem chunks_put_nil (s : Streams) (id : StreamId) : (s.put id []).chunks id = [] := by
  by_cases hid : id < s.left.size
  · rw [chunks_put hid, if_pos rfl]
  · simp [chunks, put]

namespace Hands

variable {ids ids' : List StreamId} {s s' s'' : Streams} {vs ws row more : List Value}
  {id : StreamId}

theorem mono (h : Hands ids s vs row s') (hids : ids ⊆ ids') : Hands ids' s vs row s' := by
  induction h with
  | nil s => exact .nil s
  | value plain _ ih => exact .value plain ih
  | chunk known taken _ ih => exact .chunk (hids known) taken ih
  | spent known empty _ ih => exact .spent (hids known) empty ih

theorem append (h : Hands ids s vs row s') (h' : Hands ids s' ws more s'') :
    Hands ids s (vs ++ ws) (row ++ more) s'' := by
  induction h with
  | nil _ => exact h'
  | value plain _ ih => exact .value plain (ih h')
  | @chunk id chunk vs row s s₁ s' known taken _ ih =>
    refine .chunk known taken ?_
    have hrest := ih h'
    rwa [List.append_assoc, List.cons_append] at hrest
  | spent known empty _ ih => exact .spent known empty (ih h')

/-- The arguments of a row are handed over in order. -/
theorem exists_of_append {a b : List Value} (h : Hands ids s (a ++ b) row s') :
    ∃ row₁ row₂ s₁, row = row₁ ++ row₂ ∧ Hands ids s a row₁ s₁ ∧ Hands ids s₁ b row₂ s' := by
  generalize hvs : a ++ b = vs at h
  induction h generalizing a with
  | nil s =>
    obtain ⟨rfl, rfl⟩ := List.append_eq_nil_iff.mp hvs
    exact ⟨[], [], s, rfl, .nil s, .nil s⟩
  | @value v vs row s s' plain rest ih =>
    rcases List.append_eq_cons_iff.mp hvs with ⟨rfl, rfl⟩ | ⟨a', rfl, rfl⟩
    · exact ⟨[], v :: row, s, rfl, .nil s, .value plain rest⟩
    · obtain ⟨row₁, row₂, s₁, rfl, h₁, h₂⟩ := ih rfl
      exact ⟨v :: row₁, row₂, s₁, rfl, .value plain h₁, h₂⟩
  | @chunk id chunk vs row s s₁ s' known taken rest ih =>
    rcases List.append_eq_cons_iff.mp hvs with ⟨rfl, rfl⟩ | ⟨a', rfl, rfl⟩
    · exact ⟨[], row, s, rfl, .nil s, .chunk known taken rest⟩
    · obtain ⟨row₁, row₂, s₂, rfl, h₁, h₂⟩ := ih (a := chunk ++ .stream id :: a') (by simp)
      exact ⟨row₁, row₂, s₂, rfl, .chunk known taken h₁, h₂⟩
  | @spent id vs row s s' known empty rest ih =>
    rcases List.append_eq_cons_iff.mp hvs with ⟨rfl, rfl⟩ | ⟨a', rfl, rfl⟩
    · exact ⟨[], row, s, rfl, .nil s, .spent known empty rest⟩
    · obtain ⟨row₁, row₂, s₁, rfl, h₁, h₂⟩ := ih rfl
      exact ⟨row₁, row₂, s₁, rfl, .spent known empty h₁, h₂⟩

/-- No stream is lost. -/
theorem size_eq (h : Hands ids s vs row s') : s'.left.size = s.left.size := by
  induction h with
  | nil _ => rfl
  | value _ _ ih => exact ih
  | chunk _ taken _ ih =>
    obtain ⟨behind, -, rfl⟩ := exists_of_take?_eq_some taken
    rw [ih, size_put]
  | spent _ _ _ ih => exact ih

/-- What is left of a stream is the end of what was left of it. -/
theorem suffix (h : Hands ids s vs row s') (id : StreamId) : s'.chunks id <:+ s.chunks id := by
  induction h with
  | nil _ => exact List.suffix_refl _
  | value _ _ ih => exact ih
  | chunk _ taken _ ih => exact ih.trans ((Dwindles.taken taken (.refl _)).suffix id)
  | spent _ _ _ ih => exact ih

/-- A stream that no part of the row asks may have any chunks. -/
theorem put (h : Hands ids s vs row s') (hid : id ∉ ids) (rest : List (List Value)) :
    Hands ids (s.put id rest) vs row (s'.put id rest) := by
  induction h with
  | nil s => exact .nil _
  | value plain _ ih => exact .value plain ih
  | @chunk other chunk vs row s s₁ s' known taken _ ih =>
    have hne : other ≠ id := fun heq => hid (heq ▸ known)
    obtain ⟨behind, hchunks, rfl⟩ := exists_of_take?_eq_some taken
    refine .chunk known ?_ ih
    rw [put_comm s hne]
    exact take?_eq_some (by rw [chunks_put_of_ne s hne, hchunks])
  | @spent other vs row s s' known empty _ ih =>
    have hne : other ≠ id := fun heq => hid (heq ▸ known)
    exact .spent known (by rw [chunks_put_of_ne s hne, empty]) ih

/-- **A stream hands over all its chunks**, if their arguments do not ask for it. -/
theorem stream {chunks : List (List Value)} (h : Hands ids s chunks.flatten row s')
    (hid : id ∉ ids) (hsize : chunks ≠ [] → id < s.left.size) :
    Hands (id :: ids) (s.put id chunks) [.stream id] row (s'.put id []) := by
  induction chunks generalizing s row with
  | nil =>
    cases h
    exact .spent (List.mem_cons_self ..) (chunks_put_nil _ id) (.nil _)
  | cons chunk chunks ih =>
    rw [List.flatten_cons] at h
    obtain ⟨row₁, row₂, s₁, rfl, hfirst, hrest⟩ := h.exists_of_append
    have hid' : id < s.left.size := hsize (List.cons_ne_nil _ _)
    have hleft : (s.put id (chunk :: chunks)).chunks id = chunk :: chunks := by
      rw [chunks_put hid', if_pos rfl]
    have hbehind := ih hrest fun _ => hfirst.size_eq ▸ hid'
    refine .chunk (List.mem_cons_self ..) (take?_eq_some hleft) ?_
    rw [put_put]
    exact ((hfirst.put hid chunks).mono (List.subset_cons_self ..)).append hbehind

end Hands

/-- **Streams hand over what they are replaced by.** They do so from any streams that have the same
chunks for those that are replaced, and none for those that were replaced before. -/
theorem Flattens.hands {s x : Streams} {seen seen' : List StreamId} {vs row : List Value}
    (h : s.Flattens seen vs row seen') (hseen : ∀ id ∈ seen, x.chunks id = [])
    (hfresh : ∀ id ∈ seen', id ∉ seen → x.chunks id = s.chunks id) :
    ∃ x', Hands seen' x vs row x' ∧ (∀ id ∈ seen', x'.chunks id = []) ∧
      ∀ id ∉ seen', x'.chunks id = x.chunks id := by
  induction h generalizing x with
  | nil seen => exact ⟨x, .nil x, hseen, fun _ _ => rfl⟩
  | value plain _ ih =>
    obtain ⟨x', hhands, hspent, hother⟩ := ih hseen hfresh
    exact ⟨x', .value plain hhands, hspent, hother⟩
  | again known rest ih =>
    obtain ⟨x', hhands, hspent, hother⟩ := ih hseen hfresh
    exact ⟨x', .spent (rest.subset known) (hseen _ known) hhands, hspent, hother⟩
  | @stream id vs inner row seen seen₁ seen' inside apart rest ih₁ ih =>
    have hmore : seen₁ ⊆ seen' := fun other hother => rest.subset (List.mem_cons_of_mem id hother)
    have hid : id ∈ seen' := rest.subset (List.mem_cons_self ..)
    have hall : x.chunks id = s.chunks id := hfresh id hid fun hmem => apart (inside.subset hmem)
    obtain ⟨x₁, hinner, hspent₁, hother₁⟩ :=
      ih₁ hseen fun other hother => hfresh other (hmore hother)
    have hstream : Hands seen' x [.stream id] inner (x₁.put id []) := by
      have hput := hinner.stream apart fun hne => lt_size_of_chunks (hall ▸ hne)
      rw [← hall, put_self] at hput
      exact hput.mono rest.subset
    have hchunks (other : StreamId) : (x₁.put id []).chunks other =
        if other = id then [] else x₁.chunks other := by
      by_cases heq : other = id
      · rw [if_pos heq, heq, chunks_put_nil]
      · rw [if_neg heq, chunks_put_of_ne _ heq]
    have hspent₂ : ∀ other ∈ id :: seen₁, (x₁.put id []).chunks other = [] := by
      intro other hmem
      rw [hchunks]
      by_cases heq : other = id
      · rw [if_pos heq]
      · rw [if_neg heq]
        exact hspent₁ other ((List.mem_cons.mp hmem).resolve_left heq)
    have hfresh₂ : ∀ other ∈ seen', other ∉ id :: seen₁ →
        (x₁.put id []).chunks other = s.chunks other := by
      intro other hmem hnot
      obtain ⟨hne, hnot⟩ := not_or.mp (mt List.mem_cons.mpr hnot)
      rw [hchunks, if_neg hne, hother₁ other hnot]
      exact hfresh other hmem fun h => hnot (inside.subset h)
    obtain ⟨x', hrest, hspent, hother⟩ := ih hspent₂ hfresh₂
    refine ⟨x', hstream.append hrest, hspent, fun other hnot => ?_⟩
    have hne : other ≠ id := fun heq => hnot (heq ▸ hid)
    rw [hother other hnot, hchunks, if_neg hne, hother₁ other fun h => hnot (hmore h)]

end Streams

namespace Build

/-! ## The same from both rows -/

variable {ids : List StreamId} {left left' left'' : Streams} {α β : Type} {m m' : Build α}

/-- Whether a step does the same as another one where of some streams, which the other leaves alone,
no more is left than in `left`; and leaves no more of them than in `left'`. -/
structure Mirrors (ids : List StreamId) (left left' : Streams) {α : Type} (m m' : Build α) :
    Prop where
  /-- The other step takes chunks only. -/
  takes : ∀ s, OnlyTakes s (m s).2
  /-- No more is left than was. -/
  shorter : left'.Shorter ids left
  /-- The step does the same. -/
  run : ∀ s, left.Shorter ids s.streams → Untouched ids s (m s).2 →
    ∃ rest, rest.Shorter ids left ∧
      m' ((Aside.holding ids left).on s) = ((m s).1, (Aside.holding ids rest).on (m s).2) ∧
      ((m s).1.toBool = true → rest = left')

theorem Spares.mirrors (h : Spares ids m m) (left : Streams) : Mirrors ids left left m m where
  takes := h.1.2
  shorter _ _ := List.suffix_refl _
  run s hleft hsame := ⟨left, fun _ _ => List.suffix_refl _, h.2 s left hleft hsame, fun _ => rfl⟩

theorem Mirrors.bind {f f' : α → Build β} (h : Mirrors ids left left' m m')
    (hf : ∀ a, Mirrors ids left' left'' (f a) (f' a)) (hshorter : left''.Shorter ids left') :
    Mirrors ids left left'' (m >>= f) (m' >>= f') where
  takes s := by
    have hfirst := h.takes s
    rcases hm : m s with ⟨fault | a, s₁⟩
    · rw [hm] at hfirst
      rwa [bind_of_error hm]
    · rw [hm] at hfirst
      rw [bind_of_ok hm]
      exact hfirst.trans ((hf a).takes s₁)
  shorter id hid := (hshorter id hid).trans (h.shorter id hid)
  run s hleft hsame := by
    have hfirst := h.takes s
    have hrun := h.run s hleft
    rcases hm : m s with ⟨fault | a, s₁⟩
    · rw [bind_of_error hm] at hsame ⊢
      rw [hm] at hrun
      obtain ⟨rest, hless, hm', -⟩ := hrun hsame
      exact ⟨rest, hless, bind_of_error hm' f', nofun⟩
    · rw [bind_of_ok hm] at hsame ⊢
      rw [hm] at hfirst hrun
      obtain ⟨hbefore, hbehind⟩ := hsame.between hfirst ((hf a).takes s₁)
      obtain ⟨rest, -, hm', hrest⟩ := hrun hbefore
      obtain rfl := hrest rfl
      have hless : rest.Shorter ids s₁.streams :=
        hbefore.shorter fun id hid => (h.shorter id hid).trans (hleft id hid)
      obtain ⟨rest', hless', hrun', hrest'⟩ := (hf a).run s₁ hless hbehind
      rw [bind_of_ok hm']
      exact ⟨rest', fun id hid => (hless' id hid).trans (h.shorter id hid), hrun', hrest'⟩

theorem Mirrors.deeper (h : Mirrors ids left left' m m') :
    Mirrors ids left left' (deeper m) (deeper m') where
  takes s := h.takes { s with depth := s.depth + 1 }
  shorter := h.shorter
  run s hleft hsame := by
    obtain ⟨rest, hless, hrun, hrest⟩ := h.run { s with depth := s.depth + 1 } hleft hsame
    exact ⟨rest, hless, deeper_of_eq (s := (Aside.holding ids left).on s) hrun, hrest⟩

section

variable {E : Engine} {env : BuildEnv} {vs row : List Value}
  (L : Lockstep.Invoking env env (Spares ids)) (hE : Engine.Related (Spares ids) E E)
include L hE

/-- A row of arguments with streams is taken like the row that the streams hand over. -/
theorem feedAll_mirrors (tag : QName) (h : left.Hands ids vs row left') (parts : Parts) :
    Mirrors ids left left' (feedAll E env tag row parts) (feedAll E env tag vs parts) := by
  have hfeed (limit : Nat) (parts : Parts) (v : Value) :
      Keeps OnlyTakes (feed E env tag limit parts v) (feed E env tag limit parts v) :=
    (L.feed hE tag limit parts v).1
  induction h generalizing parts with
  | nil s => exact (spares_value parts).mirrors s
  | @value v vs row s s' plain rest ih =>
    rw [feedAll_value hfeed plain, feedAll_value hfeed plain]
    exact ((L.take hE tag parts v).mirrors s).bind ih fun id _ => rest.suffix id
  | @chunk id chunk vs row s s₁ s' known taken rest ih =>
    have hless (other : StreamId) : s'.chunks other <:+ s.chunks other :=
      (Streams.Hands.chunk known taken rest).suffix other
    refine ⟨(ih parts).takes, fun other _ => hless other, fun t hleft hsame => ?_⟩
    obtain ⟨hleft₁, hheld⟩ := Streams.take?_holding_of_mem hleft known taken
    obtain ⟨left₁, hleft', hrun, hrest⟩ := (ih parts).run t hleft₁ hsame
    have htaken := (Streams.Dwindles.taken taken (.refl s₁)).suffix
    rw [feedAll_stream hfeed, bind_of_ok (nextChunk_of_some hheld)]
    exact ⟨left₁, fun other hother => (hleft' other hother).trans (htaken other), hrun, hrest⟩
  | @spent id vs row s s' known empty rest ih =>
    refine ⟨(ih parts).takes, (ih parts).shorter, fun t hleft hsame => ?_⟩
    have hnone : (if id ∈ ids then s.chunks id else t.streams.chunks id) = [] := by
      rw [if_pos known, empty]
    rw [feedAll_stream hfeed,
      bind_of_ok (nextChunk_of_none (Streams.take?_holding_eq_none hleft hnone))]
    exact (ih parts).run t hleft hsame

omit hE in
theorem elementWith_mirrors (tag : QName) {gather gather' : Parts → Build Parts}
    (hgather : Mirrors ids left left' (gather {}) (gather' {})) :
    Mirrors ids left left' (elementWith env tag gather) (elementWith env tag gather') := by
  have hsame : left'.Shorter ids left' := fun _ _ => List.suffix_refl _
  unfold elementWith
  refine Mirrors.bind (Mirrors.deeper ?_) (fun e => ?_) hsame
  · refine ((L.checkDepth tag).mirrors left).bind (fun _ => ?_) hgather.shorter
    refine hgather.bind (fun parts => ?_) hsame
    exact (L.bind (L.finish tag parts) fun _ => L.value _).mirrors left'
  · exact (L.bind (L.noteElement e) fun _ => L.value e).mirrors left'

theorem element_mirrors (tag : Value) (h : left.Hands ids vs row left') :
    Mirrors ids left left' (element E env tag row) (element E env tag vs) :=
  ((L.elementName tag).mirrors left).bind
    (fun name => elementWith_mirrors L name (feedAll_mirrors L hE name h {}))
    fun id _ => h.suffix id

end

/-- **Streamed arguments come out like written ones**: an element is built from a row with streams
as from the row in which every stream is replaced by all its chunks, if what runs meanwhile leaves
these streams alone. It has the same outcome and leaves the same state behind, but for what is left
of the streams: nothing, if it comes to an element. -/
theorem element_flattened {n : Nat} {env : BuildEnv} {tag : Value} {args row : List Value}
    {s : BuildState} {ids : List StreamId} (hflat : s.streams.Flattens [] args row ids)
    (hspared : Untouched ids s (element (engine env n) env tag row s).2) :
    ∃ streams, element (engine env n) env tag args s =
        ((element (engine env n) env tag row s).1,
          { (element (engine env n) env tag row s).2 with streams }) ∧
      (∀ id ∉ ids,
        streams.chunks id = (element (engine env n) env tag row s).2.streams.chunks id) ∧
      ((element (engine env n) env tag row s).1.toBool = true →
        ∀ id ∈ ids, streams.chunks id = []) := by
  obtain ⟨left, hhands, hspent, -⟩ := hflat.hands nofun fun _ _ _ => rfl
  have L := invoking_spares ids env
  have hmirrors := element_mirrors L (L.engine n) tag hhands
  obtain ⟨rest, hless, hrun, hrest⟩ :=
    hmirrors.run s (fun _ _ => List.suffix_refl _) hspared
  have hshorter := hspared.shorter hless
  rw [Aside.holding_self] at hrun
  refine ⟨_, hrun, fun id hid => ?_, fun hok id hid => ?_⟩
  · exact (Streams.chunks_holding hshorter id).trans (if_neg hid)
  · refine (Streams.chunks_holding hshorter id).trans ((if_pos hid).trans ?_)
    rw [hrest hok]
    exact hspent id hid

/-- A build that has just begun, with these streams. -/
def streaming (left : Array (List (List Value))) : BuildState :=
  { plainState with streams := ⟨left⟩ }

/-- A stream with an empty chunk between a value and a name, and a stream with the name of that
value before the first one and the value of that name behind it. -/
def nestedStreams : Array (List (List Value)) :=
  #[[[.str "v"], [], [.str "k"]], [[.str "n"], [.stream 0], [.int 7]]]

theorem element_flattened_nested :
    (streaming nestedStreams).streams.Flattens [] [.stream 1]
        [.str "n", .str "v", .str "k", .int 7] [1, 0] ∧
      (element (engine plainEnv 1) plainEnv (.str "a") [.stream 1] (streaming nestedStreams)).1 =
        .ok ⟨⟨"a", none⟩, [⟨⟨"n", none⟩, "v"⟩, ⟨⟨"k", none⟩, "7"⟩], []⟩ := by
  have hinner : (streaming nestedStreams).streams.Flattens [] [.str "v", .str "k"]
      [.str "v", .str "k"] [] :=
    .value (by nofun) (.value (by nofun) (.nil []))
  have hmiddle : (streaming nestedStreams).streams.Flattens [] [.str "n", .stream 0, .int 7]
      [.str "n", .str "v", .str "k", .int 7] [0] :=
    .value (by nofun) (.stream hinner (by decide) (.value (by nofun) (.nil [0])))
  have hflat : (streaming nestedStreams).streams.Flattens [] [.stream 1]
      [.str "n", .str "v", .str "k", .int 7] [1, 0] := .stream hmiddle (by decide) (.nil [1, 0])
  have hspared : Untouched [1, 0] (streaming nestedStreams) (element (engine plainEnv 1) plainEnv
      (.str "a") [.str "n", .str "v", .str "k", .int 7] (streaming nestedStreams)).2 :=
    fun _ _ => rfl
  obtain ⟨streams, hrun, -, -⟩ := element_flattened hflat hspared
  refine ⟨hflat, ?_⟩
  rw [hrun]
  rfl

end Build

/-- What an argument contains: a stream all its chunks, and any other argument itself. -/
def Streams.contents (s : Streams) : Value → List Value
  | .stream id => (s.chunks id).flatten
  | v => [v]

/-- Whether no chunk of any stream holds a stream. -/
def Streams.Shallow (s : Streams) : Prop :=
  ∀ id, ∀ v ∈ (s.chunks id).flatten, ∀ other, v ≠ .stream other

/-- A build that has just begun, with a stream of a name and a value that a variable stands for. -/
def sharedStream : BuildState :=
  { Build.streaming #[[[.str "k", .str "v"]]] with scopes := ⟨#[⟨[("s", .stream 0)], none⟩]⟩ }

theorem shallow_sharedStream : sharedStream.streams.Shallow := by
  rintro id v hv other rfl
  match id with
  | 0 => simp [sharedStream, Build.streaming, Streams.chunks] at hv
  | id + 1 => simp [sharedStream, Build.streaming, Streams.chunks] at hv

/-- **A stream does not stand for its chunks at every place**: where it stands again, they are gone.
So an element with a name and a value twice is refused, but one with a stream of them twice is
built; and content that takes a stream finds nothing in it if it stood before the content. -/
theorem Build.element_repeated_stream :
    (¬ ∀ (s : BuildState) (args : List Value), s.streams.Shallow →
      (element (engine plainEnv 3) plainEnv (.str "a") args s).1 =
        (element (engine plainEnv 3) plainEnv (.str "a") (args.flatMap s.streams.contents) s).1) ∧
    ¬ ∀ (s : BuildState) (block : ScriptBlock), s.streams.Shallow →
      (element (engine plainEnv 3) plainEnv (.str "a") [.stream 0, .block block] s).2.metrics =
        (element (engine plainEnv 3) plainEnv (.str "a")
          ([.stream 0, .block block].flatMap s.streams.contents) s).2.metrics := by
  constructor
  · intro h
    have hsame := h sharedStream [.stream 0, .stream 0] shallow_sharedStream
    have hbuilt : (element (engine plainEnv 3) plainEnv (.str "a") [.stream 0, .stream 0]
        sharedStream).1 = .ok ⟨⟨"a", none⟩, [⟨⟨"k", none⟩, "v"⟩], []⟩ := rfl
    have hrefused : (element (engine plainEnv 3) plainEnv (.str "a")
        [.str "k", .str "v", .str "k", .str "v"] sharedStream).1 =
          .error (.duplicateAttribute "a" "k") := rfl
    rw [hbuilt] at hsame
    cases hsame.trans hrefused
  · intro h
    have hsame := congrArg Metrics.attributesEmitted
      (h sharedStream ⟨"New-XElement 'b' $s", none, 1⟩ shallow_sharedStream)
    revert hsame
    decide +kernel

end TagScript
