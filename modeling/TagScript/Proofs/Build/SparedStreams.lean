import TagScript.Proofs.Build.Asides
import TagScript.Proofs.Build.Kept

/-!
# Streams that nobody asks

Chunks are taken from streams and never put back. So a row of arguments is taken in the same way
whatever number of chunks it may take, if that is more than are left, and taking it comes to taking
the arguments one after another, with the chunks of a stream put before what stands behind it. And a
build that leaves some streams as they are does the same when fewer chunks are left of them.

* `Streams.chunks`, `Streams.Dwindles` — what is left of a stream, and that it only gets less.
* `Build.feed_of_lt` — the limit does not matter.
* **`Build.feedAll_value`**, **`Build.feedAll_stream`** — how a row of arguments is taken.
* `Streams.holding` — the streams, of which some are exchanged.
* **`Build.invoking_spares`** — all steps do the same when streams that they leave alone are
  exchanged for shorter ones.
-/

namespace TagScript

/-! ## What is left of a stream -/

namespace Streams

variable {s s₁ s₂ : Streams} {id : StreamId} {chunk : List Value}

/-- The chunks that are left of a stream. -/
def chunks (s : Streams) (id : StreamId) : List (List Value) :=
  (s.left[id]?).getD []

/-- The streams, of which one has other chunks. -/
def put (s : Streams) (id : StreamId) (rest : List (List Value)) : Streams :=
  ⟨s.left.setIfInBounds id rest⟩

theorem ext_chunks (hsize : s.left.size = s₁.left.size) (h : ∀ id, s.chunks id = s₁.chunks id) :
    s = s₁ := by
  obtain ⟨left⟩ := s
  obtain ⟨left₁⟩ := s₁
  congr 1
  refine Array.ext hsize fun i hi hi' => ?_
  have hsame := h i
  simp only [chunks, Array.getElem?_eq_getElem hi, Array.getElem?_eq_getElem hi',
    Option.getD_some] at hsame
  exact hsame

theorem size_put (rest : List (List Value)) : (s.put id rest).left.size = s.left.size := by
  simp [put]

theorem lt_size_of_chunks (h : s.chunks id ≠ []) : id < s.left.size := by
  by_cases hid : id < s.left.size
  · exact hid
  · exact absurd (by simp [chunks, Array.getElem?_eq_none (Nat.le_of_not_lt hid)]) h

theorem chunks_put {other : StreamId} (hid : id < s.left.size) (rest : List (List Value)) :
    (s.put id rest).chunks other = if other = id then rest else s.chunks other := by
  unfold chunks put
  rw [Array.getElem?_setIfInBounds]
  by_cases h : other = id
  · subst h
    simp [hid]
  · simp [h, Ne.symm h]

/-- A stream has no chunk to take if none is left. -/
theorem take?_eq_none (h : s.chunks id = []) : s.take? id = none := by
  unfold take?
  split
  · rename_i hget
    simp [chunks, hget] at h
  · rfl

/-- The first chunk that is left is taken. -/
theorem take?_eq_some {rest : List (List Value)} (h : s.chunks id = chunk :: rest) :
    s.take? id = some (chunk, s.put id rest) := by
  have hid : id < s.left.size := lt_size_of_chunks (by simp [h])
  have hget : s.left[id]? = some (chunk :: rest) := by
    simpa [chunks, Array.getElem?_eq_getElem hid] using h
  simp only [take?, hget, put]

theorem exists_of_take?_eq_some (h : s.take? id = some (chunk, s₁)) :
    ∃ rest, s.chunks id = chunk :: rest ∧ s₁ = s.put id rest := by
  cases hchunks : s.chunks id with
  | nil =>
    rw [take?_eq_none hchunks] at h
    cases h
  | cons first rest =>
    rw [take?_eq_some hchunks] at h
    cases h
    exact ⟨rest, rfl, rfl⟩

theorem chunks_of_take?_eq_none (h : s.take? id = none) : s.chunks id = [] := by
  cases hchunks : s.chunks id with
  | nil => rfl
  | cons first rest =>
    rw [take?_eq_some hchunks] at h
    cases h

/-- Whether streams are what others come to when chunks are taken from them. -/
inductive Dwindles : Streams → Streams → Prop where
  /-- Nothing is taken. -/
  | refl (s : Streams) : Dwindles s s
  /-- A chunk is taken, and then others. -/
  | taken {s s₁ s₂ : Streams} {id : StreamId} {chunk : List Value}
      (h : s.take? id = some (chunk, s₁)) (rest : Dwindles s₁ s₂) : Dwindles s s₂

namespace Dwindles

theorem trans (h : s.Dwindles s₁) (h' : s₁.Dwindles s₂) : s.Dwindles s₂ := by
  induction h with
  | refl _ => exact h'
  | taken hfirst _ ih => exact .taken hfirst (ih h')

theorem count_le (h : s.Dwindles s₁) : s₁.count ≤ s.count := by
  induction h with
  | refl _ => exact Nat.le_refl _
  | taken hfirst _ ih =>
    have := count_take? hfirst
    omega

/-- What is left of a stream is the end of what was left of it. -/
theorem suffix (h : s.Dwindles s₁) (id : StreamId) : s₁.chunks id <:+ s.chunks id := by
  induction h with
  | refl _ => exact List.suffix_refl _
  | @taken s _ _ other chunk hfirst _ ih =>
    obtain ⟨rest, hchunks, rfl⟩ := exists_of_take?_eq_some hfirst
    have hid : other < s.left.size := lt_size_of_chunks (by simp [hchunks])
    refine ih.trans ?_
    rw [chunks_put hid]
    by_cases hother : id = other
    · rw [if_pos hother, hother, hchunks]
      exact List.suffix_cons chunk rest
    · simp only [if_neg hother, List.suffix_refl]

/-- A stream that is unchanged at the end was never changed. -/
theorem between (h : s.Dwindles s₁) (h' : s₁.Dwindles s₂) (hsame : s₂.chunks id = s.chunks id) :
    s₁.chunks id = s.chunks id ∧ s₂.chunks id = s₁.chunks id := by
  have hlater := h'.suffix id
  rw [hsame] at hlater
  have heq := (h.suffix id).eq_of_length_le hlater.length_le
  exact ⟨heq, hsame.trans heq.symm⟩

end Dwindles

end Streams

namespace Build

variable {E : Engine} {env : BuildEnv} {tag : QName}

/-! ## Taking a row of arguments -/

/-- All that a step does to the streams: it takes chunks. -/
def OnlyTakes (s s' : BuildState) : Prop :=
  s.streams.Dwindles s'.streams

/-- Arguments that are no streams are taken as they are. -/
theorem feed_value {v : Value} (hplain : ∀ id, v ≠ .stream id) (limit : Nat) (parts : Parts) :
    feed E env tag limit parts v = take E env tag parts v := by
  cases v with
  | stream id => exact absurd rfl (hplain id)
  | _ => cases limit <;> rfl

/-- What two continuations do after a step is the same if it is where the step can end. -/
theorem bind_congr_of_ok {α β : Type} {m : Build α} {f g : α → Build β} {s : BuildState}
    (h : ∀ a s', m s = (.ok a, s') → f a s' = g a s') : (m >>= f) s = (m >>= g) s := by
  rw [bind_apply, bind_apply]
  split
  · rename_i a s' hrun
    exact h a s' hrun
  · rfl

theorem nextChunk_of_some {id : StreamId} {s : BuildState} {chunk : List Value}
    {streams : Streams} (h : s.streams.take? id = some (chunk, streams)) :
    nextChunk id s = (.ok (some chunk), { s with streams }) := by
  rw [nextChunk, h]

theorem nextChunk_of_none {id : StreamId} {s : BuildState} (h : s.streams.take? id = none) :
    nextChunk id s = (.ok none, s) := by
  rw [nextChunk, h]

section

variable (hfeed : ∀ limit parts v,
  Keeps OnlyTakes (feed E env tag limit parts v) (feed E env tag limit parts v))
include hfeed

theorem foldlM_feed_onlyTakes (limit : Nat) (vs : List Value) (parts : Parts) :
    Keeps OnlyTakes (vs.foldlM (feed E env tag limit) parts)
      (vs.foldlM (feed E env tag limit) parts) :=
  foldlM_related (fun _ => ⟨rfl, fun s => .refl s.streams⟩)
    (fun h hf => h.bind Streams.Dwindles.trans hf) (hfeed limit) vs parts

/-- A row of arguments is taken in the same way under two limits if each argument is. -/
theorem foldlM_feed_of_lt {limit limit' : Nat}
    (h : ∀ (parts : Parts) (v : Value) (s : BuildState), s.streams.count < limit →
      s.streams.count < limit' →
        feed E env tag limit parts v s = feed E env tag limit' parts v s)
    (vs : List Value) (parts : Parts) (s : BuildState) (hlimit : s.streams.count < limit)
    (hlimit' : s.streams.count < limit') :
    vs.foldlM (feed E env tag limit) parts s = vs.foldlM (feed E env tag limit') parts s := by
  induction vs generalizing parts s with
  | nil => rfl
  | cons v vs ih =>
    rw [List.foldlM_cons, List.foldlM_cons, bind_apply, bind_apply, ← h parts v s hlimit hlimit']
    have hless := ((hfeed limit parts v).2 s).count_le
    split
    · rename_i parts' s' hrun
      rw [hrun] at hless
      exact ih parts' s' (Nat.lt_of_le_of_lt hless hlimit) (Nat.lt_of_le_of_lt hless hlimit')
    · rfl

/-- **How many chunks may be taken does not matter**, if it is more than are left. -/
theorem feed_of_lt (limit limit' : Nat) (parts : Parts) (v : Value) (s : BuildState)
    (hlimit : s.streams.count < limit) (hlimit' : s.streams.count < limit') :
    feed E env tag limit parts v s = feed E env tag limit' parts v s := by
  induction limit generalizing limit' parts v s with
  | zero => exact absurd hlimit (Nat.not_lt_zero _)
  | succ limit ih =>
    by_cases hplain : ∀ id, v ≠ .stream id
    · rw [feed_value hplain, feed_value hplain]
    · obtain ⟨id, hv⟩ := Classical.not_forall.mp hplain
      obtain rfl := Classical.not_not.mp hv
      obtain ⟨limit', rfl⟩ : ∃ n, limit' = n + 1 := ⟨limit' - 1, by omega⟩
      rw [feed, feed]
      cases htake : s.streams.take? id with
      | none =>
        rw [bind_of_ok (nextChunk_of_none htake), bind_of_ok (nextChunk_of_none htake)]
      | some taken =>
        obtain ⟨chunk, streams⟩ := taken
        have hcount := Streams.count_take? htake
        rw [bind_of_ok (nextChunk_of_some htake), bind_of_ok (nextChunk_of_some htake)]
        dsimp only
        -- one chunk fewer is left for the arguments of this chunk and for the chunks behind it
        have hrow := foldlM_feed_of_lt hfeed (fun parts v s => ih limit' parts v s) chunk parts
          { s with streams } (show streams.count < limit by omega)
          (show streams.count < limit' by omega)
        rw [bind_apply, bind_apply, ← hrow]
        have hless := ((foldlM_feed_onlyTakes hfeed limit chunk parts).2
          { s with streams }).count_le
        split
        · rename_i parts₁ s₁ hrun
          rw [hrun] at hless
          dsimp only at hless
          exact ih limit' parts₁ (.stream id) s₁ (by omega) (by omega)
        · rfl

/-- A row of arguments may be taken under any limit above the number of chunks that are left. -/
theorem feedAll_of_lt {limit : Nat} {s : BuildState} (hlimit : s.streams.count < limit)
    (vs : List Value) (parts : Parts) :
    feedAll E env tag vs parts s = vs.foldlM (feed E env tag limit) parts s := by
  rw [feedAll, read_bind]
  exact foldlM_feed_of_lt hfeed (fun parts v s => feed_of_lt hfeed _ _ parts v s) vs parts s
    (Nat.lt_succ_self _) hlimit

/-- **A row of arguments is taken piece by piece.** -/
theorem feedAll_append (vs ws : List Value) (parts : Parts) :
    feedAll E env tag (vs ++ ws) parts =
      feedAll E env tag vs parts >>= fun parts => feedAll E env tag ws parts := by
  funext s
  let F := feed E env tag (s.streams.count + 1)
  have hsame : (vs.foldlM F parts >>= fun parts => ws.foldlM F parts) s =
      (vs.foldlM F parts >>= fun parts => feedAll E env tag ws parts) s := by
    refine bind_congr_of_ok fun parts₁ s₁ hrun => ?_
    have hless := ((foldlM_feed_onlyTakes hfeed (s.streams.count + 1) vs parts).2 s).count_le
    rw [hrun] at hless
    exact (feedAll_of_lt hfeed (Nat.lt_succ_of_le hless) ws parts₁).symm
  calc feedAll E env tag (vs ++ ws) parts s
      = (vs.foldlM F parts >>= fun parts => ws.foldlM F parts) s := by
        rw [feedAll, read_bind, List.foldlM_append]
    _ = (vs.foldlM F parts >>= fun parts => feedAll E env tag ws parts) s := hsame
    _ = (feedAll E env tag vs parts >>= fun parts => feedAll E env tag ws parts) s := by
        rw [bind_apply, bind_apply, feedAll, read_bind]

/-- **An argument that is no stream is taken, and then what stands behind it.** -/
theorem feedAll_value {v : Value} (hplain : ∀ id, v ≠ .stream id) (vs : List Value)
    (parts : Parts) :
    feedAll E env tag (v :: vs) parts =
      take E env tag parts v >>= fun parts => feedAll E env tag vs parts := by
  funext s
  rw [feedAll, read_bind, List.foldlM_cons, feed_value hplain]
  refine bind_congr_of_ok fun parts₁ s₁ hrun => ?_
  have hless := ((hfeed 0 parts v).2 s).count_le
  rw [feed_value hplain, hrun] at hless
  exact (feedAll_of_lt hfeed (Nat.lt_succ_of_le hless) vs parts₁).symm

/-- **The arguments of the next chunk of a stream are taken before what is left of the stream**, and
those behind an empty stream come next. -/
theorem feedAll_stream (id : StreamId) (vs : List Value) (parts : Parts) :
    feedAll E env tag (.stream id :: vs) parts = nextChunk id >>= fun chunk =>
      match chunk with
      | none => feedAll E env tag vs parts
      | some chunk => feedAll E env tag (chunk ++ .stream id :: vs) parts := by
  funext s
  rw [feedAll, read_bind, List.foldlM_cons, feed]
  cases htake : s.streams.take? id with
  | none =>
    rw [bind_of_ok (nextChunk_of_none htake), bind_assoc, bind_of_ok (nextChunk_of_none htake)]
    dsimp only
    rw [pure_bind, feedAll, read_bind]
  | some taken =>
    obtain ⟨chunk, streams⟩ := taken
    have hcount := Streams.count_take? htake
    rw [bind_of_ok (nextChunk_of_some htake), bind_assoc, bind_of_ok (nextChunk_of_some htake)]
    dsimp only
    rw [feedAll_of_lt hfeed (show streams.count < s.streams.count by omega), List.foldlM_append,
      bind_assoc]
    refine bind_congr_of_ok fun parts₁ s₁ hchunk => ?_
    rw [List.foldlM_cons]
    refine bind_congr_of_ok fun parts₂ s₂ hstream => ?_
    have hless := ((foldlM_feed_onlyTakes hfeed s.streams.count chunk parts).2
      { s with streams }).count_le
    have hless' := ((hfeed s.streams.count parts₁ (.stream id)).2 s₁).count_le
    rw [hchunk] at hless
    rw [hstream] at hless'
    dsimp only at hless hless'
    exact foldlM_feed_of_lt hfeed (fun parts v s => feed_of_lt hfeed _ _ parts v s) vs parts₂ s₂
      (by omega) (by omega)

end

end Build

/-! ## Streams that are left alone -/

namespace Streams

variable {ids : List StreamId} {left left' s s' : Streams} {id : StreamId} {chunk : List Value}

/-- The streams, of which some are exchanged for those in `left`. -/
def holding (s : Streams) (ids : List StreamId) (left : Streams) : Streams :=
  ⟨s.left.mapIdx fun id chunks => if id ∈ ids then left.chunks id else chunks⟩

/-- Whether of some streams no more than the end is left. -/
def Shorter (left : Streams) (ids : List StreamId) (s : Streams) : Prop :=
  ∀ id ∈ ids, left.chunks id <:+ s.chunks id

theorem size_holding : (s.holding ids left).left.size = s.left.size := by
  simp [holding]

theorem chunks_holding (h : left.Shorter ids s) (id : StreamId) :
    (s.holding ids left).chunks id = if id ∈ ids then left.chunks id else s.chunks id := by
  unfold holding
  rw [chunks, Array.getElem?_mapIdx]
  cases hget : s.left[id]? with
  | none =>
    have hnone : s.chunks id = [] := by rw [chunks, hget]; rfl
    by_cases hid : id ∈ ids
    · have hleft := h id hid
      rw [hnone, List.suffix_nil] at hleft
      rw [if_pos hid, hleft]
      rfl
    · rw [if_neg hid, hnone]
      rfl
  | some chunks =>
    have hsome : s.chunks id = chunks := by rw [Streams.chunks, hget]; rfl
    rw [hsome]
    rfl

theorem holding_self : s.holding ids s = s := by
  refine ext_chunks size_holding fun id => ?_
  rw [chunks_holding fun _ _ => List.suffix_refl _]
  split <;> rfl

/-- The other streams are as they were, and hand over the same. -/
theorem take?_holding_of_notMem (h : left.Shorter ids s) (hid : id ∉ ids)
    (htake : s.take? id = some (chunk, s')) :
    (s.holding ids left).take? id = some (chunk, s'.holding ids left) := by
  obtain ⟨rest, hchunks, rfl⟩ := exists_of_take?_eq_some htake
  have hsize : id < s.left.size := lt_size_of_chunks (by simp [hchunks])
  have hheld : (s.holding ids left).chunks id = chunk :: rest := by
    rw [chunks_holding h, if_neg hid, hchunks]
  have hput : left.Shorter ids (s.put id rest) := by
    intro other hother
    have hne : other ≠ id := fun heq => hid (heq ▸ hother)
    rw [chunks_put hsize, if_neg hne]
    exact h other hother
  rw [take?_eq_some hheld]
  congr 2
  refine ext_chunks (by simp only [size_put, size_holding]) fun other => ?_
  rw [chunks_put (by rwa [size_holding]), chunks_holding h, chunks_holding hput, chunks_put hsize]
  by_cases hother : other = id
  · rw [if_pos hother, if_pos hother, if_neg (hother ▸ hid)]
  · rw [if_neg hother, if_neg hother]

/-- The exchanged streams hand over what is left of them. -/
theorem take?_holding_of_mem (h : left.Shorter ids s) (hid : id ∈ ids)
    (htake : left.take? id = some (chunk, left')) :
    left'.Shorter ids s ∧
      (s.holding ids left).take? id = some (chunk, s.holding ids left') := by
  obtain ⟨rest, hchunks, rfl⟩ := exists_of_take?_eq_some htake
  have hsize : id < left.left.size := lt_size_of_chunks (by simp [hchunks])
  have hheld : (s.holding ids left).chunks id = chunk :: rest := by
    rw [chunks_holding h, if_pos hid, hchunks]
  have hbound : id < (s.holding ids left).left.size := lt_size_of_chunks (by simp [hheld])
  have hput : (left.put id rest).Shorter ids s := by
    intro other hother
    rw [chunks_put hsize]
    by_cases heq : other = id
    · rw [if_pos heq, heq]
      refine List.IsSuffix.trans ?_ (h id hid)
      rw [hchunks]
      exact List.suffix_cons chunk rest
    · rw [if_neg heq]
      exact h other hother
  refine ⟨hput, ?_⟩
  rw [take?_eq_some hheld]
  congr 2
  refine ext_chunks (by simp only [size_put, size_holding]) fun other => ?_
  rw [chunks_put hbound, chunks_holding h, chunks_holding hput, chunks_put hsize]
  by_cases hother : other = id
  · rw [if_pos hother, if_pos hother, if_pos (hother ▸ hid)]
  · rw [if_neg hother, if_neg hother]

theorem take?_holding_eq_none (h : left.Shorter ids s)
    (hnone : (if id ∈ ids then left.chunks id else s.chunks id) = []) :
    (s.holding ids left).take? id = none :=
  take?_eq_none (by rw [chunks_holding h, hnone])

end Streams

/-- Exchanges some streams for those in `left`. -/
def Aside.holding (ids : List StreamId) (left : Streams) : Aside :=
  .onStreams fun s => s.holding ids left

theorem Aside.holding_self (ids : List StreamId) (s : BuildState) :
    (Aside.holding ids s.streams).on s = s :=
  congrArg (fun streams => { s with streams }) Streams.holding_self

namespace Build

variable {ids : List StreamId} {α β : Type} {m m' : Build α}

/-- Whether the streams are the same at two times. -/
def Untouched (ids : List StreamId) (s s' : BuildState) : Prop :=
  ∀ id ∈ ids, s'.streams.chunks id = s.streams.chunks id

/-- Whether a step takes chunks only, and does the same after streams that it leaves alone were
exchanged for shorter ones. As a relation between steps, so that it can be carried through all steps
of a build. -/
def Spares (ids : List StreamId) {α : Type} (m m' : Build α) : Prop :=
  Keeps OnlyTakes m m' ∧ ∀ s left, left.Shorter ids s.streams → Untouched ids s (m s).2 →
    m ((Aside.holding ids left).on s) = ((m s).1, (Aside.holding ids left).on (m s).2)

/-- Streams that are the same after two steps are the same in between. -/
theorem Untouched.between {s s₁ s₂ : BuildState} (h : Untouched ids s s₂) (hfirst : OnlyTakes s s₁)
    (hrest : OnlyTakes s₁ s₂) : Untouched ids s s₁ ∧ Untouched ids s₁ s₂ :=
  ⟨fun id hid => (hfirst.between hrest (h id hid)).1,
    fun id hid => (hfirst.between hrest (h id hid)).2⟩

/-- What is shorter than streams that nobody touched is so later. -/
theorem Untouched.shorter {s s₁ : BuildState} {left : Streams} (h : Untouched ids s s₁)
    (hleft : left.Shorter ids s.streams) : left.Shorter ids s₁.streams := by
  intro id hid
  rw [h id hid]
  exact hleft id hid

/-- A step that never looks at the streams spares them all. -/
theorem spares_of_commutes (h : ∀ t, Commutes t m m') : Spares ids m m' := by
  obtain rfl : m = m' := (h (.onStreams id)).1
  refine ⟨⟨rfl, fun s => ?_⟩, fun s left _ _ => (h _).2 s⟩
  rw [OnlyTakes, Commutes.streams_eq h]
  exact .refl _

theorem Spares.bind {f f' : α → Build β} (h : Spares ids m m')
    (hf : ∀ a, Spares ids (f a) (f' a)) : Spares ids (m >>= f) (m' >>= f') := by
  refine ⟨h.1.bind Streams.Dwindles.trans fun a => (hf a).1, fun s left hleft hsame => ?_⟩
  have hfirst := h.1.2 s
  have hrun := h.2 s left hleft
  rcases hm : m s with ⟨fault | a, s₁⟩
  · rw [bind_of_error hm] at hsame ⊢
    rw [hm] at hrun
    exact bind_of_error (hrun hsame) f
  · rw [bind_of_ok hm] at hsame ⊢
    rw [hm] at hfirst hrun
    obtain ⟨hbefore, hbehind⟩ := hsame.between hfirst ((hf a).1.2 s₁)
    rw [bind_of_ok (hrun hbefore)]
    exact (hf a).2 s₁ left (hbefore.shorter hleft) hbehind

theorem Spares.deeper (h : Spares ids m m') : Spares ids (deeper m) (deeper m') := by
  obtain ⟨⟨rfl, hm⟩, hrun⟩ := h
  refine ⟨⟨rfl, fun s => hm { s with depth := s.depth + 1 }⟩, fun s left hleft hsame => ?_⟩
  have hdown := hrun { s with depth := s.depth + 1 } left hleft hsame
  exact deeper_of_eq (s := (Aside.holding ids left).on s) hdown

theorem spares_nextChunk (id : StreamId) : Spares ids (nextChunk id) (nextChunk id) := by
  refine ⟨⟨rfl, fun s => ?_⟩, fun s left hleft hsame => ?_⟩
  · cases htake : s.streams.take? id with
    | none =>
      rw [nextChunk_of_none htake]
      exact .refl _
    | some taken =>
      rw [nextChunk_of_some htake]
      exact .taken htake (.refl _)
  · cases htake : s.streams.take? id with
    | none =>
      have hnone := Streams.chunks_of_take?_eq_none htake
      rw [nextChunk_of_none htake]
      refine nextChunk_of_none (Streams.take?_holding_eq_none hleft ?_)
      by_cases hid : id ∈ ids
      · have hempty := hleft id hid
        rw [hnone, List.suffix_nil] at hempty
        rw [if_pos hid, hempty]
      · rw [if_neg hid, hnone]
    | some taken =>
      obtain ⟨chunk, rest⟩ := taken
      rw [nextChunk_of_some htake] at hsame ⊢
      by_cases hid : id ∈ ids
      · -- a chunk would be taken from a stream that is left alone
        obtain ⟨more, hchunks, rfl⟩ := Streams.exists_of_take?_eq_some htake
        have hput := hsame id hid
        dsimp only at hput
        rw [Streams.chunks_put (Streams.lt_size_of_chunks (by simp [hchunks])), if_pos rfl,
          hchunks] at hput
        exact absurd hput.symm (List.cons_ne_self chunk more)
      · exact nextChunk_of_some (Streams.take?_holding_of_notMem hleft hid htake)

theorem spares_value (a : α) : Spares ids (pure a : Build α) (pure a) :=
  spares_of_commutes fun _ => commutes_value a

/-- A row of arguments spares streams that each argument spares: the exchanged streams have other
numbers of chunks left, but that does not matter. -/
theorem spares_feedAll {E : Engine} {env : BuildEnv} {tag : QName}
    (h : ∀ limit parts v, Spares ids (feed E env tag limit parts v) (feed E env tag limit parts v))
    (vs : List Value) (parts : Parts) :
    Spares ids (feedAll E env tag vs parts) (feedAll E env tag vs parts) := by
  have hfeed (limit : Nat) (parts : Parts) (v : Value) := (h limit parts v).1
  have hrow (limit : Nat) : Spares ids (vs.foldlM (feed E env tag limit) parts)
      (vs.foldlM (feed E env tag limit) parts) :=
    foldlM_related spares_value Spares.bind (h limit) vs parts
  refine ⟨⟨rfl, fun s => ?_⟩, fun s left hleft hsame => ?_⟩
  · rw [feedAll_of_lt hfeed (Nat.lt_succ_self _)]
    exact (hrow _).1.2 s
  · let limit := max s.streams.count (s.streams.holding ids left).count + 1
    have hlimit : s.streams.count < limit := by omega
    have hlimit' : ((Aside.holding ids left).on s).streams.count < limit :=
      show (s.streams.holding ids left).count < limit by omega
    rw [feedAll_of_lt hfeed hlimit] at hsame ⊢
    rw [feedAll_of_lt hfeed hlimit']
    exact (hrow limit).2 s left hleft hsame

theorem primitive_spares (ids : List StreamId) : Primitive (Spares ids) where
  value := spares_value
  fault f := spares_of_commutes fun _ => commutes_fault f
  bind := Spares.bind
  deeper := Spares.deeper
  read f := spares_of_commutes fun _ => commutes_read f
  record logger level message extra _ := spares_of_commutes fun _ =>
    commutes_record logger level message extra
  report d _ := spares_of_commutes fun _ => commutes_report d
  count f _ := spares_of_commutes fun _ => commutes_count f
  tryBinding pfx uri := spares_of_commutes fun _ => commutes_tryBinding pfx uri

/-- **All steps do the same after streams that they leave alone were exchanged for shorter
ones.** -/
theorem invoking_spares (ids : List StreamId) (env : BuildEnv) :
    Lockstep.Invoking env env (Spares ids) := by
  refine Lockstep.invoking ?_ fun i => spares_of_commutes fun _ => commutes_registerConstant i
  exact {
    toElementwise := (primitive_spares ids).elementwise env spares_nextChunk
      fun {E E'} tag h vs parts => by
        have heq : feed E env tag = feed E' env tag :=
          funext fun limit => funext fun parts => funext fun v => (h limit parts v).1.1
        have hall : feedAll E env tag vs parts = feedAll E' env tag vs parts := by
          unfold feedAll
          rw [heq]
        rw [← hall]
        exact spares_feedAll (fun limit parts v => heq ▸ h limit parts v) vs parts
    changeScopes := fun f => spares_of_commutes fun _ => commutes_changeScopes f
    template := fun _ => spares_of_commutes fun _ => commutes_template env _
    newScope := fun _ _ => spares_of_commutes fun _ => commutes_newScope _ _
    noteBlock := (primitive_spares ids).noteBlock env }

/-- All that taking an argument does to the streams is to take chunks. -/
theorem feed_onlyTakes (env : BuildEnv) (n : Nat) (tag : QName) (limit : Nat) (parts : Parts)
    (v : Value) : Keeps OnlyTakes (feed (engine env n) env tag limit parts v)
      (feed (engine env n) env tag limit parts v) := by
  have L := invoking_spares [] env
  exact (L.feed (L.engine n) tag limit parts v).1

end Build

end TagScript
