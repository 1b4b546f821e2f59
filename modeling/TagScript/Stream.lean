import TagScript.Value

/-!
# Streams

A stream hands over arguments in chunks, and every chunk only once: whoever asks for the next chunk
takes it away from all others that hold the stream. All streams of a build are kept in one store,
where a stream is known by its number.
-/

namespace TagScript

/-- The chunks that are left of all streams, by their numbers. -/
structure Streams where
  /-- The chunks. -/
  left : Array (List (List Value))
  deriving Inhabited

namespace Streams

/-- No streams. -/
def empty : Streams := ⟨#[]⟩

/-- A new stream of these chunks. -/
def add (s : Streams) (chunks : List (List Value)) : StreamId × Streams :=
  (s.left.size, ⟨s.left.push chunks⟩)

/-- Takes the next chunk of a stream, if there is one. -/
def take? (s : Streams) (id : StreamId) : Option (List Value × Streams) :=
  match s.left[id]? with
  | some (chunk :: rest) => some (chunk, ⟨s.left.setIfInBounds id rest⟩)
  | _ => none

/-- The number of chunks that are left of all streams together. -/
def count (s : Streams) : Nat :=
  (s.left.toList.map List.length).foldr (· + ·) 0

/-- A new stream hands over its first chunk first. -/
theorem take?_add (s : Streams) (chunk : List Value) (rest : List (List Value)) :
    (((s.add (chunk :: rest)).2.take? (s.add (chunk :: rest)).1).map Prod.fst) = some chunk := by
  simp [add, take?]

/-- Every chunk that is taken is one fewer that is left. -/
theorem count_take? {s s' : Streams} {id : StreamId} {chunk : List Value}
    (h : s.take? id = some (chunk, s')) : s'.count + 1 = s.count := by
  unfold take? at h
  split at h
  · rename_i chunk' rest hget
    injection h with h
    injection h with _ h
    subst h
    obtain ⟨hid, hget⟩ := Array.getElem?_eq_some_iff.mp hget
    have hl : id < s.left.toList.length := by simpa using hid
    have key : ∀ (xs : List (List (List Value))) (i : Nat) (hi : i < xs.length),
        xs[i] = chunk' :: rest →
        ((xs.set i rest).map List.length).foldr (· + ·) 0 + 1 =
          (xs.map List.length).foldr (· + ·) 0 := by
      intro xs
      induction xs with
      | nil => intro i hi; simp at hi
      | cons x xs ih =>
        intro i hi hx
        cases i with
        | zero =>
          simp only [List.getElem_cons_zero] at hx
          subst hx
          simp
          omega
        | succ i =>
          simp only [List.getElem_cons_succ] at hx
          have := ih i (by simpa using hi) hx
          simp only [List.set_cons_succ, List.map_cons, List.foldr_cons]
          omega
    have := key s.left.toList id hl (by simpa using hget)
    simpa [count, Array.setIfInBounds, hid] using this
  · cases h

end Streams

end TagScript
