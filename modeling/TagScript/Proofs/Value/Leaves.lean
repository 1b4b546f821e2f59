import TagScript.Value

/-!
# What is emitted

A value is emitted into the values collected so far: lists, rows and generators are spread at every
depth, and null is left out. What is emitted are the leaves of the value, from left to right.

* `Value.isLeaf` — the values that are emitted as they are.
* `Value.emit` — a value behind the values that were collected before it.
* `Value.partAt?`, `Value.leaves` — the part at a path, and the leaves with their paths.
* `rowInduction` — a value is null, a leaf, or a row of smaller values.
* **`map_snd_leaves`**, **`mem_leaves_iff`**, **`pairwise_leaves`** — the leaves are what the value
  stands for, each of them stands at its path, and the paths ascend.
* `spreadAll_of_leaves` — leaves are emitted as they are.
-/

namespace TagScript.Value

/-- The values in a value that is spread. -/
def parts? : Value → Option (List Value)
  | .list vs | .tuple vs | .generator vs => some vs
  | _ => none

/-- Whether a value is emitted as it is: it is not null, and it is not spread. -/
def isLeaf : Value → Bool
  | .null | .list _ | .tuple _ | .generator _ => false
  | _ => true

mutual

/-- The collected values once another one is emitted. -/
def emit (output : List Value) : Value → List Value
  | .null => output
  | .list vs => emitAll output vs
  | .tuple vs => emitAll output vs
  | .generator vs => emitAll output vs
  | v => output ++ [v]

/-- The collected values once a row of values is emitted. -/
def emitAll (output : List Value) : List Value → List Value
  | [] => output
  | v :: vs => emitAll (emit output v) vs

end

/-- The part of a value at a path, which says at each depth which of the values is meant. -/
def partAt? : List Nat → Value → Option Value
  | [], v => some v
  | place :: path, v => (v.parts?.bind fun vs => vs[place]?).bind (partAt? path)

mutual

/-- The leaves of a value with their paths, from left to right. -/
def leaves : Value → List (List Nat × Value)
  | .null => []
  | .list vs => leavesFrom 0 vs
  | .tuple vs => leavesFrom 0 vs
  | .generator vs => leavesFrom 0 vs
  | v => [([], v)]

/-- The leaves of a row of values whose first has a place. -/
def leavesFrom (place : Nat) : List Value → List (List Nat × Value)
  | [] => []
  | v :: vs => (leaves v).map (fun leaf => (place :: leaf.1, leaf.2)) ++ leavesFrom (place + 1) vs

end

/-! ## The three kinds of values -/

theorem sizeOf_lt_of_parts? {v : Value} {vs : List Value} (h : v.parts? = some vs) :
    sizeOf vs < sizeOf v := by
  cases v with
  | list | tuple | generator =>
    cases h
    simp
  | _ => cases h

/-- A value is null, a leaf, or a row of values. -/
theorem rowInduction {motive : Value → Prop} (null : motive .null)
    (leaf : ∀ v : Value, v.isLeaf = true → motive v)
    (row : ∀ (v : Value) (vs : List Value), v.parts? = some vs → (∀ w ∈ vs, motive w) → motive v)
    (v : Value) : motive v := by
  induction hn : sizeOf v using Nat.strongRecOn generalizing v with
  | ind n ih =>
    subst hn
    cases hparts : v.parts? with
    | some vs =>
      refine row v vs hparts fun w hw => ih _ ?_ w rfl
      exact Nat.lt_trans (List.sizeOf_lt_of_mem hw) (sizeOf_lt_of_parts? hparts)
    | none =>
      cases v with
      | null => exact null
      | list | tuple | generator => cases hparts
      | _ => exact leaf _ rfl

theorem parts?_of_isLeaf {v : Value} (h : v.isLeaf = true) : v.parts? = none := by
  cases v with
  | list | tuple | generator => cases h
  | _ => rfl

section row

variable {v : Value} {vs : List Value}

theorem isLeaf_of_parts? (h : v.parts? = some vs) : v.isLeaf = false := by
  cases v with
  | list | tuple | generator => rfl
  | _ => cases h

theorem spread_of_parts? (h : v.parts? = some vs) : v.spread = spreadAll vs := by
  cases v with
  | list | tuple | generator =>
    cases h
    rw [spread]
  | _ => cases h

theorem leaves_of_parts? (h : v.parts? = some vs) : v.leaves = leavesFrom 0 vs := by
  cases v with
  | list | tuple | generator =>
    cases h
    rw [leaves]
  | _ => cases h

theorem emit_of_parts? (h : v.parts? = some vs) (output : List Value) :
    emit output v = emitAll output vs := by
  cases v with
  | list | tuple | generator =>
    cases h
    rw [emit]
  | _ => cases h

end row

theorem spread_of_isLeaf {v : Value} (h : v.isLeaf = true) : v.spread = [v] := by
  cases v with
  | null | list | tuple | generator => cases h
  | _ => rfl

theorem leaves_of_isLeaf {v : Value} (h : v.isLeaf = true) : v.leaves = [([], v)] := by
  cases v with
  | null | list | tuple | generator => cases h
  | _ => rfl

theorem emit_of_isLeaf {v : Value} (h : v.isLeaf = true) (output : List Value) :
    emit output v = output ++ [v] := by
  cases v with
  | null | list | tuple | generator => cases h
  | _ => rfl

/-- **Emitting a value appends what it stands for.** -/
theorem emit_eq (v : Value) (output : List Value) : emit output v = output ++ v.spread := by
  induction v using rowInduction generalizing output with
  | null => exact (List.append_nil output).symm
  | leaf v h => rw [emit_of_isLeaf h, spread_of_isLeaf h]
  | row v vs h ih =>
    rw [emit_of_parts? h, spread_of_parts? h]
    clear h
    induction vs generalizing output with
    | nil => exact (List.append_nil output).symm
    | cons w vs ihvs =>
      obtain ⟨hw, hvs⟩ := List.forall_mem_cons.mp ih
      rw [emitAll, hw, ihvs hvs, spreadAll, List.append_assoc]

/-! ## Leaves and their paths -/

theorem leavesFrom_eq_flatMap (place : Nat) (vs : List Value) :
    leavesFrom place vs = (vs.zipIdx place).flatMap fun x =>
      x.1.leaves.map fun leaf => (x.2 :: leaf.1, leaf.2) := by
  induction vs generalizing place with
  | nil => rfl
  | cons v vs ih => rw [leavesFrom, ih, List.zipIdx_cons, List.flatMap_cons]

theorem mem_of_mem_zipIdx {vs : List Value} {x : Value × Nat} {place : Nat}
    (h : x ∈ vs.zipIdx place) : x.1 ∈ vs := by
  rw [List.fst_eq_of_mem_zipIdx h]
  exact List.getElem_mem _

/-- **The leaves of a value are what it stands for.** -/
theorem map_snd_leaves (v : Value) : v.leaves.map Prod.snd = v.spread := by
  induction v using rowInduction with
  | null => rfl
  | leaf v h => rw [leaves_of_isLeaf h, spread_of_isLeaf h, List.map_singleton]
  | row v vs h ih =>
    rw [leaves_of_parts? h, spread_of_parts? h]
    clear h
    -- the place at which the row begins does not matter
    suffices hfrom : ∀ place, (leavesFrom place vs).map Prod.snd = spreadAll vs from hfrom 0
    induction vs with
    | nil => exact fun _ => rfl
    | cons w vs ihvs =>
      intro place
      obtain ⟨hw, hvs⟩ := List.forall_mem_cons.mp ih
      rw [leavesFrom, List.map_append, List.map_map, ihvs hvs, spreadAll, ← hw]
      rfl

/-- **A leaf stands at its path, and every leaf has one.** -/
theorem mem_leaves_iff {v w : Value} {path : List Nat} :
    (path, w) ∈ v.leaves ↔ v.partAt? path = some w ∧ w.isLeaf = true := by
  induction v using rowInduction generalizing path with
  | null =>
    simp only [leaves, List.not_mem_nil, false_iff, not_and]
    intro hpart
    cases path with
    | nil => cases hpart; exact Bool.false_ne_true
    | cons place path => cases hpart
  | leaf v h =>
    rw [leaves_of_isLeaf h, List.mem_singleton, Prod.mk.injEq]
    cases path with
    | nil =>
      simp only [true_and, partAt?, Option.some.injEq]
      constructor
      · rintro rfl
        exact ⟨rfl, h⟩
      · exact fun hw => hw.1.symm
    | cons place path => simp [partAt?, parts?_of_isLeaf h]
  | row v vs h ih =>
    rw [leaves_of_parts? h, leavesFrom_eq_flatMap, List.mem_flatMap]
    cases path with
    | nil =>
      simp only [List.mem_map, Prod.mk.injEq, reduceCtorEq, false_and, and_false, exists_false,
        partAt?, Option.some.injEq, false_iff, not_and]
      rintro rfl
      simp [isLeaf_of_parts? h]
    | cons place path =>
      constructor
      · rintro ⟨x, hx, hleaf⟩
        obtain ⟨leaf, hmem, heq⟩ := List.mem_map.mp hleaf
        obtain ⟨⟨rfl, rfl⟩, rfl⟩ := by simpa using heq
        have hpart := (ih x.1 (mem_of_mem_zipIdx hx)).mp hmem
        rw [partAt?, h, Option.bind_some, List.mem_zipIdx_iff_getElem?.mp hx, Option.bind_some]
        exact hpart
      · rintro ⟨hpart, hw⟩
        rw [partAt?, h, Option.bind_some] at hpart
        obtain ⟨u, hu, hpart⟩ := Option.bind_eq_some_iff.mp hpart
        have hleaf := (ih u (List.mem_of_getElem? hu)).mpr ⟨hpart, hw⟩
        exact ⟨(u, place), List.mem_zipIdx_iff_getElem?.mpr hu, List.mem_map.mpr ⟨_, hleaf, rfl⟩⟩

theorem pairwise_snd_zipIdx (vs : List Value) (place : Nat) :
    (vs.zipIdx place).Pairwise fun x y => x.2 < y.2 := by
  induction vs generalizing place with
  | nil => exact .nil
  | cons v vs ih =>
    rw [List.zipIdx_cons]
    exact .cons (fun y hy => List.le_snd_of_mem_zipIdx hy) (ih (place + 1))

/-- **The paths of the leaves ascend.** -/
theorem pairwise_leaves (v : Value) : v.leaves.Pairwise fun x y => x.1 < y.1 := by
  induction v using rowInduction with
  | null => exact .nil
  | leaf v h => rw [leaves_of_isLeaf h]; exact List.pairwise_singleton ..
  | row v vs h ih =>
    rw [leaves_of_parts? h, leavesFrom_eq_flatMap, List.pairwise_flatMap]
    constructor
    · intro x hx
      rw [List.pairwise_map]
      refine (ih x.1 (mem_of_mem_zipIdx hx)).imp fun hlt => ?_
      exact List.cons_lt_cons_iff.mpr (.inr ⟨rfl, hlt⟩)
    · refine (pairwise_snd_zipIdx vs 0).imp fun hlt leaf hleaf leaf' hleaf' => ?_
      obtain ⟨x, -, rfl⟩ := List.mem_map.mp hleaf
      obtain ⟨y, -, rfl⟩ := List.mem_map.mp hleaf'
      exact List.cons_lt_cons_iff.mpr (.inl hlt)

/-! ## Leaves are emitted as they are -/

theorem isLeaf_of_mem_spread {v w : Value} (h : w ∈ v.spread) : w.isLeaf = true := by
  rw [← map_snd_leaves] at h
  obtain ⟨⟨path, u⟩, hmem, rfl⟩ := List.mem_map.mp h
  exact (mem_leaves_iff.mp hmem).2

theorem isLeaf_of_mem_spreadAll {vs : List Value} {w : Value} (h : w ∈ spreadAll vs) :
    w.isLeaf = true :=
  isLeaf_of_mem_spread (v := .list vs) (by rwa [spread])

/-- **A row of leaves is emitted as it is.** -/
theorem spreadAll_of_leaves {vs : List Value} (h : ∀ v ∈ vs, v.isLeaf = true) :
    spreadAll vs = vs := by
  induction vs with
  | nil => rfl
  | cons v vs ih =>
    obtain ⟨hv, hvs⟩ := List.forall_mem_cons.mp h
    rw [spreadAll, spread_of_isLeaf hv, ih hvs, List.singleton_append]

end TagScript.Value
