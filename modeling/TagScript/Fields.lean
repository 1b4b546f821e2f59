/-!
# Ordered fields

Lists of keys and values in which a key stands once: setting a known key keeps its place.
-/

namespace TagScript.Fields

variable {κ α : Type} [DecidableEq κ]

/-- Sets a key: a known key keeps its place, a new one goes to the end. -/
def insert (fields : List (κ × α)) (key : κ) (value : α) : List (κ × α) :=
  match fields with
  | [] => [(key, value)]
  | (k, v) :: rest => if k = key then (k, value) :: rest else (k, v) :: insert rest key value

/-- The value of a key. -/
def get? (fields : List (κ × α)) (key : κ) : Option α :=
  match fields with
  | [] => none
  | (k, v) :: rest => if k = key then some v else get? rest key

/-- Removes a key. -/
def erase (fields : List (κ × α)) (key : κ) : List (κ × α) :=
  fields.filter fun p => p.1 ≠ key

/-- The keys in order. -/
def keys (fields : List (κ × α)) : List κ :=
  fields.map (·.1)

/-- The fields of a list in which a later value of a key replaces an earlier one at its place. -/
def ofList (pairs : List (κ × α)) : List (κ × α) :=
  pairs.foldl (fun acc p => insert acc p.1 p.2) []

/-- Sets all fields of a second list. -/
def update (fields more : List (κ × α)) : List (κ × α) :=
  more.foldl (fun acc p => insert acc p.1 p.2) fields

@[simp] theorem get?_insert (fields : List (κ × α)) (key other : κ) (value : α) :
    get? (insert fields key value) other =
      if key = other then some value else get? fields other := by
  induction fields with
  | nil => simp [insert, get?]
  | cons p rest ih =>
    obtain ⟨k, v⟩ := p
    by_cases hk : k = key
    · subst hk
      by_cases ho : k = other <;> simp [insert, get?, ho]
    · by_cases ho : k = other
      · subst ho
        simp [insert, get?, hk, Ne.symm hk]
      · simp [insert, get?, hk, ho, ih]

/-- A key that has a value stands among the fields with it. -/
theorem mem_of_get? {fields : List (κ × α)} {key : κ} {value : α}
    (h : get? fields key = some value) : (key, value) ∈ fields := by
  induction fields with
  | nil => cases h
  | cons p rest ih =>
    rw [get?] at h
    split at h
    · rename_i hkey
      cases h
      exact hkey ▸ List.mem_cons_self
    · exact List.mem_cons_of_mem p (ih h)

/-- Where keys are apart, each field is found by its key. -/
theorem get?_of_mem {fields : List (κ × α)} (hkeys : (keys fields).Nodup) {field : κ × α}
    (h : field ∈ fields) : get? fields field.1 = some field.2 := by
  induction fields with
  | nil => cases h
  | cons p rest ih =>
    obtain ⟨hfirst, hrest⟩ := List.nodup_cons.mp hkeys
    rcases List.mem_cons.mp h with rfl | h
    · simp [get?]
    · have hne : p.1 ≠ field.1 := fun heq => hfirst (List.mem_map.mpr ⟨field, h, heq.symm⟩)
      rw [get?, if_neg hne]
      exact ih hrest h

/-- A key has a value if it stands among the keys. -/
theorem get?_eq_none_iff {fields : List (κ × α)} {key : κ} :
    get? fields key = none ↔ key ∉ keys fields := by
  induction fields with
  | nil => simp [get?, keys]
  | cons p rest ih =>
    by_cases hk : p.1 = key
    · simp [get?, keys, hk]
    · simp only [get?, if_neg hk, ih, keys, List.map_cons, List.mem_cons, not_or]
      exact ⟨fun h => ⟨Ne.symm hk, h⟩, And.right⟩

/-- What stands behind counts where nothing stands before. -/
theorem get?_append_or (fields more : List (κ × α)) (key : κ) :
    get? (fields ++ more) key = (get? fields key).or (get? more key) := by
  induction fields with
  | nil => rfl
  | cons p rest ih =>
    by_cases hk : p.1 = key <;> simp [get?, hk, ih]

/-- Fields added behind do not hide those before. -/
theorem get?_append {fields more : List (κ × α)} {key : κ} {value : α}
    (h : get? fields key = some value) : get? (fields ++ more) key = some value := by
  rw [get?_append_or, h]
  rfl

/-- A key that has no value before has the one behind. -/
theorem get?_append_of_none {fields : List (κ × α)} {key : κ} (h : get? fields key = none)
    (more : List (κ × α)) : get? (fields ++ more) key = get? more key := by
  rw [get?_append_or, h]
  rfl

/-- What is kept by a property of the key counts for the keys that have it. -/
theorem get?_filter (p : κ → Bool) (fields : List (κ × α)) (key : κ) :
    get? (fields.filter fun field => p field.1) key =
      if p key then get? fields key else none := by
  induction fields with
  | nil => simp [get?]
  | cons d rest ih =>
    by_cases hk : d.1 = key
    · subst hk
      by_cases hp : p d.1 <;> simp [get?, hp, ih]
    · by_cases hp : p d.1 <;> simp [get?, hp, hk, ih]

/-- A field is one of those before or the one that was set. -/
theorem mem_of_mem_insert {fields : List (κ × α)} {key : κ} {value : α} {field : κ × α}
    (h : field ∈ insert fields key value) : field ∈ fields ∨ field = (key, value) := by
  induction fields with
  | nil => exact .inr (List.mem_singleton.mp h)
  | cons first rest ih =>
    rw [insert] at h
    split at h
    · rename_i hkey
      rcases List.mem_cons.mp h with rfl | h
      · exact .inr (by rw [hkey])
      · exact .inl (List.mem_cons_of_mem first h)
    · rcases List.mem_cons.mp h with rfl | h
      · exact .inl List.mem_cons_self
      · exact (ih h).imp_left (List.mem_cons_of_mem _)

/-- The fields of a list are among the pairs that it is made from. -/
theorem mem_of_mem_ofList {pairs : List (κ × α)} {field : κ × α} (h : field ∈ ofList pairs) :
    field ∈ pairs := by
  have hfold (pairs done : List (κ × α))
      (hmem : field ∈ pairs.foldl (fun acc p => insert acc p.1 p.2) done) :
      field ∈ done ∨ field ∈ pairs := by
    induction pairs generalizing done with
    | nil => exact .inl hmem
    | cons p pairs ih =>
      rcases ih (insert done p.1 p.2) hmem with hdone | hrest
      · rcases mem_of_mem_insert hdone with hdone | rfl
        · exact .inl hdone
        · exact .inr List.mem_cons_self
      · exact .inr (List.mem_cons_of_mem p hrest)
  rcases hfold pairs [] h with hnone | hmem
  · cases hnone
  · exact hmem

/-- Setting a key keeps the keys apart. -/
theorem nodup_keys_insert {fields : List (κ × α)} (h : (keys fields).Nodup) (key : κ) (value : α) :
    (keys (insert fields key value)).Nodup := by
  induction fields with
  | nil => simp [insert, keys]
  | cons p rest ih =>
    obtain ⟨hfirst, hrest⟩ := List.nodup_cons.mp h
    rw [insert]
    split
    · exact h
    · rename_i hne
      refine List.nodup_cons.mpr ⟨fun hin => ?_, ih hrest⟩
      obtain ⟨field, hfield, hkey⟩ := List.mem_map.mp hin
      rcases mem_of_mem_insert hfield with hfield | rfl
      · exact hfirst (List.mem_map.mpr ⟨field, hfield, hkey⟩)
      · exact hne hkey.symm

/-- A new key goes to the end. -/
theorem insert_of_not_mem {fields : List (κ × α)} {key : κ} (h : key ∉ keys fields)
    (value : α) : insert fields key value = fields ++ [(key, value)] := by
  induction fields with
  | nil => rfl
  | cons p rest ih =>
    obtain ⟨hne, hrest⟩ := not_or.mp (mt List.mem_cons.mpr h)
    rw [insert, if_neg (Ne.symm hne), ih hrest, List.cons_append]

/-- Where keys are apart, a known key has one place. -/
theorem insert_of_mem {fields : List (κ × α)} {key : κ} (hkeys : (keys fields).Nodup)
    (h : key ∈ keys fields) (value : α) :
    insert fields key value = fields.map fun p => if p.1 = key then (key, value) else p := by
  induction fields with
  | nil => cases h
  | cons p rest ih =>
    obtain ⟨hfirst, hrest⟩ := List.nodup_cons.mp hkeys
    obtain ⟨k, v⟩ := p
    by_cases hk : k = key
    · subst hk
      have hsame : rest.map (fun p => if p.1 = k then (k, value) else p) = rest := by
        rw [List.map_congr_left (g := id), List.map_id]
        intro p hp
        exact if_neg fun heq => hfirst (List.mem_map.mpr ⟨p, hp, heq⟩)
      simp [insert, hsame]
    · have hmem : key ∈ keys rest := (List.mem_cons.mp h).resolve_left (Ne.symm hk)
      rw [insert, if_neg hk, ih hrest hmem, List.map_cons, if_neg hk]

/-- Setting all fields of a second list keeps the keys apart. -/
theorem nodup_keys_update {fields : List (κ × α)} (h : (keys fields).Nodup)
    (more : List (κ × α)) : (keys (update fields more)).Nodup := by
  induction more generalizing fields with
  | nil => exact h
  | cons p rest ih => exact ih (nodup_keys_insert h p.1 p.2)

/-- The keys of the fields of a list are apart. -/
theorem nodup_keys_ofList (pairs : List (κ × α)) : (keys (ofList pairs)).Nodup := by
  have hnone : (keys ([] : List (κ × α))).Nodup := List.nodup_nil
  exact nodup_keys_update hnone pairs

/-- Fields whose keys are apart count before those that they update. -/
theorem get?_update {more : List (κ × α)} (h : (keys more).Nodup) (fields : List (κ × α))
    (key : κ) : get? (update fields more) key = (get? more key).or (get? fields key) := by
  induction more generalizing fields with
  | nil => rfl
  | cons p more ih =>
    obtain ⟨hfirst, hrest⟩ := List.nodup_cons.mp h
    have hstep : update fields (p :: more) = update (insert fields p.1 p.2) more := rfl
    rw [hstep, ih hrest, get?_insert, get?]
    by_cases hkey : p.1 = key
    · have hgone : get? more key = none := get?_eq_none_iff.mpr (hkey ▸ hfirst)
      rw [if_pos hkey, if_pos hkey, hgone]
      rfl
    · rw [if_neg hkey, if_neg hkey]

end TagScript.Fields
