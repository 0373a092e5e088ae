/-
  CodeStencil/Proofs/Tables/Writes.lean
  =====================================
  **The last write counts, the first one gives the place** — of all values that are inserted under a
  name, a table holds the last one (`get?_insertAll_reverse`, `get?_ofList`), and the name stands where
  it was inserted first (`keys_insertAll`, `keys_ofList`); this is all there is to know of a table
  (`ext_get?`). Where only missing names are filled it is the first value that counts, and what was
  there before stays (`get?_foldl_insertMissing`), in the place where it was
  (`entries_prefix_insertMissing`).
-/
import CodeStencil.Proofs.Lists.Distinct
import CodeStencil.Proofs.Lists.Lookup
import CodeStencil.Table

namespace CodeStencil.Table

variable {α : Type} {t u : Table α} {key : String} {value : α}

/-! ### A table is known by its names and their values -/

theorem mem_entries_iff : (key, value) ∈ t.entries ↔ t.get? key = some value :=
  (lookup_eq_some_iff_mem t.nodup).symm

theorem entries_eq_filterMap (t : Table α) :
    t.entries = t.keys.filterMap fun key => (t.get? key).map fun value => (key, value) := by
  have hself : ∀ e ∈ t.entries, (t.get? e.1).map (fun value => (e.1, value)) = some e := by
    intro e he
    rw [mem_entries_iff.1 he, Option.map_some]
  calc t.entries = t.entries.filterMap some := List.filterMap_some.symm
    _ = t.entries.filterMap fun e => (t.get? e.1).map fun value => (e.1, value) :=
        (List.filterMap_congr hself).symm
    _ = t.keys.filterMap fun key => (t.get? key).map fun value => (key, value) := by
        rw [keys, List.filterMap_map]
        rfl

theorem ext_get? (hkeys : t.keys = u.keys) (hget : ∀ key, t.get? key = u.get? key) : t = u := by
  apply Table.ext
  rw [t.entries_eq_filterMap, u.entries_eq_filterMap, hkeys, funext hget]

/-! ### Many insertions -/

@[simp] theorem get?_empty (key : String) : (empty : Table α).get? key = none := rfl

theorem insertAll_append (t : Table α) (pairs more : List (String × α)) :
    t.insertAll (pairs ++ more) = (t.insertAll pairs).insertAll more := List.foldl_append

/-- What is inserted last under a name is found first from behind. -/
theorem get?_insertAll_reverse (t : Table α) (pairs : List (String × α)) (key : String) :
    (t.insertAll pairs).get? key = (pairs.reverse.lookup key).or (t.get? key) := by
  induction pairs generalizing t with
  | nil => rfl
  | cons p rest ih =>
    obtain ⟨k, v⟩ := p
    have hmore : (t.insertAll ((k, v) :: rest)).get? key =
        (rest.reverse.lookup key).or ((t.insert k v).get? key) := ih (t.insert k v)
    rw [hmore, get?_insert, List.reverse_cons, List.lookup_append, Option.or_assoc]
    by_cases hkey : key = k
    · simp [hkey]
    · have hother : (key == k) = false := by simpa using hkey
      simp [List.lookup_cons, hother, hkey]

theorem get?_ofList (pairs : List (String × α)) (key : String) :
    (ofList pairs).get? key = pairs.reverse.lookup key := by
  rw [ofList, get?_insertAll_reverse, get?_empty, Option.or_none]

/-- A name stands where it was inserted first. -/
theorem keys_insertAll (t : Table α) (pairs : List (String × α)) :
    (t.insertAll pairs).keys = (t.keys ++ pairs.map Prod.fst).eraseDups := by
  induction pairs using List.reverseRecOn with
  | nil =>
    rw [List.map_nil, List.append_nil, eraseDups_of_nodup t.keys_nodup]
    rfl
  | append_singleton pairs p ih =>
    have hlast : t.insertAll (pairs ++ [p]) = (t.insertAll pairs).insert p.1 p.2 :=
      insertAll_append t pairs [p]
    rw [hlast, keys_insert, ih, List.map_append, List.map_singleton, ← List.append_assoc,
      eraseDups_concat]
    simp only [List.mem_eraseDups]

theorem keys_ofList (pairs : List (String × α)) :
    (ofList pairs).keys = (pairs.map Prod.fst).eraseDups := keys_insertAll empty pairs

/-! ### Missing names -/

theorem get?_insertMissing (t : Table α) (key other : String) (value : α) :
    (t.insertMissing key value).get? other =
      (t.get? other).or (if other = key then some value else none) := by
  by_cases hkey : t.contains key = true
  · obtain ⟨v, hv⟩ := Option.isSome_iff_exists.1 hkey
    rw [insertMissing, if_pos hkey]
    by_cases hother : other = key
    · simp [hother, hv]
    · simp [hother]
  · have hnone : t.get? key = none := by simpa [contains] using hkey
    rw [insertMissing, if_neg hkey, get?_insert]
    by_cases hother : other = key
    · simp [hother, hnone]
    · simp [hother]

theorem place_of_not_mem {key : String} {es : List (String × α)} (h : key ∉ es.map Prod.fst)
    (value : α) : place key value es = es ++ [(key, value)] := by
  induction es with
  | nil => rfl
  | cons e rest ih =>
    obtain ⟨k, v⟩ := e
    rw [List.map_cons, List.mem_cons, not_or] at h
    rw [place, if_neg (Ne.symm h.1), ih h.2, List.cons_append]

/-- A missing name comes behind all others. -/
theorem entries_insertMissing (t : Table α) (key : String) (value : α) :
    (t.insertMissing key value).entries =
      if t.contains key then t.entries else t.entries ++ [(key, value)] := by
  by_cases hkey : t.contains key = true
  · rw [insertMissing, if_pos hkey, if_pos hkey]
  · rw [insertMissing, if_neg hkey, if_neg hkey]
    exact place_of_not_mem (fun hmem => hkey (contains_iff_mem_keys.2 hmem)) value

theorem entries_prefix_insertMissing (t : Table α) (key : String) (value : α) :
    t.entries <+: (t.insertMissing key value).entries := by
  rw [entries_insertMissing]
  split
  · exact List.prefix_rfl
  · exact List.prefix_append t.entries _

theorem entries_prefix_foldl_insertMissing (t : Table α) (pairs : List (String × α)) :
    t.entries <+: (pairs.foldl (fun t p => t.insertMissing p.1 p.2) t).entries := by
  induction pairs generalizing t with
  | nil => exact List.prefix_rfl
  | cons p rest ih =>
    rw [List.foldl_cons]
    exact (t.entries_prefix_insertMissing p.1 p.2).trans (ih (t.insertMissing p.1 p.2))

theorem get?_foldl_insertMissing (t : Table α) (pairs : List (String × α)) (key : String) :
    (pairs.foldl (fun t p => t.insertMissing p.1 p.2) t).get? key =
      (t.get? key).or (pairs.lookup key) := by
  induction pairs generalizing t with
  | nil => simp
  | cons p rest ih =>
    obtain ⟨k, v⟩ := p
    rw [List.foldl_cons, ih, get?_insertMissing, Option.or_assoc, List.lookup_cons]
    by_cases hkey : key = k
    · simp [hkey]
    · have hother : (key == k) = false := by simpa using hkey
      simp [hother, hkey]

end CodeStencil.Table
