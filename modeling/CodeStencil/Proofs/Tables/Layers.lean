/-
  CodeStencil/Proofs/Tables/Layers.lean
  =====================================
  **Layers of tables** — a name that several tables bind has the value of the last one
  (`get?_merge`, `get?_layered`), and a name is bound by all of them together exactly if one of them
  binds it (`contains_layered_iff`). A table that extends another one has all its values, and does so
  under other layers, too (`Extends.merge`).
-/
import CodeStencil.Proofs.Tables.Writes

namespace CodeStencil.Table

variable {α β : Type} {t u : Table α} {key : String}

@[simp] theorem get?_map (f : α → β) (t : Table α) (key : String) :
    (t.map f).get? key = (t.get? key).map f := by
  have hentries : ∀ es : List (String × α),
      (mapEntries (fun _ => f) es).lookup key = (es.lookup key).map f := by
    intro es
    induction es with
    | nil => rfl
    | cons e rest ih =>
      obtain ⟨k, v⟩ := e
      rw [mapEntries, List.map_cons, List.lookup_cons, List.lookup_cons]
      cases key == k with
      | true => rfl
      | false => exact ih
  exact hentries t.entries

theorem contains_eq_isSome (t : Table α) (key : String) :
    t.contains key = (t.get? key).isSome := rfl

theorem get?_eq_none_iff : t.get? key = none ↔ t.contains key = false := by
  rw [contains_eq_isSome, Option.isSome_eq_false_iff, Option.isNone_iff_eq_none]

theorem exists_get?_iff : (∃ value, t.get? key = some value) ↔ t.contains key = true := by
  rw [contains_eq_isSome, Option.isSome_iff_exists]

/-! ### Merging -/

@[simp] theorem get?_merge (t u : Table α) (key : String) :
    (t.merge u).get? key = (u.get? key).or (t.get? key) := by
  rw [merge, get?_insertAll_reverse, lookup_reverse u.nodup]
  rfl

theorem keys_merge (t u : Table α) : (t.merge u).keys = (t.keys ++ u.keys).eraseDups :=
  keys_insertAll t u.entries

theorem merge_empty (t : Table α) : t.merge empty = t := rfl

theorem empty_merge (t : Table α) : empty.merge t = t := by
  apply ext_get?
  · rw [keys_merge]
    exact eraseDups_of_nodup t.keys_nodup
  · intro key
    rw [get?_merge, get?_empty, Option.or_none]

theorem get?_merge_of_not_contains (h : u.contains key = false) :
    (t.merge u).get? key = t.get? key := by
  rw [get?_merge, get?_eq_none_iff.2 h, Option.none_or]

@[simp] theorem contains_merge (t u : Table α) (key : String) :
    (t.merge u).contains key = (u.contains key || t.contains key) := by
  rw [contains_eq_isSome, get?_merge, Option.isSome_or]
  rfl

@[simp] theorem contains_map (f : α → β) (t : Table α) (key : String) :
    (t.map f).contains key = t.contains key := by
  rw [contains_eq_isSome, get?_map, Option.isSome_map]
  rfl

/-! ### Layers -/

theorem layered_concat (layers : List (Table α)) (t : Table α) :
    layered (layers ++ [t]) = (layered layers).merge t := List.foldl_append

theorem layered_pair (t u : Table α) : layered [t, u] = t.merge u := by
  have hpair : layered [t, u] = (empty.merge t).merge u := rfl
  rw [hpair, empty_merge]

/-- The search for a name begins at the last layer. -/
theorem get?_layered (layers : List (Table α)) (key : String) :
    (layered layers).get? key = layers.reverse.findSome? fun layer => layer.get? key := by
  induction layers using List.reverseRecOn with
  | nil => rfl
  | append_singleton layers t ih =>
    rw [layered_concat, get?_merge, ih, List.reverse_concat, List.findSome?_cons]
    cases t.get? key with
    | none => rfl
    | some value => rfl

theorem contains_layered_iff {layers : List (Table α)} :
    (layered layers).contains key = true ↔ ∃ t ∈ layers, t.contains key = true := by
  rw [contains_eq_isSome, get?_layered, List.findSome?_isSome_iff]
  simp only [List.mem_reverse, contains_eq_isSome]

/-! ### Larger tables -/

/-- The table has all values of the other one. -/
def Extends (t u : Table α) : Prop := ∀ key value, u.get? key = some value → t.get? key = some value

theorem Extends.get?_eq (h : t.Extends u) (hkey : u.contains key = true) :
    t.get? key = u.get? key := by
  obtain ⟨value, hvalue⟩ := exists_get?_iff.2 hkey
  rw [hvalue, h key value hvalue]

theorem Extends.contains (h : t.Extends u) (hkey : u.contains key = true) :
    t.contains key = true := by
  rw [contains_eq_isSome, h.get?_eq hkey]
  exact hkey

theorem Extends.merge (h : t.Extends u) (other : Table α) :
    (t.merge other).Extends (u.merge other) := by
  intro key value hvalue
  rw [get?_merge] at hvalue ⊢
  cases hother : other.get? key with
  | none =>
    rw [hother, Option.none_or] at hvalue
    exact h key value hvalue
  | some first =>
    rw [hother] at hvalue
    exact hvalue

/-- A table that goes on where another one ends has all its values. -/
theorem Extends.of_entries (h : u.entries <+: t.entries) : t.Extends u := by
  intro key value hvalue
  exact mem_entries_iff.1 (h.subset (mem_entries_iff.2 hvalue))

end CodeStencil.Table
