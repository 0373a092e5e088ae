/-
  CodeStencil/Proofs/Tables/Monoid.lean
  =====================================
  **The monoid of tables** — tables are merged like lists of bindings are appended: `ofList` takes the
  one to the other (`ofList_append`) and every table is the table of its own entries
  (`ofList_entries`), so merging is associative, with the empty table on either side. Layers are one
  long list of bindings (`layered_eq_ofList`). What they come to is told by their bindings alone: each
  name stands in the place of its first binding and has the value of its last one (`isOverlay_iff`).
-/
import CodeStencil.Proofs.Tables.Layers
import Mathlib.Data.List.Sort

namespace CodeStencil.Table

variable {α : Type} {t u : Table α} {key : String} {value : α}

/-! ### Merging and appending -/

theorem ofList_entries (t : Table α) : ofList t.entries = t := empty_merge t

/-- Bindings may be inserted one after the other, or as a table of their own. -/
theorem insertAll_eq_merge (t : Table α) (pairs : List (String × α)) :
    t.insertAll pairs = t.merge (ofList pairs) := by
  apply ext_get?
  · rw [keys_merge, keys_ofList, eraseDups_append_eraseDups, keys_insertAll]
  · intro key
    rw [get?_merge, get?_insertAll_reverse, get?_ofList]

theorem ofList_append (pairs more : List (String × α)) :
    ofList (pairs ++ more) = (ofList pairs).merge (ofList more) := by
  rw [← insertAll_eq_merge]
  exact insertAll_append empty pairs more

theorem merge_assoc (t u v : Table α) : (t.merge u).merge v = t.merge (u.merge v) := by
  rw [← ofList_entries t, ← ofList_entries u, ← ofList_entries v]
  simp only [← ofList_append, List.append_assoc]

theorem merge_self (t : Table α) : t.merge t = t := by
  apply ext_get?
  · rw [keys_merge, eraseDups_append_self, eraseDups_of_nodup t.keys_nodup]
  · intro key
    rw [get?_merge, Option.or_self]

theorem merge_merge_self (t u : Table α) : (t.merge u).merge u = t.merge u := by
  rw [merge_assoc, merge_self]

/-! ### Layers -/

theorem layered_eq_ofList (layers : List (Table α)) :
    layered layers = ofList (layers.flatMap entries) := List.foldl_flatMap.symm

theorem layered_append (layers more : List (Table α)) :
    layered (layers ++ more) = (layered layers).merge (layered more) := by
  simp only [layered_eq_ofList, List.flatMap_append, ofList_append]

theorem keys_layered (layers : List (Table α)) :
    (layered layers).keys = (layers.flatMap keys).eraseDups := by
  rw [layered_eq_ofList, keys_ofList, List.map_flatMap]
  rfl

/-! ### What layers come to -/

/-- Of all bindings, read layer by layer, the first one of a name comes before the first one of the
    other name. -/
def BoundBefore (layers : List (Table α)) (key other : String) : Prop :=
  (layers.flatMap keys).idxOf key < (layers.flatMap keys).idxOf other

/-- The last layer that binds the name binds it to the value. -/
def BoundLast (layers : List (Table α)) (key : String) (value : α) : Prop :=
  ∃ before layer after, layers = before ++ layer :: after ∧ layer.get? key = some value ∧
    ∀ later ∈ after, later.get? key = none

/-- The entries have the names that the layers bind, each one in the place of its first binding and
    with the value of its last one. -/
structure IsOverlay (layers : List (Table α)) (es : List (String × α)) : Prop where
  /-- No name comes twice. -/
  nodup : (es.map Prod.fst).Nodup
  inOrder : (es.map Prod.fst).Pairwise (BoundBefore layers)
  mem_iff : ∀ key value, (key, value) ∈ es ↔ BoundLast layers key value

theorem boundLast_iff {layers : List (Table α)} :
    BoundLast layers key value ↔ (layered layers).get? key = some value := by
  rw [get?_layered, List.findSome?_eq_some_iff]
  constructor
  · rintro ⟨before, layer, after, rfl, hlayer, hafter⟩
    refine ⟨after.reverse, layer, before.reverse, by simp, hlayer, ?_⟩
    intro later hlater
    exact hafter later (List.mem_reverse.1 hlater)
  · rintro ⟨after, layer, before, hreverse, hlayer, hafter⟩
    refine ⟨before.reverse, layer, after.reverse, ?_, hlayer, ?_⟩
    · rw [← List.reverse_reverse layers, hreverse]
      simp
    · intro later hlater
      exact hafter later (List.mem_reverse.1 hlater)

theorem isOverlay_layered (layers : List (Table α)) :
    IsOverlay layers (layered layers).entries where
  nodup := by
    change (layered layers).keys.Nodup
    rw [keys_layered]
    exact nodup_eraseDups _
  inOrder := by
    change (layered layers).keys.Pairwise _
    rw [keys_layered]
    exact pairwise_idxOf_eraseDups _
  mem_iff := by
    intro key value
    rw [mem_entries_iff, boundLast_iff]

/-- The bindings leave no choice: two lists with the same items are equal if both are sorted by a
    strict order, here that of the first bindings. -/
theorem IsOverlay.eq {layers : List (Table α)} {es es' : List (String × α)}
    (h : IsOverlay layers es) (h' : IsOverlay layers es') : es = es' := by
  let before (e f : String × α) : Prop := BoundBefore layers e.1 f.1
  have hirrefl : Std.Irrefl before := ⟨fun _ => Nat.lt_irrefl _⟩
  have hantisymm : Std.Antisymm before := ⟨fun _ _ hef hfe => absurd hfe (Nat.lt_asymm hef)⟩
  have hsorted : es.Pairwise before := List.pairwise_map.1 h.inOrder
  have hsorted' : es'.Pairwise before := List.pairwise_map.1 h'.inOrder
  apply hsorted.eq_of_mem_iff hsorted'
  rintro ⟨key, value⟩
  rw [h.mem_iff, h'.mem_iff]

theorem isOverlay_iff {layers : List (Table α)} {es : List (String × α)} :
    IsOverlay layers es ↔ es = (layered layers).entries := by
  constructor
  · intro h
    exact h.eq (isOverlay_layered layers)
  · rintro rfl
    exact isOverlay_layered layers

/-- Layers may be taken together in groups, as merging is associative and the empty table changes
    nothing; to merge the same table once more changes nothing, too. In the end every name that is
    bound stands once, in the place of its first binding and with the value of its last one, and there
    is no other table of this kind. A name that is missing comes behind the entries that are there,
    which stay as they are; of many values to fill in, the first one of a missing name counts. -/
theorem layered_compositional :
    (∀ layers more : List (Table α),
        layered (layers ++ more) = layered [layered layers, layered more]) ∧
      (∀ t u v : Table α, (t.merge u).merge v = t.merge (u.merge v)) ∧
      (∀ t : Table α, empty.merge t = t ∧ t.merge empty = t) ∧
      (∀ t u : Table α, t.merge t = t ∧ (t.merge u).merge u = t.merge u) ∧
      (∀ (layers : List (Table α)) es, IsOverlay layers es ↔ es = (layered layers).entries) ∧
      (∀ (t : Table α) key value, t.entries <+: (t.insertMissing key value).entries ∧
        (t.insertMissing key value).Extends t ∧
        (t.insertMissing key value).get? key = (t.get? key).or (some value)) ∧
      ∀ (t : Table α) (pairs : List (String × α)),
        t.entries <+: (pairs.foldl (fun t p => t.insertMissing p.1 p.2) t).entries ∧
        ∀ key, (pairs.foldl (fun t p => t.insertMissing p.1 p.2) t).get? key =
          (t.get? key).or (pairs.lookup key) := by
  refine ⟨?_, merge_assoc, ?_, ?_, fun _ _ => isOverlay_iff, ?_, ?_⟩
  · intro layers more
    rw [layered_append, layered_pair]
  · intro t
    exact ⟨empty_merge t, merge_empty t⟩
  · intro t u
    exact ⟨merge_self t, merge_merge_self t u⟩
  · intro t key value
    have hkept := t.entries_prefix_insertMissing key value
    refine ⟨hkept, .of_entries hkept, ?_⟩
    rw [get?_insertMissing, if_pos rfl]
  · intro t pairs
    exact ⟨t.entries_prefix_foldl_insertMissing pairs, t.get?_foldl_insertMissing pairs⟩

-- The last values win, but the names keep the places of their first ones.
example : (layered [ofList [("name", 1), ("delimiter", 2)], ofList [("name", 3)],
    ofList [("unit", 4), ("delimiter", 5)]]).entries =
      [("name", 3), ("delimiter", 5), ("unit", 4)] := by decide

end CodeStencil.Table
