/-
  CodeStencil/Table.lean
  ======================
  **Tables in insertion order** — named values, each name once. A new name goes to the end; a name
  that is there already keeps its place and takes the new value.
-/

namespace CodeStencil

/-- Names with their values, in the order in which the names were first inserted. -/
@[ext] structure Table (α : Type) where
  entries : List (String × α)
  nodup : (entries.map Prod.fst).Nodup

namespace Table

variable {α : Type}

instance [DecidableEq α] : DecidableEq (Table α) := fun s t =>
  decidable_of_iff (s.entries = t.entries) Table.ext_iff.symm

def empty : Table α := ⟨[], List.nodup_nil⟩

instance : EmptyCollection (Table α) := ⟨empty⟩
instance : Inhabited (Table α) := ⟨empty⟩

def keys (t : Table α) : List String := t.entries.map Prod.fst

/-- The values, in the order of their names. -/
def values (t : Table α) : List α := t.entries.map Prod.snd

def size (t : Table α) : Nat := t.entries.length

def isEmpty (t : Table α) : Bool := t.entries.isEmpty

def get? (t : Table α) (key : String) : Option α := t.entries.lookup key

def contains (t : Table α) (key : String) : Bool := (t.get? key).isSome

/-! ### Insertion -/

/-- Entries with a value put in the place of its name, or at the end. -/
def place (key : String) (value : α) : List (String × α) → List (String × α)
  | [] => [(key, value)]
  | (k, v) :: rest => if k = key then (key, value) :: rest else (k, v) :: place key value rest

theorem keys_place (key : String) (value : α) (es : List (String × α)) :
    (place key value es).map Prod.fst =
      if key ∈ es.map Prod.fst then es.map Prod.fst else es.map Prod.fst ++ [key] := by
  induction es with
  | nil => simp [place]
  | cons e rest ih =>
    obtain ⟨k, v⟩ := e
    by_cases h : k = key
    · simp [place, h]
    · have h' : ¬key = k := fun e => h e.symm
      by_cases m : key ∈ rest.map Prod.fst <;> simp [place, h, h', ih, m]

theorem nodup_place (key : String) (value : α) {es : List (String × α)}
    (h : (es.map Prod.fst).Nodup) : ((place key value es).map Prod.fst).Nodup := by
  rw [keys_place]
  split
  · exact h
  · next m =>
    rw [List.nodup_append]
    exact ⟨h, by simp, fun a ha b hb e => m (by simp_all)⟩

/-- Puts a value in the place of its name, or at the end. -/
def insert (t : Table α) (key : String) (value : α) : Table α :=
  ⟨place key value t.entries, nodup_place key value t.nodup⟩

/-- Inserts a value unless its name is there already. -/
def insertMissing (t : Table α) (key : String) (value : α) : Table α :=
  if t.contains key then t else t.insert key value

def insertAll (t : Table α) (pairs : List (String × α)) : Table α :=
  pairs.foldl (fun t p => t.insert p.1 p.2) t

/-- The table of the pairs: a name stands where it came first and has the value it got last. -/
def ofList (pairs : List (String × α)) : Table α := empty.insertAll pairs

/-- Inserts all entries of another table. -/
def merge (t other : Table α) : Table α := t.insertAll other.entries

/-- One table out of many, the later ones taking precedence. -/
def layered (layers : List (Table α)) : Table α := layers.foldl merge empty

/-- Entries with other values, which may depend on the names. -/
def mapEntries {β : Type} (f : String → α → β) (es : List (String × α)) : List (String × β) :=
  es.map fun e => (e.1, f e.1 e.2)

theorem keys_mapEntries {β : Type} (f : String → α → β) (es : List (String × α)) :
    (mapEntries f es).map Prod.fst = es.map Prod.fst := by
  simp [mapEntries, Function.comp_def]

/-- The table with other values for the same names. -/
def map {β : Type} (f : α → β) (t : Table α) : Table β :=
  ⟨mapEntries (fun _ => f) t.entries, by rw [keys_mapEntries]; exact t.nodup⟩

@[simp] theorem keys_insert (t : Table α) (key : String) (value : α) :
    (t.insert key value).keys = if key ∈ t.keys then t.keys else t.keys ++ [key] :=
  keys_place key value t.entries

theorem contains_iff_mem_keys {t : Table α} {key : String} :
    t.contains key = true ↔ key ∈ t.keys := by
  unfold contains get? keys
  rw [List.lookup_isSome_iff, List.mem_map]
  constructor
  · rintro ⟨e, he, heq⟩
    exact ⟨e, he, (beq_iff_eq.1 heq).symm⟩
  · rintro ⟨e, he, heq⟩
    exact ⟨e, he, beq_iff_eq.2 heq.symm⟩

theorem mem_entries_of_get? {t : Table α} {key : String} {value : α}
    (h : t.get? key = some value) : (key, value) ∈ t.entries := by
  obtain ⟨before, after, hentries, -⟩ := List.lookup_eq_some_iff.1 h
  rw [hentries]
  exact List.mem_append_right before List.mem_cons_self

theorem keys_nodup (t : Table α) : t.keys.Nodup := t.nodup

@[simp] theorem keys_map {β : Type} (f : α → β) (t : Table α) : (t.map f).keys = t.keys := by
  simp [keys, map, keys_mapEntries]

/-! ### Lookup after insertion -/

theorem lookup_place_self (key : String) (value : α) (es : List (String × α)) :
    (place key value es).lookup key = some value := by
  induction es with
  | nil => simp [place]
  | cons e rest ih =>
    obtain ⟨k, v⟩ := e
    by_cases h : k = key
    · simp [place, h]
    · have h' : (key == k) = false := by simpa using fun e => h e.symm
      simp [place, h, List.lookup_cons, h', ih]

theorem lookup_place_of_ne {key other : String} (h : other ≠ key) (value : α)
    (es : List (String × α)) : (place key value es).lookup other = es.lookup other := by
  have h' : (other == key) = false := by simpa using h
  induction es with
  | nil => simp [place, List.lookup_cons, h']
  | cons e rest ih =>
    obtain ⟨k, v⟩ := e
    by_cases hk : k = key
    · subst hk
      simp [place, List.lookup_cons, h']
    · simp [place, hk, List.lookup_cons, ih]

@[simp] theorem get?_insert (t : Table α) (key other : String) (value : α) :
    (t.insert key value).get? other = if other = key then some value else t.get? other := by
  by_cases h : other = key
  · subst h
    simp [get?, insert, lookup_place_self]
  · simp [get?, insert, h, lookup_place_of_ne h]

end Table

end CodeStencil
