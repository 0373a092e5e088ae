/-
  CodeStencil/Proofs/Descriptions/OptionalFields.lean
  ===================================================
  **Optional fields of attributes** — an attribute has what its object says (`IsReadFrom`), and the
  table of optional fields fills the rest. But the flags and the included files of an attribute are
  there even if the object does not mention them: they are empty then, and the table has no say in
  them (`dictionary_fills_iff`).
-/
import CodeStencil.Description.Component
import CodeStencil.Proofs.Json.Members
import CodeStencil.Proofs.Tables.Writes

namespace CodeStencil

open Json

namespace Attribute

variable {a : Attribute} {d : Document} {own : Json.Value} {field : String}

theorem key_injective : Function.Injective key := by
  intro f g h
  exact (String.append_right_inj _).1 h

/-! ### The fields of an attribute -/

/-- The fields that every attribute has, whether or not its object mentions them. -/
def listNames : List String := ["flags", "includes"]

/-- The fields with a meaning of their own. -/
def ownNames : List String := "name" :: listNames

/-- The placeholders that are made from other fields. -/
def derivedNames : List String := ["name_capital", "tolower", "include_full"]

/-- A list of texts is what the object has under a name, and empty if it has nothing there. -/
def IsListOf (own : Json.Value) (name : String) (texts : List String) : Prop :=
  own.field? name = some (.array (texts.map .string)) ∨ own.field? name = none ∧ texts = []

/-- The attribute has what its object says. -/
structure IsReadFrom (a : Attribute) (own : Json.Value) : Prop where
  name : own.field? "name" = some (.string a.name)
  flags : IsListOf own "flags" a.flags
  includes : IsListOf own "includes" a.includes
  fields (f : String) : a.fields.reverse.lookup f = if f ∈ ownNames then none else own.field? f

theorem names_record : Record.names record.fields = ownNames := rfl

/-- Whatever a field of the record takes up has a value. -/
theorem exists_value_of_check {field : Field} (hfield : field ∈ record.fields) {d : Document}
    (h : field.check d = .ok ()) : ∃ v, d.value = .ok v := by
  simp only [record, Record.required, Record.withDefault, Functor.map, Seq.seq, List.cons_append,
    List.nil_append, List.mem_cons, List.not_mem_nil, or_false] at hfield
  rcases hfield with rfl | rfl | rfl
  · obtain ⟨s, hs, -⟩ := map_eq_ok.1 h
    exact ⟨_, value_of_string hs⟩
  · obtain ⟨texts, htexts, -⟩ := map_eq_ok.1 h
    exact ⟨_, value_of_list htexts⟩
  · obtain ⟨texts, htexts, -⟩ := map_eq_ok.1 h
    exact ⟨_, value_of_list htexts⟩

/-- A list that may be left out is read off the value of its member. -/
theorem isListOf_of_build {found : String → Option Document} {name : String} {texts : List String}
    (hfound : (found name).map Document.value = (own.field? name).map Except.ok)
    (h : (Record.withDefault name [] (Decode.list Decode.string)).build found = .ok texts) :
    IsListOf own name texts := by
  rcases Record.build_withDefault_eq_ok.1 h with ⟨hnone, rfl⟩ | ⟨d, hd, htexts⟩
  · rw [hnone, Option.map_none, eq_comm, Option.map_eq_none_iff] at hfound
    exact .inr ⟨hfound, rfl⟩
  · rw [hd, Option.map_some, value_of_list htexts, eq_comm, Option.map_eq_some_iff] at hfound
    obtain ⟨v, hv, hsame⟩ := hfound
    exact .inl (Except.ok.inj hsame ▸ hv)

theorem isReadFrom_of_decoder (h : decoder d = .ok a) :
    ∃ own, d.value = .ok own ∧ a.IsReadFrom own := by
  obtain ⟨⟨make, fields⟩, hopen, rfl⟩ := map_eq_ok.1 h
  rcases d with _ | _ | _ | _ | _ | ms | inner | _
  case map =>
    obtain ⟨⟨found, others⟩, hpart, hopen⟩ := bind_eq_ok.1 hopen
    obtain ⟨make', hmake, hopen⟩ := bind_eq_ok.1 hopen
    obtain ⟨fields', hothers, hopen⟩ := bind_eq_ok.1 hopen
    obtain ⟨rfl, rfl⟩ := Prod.mk.inj (Except.ok.inj hopen)
    obtain ⟨members, hmembers, hrest, hown⟩ :=
      Record.values_of_part hpart fun field hfield d => exists_value_of_check hfield
    obtain rfl := Except.ok.inj (hothers.symm.trans hrest)
    have hfound : ∀ name ∈ ownNames, (found.lookup name).map Document.value =
        ((Value.ofMembers members).field? name).map Except.ok := by
      intro name hname
      rw [Value.field?_ofMembers, hown name hname, List.lookup_nil, Option.map_none, Option.or_none]
    obtain ⟨make₂, includes, hmake₂, hincludes, rfl⟩ := Record.build_seq_eq_ok.1 hmake
    obtain ⟨make₁, flags, hmake₁, hflags, rfl⟩ := Record.build_seq_eq_ok.1 hmake₂
    obtain ⟨name, hname, rfl⟩ := Record.build_map_eq_ok.1 hmake₁
    obtain ⟨written, hwritten, htext⟩ := Record.build_required_eq_ok.1 hname
    refine ⟨Value.ofMembers members, ?_, ?_, ?_, ?_, ?_⟩
    · rw [Document.value, hmembers]
      rfl
    · have hvalue := hfound "name" (by simp [ownNames])
      rw [hwritten, Option.map_some, value_of_string htext, eq_comm, Option.map_eq_some_iff] at hvalue
      obtain ⟨v, hv, hsame⟩ := hvalue
      exact Except.ok.inj hsame ▸ hv
    · exact isListOf_of_build (hfound "flags" (by simp [ownNames, listNames])) hflags
    · exact isListOf_of_build (hfound "includes" (by simp [ownNames, listNames])) hincludes
    · intro f
      have hkeep := lookup_filter (fun name => !ownNames.contains name) members.reverse f
      rw [List.filter_reverse] at hkeep
      rw [names_record, hkeep, Value.field?_ofMembers]
      by_cases hf : f ∈ ownNames
      · simp [hf]
      · simp [hf]
  -- nothing but an object is read as an attribute
  case deep => rcases inner with _ | _ | _ | _ | _ | _ | _ | _ <;> cases hopen
  all_goals cases hopen

/-! ### Its placeholders -/

/-- What the attribute declares, by the names of the fields. -/
def declaredFields (a : Attribute) : List (String × Binding) :=
  [("name", .text a.name), ("flags", .list a.flags), ("includes", .list a.includes)] ++
    a.fields.map fun f => (f.1, Binding.ofJson f.2)

def derivedFields (a : Attribute) : List (String × Binding) :=
  [("name_capital", .text (Text.upperFirst a.name)), ("tolower", .text (Text.toLower a.name)),
    ("include_full", .text (String.intercalate "\n" (a.includes.map includeLine)))]

theorem declared_eq (a : Attribute) :
    a.declared = a.declaredFields.map fun e => (key e.1, e.2) := by
  simp [declared, declaredFields, Function.comp_def]

theorem derived_eq (a : Attribute) :
    a.derived = a.derivedFields.map fun e => (key e.1, e.2) := rfl

/-- The placeholder of a field is looked up by the name of the field. -/
theorem lookup_keys (es : List (String × Binding)) (field : String) :
    (es.map fun e => (key e.1, e.2)).lookup (key field) = es.lookup field := by
  have hmap := lookup_map key_injective (id : Binding → Binding) es field
  rwa [Option.map_id_fun, id] at hmap

theorem lookup_derivedFields (hfield : field ∉ derivedNames) :
    a.derivedFields.reverse.lookup field = none := by
  apply lookup_eq_none_of_not_mem
  rw [List.map_reverse, List.mem_reverse]
  exact hfield

theorem ofJson_array (texts : List String) :
    Binding.ofJson (.array (texts.map .string)) = .list texts := by
  simp [Binding.ofJson, Binding.itemText, Function.comp_def]

/-- What the object declares is bound to what it says; the lists are bound in any case. -/
theorem lookup_declaredFields (h : a.IsReadFrom own) (field : String) :
    a.declaredFields.reverse.lookup field = ((own.field? field).map Binding.ofJson).or
      (if field ∈ listNames then some (.list []) else none) := by
  have hmore : (a.fields.map fun f => (f.1, Binding.ofJson f.2)).reverse.lookup field =
      (a.fields.reverse.lookup field).map Binding.ofJson := by
    rw [← List.map_reverse]
    exact lookup_map Function.injective_id Binding.ofJson _ _
  rw [declaredFields, List.reverse_append, List.lookup_append, hmore, h.fields]
  by_cases hown : field ∈ ownNames
  · simp only [ownNames, listNames, List.mem_cons, List.not_mem_nil, or_false] at hown
    rcases hown with rfl | rfl | rfl
    · rw [h.name]
      rfl
    · rcases h.flags with hflags | ⟨hflags, hnone⟩
      · rw [hflags, Option.map_some, ofJson_array]
        rfl
      · rw [hflags, hnone]
        rfl
    · rcases h.includes with hincludes | ⟨hincludes, hnone⟩
      · rw [hincludes, Option.map_some, ofJson_array]
        rfl
      · rw [hincludes, hnone]
        rfl
  · have hlist : field ∉ listNames := fun hmem => hown (List.mem_cons_of_mem _ hmem)
    have hrest : [("name", Binding.text a.name), ("flags", .list a.flags),
        ("includes", .list a.includes)].reverse.lookup field = none := by
      apply lookup_eq_none_of_not_mem
      rw [List.map_reverse, List.mem_reverse]
      exact hown
    rw [if_neg hown, hrest, if_neg hlist]

/-- All that the placeholder of a field may show, but for derived ones. -/
theorem get?_dictionary (h : a.IsReadFrom own) (optional : OptionalFields)
    (hfield : field ∉ derivedNames) :
    (a.dictionary optional).get? (key field) = ((own.field? field).map Binding.ofJson).or
      (if field ∈ listNames then some (.list [])
        else (optional.get? field).map Binding.ofJson) := by
  have hdictionary : a.dictionary optional =
      (optional.entries.map fun e => (key e.1, Binding.ofJson e.2)).foldl
        (fun t p => t.insertMissing p.1 p.2) (Table.ofList (a.declared ++ a.derived)) := by
    rw [List.foldl_map]
    rfl
  have hbound : (Table.ofList (a.declared ++ a.derived)).get? (key field) =
      a.declaredFields.reverse.lookup field := by
    rw [Table.get?_ofList, List.reverse_append, List.lookup_append, declared_eq, derived_eq,
      ← List.map_reverse, ← List.map_reverse, lookup_keys, lookup_keys,
      lookup_derivedFields hfield, Option.none_or]
  rw [hdictionary, Table.get?_foldl_insertMissing, hbound, lookup_declaredFields h,
    lookup_map key_injective, ← Table.get?, Option.or_assoc]
  by_cases hlist : field ∈ listNames
  · simp [hlist]
  · simp [hlist]

/-! ### What the table fills -/

/-- The table fills what the object is silent about: a field of the table is bound to what the object
    says, and to the default where it says nothing. -/
def Fills (optional : OptionalFields) (own : Json.Value) (d : Dictionary) : Prop :=
  ∀ field default, optional.get? field = some default → field ∉ derivedNames →
    d.get? (key field) = some (Binding.ofJson ((own.field? field).getD default))

/-- The placeholder of every field shows what the object says. Where the object is silent it shows the
    default from the table, if there is one, except that flags and included files are empty. So the
    table fills all that the object is silent about exactly if it has no flags and no included files
    for an attribute without them. -/
theorem dictionary_fills_iff {d : Document} {a : Attribute} (h : decoder d = .ok a)
    (optional : OptionalFields) :
    ∃ own, d.value = .ok own ∧
      (∀ field, field ∉ derivedNames → (a.dictionary optional).get? (key field) =
        ((own.field? field).map Binding.ofJson).or
          (if field ∈ listNames then some (.list [])
            else (optional.get? field).map Binding.ofJson)) ∧
      (Fills optional own (a.dictionary optional) ↔
        ∀ field ∈ listNames, own.field? field = none → ∀ default,
          optional.get? field = some default → Binding.ofJson default = .list []) := by
  obtain ⟨own, hown, hread⟩ := isReadFrom_of_decoder h
  refine ⟨own, hown, fun field hfield => get?_dictionary hread optional hfield, ?_, ?_⟩
  · intro hfills field hlist hsilent default hdefault
    have hfield : field ∉ derivedNames := by
      intro hderived
      simp only [listNames, List.mem_cons, List.not_mem_nil, or_false] at hlist
      rcases hlist with rfl | rfl <;> simp [derivedNames] at hderived
    have hbound := hfills field default hdefault hfield
    rw [get?_dictionary hread optional hfield, hsilent, if_pos hlist] at hbound
    exact (Option.some.inj hbound).symm
  · intro hempty field default hdefault hfield
    rw [get?_dictionary hread optional hfield, hdefault]
    rcases hsays : own.field? field with _ | v
    · by_cases hlist : field ∈ listNames
      · simp [hlist, hempty field hlist hsays default hdefault]
      · simp [hlist]
    · simp

namespace Sample

/-- An attribute without flags. -/
def speed : Json.Value := .object [("default", .string "100"), ("name", .string "speed")]

def defaults : OptionalFields :=
  .ofList [("default", .null), ("unit", .string "m/s"), ("flags", .array [.string "network"])]

end Sample

open Sample

/-- The default that is declared stays, the unit is filled in, and the flags are empty although the
    table has some. -/
theorem dictionary_speed : ∃ a, decoder (Document.ofValue speed) = .ok a ∧
    (a.dictionary defaults).get? (key "default") = some (.text "100") ∧
    (a.dictionary defaults).get? (key "unit") = some (.text "m/s") ∧
    (a.dictionary defaults).get? (key "flags") = some (.list []) ∧
    ¬Fills defaults speed (a.dictionary defaults) := by
  obtain ⟨a, ha⟩ := exists_of_isSome (x := decoder (Document.ofValue speed)) (by decide +kernel)
  obtain ⟨own, hown, hshows, hfills⟩ := dictionary_fills_iff ha defaults
  have hspeed : (Document.ofValue speed).value = .ok speed := by rfl
  obtain rfl : speed = own := Except.ok.inj (hspeed.symm.trans hown)
  refine ⟨a, ha, ?_, ?_, ?_, ?_⟩
  · rw [hshows "default" (by decide)]
    rfl
  · rw [hshows "unit" (by decide)]
    rfl
  · rw [hshows "flags" (by decide)]
    rfl
  · intro h
    have hempty := hfills.1 h "flags" (by decide) rfl (.array [.string "network"]) rfl
    simp [Binding.ofJson] at hempty

end Attribute

end CodeStencil
