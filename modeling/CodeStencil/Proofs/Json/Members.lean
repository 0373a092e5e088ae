/-
  CodeStencil/Proofs/Json/Members.lean
  ====================================
  **Members of a written object** — the value of an object has the last member of each name
  (`field?_ofMembers`). A record that leaves some members to someone else takes up its own fields and
  passes on all others, and nothing is lost in between (`values_of_part`).
-/
import CodeStencil.Json.Decode
import CodeStencil.Proofs.Lists.Lookup
import CodeStencil.Proofs.Lists.Results

namespace CodeStencil.Json

/-! ### What can be decoded has a value -/

theorem value_of_string {d : Document} {s : String} (h : Decode.string d = .ok s) :
    d.value = .ok (.string s) := by
  rcases d with _ | _ | _ | (_ | text) | _ | _ | _ | _ <;>
    simp only [Decode.string, Decode.text, reduceCtorEq, Except.ok.injEq] at h
  rw [← h, Document.value]

theorem values_of_items {ds : Items} {texts : List String}
    (h : Decode.items Decode.string ds = .ok texts) :
    ds.values = .ok (texts.map Value.string) := by
  fun_induction Decode.items Decode.string ds generalizing texts with
  | case1 =>
    rw [← Except.ok.inj h]
    rfl
  | case2 => cases h
  | case3 d rest ih =>
    obtain ⟨s, hs, h⟩ := bind_eq_ok.1 h
    obtain ⟨more, hmore, h⟩ := bind_eq_ok.1 h
    rw [← Except.ok.inj h, Items.values, value_of_string hs, ih hmore]
    rfl

theorem value_of_list {d : Document} {texts : List String}
    (h : Decode.list Decode.string d = .ok texts) :
    d.value = .ok (.array (texts.map Value.string)) := by
  rcases d with _ | _ | _ | _ | items | _ | inner | _
  case seq => rw [Document.value, values_of_items h]; rfl
  case deep => rcases inner with _ | _ | _ | _ | _ | _ | _ | _ <;> cases h
  all_goals cases h

/-! ### Members by name -/

namespace Value

theorem lookup_addMember (key other : String) (v : Value) (members : List (String × Value)) :
    (addMember key v members).lookup other =
      if other = key then some v else members.lookup other := by
  induction members with
  | nil =>
    by_cases hother : other = key
    · simp [addMember, hother]
    · have hne : (other == key) = false := by simpa using hother
      simp [addMember, List.lookup_cons, hne, hother]
  | cons m rest ih =>
    obtain ⟨k, w⟩ := m
    by_cases hother : other = key
    · subst hother
      by_cases hk : other = k
      · simp [addMember, hk]
      · have hne : (other == k) = false := by simpa using hk
        by_cases hlt : other < k
        · simp [addMember, hk, hlt]
        · simp [addMember, hk, hlt, List.lookup_cons, hne, ih]
    · have hne : (other == key) = false := by simpa using hother
      by_cases hk : key = k
      · subst hk
        simp [addMember, List.lookup_cons, hne, hother]
      · by_cases hlt : key < k
        · simp [addMember, hk, hlt, List.lookup_cons, hne, hother]
        · simp [addMember, hk, hlt, List.lookup_cons, ih, hother]

/-- An object has the last of the members of a name. -/
theorem field?_ofMembers (members : List (String × Value)) (key : String) :
    (ofMembers members).field? key = members.reverse.lookup key := by
  have hfold : ∀ ms : List (String × Value),
      (members.foldl (fun ms m => addMember m.1 m.2 ms) ms).lookup key =
        (members.reverse.lookup key).or (ms.lookup key) := by
    induction members with
    | nil => simp
    | cons m rest ih =>
      intro ms
      obtain ⟨k, v⟩ := m
      rw [List.foldl_cons, ih, lookup_addMember, List.reverse_cons, List.lookup_append,
        Option.or_assoc]
      by_cases hkey : key = k
      · simp [hkey]
      · have hne : (key == k) = false := by simpa using hkey
        simp [List.lookup_cons, hne, hkey]
  have hnone : ([] : List (String × Value)).lookup key = none := rfl
  rw [ofMembers, field?, hfold, hnone, Option.or_none]

end Value

/-! ### Building a record -/

namespace Record

variable {α β : Type} {found : String → Option Document}

theorem build_map_eq_ok {r : Record α} {g : α → β} {b : β} :
    (g <$> r).build found = .ok b ↔ ∃ a, r.build found = .ok a ∧ g a = b := map_eq_ok

theorem build_seq_eq_ok {g : Record (α → β)} {r : Record α} {b : β} :
    (g <*> r).build found = .ok b ↔
      ∃ h a, g.build found = .ok h ∧ r.build found = .ok a ∧ h a = b := by
  change (g.build found >>= fun h => r.build found >>= fun a => pure (h a)) = .ok b ↔ _
  simp only [bind_eq_ok, pure, Except.pure, Except.ok.injEq, exists_and_left]

theorem build_required_eq_ok {name : String} {f : Decoder α} {a : α} :
    (required name f).build found = .ok a ↔ ∃ d, found name = some d ∧ f d = .ok a := by
  simp only [required]
  rcases found name with _ | d <;> simp

theorem build_withDefault_eq_ok {name : String} {default : α} {f : Decoder α} {a : α} :
    (withDefault name default f).build found = .ok a ↔
      found name = none ∧ a = default ∨ ∃ d, found name = some d ∧ f d = .ok a := by
  simp only [withDefault]
  rcases found name with _ | d <;> simp [eq_comm]

/-! ### Own members and others -/

/-- The names of the fields. -/
def names (fields : List Field) : List String := fields.map (·.name)

theorem find?_eq_some {fields : List Field} {key : String} {field : Field}
    (h : fields.find? (·.name = key) = some field) : field ∈ fields ∧ field.name = key :=
  ⟨List.mem_of_find?_eq_some h, by simpa using List.find?_some h⟩

/-- All members of an object have values if the fields of the record only take up what has one. The
    others are passed on in their order, and of the fields the last member of a name is found. -/
theorem values_of_part {fields : List Field} {found own : List (String × Document)}
    {ms others : Members} (h : part fields found ms = .ok (own, others))
    (hfields : ∀ field ∈ fields, ∀ d, field.check d = .ok () → ∃ v, d.value = .ok v) :
    ∃ members, ms.values = .ok members ∧
      others.values = .ok (members.filter fun m => !(names fields).contains m.1) ∧
      ∀ name ∈ names fields, (own.lookup name).map Document.value =
        ((members.reverse.lookup name).map Except.ok).or ((found.lookup name).map Document.value) := by
  fun_induction part fields found ms generalizing own others with
  | case1 found =>
    obtain ⟨rfl, rfl⟩ := Prod.mk.inj (Except.ok.inj h)
    exact ⟨[], rfl, rfl, by simp⟩
  | case2 | case3 => cases h
  | case4 found key d rest field hfield ih =>
    obtain ⟨hmem, rfl⟩ := find?_eq_some hfield
    obtain ⟨taken, htaken, h⟩ := bind_eq_ok.1 h
    simp only [takeUp] at htaken
    split at htaken
    · cases htaken
    · obtain ⟨⟨⟩, hcheck, htaken⟩ := bind_eq_ok.1 htaken
      obtain ⟨v, hv⟩ := hfields field hmem d hcheck
      obtain ⟨members, hmembers, hothers, hown⟩ := ih taken h
      have hname : field.name ∈ names fields := List.mem_map.2 ⟨field, hmem, rfl⟩
      refine ⟨(field.name, v) :: members, ?_, ?_, ?_⟩
      · rw [Members.values, hv, hmembers]
        rfl
      · rw [List.filter_cons_of_neg (by simpa using hname)]
        exact hothers
      · intro name hmemname
        rw [hown name hmemname, ← Except.ok.inj htaken, List.reverse_cons, List.lookup_append,
          Option.map_or, Option.or_assoc, List.lookup_cons, List.lookup_cons]
        rcases name == field.name with _ | _
        · simp
        · simp [hv]
  | case5 found key d rest hfield ih =>
    obtain ⟨⟨⟩, hvalue, h⟩ := bind_eq_ok.1 h
    obtain ⟨v, hv, -⟩ := map_eq_ok.1 hvalue
    obtain ⟨⟨own', others'⟩, hpart, h⟩ := bind_eq_ok.1 h
    obtain ⟨rfl, rfl⟩ := Prod.mk.inj (Except.ok.inj h)
    obtain ⟨members, hmembers, hothers, hown⟩ := ih hpart
    have hname : key ∉ names fields := by
      intro hmem
      obtain ⟨field, hthere, rfl⟩ := List.mem_map.1 hmem
      simpa using List.find?_eq_none.1 hfield field hthere
    refine ⟨(key, v) :: members, ?_, ?_, ?_⟩
    · rw [Members.values, hv, hmembers]
      rfl
    · rw [List.filter_cons_of_pos (by simpa using hname), Members.values, hv, hothers]
      rfl
    · intro name hmemname
      have hne : (name == key) = false := by
        simpa using fun heq : name = key => hname (heq ▸ hmemname)
      rw [hown name hmemname, List.reverse_cons, List.lookup_append]
      simp [List.lookup_cons, hne]

end Record

end CodeStencil.Json
