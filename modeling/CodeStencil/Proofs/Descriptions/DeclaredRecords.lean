/-
  CodeStencil/Proofs/Descriptions/DeclaredRecords.lean
  ====================================================
  **Records follow their declarations** — if no declared field contradicts itself, a description
  becomes an entity exactly if its members fit the fields that have placeholders. What the entity
  then shows can be told field by field, and else the first field that is not met decides about the
  error (`entity_follows`).

  One step per field is taken (`step_of_fits`, `step_of_not_fits`); both runs, the one to the end
  and the one that stops, follow by induction on the fields.
-/
import CodeStencil.Description.Record
import CodeStencil.Proofs.Lists.Results
import CodeStencil.Proofs.Tables.Writes

namespace CodeStencil.RecordSchema

variable {s : RecordSchema} {f : Field} {name stem : String} {v : Json.Value}
  {members : List (String × Json.Value)}

/-! ### What a field asks for -/

/-- The values of a type: texts, or lists of nothing but texts. -/
def FieldType.Admits : FieldType → Json.Value → Prop
  | .string, v => ∃ text, v = .string text
  | .list, v => ∃ items : List String, v = .array (items.map .string)

/-- There is no such member, or it is `null`. -/
def IsAbsent (members : List (String × Json.Value)) (name : String) : Prop :=
  members.lookup name = none ∨ members.lookup name = some .null

/-- If the field has a placeholder, then its member is of the declared type, or it may be absent
    and is. -/
def Field.Fits (f : Field) (name : String) (members : List (String × Json.Value)) : Prop :=
  f.placeholder.isSome = true →
    f.isOptional = true ∧ IsAbsent members name ∨
      ∃ v, members.lookup name = some v ∧ f.type.Admits v

/-- What is wrong with a member of another type. -/
def Field.mistake (f : Field) (name : String) : DescriptionProblem :=
  match f.type with
  | .string => .notAText name
  | .list => .notAList name

/-- The error for a field that its member does not fit. -/
def Field.refusal (f : Field) (stem name : String) (members : List (String × Json.Value)) : Error :=
  match present? members name with
  | none => .missingField stem name
  | some _ => .invalidDescription stem (f.mistake name)

/-! ### What a field adds -/

/-- The texts in a list. -/
def textsOf (v : Json.Value) : List String :=
  (Schema.itemsOf v).filterMap Json.Value.asString?

/-- What a value of the declared type is read as. -/
def Field.reading (f : Field) (v : Json.Value) : Binding :=
  match f.type, f.listRule with
  | .string, _ => .text (v.asString?.getD "")
  | .list, some .metaAttributes => .list (textsOf v)
  | .list, _ => .text (String.intercalate "\n" (textsOf v))

/-- The derived placeholders of a text; a list has none. -/
def Field.derivedFrom (f : Field) : Binding → List (String × Binding)
  | .text text => f.derived.entries.map fun e => (e.1, .text (e.2.apply text))
  | .list _ => []

/-- The placeholder of a field together with the member that it shows. -/
def Field.shown? (f : Field) (name : String) (members : List (String × Json.Value)) :
    Option (String × Json.Value) :=
  f.placeholder.bind fun placeholder => (present? members name).map (placeholder, ·)

/-- What is written for a field: its derived placeholders, and then its own. -/
def Field.writes (f : Field) (name : String) (members : List (String × Json.Value)) :
    List (String × Binding) :=
  match f.shown? name members with
  | some (placeholder, v) => f.derivedFrom (f.reading v) ++ [(placeholder, f.reading v)]
  | none => []

/-- The flags in the member of a field. -/
def Field.flagged (f : Field) (name : String) (members : List (String × Json.Value)) :
    List String :=
  match f.shown? name members, f.listRule with
  | some (_, v), some .metaAttributes => textsOf v
  | _, _ => []

/-- All writes in their order: first what is made of the file name, then field by field. -/
def writes (s : RecordSchema) (stem : String) (members : List (String × Json.Value)) :
    List (String × Binding) :=
  (s.fileName.entries.map fun e => (e.1, Binding.text (e.2.apply stem))) ++
    s.fields.entries.flatMap fun e => e.2.writes e.1 members

def flagged (s : RecordSchema) (members : List (String × Json.Value)) : List String :=
  s.fields.entries.flatMap fun e => e.2.flagged e.1 members

/-- The declarations of fields that have placeholders. -/
def bound (s : RecordSchema) : List (String × Field) :=
  s.fields.entries.filter (·.2.placeholder.isSome)

/-! ### One value -/

theorem asString?_eq_some {text : String} : v.asString? = some text ↔ v = .string text := by
  cases v <;> simp [Json.Value.asString?]

theorem texts?_eq_some {items : List String} :
    texts? v = some items ↔ v = .array (items.map .string) := by
  rcases v with _ | _ | _ | _ | values | _
  case array =>
    have hitems : texts? (.array values) = some items ↔ values = items.map Json.Value.string := by
      rw [texts?, mapM_eq_some]
      simp only [asString?_eq_some]
      rw [← List.forall₂_map_right_iff, List.forall₂_eq_eq_eq]
    rw [hitems, Json.Value.array.injEq]
  all_goals simp [texts?]

@[simp] theorem textsOf_array (items : List String) :
    textsOf (.array (items.map .string)) = items := by
  simp [textsOf, Schema.itemsOf, List.filterMap_map, Function.comp_def, Json.Value.asString?]

theorem bind_of_admits (hsound : f.problem? name = none) (hbound : f.placeholder.isSome = true)
    (h : f.type.Admits v) : f.bind name v = .ok (f.reading v) := by
  unfold Field.problem? at hsound
  unfold Field.bind Field.reading
  cases htype : f.type with
  | string =>
    rw [htype] at h
    obtain ⟨text, rfl⟩ := h
    rfl
  | list =>
    rw [htype] at h hsound
    obtain ⟨items, rfl⟩ := h
    rw [texts?_eq_some.2 rfl, textsOf_array]
    cases hrule : f.listRule with
    | none => simp [hrule, hbound] at hsound
    | some rule => cases rule <;> rfl

theorem bind_of_not_admits (h : ¬f.type.Admits v) : f.bind name v = .error (f.mistake name) := by
  unfold Field.bind Field.mistake
  cases htype : f.type with
  | string =>
    have hnone : v.asString? = none := by
      rw [Option.eq_none_iff_forall_ne_some]
      intro text htext
      exact h (htype ▸ ⟨text, asString?_eq_some.1 htext⟩)
    rw [hnone]
  | list =>
    have hnone : texts? v = none := by
      rw [Option.eq_none_iff_forall_ne_some]
      intro items hitems
      exact h (htype ▸ ⟨items, texts?_eq_some.1 hitems⟩)
    rw [hnone]

theorem flags_reading (hsound : f.problem? name = none) (v : Json.Value) :
    f.flags (f.reading v) = if f.listRule = some .metaAttributes then textsOf v else [] := by
  unfold Field.problem? at hsound
  unfold Field.flags Field.reading
  cases htype : f.type with
  | string =>
    cases hrule : f.listRule with
    | none => rfl
    | some rule => simp [htype, hrule] at hsound
  | list => rcases hrule : f.listRule with _ | (_ | _) <;> rfl

/-! ### One field -/

theorem present?_eq_none : present? members name = none ↔ IsAbsent members name := by
  unfold present? IsAbsent
  rcases members.lookup name with _ | (_ | _ | _ | _ | _ | _) <;> simp

theorem present?_eq_some : present? members name = some v ↔
    members.lookup name = some v ∧ v ≠ .null := by
  unfold present?
  rcases members.lookup name with _ | (_ | _ | _ | _ | _ | _) <;> simp +contextual [eq_comm]

theorem not_admits_null (type : FieldType) : ¬type.Admits .null := by
  cases type <;> simp [FieldType.Admits]

theorem fits_iff_of_absent (hbound : f.placeholder.isSome = true)
    (h : present? members name = none) : f.Fits name members ↔ f.isOptional = true := by
  have habsent := present?_eq_none.1 h
  constructor
  · intro hfits
    rcases hfits hbound with ⟨hoptional, -⟩ | ⟨v, hv, hadmits⟩
    · exact hoptional
    -- the member can only be `null`, which is of neither type
    · have hnull : v = .null := by simpa [IsAbsent, hv] using habsent
      exact absurd (hnull ▸ hadmits) (not_admits_null f.type)
  · intro hoptional _
    exact .inl ⟨hoptional, habsent⟩

theorem fits_iff_of_present (hbound : f.placeholder.isSome = true)
    (h : present? members name = some v) : f.Fits name members ↔ f.type.Admits v := by
  obtain ⟨hv, hnull⟩ := present?_eq_some.1 h
  constructor
  · intro hfits
    rcases hfits hbound with ⟨-, habsent⟩ | ⟨w, hw, hadmits⟩
    · simp [IsAbsent, hv, hnull] at habsent
    · exact Option.some.inj (hv.symm.trans hw) ▸ hadmits
  · intro hadmits _
    exact .inr ⟨v, hv, hadmits⟩

instance : Decidable (f.type.Admits v) :=
  match f.type with
  | .string => decidable_of_iff (v.asString?.isSome = true) (by
      simp only [Option.isSome_iff_exists, asString?_eq_some, FieldType.Admits])
  | .list => decidable_of_iff ((texts? v).isSome = true) (by
      simp only [Option.isSome_iff_exists, texts?_eq_some, FieldType.Admits])

instance : Decidable (f.Fits name members) :=
  if hbound : f.placeholder.isSome = true then
    match hpresent : present? members name with
    | none => decidable_of_iff _ (fits_iff_of_absent hbound hpresent).symm
    | some _ => decidable_of_iff _ (fits_iff_of_present hbound hpresent).symm
  else .isTrue fun h => absurd h hbound

theorem bindAll_eq (f : Field) (placeholder : String) (b : Binding) (d : Dictionary) :
    f.bindAll placeholder b d = d.insertAll (f.derivedFrom b ++ [(placeholder, b)]) := by
  rw [Table.insertAll_append]
  cases b <;> rfl

section Step

variable {placeholder : String} {p : Progress}

theorem step_of_unbound (h : f.placeholder = none) : step stem members p (name, f) = .ok p := by
  simp [step, h]

theorem step_of_absent (hbound : f.placeholder = some placeholder)
    (h : present? members name = none) : step stem members p (name, f) =
      if f.isOptional then .ok p else .error (.missingField stem name) := by
  simp [step, hbound, h]

theorem step_of_present (hbound : f.placeholder = some placeholder)
    (h : present? members name = some v) : step stem members p (name, f) =
      ((f.bind name v).mapError (Error.invalidDescription stem)).map fun b =>
        ⟨f.bindAll placeholder b p.dictionary, p.flags ++ f.flags b⟩ := by
  simp only [step, hbound, h]
  rfl

variable (p)

/-- A field that fits adds its writes and its flags. -/
theorem step_of_fits (hsound : f.problem? name = none) (h : f.Fits name members) :
    step stem members p (name, f) = .ok ⟨p.dictionary.insertAll (f.writes name members),
      p.flags ++ f.flagged name members⟩ := by
  unfold Field.writes Field.flagged Field.shown?
  cases hplaceholder : f.placeholder with
  | none =>
    rw [step_of_unbound hplaceholder]
    simp [Table.insertAll]
  | some placeholder =>
    have hbound : f.placeholder.isSome = true := by rw [hplaceholder, Option.isSome_some]
    cases hpresent : present? members name with
    | none =>
      rw [step_of_absent hplaceholder hpresent, if_pos ((fits_iff_of_absent hbound hpresent).1 h)]
      simp [Table.insertAll]
    | some v =>
      have hadmits := (fits_iff_of_present hbound hpresent).1 h
      rw [step_of_present hplaceholder hpresent, bind_of_admits hsound hbound hadmits]
      simp only [Except.mapError, Except.map, bindAll_eq, flags_reading hsound]
      rcases f.listRule with _ | (_ | _) <;> rfl

/-- A field that does not fit ends the run. -/
theorem step_of_not_fits (h : ¬f.Fits name members) :
    step stem members p (name, f) = .error (f.refusal stem name members) := by
  unfold Field.refusal
  cases hplaceholder : f.placeholder with
  | none =>
    refine absurd (fun hbound => ?_) h
    simp [hplaceholder] at hbound
  | some placeholder =>
    have hbound : f.placeholder.isSome = true := by rw [hplaceholder, Option.isSome_some]
    cases hpresent : present? members name with
    | none =>
      have hneeded := mt (fits_iff_of_absent hbound hpresent).2 h
      rw [step_of_absent hplaceholder hpresent, if_neg hneeded]
    | some v =>
      have hother := mt (fits_iff_of_present hbound hpresent).2 h
      rw [step_of_present hplaceholder hpresent, bind_of_not_admits hother]
      rfl

end Step

/-! ### All fields -/

theorem validate_eq_ok :
    s.validate = .ok () ↔ ∀ e ∈ s.fields.entries, e.2.problem? e.1 = none := by
  rw [validate, ← List.findSome?_eq_none_iff]
  cases s.fields.entries.findSome? fun e => e.2.problem? e.1 <;> simp

section Run

variable {es : List (String × Field)}

/-- Fields that all fit are taken up one after the other. -/
theorem foldlM_of_fits (hsound : ∀ e ∈ es, e.2.problem? e.1 = none)
    (h : ∀ e ∈ es, e.2.Fits e.1 members) (p : Progress) :
    es.foldlM (step stem members) p =
      .ok ⟨p.dictionary.insertAll (es.flatMap fun e => e.2.writes e.1 members),
        p.flags ++ es.flatMap fun e => e.2.flagged e.1 members⟩ := by
  -- any progress: each field adds to what the fields before it have made
  induction es generalizing p with
  | nil => simp [Table.insertAll, pure, Except.pure]
  | cons e rest ih =>
    obtain ⟨hsound, hsounds⟩ := List.forall_mem_cons.1 hsound
    obtain ⟨hfits, hmore⟩ := List.forall_mem_cons.1 h
    rw [List.foldlM_cons]
    change (step stem members p (e.1, e.2) >>= _) = _
    rw [step_of_fits p hsound hfits]
    change rest.foldlM (step stem members) _ = _
    rw [ih hsounds hmore, List.flatMap_cons, List.flatMap_cons, Table.insertAll_append,
      List.append_assoc]

/-- The first field that does not fit decides, whatever comes after it. -/
theorem foldlM_of_not_fits {before after : List (String × Field)}
    (hsound : ∀ e ∈ before, e.2.problem? e.1 = none)
    (hbefore : ∀ e ∈ before, e.2.Fits e.1 members) (h : ¬f.Fits name members) (p : Progress) :
    (before ++ (name, f) :: after).foldlM (step stem members) p =
      .error (f.refusal stem name members) := by
  rw [List.foldlM_append, foldlM_of_fits hsound hbefore]
  change ((name, f) :: after).foldlM (step stem members) _ = _
  rw [List.foldlM_cons, step_of_not_fits _ h]
  rfl

theorem foldlM_filter_bound (es : List (String × Field)) (p : Progress) :
    (es.filter (·.2.placeholder.isSome)).foldlM (step stem members) p =
      es.foldlM (step stem members) p := by
  induction es generalizing p with
  | nil => rfl
  | cons e rest ih =>
    obtain ⟨name, f⟩ := e
    cases hplaceholder : f.placeholder with
    | none =>
      rw [List.filter_cons_of_neg (by simp [hplaceholder]), ih, List.foldlM_cons,
        step_of_unbound hplaceholder]
      rfl
    | some placeholder =>
      rw [List.filter_cons_of_pos (by simp [hplaceholder]), List.foldlM_cons, List.foldlM_cons]
      exact congrArg _ (funext ih)

/-- If not all fields fit, then there is a first one. -/
theorem exists_first_not_fits (h : ¬∀ e ∈ es, e.2.Fits e.1 members) :
    ∃ before name f after, es = before ++ (name, f) :: after ∧
      (∀ e ∈ before, e.2.Fits e.1 members) ∧ ¬Field.Fits f name members := by
  classical
  have hsome : (es.find? fun e => !decide (e.2.Fits e.1 members)).isSome = true := by
    rw [List.find?_isSome]
    push Not at h
    obtain ⟨e, he, hfits⟩ := h
    exact ⟨e, he, by simpa using hfits⟩
  obtain ⟨⟨name, f⟩, hfirst⟩ := Option.isSome_iff_exists.1 hsome
  obtain ⟨hnot, before, after, hes, hbefore⟩ := List.find?_eq_some_iff_append.1 hfirst
  exact ⟨before, name, f, after, hes, by simpa using hbefore, by simpa using hnot⟩

end Run

/-! ### The entity -/

theorem entity_of_fits (hs : s.validate = .ok ()) {d : Description}
    (hd : d.value = .object members) (h : ∀ e ∈ s.fields.entries, e.2.Fits e.1 members) :
    s.entity d =
      .ok ⟨d.stem, s.flagged members, Table.ofList (s.writes d.stem members), []⟩ := by
  unfold entity
  rw [hd]
  dsimp only
  rw [foldlM_of_fits (validate_eq_ok.1 hs) h]
  change Except.ok _ = _
  rw [List.nil_append, nameDictionary, Table.ofList, ← Table.insertAll_append]
  rfl

theorem entity_of_not_fits (hs : s.validate = .ok ()) {d : Description}
    (hd : d.value = .object members) {before after : List (String × Field)}
    (hfields : s.fields.entries = before ++ (name, f) :: after)
    (hbefore : ∀ e ∈ before, e.2.Fits e.1 members) (h : ¬f.Fits name members) :
    s.entity d = .error (f.refusal d.stem name members) := by
  have hsound : ∀ e ∈ before, e.2.problem? e.1 = none := fun e he =>
    validate_eq_ok.1 hs e (hfields ▸ List.mem_append_left _ he)
  unfold entity
  rw [hd]
  dsimp only
  rw [hfields, foldlM_of_not_fits hsound hbefore h]
  rfl

theorem entity_of_not_object {d : Description} (h : ¬∃ members, d.value = .object members) :
    s.entity d = .error (.invalidDescription d.stem .notAnObject) := by
  unfold entity
  split
  · exact absurd ⟨_, ‹_›⟩ h
  · rfl

/-- A description is no object, or all fields fit, or there is a first one that does not. -/
theorem entity_cases (hs : s.validate = .ok ()) (d : Description) :
    (¬∃ members, d.value = .object members) ∧
        s.entity d = .error (.invalidDescription d.stem .notAnObject) ∨
      ∃ members, d.value = .object members ∧
        ((∀ e ∈ s.fields.entries, e.2.Fits e.1 members) ∧ s.entity d =
            .ok ⟨d.stem, s.flagged members, Table.ofList (s.writes d.stem members), []⟩ ∨
          ∃ before name f after, s.fields.entries = before ++ (name, f) :: after ∧
            (∀ e ∈ before, e.2.Fits e.1 members) ∧ ¬Field.Fits f name members ∧
            s.entity d = .error (f.refusal d.stem name members)) := by
  by_cases hobject : ∃ members, d.value = .object members
  · obtain ⟨members, hd⟩ := hobject
    refine .inr ⟨members, hd, ?_⟩
    by_cases hfits : ∀ e ∈ s.fields.entries, e.2.Fits e.1 members
    · exact .inl ⟨hfits, entity_of_fits hs hd hfits⟩
    · obtain ⟨before, name, f, after, hfields, hbefore, hf⟩ := exists_first_not_fits hfits
      exact .inr ⟨before, name, f, after, hfields, hbefore, hf,
        entity_of_not_fits hs hd hfields hbefore hf⟩
  · exact .inl ⟨hobject, entity_of_not_object hobject⟩

/-- Where there is an entity, all fields fit. -/
theorem fits_of_entity (hs : s.validate = .ok ()) {d : Description} {e : Entity}
    (h : s.entity d = .ok e) :
    ∃ members, d.value = .object members ∧ ∀ e ∈ s.fields.entries, e.2.Fits e.1 members := by
  rcases entity_cases hs d with ⟨-, herror⟩ |
    ⟨members, hd, ⟨hfits, -⟩ | ⟨before, name, f, after, -, -, -, herror⟩⟩
  · rw [herror] at h
    cases h
  · exact ⟨members, hd, hfits⟩
  · rw [herror] at h
    cases h

theorem refusal_ne_noListRule (f : Field) (stem name : String)
    (members : List (String × Json.Value)) (other field : String) :
    f.refusal stem name members ≠ .invalidDescription other (.noListRule field) := by
  unfold Field.refusal Field.mistake
  rcases present? members name with _ | v
  · exact nofun
  · rcases f.type with _ | _ <;> simp

theorem entity_ne_noListRule (hs : s.validate = .ok ()) (d : Description) (other field : String) :
    s.entity d ≠ .error (.invalidDescription other (.noListRule field)) := by
  rcases entity_cases hs d with ⟨-, h⟩ |
    ⟨members, hd, ⟨-, h⟩ | ⟨before, name, f, after, -, -, -, h⟩⟩
  · rw [h]
    simp
  · rw [h]
    exact nofun
  · rw [h]
    intro heq
    exact refusal_ne_noListRule f d.stem name members other field (Except.error.inj heq)

theorem entity_of_same_bound {s' : RecordSchema} (hname : s'.fileName = s.fileName)
    (hbound : s'.bound = s.bound) (d : Description) : s'.entity d = s.entity d := by
  have hfold : ∀ members p, s'.fields.entries.foldlM (step d.stem members) p =
      s.fields.entries.foldlM (step d.stem members) p := by
    intro members p
    rw [← foldlM_filter_bound, ← foldlM_filter_bound s.fields.entries, ← bound, hbound, bound]
  unfold entity nameDictionary
  simp only [hfold, hname]

/-- What becomes of a description, as the declarations tell it. -/
structure Follows (s : RecordSchema) (d : Description) : Prop where
  /-- There is an entity if the description is an object and its members fit all fields. -/
  succeeds_iff : (∃ e, s.entity d = .ok e) ↔
    ∃ members, d.value = .object members ∧ ∀ e ∈ s.fields.entries, e.2.Fits e.1 members
  not_object : (¬∃ members, d.value = .object members) →
    s.entity d = .error (.invalidDescription d.stem .notAnObject)
  /-- Of the fields that do not fit, the first one is reported. -/
  first_refused : ∀ members, d.value = .object members →
    (¬∀ e ∈ s.fields.entries, e.2.Fits e.1 members) →
      ∃ before name f after, s.fields.entries = before ++ (name, f) :: after ∧
        (∀ e ∈ before, e.2.Fits e.1 members) ∧ ¬Field.Fits f name members ∧
        s.entity d = .error (f.refusal d.stem name members)
  /-- No list is found to have no rule, in this description or any other. -/
  has_rules : ∀ stem name, s.entity d ≠ .error (.invalidDescription stem (.noListRule name))
  /-- The entity has the flags of the fields, and its placeholders show what was written last. -/
  entity_eq : ∀ members e, d.value = .object members → s.entity d = .ok e →
    e = ⟨d.stem, s.flagged members, Table.ofList (s.writes d.stem members), []⟩ ∧
      ∀ key, e.dictionary.get? key = (s.writes d.stem members).reverse.lookup key
  /-- Fields without placeholders may be declared in any way, or not at all. -/
  bound_only : ∀ s' : RecordSchema, s'.fileName = s.fileName → s'.bound = s.bound →
    s'.entity d = s.entity d

/-- Every description is treated as the declarations tell if none of them contradicts itself. -/
theorem entity_follows (hs : s.validate = .ok ()) (d : Description) : s.Follows d where
  succeeds_iff := by
    constructor
    · rintro ⟨e, he⟩
      exact fits_of_entity hs he
    · rintro ⟨members, hd, hfits⟩
      exact ⟨_, entity_of_fits hs hd hfits⟩
  not_object := entity_of_not_object
  first_refused := by
    intro members hd hnot
    obtain ⟨before, name, f, after, hfields, hbefore, hf⟩ := exists_first_not_fits hnot
    exact ⟨before, name, f, after, hfields, hbefore, hf,
      entity_of_not_fits hs hd hfields hbefore hf⟩
  has_rules := entity_ne_noListRule hs d
  entity_eq := by
    intro members e hd he
    obtain ⟨members', hd', hfits⟩ := fits_of_entity hs he
    obtain rfl : members' = members := by simpa [hd] using hd'.symm
    rw [entity_of_fits hs hd hfits] at he
    obtain rfl := Except.ok.inj he
    exact ⟨rfl, fun key => Table.get?_ofList _ key⟩
  bound_only := fun _ hname hbound => entity_of_same_bound hname hbound d

namespace Sample

/-- Records with a title, some lines, and tags if there are any. The title is written in small
    letters over the name from the file. -/
def items : RecordSchema where
  fileName := .ofList [("item_name", [.removeSuffix "Item"])]
  fields := .ofList
    [("title", ⟨some "item_title", .string, false, none, .ofList [("item_name", [.lowerFirst])]⟩),
      ("comment", ⟨none, .string, false, none, ∅⟩),
      ("lines", ⟨some "item_lines", .list, false, some .mergeWithNewline,
        .ofList [("item_start", [.lowerFirst])]⟩),
      ("tags", ⟨some "item_tags", .list, true, some .metaAttributes, ∅⟩)]

def sword : Description := ⟨"SwordItem", ⟨"SwordItem.json"⟩, .object
  [("comment", .bool true), ("lines", .array [.string "A", .string "B"]), ("tags", .null),
    ("title", .string "Sword")]⟩

end Sample

open Sample

/-- Of the two writes to the name the later one counts, the tags are left out, and the comment is
    ignored although it is no text. -/
theorem entity_follows_sword : ∃ e, items.entity sword = .ok e ∧ e.flags = [] ∧
    e.dictionary.get? "item_name" = some (.text "sword") ∧
    e.dictionary.get? "item_start" = some (.text "a\nB") ∧
    e.dictionary.get? "item_tags" = none := by
  have hsword := entity_follows (s := items) (by rfl) sword
  obtain ⟨e, he⟩ := hsword.succeeds_iff.2 ⟨_, rfl, by decide⟩
  obtain ⟨hall, hget⟩ := hsword.entity_eq _ e rfl he
  refine ⟨e, he, ?_, ?_, ?_, ?_⟩
  · rw [hall]
    rfl
  · rw [hget]
    decide +kernel
  · rw [hget]
    decide +kernel
  · rw [hget]
    decide +kernel

end CodeStencil.RecordSchema
