/-
  CodeStencil/Proofs/Planning/AttributeLists.lean
  ===============================================
  **One entity and many** — an attribute template is aggregated over the elements of each entity, and
  once more over the elements of all entities. The first time an element sees the templates before
  it, the second time it sees all of them; but nothing of what it sees has changed
  (`extends_of_fullDictionary`). So the aggregate for all entities is put together from those of
  single entities (`attributeListDictionary_agrees`).
-/
import CodeStencil.Proofs.Aggregates.Grouping
import CodeStencil.Proofs.Planning.FullDictionary

namespace CodeStencil.Plan.Context

open Aggregate Template

variable {c : Context} {e : Entity} {full : Dictionary} {t : AggregateTemplate}

/-! ### Before and after -/

/-- What templates saw when their turn came is what they see in the end: names of later templates are
    not bound before, neither by the entity nor by another template. -/
theorem extends_of_fullDictionary {before after : List AggregateTemplate} {seen : Dictionary}
    (hsplit : c.bundle.attributeTemplates = before ++ t :: after)
    (hnames : (c.bundle.attributeTemplates.map (·.name)).Nodup)
    (hidentity : ∀ t ∈ c.bundle.attributeTemplates, e.dictionary.contains t.name = false)
    (hseen : (c.withAttributeTemplates before).fullDictionary e = .ok seen)
    (hfull : c.fullDictionary e = .ok full) : full.Extends seen := by
  rw [fullDictionary_withAttributeTemplates] at hseen
  rw [fullDictionary_eq, hsplit, List.foldlM_append] at hfull
  obtain ⟨d, hd, hrest⟩ := bind_eq_ok.1 hfull
  obtain rfl : seen = d := Except.ok.inj (hseen.symm.trans hd)
  rw [hsplit] at hnames hidentity
  obtain ⟨-, -, hapart⟩ := List.pairwise_append.1 (List.pairwise_map.1 hnames)
  intro name b hb
  have hother : ∀ u ∈ t :: after, u.name ≠ name := by
    rintro u hu rfl
    have hnew : seen.get? u.name = e.dictionary.get? u.name :=
      get?_of_foldlM_bindText hseen fun other hother => hapart other hother u hu
    rw [hnew, Table.get?_eq_none_iff.2 (hidentity u (List.mem_append_right before hu))] at hb
    cases hb
  rw [get?_of_foldlM_bindText hrest hother, hb]

theorem elementItems_extends (e : Entity) {d seen : Dictionary} (h : d.Extends seen) :
    List.Forall₂ Item.Extends (elementItems e d) (elementItems e seen) := by
  unfold elementItems
  rw [List.forall₂_map_left_iff, List.forall₂_map_right_iff, List.forall₂_same]
  intro x _
  have hitem : (elementItem e d x).dictionary.Extends (elementItem e seen x).dictionary := by
    rw [dictionary_elementItem, dictionary_elementItem]
    exact h.merge x.dictionary
  exact ⟨rfl, hitem⟩

/-- Aggregated once more, now that all templates are bound, a template has the text it is bound to. -/
theorem elementsText_fullDictionary
    (hnames : (c.bundle.attributeTemplates.map (·.name)).Nodup)
    (hidentity : ∀ t ∈ c.bundle.attributeTemplates, e.dictionary.contains t.name = false)
    (hfull : c.fullDictionary e = .ok full) (ht : t ∈ c.bundle.attributeTemplates) :
    ∃ text, c.elementsText e full t = .ok text ∧ full.get? t.name = some (.text text) := by
  obtain ⟨before, after, seen, text, hsplit, hseen, htext, hbound⟩ :=
    exists_get?_of_foldlM_bindText hfull hnames ht
  have hextends := extends_of_fullDictionary hsplit hnames hidentity hseen hfull
  obtain ⟨template, htemplate, htext⟩ := aggregate_eq_ok.1 htext
  refine ⟨text, aggregate_eq_ok.2 ⟨template, htemplate, ?_⟩, hbound⟩
  exact aggregate_of_extends (elementItems_extends e hextends) htext

/-! ### All entities -/

theorem attributeListDictionary_eq (c : Context) (ds : List (Entity × Dictionary)) :
    c.attributeListDictionary ds = c.bundle.attributeTemplates.foldlM
      (bindText fun _ t => c.aggregate t (ds.flatMap fun e => elementItems e.1 e.2)) ∅ := rfl

theorem get?_attributeListDictionary {ds : List (Entity × Dictionary)} {d : Dictionary}
    (h : c.attributeListDictionary ds = .ok d)
    (hnames : (c.bundle.attributeTemplates.map (·.name)).Nodup)
    (ht : t ∈ c.bundle.attributeTemplates) :
    ∃ text, c.aggregate t (ds.flatMap fun e => elementItems e.1 e.2) = .ok text ∧
      d.get? t.name = some (.text text) := by
  rw [attributeListDictionary_eq] at h
  obtain ⟨-, -, -, text, -, -, htext, hbound⟩ := exists_get?_of_foldlM_bindText h hnames ht
  exact ⟨text, htext, hbound⟩

theorem fullDictionary_of_mem_dictionaries {entities : List Entity}
    {ds : List (Entity × Dictionary)} (h : c.dictionaries entities = .ok ds)
    {e : Entity × Dictionary} (he : e ∈ ds) :
    e.1 ∈ entities ∧ c.fullDictionary e.1 = .ok e.2 := by
  obtain ⟨e', hmem, hpair⟩ := exists_of_mem_mapM h he
  obtain ⟨full, hfull, hpair⟩ := bind_eq_ok.1 hpair
  obtain rfl : (e', full) = e := Except.ok.inj hpair
  exact ⟨hmem, hfull⟩

theorem exists_of_dictionaries {entities : List Entity} {ds : List (Entity × Dictionary)}
    (h : c.dictionaries entities = .ok ds) (hne : entities ≠ []) : ∃ e, e ∈ ds := by
  apply List.exists_mem_of_ne_nil
  rintro rfl
  exact hne (List.forall₂_nil_right_iff.1 (mapM_eq_ok.1 h))

/-- The attribute templates over the elements of all entities, for templates of different names that
    are no placeholders of an entity itself. For a single entity they have the texts that they have
    for this entity. For more, a template that separates its items shows the texts of the entities of
    which elements take part, separated in the same way. -/
theorem attributeListDictionary_agrees (c : Context)
    (hnames : (c.bundle.attributeTemplates.map (·.name)).Nodup) (entities : List Entity)
    (hidentity : ∀ e ∈ entities, ∀ t ∈ c.bundle.attributeTemplates,
      e.dictionary.contains t.name = false)
    {ds : List (Entity × Dictionary)} (h : c.dictionaries entities = .ok ds) :
    (entities ≠ [] ∨
      (∀ t ∈ c.bundle.attributeTemplates, ∃ template, c.store.get t.name = .ok template) →
      ∃ d, c.attributeListDictionary ds = .ok d) ∧
    ∀ d, c.attributeListDictionary ds = .ok d →
      (∀ e full, ds = [(e, full)] → ∀ t ∈ c.bundle.attributeTemplates,
        ∃ text, full.get? t.name = some (.text text) ∧ d.get? t.name = some (.text text)) ∧
      ∀ t ∈ c.bundle.attributeTemplates, t.hasParam .removeDuplicates = false →
        t.hasParam .sort = false → ∀ template body tail, c.store.get t.name = .ok template →
        Delimited template c.bundle.delimiters body tail →
        ∃ texts,
          List.Forall₂ (fun e text => e.2.get? t.name = some (.text text))
            (ds.filter fun e => (elementItems e.1 e.2).any t.takes) texts ∧
          d.get? t.name = some (.text ((c.bundle.delimiters.textOf tail).intercalate texts)) := by
  have hown : ∀ e ∈ ds, ∀ t ∈ c.bundle.attributeTemplates,
      ∃ text, c.elementsText e.1 e.2 t = .ok text ∧ e.2.get? t.name = some (.text text) := by
    intro e he t ht
    obtain ⟨hentity, hfull⟩ := fullDictionary_of_mem_dictionaries h he
    exact elementsText_fullDictionary hnames (hidentity e.1 hentity) hfull ht
  refine ⟨fun hsome => ?_, fun d hd => ⟨?_, ?_⟩⟩
  · have hstored : ∀ t ∈ c.bundle.attributeTemplates,
        ∃ template, c.store.get t.name = .ok template := by
      rcases hsome with hne | hstored
      · intro t ht
        obtain ⟨e, he⟩ := exists_of_dictionaries h hne
        obtain ⟨text, htext, -⟩ := hown e he t ht
        obtain ⟨template, htemplate, -⟩ := aggregate_eq_ok.1 htext
        exact ⟨template, htemplate⟩
      · exact hstored
    rw [attributeListDictionary_eq]
    refine exists_foldlM_bindText (fun t ht _ => ?_) ∅
    obtain ⟨template, htemplate⟩ := hstored t ht
    rw [aggregate_of_get htemplate, exists_aggregate_flatMap]
    intro e he
    obtain ⟨text, htext, -⟩ := hown e he t ht
    exact ⟨text, (aggregate_of_get htemplate _).symm.trans htext⟩
  · rintro e full rfl t ht
    obtain ⟨text, htext, hbound⟩ := get?_attributeListDictionary hd hnames ht
    obtain ⟨text', htext', hbound'⟩ := hown (e, full) (List.mem_singleton_self _) t ht
    rw [List.flatMap_singleton] at htext
    obtain rfl : text = text' := Except.ok.inj (htext.symm.trans htext')
    exact ⟨text, hbound', hbound⟩
  · intro t ht hdrop hsort template body tail htemplate hdelimited
    have hgroups : ∀ e ∈ ds, ∃ text,
        CodeStencil.aggregate template t c.bundle.delimiters (elementItems e.1 e.2) = .ok text ∧
          e.2.get? t.name = some (.text text) := by
      intro e he
      obtain ⟨text, htext, hbound⟩ := hown e he t ht
      exact ⟨text, (aggregate_of_get htemplate _).symm.trans htext, hbound⟩
    obtain ⟨texts, htexts, hall⟩ := exists_aggregate_flatMap_of_delimited hdelimited hdrop hsort
      fun e he => (hgroups e he).imp fun _ htext => htext.1
    obtain ⟨text, htext, hbound⟩ := get?_attributeListDictionary hd hnames ht
    rw [aggregate_of_get htemplate, hall] at htext
    obtain rfl := Except.ok.inj htext
    refine ⟨texts, ?_, hbound⟩
    have hmem : ∀ e ∈ ds.filter fun e => (elementItems e.1 e.2).any t.takes, e ∈ ds :=
      fun e he => List.mem_of_mem_filter he
    refine ((List.forall₂_and_left _ _).2 ⟨hmem, htexts⟩).imp fun e text hpair => ?_
    obtain ⟨text', htext', hbound'⟩ := hgroups e hpair.1
    obtain rfl : text = text' := Except.ok.inj (hpair.2.symm.trans htext')
    exact hbound'

namespace Sample

def unit : Entity := struct "unit" []

def arc : Entity := struct "arc" [field "a" []]

/-- The entity with all its placeholders. -/
def filled (e : Entity) : Entity × Dictionary := (e, (declared.fullDictionary e).toOption.getD ∅)

theorem delimited_uses : Delimited uses declared.bundle.delimiters
    [.placeholder "fields", .literal [':'], .placeholder "name"] [.placeholder "sep"] where
  segments := rfl
  notInBody := by
    intro name hname
    have hor : name = "fields" ∨ name = "name" := by simpa using hname
    rcases hor with rfl | rfl
    · decide
    · decide
  inTail := by
    intro s hs
    exact ⟨"sep", by simpa using hs, by decide⟩

end Sample

open Sample

/-- A point, a unit without fields, and an arc: the uses of both others are separated as their fields
    are. For the point alone they are its own. -/
theorem attributeListDictionary_point :
    (∃ d, declared.attributeListDictionary [filled point, filled unit, filled arc] = .ok d ∧
      d.get? "uses" = some (.text "x, y:x, own:y, a:a")) ∧
    ∃ d, declared.attributeListDictionary [filled point] = .ok d ∧
      d.get? "uses" = some (.text "x, y:x, own:y") := by
  have hnames : (declared.bundle.attributeTemplates.map (·.name)).Nodup := by decide
  have hidentity : ∀ e ∈ [point, unit, arc], ∀ t ∈ declared.bundle.attributeTemplates,
      e.dictionary.contains t.name = false := by decide
  have hidentity' : ∀ e ∈ [point], ∀ t ∈ declared.bundle.attributeTemplates,
      e.dictionary.contains t.name = false := by decide
  have hds : declared.dictionaries [point, unit, arc] =
      .ok [filled point, filled unit, filled arc] := eq_ok_of_toOption (by decide +kernel)
  have hds' : declared.dictionaries [point] = .ok [filled point] :=
    eq_ok_of_toOption (by decide +kernel)
  obtain ⟨hexists, hall⟩ := attributeListDictionary_agrees declared hnames _ hidentity hds
  obtain ⟨hexists', hall'⟩ := attributeListDictionary_agrees declared hnames _ hidentity' hds'
  obtain ⟨d, hd⟩ := hexists (Or.inl (by simp))
  obtain ⟨d', hd'⟩ := hexists' (Or.inl (by simp))
  have hpoint : (filled point).2.get? "uses" = some (.text "x, y:x, own:y") := by decide +kernel
  have harc : (filled arc).2.get? "uses" = some (.text "a:a") := by decide +kernel
  refine ⟨⟨d, hd, ?_⟩, d', hd', ?_⟩
  · obtain ⟨texts, htexts, hbound⟩ :=
      (hall d hd).2 (.named "uses") (by decide) rfl rfl uses _ _ rfl delimited_uses
    have hfilter : ([filled point, filled unit, filled arc].filter fun e =>
        (elementItems e.1 e.2).any (AggregateTemplate.named "uses").takes) =
        [filled point, filled arc] := by decide +kernel
    rw [hfilter] at htexts
    obtain ⟨first, rest, hfirst, hrest, rfl⟩ := List.forall₂_cons_left_iff.1 htexts
    obtain ⟨last, rest, hlast, hnone, rfl⟩ := List.forall₂_cons_left_iff.1 hrest
    obtain rfl := List.forall₂_nil_left_iff.1 hnone
    obtain rfl := Binding.text.inj (Option.some.inj (hfirst.symm.trans hpoint))
    obtain rfl := Binding.text.inj (Option.some.inj (hlast.symm.trans harc))
    refine hbound.trans (congrArg some (congrArg Binding.text ?_))
    decide +kernel
  · obtain ⟨text, htext, hbound⟩ := (hall' d' hd').1 _ _ rfl (.named "uses") (by decide)
    exact hbound.trans (htext.symm.trans hpoint)

end CodeStencil.Plan.Context
