/-
  CodeStencil/Proofs/Planning/FullDictionary.lean
  ===============================================
  **Templates see what is bound before them** — templates are bound to texts one after the other, and
  a text depends on the bindings that are there when its turn comes (`foldlM_bindText_eq_ok`). So the
  placeholders of an entity do not depend on later templates, but for those of their names, and each
  attribute template is aggregated over elements that see the templates before it
  (`fullDictionary_append`).
-/
import CodeStencil.Plan
import CodeStencil.Proofs.Aggregates.Joining

namespace CodeStencil

open Aggregate Template

namespace Plan

/-! ### One template after the other -/

section Binding

variable {f : Dictionary → AggregateTemplate → Except Error String}
  {ts before after : List AggregateTemplate} {t : AggregateTemplate} {d d' : Dictionary}

/-- Binds a template to the text it has in view of a dictionary. -/
def bindText (f : Dictionary → AggregateTemplate → Except Error String) (d : Dictionary)
    (t : AggregateTemplate) : Except Error Dictionary := do
  return d.insert t.name (.text (← f d t))

theorem bindText_eq_ok : bindText f d t = .ok d' ↔
    ∃ text, f d t = .ok text ∧ d' = d.insert t.name (.text text) := by
  unfold bindText
  rw [bind_eq_ok]
  simp only [pure, Except.pure, Except.ok.injEq, eq_comm]

/-- A template that comes after some and before others is bound to its text in view of the former. -/
theorem foldlM_bindText_eq_ok :
    (before ++ t :: after).foldlM (bindText f) d = .ok d' ↔
      ∃ seen text, before.foldlM (bindText f) d = .ok seen ∧ f seen t = .ok text ∧
        after.foldlM (bindText f) (seen.insert t.name (.text text)) = .ok d' := by
  rw [List.foldlM_append, bind_eq_ok]
  simp only [List.foldlM_cons, bind_eq_ok, bindText_eq_ok]
  constructor
  · rintro ⟨seen, hseen, -, ⟨text, htext, rfl⟩, hd'⟩
    exact ⟨seen, text, hseen, htext, hd'⟩
  · rintro ⟨seen, text, hseen, htext, hd'⟩
    exact ⟨seen, hseen, _, ⟨text, htext, rfl⟩, hd'⟩

/-- Templates bind their own names and no others. -/
theorem get?_of_foldlM_bindText (h : ts.foldlM (bindText f) d = .ok d') {name : String}
    (hname : ∀ t ∈ ts, t.name ≠ name) : d'.get? name = d.get? name := by
  induction ts generalizing d with
  | nil => rw [← Except.ok.inj h]
  | cons t rest ih =>
    obtain ⟨hfirst, hrest⟩ := List.forall_mem_cons.1 hname
    rw [List.foldlM_cons] at h
    obtain ⟨next, hnext, h⟩ := bind_eq_ok.1 h
    obtain ⟨text, -, rfl⟩ := bindText_eq_ok.1 hnext
    rw [ih h hrest, Table.get?_insert, if_neg hfirst.symm]

/-- If no two templates have the same name then each one stays bound to the text it has at its turn. -/
theorem exists_get?_of_foldlM_bindText (h : ts.foldlM (bindText f) d = .ok d')
    (hnames : (ts.map (·.name)).Nodup) (ht : t ∈ ts) :
    ∃ before after seen text, ts = before ++ t :: after ∧
      before.foldlM (bindText f) d = .ok seen ∧ f seen t = .ok text ∧
      d'.get? t.name = some (.text text) := by
  obtain ⟨before, after, rfl⟩ := List.append_of_mem ht
  obtain ⟨-, hrest, -⟩ := List.pairwise_append.1 (List.pairwise_map.1 hnames)
  obtain ⟨hafter, -⟩ := List.pairwise_cons.1 hrest
  obtain ⟨seen, text, hseen, htext, hd'⟩ := foldlM_bindText_eq_ok.1 h
  refine ⟨before, after, seen, text, rfl, hseen, htext, ?_⟩
  rw [get?_of_foldlM_bindText hd' fun other hother => (hafter other hother).symm,
    Table.get?_insert, if_pos rfl]

/-- All templates can be bound if each of them always has a text. -/
theorem exists_foldlM_bindText (h : ∀ t ∈ ts, ∀ seen, ∃ text, f seen t = .ok text)
    (d : Dictionary) : ∃ d', ts.foldlM (bindText f) d = .ok d' := by
  induction ts generalizing d with
  | nil => exact ⟨d, rfl⟩
  | cons t rest ih =>
    obtain ⟨hfirst, hrest⟩ := List.forall_mem_cons.1 h
    obtain ⟨text, htext⟩ := hfirst d
    obtain ⟨d', hd'⟩ := ih hrest (d.insert t.name (.text text))
    exact ⟨d', bind_eq_ok.2 ⟨_, bindText_eq_ok.2 ⟨text, htext, rfl⟩, hd'⟩⟩

end Binding

namespace Context

variable {c : Context} {e : Entity} {d : Dictionary}

/-! ### The placeholders of an entity -/

def elementItem (e : Entity) (d : Dictionary) (x : Element) : Item :=
  ⟨e.name, x.flags, [d, x.dictionary]⟩

/-- The context with other attribute templates. -/
def withAttributeTemplates (c : Context) (ts : List AggregateTemplate) : Context :=
  { c with bundle := { c.bundle with attributeTemplates := ts } }

/-- The text of a template over the elements of an entity. -/
def elementsText (c : Context) (e : Entity) (d : Dictionary) (t : AggregateTemplate) :
    Except Error String :=
  c.aggregate t (elementItems e d)

theorem fullDictionary_eq (c : Context) (e : Entity) : c.fullDictionary e =
    c.bundle.attributeTemplates.foldlM (bindText (c.elementsText e)) e.dictionary := rfl

theorem fullDictionary_withAttributeTemplates (c : Context) (ts : List AggregateTemplate)
    (e : Entity) : (c.withAttributeTemplates ts).fullDictionary e =
      ts.foldlM (bindText (c.elementsText e)) e.dictionary := rfl

theorem dictionary_elementItem (e : Entity) (d : Dictionary) (x : Element) :
    (elementItem e d x).dictionary = d.merge x.dictionary := Table.layered_pair d x.dictionary

theorem get?_elementItem (e : Entity) (d : Dictionary) (x : Element) (name : String) :
    (elementItem e d x).dictionary.get? name = (x.dictionary.get? name).or (d.get? name) := by
  rw [dictionary_elementItem, Table.get?_merge]

theorem aggregate_of_get {t : AggregateTemplate} {template : Template}
    (h : c.store.get t.name = .ok template) (items : List Item) :
    c.aggregate t items = CodeStencil.aggregate template t c.bundle.delimiters items := by
  unfold Context.aggregate
  rw [h]
  rfl

theorem aggregate_eq_ok {t : AggregateTemplate} {items : List Item} {text : String} :
    c.aggregate t items = .ok text ↔ ∃ template, c.store.get t.name = .ok template ∧
      CodeStencil.aggregate template t c.bundle.delimiters items = .ok text := bind_eq_ok

/-! ### What an element shows -/

/-- The text of a template for elements in a row. A placeholder shows a delimiter, which is empty for
    the last element; or else what the element binds; or else what was there before. -/
def Shown (template : Template) (delimiters : Delimiters) (seen : Dictionary) :
    List Element → String → Prop
  | [], text => text = ""
  | x :: rest, text => ∃ d first more,
    (∀ name, d.get? name =
      ((delimiters.get? name).map fun value => Binding.text (if rest.isEmpty then "" else value)).or
        ((x.dictionary.get? name).or (seen.get? name))) ∧
    template.render d = .ok first ∧ Shown template delimiters seen rest more ∧ text = first ++ more

theorem shown_of_renderAll {template : Template} {delimiters : Delimiters} {xs : List Element}
    {text : String}
    (h : renderAll template delimiters (xs.map fun x => (elementItem e d x).dictionary) =
      .ok text) : Shown template delimiters d xs text := by
  induction xs generalizing text with
  | nil => exact (Except.ok.inj h).symm
  | cons x rest ih =>
    cases rest with
    | nil =>
      -- the last element: no delimiter has a text
      refine ⟨_, text, "", fun name => ?_, h, rfl, String.append_empty.symm⟩
      simp [Delimiters.emptyDictionary, get?_elementItem]
    | cons next more =>
      obtain ⟨first, hfirst, h⟩ := bind_eq_ok.1 h
      obtain ⟨tail, htail, h⟩ := bind_eq_ok.1 h
      refine ⟨_, first, tail, fun name => ?_, hfirst, ih htail, (Except.ok.inj h).symm⟩
      simp [Delimiters.dictionary, get?_elementItem]

theorem elementsText_eq_ok {t : AggregateTemplate} {text : String}
    (h : c.elementsText e d t = .ok text) : ∃ template content,
      c.store.get t.name = .ok template ∧
      Shown template c.bundle.delimiters d
        (e.elements.filter fun x => t.takes (elementItem e d x)) content ∧
      text = t.postProcess content := by
  obtain ⟨template, htemplate, htext⟩ := aggregate_eq_ok.1 h
  obtain ⟨-, content, hcontent, rfl⟩ := CodeStencil.aggregate_eq_ok.1 htext
  have hitems : ((elementItems e d).filter t.takes).map Item.dictionary =
      (e.elements.filter fun x => t.takes (elementItem e d x)).map fun x =>
        (elementItem e d x).dictionary := by
    unfold elementItems
    rw [List.filter_map, List.map_map]
    rfl
  rw [hitems] at hcontent
  exact ⟨template, content, htemplate, shown_of_renderAll hcontent, rfl⟩

/-- The placeholders of an entity, for attribute templates of which some come first. These alone give
    placeholders, too, and both agree except for the names of the others; names of no template are
    bound as they were. Each template is aggregated in view of the templates before it, and its
    aggregate stays unless a later template has its name. -/
theorem fullDictionary_append (c : Context) (e : Entity) (ts₁ ts₂ : List AggregateTemplate)
    {d : Dictionary} (h : (c.withAttributeTemplates (ts₁ ++ ts₂)).fullDictionary e = .ok d) :
    (∃ d₁, (c.withAttributeTemplates ts₁).fullDictionary e = .ok d₁ ∧
      ∀ name, (∀ t ∈ ts₂, t.name ≠ name) → d.get? name = d₁.get? name) ∧
    (∀ name, (∀ t ∈ ts₁ ++ ts₂, t.name ≠ name) → d.get? name = e.dictionary.get? name) ∧
    ∀ before t after, ts₁ ++ ts₂ = before ++ t :: after → ∃ seen template content,
      (c.withAttributeTemplates before).fullDictionary e = .ok seen ∧
      c.aggregate t (elementItems e seen) = .ok (t.postProcess content) ∧
      c.store.get t.name = .ok template ∧
      (∀ x name, (elementItem e seen x).dictionary.get? name =
        (x.dictionary.get? name).or (seen.get? name)) ∧
      Shown template c.bundle.delimiters seen
        (e.elements.filter fun x => t.takes (elementItem e seen x)) content ∧
      (c.withAttributeTemplates (before ++ [t])).fullDictionary e =
        .ok (seen.insert t.name (.text (t.postProcess content))) ∧
      ((∀ other ∈ after, other.name ≠ t.name) →
        d.get? t.name = some (.text (t.postProcess content))) := by
  rw [fullDictionary_withAttributeTemplates] at h
  refine ⟨?_, ?_, ?_⟩
  · rw [List.foldlM_append] at h
    obtain ⟨d₁, hd₁, hd⟩ := bind_eq_ok.1 h
    exact ⟨d₁, hd₁, fun name hname => get?_of_foldlM_bindText hd hname⟩
  · intro name hname
    exact get?_of_foldlM_bindText h hname
  · intro before t after hsplit
    rw [hsplit] at h
    obtain ⟨seen, text, hseen, htext, hd⟩ := foldlM_bindText_eq_ok.1 h
    obtain ⟨template, content, htemplate, hshown, rfl⟩ := elementsText_eq_ok htext
    refine ⟨seen, template, content, hseen, htext, htemplate, get?_elementItem e seen, hshown,
      ?_, ?_⟩
    · exact foldlM_bindText_eq_ok.2 ⟨seen, _, hseen, htext, rfl⟩
    · intro hafter
      rw [get?_of_foldlM_bindText hd hafter, Table.get?_insert, if_pos rfl]

/-! ### Fields and their uses -/

namespace Sample

def fields : Template := ⟨"fields", [.placeholder "name", .placeholder "sep"]⟩

/-- This template shows the other one, which an element may bind otherwise. -/
def uses : Template :=
  ⟨"uses", [.placeholder "fields", .literal [':'], .placeholder "name", .placeholder "sep"]⟩

def declared : Context where
  bundle := ⟨.ofList [("sep", ", ")], [.named "fields", .named "uses"], [], [], ∅, none, none⟩
  store := ⟨⟨"/t"⟩, .ofList [("fields", fields), ("uses", uses)]⟩
  output := ⟨"/out"⟩

def field (name : String) (more : List (String × Binding)) : Element :=
  ⟨name, [], .ofList (("name", .text name) :: more)⟩

def struct (name : String) (fields : List Element) : Entity :=
  ⟨name, [], .ofList [("name", .text name), ("kind", .text "struct")], fields⟩

def point : Entity := struct "point" [field "x" [], field "y" [("fields", .text "own")]]

end Sample

open Sample

/-- The fields alone are the same, and they are what the uses see, but for the element that has fields
    of its own. The kind stays as it was. -/
theorem fullDictionary_point : ∃ d d₁,
    declared.fullDictionary point = .ok d ∧
      (declared.withAttributeTemplates [.named "fields"]).fullDictionary point = .ok d₁ ∧
      d₁.get? "fields" = some (.text "x, y") ∧ d.get? "fields" = d₁.get? "fields" ∧
      d.get? "kind" = some (.text "struct") ∧
      declared.aggregate (.named "uses") (elementItems point d₁) = .ok "x, y:x, own:y" ∧
      d.get? "uses" = some (.text "x, y:x, own:y") := by
  obtain ⟨d, hd⟩ := exists_of_isSome (x := declared.fullDictionary point) (by decide +kernel)
  obtain ⟨⟨d₁, hd₁, hsame⟩, hkept, htemplates⟩ :=
    fullDictionary_append declared point [.named "fields"] [.named "uses"] hd
  obtain ⟨seen, template, content, hseen, haggregate, -, -, -, -, hbound⟩ :=
    htemplates [.named "fields"] (.named "uses") [] rfl
  obtain rfl : d₁ = seen := Except.ok.inj (hd₁.symm.trans hseen)
  have hfields : (declared.fullDictionary point).toOption.bind (·.get? "fields") =
      some (.text "x, y") := by decide +kernel
  have huses : (declared.fullDictionary point).toOption.bind (·.get? "uses") =
      some (.text "x, y:x, own:y") := by decide +kernel
  rw [hd] at hfields huses
  have hcontent := Binding.text.inj (Option.some.inj ((hbound (by simp)).symm.trans huses))
  rw [hcontent] at haggregate
  have hkeep := hsame "fields" (by decide)
  refine ⟨d, d₁, hd, hd₁, hkeep.symm.trans hfields, hkeep, ?_, haggregate, huses⟩
  exact (hkept "kind" (by decide)).trans (by decide)

end Context

end Plan

end CodeStencil
