/-
  CodeStencil/Proofs/Aggregates/Joining.lean
  ==========================================
  **Aggregates as joined texts** — a delimiter has its text for all accepted items but the last one
  and is empty there, so delimiters at the end of a template separate the items
  (`renderAll_eq_ok_of_delimited`). Items that are not accepted have no say, neither in the text nor
  in whether there is one (`aggregate_joins`).
-/
import CodeStencil.Proofs.Aggregates.Acceptance
import CodeStencil.Proofs.Template.Rendering

namespace CodeStencil

open Aggregate Template

/-! ### Delimiters -/

namespace Delimiters

variable {delimiters : Delimiters} {d : Dictionary} {name : String}

/-- What delimiters in a row show. -/
def textOf (delimiters : Delimiters) (tail : List Segment) : String :=
  String.join ((tail.filterMap Segment.name?).map fun name => (delimiters.get? name).getD "")

@[simp] theorem contains_dictionary :
    (dictionary delimiters).contains name = delimiters.contains name := Table.contains_map _ _ _

@[simp] theorem contains_emptyDictionary :
    (emptyDictionary delimiters).contains name = delimiters.contains name := Table.contains_map _ _ _

theorem get?_merge_dictionary (h : delimiters.contains name = true) :
    (d.merge (dictionary delimiters)).get? name =
      some (.text ((delimiters.get? name).getD "")) := by
  obtain ⟨text, htext⟩ := Table.exists_get?_iff.2 h
  simp [dictionary, htext]

theorem get?_merge_emptyDictionary (h : delimiters.contains name = true) :
    (d.merge (emptyDictionary delimiters)).get? name = some (.text "") := by
  obtain ⟨text, htext⟩ := Table.exists_get?_iff.2 h
  simp [emptyDictionary, htext]

end Delimiters

/-- A template that is a body without delimiters, followed by nothing but delimiters. -/
structure Delimited (template : Template) (delimiters : Delimiters) (body tail : List Segment) :
    Prop where
  segments : template.segments = body ++ tail
  notInBody : ∀ name, .placeholder name ∈ body → delimiters.contains name = false
  inTail : ∀ s ∈ tail, ∃ name, s = .placeholder name ∧ delimiters.contains name = true

namespace Delimited

variable {template : Template} {delimiters : Delimiters} {body tail : List Segment}

theorem render_eq (h : Delimited template delimiters body tail) (d : Dictionary) :
    template.render d = do
      let text ← (Template.mk template.name body).render d
      let more ← (Template.mk template.name tail).render d
      return text ++ more := by
  rw [← render_append, ← h.segments]

/-- The body does not see the delimiters, whatever their texts are. -/
theorem render_body (h : Delimited template delimiters body tail) {u : Dictionary}
    (hu : ∀ name, u.contains name = delimiters.contains name) (d : Dictionary) :
    (Template.mk template.name body).render (d.merge u) =
      (Template.mk template.name body).render d := by
  refine render_congr fun name hname => Table.get?_merge_of_not_contains ?_
  rw [hu, h.notInBody name (mem_placeholders.1 hname)]

/-- With delimiters the separator follows the body. -/
theorem render_merge_dictionary (h : Delimited template delimiters body tail) (d : Dictionary) :
    template.render (d.merge delimiters.dictionary) =
      ((Template.mk template.name body).render d).map (· ++ delimiters.textOf tail) := by
  have htail : (Template.mk template.name tail).render (d.merge delimiters.dictionary) =
      .ok (delimiters.textOf tail) := by
    refine render_placeholders (fun s hs => ?_) template.name
    obtain ⟨name, rfl, hname⟩ := h.inTail s hs
    exact ⟨name, rfl, Delimiters.get?_merge_dictionary hname⟩
  rw [h.render_eq, h.render_body (fun _ => Delimiters.contains_dictionary), htail]
  cases (Template.mk template.name body).render d <;> rfl

/-- Without them the body is all that is left. -/
theorem render_merge_emptyDictionary (h : Delimited template delimiters body tail)
    (d : Dictionary) :
    template.render (d.merge delimiters.emptyDictionary) =
      (Template.mk template.name body).render d := by
  have htail : (Template.mk template.name tail).render (d.merge delimiters.emptyDictionary) =
      .ok (String.join ((tail.filterMap Segment.name?).map fun _ => "")) := by
    refine render_placeholders (fun s hs => ?_) template.name
    obtain ⟨name, rfl, hname⟩ := h.inTail s hs
    exact ⟨name, rfl, Delimiters.get?_merge_emptyDictionary hname⟩
  have hempty : ∀ names : List String, String.join (names.map fun _ => "") = "" := by
    intro names
    induction names with
    | nil => rfl
    | cons name rest ih => rw [List.map_cons, String.join_cons, ih, String.empty_append]
  rw [h.render_eq, h.render_body (fun _ => Delimiters.contains_emptyDictionary), htail, hempty]
  cases (Template.mk template.name body).render d with
  | error e => rfl
  | ok text => exact congrArg Except.ok String.append_empty

end Delimited

/-! ### Rendering all items -/

namespace Aggregate

variable {template : Template} {delimiters : Delimiters} {ds : List Dictionary} {text : String}

/-- Delimiters are always bound. All other placeholders have to be bound by each dictionary, the
    last one not excepted. -/
theorem exists_renderAll_iff : (∃ text, renderAll template delimiters ds = .ok text) ↔
    ∀ d ∈ ds, ∀ name ∈ template.placeholders,
      delimiters.contains name = true ∨ d.contains name = true := by
  fun_induction renderAll template delimiters ds with
  | case1 => simp
  | case2 d =>
    rw [exists_render_merge_iff, List.forall_mem_singleton]
    simp only [Delimiters.contains_emptyDictionary]
  | case3 d rest hrest ih =>
    have hfirst : (∃ text, template.render (d.merge delimiters.dictionary) = .ok text) ↔
        ∀ name ∈ template.placeholders,
          delimiters.contains name = true ∨ d.contains name = true := by
      rw [exists_render_merge_iff]
      simp only [Delimiters.contains_dictionary]
    rw [List.forall_mem_cons, ← ih, ← hfirst]
    constructor
    · rintro ⟨text, h⟩
      obtain ⟨first, hfirst, h⟩ := bind_eq_ok.1 h
      obtain ⟨more, hmore, -⟩ := bind_eq_ok.1 h
      exact ⟨⟨first, hfirst⟩, more, hmore⟩
    · rintro ⟨⟨first, hfirst⟩, more, hmore⟩
      exact ⟨_, bind_eq_ok.2 ⟨first, hfirst, bind_eq_ok.2 ⟨more, hmore, rfl⟩⟩⟩

/-- The rendered bodies stand in a row with the separator between any two of them. -/
theorem renderAll_eq_ok_of_delimited {body tail : List Segment}
    (h : Delimited template delimiters body tail) :
    renderAll template delimiters ds = .ok text ↔
      ∃ bodies,
        List.Forall₂ (fun d b => (Template.mk template.name body).render d = .ok b) ds bodies ∧
        text = (delimiters.textOf tail).intercalate bodies := by
  fun_induction renderAll template delimiters ds generalizing text with
  | case1 =>
    simp only [List.forall₂_nil_left_iff, exists_eq_left, String.intercalate_nil]
    exact ⟨fun heq => (Except.ok.inj heq).symm, fun heq => congrArg Except.ok heq.symm⟩
  | case2 d =>
    rw [h.render_merge_emptyDictionary]
    constructor
    · intro hbody
      exact ⟨[text], .cons hbody .nil, String.intercalate_singleton.symm⟩
    · rintro ⟨bodies, hbodies, rfl⟩
      obtain ⟨b, bs, hb, hbs, rfl⟩ := List.forall₂_cons_left_iff.1 hbodies
      obtain rfl := List.forall₂_nil_left_iff.1 hbs
      rwa [String.intercalate_singleton]
  | case3 d rest hrest ih =>
    rw [h.render_merge_dictionary]
    constructor
    · intro htext
      obtain ⟨first, hfirst, htext⟩ := bind_eq_ok.1 htext
      obtain ⟨more, hmore, htext⟩ := bind_eq_ok.1 htext
      obtain ⟨b, hb, rfl⟩ := map_eq_ok.1 hfirst
      obtain ⟨bs, hbs, rfl⟩ := ih.1 hmore
      refine ⟨b :: bs, .cons hb hbs, ?_⟩
      rw [String.intercalate_cons_of_ne_nil, ← Except.ok.inj htext]
      rintro rfl
      exact hrest (List.forall₂_nil_right_iff.1 hbs)
    · rintro ⟨bodies, hbodies, rfl⟩
      obtain ⟨b, bs, hb, hbs, rfl⟩ := List.forall₂_cons_left_iff.1 hbodies
      refine bind_eq_ok.2 ⟨_, map_eq_ok.2 ⟨b, hb, rfl⟩, bind_eq_ok.2 ⟨_, ih.2 ⟨bs, hbs, rfl⟩, ?_⟩⟩
      rw [String.intercalate_cons_of_ne_nil]
      · rfl
      · rintro rfl
        exact hrest (List.forall₂_nil_right_iff.1 hbs)

end Aggregate

/-! ### Aggregates -/

section Aggregates

variable {template : Template} {t : AggregateTemplate} {delimiters : Delimiters}
  {items : List Item} {text : String}

theorem aggregate_eq_ok : aggregate template t delimiters items = .ok text ↔
    (∀ item ∈ items, t.Testable item) ∧ ∃ content,
      renderAll template delimiters ((items.filter t.takes).map Item.dictionary) = .ok content ∧
      t.postProcess content = text := by
  unfold aggregate
  constructor
  · intro h
    obtain ⟨ds, hds, hrender⟩ := bind_eq_ok.1 h
    obtain ⟨content, hcontent, htext⟩ := bind_eq_ok.1 hrender
    obtain ⟨htestable, rfl⟩ := accepted_eq_ok.1 hds
    exact ⟨htestable, content, hcontent, Except.ok.inj htext⟩
  · rintro ⟨htestable, content, hcontent, rfl⟩
    exact bind_eq_ok.2 ⟨_, accepted_eq_ok.2 ⟨htestable, rfl⟩,
      bind_eq_ok.2 ⟨content, hcontent, rfl⟩⟩

theorem exists_aggregate_iff : (∃ text, aggregate template t delimiters items = .ok text) ↔
    (∀ item ∈ items, t.Testable item) ∧ ∀ item ∈ items, t.takes item = true →
      ∀ name ∈ template.placeholders,
        delimiters.contains name = true ∨ item.dictionary.contains name = true := by
  have hrender : (∃ content, renderAll template delimiters
      ((items.filter t.takes).map Item.dictionary) = .ok content) ↔
      ∀ item ∈ items, t.takes item = true → ∀ name ∈ template.placeholders,
        delimiters.contains name = true ∨ item.dictionary.contains name = true := by
    simp only [exists_renderAll_iff, List.forall_mem_map, List.mem_filter, and_imp]
  rw [← hrender]
  simp only [aggregate_eq_ok]
  constructor
  · rintro ⟨text, htestable, content, hcontent, -⟩
    exact ⟨htestable, content, hcontent⟩
  · rintro ⟨htestable, content, hcontent⟩
    exact ⟨_, htestable, content, hcontent, rfl⟩

theorem aggregate_eq_ok_of_delimited {body tail : List Segment}
    (h : Delimited template delimiters body tail) :
    aggregate template t delimiters items = .ok text ↔
      (∀ item ∈ items, t.Testable item) ∧ ∃ bodies,
        List.Forall₂
          (fun item b => (Template.mk template.name body).render item.dictionary = .ok b)
          (items.filter t.takes) bodies ∧
        text = t.postProcess ((delimiters.textOf tail).intercalate bodies) := by
  rw [aggregate_eq_ok]
  simp only [renderAll_eq_ok_of_delimited h, List.forall₂_map_left_iff]
  constructor
  · rintro ⟨htestable, content, ⟨bodies, hbodies, rfl⟩, rfl⟩
    exact ⟨htestable, bodies, hbodies, rfl⟩
  · rintro ⟨htestable, bodies, hbodies, rfl⟩
    exact ⟨htestable, _, ⟨bodies, hbodies, rfl⟩, rfl⟩

/-- If all items can be tested then those that do not take part can be left out. -/
theorem aggregate_filter (h : ∀ item ∈ items, t.Testable item) :
    aggregate template t delimiters (items.filter t.takes) =
      aggregate template t delimiters items := by
  have hall := accepted_eq_ok.2 ⟨h, rfl⟩
  have hsome : accepted t (items.filter t.takes) =
      .ok ((items.filter t.takes).map Item.dictionary) := by
    refine accepted_eq_ok.2 ⟨fun item hitem => h item (List.mem_of_mem_filter hitem), ?_⟩
    rw [List.filter_filter]
    simp only [Bool.and_self]
  unfold aggregate
  rw [hall, hsome]

end Aggregates

/-! ### A row of names -/

namespace Aggregate.Sample

def line : Template := ⟨"line", [.placeholder "name", .literal [';'], .placeholder "sep"]⟩

/-- Lines for items that are not hidden and have a default that is not empty. -/
def config : AggregateTemplate :=
  ⟨"line", [.notEmpty], ⟨none, some ["hidden"]⟩, some "default"⟩

def separators : Delimiters := .ofList [("sep", ", ")]

/-- An item whose name comes from its last layer. -/
def item (owner : String) (flags : List String) (fields : List (String × String)) : Item where
  owner
  flags
  layers := [.ofList [("name", .text "entity")],
    .ofList (fields.map fun field => (field.1, .text field.2))]

/-- Only the first and the third one take part. -/
def items : List Item :=
  [item "e" [] [("name", "a"), ("default", "0")],
    item "e" ["hidden"] [("default", "0")],
    item "e" [] [("default", "1")],
    item "e" [] [("name", "d"), ("default", "")]]

def incomplete : Item := item "f" ["hidden"] [("name", "g")]

theorem delimited_line : Delimited line separators [.placeholder "name", .literal [';']]
    [.placeholder "sep"] where
  segments := rfl
  notInBody := by
    intro name hname
    obtain rfl : name = "name" := by simpa using hname
    decide
  inTail := by
    intro s hs
    exact ⟨"sep", by simpa using hs, by decide⟩

end Aggregate.Sample

/-- An aggregate of a valid template. If emptiness is tested then the first item that lacks the field
    to test is the error, whatever its flags are and whatever is to be rendered. Otherwise the items
    that do not take part could as well be missing; there is a text exactly if each placeholder is a
    delimiter or bound in the layers of every item that takes part; and if delimiters stand at the
    end of the template only, they separate the rendered bodies of these items. -/
theorem aggregate_joins (template : Template) (t : AggregateTemplate) (ht : t.validate = .ok ())
    (delimiters : Delimiters) (items : List Item) :
    (∀ before item after, items = before ++ item :: after →
      (∀ other ∈ before, t.Testable other) → ¬t.Testable item →
      ∃ field, t.testField = some field ∧ (∀ layer ∈ item.layers, layer.contains field = false) ∧
        aggregate template t delimiters items = .error (.missingField item.owner field)) ∧
    ((∀ item ∈ items, t.Testable item) →
      aggregate template t delimiters items =
        aggregate template t delimiters (items.filter t.takes) ∧
      ((∃ text, aggregate template t delimiters items = .ok text) ↔
        ∀ name ∈ template.placeholders, delimiters.contains name = true ∨
          ∀ item ∈ items, t.takes item = true →
            ∃ layer ∈ item.layers, layer.contains name = true) ∧
      ∀ body tail, Delimited template delimiters body tail → ∀ text,
        aggregate template t delimiters items = .ok text ↔ ∃ bodies,
          List.Forall₂
            (fun item b => (Template.mk template.name body).render item.dictionary = .ok b)
            (items.filter t.takes) bodies ∧
          text = t.postProcess ((delimiters.textOf tail).intercalate bodies)) := by
  constructor
  · rintro before item after rfl hbefore hitem
    obtain ⟨field, hfield, hnone, herror⟩ := accepted_eq_error ht hbefore hitem after
    refine ⟨field, hfield, ?_, ?_⟩
    · intro layer hlayer
      rw [Bool.eq_false_iff]
      intro hthere
      rw [Item.contains_dictionary_iff.2 ⟨layer, hlayer, hthere⟩] at hnone
      cases hnone
    · unfold aggregate
      rw [herror]
      rfl
  · intro htestable
    refine ⟨(aggregate_filter htestable).symm, ?_, ?_⟩
    · rw [exists_aggregate_iff, and_iff_right htestable]
      simp only [← Item.contains_dictionary_iff]
      constructor
      · intro h name hname
        by_cases hdelimiter : delimiters.contains name = true
        · exact Or.inl hdelimiter
        · exact Or.inr fun item hitem htakes =>
            (h item hitem htakes name hname).resolve_left hdelimiter
      · intro h item hitem htakes name hname
        exact (h name hname).imp_right fun hbound => hbound item hitem htakes
    · intro body tail hdelimited text
      rw [aggregate_eq_ok_of_delimited hdelimited, and_iff_right htestable]

open Aggregate.Sample

/-- The hidden item and the one with an empty default have no part in the line, and no separator
    follows the last name. One more item without a default spoils the line, though it is hidden. -/
theorem aggregate_sample :
    aggregate line config separators Sample.items = .ok "a;, entity;" ∧
      aggregate line config separators (Sample.items ++ [incomplete]) =
        .error (.missingField "f" "default") := by
  obtain ⟨-, hgood⟩ := aggregate_joins line config rfl separators Sample.items
  obtain ⟨hbad, -⟩ := aggregate_joins line config rfl separators (Sample.items ++ [incomplete])
  have htestable : ∀ item ∈ Sample.items, config.Testable item := by
    intro item hitem _
    refine ⟨"default", rfl, ?_⟩
    have hall : Sample.items.all fun item => item.dictionary.contains "default" := by decide
    exact List.all_eq_true.1 hall item hitem
  have hlacks : ¬config.Testable incomplete := by
    intro h
    obtain ⟨field, hfield, hthere⟩ := h rfl
    obtain rfl : "default" = field := Option.some.inj hfield
    revert hthere
    decide
  refine ⟨((hgood htestable).2.2 _ _ delimited_line _).2 ⟨["a;", "entity;"], ?_, ?_⟩, ?_⟩
  · exact .cons (eq_ok_of_toOption (by decide +kernel))
      (.cons (eq_ok_of_toOption (by decide +kernel)) .nil)
  · decide +kernel
  · obtain ⟨field, hfield, -, herror⟩ :=
      hbad Sample.items incomplete [] rfl htestable hlacks
    obtain rfl : "default" = field := Option.some.inj hfield
    exact herror

end CodeStencil
