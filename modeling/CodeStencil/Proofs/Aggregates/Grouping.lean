/-
  CodeStencil/Proofs/Aggregates/Grouping.lean
  ===========================================
  **Larger items and groups of items** — once an aggregate succeeds, what else its items bind does
  not show (`aggregate_of_extends`). If delimiters separate the items, then an aggregate over groups
  of them is the aggregates of the groups, separated in the same way; groups of which no item takes
  part are left out (`exists_aggregate_flatMap_of_delimited`).
-/
import CodeStencil.Proofs.Aggregates.Joining

namespace CodeStencil

open Aggregate Template

/-! ### Larger items -/

/-- The item has the flags of the other one and binds all that it binds. -/
structure Aggregate.Item.Extends (item other : Item) : Prop where
  flags : item.flags = other.flags
  dictionary : item.dictionary.Extends other.dictionary

namespace AggregateTemplate

variable {t : AggregateTemplate} {item other : Item}

theorem Testable.of_extends (h : item.Extends other) (htest : t.Testable other) :
    t.Testable item := by
  intro hparam
  obtain ⟨field, hfield, hthere⟩ := htest hparam
  exact ⟨field, hfield, h.dictionary.contains hthere⟩

/-- The field that is tested for emptiness is bound already, so it keeps its value. -/
theorem takes_of_extends (h : item.Extends other) (htest : t.Testable other) :
    t.takes item = t.takes other := by
  unfold takes
  rw [h.flags]
  cases hparam : t.hasParam .notEmpty with
  | false => rfl
  | true =>
    obtain ⟨field, hfield, hthere⟩ := htest hparam
    rw [hfield, Option.bind_some, Option.bind_some, h.dictionary.get?_eq hthere]

end AggregateTemplate

section Extends

variable {template : Template} {t : AggregateTemplate} {delimiters : Delimiters}
  {items others : List Item} {ds ds' : List Dictionary} {text : String}

/-- The same items are accepted, with what they bind now. -/
theorem Aggregate.accepted_of_extends (h : List.Forall₂ Item.Extends items others)
    (hds : accepted t others = .ok ds) :
    ∃ ds', accepted t items = .ok ds' ∧ List.Forall₂ Table.Extends ds' ds := by
  induction h generalizing ds with
  | nil =>
    obtain rfl : [] = ds := Except.ok.inj hds
    exact ⟨[], rfl, .nil⟩
  | @cons item other rest rest' hitem hrest ih =>
    rw [accepted_cons] at hds
    obtain ⟨keep, hkeep, hds⟩ := bind_eq_ok.1 hds
    obtain ⟨more, hmore, hds⟩ := bind_eq_ok.1 hds
    obtain ⟨htest, rfl⟩ := AggregateTemplate.accepts_eq_ok.1 hkeep
    obtain ⟨more', hmore', hextends⟩ := ih hmore
    have hkeep' := AggregateTemplate.accepts_eq_ok.2 ⟨htest.of_extends hitem, rfl⟩
    rw [AggregateTemplate.takes_of_extends hitem htest] at hkeep'
    refine ⟨_, bind_eq_ok.2 ⟨_, hkeep', bind_eq_ok.2 ⟨more', hmore', rfl⟩⟩, ?_⟩
    rw [← Except.ok.inj hds]
    split
    · exact .cons hitem.dictionary hextends
    · exact hextends

theorem Aggregate.renderAll_of_extends (h : List.Forall₂ Table.Extends ds' ds)
    (htext : renderAll template delimiters ds = .ok text) :
    renderAll template delimiters ds' = .ok text := by
  induction h generalizing text with
  | nil => exact htext
  | cons hd hrest ih =>
    cases hrest with
    | nil => exact render_of_extends (hd.merge delimiters.emptyDictionary) htext
    | cons hnext hmore =>
      obtain ⟨first, hfirst, htext⟩ := bind_eq_ok.1 htext
      obtain ⟨rest, hrest, htext⟩ := bind_eq_ok.1 htext
      have hfirst' := render_of_extends (hd.merge delimiters.dictionary) hfirst
      exact bind_eq_ok.2 ⟨first, hfirst', bind_eq_ok.2 ⟨rest, ih hrest, htext⟩⟩

/-- More bindings do not change an aggregate. -/
theorem aggregate_of_extends (h : List.Forall₂ Item.Extends items others)
    (htext : aggregate template t delimiters others = .ok text) :
    aggregate template t delimiters items = .ok text := by
  obtain ⟨ds, hds, htext⟩ := bind_eq_ok.1 htext
  obtain ⟨content, hcontent, htext⟩ := bind_eq_ok.1 htext
  obtain ⟨ds', hds', hextends⟩ := accepted_of_extends h hds
  exact bind_eq_ok.2 ⟨ds', hds', bind_eq_ok.2 ⟨content, renderAll_of_extends hextends hcontent, htext⟩⟩

end Extends

/-! ### Groups of items -/

section Groups

variable {γ : Type} {template : Template} {t : AggregateTemplate} {delimiters : Delimiters}
  {body tail : List Segment} {items more : List Item} {text text' : String}

theorem AggregateTemplate.postProcess_of_plain (hdrop : t.hasParam .removeDuplicates = false)
    (hsort : t.hasParam .sort = false) (content : String) : t.postProcess content = content := by
  unfold postProcess
  rw [hdrop, hsort]
  rfl

theorem exists_aggregate_flatMap {groups : List γ} {itemsOf : γ → List Item} :
    (∃ text, aggregate template t delimiters (groups.flatMap itemsOf) = .ok text) ↔
      ∀ g ∈ groups, ∃ text, aggregate template t delimiters (itemsOf g) = .ok text := by
  simp only [exists_aggregate_iff, List.mem_flatMap]
  constructor
  · rintro ⟨htest, hbound⟩ g hg
    exact ⟨fun item hitem => htest item ⟨g, hg, hitem⟩,
      fun item hitem => hbound item ⟨g, hg, hitem⟩⟩
  · intro h
    constructor
    · rintro item ⟨g, hg, hitem⟩
      exact (h g hg).1 item hitem
    · rintro item ⟨g, hg, hitem⟩
      exact (h g hg).2 item hitem

/-- Nothing comes of a selection exactly if nothing is selected. -/
theorem eq_nil_iff_of_filter {α β : Type} {R : α → β → Prop} {p : α → Bool} {as : List α}
    {bs : List β} (h : List.Forall₂ R (as.filter p) bs) : bs = [] ↔ as.any p = false := by
  rw [List.any_eq_false, ← List.filter_eq_nil_iff]
  constructor
  · rintro rfl
    exact List.forall₂_nil_right_iff.1 h
  · intro hnone
    rw [hnone] at h
    exact List.forall₂_nil_left_iff.1 h

variable (h : Delimited template delimiters body tail)
  (hdrop : t.hasParam .removeDuplicates = false) (hsort : t.hasParam .sort = false)
include h hdrop hsort

/-- The separator stands between two groups if items of both take part. -/
theorem aggregate_append_of_delimited
    (htext : aggregate template t delimiters items = .ok text)
    (htext' : aggregate template t delimiters more = .ok text') :
    aggregate template t delimiters (items ++ more) =
      .ok (if items.any t.takes = false then text'
        else if more.any t.takes = false then text
        else text ++ delimiters.textOf tail ++ text') := by
  obtain ⟨htest, bodies, hbodies, rfl⟩ := (aggregate_eq_ok_of_delimited h).1 htext
  obtain ⟨htest', bodies', hbodies', rfl⟩ := (aggregate_eq_ok_of_delimited h).1 htext'
  rw [t.postProcess_of_plain hdrop hsort, t.postProcess_of_plain hdrop hsort]
  refine (aggregate_eq_ok_of_delimited h).2 ⟨?_, bodies ++ bodies', ?_, ?_⟩
  · exact List.forall_mem_append.2 ⟨htest, htest'⟩
  · rw [List.filter_append]
    exact List.rel_append hbodies hbodies'
  · have hnil := eq_nil_iff_of_filter hbodies
    have hnil' := eq_nil_iff_of_filter hbodies'
    rw [t.postProcess_of_plain hdrop hsort]
    split
    · next hnone => rw [hnil.2 hnone, List.nil_append]
    · next hsome =>
      split
      · next hnone' => rw [hnil'.2 hnone', List.append_nil]
      · next hsome' =>
        rw [← hnil] at hsome
        rw [← hnil'] at hsome'
        exact (String.intercalate_append_of_ne_nil hsome hsome').symm

/-- The aggregates of the groups of which items take part, with the separator between any two. -/
theorem exists_aggregate_flatMap_of_delimited {groups : List γ} {itemsOf : γ → List Item}
    (hgroups : ∀ g ∈ groups, ∃ text, aggregate template t delimiters (itemsOf g) = .ok text) :
    ∃ texts,
      List.Forall₂ (fun g text => aggregate template t delimiters (itemsOf g) = .ok text)
        (groups.filter fun g => (itemsOf g).any t.takes) texts ∧
      aggregate template t delimiters (groups.flatMap itemsOf) =
        .ok ((delimiters.textOf tail).intercalate texts) := by
  induction groups with
  | nil =>
    refine ⟨[], .nil, (aggregate_eq_ok_of_delimited h).2 ⟨by simp, [], .nil, ?_⟩⟩
    rw [t.postProcess_of_plain hdrop hsort]
  | cons g rest ih =>
    obtain ⟨⟨text, htext⟩, hrest⟩ := List.forall_mem_cons.1 hgroups
    obtain ⟨texts, htexts, hmore⟩ := ih hrest
    have hnil : texts = [] ↔ (rest.flatMap itemsOf).any t.takes = false := by
      rw [eq_nil_iff_of_filter htexts, List.any_flatMap]
    rw [List.flatMap_cons, List.filter_cons, aggregate_append_of_delimited h hdrop hsort htext hmore]
    by_cases hg : (itemsOf g).any t.takes = true
    · rw [if_pos hg, if_neg (by simp [hg])]
      refine ⟨text :: texts, .cons htext htexts, congrArg Except.ok ?_⟩
      split
      · next hnone => rw [hnil.2 hnone, String.intercalate_singleton]
      · next hsome =>
        rw [← hnil] at hsome
        rw [String.intercalate_cons_of_ne_nil hsome]
    · rw [if_neg hg, if_pos (Bool.eq_false_iff.2 hg)]
      exact ⟨texts, htexts, rfl⟩

end Groups

end CodeStencil
