/-
  CodeStencil/Proofs/Aggregates/Acceptance.lean
  =============================================
  **Which items take part in an aggregate** — an item is left out if its flags do not pass or the
  field that is tested is empty (`takes`). But first every item has to have that field: the first one
  that lacks it is the error, whatever its flags are (`accepted_eq_error`).
-/
import CodeStencil.Aggregate
import CodeStencil.Proofs.Lists.Results
import CodeStencil.Proofs.Tables.Layers

namespace CodeStencil

open Aggregate

namespace Aggregate.Item

/-- All placeholders of an item. -/
def dictionary (item : Item) : Dictionary := Table.layered item.layers

theorem contains_dictionary_iff {item : Item} {name : String} :
    item.dictionary.contains name = true ↔ ∃ layer ∈ item.layers, layer.contains name = true :=
  Table.contains_layered_iff

end Aggregate.Item

namespace AggregateTemplate

variable {t : AggregateTemplate} {item : Item}

/-- If emptiness is tested then the item has the field to test. -/
def Testable (t : AggregateTemplate) (item : Item) : Prop :=
  t.hasParam .notEmpty = true →
    ∃ field, t.testField = some field ∧ item.dictionary.contains field = true

/-- The item takes part: its flags pass, and what is tested for emptiness is not empty. -/
def takes (t : AggregateTemplate) (item : Item) : Bool :=
  t.filter.passes item.flags &&
    (!t.hasParam .notEmpty || (t.testField.bind item.dictionary.get?).any fun b => !b.isEmpty)

theorem testField_of_validate (ht : t.validate = .ok ()) (hparam : t.hasParam .notEmpty = true) :
    ∃ field, t.testField = some field := by
  unfold validate at ht
  cases hfield : t.testField with
  | none =>
    rw [hparam, hfield] at ht
    cases ht
  | some field => exact ⟨field, rfl⟩

theorem accepts_eq_ok {keep : Bool} : t.accepts item.owner item.flags item.dictionary = .ok keep ↔
    t.Testable item ∧ keep = t.takes item := by
  unfold accepts Testable takes
  cases t.hasParam .notEmpty with
  | false =>
    constructor
    · intro h
      exact ⟨nofun, by simpa using (Except.ok.inj h).symm⟩
    · rintro ⟨-, rfl⟩
      exact congrArg Except.ok (by simp)
  | true =>
    cases hfield : t.testField with
    | none => simp [throw, throwThe, MonadExceptOf.throw]
    | some field =>
      simp only [Option.some.injEq, exists_eq_left', Table.contains_eq_isSome, Option.bind_some]
      cases item.dictionary.get? field with
      | none => simp [throw, throwThe, MonadExceptOf.throw]
      | some b =>
        constructor
        · intro h
          exact ⟨fun _ => rfl, by simpa [Bool.and_comm] using (Except.ok.inj h).symm⟩
        · rintro ⟨-, rfl⟩
          exact congrArg Except.ok (by simp [Bool.and_comm])

theorem accepts_eq_error (ht : t.validate = .ok ()) (h : ¬t.Testable item) :
    ∃ field, t.testField = some field ∧ item.dictionary.contains field = false ∧
      t.accepts item.owner item.flags item.dictionary = .error (.missingField item.owner field) := by
  rw [Testable, Classical.not_imp] at h
  obtain ⟨hparam, hlacks⟩ := h
  obtain ⟨field, hfield⟩ := testField_of_validate ht hparam
  have hnone : item.dictionary.contains field = false := by
    rw [Bool.eq_false_iff]
    intro hthere
    exact hlacks ⟨field, hfield, hthere⟩
  refine ⟨field, hfield, hnone, ?_⟩
  unfold accepts
  rw [if_pos hparam, hfield]
  dsimp only
  rw [Table.get?_eq_none_iff.2 hnone]
  rfl

end AggregateTemplate

namespace Aggregate

variable {t : AggregateTemplate} {items : List Item} {ds : List Dictionary}

theorem accepted_cons (t : AggregateTemplate) (item : Item) (rest : List Item) :
    accepted t (item :: rest) = do
      let keep ← t.accepts item.owner item.flags item.dictionary
      let more ← accepted t rest
      return if keep then item.dictionary :: more else more := rfl

/-- If all items can be tested, then those that take part are accepted. -/
theorem accepted_eq_ok : accepted t items = .ok ds ↔
    (∀ item ∈ items, t.Testable item) ∧ ds = (items.filter t.takes).map Item.dictionary := by
  induction items generalizing ds with
  | nil =>
    constructor
    · intro h
      exact ⟨by simp, (Except.ok.inj h).symm⟩
    · rintro ⟨-, rfl⟩
      rfl
  | cons item rest ih =>
    rw [accepted_cons, List.forall_mem_cons]
    constructor
    · intro h
      obtain ⟨keep, hkeep, h⟩ := bind_eq_ok.1 h
      obtain ⟨more, hmore, h⟩ := bind_eq_ok.1 h
      obtain ⟨hitem, rfl⟩ := AggregateTemplate.accepts_eq_ok.1 hkeep
      obtain ⟨hrest, rfl⟩ := ih.1 hmore
      refine ⟨⟨hitem, hrest⟩, ?_⟩
      rw [← Except.ok.inj h, List.filter_cons]
      split <;> rfl
    · rintro ⟨⟨hitem, hrest⟩, rfl⟩
      refine bind_eq_ok.2 ⟨_, AggregateTemplate.accepts_eq_ok.2 ⟨hitem, rfl⟩,
        bind_eq_ok.2 ⟨_, ih.2 ⟨hrest, rfl⟩, ?_⟩⟩
      rw [List.filter_cons]
      split <;> rfl

/-- The first item that lacks the field to test is the error. -/
theorem accepted_eq_error (ht : t.validate = .ok ()) {before : List Item} {item : Item}
    (hbefore : ∀ other ∈ before, t.Testable other) (hitem : ¬t.Testable item)
    (after : List Item) :
    ∃ field, t.testField = some field ∧ item.dictionary.contains field = false ∧
      accepted t (before ++ item :: after) = .error (.missingField item.owner field) := by
  induction before with
  | nil =>
    obtain ⟨field, hfield, hnone, herror⟩ := AggregateTemplate.accepts_eq_error ht hitem
    refine ⟨field, hfield, hnone, ?_⟩
    rw [List.nil_append, accepted_cons, herror]
    rfl
  | cons first rest ih =>
    obtain ⟨hfirst, hrest⟩ := List.forall_mem_cons.1 hbefore
    obtain ⟨field, hfield, hnone, herror⟩ := ih hrest
    refine ⟨field, hfield, hnone, ?_⟩
    rw [List.cons_append, accepted_cons, AggregateTemplate.accepts_eq_ok.2 ⟨hfirst, rfl⟩, herror]
    rfl

end Aggregate

end CodeStencil
