/-
  CodeStencil/Proofs/Template/Rendering.lean
  ==========================================
  **What rendering depends on** — a template looks up its placeholders and nothing else
  (`render_congr`), it can be rendered exactly if all of them are bound (`exists_render_iff`), and
  its parts are rendered one after the other (`render_append`).
-/
import CodeStencil.Proofs.Lists.Results
import CodeStencil.Proofs.Tables.Layers
import CodeStencil.Template.Basic

namespace CodeStencil.Template

variable {t : Template} {d d' : Dictionary} {name : String} {segments : List Segment}

theorem name?_eq_some {s : Segment} : s.name? = some name ↔ s = .placeholder name := by
  cases s with
  | literal text => simp [Segment.name?]
  | placeholder other => simp [Segment.name?]

theorem mem_placeholders : name ∈ t.placeholders ↔ .placeholder name ∈ t.segments := by
  unfold placeholders
  rw [List.mem_eraseDups, List.mem_filterMap]
  simp only [name?_eq_some, exists_eq_right]

/-! ### Single segments -/

theorem Segment.render_congr {s : Segment} (h : ∀ name, s = .placeholder name →
    d.get? name = d'.get? name) (template : String) : s.render template d = s.render template d' := by
  cases s with
  | literal text => rfl
  | placeholder name => rw [Segment.render, Segment.render, h name rfl]

theorem Segment.exists_render_iff {s : Segment} (template : String) :
    (∃ text, s.render template d = .ok text) ↔
      ∀ name, s = .placeholder name → d.contains name = true := by
  cases s with
  | literal text => simp [Segment.render]
  | placeholder name =>
    simp only [Segment.render, Segment.placeholder.injEq, forall_eq', ← Table.exists_get?_iff]
    cases d.get? name <;> simp

/-! ### Whole templates -/

/-- Dictionaries that agree on the placeholders of a template give the same text or error. -/
theorem render_congr (h : ∀ name ∈ t.placeholders, d.get? name = d'.get? name) :
    t.render d = t.render d' := by
  unfold render
  rw [mapM_congr fun s hs => Segment.render_congr ?_ t.name]
  rintro name rfl
  exact h name (mem_placeholders.2 hs)

theorem exists_render_iff :
    (∃ text, t.render d = .ok text) ↔ ∀ name ∈ t.placeholders, d.contains name = true := by
  have hrender : (∃ text, t.render d = .ok text) ↔
      ∃ texts, t.segments.mapM (Segment.render t.name d) = .ok texts := by
    unfold render
    simp [map_eq_ok]
  rw [hrender, exists_mapM_iff]
  simp only [Segment.exists_render_iff, mem_placeholders]
  constructor
  · intro h name hname
    exact h _ hname name rfl
  · rintro h s hs name rfl
    exact h name hs

theorem exists_render_merge_iff : (∃ text, t.render (d.merge d') = .ok text) ↔
    ∀ name ∈ t.placeholders, d'.contains name = true ∨ d.contains name = true := by
  rw [exists_render_iff]
  simp only [Table.contains_merge, Bool.or_eq_true]

/-- More bindings do not change a text. -/
theorem render_of_extends (h : d'.Extends d) {text : String} (htext : t.render d = .ok text) :
    t.render d' = .ok text := by
  rw [← htext]
  refine render_congr fun name hname => h.get?_eq ?_
  exact exists_render_iff.1 ⟨text, htext⟩ name hname

/-- First one part is rendered, and then the other one. -/
theorem render_append (name : String) (as bs : List Segment) (d : Dictionary) :
    (Template.mk name (as ++ bs)).render d = do
      let text ← (Template.mk name as).render d
      let more ← (Template.mk name bs).render d
      return text ++ more := by
  unfold render
  rw [List.mapM_append]
  dsimp only
  cases as.mapM (Segment.render name d) with
  | error e => rfl
  | ok texts =>
    cases bs.mapM (Segment.render name d) with
    | error e => rfl
    | ok more => exact congrArg Except.ok String.join_append

/-- Placeholders that are bound to texts show these texts. -/
theorem render_placeholders {f : String → String}
    (h : ∀ s ∈ segments, ∃ name, s = .placeholder name ∧ d.get? name = some (.text (f name)))
    (template : String) :
    (Template.mk template segments).render d =
      .ok (String.join ((segments.filterMap Segment.name?).map f)) := by
  induction segments with
  | nil => rfl
  | cons s rest ih =>
    obtain ⟨⟨name, rfl, hname⟩, hrest⟩ := List.forall_mem_cons.1 h
    have hfirst : (Template.mk template [.placeholder name]).render d = .ok (f name) := by
      unfold render
      simp [Segment.render, hname, Binding.display, Except.map, bind, Except.bind, pure,
        Except.pure]
    rw [← List.singleton_append, render_append, hfirst, ih hrest, List.filterMap_append,
      List.map_append, String.join_append]
    exact congrArg Except.ok (by simp [Segment.name?])

end CodeStencil.Template
