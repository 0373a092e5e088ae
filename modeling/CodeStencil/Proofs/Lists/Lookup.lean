/-
  CodeStencil/Proofs/Lists/Lookup.lean
  ====================================
  **Looking names up** — what is found among named values if some names are left out
  (`lookup_filter`) or all of them are changed (`lookup_map`). If every name comes once then what is
  found is all there is (`lookup_eq_some_iff_mem`), and the order does not matter (`lookup_reverse`).
-/
import Mathlib.Data.List.Nodup
import Mathlib.Logic.Function.Basic

namespace CodeStencil

section Lookup

variable {α β γ δ : Type} [BEq α] [LawfulBEq α]

/-- Names are left out by what they are, so what is kept is found as before. -/
theorem lookup_filter (keep : α → Bool) (es : List (α × β)) (a : α) :
    (es.filter fun e => keep e.1).lookup a = if keep a then es.lookup a else none := by
  induction es with
  | nil => simp
  | cons e rest ih =>
    obtain ⟨k, b⟩ := e
    by_cases hk : a = k
    · subst hk
      by_cases hkeep : keep a = true
      · simp [hkeep]
      · simp [hkeep, ih]
    · have hne : (a == k) = false := by simpa using hk
      by_cases hkeep : keep k = true
      · simp [hkeep, List.lookup_cons, hne, ih]
      · simp [hkeep, List.lookup_cons, hne, ih]

theorem lookup_eq_none_of_not_mem {es : List (α × β)} {a : α} (h : a ∉ es.map Prod.fst) :
    es.lookup a = none := by
  rw [List.lookup_eq_none_iff]
  intro e he
  rw [bne_iff_ne]
  rintro rfl
  exact h (List.mem_map_of_mem he)

theorem lookup_eq_some_iff_mem {es : List (α × β)} (h : (es.map Prod.fst).Nodup) {a : α} {b : β} :
    es.lookup a = some b ↔ (a, b) ∈ es := by
  constructor
  · intro hlookup
    obtain ⟨before, after, rfl, -⟩ := List.lookup_eq_some_iff.1 hlookup
    exact List.mem_append_right before List.mem_cons_self
  · intro hmem
    obtain ⟨before, after, rfl⟩ := List.append_of_mem hmem
    rw [List.map_append, List.nodup_append] at h
    have hbefore : a ∉ before.map Prod.fst := fun ha => h.2.2 a ha a List.mem_cons_self rfl
    rw [List.lookup_append, lookup_eq_none_of_not_mem hbefore, Option.none_or, List.lookup_cons_self]

theorem lookup_reverse {es : List (α × β)} (h : (es.map Prod.fst).Nodup) (a : α) :
    es.reverse.lookup a = es.lookup a := by
  have hreverse : (es.reverse.map Prod.fst).Nodup := by
    rw [List.map_reverse]
    exact List.nodup_reverse.2 h
  apply Option.ext
  intro b
  rw [lookup_eq_some_iff_mem h, lookup_eq_some_iff_mem hreverse, List.mem_reverse]

variable [BEq γ] [LawfulBEq γ]

/-- New names that are all different stand for the old ones. -/
theorem lookup_map {k : α → γ} (hk : Function.Injective k) (g : β → δ) (es : List (α × β)) (a : α) :
    (es.map fun e => (k e.1, g e.2)).lookup (k a) = (es.lookup a).map g := by
  induction es with
  | nil => rfl
  | cons e rest ih =>
    obtain ⟨other, b⟩ := e
    by_cases hother : a = other
    · subst hother
      simp
    · have hne : (a == other) = false := by simpa using hother
      have hne' : (k a == k other) = false := by simpa using fun h => hother (hk h)
      simp [List.lookup_cons, hne, hne', ih]

end Lookup

end CodeStencil
