/-
  CodeStencil/Proofs/Lists/Distinct.lean
  ======================================
  **Dropping later repetitions** — items count as repeated if they have the same key. What is left
  are the first items of their keys, in the order in which they came (`pairwise_idxOf_eraseDups`), and
  it does not matter whether the items to come were rid of repetitions before
  (`eraseDups_append_eraseDups`).
-/
import Mathlib.Data.List.Basic
import Mathlib.Data.List.Induction
import Mathlib.Data.List.Nodup

namespace CodeStencil

variable {α κ : Type} [DecidableEq κ]

/-- The items without those whose key came before. -/
def firsts (key : α → κ) (items : List α) : List α :=
  items.eraseDupsBy fun a b => key a == key b

@[simp] theorem firsts_nil (key : α → κ) : firsts key [] = [] := List.eraseDupsBy_nil

theorem firsts_cons (key : α → κ) (a : α) (rest : List α) :
    firsts key (a :: rest) = a :: firsts key (rest.filter fun b => decide (key b ≠ key a)) := by
  unfold firsts
  rw [List.eraseDupsBy_cons]
  simp

theorem firsts_sublist (key : α → κ) (items : List α) : (firsts key items).Sublist items := by
  match items with
  | [] => simp
  | a :: rest =>
    rw [firsts_cons]
    have hrest := firsts_sublist key (rest.filter fun b => decide (key b ≠ key a))
    exact (hrest.trans List.filter_sublist).cons_cons a
termination_by items.length
decreasing_by exact Nat.lt_succ_of_le (List.length_filter_le _ _)

theorem nodup_map_firsts (key : α → κ) (items : List α) : ((firsts key items).map key).Nodup := by
  match items with
  | [] => simp
  | a :: rest =>
    rw [firsts_cons, List.map_cons, List.nodup_cons]
    refine ⟨?_, nodup_map_firsts key _⟩
    intro hmem
    obtain ⟨b, hb, hkey⟩ := List.mem_map.1 hmem
    have hother := (List.mem_filter.1 ((firsts_sublist key _).subset hb)).2
    exact of_decide_eq_true hother hkey
termination_by items.length
decreasing_by exact Nat.lt_succ_of_le (List.length_filter_le _ _)

theorem nodup_eraseDups (items : List κ) : items.eraseDups.Nodup := by
  have hnodup := nodup_map_firsts id items
  rwa [List.map_id] at hnodup

/-- A search does not find out about later repetitions. -/
theorem find?_eraseDups (p : κ → Bool) (items : List κ) :
    items.eraseDups.find? p = items.find? p := by
  match items with
  | [] => rfl
  | a :: rest =>
    rw [List.eraseDups_cons, List.find?_cons, List.find?_cons, find?_eraseDups, List.find?_filter]
    cases ha : p a with
    | true => rfl
    | false =>
      have hother : (fun b => decide ((!b == a) = true ∧ p b = true)) = p := by
        funext b
        by_cases hb : b = a
        · simp [hb, ha]
        · simp [hb]
      rw [hother]
termination_by items.length
decreasing_by exact Nat.lt_succ_of_le (List.length_filter_le _ _)

/-- One more item is left at the end, unless it came before. -/
theorem eraseDups_concat (items : List κ) (a : κ) : (items ++ [a]).eraseDups =
    if a ∈ items then items.eraseDups else items.eraseDups ++ [a] := by
  rw [List.eraseDups_append]
  by_cases ha : a ∈ items
  · have hnone : [a].removeAll items = [] := by simp [List.removeAll, ha]
    rw [if_pos ha, hnone, List.eraseDups_nil, List.append_nil]
  · have hnew : [a].removeAll items = [a] := by simp [List.removeAll, ha]
    rw [if_neg ha, hnew, List.eraseDups_cons, List.filter_nil, List.eraseDups_nil]

theorem eraseDups_of_nodup {items : List κ} (h : items.Nodup) : items.eraseDups = items := by
  induction items using List.reverseRecOn with
  | nil => rfl
  | append_singleton items a ih =>
    obtain ⟨hitems, -, hapart⟩ := List.nodup_append.1 h
    have ha : a ∉ items := fun ha => hapart a ha a List.mem_cons_self rfl
    rw [eraseDups_concat, if_neg ha, ih hitems]

theorem eraseDups_append_eraseDups (items more : List κ) :
    (items ++ more.eraseDups).eraseDups = (items ++ more).eraseDups := by
  induction more using List.reverseRecOn with
  | nil => rfl
  | append_singleton more a ih =>
    rw [eraseDups_concat, ← List.append_assoc, eraseDups_concat (items ++ more)]
    by_cases ha : a ∈ more
    · rw [if_pos ha, if_pos (List.mem_append_right items ha), ih]
    · rw [if_neg ha, ← List.append_assoc, eraseDups_concat, ih]
      simp only [List.mem_append, List.mem_eraseDups]

/-- Items that came before leave nothing when they come again. -/
theorem eraseDups_append_self (items : List κ) : (items ++ items).eraseDups = items.eraseDups := by
  have hnone : items.removeAll items = [] := by simp [List.removeAll]
  rw [List.eraseDups_append, hnone, List.eraseDups_nil, List.append_nil]

/-- What is left stands in the order of first occurrences. -/
theorem pairwise_idxOf_eraseDups (items : List κ) :
    items.eraseDups.Pairwise fun a b => items.idxOf a < items.idxOf b := by
  induction items using List.reverseRecOn with
  | nil => exact .nil
  | append_singleton items a ih =>
    have hbefore : ∀ {b}, b ∈ items.eraseDups → (items ++ [a]).idxOf b = items.idxOf b :=
      fun hb => List.idxOf_append_of_mem (List.mem_eraseDups.1 hb)
    have hkept : items.eraseDups.Pairwise fun b c =>
        (items ++ [a]).idxOf b < (items ++ [a]).idxOf c := by
      refine ih.imp_of_mem fun hb hc hlt => ?_
      rwa [hbefore hb, hbefore hc]
    rw [eraseDups_concat]
    by_cases ha : a ∈ items
    · rwa [if_pos ha]
    · rw [if_neg ha]
      refine List.pairwise_append.2 ⟨hkept, List.pairwise_singleton _ a, ?_⟩
      intro b hb c hc
      rw [List.mem_singleton.1 hc, hbefore hb, List.idxOf_append_of_notMem ha]
      have hlt := List.idxOf_lt_length_iff.2 (List.mem_eraseDups.1 hb)
      omega

/-- Items without repetitions stand in the order of first occurrences. -/
theorem pairwise_idxOf_of_nodup {items : List κ} (h : items.Nodup) :
    items.Pairwise fun a b => items.idxOf a < items.idxOf b := by
  rw [List.pairwise_iff_getElem]
  intro i j hi hj hlt
  rwa [h.idxOf_getElem i hi, h.idxOf_getElem j hj]

end CodeStencil
