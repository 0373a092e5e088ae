/-
  CodeStencil/Proofs/Text/Trimming.lean
  =====================================
  **White space at the ends** — a text without white space at its ends is what is left of it when
  any white space is put around it (`trimBlank_around`), and nothing else is ever left
  (`exists_around_trimBlank`).
-/
import CodeStencil.Proofs.Text.LineFeeds
import CodeStencil.Text.Blank

namespace CodeStencil.Text

/-- There is nothing but white space. -/
def Blank (cs : List Char) : Prop := ∀ c ∈ cs, isBlank c = true

instance (cs : List Char) : Decidable (Blank cs) := List.decidableBAll (isBlank · = true) cs

/-- There is no white space at either end. -/
structure Trimmed (cs : List Char) : Prop where
  head : ∀ c, cs.head? = some c → isBlank c = false
  last : ∀ c, cs.getLast? = some c → isBlank c = false

variable {cs w w' : List Char}

theorem dropWhile_isBlank_append (hw : Blank w) (hcs : ∀ c, cs.head? = some c → isBlank c = false) :
    (w ++ cs).dropWhile isBlank = cs := by
  rw [List.dropWhile_append_of_pos hw]
  cases cs with
  | nil => rfl
  | cons c rest => exact List.dropWhile_cons_of_neg (by simp [hcs c rfl])

theorem dropEndWhile_isBlank_append (hw : Blank w)
    (hcs : ∀ c, cs.getLast? = some c → isBlank c = false) :
    dropEndWhile isBlank (cs ++ w) = cs := by
  have hback : Blank w.reverse := fun c hc => hw c (List.mem_reverse.1 hc)
  rw [dropEndWhile, List.reverse_append, dropWhile_isBlank_append hback, List.reverse_reverse]
  simpa using hcs

/-- White space around a text is cut off. -/
theorem trimBlank_around (hw : Blank w) (hcs : Trimmed cs) (hw' : Blank w') :
    trimBlank (w ++ cs ++ w') = cs := by
  unfold trimBlank
  cases cs with
  | nil =>
    have hall : Blank (w ++ w') := by
      intro c hc
      exact (List.mem_append.1 hc).elim (hw c) (hw' c)
    rw [List.append_nil, ← List.append_nil (w ++ w'), dropWhile_isBlank_append hall (by simp)]
    rfl
  | cons c rest =>
    rw [List.append_assoc, dropWhile_isBlank_append hw (by simpa using hcs.head c rfl),
      dropEndWhile_isBlank_append hw' hcs.last]

/-- Only white space is cut off, and all that stands at the ends. -/
theorem exists_around_trimBlank (cs : List Char) :
    ∃ w w', Blank w ∧ Blank w' ∧ Trimmed (trimBlank cs) ∧ cs = w ++ trimBlank cs ++ w' := by
  have hfront : cs.takeWhile isBlank ++ cs.dropWhile isBlank = cs := List.takeWhile_append_dropWhile
  generalize hrest : cs.dropWhile isBlank = rest at hfront
  have hback : trimBlank cs ++ (rest.reverse.takeWhile isBlank).reverse = rest := by
    rw [trimBlank, hrest, dropEndWhile, ← List.reverse_append, List.takeWhile_append_dropWhile,
      List.reverse_reverse]
  refine ⟨cs.takeWhile isBlank, (rest.reverse.takeWhile isBlank).reverse, ?_, ?_, ⟨?_, ?_⟩, ?_⟩
  · intro c hc
    exact List.all_eq_true.1 List.all_takeWhile c hc
  · intro c hc
    exact List.all_eq_true.1 List.all_takeWhile c (List.mem_reverse.1 hc)
  · -- what is left begins where the rest begins
    intro c hc
    have hhead : rest.head? = some c := by
      rw [← hback, List.head?_append, hc]
      rfl
    have hfirst := List.head?_dropWhile_not isBlank cs
    rwa [hrest, hhead] at hfirst
  · intro c hc
    exact getLast?_dropEndWhile hc
  · rw [List.append_assoc, hback, hfront]

theorem trimBlank_eq_nil_iff : trimBlank cs = [] ↔ Blank cs := by
  constructor
  · intro h
    obtain ⟨w, w', hw, hw', -, hcs⟩ := exists_around_trimBlank cs
    rw [h, List.append_nil] at hcs
    intro c hc
    rw [hcs] at hc
    exact (List.mem_append.1 hc).elim (hw c) (hw' c)
  · intro h
    have hnone : Trimmed [] := ⟨by simp, by simp⟩
    have htrim := trimBlank_around h hnone (fun _ hc => absurd hc List.not_mem_nil)
    simpa using htrim

end CodeStencil.Text
