/-
  CodeStencil/Proofs/Text/Splitting.lean
  ======================================
  **Cutting and joining** — cutting at a mark undoes joining with it, for pieces without the mark
  (`splitAt_intercalate`). Texts that are joined as lines have the lines of all of them
  (`pieces_intercalate`).
-/
import CodeStencil.Text.Lines

namespace CodeStencil.Text

variable {mark : Char}

theorem splitAt_of_not_mem {cs : List Char} (h : mark ∉ cs) : splitAt mark cs = [cs] := by
  induction cs with
  | nil => rfl
  | cons c rest ih =>
    rw [List.mem_cons, not_or] at h
    simp [splitAt, Ne.symm h.1, ih h.2]

/-- A mark closes the pieces before it. -/
theorem splitAt_append_mark (xs ys : List Char) :
    splitAt mark (xs ++ mark :: ys) = splitAt mark xs ++ splitAt mark ys := by
  induction xs with
  | nil => simp [splitAt]
  | cons c rest ih =>
    by_cases hc : c = mark
    · simp [splitAt, hc, ih]
    · obtain ⟨piece, more, hrest⟩ := List.exists_cons_of_ne_nil (splitAt_ne_nil mark rest)
      simp [splitAt, hc, ih, hrest]

/-- No piece holds the mark. -/
theorem not_mem_of_mem_splitAt {cs piece : List Char} (h : piece ∈ splitAt mark cs) :
    mark ∉ piece := by
  induction cs generalizing piece with
  | nil =>
    simp only [splitAt, List.mem_singleton] at h
    simp [h]
  | cons c rest ih =>
    by_cases hc : c = mark
    · simp only [splitAt, hc, if_true, List.mem_cons] at h
      rcases h with rfl | h
      · simp
      · exact ih h
    · obtain ⟨first, more, hrest⟩ := List.exists_cons_of_ne_nil (splitAt_ne_nil mark rest)
      simp only [splitAt, hc, if_false, hrest, List.mem_cons] at h
      rcases h with rfl | h
      · have hfirst : mark ∉ first := ih (by simp [hrest])
        simp [Ne.symm hc, hfirst]
      · exact ih (by simp [hrest, h])

theorem bne_of_not_mem {xs : List Char} (h : mark ∉ xs) : ∀ c ∈ xs, (c != mark) = true := by
  intro c hc
  rw [bne_iff_ne]
  rintro rfl
  exact h hc

/-- What stands before the first mark. -/
theorem takeWhile_append_mark {xs : List Char} (h : mark ∉ xs) (ys : List Char) :
    (xs ++ mark :: ys).takeWhile (· != mark) = xs := by
  rw [List.takeWhile_append_of_pos (bne_of_not_mem h)]
  simp

theorem dropWhile_append_mark {xs : List Char} (h : mark ∉ xs) (ys : List Char) :
    (xs ++ mark :: ys).dropWhile (· != mark) = mark :: ys := by
  rw [List.dropWhile_append_of_pos (bne_of_not_mem h)]
  simp

/-- The first mark cuts a text in one way only. -/
theorem append_mark_inj {xs ys xs' ys' : List Char} (h : mark ∉ xs) (h' : mark ∉ xs')
    (heq : xs ++ mark :: ys = xs' ++ mark :: ys') : xs = xs' ∧ ys = ys' := by
  have htake := congrArg (List.takeWhile (· != mark)) heq
  rw [takeWhile_append_mark h, takeWhile_append_mark h'] at htake
  subst htake
  exact ⟨rfl, (List.cons.inj (List.append_cancel_left heq)).2⟩

theorem splitAt_intercalate {pieces : List (List Char)} (hne : pieces ≠ [])
    (h : ∀ piece ∈ pieces, mark ∉ piece) : splitAt mark ([mark].intercalate pieces) = pieces := by
  induction pieces with
  | nil => exact absurd rfl hne
  | cons piece rest ih =>
    have hpiece := splitAt_of_not_mem (h piece List.mem_cons_self)
    cases rest with
    | nil => simpa using hpiece
    | cons next more =>
      rw [List.intercalate_cons_cons, List.append_assoc, List.singleton_append,
        splitAt_append_mark, hpiece,
        ih (by simp) fun p hp => h p (List.mem_cons_of_mem _ hp), List.singleton_append]

/-- Joining undoes cutting. -/
theorem intercalate_splitAt (cs : List Char) : [mark].intercalate (splitAt mark cs) = cs := by
  induction cs with
  | nil => rfl
  | cons c rest ih =>
    obtain ⟨piece, more, hrest⟩ := List.exists_cons_of_ne_nil (splitAt_ne_nil mark rest)
    rw [hrest] at ih
    by_cases hc : c = mark
    · subst hc
      simp [splitAt, hrest, List.intercalate_cons_cons, ih]
    · have hfirst : splitAt mark (c :: rest) = (c :: piece) :: more := by simp [splitAt, hc, hrest]
      rw [hfirst]
      cases more with
      | nil => simpa using ih
      | cons next more =>
        rw [List.intercalate_cons_cons] at ih ⊢
        rw [List.cons_append, List.cons_append, ih]

/-! ### Lines of texts -/

theorem pieces_ne_nil (s : String) : pieces s ≠ [] := by
  intro h
  exact splitAt_ne_nil '\n' s.toList (List.map_eq_nil_iff.1 h)

theorem intercalate_pieces (s : String) : "\n".intercalate (pieces s) = s := by
  apply String.toList_injective
  rw [String.toList_intercalate, pieces, List.map_map]
  have hback : String.toList ∘ String.ofList = id := funext fun _ => String.toList_ofList
  rw [hback, List.map_id]
  exact intercalate_splitAt s.toList

theorem not_mem_of_mem_pieces {s line : String} (h : line ∈ pieces s) : '\n' ∉ line.toList := by
  obtain ⟨piece, hpiece, rfl⟩ := List.mem_map.1 h
  rw [String.toList_ofList]
  exact not_mem_of_mem_splitAt hpiece

theorem pieces_of_not_mem {line : String} (h : '\n' ∉ line.toList) : pieces line = [line] := by
  unfold pieces
  rw [splitAt_of_not_mem h, List.map_singleton, String.ofList_toList]

theorem pieces_append_lineFeed (s t : String) : pieces (s ++ "\n" ++ t) = pieces s ++ pieces t := by
  have hlist : (s ++ "\n" ++ t).toList = s.toList ++ '\n' :: t.toList := by simp
  unfold pieces
  rw [hlist, splitAt_append_mark, List.map_append]

/-- Joining keeps the lines of all texts. -/
theorem pieces_intercalate {texts : List String} (hne : texts ≠ []) :
    pieces ("\n".intercalate texts) = texts.flatMap pieces := by
  induction texts with
  | nil => exact absurd rfl hne
  | cons s rest ih =>
    by_cases hrest : rest = []
    · subst hrest
      simp
    · rw [String.intercalate_cons_of_ne_nil hrest, pieces_append_lineFeed, ih hrest,
        List.flatMap_cons]

/-- Cutting undoes the joining of lines. -/
theorem pieces_intercalate_lines {lines : List String} (hne : lines ≠ [])
    (h : ∀ line ∈ lines, '\n' ∉ line.toList) : pieces ("\n".intercalate lines) = lines := by
  rw [pieces_intercalate hne]
  clear hne
  induction lines with
  | nil => rfl
  | cons line rest ih =>
    obtain ⟨hline, hrest⟩ := List.forall_mem_cons.1 h
    rw [List.flatMap_cons, pieces_of_not_mem hline, ih hrest, List.singleton_append]

end CodeStencil.Text
