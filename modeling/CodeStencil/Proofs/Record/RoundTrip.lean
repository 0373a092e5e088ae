/-
  CodeStencil/Proofs/Record/RoundTrip.lean
  ========================================
  **Reading a record back** — the text of a record holds one path per line and escapes nothing. So
  the record that a text is read as is the record that was written exactly if every path is one line
  (`ofText_text_iff`): it is not empty, it has no line feed, and no carriage return at its end.
-/
import Mathlib.Data.List.Basic
import CodeStencil.GenerationRecord
import CodeStencil.Proofs.Text.Splitting

namespace CodeStencil

namespace Text

theorem closedLines_append {pieces more : List (List Char)} (h : more ≠ []) :
    closedLines (pieces ++ more) = pieces.map withoutReturn ++ closedLines more := by
  induction pieces with
  | nil => rfl
  | cons piece rest ih =>
    cases hrest : rest ++ more with
    | nil => simp [h] at hrest
    | cons next others =>
      rw [List.cons_append, hrest, closedLines, ← hrest, ih]
      · rfl
      · simp

theorem withoutReturn_eq_self_iff {line : List Char} :
    withoutReturn line = line ↔ line.getLast? ≠ some '\r' := by
  unfold withoutReturn
  split
  · next hlast =>
    simp only [hlast, ne_eq, not_true_eq_false, iff_false]
    intro hself
    have hlen := congrArg List.length hself
    rw [List.length_dropLast] at hlen
    have hnil : line = [] := List.length_eq_zero_iff.1 (by omega)
    simp [hnil] at hlast
  · next hlast => simpa using hlast

theorem mem_of_mem_withoutReturn {line : List Char} {c : Char} (h : c ∈ withoutReturn line) :
    c ∈ line := by
  unfold withoutReturn at h
  split at h
  · exact (List.dropLast_sublist line).subset h
  · exact h

end Text

/-- The path stands on a line of its own, and all of it. -/
structure Path.IsLine (p : Path) : Prop where
  notEmpty : p.text.toList ≠ []
  noFeed : '\n' ∉ p.text.toList
  noReturn : p.text.toList.getLast? ≠ some '\r'

instance (p : Path) : Decidable p.IsLine :=
  decidable_of_iff (p.text.toList ≠ [] ∧ '\n' ∉ p.text.toList ∧
      p.text.toList.getLast? ≠ some '\r')
    ⟨fun h => ⟨h.1, h.2.1, h.2.2⟩, fun h => ⟨h.notEmpty, h.noFeed, h.noReturn⟩⟩

namespace GenerationRecord

/-! ### Collecting paths -/

theorem insert_of_mem {r : GenerationRecord} {p : Path}
    (h : p.components ∈ r.paths.map Path.components) : r.insert p = r := by
  simp only [insert, dif_pos h]

theorem paths_insert_of_not_mem {r : GenerationRecord} {p : Path}
    (h : p.components ∉ r.paths.map Path.components) : (r.insert p).paths = r.paths ++ [p] := by
  simp only [insert, dif_neg h]

theorem paths_foldl_insert_sublist (r : GenerationRecord) (ps : List Path) :
    (ps.foldl insert r).paths.Sublist (r.paths ++ ps) := by
  induction ps generalizing r with
  | nil => simp
  | cons p rest ih =>
    rw [List.foldl_cons]
    by_cases h : p.components ∈ r.paths.map Path.components
    · rw [insert_of_mem h]
      exact (ih r).trans (List.Sublist.append_left (List.sublist_cons_self p rest) r.paths)
    · have hrest := ih (r.insert p)
      rwa [paths_insert_of_not_mem h, List.append_assoc, List.singleton_append] at hrest

/-- Collecting paths adds none. -/
theorem paths_ofList_sublist (ps : List Path) : (ofList ps).paths.Sublist ps :=
  paths_foldl_insert_sublist ∅ ps

theorem paths_foldl_insert_of_nodup (r : GenerationRecord) (ps : List Path)
    (h : ((r.paths ++ ps).map Path.components).Nodup) :
    (ps.foldl insert r).paths = r.paths ++ ps := by
  induction ps generalizing r with
  | nil => simp
  | cons p rest ih =>
    have hnew : p.components ∉ r.paths.map Path.components := by
      intro hmem
      rw [List.map_append, List.nodup_append] at h
      exact h.2.2 _ hmem p.components (by simp) rfl
    have hpaths := paths_insert_of_not_mem hnew
    rw [List.foldl_cons, ih, hpaths, List.append_assoc, List.singleton_append]
    rwa [hpaths, List.append_assoc, List.singleton_append]

theorem ofList_paths (r : GenerationRecord) : (ofList r.paths).paths = r.paths :=
  paths_foldl_insert_of_nodup ∅ r.paths r.distinct

theorem components_mem_foldl_insert (r : GenerationRecord) (ps : List Path) (p : Path) :
    p.components ∈ (ps.foldl insert r).paths.map Path.components ↔
      p.components ∈ (r.paths ++ ps).map Path.components := by
  induction ps generalizing r with
  | nil => simp
  | cons q rest ih =>
    rw [List.foldl_cons, ih]
    by_cases h : q.components ∈ r.paths.map Path.components
    · rw [insert_of_mem h]
      constructor
      · intro hp
        rw [List.map_append, List.mem_append] at hp ⊢
        exact hp.imp id fun hp => List.mem_cons_of_mem _ hp
      · intro hp
        rw [List.map_append, List.map_cons, List.mem_append, List.mem_cons] at hp
        rw [List.map_append, List.mem_append]
        rcases hp with hp | hp | hp
        · exact Or.inl hp
        · exact Or.inl (hp ▸ h)
        · exact Or.inr hp
    · rw [paths_insert_of_not_mem h, List.append_assoc, List.singleton_append]

/-- A record holds what was collected, up to the spelling. -/
theorem contains_ofList {ps : List Path} {p : Path} :
    (ofList ps).contains p = true ↔ ∃ q ∈ ps, q.components = p.components := by
  unfold contains
  rw [List.contains_iff_mem]
  refine (components_mem_foldl_insert ∅ ps p).trans ?_
  exact List.mem_map

theorem ext_paths {r s : GenerationRecord} (h : r.paths = s.paths) : r = s := by
  cases r
  cases s
  subst h
  rfl

/-! ### Lines -/

/-- What a path is read back as: one path for each of its lines. -/
def linesOf (p : Path) : List Path :=
  ((Text.splitAt '\n' p.text.toList).map fun piece => ⟨String.ofList (Text.withoutReturn piece)⟩)

theorem lines_text (r : GenerationRecord) :
    (Text.lines r.text).map Path.mk = r.paths.flatMap linesOf := by
  have hpieces : ∀ ps : List Path,
      Text.closedLines (Text.splitAt '\n' (ps.flatMap fun p => p.text.toList ++ ['\n'])) =
        ps.flatMap fun p => (Text.splitAt '\n' p.text.toList).map Text.withoutReturn := by
    intro ps
    induction ps with
    | nil => rfl
    | cons p rest ih =>
      rw [List.flatMap_cons, List.append_assoc, List.singleton_append, Text.splitAt_append_mark,
        Text.closedLines_append (Text.splitAt_ne_nil _ _), ih, List.flatMap_cons]
  have htext : r.text.toList = r.paths.flatMap fun p => p.text.toList ++ ['\n'] := by
    simp [text, String.toList_join, List.flatMap_map]
  unfold Text.lines
  rw [htext, hpieces]
  simp only [List.map_flatMap, List.map_map]
  rfl

theorem ofText_text (r : GenerationRecord) :
    ofText r.text = ofList ((r.paths.flatMap linesOf).filter fun p => !p.text.isEmpty) := by
  unfold ofText
  rw [← lines_text, List.filter_map]
  rfl

theorem linesOf_of_isLine {p : Path} (h : p.IsLine) : linesOf p = [p] := by
  unfold linesOf
  rw [Text.splitAt_of_not_mem h.noFeed, List.map_singleton,
    Text.withoutReturn_eq_self_iff.2 h.noReturn, String.ofList_toList]

/-- A record of lines is read back as it was written. -/
theorem ofText_text_of_isLine {r : GenerationRecord} (h : ∀ p ∈ r.paths, p.IsLine) :
    ofText r.text = r := by
  have hlines : r.paths.flatMap linesOf = r.paths := by
    have hmap := List.flatMap_congr fun p hp => linesOf_of_isLine (h p hp)
    rw [hmap]
    simp
  have hfilter : (r.paths.filter fun p => !p.text.isEmpty) = r.paths := by
    refine List.filter_eq_self.2 fun p hp => ?_
    have hne := (h p hp).notEmpty
    simpa using hne
  rw [ofText_text, hlines, hfilter]
  exact ext_paths (ofList_paths r)

/-- Only a record of lines is read back as it was written: a line is never empty and never holds a
    line feed, and a carriage return at its end gets lost. -/
theorem ofText_text_iff (r : GenerationRecord) :
    (ofText r.text).paths = r.paths ↔ ∀ p ∈ r.paths, p.IsLine := by
  constructor
  · intro hback
    have hread : ∀ p ∈ r.paths, p.text.toList ≠ [] ∧ '\n' ∉ p.text.toList := by
      intro p hp
      rw [← hback, ofText_text] at hp
      obtain ⟨hmem, hne⟩ := List.mem_filter.1 ((paths_ofList_sublist _).subset hp)
      obtain ⟨q, -, hq⟩ := List.mem_flatMap.1 hmem
      obtain ⟨piece, hpiece, rfl⟩ := List.mem_map.1 hq
      refine ⟨by simpa using hne, ?_⟩
      rw [String.toList_ofList]
      exact fun hfeed =>
        Text.not_mem_of_mem_splitAt hpiece (Text.mem_of_mem_withoutReturn hfeed)
    -- no path has more than one line, so that no line may be shorter than its path
    have hlines : r.paths.flatMap linesOf =
        r.paths.map fun p => ⟨String.ofList (Text.withoutReturn p.text.toList)⟩ := by
      rw [List.map_eq_flatMap]
      refine List.flatMap_congr fun p hp => ?_
      simp [linesOf, Text.splitAt_of_not_mem (hread p hp).2]
    have hsub : (ofText r.text).paths.Sublist (r.paths.flatMap linesOf) := by
      rw [ofText_text]
      exact (paths_ofList_sublist _).trans List.filter_sublist
    rw [hback, hlines] at hsub
    have hsame := hsub.eq_of_length (by simp)
    intro p hp
    refine ⟨(hread p hp).1, (hread p hp).2, Text.withoutReturn_eq_self_iff.1 ?_⟩
    have hself := List.map_inj_left.1 (hsame.symm.trans (List.map_id' _).symm) p hp
    have htext := congrArg (fun q : Path => q.text.toList) hself
    simpa using htext
  · intro h
    rw [ofText_text_of_isLine h]

end GenerationRecord

end CodeStencil
