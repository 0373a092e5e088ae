/-
  CodeStencil/Proofs/Record/Listing.lean
  ======================================
  **What a record lists, and what is removed from it** — a record made of paths lists the first path
  of each file that is named (`paths_ofList`). Of the stale paths, those are removed that lead to a
  file when their turn comes: of several paths that lead to one file, it is the first
  (`removeFiles_eq_ok`). What the file of the record holds in the end is known up to spelling
  (`Reconciled.exists_text`).
-/
import CodeStencil.Proofs.Lists.Distinct
import CodeStencil.Proofs.Record.Reconciliation

namespace CodeStencil

namespace GenerationRecord

open Disk

/-! ### Records of paths -/

theorem paths_foldl_insert (r : GenerationRecord) (ps : List Path) :
    (ps.foldl insert r).paths =
      r.paths ++ firsts Path.components (ps.filter fun p => !r.contains p) := by
  induction ps generalizing r with
  | nil => simp
  | cons p rest ih =>
    rw [List.foldl_cons, ih]
    by_cases hp : p.components ∈ r.paths.map Path.components
    · have hcontains : r.contains p = true := List.contains_iff_mem.2 hp
      rw [insert_of_mem hp, List.filter_cons_of_neg (by simp [hcontains])]
    · have hcontains : r.contains p = false := by
        rw [← Bool.not_eq_true]
        exact fun h => hp (List.contains_iff_mem.1 h)
      have hrest : rest.filter (fun q => !(r.insert p).contains q) =
          (rest.filter fun q => !r.contains q).filter
            fun q => decide (q.components ≠ p.components) := by
        rw [List.filter_filter]
        apply List.filter_congr
        intro q hq
        unfold contains
        rw [paths_insert_of_not_mem hp]
        by_cases hqp : q.components = p.components <;> simp [hqp]
      rw [hrest, List.filter_cons_of_pos (by simp [hcontains]), firsts_cons,
        paths_insert_of_not_mem hp, List.append_assoc, List.singleton_append]

/-- A record lists the paths it is made of, without those whose components came before. -/
theorem paths_ofList (ps : List Path) : (ofList ps).paths = firsts Path.components ps := by
  have hempty : ∀ p, (∅ : GenerationRecord).contains p = false := fun _ => rfl
  have hpaths := paths_foldl_insert ∅ ps
  simp only [hempty, Bool.not_false, List.filter_true] at hpaths
  exact hpaths

/-! ### Removing, one path after the other -/

theorem isFile_eraseAt (d : Disk) (p q : Path) :
    (d.eraseAt (d.resolve p)).isFile q = (d.isFile q && decide (d.resolve q ≠ d.resolve p)) := by
  have herase : Changes (.erasing [d.resolve p]) d (d.eraseAt (d.resolve p)) :=
    Changes.none.erase List.mem_cons_self
  rw [Bool.eq_iff_iff, Bool.and_eq_true, decide_eq_true_eq, isFile_eq_true, isFile_eq_true,
    herase.locate_eq fun _ => id, herase.resolve_eq, isFileAt_eq_true, isFileAt_eq_true,
    contentAt?_eraseAt]
  by_cases hqp : d.resolve q = d.resolve p
  · simp [hqp]
  · simp [hqp]

theorem removeFiles_eq_ok {ps removed : List Path} {d d' : Disk}
    (h : (removeFiles ps).run.run d = (.ok removed, d')) :
    removed = firsts d.resolve (ps.filter d.isFile) := by
  induction ps generalizing d d' removed with
  | nil =>
    obtain rfl : [] = removed := Except.ok.inj (congrArg Prod.fst h)
    rfl
  | cons p rest ih =>
    rw [run_removeFiles_cons] at h
    cases hfile : d.isFile p with
    | false =>
      rw [hfile, if_neg Bool.false_ne_true] at h
      rw [List.filter_cons_of_neg (by simp [hfile]), ih h]
    | true =>
      rw [hfile, if_pos rfl] at h
      cases hrest : (removeFiles rest).run.run (d.eraseAt (d.resolve p)) with
      | mk result d'' =>
        rw [hrest] at h
        cases result with
        | error e => cases h
        | ok more =>
          obtain rfl : p :: more = removed := Except.ok.inj (congrArg Prod.fst h)
          -- what follows is removed from a disk without the file of the first path
          have hresolve : (d.eraseAt (d.resolve p)).resolve = d.resolve := rfl
          have hstill : rest.filter (d.eraseAt (d.resolve p)).isFile =
              (rest.filter d.isFile).filter fun q => decide (d.resolve q ≠ d.resolve p) := by
            rw [List.filter_filter]
            apply List.filter_congr
            intro q hq
            rw [isFile_eraseAt, Bool.and_comm]
          rw [List.filter_cons_of_pos hfile, firsts_cons, ih hrest, hresolve, hstill]

/-! ### Bringing a record up to date -/

theorem reconcile_eq_ok {file : Path} {current : GenerationRecord} {d d' : Disk}
    {removed : List Path} (h : (reconcile file current).run.run d = (.ok removed, d')) :
    ∃ previous, load file d = .ok previous ∧
      removed = firsts d.resolve ((previous.stale current).filter d.isFile) := by
  unfold reconcile at h
  rw [Action.run_bind, run_look] at h
  cases hload : load file d with
  | error e =>
    rw [hload] at h
    cases h
  | ok previous =>
    obtain ⟨removed', d₁, hrun, -⟩ := run_removeFiles (previous.stale current) d
    rw [hload] at h
    dsimp only at h
    rw [Action.run_bind, hrun] at h
    dsimp only at h
    rw [Action.run_bind, Action.run_get] at h
    dsimp only at h
    have hremoved : removed = removed' := by
      split at h
      · rw [Action.run_bind] at h
        cases hpersist : (persist file current).run.run d₁ with
        | mk result d₂ =>
          rw [hpersist] at h
          cases result with
          | error e => cases h
          | ok u => exact (Except.ok.inj (congrArg Prod.fst h)).symm
      · exact (Except.ok.inj (congrArg Prod.fst h)).symm
    rw [hremoved]
    exact ⟨previous, rfl, removeFiles_eq_ok hrun⟩

/-- In the end the file of the record holds the current paths, or the record from before if that
    lists the same files. -/
theorem Reconciled.exists_text {file : Path} {current : GenerationRecord} {d d' : Disk}
    {removed : List Path} (h : Reconciled file current d (.ok removed) d') :
    ∃ text : String, d'.contentAt? (d.resolve file) = some text.toUTF8 ∧
      (text = current.text ∨ removed = [] ∧ (ofText text).same current = true) := by
  cases h with
  | kept hload hremoved hkeep =>
    obtain ⟨hsame, hfile⟩ := Bool.and_eq_true_iff.1 hkeep
    have hsublist := hremoved.sublist
    rw [stale_eq_nil hsame] at hsublist
    obtain rfl := List.sublist_nil.1 hsublist
    have hcontent := hremoved.changes.contentAt?_eq id (l := d.resolve file) List.not_mem_nil
    rw [hcontent]
    rcases load_eq_ok hload with ⟨hnone, -⟩ | ⟨text, -, htext, rfl⟩
    · have hthere := isFile_eq_true.1 hfile
      rw [hremoved.changes.locate_eq fun _ => id, hremoved.changes.resolve_eq, isFileAt_eq_true,
        hcontent, ← isFileAt_eq_true] at hthere
      rw [isFile_eq_true.2 hthere] at hnone
      cases hnone
    · exact ⟨text, htext, Or.inr ⟨rfl, hsame⟩⟩
  | written hload hremoved hrewrite hmade hfree hopen => exact ⟨_, by simp, Or.inl rfl⟩

end GenerationRecord

end CodeStencil
