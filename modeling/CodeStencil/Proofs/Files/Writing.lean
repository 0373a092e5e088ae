/-
  CodeStencil/Proofs/Files/Writing.lean
  =====================================
  **Writing files** — a write either fails, having made some folders, or puts its bytes where the
  path leads (`write_cases`). What was written once can be written again as long as it is not erased
  (`Clear.changes`, `run_write_of_clear`).
-/
import CodeStencil.Proofs.Files.Nesting

namespace CodeStencil

namespace Disk

/-! ### Making folders -/

/-- The names on a way that can be followed are fit to be names. -/
theorem isName_of_follow {d : Disk} {loc dest : Location} {parts : List (List Char)}
    (h : d.follow loc parts = some dest) {s : String}
    (hs : .name s ∈ parts.filterMap (Path.component? false)) : isName s = true := by
  induction parts generalizing loc with
  | nil => simp at hs
  | cons part rest ih =>
    rcases Path.component?_cases part with hc | hc | hc
    · rw [follow_cons_of_none hc, Option.ite_none_right_eq_some] at h
      rw [List.filterMap_cons_none hc] at hs
      exact ih h.2 hs
    · rw [follow_cons_of_above hc, Option.ite_none_right_eq_some] at h
      rw [List.filterMap_cons_some hc] at hs
      exact ih h.2 (by simpa using hs)
    · rw [follow_cons_of_name hc, Option.ite_none_right_eq_some, Bool.and_eq_true] at h
      rw [List.filterMap_cons_some hc, List.mem_cons] at hs
      rcases hs with hs | hs
      · cases hs
        exact h.1.2
      · exact ih h.2 hs

theorem isName_of_locate {d : Disk} {p : Path} {loc : Location} (h : d.locate p = some loc)
    {s : String} (hs : .name s ∈ p.components) : isName s = true := by
  unfold locate at h
  split at h
  · cases h
  · refine isName_of_follow h (Path.name_mem_componentsOf_iff.1 ?_)
    unfold Path.components at hs
    split at hs
    · simpa using hs
    · exact hs

/-- All folders that were asked for are there in the end, and none of them is a file. -/
theorem makeFolders_done {d : Disk} {loc : Location} {parts : List (List Char)}
    (h : (d.makeFolders loc parts).2 = true) {v : Location}
    (hv : v ∈ Path.Component.trail loc (parts.filterMap (Path.component? false))) :
    (d.makeFolders loc parts).1.isFolderAt v = true ∧ d.isFileAt v = false := by
  induction parts generalizing d loc with
  | nil => simp [Path.Component.trail] at hv
  | cons part rest ih =>
    rcases Path.component?_cases part with hc | hc | hc
    · rw [makeFolders_cons_of_none hc] at h ⊢
      rw [List.filterMap_cons_none hc] at hv
      exact ih h hv
    · rw [makeFolders_cons_of_above hc] at h ⊢
      rw [List.filterMap_cons_some hc] at hv
      exact ih h hv
    · rw [makeFolders_cons_of_name hc] at h ⊢
      rw [List.filterMap_cons_some hc, Path.Component.trail, List.mem_cons] at hv
      split at h
      · next hfree =>
        rw [if_pos hfree]
        rw [Bool.and_eq_true, Bool.not_eq_true'] at hfree
        have hrest := changes_makeFolders (d.addFolder (loc ++ [String.ofList part]))
          (loc ++ [String.ofList part]) rest
        rcases hv with rfl | hv
        · exact ⟨hrest.isFolderAt ((isFolderAt_addFolder _ _ _).2 (Or.inr rfl)), hfree.2⟩
        · obtain ⟨hfolder, hfile⟩ := ih h hv
          exact ⟨hfolder, by simpa [isFileAt] using hfile⟩
      · cases h

/-- Where all folders are there already, there is nothing to make. -/
theorem makeFolders_of_there {d : Disk} {loc : Location} {parts : List (List Char)}
    (hnames : ∀ s, .name s ∈ parts.filterMap (Path.component? false) → isName s = true)
    (hthere : ∀ v ∈ Path.Component.trail loc (parts.filterMap (Path.component? false)),
      d.isFolderAt v = true ∧ d.isFileAt v = false) :
    d.makeFolders loc parts = (d, true) := by
  induction parts generalizing loc with
  | nil => rfl
  | cons part rest ih =>
    rcases Path.component?_cases part with hc | hc | hc
    · rw [List.filterMap_cons_none hc] at hnames hthere
      rw [makeFolders_cons_of_none hc]
      exact ih hnames hthere
    · rw [List.filterMap_cons_some hc] at hnames hthere
      rw [makeFolders_cons_of_above hc]
      exact ih (fun s hs => hnames s (List.mem_cons_of_mem _ hs)) hthere
    · rw [List.filterMap_cons_some hc] at hnames hthere
      obtain ⟨hfolder, hfile⟩ := hthere _ List.mem_cons_self
      have hadd : d.addFolder (loc ++ [String.ofList part]) = d := by
        simp [addFolder, hfolder]
      rw [makeFolders_cons_of_name hc, hadd, hnames _ List.mem_cons_self, hfile]
      exact ih (fun s hs => hnames s (List.mem_cons_of_mem _ hs))
        fun v hv => hthere v (List.mem_cons_of_mem _ hv)

/-! ### Writing -/

theorem run_write (p : Path) (bytes : ByteArray) (d : Disk) :
    (write p bytes).run.run d =
      match p.parent? with
      | none => (put p bytes).run.run d
      | some folder =>
        match (createFolders folder).run.run d with
        | (.ok _, d') => (put p bytes).run.run d'
        | (.error e, d') => (.error e, d') := by
  unfold write
  cases p.parent? with
  | none => rfl
  | some folder =>
    dsimp only
    rw [Action.run_bind]
    cases (createFolders folder).run.run d with
    | mk result d' => cases result <;> rfl

/-- A path leads to a file, and all that lies on the way is a folder and nothing else. -/
structure Clear (d : Disk) (p : Path) : Prop where
  isFile : d.isFileAt (d.resolve p) = true
  notFolder : d.isFolderAt (d.resolve p) = false
  way : ∀ v ∈ d.way p, d.isFolderAt v = true ∧ d.isFileAt v = false

/-- A clear file stays clear unless it is erased. -/
theorem Clear.changes {d d' : Disk} {s : Scope} {p : Path} (h : d.Clear p)
    (hs : Changes s d d') (hkeep : ¬s.erases (d.resolve p)) : d'.Clear p := by
  induction hs with
  | none => exact h
  | @make d₁ loc before allowed free ih =>
    have hne : d₁.resolve p ≠ loc := by
      rintro rfl
      rw [ih.isFile] at free
      cases free
    constructor
    · simpa [isFileAt, resolve] using ih.isFile
    · rw [Bool.eq_false_iff, ne_eq, isFolderAt_addFolder, resolve_congr (current_addFolder _ _)]
      simp [ih.notFolder, hne]
    · intro v hv
      rw [way_congr (current_addFolder _ _)] at hv
      have hv' := ih.way v hv
      exact ⟨(isFolderAt_addFolder _ _ _).2 (Or.inl hv'.1), by simpa [isFileAt] using hv'.2⟩
  | @write d₁ loc bytes before allowed free ih =>
    constructor
    · by_cases hloc : d₁.resolve p = loc
      · simp [isFileAt, resolve_congr (current_putAt _ _ _), hloc]
      · simpa [isFileAt, resolve_congr (current_putAt _ _ _), hloc] using ih.isFile
    · simpa [resolve_congr (current_putAt _ _ _)] using ih.notFolder
    · intro v hv
      rw [way_congr (current_putAt _ _ _)] at hv
      have hv' := ih.way v hv
      have hne : v ≠ loc := by
        rintro rfl
        rw [hv'.1] at free
        cases free
      exact ⟨hv'.1, by simpa [isFileAt, hne] using hv'.2⟩
  | @erase d₁ loc before allowed ih =>
    have hne : d₁.resolve p ≠ loc := by
      rintro rfl
      exact hkeep (before.resolve_eq p ▸ allowed)
    constructor
    · simpa [isFileAt, resolve_congr (current_eraseAt _ _), hne] using ih.isFile
    · simpa [resolve_congr (current_eraseAt _ _)] using ih.notFolder
    · intro v hv
      rw [way_congr (current_eraseAt _ _)] at hv
      have hv' := ih.way v hv
      refine ⟨hv'.1, ?_⟩
      by_cases hloc : v = loc
      · simp [isFileAt, hloc]
      · simpa [isFileAt, hloc] using hv'.2

/-- Where all that lies on the way is a folder and nothing else, bytes are put where the path leads,
    if anywhere. -/
theorem put_cases {d : Disk} {p : Path} (bytes : ByteArray)
    (hway : ∀ v ∈ d.way p, d.isFolderAt v = true ∧ d.isFileAt v = false) :
    (put p bytes).run.run d = (.error .io, d) ∨
      (put p bytes).run.run d = (.ok (), d.putAt (d.resolve p) bytes) ∧
        d.isFolderAt (d.resolve p) = false ∧ d.locate p = some (d.resolve p) ∧
        (d.putAt (d.resolve p) bytes).Clear p := by
  rw [run_put]
  cases hres : d.put? p bytes with
  | none => exact Or.inl rfl
  | some d' =>
    obtain ⟨hloc, hfolder, rfl⟩ := put?_eq_some.1 hres
    refine Or.inr ⟨rfl, hfolder, hloc, ?_, ?_, ?_⟩
    · simp [isFileAt, resolve_congr (current_putAt _ _ _)]
    · simpa [resolve_congr (current_putAt _ _ _)] using hfolder
    · intro v hv
      rw [way_congr (current_putAt _ _ _)] at hv
      obtain ⟨hthere, hfree⟩ := hway v hv
      have hne : v ≠ d.resolve p := by
        rintro rfl
        rw [hthere] at hfolder
        cases hfolder
      exact ⟨hthere, by simpa [isFileAt, hne] using hfree⟩

/-- Once the folders for a path are made, all of them are there and none of them is a file. -/
theorem createFolders_done {d d' : Disk} {folder : Path}
    (h : (createFolders folder).run.run d = (.ok (), d')) {v : Location} (hv : v ∈ d.trail folder) :
    d'.isFolderAt v = true ∧ d'.isFileAt v = false := by
  rw [trail_eq] at hv
  rw [run_createFolders] at h
  split at h
  · next htext =>
    have hnil : folder = ⟨""⟩ := by
      obtain ⟨text⟩ := folder
      simpa using htext
    simp [hnil, Path.parts, Text.splitAt, Path.component?, Path.Component.trail] at hv
  · obtain ⟨hresult, rfl⟩ := Prod.mk.inj h
    split at hresult
    · next hok =>
      obtain ⟨hfolder, hfile⟩ := makeFolders_done hok hv
      refine ⟨hfolder, ?_⟩
      rw [isFileAt_eq_false] at hfile ⊢
      rw [← hfile]
      exact (changes_makeFolders d _ _).contentAt?_eq id id
    · cases hresult

/-- All that a write does. Before it fails it may have made folders; if it succeeds, the bytes are
    in a file that is clear. -/
theorem write_cases (p : Path) (bytes : ByteArray) (d : Disk) :
    (∃ e d', (write p bytes).run.run d = (.error e, d') ∧ Changes (.making (d.way p)) d d') ∨
      ∃ d', (write p bytes).run.run d = (.ok (), d'.putAt (d.resolve p) bytes) ∧
        Changes (.making (d.way p)) d d' ∧ d'.isFolderAt (d.resolve p) = false ∧
        d'.locate p = some (d.resolve p) ∧ (d'.putAt (d.resolve p) bytes).Clear p := by
  rw [run_write]
  cases hparent : p.parent? with
  | none =>
    dsimp only
    have hway : ∀ v ∈ d.way p, d.isFolderAt v = true ∧ d.isFileAt v = false := by
      simp [way_of_parent?_none hparent]
    rcases put_cases bytes hway with hres | hres
    · exact Or.inl ⟨_, _, hres, .none⟩
    · exact Or.inr ⟨d, hres.1, .none, hres.2⟩
  | some folder =>
    dsimp only
    have hchanges := changes_createFolders folder d
    rw [trail_parent? hparent] at hchanges
    cases hrun : (createFolders folder).run.run d with
    | mk result d' =>
      rw [hrun] at hchanges
      cases result with
      | error e => exact Or.inl ⟨e, d', rfl, hchanges⟩
      | ok u =>
        dsimp only
        have hway : ∀ v ∈ d'.way p, d'.isFolderAt v = true ∧ d'.isFileAt v = false := by
          intro v hv
          rw [way_congr hchanges.current_eq, ← trail_parent? hparent] at hv
          exact createFolders_done hrun hv
        have hput := put_cases bytes hway
        rw [hchanges.resolve_eq] at hput
        rcases hput with hres | hres
        · exact Or.inl ⟨_, _, hres, hchanges⟩
        · exact Or.inr ⟨d', hres.1, hchanges, hres.2⟩

/-- A clear file that the path leads to can be written again. -/
theorem run_write_of_clear {d : Disk} {p : Path} (h : d.Clear p)
    (hloc : d.locate p = some (d.resolve p)) (bytes : ByteArray) :
    (write p bytes).run.run d = (.ok (), d.putAt (d.resolve p) bytes) := by
  have hput : (put p bytes).run.run d = (.ok (), d.putAt (d.resolve p) bytes) := by
    rw [run_put, put?_eq_some.2 ⟨hloc, h.notFolder, rfl⟩]
  rw [run_write]
  cases hparent : p.parent? with
  | none => exact hput
  | some folder =>
    have hfolders : (createFolders folder).run.run d = (.ok (), d) := by
      rw [run_createFolders]
      split
      · rfl
      · rw [makeFolders_of_there]
        · rfl
        · intro s hs
          obtain ⟨c, hc⟩ := Path.components_parent? hparent
          refine isName_of_locate hloc ?_
          rw [hc]
          refine List.mem_append_left _ (List.mem_append_right _ ?_)
          exact Path.name_mem_componentsOf_iff.2 hs
        · intro v hv
          rw [← trail_eq, trail_parent? hparent] at hv
          exact h.way v hv
    simp only [hfolders]
    exact hput

end Disk

end CodeStencil
