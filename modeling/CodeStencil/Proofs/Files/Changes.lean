/-
  CodeStencil/Proofs/Files/Changes.lean
  =====================================
  **What actions may change** — whatever an action does to a disk is a series of three kinds of
  changes: a folder is made, a file is written, a file is erased. A scope says at which locations
  each kind may happen. What a disk keeps is proved once, for changes within a scope, and then holds
  for every action that keeps within it (`Changes.contentAt?_eq`, `changes_createFolders`).
-/
import CodeStencil.Proofs.Files.Resolution
import CodeStencil.Proofs.Lists.Lookup

namespace CodeStencil

/-! ### Running actions -/

namespace Action

variable {α β : Type}

@[simp] theorem run_pure (a : α) (d : Disk) : (pure a : Action α).run.run d = (.ok a, d) := rfl

@[simp] theorem run_throw (e : Error) (d : Disk) :
    (throw e : Action α).run.run d = (.error e, d) := rfl

@[simp] theorem run_get (d : Disk) : (get : Action Disk).run.run d = (.ok d, d) := rfl

@[simp] theorem run_set (d d' : Disk) : (set d' : Action PUnit).run.run d = (.ok ⟨⟩, d') := rfl

theorem run_bind (x : Action α) (f : α → Action β) (d : Disk) :
    (x >>= f).run.run d =
      match x.run.run d with
      | (.ok a, d') => (f a).run.run d'
      | (.error e, d') => (.error e, d') := by
  change (ExceptT.bindCont f (x.run.run d).1).run (x.run.run d).2 = _
  cases x.run.run d with
  | mk result d' => cases result <;> rfl

end Action

namespace Disk

/-! ### Single changes -/

private theorem lookup_filter_ne (loc l : Location) (files : List (Location × ByteArray)) :
    (files.filter (·.1 != loc)).lookup l = if l = loc then none else files.lookup l := by
  rw [lookup_filter (· != loc)]
  by_cases hl : l = loc
  · simp [hl]
  · simp [hl]

@[simp] theorem contentAt?_putAt (d : Disk) (loc l : Location) (bytes : ByteArray) :
    (d.putAt loc bytes).contentAt? l = if l = loc then some bytes else d.contentAt? l := by
  by_cases hl : l = loc
  · simp [contentAt?, putAt, hl]
  · have hbeq : (l == loc) = false := by simpa using hl
    simp [contentAt?, putAt, List.lookup_cons, hbeq, lookup_filter_ne, hl]

@[simp] theorem contentAt?_eraseAt (d : Disk) (loc l : Location) :
    (d.eraseAt loc).contentAt? l = if l = loc then none else d.contentAt? l :=
  lookup_filter_ne loc l d.files

@[simp] theorem contentAt?_addFolder (d : Disk) (loc l : Location) :
    (d.addFolder loc).contentAt? l = d.contentAt? l := by
  unfold addFolder
  split <;> rfl

@[simp] theorem isFolderAt_putAt (d : Disk) (loc l : Location) (bytes : ByteArray) :
    (d.putAt loc bytes).isFolderAt l = d.isFolderAt l := rfl

@[simp] theorem isFolderAt_eraseAt (d : Disk) (loc l : Location) :
    (d.eraseAt loc).isFolderAt l = d.isFolderAt l := rfl

theorem isFolderAt_addFolder (d : Disk) (loc l : Location) :
    (d.addFolder loc).isFolderAt l = true ↔ d.isFolderAt l = true ∨ l = loc := by
  unfold addFolder
  split
  · next hfolder =>
    constructor
    · exact Or.inl
    · rintro (h | rfl)
      · exact h
      · exact hfolder
  · simp only [isFolderAt, Bool.or_eq_true, List.contains_cons, beq_iff_eq]
    rw [or_assoc, or_comm (a := l = loc)]

@[simp] theorem current_putAt (d : Disk) (loc : Location) (bytes : ByteArray) :
    (d.putAt loc bytes).current = d.current := rfl

@[simp] theorem current_eraseAt (d : Disk) (loc : Location) :
    (d.eraseAt loc).current = d.current := rfl

@[simp] theorem current_addFolder (d : Disk) (loc : Location) :
    (d.addFolder loc).current = d.current := by
  unfold addFolder
  split <;> rfl

theorem isFileAt_eq_true {d : Disk} {loc : Location} :
    d.isFileAt loc = true ↔ ∃ bytes, d.contentAt? loc = some bytes := by
  simp [isFileAt, Option.isSome_iff_exists]

theorem isFileAt_eq_false {d : Disk} {loc : Location} :
    d.isFileAt loc = false ↔ d.contentAt? loc = none := by
  simp [isFileAt]

/-! ### Changes within a scope -/

/-- At which locations folders may be made, and files written or erased. -/
structure Scope where
  makes : Location → Prop
  writes : Location → Prop
  erases : Location → Prop

/-- Changes within a scope lead from one disk to another. No folder is made where there is a file,
    and no file is written where there is a folder. -/
inductive Changes (s : Scope) (d : Disk) : Disk → Prop
  | none : Changes s d d
  | make {d' loc} (before : Changes s d d') (allowed : s.makes loc)
      (free : d'.isFileAt loc = false) : Changes s d (d'.addFolder loc)
  | write {d' loc bytes} (before : Changes s d d') (allowed : s.writes loc)
      (free : d'.isFolderAt loc = false) : Changes s d (d'.putAt loc bytes)
  | erase {d' loc} (before : Changes s d d') (allowed : s.erases loc) :
      Changes s d (d'.eraseAt loc)

namespace Changes

variable {s t : Scope} {d d' d'' : Disk}

theorem trans (h : Changes s d d') (h' : Changes s d' d'') : Changes s d d'' := by
  induction h' with
  | none => exact h
  | make _ allowed free ih => exact ih.make allowed free
  | write _ allowed free ih => exact ih.write allowed free
  | erase _ allowed ih => exact ih.erase allowed

theorem mono (h : Changes s d d') (hmakes : ∀ l, s.makes l → t.makes l)
    (hwrites : ∀ l, s.writes l → t.writes l) (herases : ∀ l, s.erases l → t.erases l) :
    Changes t d d' := by
  induction h with
  | none => exact .none
  | make _ allowed free ih => exact ih.make (hmakes _ allowed) free
  | write _ allowed free ih => exact ih.write (hwrites _ allowed) free
  | erase _ allowed ih => exact ih.erase (herases _ allowed)

theorem current_eq (h : Changes s d d') : d'.current = d.current := by
  induction h with
  | none => rfl
  | make _ _ _ ih => simpa using ih
  | write _ _ _ ih => simpa using ih
  | erase _ _ ih => simpa using ih

theorem resolve_eq (h : Changes s d d') (p : Path) : d'.resolve p = d.resolve p :=
  resolve_congr h.current_eq p

theorem trail_eq (h : Changes s d d') (p : Path) : d'.trail p = d.trail p :=
  trail_congr h.current_eq p

/-- Folders stay. -/
theorem isFolderAt (h : Changes s d d') {l : Location} (hl : d.isFolderAt l = true) :
    d'.isFolderAt l = true := by
  induction h with
  | none => exact hl
  | make _ _ _ ih => exact (isFolderAt_addFolder _ _ _).2 (Or.inl ih)
  | write _ _ _ ih => simpa using ih
  | erase _ _ ih => simpa using ih

/-- A folder that is there was there before or has been made. -/
theorem isFolderAt_cases (h : Changes s d d') {l : Location} (hl : d'.isFolderAt l = true) :
    d.isFolderAt l = true ∨ s.makes l := by
  induction h with
  | none => exact Or.inl hl
  | make _ allowed _ ih =>
    rcases (isFolderAt_addFolder _ _ _).1 hl with hl | rfl
    · exact ih hl
    · exact Or.inr allowed
  | write _ _ _ ih => exact ih (by simpa using hl)
  | erase _ _ ih => exact ih (by simpa using hl)

/-- So ways that were open stay open. -/
theorem locate (h : Changes s d d') {p : Path} {loc : Location} (hp : d.locate p = some loc) :
    d'.locate p = some loc :=
  locate_mono h.current_eq (fun _ => h.isFolderAt) hp

/-- Where no folder is made, paths lead where they led before. -/
theorem locate_eq (h : Changes s d d') (hmakes : ∀ l, ¬s.makes l) (p : Path) :
    d'.locate p = d.locate p := by
  have hfolders : ∀ l, d'.isFolderAt l = true → d.isFolderAt l = true := fun l hl =>
    (h.isFolderAt_cases hl).resolve_right (hmakes l)
  cases hloc : d'.locate p with
  | some loc => exact (locate_mono h.current_eq.symm hfolders hloc).symm
  | none =>
    cases hloc' : d.locate p with
    | none => rfl
    | some loc =>
      rw [h.locate hloc'] at hloc
      cases hloc

/-- Outside of the scope files keep their content, and there are no new ones. -/
theorem contentAt?_eq (h : Changes s d d') {l : Location} (hwrites : ¬s.writes l)
    (herases : ¬s.erases l) : d'.contentAt? l = d.contentAt? l := by
  induction h with
  | none => rfl
  | make _ _ _ ih => simpa using ih
  | @write _ loc _ _ allowed _ ih =>
    have hne : l ≠ loc := by rintro rfl; exact hwrites allowed
    simpa [hne] using ih
  | @erase _ loc _ allowed ih =>
    have hne : l ≠ loc := by rintro rfl; exact herases allowed
    simpa [hne] using ih

/-- Where no file is written there are no new ones. -/
theorem contentAt?_eq_none (h : Changes s d d') {l : Location} (hwrites : ¬s.writes l)
    (hl : d.contentAt? l = Option.none) : d'.contentAt? l = Option.none := by
  induction h with
  | none => exact hl
  | make _ _ _ ih => simpa using ih
  | @write _ loc _ _ allowed _ ih =>
    have hne : l ≠ loc := by rintro rfl; exact hwrites allowed
    simpa [hne] using ih
  | @erase _ loc _ _ ih =>
    by_cases hloc : l = loc
    · simp [hloc]
    · simpa [hloc] using ih

/-- Where no file is erased, files stay. -/
theorem isFileAt (h : Changes s d d') {l : Location} (herases : ¬s.erases l)
    (hl : d.isFileAt l = true) : d'.isFileAt l = true := by
  rw [isFileAt_eq_true] at hl ⊢
  induction h with
  | none => exact hl
  | make _ _ _ ih => simpa using ih
  | @write _ loc _ _ _ _ ih =>
    by_cases hloc : l = loc
    · simp [hloc]
    · simpa [hloc] using ih
  | @erase _ loc _ allowed ih =>
    have hne : l ≠ loc := by rintro rfl; exact herases allowed
    simpa [hne] using ih

/-- A file named by a path stays where no file is erased. -/
theorem isFile (h : Changes s d d') {p : Path} (herases : ¬s.erases (d.resolve p))
    (hp : d.isFile p = true) : d'.isFile p = true := by
  unfold Disk.isFile at hp ⊢
  cases hloc : d.locate p with
  | none => simp [hloc] at hp
  | some loc =>
    have hfile : d.isFileAt loc = true := by simpa [hloc] using hp
    rw [h.locate hloc]
    simpa using h.isFileAt (locate_some hloc ▸ herases) hfile

end Changes

/-! ### Changes of actions -/

/-- Only folders are made, at these locations. -/
def Scope.making (locs : List Location) : Scope := ⟨(· ∈ locs), fun _ => False, fun _ => False⟩

/-- A file is written, and folders are made on the way to it. -/
def Scope.writing (locs : List Location) (loc : Location) : Scope :=
  ⟨(· ∈ locs), (· = loc), fun _ => False⟩

theorem changes_makeFolders (d : Disk) (loc : Location) (parts : List (List Char)) :
    Changes (.making (Path.Component.trail loc (parts.filterMap (Path.component? false)))) d
      (d.makeFolders loc parts).1 := by
  induction parts generalizing d loc with
  | nil => exact .none
  | cons part rest ih =>
    rcases Path.component?_cases part with hc | hc | hc
    · rw [makeFolders_cons_of_none hc, List.filterMap_cons_none hc]
      exact ih d loc
    · rw [makeFolders_cons_of_above hc, List.filterMap_cons_some hc]
      exact ih d loc.dropLast
    · rw [makeFolders_cons_of_name hc, List.filterMap_cons_some hc]
      split
      · next hfree =>
        rw [Bool.and_eq_true, Bool.not_eq_true'] at hfree
        refine (Changes.none.make List.mem_cons_self hfree.2).trans ((ih _ _).mono ?_ ?_ ?_)
        · exact fun l hl => List.mem_cons_of_mem _ hl
        · exact fun _ => id
        · exact fun _ => id
      · exact .none

theorem run_createFolders (p : Path) (d : Disk) :
    (createFolders p).run.run d =
      if p.text.isEmpty then (.ok (), d)
      else
        (if (d.makeFolders (d.start p) p.parts).2 then .ok () else .error .io,
          (d.makeFolders (d.start p) p.parts).1) := by
  unfold createFolders
  rw [Action.run_bind, Action.run_get]
  dsimp only
  cases htext : p.text.isEmpty with
  | true => rfl
  | false =>
    simp only [Bool.not_false, if_true, Action.run_bind, Action.run_set]
    cases (d.makeFolders (d.start p) p.parts).2 <;> rfl

theorem changes_createFolders (p : Path) (d : Disk) :
    Changes (.making (d.trail p)) d ((createFolders p).run.run d).2 := by
  rw [run_createFolders]
  split
  · exact .none
  · rw [trail_eq]
    exact changes_makeFolders d (d.start p) p.parts

theorem run_put (p : Path) (bytes : ByteArray) (d : Disk) :
    (put p bytes).run.run d =
      match d.put? p bytes with
      | some d' => (.ok (), d')
      | none => (.error .io, d) := by
  unfold put
  rw [Action.run_bind, Action.run_get]
  dsimp only
  cases d.put? p bytes <;> rfl

/-- A file is put where a path leads unless there is a folder. -/
theorem put?_eq_some {d d' : Disk} {p : Path} {bytes : ByteArray} :
    d.put? p bytes = some d' ↔
      d.locate p = some (d.resolve p) ∧ d.isFolderAt (d.resolve p) = false ∧
        d' = d.putAt (d.resolve p) bytes := by
  unfold put?
  cases hloc : d.locate p with
  | none => simp
  | some loc =>
    rw [locate_some hloc]
    by_cases hfolder : d.isFolderAt loc = true
    · simp [hfolder]
    · simp [hfolder, eq_comm]

end Disk

end CodeStencil
