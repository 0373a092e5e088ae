/-
  CodeStencil/Proofs/Files/Regions.lean
  =====================================
  **What is read stays the same** — changes that write and erase nothing at and below a location keep
  its files, and folders are never lost (`Changes.keeps`). Where a path leads to such a location on
  both disks, whatever could be read there before reads the same (`Sees`). Only a folder may have
  been made where nothing was.
-/
import Mathlib.Data.List.Basic
import CodeStencil.Proofs.Files.Nesting

namespace CodeStencil

namespace Disk

/-- At a location and below it, the second disk has the files of the first one. All folders of the
    first one are there, and there may be more. -/
structure Keeps (root : Location) (d d' : Disk) : Prop where
  files : d'.files.filter (root.isPrefixOf ·.1) = d.files.filter (root.isPrefixOf ·.1)
  folders : ∀ l, d.isFolderAt l = true → d'.isFolderAt l = true

namespace Keeps

variable {root l : Location} {d d' d'' : Disk}

theorem refl (root : Location) (d : Disk) : Keeps root d d := ⟨rfl, fun _ => id⟩

theorem trans (h : Keeps root d d') (h' : Keeps root d' d'') : Keeps root d d'' :=
  ⟨h'.files.trans h.files, fun l hl => h'.folders l (h.folders l hl)⟩

theorem contentAt? (h : Keeps root d d') (hl : root <+: l) : d'.contentAt? l = d.contentAt? l := by
  have hkept : ∀ files : List (Location × ByteArray),
      (files.filter (root.isPrefixOf ·.1)).lookup l = files.lookup l := by
    intro files
    rw [lookup_filter root.isPrefixOf, if_pos (List.isPrefixOf_iff_prefix.2 hl)]
  unfold Disk.contentAt?
  rw [← hkept d'.files, ← hkept d.files, h.files]

theorem isFileAt (h : Keeps root d d') (hl : root <+: l) : d'.isFileAt l = d.isFileAt l := by
  unfold Disk.isFileAt
  rw [h.contentAt? hl]

/-- What is kept at a location is kept below it. -/
theorem below (h : Keeps root d d') (hl : root <+: l) : Keeps l d d' := by
  have hfilter : ∀ files : List (Location × ByteArray),
      files.filter (l.isPrefixOf ·.1) =
        (files.filter (root.isPrefixOf ·.1)).filter (l.isPrefixOf ·.1) := by
    intro files
    rw [List.filter_filter]
    refine List.filter_congr fun f _ => ?_
    cases hf : l.isPrefixOf f.1 with
    | false => rfl
    | true =>
      have hroot := hl.trans (List.isPrefixOf_iff_prefix.1 hf)
      rw [List.isPrefixOf_iff_prefix.2 hroot, Bool.and_true]
  refine ⟨?_, h.folders⟩
  rw [hfilter d'.files, h.files, ← hfilter d.files]

theorem filterMap_eq {β : Type} (h : Keeps root d d') {f : Location × ByteArray → Option β}
    (hf : ∀ x b, f x = some b → root <+: x.1) : d'.files.filterMap f = d.files.filterMap f := by
  have hfilter : ∀ files : List (Location × ByteArray),
      files.filterMap f = (files.filter (root.isPrefixOf ·.1)).filterMap f := by
    intro files
    rw [List.filterMap_filter]
    refine List.filterMap_congr fun x _ => ?_
    cases hx : f x with
    | none => simp
    | some b => rw [if_pos (List.isPrefixOf_iff_prefix.2 (hf x b hx))]
  rw [hfilter d'.files, h.files, ← hfilter d.files]

theorem fileNames (h : Keeps root d d') (hl : root <+: l) : d'.fileNames l = d.fileNames l := by
  unfold Disk.fileNames
  rw [h.filterMap_eq]
  intro x name hx
  split at hx
  · next hfolder => exact hl.trans (hfolder ▸ List.dropLast_prefix x.1)
  · cases hx

end Keeps

/-- Changes that write and erase elsewhere keep what is at a location and below it. -/
theorem Changes.keeps {s : Scope} {d d' : Disk} (h : Changes s d d') {root : Location}
    (hwrites : ∀ l, s.writes l → ¬root <+: l) (herases : ∀ l, s.erases l → ¬root <+: l) :
    Keeps root d d' := by
  have hother : ∀ {loc} (files : List (Location × ByteArray)), ¬root <+: loc →
      (files.filter (·.1 != loc)).filter (root.isPrefixOf ·.1) =
        files.filter (root.isPrefixOf ·.1) := by
    intro loc files hloc
    rw [List.filter_filter]
    refine List.filter_congr fun f _ => ?_
    cases hf : root.isPrefixOf f.1 with
    | false => rfl
    | true =>
      have hne : f.1 ≠ loc := by
        rintro rfl
        exact hloc (List.isPrefixOf_iff_prefix.1 hf)
      simp [hne]
  refine ⟨?_, fun _ => h.isFolderAt⟩
  induction h with
  | none => rfl
  | make _ _ _ ih =>
    refine Eq.trans ?_ ih
    unfold addFolder
    split <;> rfl
  | @write d₁ loc bytes _ allowed _ ih =>
    have hloc := hwrites loc allowed
    have hnot : root.isPrefixOf loc = false := by
      rw [← Bool.not_eq_true, List.isPrefixOf_iff_prefix]
      exact hloc
    refine Eq.trans ?_ ih
    unfold putAt
    rw [List.filter_cons_of_neg (by simp [hnot])]
    exact hother d₁.files hloc
  | @erase d₁ loc _ allowed ih => exact (hother d₁.files (herases loc allowed)).trans ih

/-! ### The same view -/

/-- Both disks lead a path to the same place, and the second one keeps what is there. -/
def Sees (p : Path) (d d' : Disk) : Prop :=
  ∃ loc, d.locate p = some loc ∧ d'.locate p = some loc ∧ Keeps loc d d'

theorem isFolderAt_of_isFolder {d : Disk} {p : Path} {loc : Location} (h : d.isFolder p = true)
    (hloc : d.locate p = some loc) : d.isFolderAt loc = true := by
  unfold Disk.isFolder at h
  rwa [hloc] at h

/-- Names in a folder lead somewhere, whether there is anything or not. -/
theorem locate_child_of_isFolderAt {d : Disk} {p : Path} {loc : Location}
    (hloc : d.locate p = some loc) (hfolder : d.isFolderAt loc = true) {name : String}
    (hname : Path.Simple name) : d.locate (p / name) = some (loc ++ [name]) := by
  have hne : p.text.isEmpty = false := by
    unfold locate at hloc
    split at hloc
    · cases hloc
    · next htext => simpa using htext
  rw [locate_child d hne hname, hloc, Option.bind_some, if_pos hfolder]

namespace Sees

variable {p : Path} {d d' : Disk}

theorem isFile (h : Sees p d d') : d'.isFile p = d.isFile p := by
  obtain ⟨loc, hd, hd', hkeeps⟩ := h
  unfold Disk.isFile
  rw [hd, hd']
  exact hkeeps.isFileAt (List.prefix_refl loc)

theorem isFolder (h : Sees p d d') (hp : d.isFolder p = true) : d'.isFolder p = true := by
  obtain ⟨loc, hd, hd', hkeeps⟩ := h
  unfold Disk.isFolder
  rw [hd']
  exact hkeeps.folders loc (isFolderAt_of_isFolder hp hd)

/-- What is there stays; but there may be a folder now where nothing was. -/
theorem holds (h : Sees p d d') (hstill : d.holds p = false → d'.holds p = false) :
    d'.holds p = d.holds p := by
  cases hp : d.holds p with
  | false => exact hstill hp
  | true =>
    rw [Disk.holds, Bool.or_eq_true] at hp ⊢
    rcases hp with hfile | hfolder
    · exact Or.inl (h.isFile.trans hfile)
    · exact Or.inr (h.isFolder hfolder)

/-- Something can only be there now if it is a folder and there was none. -/
theorem holds_eq_false (h : Sees p d d') (hnone : d.holds p = false)
    (hmade : d'.isFolderAt (d.resolve p) = true → d.isFolderAt (d.resolve p) = true) :
    d'.holds p = false := by
  obtain ⟨loc, hd, hd', -⟩ := id h
  rw [locate_some hd] at hmade
  rw [Disk.holds, Bool.or_eq_false_iff] at hnone ⊢
  obtain ⟨hfile, hfolder⟩ := hnone
  refine ⟨h.isFile.trans hfile, ?_⟩
  rw [← Bool.not_eq_true]
  intro hfolder'
  have hthere := hmade (isFolderAt_of_isFolder hfolder' hd')
  simp [Disk.isFolder, hd, hthere] at hfolder

theorem readText (h : Sees p d d') : d'.readText p = d.readText p := by
  obtain ⟨loc, hd, hd', hkeeps⟩ := h
  unfold Disk.readText Disk.read
  rw [hd, hd', Option.bind_some, Option.bind_some, hkeeps.contentAt? (List.prefix_refl loc)]

theorem listFiles (h : Sees p d d') (hfolder : d.isFolder p = true) :
    d'.listFiles p = d.listFiles p := by
  obtain ⟨loc, hd, hd', hkeeps⟩ := h
  have hat := isFolderAt_of_isFolder hfolder hd
  unfold Disk.listFiles
  rw [hd, hd']
  dsimp only
  rw [if_pos hat, if_pos (hkeeps.folders loc hat), hkeeps.fileNames (List.prefix_refl loc)]

/-- What is in a folder is seen together with the folder. -/
theorem child (h : Sees p d d') (hfolder : d.isFolder p = true) {name : String}
    (hname : Path.Simple name) : Sees (p / name) d d' := by
  obtain ⟨loc, hd, hd', hkeeps⟩ := h
  have hat := isFolderAt_of_isFolder hfolder hd
  refine ⟨loc ++ [name], ?_, ?_, hkeeps.below (List.prefix_append loc [name])⟩
  · exact locate_child_of_isFolderAt hd hat hname
  · exact locate_child_of_isFolderAt hd' (hkeeps.folders loc hat) hname

end Sees

/-- Where nothing was, there is nothing still. -/
def StillMissing (ps : List Path) (d d' : Disk) : Prop :=
  ∀ p ∈ ps, d.holds p = false → d'.holds p = false

end Disk

end CodeStencil
