/-
  CodeStencil/Proofs/Record/Reconciliation.lean
  =============================================
  **Cleaning up** — removing files never fails: each of the paths that is a file is removed, and
  nothing else (`run_removeFiles`). Bringing a record up to date ends in one of four ways
  (`reconciled`); whichever it is, only recorded files are erased and only the file of the record is
  written (`Reconciled.changes`).
-/
import CodeStencil.Proofs.Files.Writing
import CodeStencil.Proofs.Record.RoundTrip

namespace CodeStencil

namespace Disk

/-! ### Removing -/

/-- Only files are erased, at these locations. -/
def Scope.erasing (locs : List Location) : Scope := ⟨fun _ => False, fun _ => False, (· ∈ locs)⟩

theorem isFile_eq_true {d : Disk} {p : Path} :
    d.isFile p = true ↔ d.locate p = some (d.resolve p) ∧ d.isFileAt (d.resolve p) = true := by
  unfold isFile
  cases hloc : d.locate p with
  | none => simp
  | some loc =>
    have hres := locate_some hloc
    subst hres
    simp

theorem run_remove {d : Disk} {p : Path} (h : d.isFile p = true) :
    (remove p).run.run d = (.ok (), d.eraseAt (d.resolve p)) := by
  obtain ⟨hloc, hfile⟩ := isFile_eq_true.1 h
  unfold remove
  rw [Action.run_bind, Action.run_get]
  simp [remove?, hloc, hfile]

theorem run_look {α : Type} (f : Disk → Except Error α) (d : Disk) :
    (look f).run.run d = (f d, d) := by
  unfold look
  rw [Action.run_bind, Action.run_get]
  dsimp only
  cases f d <;> rfl

end Disk

namespace GenerationRecord

open Disk

theorem run_removeFiles_cons (p : Path) (rest : List Path) (d : Disk) :
    (removeFiles (p :: rest)).run.run d =
      if d.isFile p then
        match (removeFiles rest).run.run (d.eraseAt (d.resolve p)) with
        | (.ok removed, d') => (.ok (p :: removed), d')
        | (.error e, d') => (.error e, d')
      else (removeFiles rest).run.run d := by
  rw [removeFiles, Action.run_bind, Action.run_get]
  dsimp only
  cases hfile : d.isFile p with
  | false => rfl
  | true =>
    rw [if_pos rfl, if_pos rfl, Action.run_bind, run_remove hfile]
    dsimp only
    rw [Action.run_bind]
    cases (removeFiles rest).run.run (d.eraseAt (d.resolve p)) with
    | mk result d' => cases result <;> rfl

/-- All that removing files does. -/
structure Removed (ps : List Path) (d : Disk) (removed : List Path) (d' : Disk) : Prop where
  sublist : removed.Sublist ps
  changes : Changes (.erasing (removed.map d.resolve)) d d'
  isFile : ∀ p ∈ removed, d.isFile p = true
  complete : ∀ p ∈ ps, d.isFile p = true → d.resolve p ∈ removed.map d.resolve
  gone : ∀ p ∈ removed, d'.isFileAt (d.resolve p) = false

/-- A file to which no recorded path leads is not removed. -/
theorem Removed.contentAt?_of_apart {previous current : GenerationRecord} {d d' : Disk}
    {removed : List Path} {l : Location} (h : Removed (previous.stale current) d removed d')
    (hapart : ∀ p ∈ previous.paths, d.locate p ≠ some l) : d'.contentAt? l = d.contentAt? l := by
  apply h.changes.contentAt?_eq id
  intro herased
  obtain ⟨p, hp, rfl⟩ := List.mem_map.1 herased
  exact hapart p (List.mem_filter.1 (h.sublist.subset hp)).1 (isFile_eq_true.1 (h.isFile p hp)).1

theorem Removed.contentAt?_eq {previous current : GenerationRecord} {d d' : Disk}
    {removed : List Path} {l : Location} (h : Removed (previous.stale current) d removed d')
    (hspare : ∀ p ∈ previous.paths, d.resolve p ≠ l) : d'.contentAt? l = d.contentAt? l :=
  h.contentAt?_of_apart fun p hp hleads => hspare p hp (locate_some hleads)

/-- One more file is removed in front of others. -/
theorem Removed.cons {p : Path} {rest removed : List Path} {d d' : Disk} (hfile : d.isFile p = true)
    (h : Removed rest (d.eraseAt (d.resolve p)) removed d') :
    Removed (p :: rest) d (p :: removed) d' := by
  have herase : Changes (.erasing [d.resolve p]) d (d.eraseAt (d.resolve p)) :=
    Changes.none.erase List.mem_cons_self
  have hresolve : (d.eraseAt (d.resolve p)).resolve = d.resolve := funext herase.resolve_eq
  have hchanges := h.changes
  rw [hresolve] at hchanges
  constructor
  · exact h.sublist.cons_cons p
  · have hone : Changes (.erasing ((p :: removed).map d.resolve)) d _ :=
      Changes.none.erase List.mem_cons_self
    exact hone.trans
      (hchanges.mono (fun _ => id) (fun _ => id) fun _ hl => List.mem_cons_of_mem _ hl)
  · -- nothing is a file after one is gone that was none before
    intro q hq
    rcases List.mem_cons.1 hq with rfl | hq
    · exact hfile
    · obtain ⟨hloc, hat⟩ := isFile_eq_true.1 (h.isFile q hq)
      rw [hresolve] at hloc hat
      have hne : d.resolve q ≠ d.resolve p := by
        intro heq
        simp [isFileAt, heq] at hat
      refine isFile_eq_true.2 ⟨?_, by simpa [isFileAt, hne] using hat⟩
      have hcurrent : d.current = (d.eraseAt (d.resolve p)).current := rfl
      exact locate_mono hcurrent (fun _ => id) hloc
  · intro q hq hqfile
    rw [List.map_cons, List.mem_cons]
    rcases List.mem_cons.1 hq with rfl | hq
    · exact Or.inl rfl
    · by_cases heq : d.resolve q = d.resolve p
      · exact Or.inl heq
      · refine Or.inr ?_
        have hstill := h.complete q hq (herase.isFile (by simpa [Scope.erasing]) hqfile)
        rwa [hresolve] at hstill
  · intro q hq
    rcases List.mem_cons.1 hq with rfl | hq
    · rw [isFileAt_eq_false]
      by_cases hagain : d.resolve q ∈ removed.map d.resolve
      · obtain ⟨r, hr, hrq⟩ := List.mem_map.1 hagain
        have hgone := h.gone r hr
        rwa [hresolve, hrq, isFileAt_eq_false] at hgone
      · rw [hchanges.contentAt?_eq id hagain]
        simp
    · have hgone := h.gone q hq
      rwa [hresolve] at hgone

/-- A path that is no file is left out. -/
theorem Removed.skip {p : Path} {rest removed : List Path} {d d' : Disk} (hfile : ¬d.isFile p = true)
    (h : Removed rest d removed d') : Removed (p :: rest) d removed d' := by
  refine ⟨h.sublist.cons p, h.changes, h.isFile, ?_, h.gone⟩
  intro q hq hqfile
  rcases List.mem_cons.1 hq with rfl | hq
  · exact absurd hqfile hfile
  · exact h.complete q hq hqfile

/-- Removing files never fails. -/
theorem run_removeFiles (ps : List Path) (d : Disk) :
    ∃ removed d', (removeFiles ps).run.run d = (.ok removed, d') ∧ Removed ps d removed d' := by
  induction ps generalizing d with
  | nil => exact ⟨[], d, rfl, by simp, .none, by simp, by simp, by simp⟩
  | cons p rest ih =>
    rw [run_removeFiles_cons]
    by_cases hfile : d.isFile p = true
    · obtain ⟨removed, d', hrun, hrest⟩ := ih (d.eraseAt (d.resolve p))
      exact ⟨p :: removed, d', by rw [if_pos hfile, hrun], hrest.cons hfile⟩
    · obtain ⟨removed, d', hrun, hrest⟩ := ih d
      exact ⟨removed, d', by rw [if_neg hfile, hrun], hrest.skip hfile⟩

/-! ### Loading -/

theorem fromUTF8?_eq_some {bytes : ByteArray} {s : String} :
    String.fromUTF8? bytes = some s ↔ bytes = s.toUTF8 := by
  unfold String.fromUTF8?
  constructor
  · intro h
    split at h
    · rw [← Option.some.inj h]
      rfl
    · cases h
  · rintro rfl
    exact dif_pos s.isValidUTF8

theorem readText_of_contentAt? {d : Disk} {p : Path} {bytes : ByteArray}
    (h : (d.locate p).bind d.contentAt? = some bytes) :
    d.readText p = match String.fromUTF8? bytes with
      | some s => .ok s
      | none => .error .io := by
  unfold readText Disk.read
  rw [h]
  change (match String.fromUTF8? bytes with | some s => pure s | none => throw Error.io) = _
  cases String.fromUTF8? bytes <;> rfl

theorem load_of_not_isFile {file : Path} {d : Disk} (h : d.isFile file = false) :
    load file d = .ok ∅ := by
  simp [load, h]

theorem load_of_isFile {file : Path} {d : Disk} (h : d.isFile file = true) {text : String}
    (htext : d.contentAt? (d.resolve file) = some text.toUTF8) :
    load file d = .ok (ofText text) := by
  have hread : d.readText file = .ok text := by
    rw [readText_of_contentAt? (by rw [(isFile_eq_true.1 h).1, Option.bind_some, htext]),
      fromUTF8?_eq_some.2 rfl]
  rw [load, if_pos h, hread]
  rfl

/-- What is loaded was in the file, unless there is none. -/
theorem load_eq_ok {file : Path} {d : Disk} {r : GenerationRecord} (h : load file d = .ok r) :
    (d.isFile file = false ∧ r = ∅) ∨
      ∃ text : String, d.isFile file = true ∧
        d.contentAt? (d.resolve file) = some text.toUTF8 ∧ r = ofText text := by
  cases hfile : d.isFile file with
  | false =>
    rw [load_of_not_isFile hfile] at h
    exact Or.inl ⟨rfl, (Except.ok.inj h).symm⟩
  | true =>
    refine Or.inr ?_
    obtain ⟨hloc, hat⟩ := isFile_eq_true.1 hfile
    obtain ⟨bytes, hbytes⟩ := isFileAt_eq_true.1 hat
    cases htext : String.fromUTF8? bytes with
    | none =>
      have hread : d.readText file = .error .io := by
        rw [readText_of_contentAt? (by rw [hloc, Option.bind_some, hbytes]), htext]
      rw [load, if_pos hfile, hread] at h
      cases h
    | some text =>
      obtain rfl := fromUTF8?_eq_some.1 htext
      rw [load_of_isFile hfile hbytes] at h
      exact ⟨text, rfl, hbytes, (Except.ok.inj h).symm⟩

/-! ### Bringing the record up to date -/

theorem trail_folderOf (file : Path) (d : Disk) : d.trail (folderOf file) ⊆ d.way file := by
  have hdot : d.trail ⟨"."⟩ = [] := rfl
  unfold folderOf
  split
  · next folder hparent =>
    split
    · simp [hdot]
    · rw [trail_parent? hparent]
      exact fun _ => id
  · simp [hdot]

theorem persist_cases (file : Path) (r : GenerationRecord) (d : Disk) :
    (∃ e d', (persist file r).run.run d = (.error e, d') ∧ Changes (.making (d.way file)) d d') ∨
      ∃ d', (persist file r).run.run d = (.ok (), d'.putAt (d.resolve file) r.text.toUTF8) ∧
        Changes (.making (d.way file)) d d' ∧ d'.isFolderAt (d.resolve file) = false ∧
        d'.locate file = some (d.resolve file) := by
  have hchanges := changes_createFolders (folderOf file) d
  unfold persist
  rw [Action.run_bind]
  cases hrun : (createFolders (folderOf file)).run.run d with
  | mk result d' =>
    rw [hrun] at hchanges
    have hmade : Changes (.making (d.way file)) d d' :=
      hchanges.mono (fun _ hl => trail_folderOf file d hl) (fun _ => id) fun _ => id
    cases result with
    | error e => exact Or.inl ⟨e, d', rfl, hmade⟩
    | ok u =>
      dsimp only
      rw [run_put]
      cases hput : d'.put? file r.text.toUTF8 with
      | none => exact Or.inl ⟨_, d', rfl, hmade⟩
      | some d'' =>
        obtain ⟨hloc, hfolder, rfl⟩ := put?_eq_some.1 hput
        rw [hmade.resolve_eq] at hloc hfolder ⊢
        exact Or.inr ⟨d', rfl, hmade, hfolder, hloc⟩

/-- How bringing a record up to date may end. -/
inductive Reconciled (file : Path) (current : GenerationRecord) (d : Disk) :
    Except Error (List Path) → Disk → Prop
  | unreadable {e} (hload : load file d = .error e) : Reconciled file current d (.error e) d
  | kept {previous removed d'} (hload : load file d = .ok previous)
      (hremoved : Removed (previous.stale current) d removed d')
      (hkeep : (previous.same current && d'.isFile file) = true) :
      Reconciled file current d (.ok removed) d'
  | unwritten {previous removed d₁ e d'} (hload : load file d = .ok previous)
      (hremoved : Removed (previous.stale current) d removed d₁)
      (hmade : Changes (.making (d.way file)) d₁ d') : Reconciled file current d (.error e) d'
  | written {previous removed d₁ d'} (hload : load file d = .ok previous)
      (hremoved : Removed (previous.stale current) d removed d₁)
      (hrewrite : (previous.same current && d₁.isFile file) = false)
      (hmade : Changes (.making (d.way file)) d₁ d')
      (hfree : d'.isFolderAt (d.resolve file) = false)
      (hopen : d'.locate file = some (d.resolve file)) :
      Reconciled file current d (.ok removed)
        (d'.putAt (d.resolve file) current.text.toUTF8)

theorem reconciled (file : Path) (current : GenerationRecord) (d : Disk) :
    Reconciled file current d ((reconcile file current).run.run d).1
      ((reconcile file current).run.run d).2 := by
  unfold reconcile
  rw [Action.run_bind, run_look]
  cases hload : load file d with
  | error e => exact .unreadable hload
  | ok previous =>
    obtain ⟨removed, d₁, hrun, hremoved⟩ := run_removeFiles (previous.stale current) d
    dsimp only
    rw [Action.run_bind, hrun]
    dsimp only
    rw [Action.run_bind, Action.run_get]
    dsimp only
    have hway : d₁.way file = d.way file := way_congr hremoved.changes.current_eq file
    have hresolve := hremoved.changes.resolve_eq file
    cases hkeep : previous.same current && d₁.isFile file with
    | true =>
      rw [← Bool.not_and, hkeep]
      exact .kept hload hremoved hkeep
    | false =>
      rw [← Bool.not_and, hkeep, Bool.not_false, if_pos rfl, Action.run_bind]
      rcases persist_cases file current d₁ with ⟨e, d', hpersist, hmade⟩ |
        ⟨d', hpersist, hmade, hfree, hopen⟩
      · rw [hway] at hmade
        rw [hpersist]
        exact .unwritten hload hremoved hmade
      · rw [hway] at hmade
        rw [hresolve] at hpersist hfree hopen
        rw [hpersist]
        exact .written hload hremoved hkeep hmade hfree hopen

namespace Reconciled

variable {file : Path} {current previous : GenerationRecord} {d d' : Disk}
  {result : Except Error (List Path)}

/-- Only the file of the record is written, and only stale files are erased. -/
theorem changes (h : Reconciled file current d result d') (hload : load file d = .ok previous) :
    Changes ⟨(· ∈ d.way file), (· = d.resolve file),
      (· ∈ (previous.stale current).map d.resolve)⟩ d d' := by
  have herase : ∀ {removed d₁}, Removed (previous.stale current) d removed d₁ →
      Changes ⟨(· ∈ d.way file), (· = d.resolve file),
        (· ∈ (previous.stale current).map d.resolve)⟩ d d₁ := by
    intro removed d₁ hremoved
    refine hremoved.changes.mono (fun _ => False.elim) (fun _ => False.elim) ?_
    exact fun l hl => (hremoved.sublist.map d.resolve).subset hl
  cases h with
  | unreadable hload' =>
    rw [hload] at hload'
    cases hload'
  | kept hload' hremoved hkeep =>
    obtain rfl := Except.ok.inj (hload.symm.trans hload')
    exact herase hremoved
  | unwritten hload' hremoved hmade =>
    obtain rfl := Except.ok.inj (hload.symm.trans hload')
    exact (herase hremoved).trans
      (hmade.mono (fun _ => id) (fun _ => False.elim) fun _ => False.elim)
  | written hload' hremoved hrewrite hmade hfree hopen =>
    obtain rfl := Except.ok.inj (hload.symm.trans hload')
    exact ((herase hremoved).trans
      (hmade.mono (fun _ => id) (fun _ => False.elim) fun _ => False.elim)).write rfl hfree

/-- A file that is gone was recorded and stale. -/
theorem stale_of_gone (h : Reconciled file current d result d') {l : Location}
    (hthere : d.isFileAt l = true) (hgone : d'.isFileAt l = false) :
    ∃ previous, load file d = .ok previous ∧ l ∈ (previous.stale current).map d.resolve := by
  cases hload : load file d with
  | error e =>
    cases h with
    | unreadable hload' =>
      rw [hgone] at hthere
      cases hthere
    | kept hload' hremoved hkeep => cases hload.symm.trans hload'
    | unwritten hload' hremoved hmade => cases hload.symm.trans hload'
    | written hload' hremoved hrewrite hmade hfree hopen => cases hload.symm.trans hload'
  | ok previous =>
    refine ⟨previous, rfl, ?_⟩
    by_contra hnone
    have hstays := (h.changes hload).isFileAt hnone hthere
    rw [hgone] at hstays
    cases hstays

/-- If all goes well, stale files are removed first, and then at most the record is written. -/
theorem of_ok {removed : List Path} (h : Reconciled file current d (.ok removed) d') :
    ∃ previous d₁, load file d = .ok previous ∧ Removed (previous.stale current) d removed d₁ ∧
      Changes (.writing (d.way file) (d.resolve file)) d₁ d' := by
  cases h with
  | kept hload hremoved hkeep => exact ⟨_, _, hload, hremoved, .none⟩
  | @written previous removed d₁ d₂ hload hremoved hrewrite hmade hfree hopen =>
    have hway : Changes (.writing (d.way file) (d.resolve file)) d₁ d₂ :=
      hmade.mono (fun _ => id) (fun _ => False.elim) (fun _ => id)
    exact ⟨previous, d₁, hload, hremoved, hway.write rfl hfree⟩

theorem changes_of_ok {removed : List Path} (h : Reconciled file current d (.ok removed) d') :
    Changes ⟨(· ∈ d.way file), (· = d.resolve file), (· ∈ removed.map d.resolve)⟩ d d' := by
  obtain ⟨previous, d₁, -, hremoved, hrecord⟩ := h.of_ok
  have herase : Changes ⟨(· ∈ d.way file), (· = d.resolve file), (· ∈ removed.map d.resolve)⟩ d d₁ :=
    hremoved.changes.mono (fun _ => False.elim) (fun _ => False.elim) fun _ => id
  exact herase.trans (hrecord.mono (fun _ => id) (fun _ => id) fun _ => False.elim)

/-- Unless the record lists its own file, it stays as it was or holds the current paths. -/
theorem contentAt?_file (h : Reconciled file current d result d')
    (hspare : ∀ previous, load file d = .ok previous →
      ∀ p ∈ previous.paths, d.resolve p ≠ d.resolve file) :
    d'.contentAt? (d.resolve file) = d.contentAt? (d.resolve file) ∨
      (∃ removed, result = .ok removed) ∧
        d'.contentAt? (d.resolve file) = some current.text.toUTF8 := by
  cases h with
  | unreadable hload => exact Or.inl rfl
  | kept hload hremoved hkeep => exact Or.inl (hremoved.contentAt?_eq (hspare _ hload))
  | unwritten hload hremoved hmade =>
    exact Or.inl ((hmade.contentAt?_eq id id).trans (hremoved.contentAt?_eq (hspare _ hload)))
  | written hload hremoved hrewrite hmade hfree hopen =>
    exact Or.inr ⟨⟨_, rfl⟩, by simp⟩

end Reconciled

/-! ### Nothing to do -/

/-- The file of the record is there and holds the current paths, in whatever spelling. This is when
    it does not get written. -/
structure IsCurrent (file : Path) (current : GenerationRecord) (d : Disk) : Prop where
  isFile : d.isFile file = true
  same : ∃ previous, load file d = .ok previous ∧ previous.same current = true

theorem components_of_same {previous current : GenerationRecord}
    (h : previous.same current = true) :
    previous.paths.map Path.components = current.paths.map Path.components := by
  simpa [same] using h

theorem stale_eq_nil {previous current : GenerationRecord} (h : previous.same current = true) :
    previous.stale current = [] := by
  have hsame := components_of_same h
  refine List.filter_eq_nil_iff.2 fun p hp => ?_
  rw [Bool.not_eq_true', Bool.not_eq_false, contains, ← hsame, List.contains_iff_mem]
  exact List.mem_map_of_mem hp

/-- Cleaning up leaves the record as it is and removes nothing, or writes the current paths. -/
theorem Reconciled.kept_or_written {file : Path} {current : GenerationRecord} {d d' : Disk}
    {removed : List Path} (h : Reconciled file current d (.ok removed) d') :
    (removed = [] ∧ d'.contentAt? (d.resolve file) = d.contentAt? (d.resolve file)) ∨
      d'.contentAt? (d.resolve file) = some current.text.toUTF8 := by
  cases h with
  | kept hload hremoved hkeep =>
    obtain ⟨hsame, -⟩ := Bool.and_eq_true_iff.1 hkeep
    have hsublist := hremoved.sublist
    rw [stale_eq_nil hsame] at hsublist
    obtain rfl := List.sublist_nil.1 hsublist
    exact Or.inl ⟨rfl, hremoved.changes.contentAt?_eq id List.not_mem_nil⟩
  | written hload hremoved hrewrite hmade hfree hopen => exact Or.inr (by simp)

/-- If the record is current, cleaning up changes nothing at all. -/
theorem run_reconcile_of_isCurrent {file : Path} {current : GenerationRecord} {d : Disk}
    (h : IsCurrent file current d) : (reconcile file current).run.run d = (.ok [], d) := by
  obtain ⟨hfile, previous, hload, hsame⟩ := h
  unfold reconcile
  rw [Action.run_bind, run_look, hload]
  dsimp only
  rw [stale_eq_nil hsame, removeFiles, Action.run_bind, Action.run_pure]
  dsimp only
  rw [Action.run_bind, Action.run_get]
  dsimp only
  rw [hsame, hfile]
  rfl

theorem load_congr {file : Path} {d d' : Disk} (hfile : d.isFile file = true)
    (hfile' : d'.isFile file = true) (hcurrent : d'.current = d.current)
    (hcontent : d'.contentAt? (d.resolve file) = d.contentAt? (d.resolve file))
    {r : GenerationRecord} (hload : load file d = .ok r) : load file d' = .ok r := by
  rcases load_eq_ok hload with ⟨hnone, -⟩ | ⟨text, -, htext, rfl⟩
  · rw [hfile] at hnone
    cases hnone
  · refine load_of_isFile hfile' ?_
    rw [resolve_congr hcurrent, hcontent, htext]

/-- Changes elsewhere leave the record current. -/
theorem IsCurrent.changes {file : Path} {current : GenerationRecord} {s : Scope} {d d' : Disk}
    (h : IsCurrent file current d) (hs : Changes s d d') (hwrites : ¬s.writes (d.resolve file))
    (herases : ¬s.erases (d.resolve file)) : IsCurrent file current d' := by
  obtain ⟨hfile, previous, hload, hsame⟩ := h
  have hfile' := hs.isFile herases hfile
  exact ⟨hfile', previous,
    load_congr hfile hfile' hs.current_eq (hs.contentAt?_eq hwrites herases) hload, hsame⟩

/-- After cleaning up the record is current, if it is one of lines and did not list itself. -/
theorem Reconciled.isCurrent {file : Path} {current : GenerationRecord} {d d' : Disk}
    {removed : List Path} (h : Reconciled file current d (.ok removed) d')
    (hlines : ∀ p ∈ current.paths, p.IsLine)
    (hspare : ∀ previous, load file d = .ok previous →
      ∀ p ∈ previous.paths, d.resolve p ≠ d.resolve file) : IsCurrent file current d' := by
  cases h with
  | @kept previous removed d' hload hremoved hkeep =>
    obtain ⟨hsame, hfile'⟩ := Bool.and_eq_true_iff.1 hkeep
    have hchanges := hremoved.changes
    have hkept := hremoved.contentAt?_eq (hspare previous hload)
    have hfile : d.isFile file = true := by
      have hthere := isFile_eq_true.1 hfile'
      rw [hchanges.locate_eq (fun _ => id), hchanges.resolve_eq, isFileAt_eq_true, hkept,
        ← isFileAt_eq_true] at hthere
      exact isFile_eq_true.2 hthere
    exact ⟨hfile', previous, load_congr hfile hfile' hchanges.current_eq hkept hload, hsame⟩
  | @written previous removed d₁ d₂ hload hremoved hrewrite hmade hfree hopen =>
    have hresolve : (d₂.putAt (d.resolve file) current.text.toUTF8).resolve file =
        d.resolve file := by
      rw [resolve_congr (current_putAt _ _ _), hmade.resolve_eq, hremoved.changes.resolve_eq]
    have hfile : (d₂.putAt (d.resolve file) current.text.toUTF8).isFile file = true := by
      refine isFile_eq_true.2 ⟨?_, ?_⟩
      · rw [hresolve]
        exact locate_mono (current_putAt _ _ _) (fun _ => id) hopen
      · rw [hresolve]
        simp [isFileAt]
    have htext : (d₂.putAt (d.resolve file) current.text.toUTF8).contentAt?
        ((d₂.putAt (d.resolve file) current.text.toUTF8).resolve file) =
          some current.text.toUTF8 := by
      rw [hresolve, contentAt?_putAt, if_pos rfl]
    refine ⟨hfile, current, ?_, by simp [same]⟩
    rw [load_of_isFile hfile htext, ofText_text_of_isLine hlines]

end GenerationRecord

end CodeStencil
