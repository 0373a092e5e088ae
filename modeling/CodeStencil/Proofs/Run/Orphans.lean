/-
  CodeStencil/Proofs/Run/Orphans.lean
  ===================================
  **Outputs that are no longer produced** — along a series of runs that share the location of their
  record, every output that is still there is in the record (`Tracked`). So a run removes all that
  was emitted once and is not produced any more, as long as it finds the record. The path to the
  record may lead nowhere when the run looks for it, and lead to the record once its folders have
  been made; then the outputs are left behind (`no_orphans_iff`).
-/
import CodeStencil.Proofs.Run.Aliases
import CodeStencil.Proofs.Run.History

namespace CodeStencil

open Disk

namespace Turn

/-- A run that is not dry and succeeds, with its record at a location. Its targets are lines without
    `..`, and none of them is the record. -/
structure Orderly (record : Location) (t : Turn) : Prop where
  recordsAt : t.RecordsAt record
  wet : t.args.dryRun = false
  succeeds : ∃ report, (run t.args t.before).result = .ok report
  spares : t.Spares record
  level : ∀ op ∈ Run.planned t.args t.before, op.target.Level
  lines : ∀ op ∈ Run.planned t.args t.before, op.target.IsLine

/-- The run has a target with the components of a path. -/
def Produces (t : Turn) (p : Path) : Prop :=
  ∃ op ∈ Run.planned t.args t.before, op.target.components = p.components

/-- If there is a record, then its path leads to it once the files are written. -/
def Finds (record : Location) (t : Turn) : Prop :=
  t.before.isFileAt record = true → ∀ s, Run.site t.args t.before = .ok s →
    (Run.emission t.args t.before).isFile (Run.recordFile s t.args) = true

/-- What earlier runs emitted and is still there is produced again. -/
def Repeats (turns : List Turn) (t : Turn) : Prop :=
  ∀ earlier ∈ turns, ∀ p ∈ earlier.emitted, t.before.isFileAt (t.before.resolve p) = true →
    t.Produces p

theorem emitted_of_ok {args : Arguments} {d : Disk} {report : Report}
    (h : (run args d).result = .ok report) :
    emitted ⟨args, d⟩ = report.generated ++ report.unchanged := by
  unfold emitted
  rw [h]

theorem exists_of_mem_emitted {t : Turn} {p : Path} (hp : p ∈ t.emitted) :
    ∃ op ∈ Run.planned t.args t.before, op.target = p := by
  have hend := Run.ending t.args t.before
  unfold emitted at hp
  generalize (run t.args t.before).disk = d' at hend
  generalize (run t.args t.before).result = result at hend hp
  cases hend with
  | idle hidle hreport =>
    cases result with
    | error e => cases hp
    | ok report =>
      obtain ⟨hgenerated, hunchanged, -⟩ := hreport report rfl
      dsimp only at hp
      rw [hgenerated, hunchanged] at hp
      cases hp
  | broken hdry => cases hp
  | @cleaned s validated outcomes result d' hsite hplan hdry hemitted hreconciled =>
    cases result with
    | error e => cases hp
    | ok removed =>
      have hmem : p ∈ outcomes.map Prod.fst := by
        rcases List.mem_append.1 hp with hp | hp
        · exact (List.filter_sublist.map _).subset hp
        · exact (List.filter_sublist.map _).subset hp
      rw [hemitted.targets] at hmem
      exact List.mem_map.1 hmem

section Orderly

variable {record : Location} {t : Turn} (h : t.Orderly record)

include h

theorem Orderly.readable : t.Readable := by
  intro hdry p hp
  obtain ⟨op, hop, rfl⟩ := Run.mem_produced hp
  exact h.lines op hop

theorem Orderly.of_emitted {p : Path} (hp : p ∈ t.emitted) :
    p.isAbsolute = true ∧ p.Level ∧ ∀ d : Disk, d.resolve p ≠ record := by
  obtain ⟨op, hop, rfl⟩ := exists_of_mem_emitted hp
  have habs := Run.isAbsolute_of_mem_planned hop
  refine ⟨habs, h.level op hop, ?_⟩
  intro d
  rw [resolve_of_isAbsolute habs t.before d]
  exact h.spares h.wet op hop

end Orderly

end Turn

/-- Neither the file that a path leads to nor its content differs. -/
def Untouched (p : Path) (d d' : Disk) : Prop :=
  d'.isFile p = d.isFile p ∧ d'.contentAt? (d'.resolve p) = d.contentAt? (d.resolve p)

/-- The orderly runs so far that have their record at a location, and the disk that they led to.
    There is no record at first, only runs change it, and only they change what they emitted. None of
    them has missed the record while there were outputs to remove. -/
inductive Series (record : Location) : List Turn → Disk → Prop
  | start {d} (hnone : d.contentAt? record = none) : Series record [] d
  | edit {turns d d'} (before : Series record turns d)
      (hrecord : d'.contentAt? record = d.contentAt? record)
      (houtputs : ∀ t ∈ turns, ∀ p ∈ t.emitted, Untouched p d d') : Series record turns d'
  | turn {turns args d} (before : Series record turns d) (horderly : Turn.Orderly record ⟨args, d⟩)
      (hcomplete : Run.Writes args d →
        Turn.Finds record ⟨args, d⟩ ∨ Turn.Repeats turns ⟨args, d⟩) :
      Series record (turns ++ [⟨args, d⟩]) (run args d).disk

namespace Series

variable {record : Location} {turns : List Turn} {d : Disk}

theorem orderly (h : Series record turns d) : ∀ t ∈ turns, t.Orderly record := by
  induction h with
  | start hnone => exact fun t ht => absurd ht List.not_mem_nil
  | edit before hrecord houtputs ih => exact ih
  | turn before horderly hcomplete ih =>
    intro t ht
    rcases List.mem_append.1 ht with ht | ht
    · exact ih t ht
    · exact List.mem_singleton.1 ht ▸ horderly

theorem history (h : Series record turns d) : History record turns d := by
  induction h with
  | start hnone => exact .start hnone
  | edit before hrecord houtputs ih => exact ih.edit hrecord
  | turn before horderly hcomplete ih => exact ih.turn horderly.recordsAt

theorem spares (h : Series record turns d) : ∀ t ∈ turns, t.Spares record := by
  intro t ht
  exact (h.orderly t ht).spares

theorem readable (h : Series record turns d) : ∀ t ∈ turns, t.Readable := by
  intro t ht
  exact (h.orderly t ht).readable

theorem backed (h : Series record turns d) : Run.Backed turns (d.contentAt? record) :=
  Run.backed_of_history h.history h.spares h.readable

end Series

namespace Run

/-- Each output that is still there is in the record, and the paths of the record lead to files. -/
structure Tracked (record : Location) (turns : List Turn) (d : Disk) : Prop where
  recorded : ∀ t ∈ turns, ∀ p ∈ t.emitted, d.isFileAt (d.resolve p) = true →
    ∃ text : String, d.contentAt? record = some text.toUTF8 ∧
      (GenerationRecord.ofText text).contains p = true
  reachable : ∀ text : String, d.contentAt? record = some text.toUTF8 →
    ∀ q ∈ (GenerationRecord.ofText text).paths, d.isFile q = true

/-! ### One run -/

section Step

variable {record : Location} {turns : List Turn} {args : Arguments} {d : Disk} {s : Site}
  {validated : List String} {outcomes : List (Path × Outcome)} {removed : List Path}

/-- What the run finds in the record was emitted by an earlier run. -/
theorem emitted_of_previous (hseries : Series record turns d)
    (hturn : Turn.Orderly record ⟨args, d⟩) (hsite : site args d = .ok s)
    {previous : GenerationRecord}
    (hload : GenerationRecord.load (recordFile s args) (emission args d) = .ok previous) {p : Path}
    (hp : p ∈ previous.paths) :
    (∃ t ∈ turns, p ∈ t.emitted) ∧ (emission args d).resolve p ≠ record := by
  have hbacked := hseries.backed
  rw [← contentAt?_emission hturn.spares hturn.wet] at hbacked
  have hfile := resolve_recordFile hturn.recordsAt hsite
  exact emitted_of_load hbacked hseries.spares hseries.readable hfile hload hp

theorem unaliased_of_orderly (hseries : Series record turns d)
    (hturn : Turn.Orderly record ⟨args, d⟩) : Unaliased args d := by
  apply unaliased_of_level _ hturn.level
  intro p hp
  unfold recorded at hp
  split at hp
  · cases hp
  · next s hsite =>
    split at hp
    · next previous hload =>
      obtain ⟨⟨t, ht, hemitted⟩, -⟩ := emitted_of_previous hseries hturn hsite hload hp
      obtain ⟨habs, hlevel, -⟩ := (hseries.orderly t ht).of_emitted hemitted
      exact ⟨habs, hlevel⟩
    · cases hp

theorem isCurrent_of_orderly (hseries : Series record turns d)
    (hturn : Turn.Orderly record ⟨args, d⟩)
    (hrun : Completed args d s validated outcomes removed) :
    GenerationRecord.IsCurrent (recordFile s args) (produced args d) (run args d).disk := by
  apply hrun.reconciled.isCurrent (hturn.readable hturn.wet)
  intro previous hload p hp
  rw [resolve_recordFile hturn.recordsAt hrun.site]
  exact (emitted_of_previous hseries hturn hrun.site hload hp).2

/-- What is not there before the run, and is no target, is not there after it. -/
theorem gone_of_absent (hturn : Turn.Orderly record ⟨args, d⟩)
    (hrun : Completed args d s validated outcomes removed) {p : Path} (habs : p.isAbsolute = true)
    (hlevel : p.Level) (hother : d.resolve p ≠ record) (hnot : ¬Turn.Produces ⟨args, d⟩ p)
    (habsent : d.contentAt? (d.resolve p) = none) :
    (run args d).disk.contentAt? (d.resolve p) = none := by
  have hemission : (emission args d).contentAt? (d.resolve p) = none := by
    apply (changes_emission args d).contentAt?_eq_none _ habsent
    rintro ⟨op, hop, heq⟩
    have htarget := isAbsolute_of_mem_planned hop
    have hsame := (resolve_eq_iff habs hlevel htarget (hturn.level op hop) d).1 heq
    exact hnot ⟨op, hop, hsame.symm⟩
  apply hrun.changes.contentAt?_eq_none _ hemission
  intro hwritten
  exact hother (hwritten.trans (hturn.recordsAt s hrun.site))

/-- A run that finds the record reads it as the runs before have left it. -/
theorem load_of_finds (hturn : Turn.Orderly record ⟨args, d⟩) (hsite : site args d = .ok s)
    (hfinds : Turn.Finds record ⟨args, d⟩) {text : String}
    (htext : d.contentAt? record = some text.toUTF8) :
    GenerationRecord.load (recordFile s args) (emission args d) =
      .ok (GenerationRecord.ofText text) := by
  have hfile := hfinds (isFileAt_eq_true.2 ⟨_, htext⟩) s hsite
  apply GenerationRecord.load_of_isFile hfile
  rw [resolve_recordFile hturn.recordsAt hsite, contentAt?_emission hturn.spares hturn.wet, htext]

/-- So it removes all that is in the record and is no target. -/
theorem gone_of_finds (htracked : Tracked record turns d) (hturn : Turn.Orderly record ⟨args, d⟩)
    (hrun : Completed args d s validated outcomes removed)
    (hfinds : Turn.Finds record ⟨args, d⟩) {text : String}
    (htext : d.contentAt? record = some text.toUTF8) {p : Path}
    (hcontains : (GenerationRecord.ofText text).contains p = true) (hother : d.resolve p ≠ record)
    (hnot : ¬Turn.Produces ⟨args, d⟩ p) : (run args d).disk.contentAt? (d.resolve p) = none := by
  obtain ⟨previous, d₁, hload, hremoved, -⟩ := hrun.reconciled.of_ok
  obtain rfl := Except.ok.inj (hload.symm.trans (load_of_finds hturn hrun.site hfinds htext))
  -- the record has the path in some spelling, and in this one it is a file and stale
  obtain ⟨q, hq, hqp⟩ := List.mem_map.1 (List.contains_iff_mem.1 hcontains)
  have hstale : q ∈ (GenerationRecord.ofText text).stale (produced args d) := by
    refine mem_stale.2 ⟨hq, ?_⟩
    intro op hop heq
    exact hnot ⟨op, hop, heq.trans hqp⟩
  have hfile := (changes_emission args d).isFile id (htracked.reachable text htext q hq)
  obtain ⟨r, hr, hrq⟩ := List.mem_map.1 (hremoved.complete q hstale hfile)
  have hsame : d.resolve r = d.resolve p := by
    rw [← (changes_emission args d).resolve_eq, hrq, (changes_emission args d).resolve_eq]
    exact resolve_eq_of_components hqp d
  have hplace : d.resolve (recordFile s args) = record := hturn.recordsAt s hrun.site
  rw [← hsame] at hother ⊢
  apply hrun.contentAt?_removed hr
  rw [hplace]
  exact hother

/-- A run that finds the record, or has nothing to remove, leaves no orphan. -/
theorem gone_of_complete (hseries : Series record turns d) (htracked : Tracked record turns d)
    (hturn : Turn.Orderly record ⟨args, d⟩) (hrun : Completed args d s validated outcomes removed)
    (hcomplete : Turn.Finds record ⟨args, d⟩ ∨ Turn.Repeats turns ⟨args, d⟩) {t : Turn}
    (ht : t ∈ turns) {p : Path} (hp : p ∈ t.emitted) (hnot : ¬Turn.Produces ⟨args, d⟩ p) :
    (run args d).disk.isFileAt (d.resolve p) = false := by
  obtain ⟨habs, hlevel, hother⟩ := (hseries.orderly t ht).of_emitted hp
  rw [isFileAt_eq_false]
  cases hthere : d.isFileAt (d.resolve p) with
  | false =>
    rw [isFileAt_eq_false] at hthere
    exact gone_of_absent hturn hrun habs hlevel (hother d) hnot hthere
  | true =>
    rcases hcomplete with hfinds | hrepeats
    · obtain ⟨text, htext, hcontains⟩ := htracked.recorded t ht p hp hthere
      exact gone_of_finds htracked hturn hrun hfinds htext hcontains (hother d) hnot
    · exact absurd (hrepeats t ht p hp hthere) hnot

theorem isFileAt_of_not_finds (hrun : Completed args d s validated outcomes removed)
    (hnot : ¬Turn.Finds record ⟨args, d⟩) {l : Location} (hl : d.isFileAt l = true) :
    (run args d).disk.isFileAt l = true := by
  obtain ⟨previous, d₁, hload, hremoved, -⟩ := hrun.reconciled.of_ok
  have hmissed : (emission args d).isFile (recordFile s args) = false := by
    rw [← Bool.not_eq_true]
    intro hfile
    apply hnot
    intro hrecord s' hsite'
    obtain rfl := Except.ok.inj (hrun.site.symm.trans hsite')
    exact hfile
  rw [GenerationRecord.load_of_not_isFile hmissed] at hload
  obtain rfl := Except.ok.inj hload
  obtain rfl := List.sublist_nil.1 hremoved.sublist
  exact hrun.changes.isFileAt List.not_mem_nil ((changes_emission args d).isFileAt id hl)

theorem recorded_of_isCurrent {d' : Disk} (hcurrent : d'.current = d.current)
    (h : GenerationRecord.IsCurrent (recordFile s args) (produced args d) d') :
    ∃ text : String, d'.contentAt? (d.resolve (recordFile s args)) = some text.toUTF8 ∧
      ∀ p, (GenerationRecord.ofText text).contains p = (produced args d).contains p := by
  obtain ⟨hfile, previous, hload, hsame⟩ := h
  rcases GenerationRecord.load_eq_ok hload with ⟨hnone, -⟩ | ⟨text, -, htext, rfl⟩
  · rw [hfile] at hnone
    cases hnone
  · rw [resolve_congr hcurrent] at htext
    refine ⟨text, htext, ?_⟩
    intro p
    unfold GenerationRecord.contains
    rw [GenerationRecord.components_of_same hsame]

/-- After a run that has left no orphan, all outputs are tracked again. -/
theorem Tracked.run (hseries : Series record turns d) (htracked : Tracked record turns d)
    (hturn : Turn.Orderly record ⟨args, d⟩) (hrun : Completed args d s validated outcomes removed)
    (hcomplete : Turn.Finds record ⟨args, d⟩ ∨ Turn.Repeats turns ⟨args, d⟩) :
    Tracked record (turns ++ [⟨args, d⟩]) (run args d).disk := by
  have hresolve : ∀ p, (CodeStencil.run args d).disk.resolve p = d.resolve p :=
    resolve_congr hrun.current_eq
  have hplace := hturn.recordsAt s hrun.site
  obtain ⟨report, hresult⟩ := hturn.succeeds
  constructor
  · intro t ht p hp hthere
    rw [hresolve] at hthere
    have hproduces : Turn.Produces ⟨args, d⟩ p := by
      rcases List.mem_append.1 ht with ht | ht
      · by_contra hnot
        rw [gone_of_complete hseries htracked hturn hrun hcomplete ht hp hnot] at hthere
        cases hthere
      · rw [List.mem_singleton.1 ht] at hp
        obtain ⟨op, hop, rfl⟩ := Turn.exists_of_mem_emitted hp
        exact ⟨op, hop, rfl⟩
    obtain ⟨text, htext, hrecords⟩ := recorded_of_isCurrent hrun.current_eq
      (isCurrent_of_orderly hseries hturn hrun)
    rw [hplace] at htext
    obtain ⟨op, hop, heq⟩ := hproduces
    refine ⟨text, htext, ?_⟩
    rw [hrecords]
    exact GenerationRecord.contains_ofList.2 ⟨op.target, List.mem_map_of_mem hop, heq⟩
  · intro text htext q hq
    have hrecord := hrun.reconciled.kept_or_written
    rw [resolve_recordFile hturn.recordsAt hrun.site, htext] at hrecord
    rcases hrecord with ⟨rfl, hkept⟩ | hwritten
    · -- nothing was removed, and the record is the one from before
      rw [contentAt?_emission hturn.spares hturn.wet] at hkept
      have hfile := htracked.reachable text hkept.symm q hq
      exact hrun.changes.isFile List.not_mem_nil ((changes_emission args d).isFile id hfile)
    · obtain rfl := String.toByteArray_inj.1 (Option.some.inj hwritten)
      rw [GenerationRecord.ofText_text_of_isLine (hturn.readable hturn.wet)] at hq
      obtain ⟨op, hop, rfl⟩ := mem_produced hq
      have havoids := avoids_of_unaliased hresult hturn.wet (unaliased_of_orderly hseries hturn)
      exact isFile_of_avoids hresult hturn.wet havoids op hop

end Step

/-! ### Series of runs -/

section Whole

variable {record : Location} {turns : List Turn} {d : Disk}

/-- Edits that touch neither outputs nor the record keep track of the outputs. -/
theorem Tracked.edit {d' : Disk} (hseries : Series record turns d)
    (h : Tracked record turns d) (hrecord : d'.contentAt? record = d.contentAt? record)
    (houtputs : ∀ t ∈ turns, ∀ p ∈ t.emitted, Untouched p d d') : Tracked record turns d' := by
  constructor
  · intro t ht p hp hthere
    obtain ⟨-, hcontent⟩ := houtputs t ht p hp
    rw [isFileAt_eq_true, hcontent, ← isFileAt_eq_true] at hthere
    rw [hrecord]
    exact h.recorded t ht p hp hthere
  · intro text htext q hq
    rw [hrecord] at htext
    have hbacked := hseries.backed
    rw [htext] at hbacked
    obtain ⟨⟨t, ht, hemitted⟩, -⟩ :=
      emitted_of_backed hbacked hseries.spares hseries.readable hq
    rw [(houtputs t ht q hemitted).1]
    exact h.reachable text htext q hq

theorem tracked_of_series (h : Series record turns d) : Tracked record turns d := by
  induction h with
  | start hnone =>
    constructor
    · exact fun t ht => absurd ht List.not_mem_nil
    · intro text htext
      rw [hnone] at htext
      cases htext
  | edit before hrecord houtputs ih => exact ih.edit before hrecord houtputs
  | @turn turns args d before horderly hcomplete ih =>
    obtain ⟨report, hresult⟩ := horderly.succeeds
    rcases ending_ok hresult horderly.wet with ⟨hnone, -, -, hdisk⟩ | ⟨s, validated, outcomes, hrun, -⟩
    · -- a run that writes nothing emits nothing
      rw [hdisk]
      refine ⟨fun t ht p hp => ?_, ih.reachable⟩
      rcases List.mem_append.1 ht with ht | ht
      · exact ih.recorded t ht p hp
      · rw [List.mem_singleton.1 ht] at hp
        obtain ⟨op, hop, -⟩ := Turn.exists_of_mem_emitted hp
        rw [planned_eq_nil hnone] at hop
        cases hop
    · exact ih.run before horderly hrun (hcomplete ⟨s, validated, hrun.site, hrun.plan⟩)

/-- After a run of a series, the record lists the targets of this run. What an earlier run emitted and
    this one does not produce is gone exactly if the run finds the record, or there is nothing of that
    kind. -/
theorem no_orphans_iff {args : Arguments} (hseries : Series record turns d)
    (horderly : Turn.Orderly record ⟨args, d⟩) (hwrites : Writes args d) :
    (∃ s, site args d = .ok s ∧
      GenerationRecord.IsCurrent (recordFile s args) (produced args d) (run args d).disk) ∧
    ((∀ t ∈ turns, ∀ p ∈ t.emitted, ¬Turn.Produces ⟨args, d⟩ p →
        (run args d).disk.isFileAt (d.resolve p) = false) ↔
      Turn.Finds record ⟨args, d⟩ ∨ Turn.Repeats turns ⟨args, d⟩) := by
  obtain ⟨report, hresult⟩ := horderly.succeeds
  rcases ending_ok hresult horderly.wet with ⟨hnone, -⟩ | ⟨s, validated, outcomes, hrun, -⟩
  · exact absurd hwrites hnone
  · refine ⟨⟨s, hrun.site, isCurrent_of_orderly hseries horderly hrun⟩, ?_, ?_⟩
    · intro hgone
      by_contra hneither
      rw [not_or] at hneither
      obtain ⟨hmissed, hnew⟩ := hneither
      refine hnew fun t ht p hp hthere => ?_
      by_contra hnot
      have hstays := isFileAt_of_not_finds hrun hmissed hthere
      rw [hgone t ht p hp hnot] at hstays
      cases hstays
    · intro hcomplete t ht p hp hnot
      exact gone_of_complete hseries (tracked_of_series hseries) horderly hrun hcomplete ht hp hnot

end Whole

/-! ### The sample -/

namespace Sample

/-- The run of no generator, with a detour by a missing folder on the way to the record. -/
def detourArgs : Arguments := { laterArgs with caches := some ⟨"x/../caches"⟩ }

theorem orderly_disk : Turn.Orderly record ⟨args "caches", disk⟩ := by
  obtain ⟨hplanned, -⟩ := run_disk "caches"
  have htargets : ∀ op ∈ operations,
      disk.resolve op.target ≠ record ∧ op.target.Level ∧ op.target.IsLine := by
    decide +kernel
  rw [← hplanned] at htargets
  exact {
    recordsAt := recordsAt_of_caches rfl (by decide +kernel)
    wet := rfl
    succeeds := ⟨_, result_disk⟩
    spares := fun _ op hop => (htargets op hop).1
    level := fun op hop => (htargets op hop).2.1
    lines := fun op hop => (htargets op hop).2.2 }

theorem resolve_output (d : Disk) :
    d.resolve ⟨"/r/out/HealthComponent.h"⟩ = ["r", "out", "HealthComponent.h"] := by
  rw [resolve_of_isAbsolute (by decide) disk d]
  decide +kernel

theorem mem_emitted_iff {p : Path} :
    p ∈ Turn.emitted ⟨args "caches", disk⟩ ↔ p = ⟨"/r/out/HealthComponent.h"⟩ := by
  rw [Turn.emitted_of_ok result_disk]
  simp

theorem series_later : Series record [⟨args "caches", disk⟩] later := by
  have hstart : Series record [] disk := .start (by decide +kernel)
  have hfinds : Turn.Finds record ⟨args "caches", disk⟩ := by
    intro hthere
    have hnone : disk.isFileAt record = false := by decide +kernel
    rw [hnone] at hthere
    cases hthere
  refine (hstart.turn orderly_disk fun _ => Or.inl hfinds).edit ?_ ?_
  · exact contentAt?_later List.mem_cons_self
  · intro t ht p hp
    rw [List.mem_singleton.1 ht, mem_emitted_iff] at hp
    obtain ⟨hplanned, -, hdisk⟩ := run_disk "caches"
    have hthere : (execute ⟨⟨"/r"⟩, ⟨∅, ∅⟩, ⟨""⟩⟩ (args "caches") [] operations disk).disk.isFile
        ⟨"/r/out/HealthComponent.h"⟩ = later.isFile ⟨"/r/out/HealthComponent.h"⟩ := by
      decide +kernel
    rw [← hdisk] at hthere
    rw [hp]
    refine ⟨hthere.symm, ?_⟩
    rw [resolve_output, resolve_output]
    exact contentAt?_later (List.mem_cons_of_mem _ List.mem_cons_self)

theorem planned_later : planned detourArgs later = [] := by
  decide +kernel

theorem orderly_later : Turn.Orderly record ⟨detourArgs, later⟩ := by
  have hnone : ∀ op, op ∉ planned detourArgs later := by
    rw [planned_later]
    exact fun op => List.not_mem_nil
  have hreport : (run detourArgs later).result.toOption = some ⟨[], [], [], []⟩ := by
    decide +kernel
  exact {
    recordsAt := recordsAt_of_caches rfl (by decide +kernel)
    wet := rfl
    succeeds := ⟨_, eq_ok_of_toOption hreport⟩
    spares := fun _ op hop => absurd hop (hnone op)
    level := fun op hop => absurd hop (hnone op)
    lines := fun op hop => absurd hop (hnone op) }

theorem writes_later : Writes detourArgs later := by
  obtain ⟨report, hresult⟩ := orderly_later.succeeds
  rcases ending_ok hresult rfl with ⟨-, -, -, hdisk⟩ | ⟨s, validated, outcomes, hrun, -⟩
  · -- the record is another one in the end
    have hwritten : ((run detourArgs later).disk.contentAt? record).map (·.data) ≠
        (later.contentAt? record).map (·.data) := by
      decide +kernel
    exact absurd (by rw [hdisk]) hwritten
  · exact ⟨s, validated, hrun.site, hrun.plan⟩

theorem not_finds_later : ¬Turn.Finds record ⟨detourArgs, later⟩ := by
  intro hfinds
  obtain ⟨s, validated, hsite, -⟩ := writes_later
  have hthere : later.isFileAt record = true := by decide +kernel
  have hemission : emission detourArgs later = later := by
    unfold emission
    rw [planned_later]
    rfl
  have hfile : recordFile s detourArgs = ⟨"/r/x/../caches/previously_generated_files.txt"⟩ := by
    have hcaches : cachesFolder s detourArgs = s.working.join ⟨"x/../caches"⟩ := rfl
    unfold recordFile
    rw [hcaches, working_of_site hsite]
    decide +kernel
  have hfound : (emission detourArgs later).isFile (recordFile s detourArgs) = true :=
    hfinds hthere s hsite
  rw [hemission, hfile] at hfound
  have hmissed : later.isFile ⟨"/r/x/../caches/previously_generated_files.txt"⟩ = false := by
    decide +kernel
  rw [hmissed] at hfound
  cases hfound

/-- The run brings the record up to date and leaves behind what the first run has generated. -/
theorem detour_leaves_orphan :
    (∃ s, site detourArgs later = .ok s ∧
      GenerationRecord.IsCurrent (recordFile s detourArgs) ∅ (run detourArgs later).disk) ∧
      (run detourArgs later).disk.isFileAt ["r", "out", "HealthComponent.h"] = true := by
  obtain ⟨hcurrent, hgone⟩ := no_orphans_iff series_later orderly_later writes_later
  have hproduced : produced detourArgs later = ∅ := by
    unfold produced
    rw [planned_later]
    rfl
  rw [hproduced] at hcurrent
  refine ⟨hcurrent, ?_⟩
  by_contra horphan
  have hcomplete := hgone.1 fun t ht p hp hnot => by
    rw [List.mem_singleton.1 ht, mem_emitted_iff] at hp
    rw [hp, resolve_output]
    simpa using horphan
  rcases hcomplete with hfinds | hrepeats
  · exact not_finds_later hfinds
  · have hthere : later.isFileAt ["r", "out", "HealthComponent.h"] = true := by decide +kernel
    obtain ⟨op, hop, -⟩ := hrepeats _ List.mem_cons_self ⟨"/r/out/HealthComponent.h"⟩
      (mem_emitted_iff.2 rfl) (by rw [resolve_output]; exact hthere)
    have hnone : op ∉ planned detourArgs later := by
      rw [planned_later]
      exact List.not_mem_nil
    exact hnone hop

end Sample

end Run

end CodeStencil
