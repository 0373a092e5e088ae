/-
  CodeStencil/Proofs/Run/Accounting.lean
  ======================================
  **Runs account for themselves** — if a run succeeds then its report, its lines, its record and
  what it has done to the disk all tell the same (`accounted_of_ok`). What is removed is what is
  stale in the record that the run finds. This is the record from before the run, unless a target is put in
  its place or its path does not lead there. In the end the record lists the targets, unless one of
  them is no line.
-/
import CodeStencil.Proofs.Record.Listing
import CodeStencil.Proofs.Run.Aliases
import CodeStencil.Proofs.Run.Preview

namespace CodeStencil

open Disk

namespace Run

variable {args : Arguments} {disk : Disk} {s : Site} {report : Report} {validated ids : List String}
  {ops : List Operation} {announce : String → String}

/-! ### Lines -/

/-- The line about a file that has been written. -/
def generatedLine (p : Path) : String := "Generated file: " ++ p.text

def removedLine (p : Path) : String := "Removed file: " ++ p.text

/-- The lines before a run writes. -/
def planLines (validated ids : List String) : List String :=
  validated.map ("Validating generator: " ++ ·) ++ ids.map ("Running generator: " ++ ·)

/-- If all generators can be planned then all of them are announced. -/
theorem planAll_eq_ok {opss : List (List Operation)}
    (h : (planAll s disk announce ids).result = .ok opss) :
    ids.mapM (planOf s disk) = .ok opss ∧
      (planAll s disk announce ids).lines = ids.map announce := by
  induction ids generalizing opss with
  | nil =>
    rw [← Except.ok.inj h]
    exact ⟨rfl, rfl⟩
  | cons id rest ih =>
    rw [planAll] at h ⊢
    rw [List.mapM_cons]
    cases hid : planOf s disk id with
    | error e =>
      rw [hid] at h
      cases h
    | ok ops =>
      rw [hid] at h
      obtain ⟨more, hmore, rfl⟩ := map_eq_ok.1 h
      obtain ⟨hplans, hlines⟩ := ih hmore
      exact ⟨bind_eq_ok.2 ⟨ops, rfl, bind_eq_ok.2 ⟨more, hplans, rfl⟩⟩,
        congrArg (announce id :: ·) hlines⟩

theorem lines_planSelected {selection : Selection}
    (h : (planSelected s disk announce selection).result = .ok (ids, ops)) :
    (planSelected s disk announce selection).lines = ids.map announce := by
  obtain ⟨hids, opss, hopss, -⟩ := planSelected_eq_ok h
  unfold planSelected
  rw [hids]
  exact (planAll_eq_ok hopss).2

theorem validation_eq_ok (h : (validation s args disk).result = .ok validated) :
    validated = (if args.validateAll then s.registry.generators.keys else []) ∧
      (validation s args disk).lines = validated.map ("Validating generator: " ++ ·) := by
  unfold validation at h ⊢
  split at h
  · next hvalidate =>
    obtain ⟨⟨ids, ops⟩, hplans, rfl⟩ := map_eq_ok.1 h
    obtain ⟨hids, -⟩ := planSelected_eq_ok hplans
    rw [if_pos hvalidate, if_pos hvalidate]
    exact ⟨(Except.ok.inj hids).symm, lines_planSelected hplans⟩
  · next hvalidate =>
    rw [if_neg hvalidate, if_neg hvalidate, ← Except.ok.inj h]
    exact ⟨rfl, rfl⟩

theorem lines_prepare {ops : Option (List Operation)}
    (h : (prepare s args disk).result = .ok ⟨validated, ops⟩) :
    (prepare s args disk).lines =
      validated.map ("Validating generator: " ++ ·) ++ (selected s args disk).lines := by
  obtain ⟨hvalidated, -⟩ := prepare_eq_ok h
  unfold prepare
  dsimp only
  rw [hvalidated]
  exact congrArg (· ++ _) (validation_eq_ok hvalidated).2

theorem selected_eq_none (h : (selected s args disk).result = .ok none) :
    args.selection? = none ∧ (selected s args disk).lines = [] := by
  unfold selected at h ⊢
  cases hselection : args.selection? with
  | none => exact ⟨rfl, rfl⟩
  | some selection =>
    rw [hselection] at h
    obtain ⟨p, -, hp⟩ := map_eq_ok.1 h
    cases hp

theorem targetsWith_cons (outcome : Outcome) (e : Path × Outcome) (more : List (Path × Outcome)) :
    targetsWith outcome (e :: more) =
      if e.2 = outcome then e.1 :: targetsWith outcome more else targetsWith outcome more := by
  unfold targetsWith
  split
  · next h => rw [List.filter_cons_of_pos (by simp [h]), List.map_cons]
  · next h => rw [List.filter_cons_of_neg (by simp [h])]

/-- There is a line for each file that is written, and none for others. -/
theorem lines_emitAll {d : Disk} {outcomes : List (Path × Outcome)}
    (h : (emitAll false ops d).result = .ok outcomes) :
    (emitAll false ops d).lines = (targetsWith .written outcomes).map generatedLine := by
  induction ops generalizing d outcomes with
  | nil =>
    rw [← Except.ok.inj h]
    rfl
  | cons op rest ih =>
    have hstep := op.emitted d
    rw [emitAll] at h ⊢
    cases hrun : (op.emit false).run.run d with
    | mk result d₁ =>
      rw [hrun] at h hstep
      cases result with
      | error e => cases h
      | ok outcome =>
        obtain ⟨more, hmore, rfl⟩ := map_eq_ok.1 h
        dsimp only
        rw [ih hmore, targetsWith_cons]
        cases hstep with
        | unchanged hdone => rfl
        | written hnew hmade hfree hopen hclear => rfl

/-- What a run reports and shows if it gets through writing and cleaning up. -/
theorem execute_eq_ok (hdry : args.dryRun = false)
    (h : (execute s args validated ops disk).result = .ok report) :
    report.validated = validated ∧
      (GenerationRecord.reconcile (recordFile s args)
        (GenerationRecord.ofList (ops.map (·.target)))).run.run (emitAll false ops disk).disk =
          (.ok report.removed, (execute s args validated ops disk).disk) ∧
      (execute s args validated ops disk).lines =
        report.generated.map generatedLine ++ report.removed.map removedLine := by
  have hfile : GenerationRecord.pathIn (cachesFolder s args) = recordFile s args := rfl
  unfold execute at h ⊢
  rw [hdry] at h ⊢
  cases hemit : (emitAll false ops disk).result with
  | error e =>
    simp only [hemit] at h
    cases h
  | ok outcomes =>
    simp only [hemit, hfile, if_neg Bool.false_ne_true] at h ⊢
    cases hrun : (GenerationRecord.reconcile (recordFile s args)
        (GenerationRecord.ofList (ops.map (·.target)))).run.run (emitAll false ops disk).disk with
    | mk result d' =>
      rw [hrun] at h
      cases result with
      | error e => cases h
      | ok removed =>
        rw [← Except.ok.inj h]
        exact ⟨rfl, rfl, congrArg (· ++ _) (lines_emitAll hemit)⟩

/-! ### The record before a run -/

/-- No target takes the place of the record. -/
def Spares (args : Arguments) (disk : Disk) (s : Site) : Prop :=
  ∀ op ∈ planned args disk, disk.resolve op.target ≠ disk.resolve (recordFile s args)

/-- The record is what was recorded before the run: nothing if there was no such file, and what was
    in the file if the path of the record leads there. -/
def RecordedBefore (args : Arguments) (disk : Disk) (s : Site) (previous : GenerationRecord) :
    Prop :=
  (disk.contentAt? (disk.resolve (recordFile s args)) = none → previous = ∅) ∧
    ∀ text : String, disk.contentAt? (disk.resolve (recordFile s args)) = some text.toUTF8 →
      (emission args disk).isFile (recordFile s args) = true →
        previous = GenerationRecord.ofText text

/-- A run that spares its record reads the one from before. -/
theorem recordedBefore_of_load {previous : GenerationRecord}
    (hload : GenerationRecord.load (recordFile s args) (emission args disk) = .ok previous)
    (hspares : Spares args disk s) : RecordedBefore args disk s previous := by
  have hemission := changes_emission args disk
  have hcontent : (emission args disk).contentAt? (disk.resolve (recordFile s args)) =
      disk.contentAt? (disk.resolve (recordFile s args)) := by
    refine hemission.contentAt?_eq ?_ id
    rintro ⟨op, hop, heq⟩
    exact hspares op hop heq.symm
  rcases GenerationRecord.load_eq_ok hload with ⟨hmissed, rfl⟩ | ⟨text, hfound, htext, rfl⟩
  · constructor
    · intro hnone
      rfl
    · intro text htext hfound
      rw [hmissed] at hfound
      cases hfound
  · rw [hemission.resolve_eq, hcontent] at htext
    constructor
    · intro hnone
      rw [hnone] at htext
      cases htext
    · intro text' htext' _
      rw [htext] at htext'
      rw [String.toByteArray_inj.1 (Option.some.inj htext')]

/-! ### The whole run -/

/-- What a run that writes tells agrees with what it has done. Each operation is reported once, and
    each target is recorded once. Of the paths that are recorded no more, those are removed that
    still lead to a file when their turn comes: the first one of those that lead to the same file.
    No file changes but the targets, what is removed, and the record. -/
structure Accounted (args : Arguments) (disk : Disk) (s : Site) (ids : List String)
    (report : Report) : Prop where
  plans : ∃ opss, ids.mapM (planOf s disk) = .ok opss ∧ planned args disk = opss.flatten
  reported : Fulfilled args disk report
  listed : (produced args disk).paths =
    firsts Path.components ((planned args disk).map (·.target))
  recorded : ∃ text : String,
    (run args disk).disk.contentAt? (disk.resolve (recordFile s args)) = some text.toUTF8 ∧
      (text = (produced args disk).text ∨
        report.removed = [] ∧ (GenerationRecord.ofText text).same (produced args disk) = true) ∧
      ((∀ op ∈ planned args disk, op.target.IsLine) →
        (GenerationRecord.ofText text).same (produced args disk) = true)
  removed : ∃ previous,
    GenerationRecord.load (recordFile s args) (emission args disk) = .ok previous ∧
      report.removed = firsts disk.resolve
        ((previous.stale (produced args disk)).filter (emission args disk).isFile) ∧
      (Spares args disk s → RecordedBefore args disk s previous)
  lines : (run args disk).lines =
    if args.quiet then [] else planLines report.validated ids ++
      (report.generated.map generatedLine ++ report.removed.map removedLine)
  frame : ∀ l, (run args disk).disk.contentAt? l ≠ disk.contentAt? l →
    l = disk.resolve (recordFile s args) ∨ l ∈ report.removed.map disk.resolve ∨
      ∃ op ∈ planned args disk, l = disk.resolve op.target

section Completed

variable {outcomes : List (Path × Outcome)} {removed : List Path}

theorem Completed.recorded (h : Completed args disk s validated outcomes removed) :
    ∃ text : String,
      (run args disk).disk.contentAt? (disk.resolve (recordFile s args)) = some text.toUTF8 ∧
        (text = (produced args disk).text ∨
          removed = [] ∧ (GenerationRecord.ofText text).same (produced args disk) = true) ∧
        ((∀ op ∈ planned args disk, op.target.IsLine) →
          (GenerationRecord.ofText text).same (produced args disk) = true) := by
  obtain ⟨text, htext, hcases⟩ := h.reconciled.exists_text
  rw [(changes_emission args disk).resolve_eq] at htext
  refine ⟨text, htext, hcases, ?_⟩
  intro hlines
  rcases hcases with rfl | ⟨-, hsame⟩
  · have hproduced : ∀ p ∈ (produced args disk).paths, p.IsLine := by
      intro p hp
      obtain ⟨op, hop, rfl⟩ := mem_produced hp
      exact hlines op hop
    rw [GenerationRecord.ofText_text_of_isLine hproduced]
    simp [GenerationRecord.same]
  · exact hsame

theorem Completed.frame (h : Completed args disk s validated outcomes removed) {l : Location}
    (hl : (run args disk).disk.contentAt? l ≠ disk.contentAt? l) :
    l = disk.resolve (recordFile s args) ∨ l ∈ removed.map disk.resolve ∨
      ∃ op ∈ planned args disk, l = disk.resolve op.target := by
  by_contra hnone
  rw [not_or, not_or] at hnone
  obtain ⟨hrecord, hkept, hother⟩ := hnone
  apply hl
  rw [h.changes.contentAt?_eq hrecord hkept, (changes_emission args disk).contentAt?_eq hother id]

end Completed

/-- A run that gets as far as writing, and succeeds, accounts for itself. -/
theorem accounted_of_outset (hsite : site args disk = .ok s)
    (hplan : (prepare s args disk).result = .ok ⟨validated, some ops⟩)
    (hresult : (run args disk).result = .ok report) (hdry : args.dryRun = false)
    {selection : Selection} (hselection : args.selection? = some selection) :
    report.validated = validated ∧
      ∃ ids, s.registry.select selection = .ok ids ∧ Accounted args disk s ids report := by
  obtain ⟨hexecuted, hdisk⟩ := run_eq_execute hsite hplan
  rw [hexecuted] at hresult
  obtain ⟨hvalidated, hreconcile, hlines⟩ := execute_eq_ok hdry hresult
  rw [← hexecuted] at hresult
  have hplanned := planned_eq hsite hplan
  rw [← emission_of_planned hdry hplanned] at hreconcile
  obtain ⟨selection', ids, hselection', hselected⟩ := selected_eq_some (prepare_eq_ok hplan).2
  obtain rfl := Option.some.inj (hselection.symm.trans hselection')
  obtain ⟨hids, opss, hopss, hflat⟩ := planSelected_eq_ok hselected
  refine ⟨hvalidated, ids, hids, ?_⟩
  have hwrites : Writes args disk := ⟨s, validated, hsite, hplanned ▸ hplan⟩
  rcases ending_ok hresult hdry with ⟨hnone, -⟩ | ⟨s', validated', outcomes, hrun, hgenerated⟩
  · exact absurd hwrites hnone
  · obtain rfl := Except.ok.inj (hsite.symm.trans hrun.site)
    constructor
    case plans => exact ⟨opss, (planAll_eq_ok hopss).1, hplanned.trans hflat⟩
    case reported => exact fulfilled_of_ok hresult hdry
    case listed => exact GenerationRecord.paths_ofList _
    case recorded => exact hrun.recorded
    case removed =>
      obtain ⟨previous, hload, hremoved⟩ := GenerationRecord.reconcile_eq_ok hreconcile
      have hresolve : (emission args disk).resolve = disk.resolve :=
        funext (changes_emission args disk).resolve_eq
      rw [hresolve, ← hplanned] at hremoved
      exact ⟨previous, hload, hremoved, recordedBefore_of_load hload⟩
    case lines =>
      have hannounced : (selected s args disk).lines = ids.map ("Running generator: " ++ ·) := by
        unfold selected
        rw [hselection]
        exact lines_planSelected hselected
      rw [(run_eq_runAt hsite).2.2, lines_runAt hplan, lines_prepare hplan, hannounced, hvalidated,
        ← hlines]
      rfl
    case frame => exact fun l hl => hrun.frame hl

theorem run_quiet (args : Arguments) (quiet : Bool) (disk : Disk) :
    (run { args with quiet } disk).result = (run args disk).result ∧
      (run { args with quiet } disk).disk = (run args disk).disk ∧
      (quiet = true → (run { args with quiet } disk).lines = []) := by
  have hsame : site { args with quiet } disk = site args disk := rfl
  cases hsite : site args disk with
  | error e =>
    unfold run
    rw [hsame, hsite]
    exact ⟨rfl, rfl, fun _ => rfl⟩
  | ok s =>
    obtain ⟨hresult, hdisk, -⟩ := run_eq_runAt hsite
    obtain ⟨hresult', hdisk', hlines'⟩ := run_eq_runAt (hsame.trans hsite)
    refine ⟨hresult'.trans hresult.symm, hdisk'.trans hdisk.symm, ?_⟩
    rintro rfl
    exact hlines'

/-! ### The sample -/

/-- With the record that names its file by a detour, the run removes what it has written. -/
theorem Sample.result_detours : (run (Sample.args "detours") Sample.disk).result =
    .ok ⟨[], [⟨"/r/out/HealthComponent.h"⟩, ⟨"/r/out/HealthComponent.h"⟩], [],
      [⟨"/r/d/../out/HealthComponent.h"⟩]⟩ := by
  obtain ⟨-, hresult, -⟩ := Sample.run_disk "detours"
  rw [hresult]
  refine Sample.eq_ok_of_toOption ?_
  decide +kernel

theorem Sample.recordFile_detours (hsite : site (Sample.args "detours") Sample.disk = .ok s) :
    recordFile s (Sample.args "detours") = ⟨"/r/detours/previously_generated_files.txt"⟩ := by
  rw [Sample.recordFile_disk hsite]
  decide +kernel

/-- Whatever a run is asked for, if it succeeds then its report, its lines, its record and the disk
    agree. A run without a selection changes nothing, and being quiet only silences a run. -/
theorem accounted_of_ok (hresult : (run args disk).result = .ok report)
    (hdry : args.dryRun = false) :
    (∃ s, site args disk = .ok s ∧
      report.validated = (if args.validateAll then s.registry.generators.keys else []) ∧
      (args.selection? = none →
        report = ⟨report.validated, [], [], []⟩ ∧ (run args disk).disk = disk ∧
          (run args disk).lines = if args.quiet then [] else planLines report.validated []) ∧
      ∀ selection, args.selection? = some selection →
        ∃ ids, s.registry.select selection = .ok ids ∧ Accounted args disk s ids report) ∧
    ∀ quiet, (run { args with quiet } disk).result = .ok report ∧
      (run { args with quiet } disk).disk = (run args disk).disk ∧
      (quiet = true → (run { args with quiet } disk).lines = []) := by
  refine ⟨?_, fun quiet => hresult ▸ run_quiet args quiet disk⟩
  cases houtset : outset args disk with
  | error e =>
    rw [(run_of_outset_error houtset).1] at hresult
    cases hresult
  | ok prepared =>
    obtain ⟨s, hsite, hplan⟩ := outset_eq_ok.1 houtset
    obtain ⟨validated, planned⟩ := prepared
    obtain ⟨hvalidation, hselected⟩ := prepare_eq_ok hplan
    refine ⟨s, hsite, ?_⟩
    cases planned with
    | none =>
      obtain ⟨hnone, hlines⟩ := selected_eq_none hselected
      obtain ⟨hresult', hdisk⟩ := run_of_outset_none houtset
      obtain rfl := Except.ok.inj (hresult.symm.trans hresult')
      refine ⟨(validation_eq_ok hvalidation).1, fun _ => ⟨rfl, hdisk, ?_⟩, ?_⟩
      · rw [(run_eq_runAt hsite).2.2, lines_runAt hplan, lines_prepare hplan, hlines]
        dsimp only
        rw [List.append_nil]
        rfl
      · intro selection hselection
        rw [hnone] at hselection
        cases hselection
    | some ops =>
      obtain ⟨selection, ids, hselection, -⟩ := selected_eq_some hselected
      obtain ⟨hvalidated, haccounted⟩ :=
        accounted_of_outset hsite hplan hresult hdry hselection
      refine ⟨hvalidated.trans (validation_eq_ok hvalidation).1, ?_, ?_⟩
      · intro hnone
        rw [hselection] at hnone
        cases hnone
      · intro selection' hselection'
        rw [← Option.some.inj (hselection.symm.trans hselection')]
        exact haccounted

/-- The run of the sample has its file in the report twice and in the record once. The record from
    before is the one that names the file by a detour. -/
theorem detour_accounted :
    (run (Sample.args "detours") Sample.disk).lines =
        ["Running generator: g", "Generated file: /r/out/HealthComponent.h",
          "Generated file: /r/out/HealthComponent.h",
          "Removed file: /r/d/../out/HealthComponent.h"] ∧
      (produced (Sample.args "detours") Sample.disk).paths = [⟨"/r/out/HealthComponent.h"⟩] ∧
      (∃ s, site (Sample.args "detours") Sample.disk = .ok s ∧
        GenerationRecord.load (recordFile s (Sample.args "detours"))
            (emission (Sample.args "detours") Sample.disk) =
          .ok (GenerationRecord.ofText "/r/d/../out/HealthComponent.h\n")) ∧
      (run { Sample.args "detours" with quiet := true } Sample.disk).lines = [] := by
  obtain ⟨⟨s, hsite, -, -, haccounted⟩, hquiet⟩ := accounted_of_ok Sample.result_detours rfl
  obtain ⟨ids, hids, haccounted⟩ := haccounted (.generator "g") rfl
  obtain ⟨u, -, hids⟩ := bind_eq_ok.1 hids
  obtain rfl := Except.ok.inj hids
  obtain ⟨hplanned, -⟩ := Sample.run_disk "detours"
  have hfile := Sample.recordFile_detours hsite
  refine ⟨?_, ?_, ⟨s, hsite, ?_⟩, (hquiet true).2.2 rfl⟩
  · rw [haccounted.lines]
    decide +kernel
  · rw [haccounted.listed, hplanned]
    decide +kernel
  · obtain ⟨previous, hload, -, hbefore⟩ := haccounted.removed
    have hspares : Spares (Sample.args "detours") Sample.disk s := by
      unfold Spares
      rw [hplanned, hfile]
      decide +kernel
    have hfound : (emission (Sample.args "detours") Sample.disk).isFile
        (recordFile s (Sample.args "detours")) = true := by
      rw [hfile]
      exact (changes_emission _ _).isFile id (by decide +kernel)
    have htext : (Sample.disk.contentAt? (Sample.disk.resolve
        (recordFile s (Sample.args "detours")))).map (·.data) =
          some "/r/d/../out/HealthComponent.h\n".toUTF8.data := by
      rw [hfile]
      decide +kernel
    obtain ⟨bytes, hbytes, hdata⟩ := Option.map_eq_some_iff.1 htext
    rw [hload, (hbefore hspares).2 _ (hbytes.trans (congrArg some (ByteArray.ext hdata))) hfound]

end Run

end CodeStencil
