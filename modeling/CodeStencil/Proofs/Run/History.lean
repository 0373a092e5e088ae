/-
  CodeStencil/Proofs/Run/History.lean
  ===================================
  **Many runs, one record** — along any sequence of runs that share the location of their record,
  with anything else happening between them, the record holds what one of these runs produced
  (`History.backed`). As long as it can be read back, all that is ever removed was emitted by an
  earlier run (`removed_were_emitted`).

  A record cannot be read back if one of its paths is no line; and nothing is known of a record that
  a run has overwritten with a planned file.
-/
import CodeStencil.Proofs.Run.Phases

namespace CodeStencil

open Disk

/-- A run with the disk that it starts from. -/
structure Turn where
  args : Arguments
  before : Disk

namespace Turn

/-- The files that a run reports as written or as there already. -/
def emitted (t : Turn) : List Path :=
  match (run t.args t.before).result with
  | .ok report => report.generated ++ report.unchanged
  | .error _ => []

/-- The run has its record at a location. -/
def RecordsAt (record : Location) (t : Turn) : Prop :=
  ∀ s, Run.site t.args t.before = .ok s → t.before.resolve (Run.recordFile s t.args) = record

/-- A run that writes does not write to the location of the record. -/
def Spares (record : Location) (t : Turn) : Prop :=
  t.args.dryRun = false → ∀ op ∈ Run.planned t.args t.before, t.before.resolve op.target ≠ record

/-- What a run that writes records are lines. -/
def Readable (t : Turn) : Prop :=
  t.args.dryRun = false → ∀ p ∈ (Run.produced t.args t.before).paths, p.IsLine

end Turn

/-- The runs so far that have their record at a location, and the disk that they led to. There is no
    record at first, and only runs change it. -/
inductive History (record : Location) : List Turn → Disk → Prop
  | start {d} (hnone : d.contentAt? record = none) : History record [] d
  | edit {turns d d'} (before : History record turns d)
      (hsame : d'.contentAt? record = d.contentAt? record) : History record turns d'
  | turn {turns args d} (before : History record turns d)
      (hrecord : Turn.RecordsAt record ⟨args, d⟩) :
      History record (turns ++ [⟨args, d⟩]) (run args d).disk

namespace Run

/-! ### What a record holds -/

/-- The content is the record of one of these runs, which emitted all of it. -/
def Backed (turns : List Turn) (content : Option ByteArray) : Prop :=
  content = none ∨ ∃ t ∈ turns, t.args.dryRun = false ∧
    content = some (produced t.args t.before).text.toUTF8 ∧
    ∀ op ∈ planned t.args t.before, op.target ∈ t.emitted

theorem Backed.append {turns more : List Turn} {content : Option ByteArray}
    (h : Backed turns content) : Backed (turns ++ more) content := by
  rcases h with hnone | ⟨t, ht, hrest⟩
  · exact Or.inl hnone
  · exact Or.inr ⟨t, List.mem_append_left _ ht, hrest⟩

/-- The paths of a backed record were emitted by an earlier run, and none of them is the record. -/
theorem emitted_of_backed {record : Location} {turns : List Turn} {text : String}
    (hbacked : Backed turns (some text.toUTF8)) (hspares : ∀ t ∈ turns, t.Spares record)
    (hreadable : ∀ t ∈ turns, t.Readable) {p : Path}
    (hp : p ∈ (GenerationRecord.ofText text).paths) :
    (∃ t ∈ turns, p ∈ t.emitted) ∧ ∀ d : Disk, d.resolve p ≠ record := by
  rcases hbacked with hnone | ⟨t, ht, hdry, hcontent, hemitted⟩
  · cases hnone
  · obtain rfl : text = (produced t.args t.before).text :=
      String.toByteArray_inj.1 (Option.some.inj hcontent)
    rw [GenerationRecord.ofText_text_of_isLine (hreadable t ht hdry)] at hp
    obtain ⟨op, hop, rfl⟩ := mem_produced hp
    refine ⟨⟨t, ht, hemitted op hop⟩, fun d => ?_⟩
    rw [resolve_of_isAbsolute (isAbsolute_of_mem_planned hop) t.before d]
    exact hspares t ht hdry op hop

/-- What is read from a backed record was emitted by an earlier run, and is not the record. -/
theorem emitted_of_load {record : Location} {turns : List Turn} {file : Path} {d : Disk}
    {previous : GenerationRecord} (hbacked : Backed turns (d.contentAt? record))
    (hspares : ∀ t ∈ turns, t.Spares record) (hreadable : ∀ t ∈ turns, t.Readable)
    (hfile : d.resolve file = record) (hload : GenerationRecord.load file d = .ok previous)
    {p : Path} (hp : p ∈ previous.paths) : (∃ t ∈ turns, p ∈ t.emitted) ∧ d.resolve p ≠ record := by
  rcases GenerationRecord.load_eq_ok hload with ⟨-, rfl⟩ | ⟨text, -, htext, rfl⟩
  · cases hp
  · rw [hfile] at htext
    rw [htext] at hbacked
    obtain ⟨hemitted, hother⟩ := emitted_of_backed hbacked hspares hreadable hp
    exact ⟨hemitted, hother d⟩

/-- The record of a turn stays where it is while files are written. -/
theorem resolve_recordFile {record : Location} {args : Arguments} {d : Disk} {s : Site}
    (h : Turn.RecordsAt record ⟨args, d⟩) (hsite : site args d = .ok s) :
    (emission args d).resolve (recordFile s args) = record := by
  rw [(changes_emission args d).resolve_eq]
  exact h s hsite

/-- A turn that spares the record writes its files without touching it. -/
theorem contentAt?_emission {record : Location} {args : Arguments} {d : Disk}
    (h : Turn.Spares record ⟨args, d⟩) (hdry : args.dryRun = false) :
    (emission args d).contentAt? record = d.contentAt? record := by
  refine (changes_emission args d).contentAt?_eq ?_ id
  rintro ⟨op, hop, heq⟩
  exact h hdry op hop heq.symm

theorem emitted_of_ending {args : Arguments} {disk d' : Disk} {validated : List String}
    {outcomes : List (Path × Outcome)} {removed : List Path}
    (hresult : (run args disk).result = .ok
      ⟨validated, targetsWith .written outcomes, targetsWith .unchanged outcomes, removed⟩)
    (hemitted : EmittedAll (planned args disk) disk outcomes d') :
    ∀ op ∈ planned args disk, op.target ∈ Turn.emitted ⟨args, disk⟩ := by
  intro op hop
  simp only [Turn.emitted, hresult]
  exact hemitted.mem_targetsWith hop

/-- A run leaves a backed record backed. -/
theorem backed_run {record : Location} {turns : List Turn} {args : Arguments} {d : Disk}
    (hbacked : Backed turns (d.contentAt? record)) (hspares : ∀ t ∈ turns, t.Spares record)
    (hreadable : ∀ t ∈ turns, t.Readable) (hrecord : Turn.RecordsAt record ⟨args, d⟩)
    (hspare : Turn.Spares record ⟨args, d⟩) :
    Backed (turns ++ [⟨args, d⟩]) ((run args d).disk.contentAt? record) := by
  have hend := ending args d
  generalize hd' : (run args d).disk = d' at hend ⊢
  generalize hresult : (run args d).result = result at hend
  cases hend with
  | idle hidle hreport => exact hbacked.append
  | broken hdry =>
    rw [contentAt?_emission hspare hdry]
    exact hbacked.append
  | @cleaned s validated outcomes result d' hsite hplan hdry hemitted hreconciled =>
    have hfile := resolve_recordFile hrecord hsite
    rw [← contentAt?_emission hspare hdry] at hbacked
    have hspared : ∀ previous,
        GenerationRecord.load (recordFile s args) (emission args d) = .ok previous →
        ∀ p ∈ previous.paths,
          (emission args d).resolve p ≠ (emission args d).resolve (recordFile s args) := by
      intro previous hload p hp
      rw [hfile]
      exact (emitted_of_load hbacked hspares hreadable hfile hload hp).2
    rcases hreconciled.contentAt?_file hspared with hsame | ⟨⟨removed, rfl⟩, hcontent⟩
    · rw [hfile] at hsame
      rw [hsame]
      exact hbacked.append
    · rw [hfile] at hcontent
      exact Or.inr ⟨⟨args, d⟩, List.mem_append_right _ List.mem_cons_self, hdry, hcontent,
        emitted_of_ending hresult hemitted⟩

/-- Along a history, the record is always that of one of its runs. -/
theorem backed_of_history {record : Location} {turns : List Turn} {d : Disk}
    (h : History record turns d) (hspares : ∀ t ∈ turns, t.Spares record)
    (hreadable : ∀ t ∈ turns, t.Readable) : Backed turns (d.contentAt? record) := by
  induction h with
  | start hnone => exact Or.inl hnone
  | edit before hsame ih =>
    rw [hsame]
    exact ih hspares hreadable
  | turn before hrecord ih =>
    have hspares' := fun t ht => hspares t (List.mem_append_left _ ht)
    have hreadable' := fun t ht => hreadable t (List.mem_append_left _ ht)
    exact backed_run (ih hspares' hreadable') hspares' hreadable' hrecord
      (hspares _ (List.mem_append_right _ List.mem_cons_self))

/-! ### What gets removed -/

/-- A record is read back as it was written exactly if all of its paths are lines. If that holds
    along a history, and no planned file takes the place of the record, then the next run removes
    only what an earlier one emitted. -/
theorem removed_were_emitted {record : Location} {turns : List Turn} {d : Disk} {args : Arguments}
    (hhistory : History record turns d) (hspares : ∀ t ∈ turns, t.Spares record)
    (hrecord : Turn.RecordsAt record ⟨args, d⟩) (hspare : Turn.Spares record ⟨args, d⟩) :
    (∀ r : GenerationRecord,
      (GenerationRecord.ofText r.text).paths = r.paths ↔ ∀ p ∈ r.paths, p.IsLine) ∧
    ((∀ t ∈ turns, t.Readable) →
      (∀ report, (run args d).result = .ok report →
        ∀ p ∈ report.removed, ∃ t ∈ turns, p ∈ t.emitted) ∧
      ∀ l, (emission args d).isFileAt l = true → (run args d).disk.isFileAt l = false →
        ∃ t ∈ turns, ∃ p ∈ t.emitted, d.resolve p = l) := by
  refine ⟨GenerationRecord.ofText_text_iff, ?_⟩
  intro hreadable
  have hbacked := backed_of_history hhistory hspares hreadable
  have hend := ending args d
  generalize (run args d).disk = d' at hend ⊢
  generalize (run args d).result = result at hend ⊢
  cases hend with
  | idle hidle hreport =>
    constructor
    · intro report hresult p hp
      rw [(hreport report hresult).2.2] at hp
      cases hp
    · intro l hfile hgone
      rw [emission_eq hidle, hgone] at hfile
      cases hfile
  | broken hdry =>
    constructor
    · intro report hresult
      cases hresult
    · intro l hfile hgone
      rw [hgone] at hfile
      cases hfile
  | @cleaned s validated outcomes result d' hsite hplan hdry hemitted hreconciled =>
    have hfile := resolve_recordFile hrecord hsite
    rw [← contentAt?_emission hspare hdry] at hbacked
    constructor
    · intro report hresult p hp
      obtain ⟨removed, rfl, rfl⟩ := map_eq_ok.1 hresult
      obtain ⟨previous, d₁, hload, hremoved, -⟩ := hreconciled.of_ok
      have hstale := hremoved.sublist.subset hp
      exact (emitted_of_load hbacked hspares hreadable hfile hload (List.mem_filter.1 hstale).1).1
    · intro l hthere hgone
      obtain ⟨previous, hload, hstale⟩ := hreconciled.stale_of_gone hthere hgone
      obtain ⟨p, hp, rfl⟩ := List.mem_map.1 hstale
      obtain ⟨⟨t, ht, hmem⟩, -⟩ :=
        emitted_of_load hbacked hspares hreadable hfile hload (List.mem_filter.1 hp).1
      exact ⟨t, ht, p, hmem, ((changes_emission args d).resolve_eq p).symm⟩

namespace Sample

/-- The sample after its run, and after its generator has been taken out of the registry. -/
def later : Disk where
  files := [
    (["r", "generators.json"],
      "\x7b\"generators\":\x7b\x7d,\"groups\":\x7b\"none\":[]\x7d\x7d".toUTF8),
    (["r", "caches", "previously_generated_files.txt"], "/r/out/HealthComponent.h\n".toUTF8),
    (["r", "out", "HealthComponent.h"], "health\n".toUTF8)]
  folders := [["r"], ["r", "caches"], ["r", "out"]]
  current := ["r"]

/-- A run of no generator at all. -/
def laterArgs : Arguments :=
  { Arguments.none with group := some "none", caches := some ⟨"caches"⟩ }

/-- Where both runs have their record. -/
def record : Location := ["r", "caches", "previously_generated_files.txt"]

/-- The record and the generated file are as the run has left them. -/
theorem contentAt?_later {l : Location} (hl : l ∈ [record, ["r", "out", "HealthComponent.h"]]) :
    later.contentAt? l = (run (args "caches") disk).disk.contentAt? l := by
  obtain ⟨-, -, hdisk⟩ := run_disk "caches"
  have hcontent : ∀ l ∈ [record, ["r", "out", "HealthComponent.h"]],
      (later.contentAt? l).map (·.data) = ((execute ⟨⟨"/r"⟩, ⟨∅, ∅⟩, ⟨""⟩⟩ (args "caches") []
        operations disk).disk.contentAt? l).map (·.data) := by
    decide +kernel
  rw [hdisk]
  exact Option.map_injective (fun _ _ => ByteArray.ext) (hcontent l hl)

end Sample

theorem recordsAt_of_caches {record : Location} {args : Arguments} {disk : Disk} {folder : Path}
    (hcaches : args.caches = some folder)
    (hfile : disk.resolve (GenerationRecord.pathIn ((workingFolder args disk).join folder)) =
      record) : Turn.RecordsAt record ⟨args, disk⟩ := by
  intro s hsite
  unfold recordFile cachesFolder
  rw [hcaches, working_of_site hsite]
  exact hfile

/-- What the run of no generator removes from the sample is what the first run emitted. -/
theorem later_removed_was_emitted :
    History Sample.record [⟨Sample.args "caches", Sample.disk⟩] Sample.later ∧
      ∃ report, (run Sample.laterArgs Sample.later).result = .ok report ∧
        report.removed = [⟨"/r/out/HealthComponent.h"⟩] ∧
        ⟨"/r/out/HealthComponent.h"⟩ ∈ Turn.emitted ⟨Sample.args "caches", Sample.disk⟩ := by
  obtain ⟨hplanned, -⟩ := Sample.run_disk "caches"
  have hhistory : History Sample.record [⟨Sample.args "caches", Sample.disk⟩] Sample.later := by
    have hstart : History Sample.record [] Sample.disk := .start (by decide +kernel)
    refine (hstart.turn (recordsAt_of_caches rfl (by decide +kernel))).edit ?_
    exact Sample.contentAt?_later List.mem_cons_self
  have hspares : ∀ t ∈ [(⟨Sample.args "caches", Sample.disk⟩ : Turn)],
      t.Spares Sample.record := by
    intro t ht hdry op hop
    obtain rfl := List.mem_singleton.1 ht
    rw [hplanned] at hop
    revert op
    decide +kernel
  have hreadable : ∀ t ∈ [(⟨Sample.args "caches", Sample.disk⟩ : Turn)], t.Readable := by
    intro t ht hdry p hp
    obtain rfl := List.mem_singleton.1 ht
    obtain ⟨op, hop, rfl⟩ := mem_produced hp
    rw [hplanned] at hop
    have hline : ∀ op ∈ Sample.operations, op.target.IsLine := by decide +kernel
    exact hline op hop
  have hspare : Turn.Spares Sample.record ⟨Sample.laterArgs, Sample.later⟩ := by
    have hnil : planned Sample.laterArgs Sample.later = [] := by decide +kernel
    intro hdry op hop
    rw [hnil] at hop
    cases hop
  have hreport : (run Sample.laterArgs Sample.later).result.toOption =
      some ⟨[], [], [], [⟨"/r/out/HealthComponent.h"⟩]⟩ := by
    decide +kernel
  have hresult := Sample.eq_ok_of_toOption hreport
  refine ⟨hhistory, _, hresult, rfl, ?_⟩
  obtain ⟨-, hremoved⟩ := removed_were_emitted hhistory hspares
    (recordsAt_of_caches rfl (by decide +kernel)) hspare
  obtain ⟨t, ht, hemitted⟩ := (hremoved hreadable).1 _ hresult _ List.mem_cons_self
  rw [List.mem_singleton.1 ht] at hemitted
  exact hemitted

end Run

end CodeStencil
