/-
  CodeStencil/Proofs/Run/Phases.lean
  ==================================
  **The phases of a run** — a run ends while it plans, while it emits, or while it cleans up
  (`ending`). What a whole run does is proved from what emission and cleaning up do, one case for
  each way to end.
-/
import CodeStencil.Proofs.Planning.Targets
import CodeStencil.Proofs.Run.Emission

namespace CodeStencil

open Disk

namespace Run

/-- The file of the record. -/
def recordFile (s : Site) (args : Arguments) : Path :=
  GenerationRecord.pathIn (cachesFolder s args)

/-- The operations that a run carries out. -/
def planned (args : Arguments) (disk : Disk) : List Operation :=
  match site args disk with
  | .error _ => []
  | .ok s =>
    match (prepare s args disk).result with
    | .ok ⟨_, some ops⟩ => ops
    | _ => []

/-- What a run records: the targets, each once. -/
def produced (args : Arguments) (disk : Disk) : GenerationRecord :=
  GenerationRecord.ofList ((planned args disk).map (·.target))

/-- The disk once a run has written its files. -/
def emission (args : Arguments) (disk : Disk) : Disk :=
  (emitAll args.dryRun (planned args disk) disk).disk

section Planned

variable {args : Arguments} {disk : Disk} {s : Site} {validated : List String}

theorem mem_produced {p : Path} (hp : p ∈ (produced args disk).paths) :
    ∃ op ∈ planned args disk, op.target = p :=
  List.mem_map.1 ((GenerationRecord.paths_ofList_sublist _).subset hp)

theorem planned_eq {ops : List Operation} (hsite : site args disk = .ok s)
    (hplan : (prepare s args disk).result = .ok ⟨validated, some ops⟩) :
    planned args disk = ops := by
  simp [planned, hsite, hplan]

/-- The run gets as far as writing. -/
def Writes (args : Arguments) (disk : Disk) : Prop :=
  ∃ s validated, site args disk = .ok s ∧
    (prepare s args disk).result = .ok ⟨validated, some (planned args disk)⟩

theorem planned_eq_nil (h : ¬Writes args disk) : planned args disk = [] := by
  unfold planned
  cases hsite : site args disk with
  | error e => rfl
  | ok s =>
    dsimp only
    split
    · next validated ops hplan =>
      refine absurd ⟨s, validated, hsite, ?_⟩ h
      rw [planned_eq hsite hplan]
      exact hplan
    · rfl

/-- Where nothing is written, the disk stays as it is. -/
theorem emission_eq (h : ¬Writes args disk ∨ args.dryRun = true) : emission args disk = disk := by
  unfold emission
  rcases h with h | h
  · rw [planned_eq_nil h]
    rfl
  · rw [h]
    exact (emitAll_dry (planned args disk) disk).1

theorem emission_of_planned {ops : List Operation} (hdry : args.dryRun = false)
    (hplanned : planned args disk = ops) :
    emission args disk = (emitAll false ops disk).disk := by
  unfold emission
  rw [hdry, hplanned]

theorem changes_emission (args : Arguments) (disk : Disk) :
    Changes (emitting (planned args disk) disk) disk (emission args disk) := by
  cases hdry : args.dryRun with
  | true =>
    rw [emission_eq (Or.inr hdry)]
    exact .none
  | false =>
    rw [emission_of_planned hdry rfl]
    exact changes_emitAll (planned args disk) disk

end Planned

/-! ### Endings -/

/-- How a run may end: without any change, in the middle of writing, or after cleaning up. -/
inductive Ending (args : Arguments) (disk : Disk) : Except Error Report → Disk → Prop
  | idle {result} (hidle : ¬Writes args disk ∨ args.dryRun = true)
      (hreport : ∀ report, result = .ok report →
        report.generated = [] ∧ report.unchanged = [] ∧ report.removed = []) :
      Ending args disk result disk
  | broken {e} (hdry : args.dryRun = false) : Ending args disk (.error e) (emission args disk)
  | cleaned {s validated outcomes result d'} (hsite : site args disk = .ok s)
      (hplan : (prepare s args disk).result = .ok ⟨validated, some (planned args disk)⟩)
      (hdry : args.dryRun = false)
      (hemitted : EmittedAll (planned args disk) disk outcomes (emission args disk))
      (hreconciled : GenerationRecord.Reconciled (recordFile s args) (produced args disk)
        (emission args disk) result d') :
      Ending args disk
        (result.map fun removed =>
          ⟨validated, targetsWith .written outcomes, targetsWith .unchanged outcomes, removed⟩) d'

theorem ending_execute {s : Site} {args : Arguments} {disk : Disk} {validated : List String}
    (hsite : site args disk = .ok s)
    (hplan : (prepare s args disk).result = .ok ⟨validated, some (planned args disk)⟩) :
    Ending args disk (execute s args validated (planned args disk) disk).result
      (execute s args validated (planned args disk) disk).disk := by
  have hemission : (emitAll args.dryRun (planned args disk) disk).disk = emission args disk := rfl
  unfold execute
  cases hdry : args.dryRun with
  | true =>
    obtain ⟨hdisk, hresult⟩ := emitAll_dry (planned args disk) disk
    dsimp only
    rw [hresult]
    dsimp only
    rw [if_pos rfl, targetsWith_skipped (by decide), targetsWith_skipped (by decide), hdisk]
    refine .idle (Or.inr hdry) fun report hreport => ?_
    rw [← Except.ok.inj hreport]
    exact ⟨rfl, rfl, rfl⟩
  | false =>
    rw [hdry] at hemission
    dsimp only
    rw [hemission]
    cases hresult : (emitAll false (planned args disk) disk).result with
    | error e => exact .broken hdry
    | ok outcomes =>
      have hemitted := emittedAll hresult
      rw [hemission] at hemitted
      have hreconciled := GenerationRecord.reconciled (recordFile s args) (produced args disk)
        (emission args disk)
      have hfile : GenerationRecord.pathIn (cachesFolder s args) = recordFile s args := rfl
      have hproduced : GenerationRecord.ofList ((planned args disk).map (·.target)) =
        produced args disk := rfl
      dsimp only
      rw [if_neg Bool.false_ne_true, hfile, hproduced]
      cases hrun : (GenerationRecord.reconcile (recordFile s args) (produced args disk)).run.run
          (emission args disk) with
      | mk result d' =>
        rw [hrun] at hreconciled
        cases result with
        | error e => exact .cleaned hsite hplan hdry hemitted hreconciled
        | ok removed => exact .cleaned hsite hplan hdry hemitted hreconciled

theorem ending (args : Arguments) (disk : Disk) :
    Ending args disk (run args disk).result (run args disk).disk := by
  have hquiet : ∀ {done : Done Report}, Ending args disk done.result done.disk →
      Ending args disk (if args.quiet then { done with lines := [] } else done).result
        (if args.quiet then { done with lines := [] } else done).disk := by
    intro done h
    split
    · exact h
    · exact h
  unfold run
  cases hsite : site args disk with
  | error e =>
    have hidle : ¬Writes args disk := by
      rintro ⟨s, validated, hsite', -⟩
      cases hsite.symm.trans hsite'
    exact .idle (Or.inl hidle) fun report => by simp
  | ok s =>
    refine hquiet ?_
    have hidle : (∀ validated, (prepare s args disk).result ≠
        .ok ⟨validated, some (planned args disk)⟩) → ¬Writes args disk := by
      rintro hnone ⟨s', validated, hsite', hplan⟩
      cases hsite.symm.trans hsite'
      exact hnone validated hplan
    unfold runAt
    dsimp only
    cases hplan : (prepare s args disk).result with
    | error e => exact .idle (Or.inl (hidle (by simp [hplan]))) fun report => by simp
    | ok prepared =>
      obtain ⟨validated, ops⟩ := prepared
      cases ops with
      | none =>
        refine .idle (Or.inl (hidle (by simp [hplan]))) fun report hreport => ?_
        rw [← Except.ok.inj hreport]
        exact ⟨rfl, rfl, rfl⟩
      | some ops =>
        obtain rfl := planned_eq hsite hplan
        exact ending_execute hsite hplan

/-- The run has gone through all of its phases. -/
structure Completed (args : Arguments) (disk : Disk) (s : Site) (validated : List String)
    (outcomes : List (Path × Outcome)) (removed : List Path) : Prop where
  site : Run.site args disk = .ok s
  plan : (prepare s args disk).result = .ok ⟨validated, some (planned args disk)⟩
  emitted : EmittedAll (planned args disk) disk outcomes (emission args disk)
  reconciled : GenerationRecord.Reconciled (recordFile s args) (produced args disk)
    (emission args disk) (.ok removed) (run args disk).disk

/-- A run that succeeds has gone through all of its phases, unless it had nothing to write. -/
theorem ending_ok {args : Arguments} {disk : Disk} {report : Report}
    (hresult : (run args disk).result = .ok report) (hdry : args.dryRun = false) :
    (¬Writes args disk ∧ report.generated = [] ∧ report.removed = [] ∧
        (run args disk).disk = disk) ∨
      ∃ s validated outcomes, Completed args disk s validated outcomes report.removed ∧
        report.generated = targetsWith .written outcomes := by
  have hend := ending args disk
  generalize hd' : (run args disk).disk = d' at hend ⊢
  generalize (run args disk).result = result at hend hresult
  cases hend with
  | idle hidle hreport =>
    obtain ⟨hgenerated, -, hremoved⟩ := hreport report hresult
    rcases hidle with hnone | hdry'
    · exact Or.inl ⟨hnone, hgenerated, hremoved, rfl⟩
    · rw [hdry] at hdry'
      cases hdry'
  | broken hdry => cases hresult
  | @cleaned s validated outcomes result d' hsite hplan hdry hemitted hreconciled =>
    obtain ⟨removed, rfl, rfl⟩ := map_eq_ok.1 hresult
    exact Or.inr ⟨s, validated, outcomes, ⟨hsite, hplan, hemitted, hd' ▸ hreconciled⟩, rfl⟩

section Completed

variable {args : Arguments} {disk : Disk} {s : Site} {validated : List String}
  {outcomes : List (Path × Outcome)} {removed : List Path}

/-- Once the files are written, a run only writes its record and removes files. -/
theorem Completed.changes (h : Completed args disk s validated outcomes removed) :
    Changes ⟨(· ∈ disk.way (recordFile s args)), (· = disk.resolve (recordFile s args)),
      (· ∈ removed.map disk.resolve)⟩ (emission args disk) (run args disk).disk := by
  have hemission := changes_emission args disk
  have hresolve : (emission args disk).resolve = disk.resolve := funext hemission.resolve_eq
  have hchanges := h.reconciled.changes_of_ok
  rw [way_congr hemission.current_eq, hresolve] at hchanges
  exact hchanges

theorem Completed.current_eq (h : Completed args disk s validated outcomes removed) :
    (run args disk).disk.current = disk.current :=
  h.changes.current_eq.trans (changes_emission args disk).current_eq

/-- What is removed is gone in the end, unless it is the record. -/
theorem Completed.contentAt?_removed (h : Completed args disk s validated outcomes removed) {p : Path}
    (hp : p ∈ removed) (hother : disk.resolve p ≠ disk.resolve (recordFile s args)) :
    (run args disk).disk.contentAt? (disk.resolve p) = none := by
  obtain ⟨previous, d₁, -, hremoved, hrecord⟩ := h.reconciled.of_ok
  have hresolve := (changes_emission args disk).resolve_eq
  have hgone := hremoved.gone p hp
  rw [hresolve, isFileAt_eq_false] at hgone
  rw [← hresolve (recordFile s args)] at hother
  rw [hrecord.contentAt?_eq hother id]
  exact hgone

end Completed

/-! ### Targets -/

section Targets

variable {args : Arguments} {disk : Disk} {s : Site} {validated : List String}

theorem isAbsolute_workingFolder (args : Arguments) (disk : Disk) :
    (workingFolder args disk).isAbsolute = true := by
  unfold workingFolder
  split
  · exact Path.isAbsolute_join disk.isAbsolute_currentPath _
  · exact disk.isAbsolute_currentPath

theorem working_of_site (hsite : site args disk = .ok s) :
    s.working = workingFolder args disk := by
  unfold site at hsite
  dsimp only at hsite
  split at hsite
  · obtain ⟨registry, -, hsite⟩ := bind_eq_ok.1 hsite
    cases hsite
    rfl
  · obtain ⟨found, -, hsite⟩ := bind_eq_ok.1 hsite
    cases hsite
    rfl

/-- What planning yields is what the generators of a selection yield. -/
theorem exists_of_mem_planAll {announce : String → String} {ids : List String}
    {opss : List (List Operation)} (h : (planAll s disk announce ids).result = .ok opss)
    {ops : List Operation} (hops : ops ∈ opss) : ∃ id ∈ ids, planOf s disk id = .ok ops := by
  induction ids generalizing opss with
  | nil =>
    rw [← Except.ok.inj h] at hops
    cases hops
  | cons id rest ih =>
    rw [planAll] at h
    cases hid : planOf s disk id with
    | error e =>
      rw [hid] at h
      cases h
    | ok own =>
      rw [hid] at h
      obtain ⟨more, hmore, rfl⟩ := map_eq_ok.1 h
      rcases List.mem_cons.1 hops with rfl | hops
      · exact ⟨id, List.mem_cons_self, hid⟩
      · obtain ⟨id', hid', hplan⟩ := ih hmore hops
        exact ⟨id', List.mem_cons_of_mem _ hid', hplan⟩

theorem planSelected_eq_ok {announce : String → String} {selection : Selection}
    {ids : List String} {ops : List Operation}
    (h : (planSelected s disk announce selection).result = .ok (ids, ops)) :
    s.registry.select selection = .ok ids ∧
      ∃ opss, (planAll s disk announce ids).result = .ok opss ∧ ops = opss.flatten := by
  unfold planSelected at h
  cases hids : s.registry.select selection with
  | error e =>
    rw [hids] at h
    cases h
  | ok ids' =>
    rw [hids] at h
    obtain ⟨opss, hopss, heq⟩ := map_eq_ok.1 h
    cases heq
    exact ⟨rfl, opss, hopss, rfl⟩

theorem prepare_eq_ok {ops : Option (List Operation)}
    (h : (prepare s args disk).result = .ok ⟨validated, ops⟩) :
    (validation s args disk).result = .ok validated ∧
      (selected s args disk).result = .ok ops := by
  unfold prepare at h
  cases hids : (validation s args disk).result with
  | error e =>
    simp only [hids] at h
    cases h
  | ok ids =>
    simp only [hids] at h
    obtain ⟨ops', hops, heq⟩ := map_eq_ok.1 h
    cases heq
    exact ⟨rfl, hops⟩

theorem selected_eq_some {ops : List Operation}
    (h : (selected s args disk).result = .ok (some ops)) :
    ∃ selection ids, args.selection? = some selection ∧
      (planSelected s disk ("Running generator: " ++ ·) selection).result = .ok (ids, ops) := by
  unfold selected at h
  cases hselection : args.selection? with
  | none =>
    rw [hselection] at h
    cases h
  | some selection =>
    rw [hselection] at h
    obtain ⟨p, hp, heq⟩ := map_eq_ok.1 h
    cases heq
    exact ⟨selection, p.1, rfl, hp⟩

/-- Every planned operation comes from the plan of a generator. -/
theorem exists_of_mem_planned {op : Operation} (hop : op ∈ planned args disk) :
    ∃ s id ops, site args disk = .ok s ∧ planOf s disk id = .ok ops ∧ op ∈ ops := by
  unfold planned at hop
  split at hop
  · cases hop
  · next s hsite =>
    split at hop
    · next validated ops hplan =>
      obtain ⟨selection, ids, -, hselected⟩ := selected_eq_some (prepare_eq_ok hplan).2
      obtain ⟨-, opss, hopss, rfl⟩ := planSelected_eq_ok hselected
      obtain ⟨own, hown, hop⟩ := List.mem_flatten.1 hop
      obtain ⟨id, -, hid⟩ := exists_of_mem_planAll hopss hown
      exact ⟨s, id, own, hsite, hid, hop⟩
    · cases hop

/-- All targets of a run start at the root. -/
theorem isAbsolute_of_mem_planned {op : Operation} (hop : op ∈ planned args disk) :
    op.target.isAbsolute = true := by
  obtain ⟨s, id, ops, hsite, hplan, hop⟩ := exists_of_mem_planned hop
  obtain ⟨config, -, hplan⟩ := bind_eq_ok.1 hplan
  refine Generator.isAbsolute_mem_plan hplan ?_ hop
  rw [working_of_site hsite]
  exact isAbsolute_workingFolder args disk

end Targets

/-! ### Runs of one generator -/

/-- Of the site, writing and cleaning up depend on the file of the record only. -/
theorem execute_congr {s s' : Site} {args : Arguments} (h : recordFile s args = recordFile s' args)
    (validated : List String) (ops : List Operation) (disk : Disk) :
    execute s args validated ops disk = execute s' args validated ops disk := by
  have hfile : GenerationRecord.pathIn (cachesFolder s args) =
      GenerationRecord.pathIn (cachesFolder s' args) := h
  unfold execute
  rw [hfile]

theorem execute_of_ok {s : Site} {args : Arguments} (validated : List String)
    {ops : List Operation} {disk d' : Disk} {outcomes : List (Path × Outcome)}
    {removed : List Path} (hdry : args.dryRun = false)
    (hemit : (emitAll false ops disk).result = .ok outcomes)
    (hreconcile : (GenerationRecord.reconcile (recordFile s args)
      (GenerationRecord.ofList (ops.map (·.target)))).run.run (emitAll false ops disk).disk =
        (.ok removed, d')) :
    (execute s args validated ops disk).result =
        .ok ⟨validated, targetsWith .written outcomes, targetsWith .unchanged outcomes, removed⟩ ∧
      (execute s args validated ops disk).disk = d' := by
  have hfile : GenerationRecord.pathIn (cachesFolder s args) = recordFile s args := rfl
  unfold execute
  rw [hdry]
  dsimp only
  rw [hemit]
  dsimp only
  rw [if_neg Bool.false_ne_true, hfile, hreconcile]
  exact ⟨rfl, rfl⟩

/-- A run that gets as far as writing does what `execute` does. -/
theorem run_eq_execute {args : Arguments} {disk : Disk} {s : Site} {validated : List String}
    {ops : List Operation} (hsite : site args disk = .ok s)
    (hplan : (prepare s args disk).result = .ok ⟨validated, some ops⟩) :
    (run args disk).result = (execute s args validated ops disk).result ∧
      (run args disk).disk = (execute s args validated ops disk).disk := by
  have hrun : (runAt s args disk).result = (execute s args validated ops disk).result ∧
      (runAt s args disk).disk = (execute s args validated ops disk).disk := by
    unfold runAt
    dsimp only
    rw [hplan]
    exact ⟨rfl, rfl⟩
  unfold run
  rw [hsite]
  dsimp only
  split
  · exact hrun
  · exact hrun

/-- A run of one generator carries out its plan. -/
theorem run_generator {args : Arguments} {disk : Disk} {s : Site} {id : String}
    {ops : List Operation} (hsite : site args disk = .ok s) (hplan : planOf s disk id = .ok ops)
    (hid : args.generator = some id) (hvalidate : args.validateAll = false) :
    planned args disk = ops ∧ (run args disk).result = (execute s args [] ops disk).result ∧
      (run args disk).disk = (execute s args [] ops disk).disk := by
  have hselect : s.registry.select (.generator id) = .ok [id] := by
    obtain ⟨config, hconfig, -⟩ := bind_eq_ok.1 hplan
    exact bind_eq_ok.2 ⟨(), by rw [hconfig]; rfl, rfl⟩
  have hprepare : (prepare s args disk).result = .ok ⟨[], some ops⟩ := by
    simp [prepare, validation, hvalidate, selected, Arguments.selection?, hid, planSelected,
      hselect, planAll, hplan, Except.map]
  exact ⟨planned_eq hsite hprepare, run_eq_execute hsite hprepare⟩

/-! ### A small project -/

namespace Sample

/-- One generator with one description. It makes two files, both with the same name. There is a
    record that names this file by a detour, and one that is no text. -/
def disk : Disk where
  files := [
    (["r", "generators.json"], ("\x7b\"generators\":\x7b\"g\":\x7b\"kind\":\"components\"," ++
      "\"configs_dir\":\"c\",\"descriptions_dir\":\"d\"," ++
      "\"output_dir_base\":\"out\"\x7d\x7d\x7d").toUTF8),
    (["r", "c", "delimiter_dictionary.json"], "\x7b\x7d".toUTF8),
    (["r", "c", "files_to_generate.json"],
      ("[\x7b\"template\":\"t\",\"output_dir\":\"\",\"name_template\":\"\x7bclass_name\x7d.h\"\x7d," ++
      "\x7b\"template\":\"u\",\"output_dir\":\"\",\"name_template\":\"\x7bclass_name\x7d.h\"\x7d]").toUTF8),
    (["r", "c", "templates", "t.template"], "\x7bcomponent_description\x7d".toUTF8),
    (["r", "c", "templates", "u.template"], "\x7bcomponent_name\x7d".toUTF8),
    (["r", "d", "Health.json"], "\x7b\"description\":\"Hit points\"\x7d".toUTF8),
    (["r", "detours", "previously_generated_files.txt"],
      "/r/d/../out/HealthComponent.h\n".toUTF8),
    (["r", "broken", "previously_generated_files.txt"], ⟨#[255]⟩)]
  folders := [["r"], ["r", "c"], ["r", "c", "templates"], ["r", "d"], ["r", "detours"],
    ["r", "broken"]]
  current := ["r"]

/-- A run of the generator with its record in a folder of this name. -/
def args (caches : String) : Arguments :=
  { Arguments.none with generator := some "g", caches := some ⟨caches⟩ }

/-- The record in a folder of this name. -/
def recordIn (caches : String) : Path := GenerationRecord.pathIn (Path.join ⟨"/r"⟩ ⟨caches⟩)

/-- The settings of the generator. -/
def config : GeneratorConfig :=
  ⟨.components, ⟨"c"⟩, ⟨"templates"⟩, some ⟨"d"⟩, ⟨"out"⟩, none, none, []⟩

/-- The operations of the generator. -/
def operations : List Operation :=
  [⟨"t", ⟨"/r/out/HealthComponent.h"⟩, "Hit points"⟩,
    ⟨"u", ⟨"/r/out/HealthComponent.h"⟩, "health"⟩]

export CodeStencil (eq_ok_of_toOption)

theorem generator_disk : ((Registry.find disk ⟨"/r"⟩).toOption.map fun found =>
    (found.1.generator "g").toOption) = some (some config) := by
  decide +kernel

theorem plan_disk : (Generator.plan disk "g" config ⟨"/r"⟩).toOption = some operations := by
  decide +kernel

theorem site_disk (caches : String) : ∃ registry file,
    site (args caches) disk = .ok ⟨⟨"/r"⟩, registry, file⟩ ∧
      registry.generator "g" = .ok config := by
  obtain ⟨found, hfound, hgenerator⟩ := Option.map_eq_some_iff.1 generator_disk
  have hworking : workingFolder (args caches) disk = ⟨"/r"⟩ := rfl
  refine ⟨found.1, found.2, ?_, eq_ok_of_toOption hgenerator⟩
  change (do let x ← Registry.find disk (workingFolder (args caches) disk); _) = _
  rw [hworking, eq_ok_of_toOption hfound]
  rfl

theorem recordFile_disk {caches : String} {s : Site} (hsite : site (args caches) disk = .ok s) :
    recordFile s (args caches) = recordIn caches := by
  obtain ⟨registry, file, hsite', -⟩ := site_disk caches
  rw [← Except.ok.inj (hsite'.symm.trans hsite)]
  rfl

theorem run_disk (caches : String) :
    planned (args caches) disk = operations ∧
      (run (args caches) disk).result =
        (execute ⟨⟨"/r"⟩, ⟨∅, ∅⟩, ⟨""⟩⟩ (args caches) [] operations disk).result ∧
      (run (args caches) disk).disk =
        (execute ⟨⟨"/r"⟩, ⟨∅, ∅⟩, ⟨""⟩⟩ (args caches) [] operations disk).disk := by
  obtain ⟨registry, file, hsite, hgenerator⟩ := site_disk caches
  have hplan : planOf ⟨⟨"/r"⟩, registry, file⟩ disk "g" = .ok operations := by
    have hplan : Generator.plan disk "g" config ⟨"/r"⟩ = .ok operations :=
      eq_ok_of_toOption plan_disk
    exact bind_eq_ok.2 ⟨config, hgenerator, hplan⟩
  have hrecord : recordFile ⟨⟨"/r"⟩, registry, file⟩ (args caches) =
      recordFile ⟨⟨"/r"⟩, ⟨∅, ∅⟩, ⟨""⟩⟩ (args caches) := rfl
  rw [← execute_congr hrecord]
  exact run_generator hsite hplan rfl rfl

/-- With its record elsewhere, the run succeeds and removes nothing. -/
theorem result_disk : (run (args "caches") disk).result =
    .ok ⟨[], [⟨"/r/out/HealthComponent.h"⟩, ⟨"/r/out/HealthComponent.h"⟩], [], []⟩ := by
  obtain ⟨-, hresult, -⟩ := run_disk "caches"
  rw [hresult]
  refine eq_ok_of_toOption ?_
  decide +kernel

end Sample

end Run

end CodeStencil
