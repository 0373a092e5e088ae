/-
  CodeStencil/Proofs/Run/Preview.lean
  ===================================
  **Dry runs** — a dry run plans like any other, and shows what it would write. It fails exactly if
  the run that writes fails before it writes, and what it shows is what that run emits
  (`dry_run_previews`). A quiet run shows nothing, be it dry or not (`Sample.quiet_dry_run_shows_nothing`).
-/
import CodeStencil.Proofs.Run.Outset

namespace CodeStencil

open Disk

def Arguments.dry (args : Arguments) : Arguments := { args with dryRun := true }

def Arguments.wet (args : Arguments) : Arguments := { args with dryRun := false }

namespace Run

/-! ### Lines -/

/-- A line that shows what a dry run would do. -/
def isPreview (line : String) : Bool := "[DRY RUN] ".toList.isPrefixOf line.toList

theorem isPreview_message (op : Operation) : isPreview (op.message .skipped) = true := by
  have htag : "[DRY RUN] Would generate file: ".toList =
      "[DRY RUN] ".toList ++ "Would generate file: ".toList := by decide
  unfold isPreview Operation.message
  simp only [String.toList_append, htag, List.append_assoc]
  exact List.isPrefixOf_iff_prefix.2 (List.prefix_append _ _)

theorem isPreview_append {text : String} {c : Char} (hhead : text.toList.head? = some c)
    (hc : c ≠ '[') (more : String) : isPreview (text ++ more) = false := by
  have htag : "[DRY RUN] ".toList = '[' :: "DRY RUN] ".toList := by decide
  obtain ⟨cs, hchars⟩ := List.head?_eq_some_iff.1 hhead
  unfold isPreview
  rw [Bool.eq_false_iff, htag, String.toList_append, hchars]
  intro hprefix
  exact hc (List.cons_prefix_cons.1 (List.isPrefixOf_iff_prefix.1 hprefix)).1.symm

/-- The lines before a run writes announce generators, and none of them is a preview. -/
theorem filter_lines_prepare (s : Site) (args : Arguments) (disk : Disk) :
    (prepare s args disk).lines.filter isPreview = [] := by
  apply List.filter_eq_nil_iff.2
  intro line hline
  rw [Bool.not_eq_true]
  obtain ⟨id, rfl | rfl⟩ := mem_lines_prepare hline
  · exact isPreview_append (c := 'V') (by decide) (by decide) id
  · exact isPreview_append (c := 'R') (by decide) (by decide) id

theorem filter_previews (ops : List Operation) :
    (ops.map (·.message .skipped)).filter isPreview = ops.map (·.message .skipped) := by
  apply List.filter_eq_self.2
  intro line hline
  obtain ⟨op, -, rfl⟩ := List.mem_map.1 hline
  exact isPreview_message op

/-! ### Dry runs -/

section Dry

variable {args : Arguments} {disk : Disk} {report : Report} {e : Error}

theorem outset_dry (args : Arguments) (disk : Disk) :
    outset args.dry disk = outset args.wet disk := rfl

/-- A dry run that has planned everything succeeds, and shows all operations. -/
theorem run_dry {prepared : Preparation} (hdry : args.dryRun = true)
    (h : outset args disk = .ok prepared) :
    (run args disk).result = .ok ⟨prepared.validated, [], [], []⟩ ∧
      (run args disk).disk = disk ∧
      (run args disk).lines.filter isPreview =
        if args.quiet then [] else (planned args disk).map (·.message .skipped) := by
  obtain ⟨validated, ops⟩ := prepared
  obtain ⟨s, hsite, hplan⟩ := outset_eq_ok.1 h
  obtain ⟨hresult, hdisk, hlines⟩ := run_eq_runAt hsite
  rw [hresult, hdisk, hlines, apply_ite (List.filter isPreview), lines_runAt hplan,
    List.filter_append, filter_lines_prepare, List.nil_append, List.filter_nil]
  unfold runAt
  dsimp only
  rw [hplan]
  cases ops with
  | none =>
    rw [planned_of_outset_none h]
    exact ⟨rfl, rfl, rfl⟩
  | some ops =>
    dsimp only
    rw [planned_of_outset h, execute_dry hdry]
    exact ⟨rfl, rfl, by rw [filter_previews]⟩

theorem run_dry_eq_error :
    (run args.dry disk).result = .error e ↔ outset args.wet disk = .error e := by
  rw [← outset_dry]
  constructor
  · intro hresult
    cases hplan : outset args.dry disk with
    | error e' =>
      obtain rfl := Except.error.inj (hresult.symm.trans (run_of_outset_error hplan).1)
      rfl
    | ok prepared =>
      rw [(run_dry rfl hplan).1] at hresult
      cases hresult
  · exact fun hplan => (run_of_outset_error hplan).1

theorem disk_dry (args : Arguments) (disk : Disk) : (run args.dry disk).disk = disk := by
  cases hplan : outset args.dry disk with
  | error e => exact (run_of_outset_error hplan).2
  | ok prepared => exact (run_dry rfl hplan).2.1

/-- All that is planned has been emitted in order, each file as written or as unchanged, and is
    reported. -/
def Fulfilled (args : Arguments) (disk : Disk) (report : Report) : Prop :=
  ∃ outcomes, EmittedAll (planned args disk) disk outcomes (emission args disk) ∧
    outcomes.map Prod.fst = (planned args disk).map (·.target) ∧
    (∀ o ∈ outcomes, o.2 = .written ∨ o.2 = .unchanged) ∧
    report.generated = targetsWith .written outcomes ∧
    report.unchanged = targetsWith .unchanged outcomes

theorem fulfilled_of_ok (hresult : (run args disk).result = .ok report)
    (hdry : args.dryRun = false) : Fulfilled args disk report := by
  have hend := ending args disk
  generalize (run args disk).disk = d' at hend
  generalize (run args disk).result = result at hend hresult
  cases hend with
  | idle hidle hreport =>
    obtain ⟨hgenerated, hunchanged, -⟩ := hreport report hresult
    have hnone : ¬Writes args disk := by
      rcases hidle with hnone | hdry'
      · exact hnone
      · rw [hdry] at hdry'
        cases hdry'
    unfold Fulfilled
    rw [planned_eq_nil hnone, emission_eq (Or.inl hnone)]
    exact ⟨[], .nil, rfl, fun o ho => absurd ho List.not_mem_nil, hgenerated, hunchanged⟩
  | broken hdry => cases hresult
  | @cleaned s validated outcomes result d' hsite hplan hdry hemitted hreconciled =>
    obtain ⟨removed, rfl, rfl⟩ := map_eq_ok.1 hresult
    exact ⟨outcomes, hemitted, hemitted.targets, hemitted.written_or_unchanged, rfl, rfl⟩

/-- A dry run leaves the disk alone and fails as the other run does before it writes. If it succeeds,
    it shows what the other run emits, unless it is quiet; and then only the file system can make
    the other run fail. -/
theorem dry_run_previews (args : Arguments) (disk : Disk) :
    (run args.dry disk).disk = disk ∧
    (∀ e, (run args.dry disk).result = .error e ↔ outset args.wet disk = .error e) ∧
    (∀ e, outset args.wet disk = .error e →
      (run args.wet disk).result = .error e ∧ (run args.wet disk).disk = disk) ∧
    ∀ report, (run args.dry disk).result = .ok report →
      (run args.dry disk).lines.filter isPreview =
          (if args.quiet then [] else (planned args.wet disk).map (·.message .skipped)) ∧
        ((∃ report, (run args.wet disk).result = .ok report ∧ Fulfilled args.wet disk report) ∨
          ∃ e, (run args.wet disk).result = .error e ∧ e.kind = .io) := by
  refine ⟨disk_dry args disk, fun e => run_dry_eq_error, fun e => run_of_outset_error, ?_⟩
  intro report hreport
  cases hplan : outset args.wet disk with
  | error e =>
    rw [run_dry_eq_error.2 hplan] at hreport
    cases hreport
  | ok prepared =>
    have hdry : outset args.dry disk = .ok prepared := hplan
    obtain ⟨-, -, hlines⟩ := run_dry rfl hdry
    refine ⟨hlines, ?_⟩
    cases hresult : (run args.wet disk).result with
    | ok report' => exact Or.inl ⟨report', rfl, fulfilled_of_ok hresult rfl⟩
    | error e => exact Or.inr ⟨e, rfl, (raises_of_outset hplan e hresult).kind⟩

end Dry

/-! ### The sample -/

namespace Sample

theorem outset_disk : ∃ prepared, outset (args "caches") disk = .ok prepared := by
  cases hplan : outset (args "caches") disk with
  | ok prepared => exact ⟨prepared, rfl⟩
  | error e =>
    have hfails := (run_of_outset_error hplan).1
    rw [result_disk] at hfails
    cases hfails

/-- The dry run of the sample shows both of its operations. -/
theorem dry_run_shows_operations :
    (run (args "caches").dry disk).disk = disk ∧
      (run (args "caches").dry disk).lines.filter isPreview =
        ["[DRY RUN] Would generate file: /r/out/HealthComponent.h (from template 't')",
          "[DRY RUN] Would generate file: /r/out/HealthComponent.h (from template 'u')"] := by
  obtain ⟨prepared, hplan⟩ := outset_disk
  have hdry : outset (args "caches").dry disk = .ok prepared :=
    (outset_congr (args "caches") false true (args "caches").caches disk).trans hplan
  obtain ⟨hdisk, -, -, hpreviews⟩ := dry_run_previews (args "caches") disk
  obtain ⟨hlines, -⟩ := hpreviews _ (run_dry rfl hdry).1
  have hplanned : planned (args "caches").wet disk = operations :=
    (planned_congr (args "caches") false false (args "caches").caches disk).trans
      (run_disk "caches").1
  rw [hplanned] at hlines
  refine ⟨hdisk, hlines.trans ?_⟩
  decide +kernel

def quietArgs : Arguments := { args "caches" with quiet := true }

/-- Told to be quiet, it shows nothing of what it would write. -/
theorem quiet_dry_run_shows_nothing :
    (∃ report, (run quietArgs.dry disk).result = .ok report) ∧
      (run quietArgs.dry disk).lines.filter isPreview = [] ∧
      (planned quietArgs.wet disk).map (·.message .skipped) =
        ["[DRY RUN] Would generate file: /r/out/HealthComponent.h (from template 't')",
          "[DRY RUN] Would generate file: /r/out/HealthComponent.h (from template 'u')"] := by
  obtain ⟨prepared, hplan⟩ := outset_disk
  have hdry : outset quietArgs.dry disk = .ok prepared :=
    (outset_congr (args "caches") true true (args "caches").caches disk).trans hplan
  obtain ⟨hresult, -, hlines⟩ := run_dry rfl hdry
  have hplanned : planned quietArgs.wet disk = operations :=
    (planned_congr (args "caches") true false (args "caches").caches disk).trans
      (run_disk "caches").1
  refine ⟨⟨_, hresult⟩, hlines.trans (if_pos rfl), ?_⟩
  rw [hplanned]
  decide +kernel

end Sample

end Run

end CodeStencil
