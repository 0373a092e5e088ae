/-
  CodeStencil/Proofs/Run/Aliases.lean
  ===================================
  **One file under two paths** — a recorded path is stale if no target has its components, but what
  is removed is the file that it leads to. So a run removes what it has just written exactly if a
  recorded path leads to a target under other components (`targets_kept_iff`). Paths that start at
  the root and have no `..` never do that (`unaliased_of_level`).
-/
import CodeStencil.Proofs.Run.Phases

namespace CodeStencil

open Disk

namespace Run

/-- The record that a run finds when it cleans up. -/
def recorded (args : Arguments) (disk : Disk) : List Path :=
  match site args disk with
  | .error _ => []
  | .ok s =>
    match GenerationRecord.load (recordFile s args) (emission args disk) with
    | .ok previous => previous.paths
    | .error _ => []

/-- A recorded path that leads to a target has the components of a target. -/
def Unaliased (args : Arguments) (disk : Disk) : Prop :=
  ∀ p ∈ recorded args disk, ∀ op ∈ planned args disk,
    (emission args disk).locate p = some (disk.resolve op.target) →
      ∃ op' ∈ planned args disk, op'.target.components = p.components

section Aliases

variable {args : Arguments} {disk : Disk}

theorem recorded_eq {s : Site} {previous : GenerationRecord} (hsite : site args disk = .ok s)
    (hload : GenerationRecord.load (recordFile s args) (emission args disk) = .ok previous) :
    recorded args disk = previous.paths := by
  simp [recorded, hsite, hload]

theorem Completed.mem_recorded {s : Site} {validated : List String}
    {outcomes : List (Path × Outcome)} {removed : List Path}
    (h : Completed args disk s validated outcomes removed) {p : Path} (hp : p ∈ removed) :
    p ∈ recorded args disk := by
  obtain ⟨previous, d₁, hload, hremoved, -⟩ := h.reconciled.of_ok
  rw [recorded_eq h.site hload]
  exact (List.mem_filter.1 (hremoved.sublist.subset hp)).1

theorem mem_stale {previous : GenerationRecord} {p : Path} :
    p ∈ previous.stale (produced args disk) ↔
      p ∈ previous.paths ∧ ∀ op ∈ planned args disk, op.target.components ≠ p.components := by
  unfold GenerationRecord.stale produced
  rw [List.mem_filter, Bool.not_eq_true', ← Bool.not_eq_true,
    GenerationRecord.contains_ofList]
  simp

section Kept

variable {report : Report} (hresult : (run args disk).result = .ok report)
  (hdry : args.dryRun = false)

include hresult hdry

theorem unaliased_of_avoids (havoid : ∀ p ∈ report.removed, ∀ op ∈ planned args disk,
    disk.resolve p ≠ disk.resolve op.target) : Unaliased args disk := by
  intro p hp op hop hleads
  rcases ending_ok hresult hdry with ⟨hnone, -⟩ | ⟨s, validated, outcomes, hrun, -⟩
  · rw [planned_eq_nil hnone] at hop
    cases hop
  · obtain ⟨previous, d₁, hload, hremoved, hrecord⟩ := hrun.reconciled.of_ok
    have hresolve := (changes_emission args disk).resolve_eq
    by_contra hnone
    rw [recorded_eq hrun.site hload] at hp
    have hstale : p ∈ previous.stale (produced args disk) :=
      mem_stale.2 ⟨hp, fun op' hop' heq => hnone ⟨op', hop', heq⟩⟩
    -- the file is there since it was just written
    have hspelled := locate_some hleads
    have hfile : (emission args disk).isFile p = true := by
      have htarget := isFile_eq_true.1 (hrun.emitted.isFile hop)
      rw [hresolve] at htarget
      refine isFile_eq_true.2 ?_
      rw [hspelled]
      exact ⟨hleads, htarget.2⟩
    obtain ⟨q, hq, hqp⟩ := List.mem_map.1 (hremoved.complete p hstale hfile)
    refine havoid q hq op hop ?_
    rw [← hresolve, hqp, hspelled]

theorem avoids_of_unaliased (hunaliased : Unaliased args disk) :
    ∀ p ∈ report.removed, ∀ op ∈ planned args disk,
      disk.resolve p ≠ disk.resolve op.target := by
  intro p hp op hop heq
  rcases ending_ok hresult hdry with ⟨hnone, -⟩ | ⟨s, validated, outcomes, hrun, -⟩
  · rw [planned_eq_nil hnone] at hop
    cases hop
  · obtain ⟨previous, d₁, hload, hremoved, hrecord⟩ := hrun.reconciled.of_ok
    obtain ⟨-, hnone⟩ := mem_stale.1 (hremoved.sublist.subset hp)
    obtain ⟨hleads, -⟩ := isFile_eq_true.1 (hremoved.isFile p hp)
    rw [(changes_emission args disk).resolve_eq, heq] at hleads
    obtain ⟨op', hop', hsame⟩ := hunaliased p (hrun.mem_recorded hp) op hop hleads
    exact hnone op' hop' hsame

theorem isFile_of_avoids (havoid : ∀ p ∈ report.removed, ∀ op ∈ planned args disk,
    disk.resolve p ≠ disk.resolve op.target) :
    ∀ op ∈ planned args disk, (run args disk).disk.isFile op.target = true := by
  intro op hop
  rcases ending_ok hresult hdry with ⟨hnone, -⟩ | ⟨s, validated, outcomes, hrun, -⟩
  · rw [planned_eq_nil hnone] at hop
    cases hop
  · refine hrun.changes.isFile ?_ (hrun.emitted.isFile hop)
    intro herased
    obtain ⟨p, hp, hpop⟩ := List.mem_map.1 herased
    rw [(changes_emission args disk).resolve_eq] at hpop
    exact havoid p hp op hop hpop

/-- Cleaning up keeps all that was just written exactly if no recorded path is an alias. -/
theorem targets_kept_iff :
    ((∀ p ∈ report.removed, ∀ op ∈ planned args disk,
          disk.resolve p ≠ disk.resolve op.target) ∧
        ∀ op ∈ planned args disk, (run args disk).disk.isFile op.target = true) ↔
      Unaliased args disk := by
  constructor
  · rintro ⟨havoid, -⟩
    exact unaliased_of_avoids hresult hdry havoid
  · intro hunaliased
    have havoid := avoids_of_unaliased hresult hdry hunaliased
    exact ⟨havoid, isFile_of_avoids hresult hdry havoid⟩

end Kept

/-- The detour in the record of the sample makes a run remove what it has just written. -/
theorem detour_removes_target :
    ∃ report, (run (Sample.args "detours") Sample.disk).result = .ok report ∧
      report.removed = [⟨"/r/d/../out/HealthComponent.h"⟩] ∧
      ¬Unaliased (Sample.args "detours") Sample.disk := by
  obtain ⟨hplanned, hresult, -⟩ := Sample.run_disk "detours"
  have hreport : (execute ⟨⟨"/r"⟩, ⟨∅, ∅⟩, ⟨""⟩⟩ (Sample.args "detours") [] Sample.operations
      Sample.disk).result.toOption = some ⟨[], [⟨"/r/out/HealthComponent.h"⟩,
        ⟨"/r/out/HealthComponent.h"⟩], [], [⟨"/r/d/../out/HealthComponent.h"⟩]⟩ := by
    decide +kernel
  rw [Sample.eq_ok_of_toOption hreport] at hresult
  refine ⟨_, hresult, rfl, fun hunaliased => ?_⟩
  have havoid := ((targets_kept_iff hresult rfl).2 hunaliased).1
  rw [hplanned] at havoid
  refine havoid ⟨"/r/d/../out/HealthComponent.h"⟩ List.mem_cons_self _ List.mem_cons_self ?_
  decide +kernel

/-- A record that is current lists the targets and nothing else. -/
theorem unaliased_of_isCurrent {s : Site} (hsite : site args disk = .ok s)
    (h : GenerationRecord.IsCurrent (recordFile s args) (produced args disk)
      (emission args disk)) : Unaliased args disk := by
  intro p hp op hop hleads
  obtain ⟨-, previous, hload, hsame⟩ := h
  rw [recorded_eq hsite hload] at hp
  have hmem : p.components ∈ (produced args disk).paths.map Path.components := by
    rw [← GenerationRecord.components_of_same hsame]
    exact List.mem_map_of_mem hp
  obtain ⟨r, hr, hrp⟩ := List.mem_map.1 hmem
  obtain ⟨op', hop', rfl⟩ := mem_produced hr
  exact ⟨op', hop', hrp⟩

/-- Paths that start at the root and have no `..` are no aliases of each other. -/
theorem unaliased_of_level
    (hrecorded : ∀ p ∈ recorded args disk, p.isAbsolute = true ∧ p.Level)
    (htargets : ∀ op ∈ planned args disk, op.target.Level) : Unaliased args disk := by
  intro p hp op hop hleads
  obtain ⟨habs, hlevel⟩ := hrecorded p hp
  have hsame := (changes_emission args disk).resolve_eq op.target
  refine ⟨op, hop, ?_⟩
  rw [← resolve_eq_iff (isAbsolute_of_mem_planned hop) (htargets op hop) habs hlevel
    (emission args disk), locate_some hleads, hsame]

end Aliases

/-- Nothing is recorded where a run of the sample finds no record, or none that can be read. -/
theorem Sample.recorded_disk {caches : String}
    (hnothing : ((GenerationRecord.load (recordIn caches)
      (emitAll false operations disk).disk).toOption.map (·.paths)).getD [] = []) :
    recorded (args caches) disk = [] := by
  obtain ⟨hplanned, -, -⟩ := run_disk caches
  obtain ⟨registry, file, hsite, -⟩ := site_disk caches
  unfold recorded
  rw [hsite]
  dsimp only
  rw [recordFile_disk hsite, emission_of_planned rfl hplanned]
  revert hnothing
  cases GenerationRecord.load (recordIn caches) (emitAll false operations disk).disk with
  | error e => exact fun _ => rfl
  | ok previous => exact id

end Run

end CodeStencil
