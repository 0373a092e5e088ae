/-
  CodeStencil/Proofs/Run/Overwriting.lean
  =======================================
  **Two operations, one file** — nothing keeps two operations of a run from having the same target.
  The files are written in order, so the last content stays (`emission_holds_last`), and every operation
  finds its own content exactly if operations with one file agree.
-/
import CodeStencil.Proofs.Run.Phases

namespace CodeStencil

open Disk

namespace Run

/-- Operations with one file have the same content. -/
def Agree (d : Disk) (ops : List Operation) : Prop :=
  ∀ op ∈ ops, ∀ op' ∈ ops, d.resolve op.target = d.resolve op'.target → op.content = op'.content

variable {args : Arguments} {disk : Disk} {outcomes : List (Path × Outcome)}

/-- Operations agree exactly if each of them has the content of the last one with its file. -/
theorem agree_iff_last {d : Disk} {ops : List Operation} :
    Agree d ops ↔
      ∀ op ∈ ops, ∀ last, lastAt d ops (d.resolve op.target) = some last →
        last.content = op.content := by
  constructor
  · intro h op hop last hlast
    obtain ⟨hmem, hresolve⟩ := lastAt_eq_some hlast
    exact h last hmem op hop hresolve
  · intro h op hop op' hop' heq
    obtain ⟨last, -, hlast, -⟩ := lastAt_resolve (d := d) hop
    rw [← h op hop last hlast]
    rw [heq] at hlast
    exact h op' hop' last hlast

/-- Where each file holds what the last operation with this file wants, every operation is done
    exactly if all operations with one file agree. -/
theorem done_iff_agree {d d' : Disk} {ops : List Operation} (hcurrent : d'.current = d.current)
    (hlast : ∀ op ∈ ops, ∃ last ∈ ops, lastAt d ops (d.resolve op.target) = some last ∧
      d'.locate op.target = some (d.resolve op.target) ∧
      d'.contentAt? (d.resolve op.target) = some last.bytes) :
    (∀ op ∈ ops, op.Done d') ↔ Agree d ops := by
  rw [agree_iff_last]
  constructor
  · intro hdone op hop last hlast'
    obtain ⟨last', -, heq, -, hcontent⟩ := hlast op hop
    obtain rfl := Option.some.inj (heq.symm.trans hlast')
    have hown := (hdone op hop).holds
    rw [resolve_congr hcurrent, hcontent] at hown
    exact Operation.bytes_eq_iff.1 (Option.some.inj hown)
  · intro hagree op hop
    obtain ⟨last, -, heq, hleads, hcontent⟩ := hlast op hop
    constructor
    · rw [resolve_congr hcurrent]
      exact hleads
    · rw [resolve_congr hcurrent, hcontent, Operation.bytes_eq_iff.2 (hagree op hop last heq)]

/-- All files hold what the last operation with this file wants. -/
theorem EmittedAll.holds_last {ops : List Operation} {d d' : Disk}
    (h : EmittedAll ops d outcomes d') :
    ∀ op ∈ ops, ∃ last ∈ ops, lastAt d ops (d.resolve op.target) = some last ∧
      d'.locate op.target = some (d.resolve op.target) ∧
      d'.contentAt? (d.resolve op.target) = some last.bytes := by
  intro op hop
  obtain ⟨last, hmem, hlast, -⟩ := lastAt_resolve (d := d) hop
  refine ⟨last, hmem, hlast, h.leads hop, ?_⟩
  rw [h.contentAt?, hlast]

/-- Once all files are written, each of them holds what the last operation with this file wants. So
    every operation is done exactly if all operations with one file agree. -/
theorem emission_holds_last (hdry : args.dryRun = false)
    (hemitted : (emitAll args.dryRun (planned args disk) disk).result = .ok outcomes) :
    (∀ op ∈ planned args disk, ∃ last ∈ planned args disk,
        lastAt disk (planned args disk) (disk.resolve op.target) = some last ∧
        (emission args disk).locate op.target = some (disk.resolve op.target) ∧
        (emission args disk).contentAt? (disk.resolve op.target) = some last.bytes) ∧
      ((∀ op ∈ planned args disk, op.Done (emission args disk)) ↔
        Agree disk (planned args disk)) := by
  have hall : EmittedAll (planned args disk) disk outcomes (emission args disk) := by
    unfold emission
    rw [hdry] at hemitted ⊢
    exact emittedAll hemitted
  exact ⟨hall.holds_last, done_iff_agree hall.changes.current_eq hall.holds_last⟩

/-- In the sample the second operation overwrites the first one. -/
theorem sample_holds_last :
    (emission (Sample.args "caches") Sample.disk).contentAt? ["r", "out", "HealthComponent.h"] =
        some "health\n".toUTF8 ∧
      ¬∀ op ∈ planned (Sample.args "caches") Sample.disk,
        op.Done (emission (Sample.args "caches") Sample.disk) := by
  obtain ⟨hplanned, -, -⟩ := Sample.run_disk "caches"
  have hresult : (emitAll false Sample.operations Sample.disk).result.toOption =
      some [(⟨"/r/out/HealthComponent.h"⟩, .written), (⟨"/r/out/HealthComponent.h"⟩, .written)] := by
    decide +kernel
  have hemitted := Sample.eq_ok_of_toOption hresult
  rw [← hplanned] at hemitted
  have hdry : (Sample.args "caches").dryRun = false := rfl
  obtain ⟨hlast, hdone⟩ := emission_holds_last hdry hemitted
  rw [hplanned] at hlast
  constructor
  · obtain ⟨last, -, hlast, -, hcontent⟩ := hlast _ List.mem_cons_self
    obtain rfl : Operation.mk "u" ⟨"/r/out/HealthComponent.h"⟩ "health" = last :=
      Option.some.inj (Eq.trans (by decide +kernel) hlast)
    exact hcontent
  · rw [hdone, hplanned]
    intro hagree
    have hsame := hagree _ List.mem_cons_self _ (List.mem_cons_of_mem _ List.mem_cons_self) rfl
    revert hsame
    decide

/-- A run may succeed although it loses the content of one of its operations. -/
theorem exists_overwritten :
    ∃ args disk report, (run args disk).result = .ok report ∧
      ∃ op ∈ planned args disk, ∃ op' ∈ planned args disk,
        op.target = op'.target ∧ op.content ≠ op'.content ∧ ¬op.Done (run args disk).disk := by
  obtain ⟨hplanned, -, hdisk⟩ := Sample.run_disk "caches"
  have hcontent : ((execute ⟨⟨"/r"⟩, ⟨∅, ∅⟩, ⟨""⟩⟩ (Sample.args "caches") [] Sample.operations
      Sample.disk).disk.contentAt? ["r", "out", "HealthComponent.h"]).map (·.data) =
        some "health\n".toUTF8.data := by
    decide +kernel
  rw [← hdisk] at hcontent
  refine ⟨_, _, _, Sample.result_disk, ?_⟩
  rw [hplanned]
  refine ⟨_, List.mem_cons_self, _, List.mem_cons_of_mem _ List.mem_cons_self, rfl, by decide, ?_⟩
  intro hdone
  have hresolve : (run (Sample.args "caches") Sample.disk).disk.resolve
      ⟨"/r/out/HealthComponent.h"⟩ = ["r", "out", "HealthComponent.h"] :=
    (resolve_of_isAbsolute (by decide) Sample.disk _).trans (by decide +kernel)
  have hholds := hdone.holds
  rw [hresolve] at hholds
  rw [hholds] at hcontent
  revert hcontent
  decide +kernel

end Run

end CodeStencil
