/-
  CodeStencil/Proofs/Errors/Writing.lean
  ======================================
  **Errors while files are written** — once the files are planned, all that can go wrong is the file
  system: emission (`raises_emitAll`) and the cleanup after it (`raises_reconcile`) raise no other
  error.
-/
import CodeStencil.Proofs.Errors.Raising
import CodeStencil.Run

namespace CodeStencil

open Disk

/-- An error of the file system. -/
def Error.IsIo (e : Error) : Prop := e = .io

theorem Error.IsIo.kind {e : Error} (h : e.IsIo) : e.kind = .io := by
  rw [h]
  rfl

/-! ### Files -/

namespace Disk

theorem raises_read (d : Disk) (p : Path) : Raises Error.IsIo (d.read p) := by
  unfold Disk.read
  split
  · exact .ok _
  · exact .error rfl

theorem raises_readText (d : Disk) (p : Path) : Raises Error.IsIo (d.readText p) := by
  refine (d.raises_read p).bind fun bytes _ => ?_
  split
  · exact .pure _
  · exact .throw rfl

theorem raises_createFolders (p : Path) : (createFolders p).Raises Error.IsIo := by
  intro d
  rw [run_createFolders]
  split
  · exact .ok ()
  · dsimp only
    split
    · exact .ok ()
    · exact .error rfl

theorem raises_put (p : Path) (bytes : ByteArray) : (put p bytes).Raises Error.IsIo := by
  intro d
  rw [run_put]
  cases d.put? p bytes with
  | some d' => exact .ok ()
  | none => exact .error rfl

theorem raises_write (p : Path) (bytes : ByteArray) : (write p bytes).Raises Error.IsIo := by
  unfold write
  cases p.parent? with
  | some folder => exact .bind (raises_createFolders folder) fun _ => raises_put p bytes
  | none => exact raises_put p bytes

theorem raises_remove (p : Path) : (remove p).Raises Error.IsIo := by
  refine .bind .get fun d => ?_
  cases d.remove? p with
  | some d' => exact .set d'
  | none => exact .throw rfl

end Disk

/-! ### Emission -/

namespace Operation

theorem raises_isDone (op : Operation) (d : Disk) : Raises Error.IsIo (op.isDone d) := by
  unfold isDone
  split
  · exact (d.raises_read op.target).map
  · exact .ok false

theorem raises_emit (dryRun : Bool) (op : Operation) : (op.emit dryRun).Raises Error.IsIo := by
  unfold emit
  cases dryRun with
  | true => exact .pure _
  | false =>
    refine .bind (.look op.raises_isDone) fun done => ?_
    cases done with
    | true => exact .pure _
    | false => exact .bind (raises_write _ _) fun _ => .pure _

end Operation

theorem Run.raises_emitAll (dryRun : Bool) (ops : List Operation) (d : Disk) :
    Raises Error.IsIo (Run.emitAll dryRun ops d).result := by
  induction ops generalizing d with
  | nil => exact .ok []
  | cons op rest ih =>
    have hstep := op.raises_emit dryRun d
    rw [Run.emitAll]
    cases hrun : (op.emit dryRun).run.run d with
    | mk result d' =>
      rw [hrun] at hstep
      cases result with
      | error e => exact .error (hstep e rfl)
      | ok outcome => exact (ih d').map

/-! ### Cleaning up -/

namespace GenerationRecord

theorem raises_load (file : Path) (d : Disk) : Raises Error.IsIo (load file d) := by
  unfold load
  split
  · exact (d.raises_readText file).map
  · exact .ok _

theorem raises_removeFiles (ps : List Path) : (removeFiles ps).Raises Error.IsIo := by
  induction ps with
  | nil => exact .pure []
  | cons p rest ih =>
    refine .bind .get fun d => ?_
    split
    · exact .bind (raises_remove p) fun _ => .bind ih fun removed => .pure (p :: removed)
    · exact ih

theorem raises_persist (file : Path) (r : GenerationRecord) :
    (persist file r).Raises Error.IsIo :=
  .bind (raises_createFolders _) fun _ => raises_put file _

theorem raises_reconcile (file : Path) (current : GenerationRecord) :
    (reconcile file current).Raises Error.IsIo := by
  refine .bind (.look (raises_load file)) fun previous => ?_
  refine .bind (raises_removeFiles _) fun removed => .bind .get fun d => ?_
  split
  · exact .bind (raises_persist file current) fun _ => .pure removed
  · exact .pure removed

end GenerationRecord

end CodeStencil
