/-
  CodeStencil/Emission.lean
  =========================
  **Writing planned files** — a file that already holds what is planned is left untouched.
-/
import CodeStencil.Plan

namespace CodeStencil

/-- What became of a planned file: it was written, it was there already, or nothing was done because
    the run only shows what it would do. -/
inductive Outcome where
  | written
  | unchanged
  | skipped
  deriving DecidableEq, Repr

namespace Operation

/-- A line about the operation and its outcome. -/
def message (op : Operation) : Outcome → String
  | .written => "Generated file: " ++ op.target.text
  | .unchanged => "Unchanged file: " ++ op.target.text
  | .skipped =>
    "[DRY RUN] Would generate file: " ++ op.target.text ++ " (from template '" ++
      op.template ++ "')"

/-- What the file holds: the content and a line feed. -/
def bytes (op : Operation) : ByteArray := (op.content ++ "\n").toUTF8

def isDone (op : Operation) (disk : Disk) : Except Error Bool :=
  if disk.isFile op.target then
    (disk.read op.target).map fun bytes => decide (bytes.data = op.bytes.data)
  else .ok false

/-- Writes the file unless it is there already. A dry run does nothing. -/
def emit (dryRun : Bool) (op : Operation) : Action Outcome := do
  if dryRun then return .skipped
  else if ← Disk.look op.isDone then return .unchanged
  else
    Disk.write op.target op.bytes
    return .written

end Operation

end CodeStencil
