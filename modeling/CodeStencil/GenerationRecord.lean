/-
  CodeStencil/GenerationRecord.lean
  =================================
  **The record of generated files** — the paths that the last run produced, one in each line of a
  file. What was produced once and is not produced any more gets removed.
-/
import CodeStencil.Files.Disk

namespace CodeStencil

/-- Paths in the order of their first insertion. No two have the same components; the spelling that
    came first stays. -/
structure GenerationRecord where
  paths : List Path
  distinct : (paths.map Path.components).Nodup

namespace GenerationRecord

def empty : GenerationRecord := ⟨[], List.nodup_nil⟩

instance : EmptyCollection GenerationRecord := ⟨empty⟩

/-- A path with the same components is there. -/
def contains (r : GenerationRecord) (p : Path) : Bool :=
  (r.paths.map Path.components).contains p.components

/-- Adds a path unless one with the same components is there. -/
def insert (r : GenerationRecord) (p : Path) : GenerationRecord :=
  if h : p.components ∈ r.paths.map Path.components then r
  else ⟨r.paths ++ [p], by
    rw [List.map_append, List.nodup_append]
    exact ⟨r.distinct, by simp, fun a ha b hb e => h (by simp_all)⟩⟩

/-- The record of paths, of which later repetitions do not count. -/
def ofList (paths : List Path) : GenerationRecord := paths.foldl insert ∅

/-- Same paths in the same order, however they are spelled. -/
def same (r s : GenerationRecord) : Bool :=
  r.paths.map Path.components == s.paths.map Path.components

/-- The paths of a record that another one does not have. -/
def stale (previous current : GenerationRecord) : List Path :=
  previous.paths.filter fun p => !current.contains p

/-! ### The file -/

/-- The text of a record: each path and a line feed. -/
def text (r : GenerationRecord) : String := String.join (r.paths.map fun p => p.text ++ "\n")

/-- The record that a text holds. Empty lines do not count. -/
def ofText (s : String) : GenerationRecord :=
  ofList (((Text.lines s).filter fun line => !line.isEmpty).map Path.mk)

/-- The file of the record in a folder. -/
def pathIn (folder : Path) : Path := folder / "previously_generated_files.txt"

/-- The record in a file; a file that is not there stands for the empty record. -/
def load (file : Path) (disk : Disk) : Except Error GenerationRecord :=
  if disk.isFile file then (disk.readText file).map ofText else .ok ∅

/-- The folder of a file; a bare name lies in the working folder. -/
def folderOf (file : Path) : Path :=
  match file.parent? with
  | some folder => if folder.text.isEmpty then ⟨"."⟩ else folder
  | none => ⟨"."⟩

/-- Writes a record to its file, making the folder if it is missing. A temporary file that takes the
    place of the record once it is complete is one step here (`Disk.put`): nobody sees the temporary
    file, and either all of the record is there or the file is what it was. -/
def persist (file : Path) (r : GenerationRecord) : Action Unit := do
  Disk.createFolders (folderOf file)
  Disk.put file r.text.toUTF8

/-- Removes those of the paths that are files, and tells which these were. -/
def removeFiles : List Path → Action (List Path)
  | [] => return []
  | p :: rest => do
    if (← get).isFile p then
      Disk.remove p
      return p :: (← removeFiles rest)
    else removeFiles rest

/-- Removes what is in the record but not produced any more, and writes the record of what is. The
    file stays untouched when it holds that already. -/
def reconcile (file : Path) (current : GenerationRecord) : Action (List Path) := do
  let previous ← Disk.look (load file)
  let removed ← removeFiles (previous.stale current)
  if !previous.same current || !(← get).isFile file then persist file current
  return removed

end GenerationRecord

end CodeStencil
