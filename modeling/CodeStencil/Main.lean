/-
  CodeStencil/Main.lean
  =====================
  **The outer layer** — reads the folder trees that a run may look at, makes the run, and brings the
  folders to the state that the run leaves behind. What happens in a run is decided elsewhere.
-/
import CodeStencil.CommandLine

namespace CodeStencil.Main

/-- The location that an absolute path without links spells. -/
def locationOf (path : String) : Location :=
  ((Path.mk path).components).filterMap fun
    | .name s => some s
    | _ => none

def spell (loc : Location) : String := "/" ++ "/".intercalate loc

/-- The folders that lead to a location, that one included. -/
def chain (loc : Location) : List Location := (List.range loc.length).map fun n => loc.take (n + 1)

/-- Adds the files and folders in a folder. Links are passed over. -/
partial def scan (disk : Disk) (loc : Location) : IO Disk := do
  let folder ← IO.FS.realPath (spell loc)
  let mut disk := disk
  for entry in ← folder.readDir do
    let inner := loc ++ [entry.fileName]
    match (← entry.path.symlinkMetadata).type with
    | .dir => disk ← scan (disk.addFolder inner) inner
    | .file => disk := disk.putAt inner (← IO.FS.readBinFile entry.path)
    | _ => pure ()
  return disk

/-- The location of the folder that a path names, or that holds the file it names. -/
def folderAround? (path : Path) : IO (Option Location) := do
  try
    let real ← IO.FS.realPath path.text
    let loc := locationOf real.toString
    return some (if ← real.isDir then loc else loc.dropLast)
  catch _ => return none

/-- The locations that are inside of no other one. -/
def outermost (locs : List Location) : List Location :=
  locs.eraseDups.filter fun inner => !locs.any fun loc => loc != inner && loc.isPrefixOf inner

/-- What a run may look at: the trees of the working folder and of the places that the arguments
    name. -/
def diskFor (args : Arguments) : IO Disk := do
  let empty : Disk := ⟨[], [], locationOf (← IO.currentDir).toString⟩
  let working := Run.workingFolder args empty
  let named := [args.config, args.caches].filterMap fun p => p.map working.join
  let trees := outermost (← (working :: named).filterMapM folderAround?)
  let disk := (empty.current :: trees).foldl (fun d loc => (chain loc).foldl Disk.addFolder d) empty
  trees.foldlM scan disk

/-- Brings the folders from one state to another. -/
def settle (old new : Disk) : IO Unit := do
  for loc in new.folders do
    unless old.isFolderAt loc do IO.FS.createDirAll (spell loc)
  for (loc, bytes) in new.files do
    unless (old.contentAt? loc).any fun b => decide (b.data = bytes.data) do
      IO.FS.writeBinFile (spell loc) bytes
  for (loc, _) in old.files do
    unless new.isFileAt loc do IO.FS.removeFile (spell loc)

def refuse (r : Arguments.Refusal) : IO Unit :=
  match r with
  | .help | .version => IO.print (CommandLine.refusalText r)
  | _ => IO.eprint (CommandLine.refusalText r)

end CodeStencil.Main

/-- The program: one run, as the arguments ask for it. -/
def main (args : List String) : IO UInt32 := do
  match CodeStencil.Arguments.parse args with
  | .error r =>
    CodeStencil.Main.refuse r
    return (CodeStencil.CommandLine.refusalCode r).toUInt32
  | .ok args =>
    let disk ← CodeStencil.Main.diskFor args
    let done := CodeStencil.CommandLine.finish args disk
    CodeStencil.Main.settle disk done.disk
    IO.print done.out
    IO.eprint done.err
    return done.code.toUInt32
