/-
  CodeStencil/Files/Disk.lean
  ===========================
  **Files and folders** — the state of a file system: which files there are and what they hold,
  which folders there are, and the folder that relative paths start from.

  There are no links, no permissions, no limits on space or on the length of paths, and no other
  programs that write at the same time. An access fails only for what a path leads to: a folder that
  is missing, a file in the place of a folder or a folder in the place of a file.
-/
import CodeStencil.Files.Path

namespace CodeStencil

/-- The names that lead from the root to a file or folder. -/
abbrev Location := List String

structure Disk where
  files : List (Location × ByteArray)
  folders : List Location
  current : Location

/-- A step that may change the files; changes made before an error stay. -/
abbrev Action (α : Type) := ExceptT Error (StateM Disk) α

namespace Disk

/-- What a file holds. -/
def contentAt? (d : Disk) (loc : Location) : Option ByteArray := d.files.lookup loc

def isFileAt (d : Disk) (loc : Location) : Bool := (d.contentAt? loc).isSome

/-- There is a folder. The root always is one. -/
def isFolderAt (d : Disk) (loc : Location) : Bool := loc.isEmpty || d.folders.contains loc

/-! ### From paths to locations -/

/-- The greatest length of a name, in bytes. -/
def maxNameBytes : Nat := 255

/-- A file or folder may have this name. -/
def isName (name : String) : Bool :=
  name.utf8ByteSize ≤ maxNameBytes && !name.toList.contains (Char.ofNat 0)

/-- Follows parts from a location. Whatever comes before a part has to be a folder; what the last
    part names need not be there. -/
def follow (d : Disk) (loc : Location) : List (List Char) → Option Location
  | [] => some loc
  | part :: rest =>
    if !d.isFolderAt loc then none
    else if part = [] || part = ['.'] then follow d loc rest
    else if part = ['.', '.'] then follow d loc.dropLast rest
    else
      let name := String.ofList part
      if isName name then follow d (loc ++ [name]) rest else none

/-- Where paths of this kind start. -/
def start (d : Disk) (p : Path) : Location := if p.isAbsolute then [] else d.current

/-- The location of a path. The empty path has none. -/
def locate (d : Disk) (p : Path) : Option Location :=
  if p.text.isEmpty then none else d.follow (d.start p) p.parts

def isFile (d : Disk) (p : Path) : Bool := (d.locate p).any d.isFileAt

def isFolder (d : Disk) (p : Path) : Bool := (d.locate p).any d.isFolderAt

def holds (d : Disk) (p : Path) : Bool := d.isFile p || d.isFolder p

/-! ### Reading -/

def read (d : Disk) (p : Path) : Except Error ByteArray :=
  match (d.locate p).bind d.contentAt? with
  | some bytes => .ok bytes
  | none => .error .io

/-- The text of a file, which has to be well-formed UTF-8. -/
def readText (d : Disk) (p : Path) : Except Error String := do
  match String.fromUTF8? (← d.read p) with
  | some s => return s
  | none => throw .io

/-- The names of the files of a folder, in increasing order. -/
def fileNames (d : Disk) (loc : Location) : List String :=
  (d.files.filterMap fun f =>
    if f.1.dropLast = loc then f.1.getLast? else none).mergeSort (· ≤ ·)

/-- The files of a folder, in the order of their names. -/
def listFiles (d : Disk) (p : Path) : Except Error (List Path) :=
  match d.locate p with
  | some loc => if d.isFolderAt loc then .ok ((d.fileNames loc).map (p / ·)) else .error .io
  | none => .error .io

/-- The working folder as a path, which starts at the root. -/
def currentPath (d : Disk) : Path := ⟨"/" ++ "/".intercalate d.current⟩

/-! ### Writing -/

def putAt (d : Disk) (loc : Location) (bytes : ByteArray) : Disk :=
  { d with files := (loc, bytes) :: d.files.filter (·.1 != loc) }

def eraseAt (d : Disk) (loc : Location) : Disk :=
  { d with files := d.files.filter (·.1 != loc) }

def addFolder (d : Disk) (loc : Location) : Disk :=
  if d.isFolderAt loc then d else { d with folders := loc :: d.folders }

/-- Follows parts from a folder and makes the folders that are missing on the way. The flag tells
    whether all of them are there in the end. -/
def makeFolders (d : Disk) (loc : Location) : List (List Char) → Disk × Bool
  | [] => (d, true)
  | part :: rest =>
    if part = [] || part = ['.'] then makeFolders d loc rest
    else if part = ['.', '.'] then makeFolders d loc.dropLast rest
    else
      let name := String.ofList part
      let inner := loc ++ [name]
      if !isName name || d.isFileAt inner then (d, false)
      else makeFolders (d.addFolder inner) inner rest

/-- Writes a file whose folder is there. -/
def put? (d : Disk) (p : Path) (bytes : ByteArray) : Option Disk :=
  match d.locate p with
  | some loc => if d.isFolderAt loc then none else some (d.putAt loc bytes)
  | none => none

def remove? (d : Disk) (p : Path) : Option Disk :=
  match d.locate p with
  | some loc => if d.isFileAt loc then some (d.eraseAt loc) else none
  | none => none

/-- Removes a file, or a folder with all that is in it; a path that names neither has no effect. -/
def removeAll (d : Disk) (p : Path) : Disk :=
  match d.locate p with
  | some loc =>
    { d with
      files := d.files.filter fun f => !loc.isPrefixOf f.1
      folders := d.folders.filter fun f => !loc.isPrefixOf f }
  | none => d

/-- Makes a folder, and those that lead to it. -/
def createFolders (p : Path) : Action Unit := do
  let d ← get
  if !p.text.isEmpty then
    let (d, done) := d.makeFolders (d.start p) p.parts
    set d
    unless done do throw .io

/-- Writes a file into a folder that is there. This is one step: it fails before anything has changed,
    because of what the path leads to, or all of the content is there. Failures by permissions or by
    a full disk do not exist, and so no file is ever written in part. -/
def put (p : Path) (bytes : ByteArray) : Action Unit := do
  match (← get).put? p bytes with
  | some d => set d
  | none => throw .io

/-- Writes a file, making the folders that lead to it. -/
def write (p : Path) (bytes : ByteArray) : Action Unit := do
  match p.parent? with
  | some folder => createFolders folder
  | none => pure ()
  put p bytes

def remove (p : Path) : Action Unit := do
  match (← get).remove? p with
  | some d => set d
  | none => throw .io

/-- Looks at the files without changing them. -/
def look {α : Type} (f : Disk → Except Error α) : Action α := do
  match f (← get) with
  | .ok a => pure a
  | .error e => throw e

end Disk

end CodeStencil
