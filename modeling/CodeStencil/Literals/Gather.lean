/-
  CodeStencil/Literals/Gather.lean
  ================================
  **Literals in sources** — what a pattern finds in the files below a folder, file by file in the
  order of their names.
-/
import CodeStencil.Files.Disk
import CodeStencil.Literals.Exclusion
import CodeStencil.Pattern.Reader

namespace CodeStencil.Literals

/-- Locations in the order of their names: the whole of a folder comes before what follows it. -/
def before : Location → Location → Bool
  | [], _ => true
  | _ :: _, [] => false
  | a :: as, b :: bs => if a = b then before as bs else decide (a ≤ b)

/-- The names that lead from a folder to the files below it, in order. A file is below itself. -/
def below (disk : Disk) (loc : Location) : List (Location × ByteArray) :=
  (disk.files.filterMap fun f =>
    if loc.isPrefixOf f.1 then some (f.1.drop loc.length, f.2) else none).mergeSort
    fun a b => before a.1 b.1

/-- The paths that lead from a root along names: the root itself, and one for each name. -/
def pathsAlong (root : Path) : List String → List Path
  | [] => [root]
  | name :: rest => root :: pathsAlong (root / name) rest

/-- Neither the file nor any folder on the way to it is excluded. -/
def isScanned (e : Exclusion) (root : Path) (names : List String) : Bool :=
  (pathsAlong root names).all fun p => !e.excludes p

/-- What a pattern captures in a file; nothing if the file is not well-formed UTF-8. -/
def capturesIn (capture : String → List String) (bytes : ByteArray) : List String :=
  match String.fromUTF8? bytes with
  | some text => capture text
  | none => []

/-- The literals in the files below a folder, each once, in the order in which they are found. On a
    disk every folder can be listed, so the walk fails only if there is nothing at the root. -/
def gather (disk : Disk) (root : Path) (capture : String → List String) (e : Exclusion) :
    Except Error (List String) :=
  match disk.locate root with
  | none => .error .walk
  | some loc =>
    if disk.isFileAt loc || disk.isFolderAt loc then
      let scanned := (below disk loc).filter fun f => isScanned e root f.1
      .ok (scanned.flatMap fun f => capturesIn capture f.2).eraseDups
    else .error .walk

/-- How sources mark literals if nothing else is configured. -/
def defaultPattern : String := "\\WSTR_TO_ID\\(\\s*\"([^\"]*)\"\\s*\\)"

/-- The pattern of a text, which has to be well formed. -/
def compile (text : String) : Except Error Pattern :=
  match Pattern.parse? text with
  | some p => .ok p
  | none => .error .pattern

end CodeStencil.Literals
