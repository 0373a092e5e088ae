/-
  CodeStencil/Description/Source.lean
  ===================================
  **Description files** — the JSON values in the files of a folder, checked against a schema.
-/
import CodeStencil.Files.Disk
import CodeStencil.Json.Reader
import CodeStencil.Json.Decode

namespace CodeStencil

/-- A description that was read, under the name of its file without the extension. -/
structure Description where
  stem : String
  path : Path
  value : Json.Value

namespace Description

def extension : String := "json"

def read (disk : Disk) (path : Path) : Except Error Description := do
  let stem ← path.stem
  let text ← disk.readText path
  let value ← (Json.parse text).mapError (Error.ofShape stem)
  return ⟨stem, path, value⟩

def decode {α : Type} (d : Description) (f : Json.Decoder α) : Except Error α :=
  (f (Json.Document.ofValue d.value)).mapError (Error.ofShape d.stem)

/-- The value meets the schema, if there is one. All violations are reported together. -/
def validate (schema : Option Schema) (name : String) (v : Json.Value) : Except Error Unit :=
  match schema.map (·.check v) with
  | none | some [] => .ok ()
  | some found => .error (.invalidDescription name (.violations found))

def readValid (disk : Disk) (schema : Option Schema) (path : Path) : Except Error Description := do
  let d ← read disk path
  validate schema d.stem d.value
  return d

def isDescription (path : Path) : Bool := path.extension? = some extension

/-- The descriptions in a folder, in the order of their file names. Other files are left alone. -/
def load (disk : Disk) (folder : Path) (schema : Option Schema) :
    Except Error (List Description) := do
  if disk.isFolder folder then
    let paths ← disk.listFiles folder
    (paths.filter isDescription).mapM (readValid disk schema)
  else throw (.config (.missingFolder "descriptions" folder.text))

end Description

end CodeStencil
