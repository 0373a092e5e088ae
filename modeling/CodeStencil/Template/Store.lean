/-
  CodeStencil/Template/Store.lean
  ===============================
  **Templates of a folder** — templates are files, which are read before anything is rendered.
-/
import CodeStencil.Files.Disk
import CodeStencil.Template.Basic

namespace CodeStencil

/-- The templates read so far from a folder. -/
structure TemplateStore where
  folder : Path
  templates : Table Template

namespace TemplateStore

def ofFolder (folder : Path) : TemplateStore := ⟨folder, ∅⟩

def path (s : TemplateStore) (name : String) : Path := s.folder / (name ++ ".template")

/-- A text without the line feeds at its end. -/
def withoutFeeds (text : String) : String :=
  String.ofList (Text.dropEndWhile (· == '\n') text.toList)

def notFound (s : TemplateStore) (name : String) : Error := .templateNotFound name s.folder.text

/-- The text in the file of a template, without the line feeds at its end. -/
def readText (s : TemplateStore) (disk : Disk) (name : String) : Except Error String :=
  if disk.isFile (s.path name) then (disk.readText (s.path name)).map withoutFeeds
  else .error (s.notFound name)

/-- The template in its file. -/
def read (s : TemplateStore) (disk : Disk) (name : String) : Except Error Template := do
  Template.parse name (← s.readText disk name)

/-- Reads a template unless it has been read. -/
def add (disk : Disk) (s : TemplateStore) (name : String) : Except Error TemplateStore :=
  if s.templates.contains name then .ok s
  else (s.read disk name).map fun t => { s with templates := s.templates.insert name t }

/-- Reads templates up to the first one that cannot be read. What has been read stays. -/
def preload (disk : Disk) (s : TemplateStore) : List String → TemplateStore × Except Error Unit
  | [] => (s, .ok ())
  | name :: rest =>
    match s.add disk name with
    | .ok s => preload disk s rest
    | .error e => (s, .error e)

/-- The store of a folder with all of these templates. -/
def load (disk : Disk) (folder : Path) (names : List String) : Except Error TemplateStore :=
  let (s, outcome) := preload disk (ofFolder folder) names
  outcome.map fun _ => s

/-- A template that has been read. -/
def get (s : TemplateStore) (name : String) : Except Error Template :=
  match s.templates.get? name with
  | some t => .ok t
  | none => .error (s.notFound name)

end TemplateStore

end CodeStencil
