/-
  CodeStencil/Config/Bundle.lean
  ==============================
  **The configuration of a generator** — everything that is read from its configuration folder.
-/
import CodeStencil.Aggregate
import CodeStencil.Config.AggregateTemplate
import CodeStencil.Config.OutputFile
import CodeStencil.Config.RecordSchema
import CodeStencil.Files.Disk
import CodeStencil.Json.Reader

namespace CodeStencil

/-- The configuration of a generator. Attribute templates are rendered over the elements of an
    entity, list templates over all entities. -/
structure Bundle where
  delimiters : Delimiters
  attributeTemplates : List AggregateTemplate
  listTemplates : List AggregateTemplate
  files : List OutputFile
  optionalFields : Table Json.Value
  descriptionSchema : Option Json.Value
  recordSchema : Option RecordSchema

namespace Bundle

/-! ### Validation -/

/-- Each of the values passes; the first one that does not is reported. -/
def validateAll {α : Type} (validate : α → Except Error Unit) : List α → Except Error Unit
  | [] => .ok ()
  | a :: rest => do
    validate a
    validateAll validate rest

def validate (b : Bundle) : Except Error Unit := do
  validateAll AggregateTemplate.validate (b.attributeTemplates ++ b.listTemplates)
  validateAll OutputFile.validate b.files
  validateAll RecordSchema.validate b.recordSchema.toList

/-- The names of all templates that are referred to, each once. -/
def templateNames (b : Bundle) : List String :=
  ((b.attributeTemplates ++ b.listTemplates).map (·.name) ++ b.files.map (·.template)).eraseDups

def filesOf (b : Bundle) (mode : OutputFile.Mode) : List OutputFile :=
  b.files.filter fun f => f.mode = mode

/-! ### Files -/

/-- Reads typed data off a JSON file that has to be there. -/
def loadJson {α : Type} (disk : Disk) (f : Json.Decoder α) (path : Path) : Except Error α := do
  if disk.isFile path then
    let text ← disk.readText path
    (Json.decode f text).mapError Error.json
  else throw (.fileNotFound path.text)

/-- Reads typed data off a JSON file, if it is there. -/
def loadOptional {α : Type} (disk : Disk) (f : Json.Decoder α) (path : Path) :
    Except Error (Option α) :=
  if disk.holds path then (loadJson disk f path).map some else .ok none

def templateList : Json.Decoder (List AggregateTemplate) :=
  Json.Decode.list AggregateTemplate.decoder

/-- The file of the declared record fields. -/
def recordSchemaName : String := "generator_configuration.json"

/-- Reads and validates the files of a configuration folder. Templates for lists may stand in either
    of two files, of which the first one takes precedence. -/
def load (disk : Disk) (folder : Path) : Except Error Bundle := do
  let delimiters ← loadJson disk (Json.Decode.table Json.Decode.string)
    (folder / "delimiter_dictionary.json")
  let files ← loadJson disk (Json.Decode.list OutputFile.decoder)
    (folder / "files_to_generate.json")
  let attributeTemplates ← loadOptional disk templateList (folder / "attribute_templates.json")
  let componentTemplates ← loadOptional disk templateList (folder / "component_templates.json")
  let listTemplates ← match componentTemplates with
    | some templates => pure (some templates)
    | none => loadOptional disk templateList (folder / "element_templates.json")
  let optionalFields ← loadOptional disk (Json.Decode.table Json.Document.value)
    (folder / "attribute_optional_fields.json")
  let descriptionSchema ← loadOptional disk Json.Document.value
    (folder / "description_schema.json")
  let recordSchema ← loadOptional disk RecordSchema.decoder (folder / recordSchemaName)
  let bundle : Bundle := {
    delimiters
    attributeTemplates := attributeTemplates.getD []
    listTemplates := listTemplates.getD []
    files
    optionalFields := optionalFields.getD ∅
    descriptionSchema
    recordSchema }
  bundle.validate
  return bundle

end Bundle

end CodeStencil
