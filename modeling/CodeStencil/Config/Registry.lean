/-
  CodeStencil/Config/Registry.lean
  ================================
  **The generator registry** — the generators by id and the groups by name, where a registry is
  found, and which generators a selection covers.
-/
import CodeStencil.Files.Disk
import CodeStencil.Json.Decode
import CodeStencil.Json.Reader
import CodeStencil.Yaml.Reader

namespace CodeStencil

inductive GeneratorKind where
  | components
  | enums
  | stringIds
  | schema
  deriving DecidableEq, Repr

namespace GeneratorKind

def names : List (String × GeneratorKind) :=
  [("components", .components), ("enums", .enums), ("string_ids", .stringIds), ("schema", .schema)]

/-- All kinds work on descriptions but that of literals, which scans sources. -/
def needsDescriptions : GeneratorKind → Bool
  | .stringIds => false
  | .components | .enums | .schema => true

end GeneratorKind

/-- The settings of a generator. Templates lie relative to its configuration; all else lies relative
    to the working folder. -/
structure GeneratorConfig where
  kind : GeneratorKind
  configs : Path
  templates : Path
  descriptions : Option Path
  output : Path
  sources : Option Path
  pattern : Option String
  exclude : List String
  deriving DecidableEq, Repr

structure GeneratorPaths where
  configs : Path
  templates : Path
  descriptions : Option Path
  output : Path
  sources : Path
  deriving DecidableEq, Repr

namespace GeneratorConfig

/-- Where templates are if nothing else is configured. -/
def defaultTemplates : Path := ⟨"templates"⟩

/-- Where sources are below the output folder if nothing else is configured. -/
def defaultSources : String := "src"

/-- Descriptions are there where they are needed, and only a generator of literals scans sources. -/
def validate (c : GeneratorConfig) (id : String) : Except Error Unit :=
  if c.kind.needsDescriptions && c.descriptions.isNone then
    .error (.config (.noDescriptionsFolder id))
  else if c.kind != .stringIds && (c.sources.isSome || c.pattern.isSome || !c.exclude.isEmpty) then
    .error (.config (.cannotScan id))
  else .ok ()

/-- The folders as seen from a working folder. -/
def resolve (c : GeneratorConfig) (working : Path) : GeneratorPaths :=
  let configs := working.join c.configs
  let output := working.join c.output
  { configs
    templates := configs.join c.templates
    descriptions := c.descriptions.map working.join
    output
    sources := match c.sources with
      | some folder => working.join folder
      | none => output / defaultSources }

open Json in
def path : Decoder Path := fun d => (Decode.path d).map Path.mk

open Json in
def record : Record GeneratorConfig :=
  GeneratorConfig.mk
    <$> .required "kind" (Decode.choice GeneratorKind.names)
    <*> .required "configs_dir" path
    <*> .withDefault "templates_dir" defaultTemplates path
    <*> .withDefault "descriptions_dir" none (Decode.nullable path)
    <*> .required "output_dir_base" path
    <*> .withDefault "sources_dir" none (Decode.nullable path)
    <*> .withDefault "string_literal_pattern" none (Decode.nullable Decode.string)
    <*> .withDefault "exclude" [] (Decode.list Decode.string)

def decoder : Json.Decoder GeneratorConfig := record.decoder "GeneratorConfig"

open Yaml.Node in
def ofYaml? (n : Yaml.Node) : Option GeneratorConfig := do
  let path (n : Yaml.Node) : Option Path := n.text?.map Path.mk
  let entries ← n.record? (record.fields.map (·.name))
  some {
    kind := ← required? entries "kind" (choice? GeneratorKind.names)
    configs := ← required? entries "configs_dir" path
    templates := ← withDefault? entries "templates_dir" defaultTemplates path
    descriptions := ← withDefault? entries "descriptions_dir" none (nullable? path)
    output := ← required? entries "output_dir_base" path
    sources := ← withDefault? entries "sources_dir" none (nullable? path)
    pattern := ← withDefault? entries "string_literal_pattern" none (nullable? text?)
    exclude := ← withDefault? entries "exclude" [] (list? text?) }

end GeneratorConfig

/-- Generators by id, and groups of ids by name. -/
structure Registry where
  generators : Table GeneratorConfig
  groups : Table (List String)
  deriving DecidableEq

inductive Selection where
  | all
  | generator (id : String)
  | group (name : String)
  deriving DecidableEq, Repr

namespace Registry

open Json in
def record : Record Registry :=
  Registry.mk
    <$> .required "generators" (Decode.table GeneratorConfig.decoder)
    <*> .withDefault "groups" ∅ (Decode.table (Decode.list Decode.string))

def ofJson (text : String) : Except Error Registry :=
  (Json.decode (record.decoder "GeneratorsConfig") text).mapError Error.json

open Yaml.Node in
def ofNode? (n : Yaml.Node) : Option Registry := do
  let entries ← n.record? (record.fields.map (·.name))
  some {
    generators := ← required? entries "generators" (table? GeneratorConfig.ofYaml?)
    groups := ← withDefault? entries "groups" ∅ (table? (list? text?)) }

def ofYaml (text : String) : Except Error Registry :=
  match (Yaml.parse? text).bind ofNode? with
  | some r => .ok r
  | none => .error .yaml

/-! ### Validation -/

/-- All generators have valid settings; the first one that has not is reported. -/
def validateGenerators : List (String × GeneratorConfig) → Except Error Unit
  | [] => .ok ()
  | (id, c) :: rest => do
    c.validate id
    validateGenerators rest

/-- The first member of a group that is no generator, with its group. -/
def unknownMember? (r : Registry) : Option (String × String) :=
  r.groups.entries.findSome? fun g =>
    (g.2.find? fun id => !r.generators.contains id).map fun id => (g.1, id)

/-- The generators are valid, and the groups hold nothing else. -/
def validate (r : Registry) : Except Error Unit := do
  validateGenerators r.generators.entries
  match r.unknownMember? with
  | some (group, id) => throw (.config (.unknownMember group id))
  | none => return

/-! ### Files -/

/-- Reads a registry file. Its extension tells the format. -/
def load (disk : Disk) (path : Path) : Except Error Registry := do
  if disk.isFile path then
    let text ← disk.readText path
    let r ← match path.extension? with
      | some "yaml" | some "yml" => ofYaml text
      | _ => ofJson text
    r.validate
    return r
  else throw (.fileNotFound path.text)

/-- Finds the registry of a folder and reads it. -/
def find (disk : Disk) (folder : Path) : Except Error (Registry × Path) := do
  match (Error.registryNames.map (folder / ·)).find? disk.holds with
  | some path => return (← load disk path, path)
  | none => throw (.registryNotFound folder.text)

/-! ### Selection -/

def generator (r : Registry) (id : String) : Except Error GeneratorConfig :=
  match r.generators.get? id with
  | some c => .ok c
  | none => .error (.unknownSelection "generator" id r.generators.keys)

def group (r : Registry) (name : String) : Except Error (List String) :=
  match r.groups.get? name with
  | some ids => .ok ids
  | none => .error (.unknownSelection "group" name r.groups.keys)

/-- The ids that a selection covers, in the order in which they run. -/
def select (r : Registry) : Selection → Except Error (List String)
  | .all => .ok r.generators.keys
  | .generator id => do
    discard (r.generator id)
    return [id]
  | .group name => r.group name

end Registry

end CodeStencil
