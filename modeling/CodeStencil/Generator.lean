/-
  CodeStencil/Generator.lean
  ==========================
  **Generators** — from the settings of a generator to its plan: its configuration and templates are
  read first, then its entities.
-/
import CodeStencil.Config.Registry
import CodeStencil.Description.Component
import CodeStencil.Description.Enumeration
import CodeStencil.Description.Record
import CodeStencil.Literals.Gather
import CodeStencil.Literals.Interned
import CodeStencil.Plan
import CodeStencil.Schema.Reader

namespace CodeStencil

/-- A generator with everything that it reads before its entities. -/
structure Generator where
  id : String
  config : GeneratorConfig
  paths : GeneratorPaths
  bundle : Bundle
  schema : Option Schema
  store : TemplateStore

namespace Generator

def compileSchema (v : Json.Value) : Except Error Schema :=
  match Schema.ofValue? v with
  | some s => .ok s
  | none => .error (.config .invalidSchema)

/-- Reads the configuration and the templates of a generator. -/
def load (disk : Disk) (id : String) (config : GeneratorConfig) (working : Path) :
    Except Error Generator := do
  let paths := config.resolve working
  if !disk.isFolder paths.configs then
    throw (.config (.missingFolder "configs" paths.configs.text))
  let bundle ← Bundle.load disk paths.configs
  let schema ← bundle.descriptionSchema.mapM compileSchema
  let store ← TemplateStore.load disk paths.templates bundle.templateNames
  return { id, config, paths, bundle, schema, store }

def descriptions (disk : Disk) (g : Generator) : Except Error (List Description) :=
  match g.paths.descriptions with
  | some folder => Description.load disk folder g.schema
  | none => .error (.config (.noDescriptionsFolder g.id))

/-- The literals in the sources of a generator, as entities in the order of their fingerprints. -/
def literalEntities (disk : Disk) (g : Generator) : Except Error (List Entity) := do
  let sources := g.paths.sources
  if !disk.isFolder sources then throw (.config (.missingFolder "sources" sources.text))
  let text := g.config.pattern.getD Literals.defaultPattern
  let pattern ← Literals.compile text
  if pattern.groupCount = 0 then throw (.config (.noCaptureGroup text))
  let exclusion ← Exclusion.build sources g.config.exclude
  let literals ← Literals.gather disk sources pattern.captures exclusion
  return (← Literal.intern literals).map Literal.entity

def recordEntities (disk : Disk) (g : Generator) : Except Error (List Entity) :=
  match g.bundle.recordSchema with
  | some s => do (← g.descriptions disk).mapM s.entity
  | none => .error (.fileNotFound (g.paths.configs / Bundle.recordSchemaName).text)

def entities (disk : Disk) (g : Generator) : Except Error (List Entity) :=
  match g.config.kind with
  | .components => do (← g.descriptions disk).mapM (Component.entity g.bundle.optionalFields)
  | .enums => do (← g.descriptions disk).mapM Enumeration.entity
  | .stringIds => g.literalEntities disk
  | .schema => g.recordEntities disk

def operations (disk : Disk) (g : Generator) : Except Error (List Operation) := do
  Plan.Context.plan ⟨g.bundle, g.store, g.paths.output⟩ (← g.entities disk)

/-- The plan of a generator; an error names it. -/
def plan (disk : Disk) (id : String) (config : GeneratorConfig) (working : Path) :
    Except Error (List Operation) :=
  (do (← load disk id config working).operations disk).mapError (Error.inGenerator id)

end Generator

end CodeStencil
