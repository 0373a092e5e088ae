/-
  CodeStencil/Config/RecordSchema.lean
  ====================================
  **Declared records** — which fields the descriptions of a generator have, and how each of them
  becomes a placeholder.
-/
import CodeStencil.Error
import CodeStencil.Json.Decode

namespace CodeStencil

namespace RecordSchema

inductive FieldType where
  | string
  | list
  deriving DecidableEq, Repr

/-- What becomes of a list: one text with a line for each item, or a list whose items are also the
    flags of the entity. -/
inductive ListRule where
  | mergeWithNewline
  | metaAttributes
  deriving DecidableEq, Repr

/-- A declared field. Without a placeholder it has no effect; `derived` are further placeholders,
    made from its text by modifiers. -/
structure Field where
  placeholder : Option String
  type : FieldType
  isOptional : Bool
  listRule : Option ListRule
  derived : Table Modifier.Chain
  deriving DecidableEq

end RecordSchema

/-- The placeholders made from the file name of a description, and its fields. -/
structure RecordSchema where
  fileName : Table Modifier.Chain
  fields : Table RecordSchema.Field
  deriving DecidableEq

namespace RecordSchema

/-- What contradicts itself in a declared field. -/
def Field.problem? (name : String) (f : Field) : Option ConfigProblem :=
  match f.type, f.listRule with
  | .list, none => if f.placeholder.isSome then some (.listWithoutRule name) else none
  | .string, some _ => some (.textWithRule name)
  | .list, some .metaAttributes => if f.derived.isEmpty then none else some (.derivedFlags name)
  | _, _ => none

/-- No field contradicts itself; the first one that does is reported. -/
def validate (s : RecordSchema) : Except Error Unit :=
  match s.fields.entries.findSome? fun e => e.2.problem? e.1 with
  | some problem => .error (.config problem)
  | none => .ok ()

/-! ### Written form -/

open Json

/-- A chain is written as the list of its entries. -/
def chain : Decoder Modifier.Chain := fun d => do
  let entries ← Decode.list Decode.string d
  (Modifier.Chain.parse entries).mapError fun fault => .refused fault.message

def derived : Record (Table Modifier.Chain) :=
  .withDefault "derived_placeholders" ∅ (Decode.table chain)

def ruleNames : List (String × ListRule) :=
  [("merge_with_newline", .mergeWithNewline), ("meta_attributes", .metaAttributes)]

def fieldRecord : Record Field :=
  Field.mk
    <$> .withDefault "placeholder" none (Decode.nullable Decode.string)
    <*> .required "type" (Decode.choice [("string", .string), ("list", .list)])
    <*> .withDefault "is_optional" false Decode.boolean
    <*> .withDefault "list_placeholder_rule" none (Decode.nullable (Decode.choice ruleNames))
    <*> derived

def record : Record RecordSchema :=
  RecordSchema.mk
    <$> .withDefault "file_name" ∅ (derived.decoder "FileNamePlaceholders")
    <*> .withDefault "description_schema" ∅ (Decode.table (fieldRecord.decoder "FieldSchema"))

def decoder : Decoder RecordSchema := record.decoder "SchemaConfiguration"

end RecordSchema

end CodeStencil
