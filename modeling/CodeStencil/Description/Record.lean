/-
  CodeStencil/Description/Record.lean
  ===================================
  **Records** — descriptions whose fields are declared in the configuration. They have no elements.
-/
import CodeStencil.Config.RecordSchema
import CodeStencil.Description.Entity
import CodeStencil.Description.Source

namespace CodeStencil.RecordSchema

/-- The texts of a list that holds nothing else. -/
def texts? : Json.Value → Option (List String)
  | .array items => items.mapM Json.Value.asString?
  | _ => none

/-- The binding that a declared field gives to a value. -/
def Field.bind (f : Field) (name : String) (v : Json.Value) : Except DescriptionProblem Binding :=
  match f.type with
  | .string =>
    match v.asString? with
    | some s => .ok (.text s)
    | none => .error (.notAText name)
  | .list =>
    match texts? v with
    | none => .error (.notAList name)
    | some items =>
      match f.listRule with
      | some .mergeWithNewline => .ok (.text (String.intercalate "\n" items))
      | some .metaAttributes => .ok (.list items)
      | none => .error (.noListRule name)

/-- What has been made of the fields so far. -/
structure Progress where
  dictionary : Dictionary
  flags : List String

/-- The flags that a field adds. -/
def Field.flags (f : Field) (b : Binding) : List String :=
  match b, f.listRule with
  | .list items, some .metaAttributes => items
  | _, _ => []

/-- Binds the derived placeholders of a text, and then the placeholder itself. -/
def Field.bindAll (f : Field) (placeholder : String) (b : Binding) (d : Dictionary) : Dictionary :=
  let derived := match b with
    | .text s => f.derived.entries.map fun e => (e.1, Binding.text (e.2.apply s))
    | .list _ => []
  (d.insertAll derived).insert placeholder b

/-- The value of a member; `null` counts as absent. -/
def present? (members : List (String × Json.Value)) (name : String) : Option Json.Value :=
  match members.lookup name with
  | none | some .null => none
  | some v => some v

/-- Takes one declared field into account. A field without a placeholder has no effect. -/
def step (description : String) (members : List (String × Json.Value)) (p : Progress)
    (declared : String × Field) : Except Error Progress :=
  let (name, f) := declared
  match f.placeholder with
  | none => .ok p
  | some placeholder =>
    match present? members name with
    | none => if f.isOptional then .ok p else .error (.missingField description name)
    | some v => do
      let b ← (f.bind name v).mapError (Error.invalidDescription description)
      return ⟨f.bindAll placeholder b p.dictionary, p.flags ++ f.flags b⟩

/-- The placeholders made from the file name. -/
def nameDictionary (s : RecordSchema) (stem : String) : Dictionary :=
  Table.ofList (s.fileName.entries.map fun e => (e.1, Binding.text (e.2.apply stem)))

def entity (s : RecordSchema) (d : Description) : Except Error Entity :=
  match d.value with
  | .object members => do
    let p ← s.fields.entries.foldlM (step d.stem members) ⟨s.nameDictionary d.stem, []⟩
    return ⟨d.stem, p.flags, p.dictionary, []⟩
  | _ => .error (.invalidDescription d.stem .notAnObject)

end CodeStencil.RecordSchema
