/-
  CodeStencil/Config/AggregateTemplate.lean
  =========================================
  **Aggregate templates** — templates that are rendered once for each of many items, and how the
  results are put together.
-/
import CodeStencil.Error
import CodeStencil.Filter

namespace CodeStencil

/-- A switch of an aggregate template: leave out items whose test field is empty, keep each line
    once, sort the lines. -/
inductive AggregateTemplate.Param where
  | notEmpty
  | removeDuplicates
  | sort
  deriving DecidableEq, Repr

/-- A template to aggregate, with its switches, the filter on items, and the test field. -/
structure AggregateTemplate where
  name : String
  params : List AggregateTemplate.Param
  filter : FlagFilter
  testField : Option String
  deriving DecidableEq, Repr

namespace AggregateTemplate

def named (name : String) : AggregateTemplate := ⟨name, [], .none, none⟩

def hasParam (t : AggregateTemplate) (p : Param) : Bool := t.params.contains p

/-- A test for emptiness needs a field to test. -/
def validate (t : AggregateTemplate) : Except Error Unit :=
  if t.hasParam .notEmpty && t.testField.isNone then .error (.config (.untestedField t.name))
  else .ok ()

def paramNames : List (String × Param) :=
  [("not_empty", .notEmpty), ("remove_duplicates", .removeDuplicates), ("sort", .sort)]

open Json

/-- The fields of the full form that do not belong to the filter. -/
def record : Record (FlagFilter → AggregateTemplate) :=
  (fun name params testField filter => ⟨name, params, filter, testField⟩)
    <$> .required "name" Decode.string
    <*> .withDefault "params" [] (Decode.list (Decode.choice paramNames))
    <*> .withDefault "value_to_empty_test" none (Decode.nullable Decode.string)

def full : Decoder AggregateTemplate := fun d =>
  (record.openDecoder "AggregateTemplate" FlagFilter.record.ofMembers d).map fun p => p.1 p.2

/-- Reads a template: its bare name, or the full form. A value that is neither has one fault,
    whatever is wrong with it. -/
def decoder : Decoder AggregateTemplate := fun d => do
  discard d.value
  match d with
  | .string (some name) => return named name
  | .map _ => (full d).mapError fun _ => .noAlternative "AggregateTemplateEntry"
  | _ => .error (.noAlternative "AggregateTemplateEntry")

end AggregateTemplate

end CodeStencil
