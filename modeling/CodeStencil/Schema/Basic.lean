/-
  CodeStencil/Schema/Basic.lean
  =============================
  **JSON schemas and their violations** — what a schema asks of a value, and all places where a
  value fails it, in a fixed order.
-/
import CodeStencil.Json.Value

namespace CodeStencil

namespace Schema

/-- The types of values that a schema can name, in the order in which they are listed. -/
inductive TypeName where
  | array | boolean | integer | null | number | object | string
  deriving DecidableEq, Repr

namespace TypeName

/-- All types, in alphabetical order. -/
def all : List TypeName := [.array, .boolean, .integer, .null, .number, .object, .string]

def text : TypeName → String
  | .array => "array"
  | .boolean => "boolean"
  | .integer => "integer"
  | .null => "null"
  | .number => "number"
  | .object => "object"
  | .string => "string"

def ofText? (s : String) : Option TypeName := all.find? (·.text = s)

/-- The value is of the type. A number without a fraction is an integer, however it is written. -/
def admits : TypeName → Json.Value → Bool
  | .array, .array _ => true
  | .boolean, .bool _ => true
  | .integer, .number n => n.isIntegral
  | .null, .null => true
  | .number, .number _ => true
  | .object, .object _ => true
  | .string, .string _ => true
  | _, _ => false

end TypeName

/-- What a schema asks of a value itself. `types` is empty where any type will do. -/
structure Limits where
  types : List TypeName
  options : Option (List Json.Value)
  minimum : Option Json.Number
  minLength : Option Nat
  minItems : Option Nat
  required : List String

end Schema

/-- Whether members without a schema of their own may stand in an object: all, none beside the
    listed properties, or none at all because no properties are listed. -/
inductive Schema.Extra where
  | allowed
  | unexpected
  | never
  deriving DecidableEq, Repr

/-- A schema: one that every value meets, one that none meets, or rules for the value, the members
    and the items. -/
inductive Schema where
  | any
  | never
  | rules (limits : Schema.Limits) (properties : List (String × Schema)) (extra : Schema.Extra)
      (items : Schema)

namespace Schema

/-- What is wrong at one place of a value. -/
inductive Reason where
  | wrongType (value : Json.Value) (types : List TypeName)
  | notAnOption (value : Json.Value) (options : List Json.Value)
  | tooSmall (value : Json.Value) (minimum : Json.Number)
  | tooShort (value : Json.Value) (minimum : Nat)
  | tooFew (value : Json.Value) (minimum : Nat)
  | missing (key : String)
  | unexpected (keys : List String)
  | refused (value : Json.Value)

/-- A reason and the place where it holds: the keys and indices that lead there. -/
structure Violation where
  place : List String
  reason : Reason

/-! ### Wording -/

/-- A number of things, in the plural unless there is one. -/
def counted (n : Nat) (thing : String) : String :=
  Text.decimal n ++ " " ++ thing ++ (if n = 1 then "" else "s")

/-- Options one after the other, the last one after an `or`. -/
def alternatives : List String → String
  | [] => ""
  | [a] => a
  | [a, b] => a ++ " or " ++ b
  | a :: rest => a ++ ", " ++ alternatives rest

/-- Up to three options are all named; of more, the first two and how many others there are. -/
def optionsText (options : List Json.Value) : String :=
  let texts := options.map Json.Value.text
  if texts.length ≤ 3 then alternatives texts
  else String.intercalate ", " (texts.take 2) ++ " or " ++
    Text.decimal (texts.length - 2) ++ " other candidates"

/-- One type, or several in alphabetical order. -/
def typesText (types : List TypeName) : String :=
  let names := (TypeName.all.filter (types.contains ·)).map fun t => Json.Value.quote t.text
  (if names.length = 1 then "type " else "types ") ++ String.intercalate ", " names

def Reason.text : Reason → String
  | .wrongType v types => v.text ++ " is not of " ++ typesText types
  | .notAnOption v options => v.text ++ " is not one of " ++ optionsText options
  | .tooSmall v m => v.text ++ " is less than the minimum of " ++ m.text
  | .tooShort v n => v.text ++ " is shorter than " ++ counted n "character"
  | .tooFew v n => v.text ++ " has less than " ++ counted n "item"
  | .missing key => Json.Value.quote key ++ " is a required property"
  | .unexpected keys =>
    "Additional properties are not allowed (" ++
      String.intercalate ", " (keys.map fun k => "'" ++ k ++ "'") ++
      (if keys.length = 1 then " was" else " were") ++ " unexpected)"
  | .refused v => "False schema does not allow " ++ v.text

/-- A step of a pointer, with its tildes and slashes written as escapes. -/
def escapeStep (step : String) : String :=
  String.join (step.toList.map fun c =>
    if c = '~' then "~0" else if c = '/' then "~1" else c.toString)

/-- A place as a pointer: each step after a slash. -/
def pointer (place : List String) : String :=
  String.join (place.map fun step => "/" ++ escapeStep step)

def Violation.text (v : Violation) : String :=
  v.reason.text ++ " (at '" ++ pointer v.place ++ "')"

/-! ### Checking a value -/

/-- What is wrong with a value itself. Rules for another type than the value's say nothing. -/
def Limits.reasons (limits : Limits) (v : Json.Value) : List Reason :=
  (if limits.types.isEmpty || limits.types.any (·.admits v) then []
    else [.wrongType v limits.types]) ++
  (match limits.options with
    | some options => if options.any (·.same v) then [] else [.notAnOption v options]
    | none => []) ++
  (match limits.minimum, v with
    | some m, .number n => if n.less m then [.tooSmall v m] else []
    | _, _ => []) ++
  (match limits.minLength, v with
    | some n, .string s => if s.length < n then [.tooShort v n] else []
    | _, _ => []) ++
  (match limits.minItems, v with
    | some n, .array items => if items.length < n then [.tooFew v n] else []
    | _, _ => []) ++
  (match v with
    | .object members =>
      (limits.required.filter fun key => (members.lookup key).isNone).map Reason.missing
    | _ => [])

/-- What is wrong with the members that have no schema of their own. -/
def Extra.reasons (extra : Extra) (known : List String) (members : List (String × Json.Value)) :
    List Reason :=
  match extra with
  | .allowed => []
  | .unexpected =>
    match (members.map Prod.fst).filter fun key => !known.contains key with
    | [] => []
    | keys => [.unexpected keys]
  | .never =>
    match members with
    | [] => []
    | (_, v) :: _ => [.refused v]

/-- Members and items of a value; none where the value has no such parts. -/
def membersOf : Json.Value → List (String × Json.Value)
  | .object members => members
  | _ => []

def itemsOf : Json.Value → List Json.Value
  | .array items => items
  | _ => []

mutual

/-- All violations of a value that stands at a place: first its own, then those of its properties
    and of its other members, at last those of its items. -/
def violations (place : List String) (v : Json.Value) : Schema → List Violation
  | .any => []
  | .never => [⟨place, .refused v⟩]
  | .rules limits properties extra items =>
    (limits.reasons v).map (⟨place, ·⟩) ++
      propertyViolations place (membersOf v) properties ++
      (extra.reasons (properties.map Prod.fst) (membersOf v)).map (⟨place, ·⟩) ++
      (itemsOf v).zipIdx.flatMap fun item =>
        violations (place ++ [Text.decimal item.2]) item.1 items

def propertyViolations (place : List String) (members : List (String × Json.Value)) :
    List (String × Schema) → List Violation
  | [] => []
  | (key, schema) :: rest =>
    (match members.lookup key with
      | some v => violations (place ++ [key]) v schema
      | none => []) ++ propertyViolations place members rest

end

def check (schema : Schema) (v : Json.Value) : List Violation := violations [] v schema

end Schema

end CodeStencil
