/-
  CodeStencil/Json/Decode.lean
  ============================
  **Reading typed data off a document** — decoders for texts, lists, tables and choices, and for
  records with named fields. Faults come in the order of the text, except that a missing field is
  noticed at the end of its record.
-/
import CodeStencil.Json.Document
import CodeStencil.Table

namespace CodeStencil.Json

/-- Reads a value of some type off a document. -/
abbrev Decoder (α : Type) := Document → Except Fault α

namespace Decode

variable {α β : Type}

/-- A text; the fault of another kind of value names what was expected. -/
def text (expected : String) : Decoder String
  | .string (some s) => .ok s
  | d => .error (d.mismatch expected)

def string : Decoder String := text "a string"

/-- A text that names a file or a folder. -/
def path : Decoder String := text "path string"

def boolean : Decoder Bool
  | .bool b => .ok b
  | d => .error (d.mismatch "a boolean")

def nullable (f : Decoder α) : Decoder (Option α)
  | .null => .ok none
  | d => (f d).map some

def items (f : Decoder α) : Items → Except Fault (List α)
  | .done => .ok []
  | .broken => .error .malformed
  | .cons d rest => do
    let a ← f d
    return a :: (← items f rest)

def list (f : Decoder α) : Decoder (List α)
  | .seq ds => items f ds
  | .deep (.seq _) => .error .malformed
  | d => .error (d.mismatch "a sequence")

/-- All members of a map, added to a table. -/
def entries (f : Decoder α) (t : Table α) : Members → Except Fault (Table α)
  | .done => .ok t
  | .broken | .cons none _ _ => .error .malformed
  | .cons (some key) d rest => do
    let a ← f d
    entries f (t.insert key a) rest

def table (f : Decoder α) : Decoder (Table α)
  | .map ms => entries f ∅ ms
  | .deep (.map _) => .error .malformed
  | d => .error (d.mismatch "a map")

/-! ### Choices -/

/-- The value of a name that is one of the choices. -/
def named (choices : List (String × α)) (name : String) : Except Fault α :=
  match choices.lookup name with
  | some a => .ok a
  | none => .error (.unknownVariant name (choices.map Prod.fst))

/-- The value `null`, which stands for no data. -/
def nothing : Decoder Unit
  | .null => .ok ()
  | d => .error (d.mismatch "unit")

/-- One of the named choices: its name, or a map from its name to `null`. -/
def choice (choices : List (String × α)) : Decoder α
  | .string (some name) => named choices name
  | .map (.cons (some name) d rest) => do
    let a ← named choices name
    nothing d
    match rest with
    | .done => return a
    | _ => .error .malformed
  | _ => .error .malformed

end Decode

/-! ### Records -/

/-- A field of a record: what its value has to be, and whether it may be left out. -/
structure Field where
  name : String
  optional : Bool
  check : Document → Except Fault Unit

/-- How to read a record: its fields in their order, and the record made of the values found. -/
structure Record (α : Type) where
  fields : List Field
  build : (String → Option Document) → Except Fault α

namespace Record

variable {α β : Type}

instance : Functor Record where
  map g r := ⟨r.fields, fun found => (r.build found).map g⟩

instance : Applicative Record where
  pure a := ⟨[], fun _ => .ok a⟩
  seq g r := ⟨g.fields ++ (r ()).fields, fun found => do
    let h ← g.build found
    let a ← (r ()).build found
    return h a⟩

def required (name : String) (f : Decoder α) : Record α :=
  ⟨[⟨name, false, fun d => (f d).map fun _ => ()⟩], fun found =>
    match found name with
    | some d => f d
    | none => .error (.missingField name)⟩

/-- A field that has a value of its own when it is left out. -/
def withDefault (name : String) (default : α) (f : Decoder α) : Record α :=
  ⟨[⟨name, true, fun d => (f d).map fun _ => ()⟩], fun found =>
    match found name with
    | some d => f d
    | none => .ok default⟩

/-- Takes up a member: its field must be new and its value what the field asks for. -/
def takeUp (field : Field) (d : Document) (found : List (String × Document)) :
    Except Fault (List (String × Document)) :=
  if (found.lookup field.name).isSome then .error (.duplicateField field.name)
  else do
    field.check d
    return (field.name, d) :: found

/-- The members that are fields. All others only have to be well formed. -/
def collect (fields : List Field) (found : List (String × Document)) :
    Members → Except Fault (List (String × Document))
  | .done => .ok found
  | .broken | .cons none _ _ => .error .malformed
  | .cons (some key) d rest =>
    match fields.find? (·.name = key) with
    | some field => do collect fields (← takeUp field d found) rest
    | none => if d.sound then collect fields found rest else .error .malformed

/-- The record in the members of a map. -/
def ofMembers (r : Record α) (ms : Members) : Except Fault α := do
  let found ← collect r.fields [] ms
  r.build fun name => found.lookup name

/-- How many items there are; none where the sequence breaks. -/
def itemCount : Items → Option Nat
  | .done => some 0
  | .broken => none
  | .cons _ rest => (itemCount rest).map (· + 1)

/-- The items as the values of the fields in their order, from the field with this index on. -/
def place (expected : String) (index : Nat) :
    List Field → Items → Except Fault (List (String × Document))
  | [], ds =>
    match itemCount ds with
    | some 0 => .ok []
    | some more => .error (.surplus (index + more))
    | none => .error .malformed
  | _ :: _, .broken => .error .malformed
  | field :: fields, .done =>
    if field.optional then place expected (index + 1) fields .done
    else .error (.wrongLength index expected)
  | field :: fields, .cons d rest => do
    field.check d
    return (field.name, d) :: (← place expected (index + 1) fields rest)

/-- `1 element`, or any other number of them. -/
def elementCount (n : Nat) : String :=
  Text.decimal n ++ (if n = 1 then " element" else " elements")

/-- A record, written as a map or as the sequence of its fields. -/
def decoder (name : String) (r : Record α) : Decoder α
  | .map ms => r.ofMembers ms
  | .seq ds => do
    let expected := "struct " ++ name ++ " with " ++ elementCount r.fields.length
    let found ← place expected 0 r.fields ds
    r.build fun name => found.lookup name
  | .deep _ => .error .malformed
  | d => .error (d.mismatch ("struct " ++ name))

/-! ### Open records, whose other members belong to someone else -/

/-- Parts the members into fields and others. The values of the others have to be readable. -/
def part (fields : List Field) (found : List (String × Document)) :
    Members → Except Fault (List (String × Document) × Members)
  | .done => .ok (found, .done)
  | .broken | .cons none _ _ => .error .malformed
  | .cons (some key) d rest =>
    match fields.find? (·.name = key) with
    | some field => do part fields (← takeUp field d found) rest
    | none => do
      discard d.value
      let (found, others) ← part fields found rest
      return (found, .cons (some key) d others)

/-- A record written as a map; what reads the other members comes after its own fields. -/
def openDecoder (name : String) (r : Record α) (others : Members → Except Fault β) :
    Decoder (α × β)
  | .map ms => do
    let (found, rest) ← part r.fields [] ms
    let a ← r.build fun name => found.lookup name
    let b ← others rest
    return (a, b)
  | .deep (.map _) => .error .malformed
  | d => .error (d.mismatch ("struct " ++ name))

end Record

end CodeStencil.Json
