/-
  CodeStencil/Json/Fault.lean
  ===========================
  **What is wrong with a JSON text** — it is no JSON, or it is JSON of another shape
  than the reader asked for.
-/
import CodeStencil.Json.Value
import CodeStencil.Text.Printable

namespace CodeStencil.Json

inductive Found where
  | null
  | bool (b : Bool)
  | number (n : Number)
  | string (s : String)
  | sequence
  | map
  deriving DecidableEq, Repr

/-- How the wording of a fault calls what was found. -/
def Found.text : Found → String
  | .null => "null"
  | .bool b => if b then "boolean `true`" else "boolean `false`"
  | .number (.integer n) => "integer `" ++ Number.integerText n ++ "`"
  | .number (.double d) => "floating point `" ++ d.text ++ "`"
  | .string s => "string " ++ Text.quoted s
  | .sequence => "sequence"
  | .map => "map"

def Value.found : Value → Found
  | .null => .null
  | .bool b => .bool b
  | .number n => .number n
  | .string s => .string s
  | .array _ => .sequence
  | .object _ => .map

/-- Why a text was refused. `malformed` says that it is no JSON; all others are about its shape.
    `surplus` is a sequence of that length with more items than the record has fields. -/
inductive Fault where
  | malformed
  | missingField (name : String)
  | duplicateField (name : String)
  | unknownVariant (name : String) (known : List String)
  | wrongType (found : Found) (expected : String)
  | wrongLength (length : Nat) (expected : String)
  | surplus (length : Nat)
  | noAlternative (type : String)
  | refused (reason : String)
  deriving DecidableEq, Repr

namespace Fault

/-- A list of choices: `a` or `b` for two, and one of all for more. -/
def choices (known : List String) : String :=
  match known with
  | [] => "there are no variants"
  | [a] => "expected `" ++ a ++ "`"
  | [a, b] => "expected `" ++ a ++ "` or `" ++ b ++ "`"
  | _ => "expected one of " ++ String.intercalate ", " (known.map fun k => "`" ++ k ++ "`")

/-- The wording of a fault of shape. There is none for a text that is no JSON. -/
def message? : Fault → Option String
  | .malformed => none
  | .missingField name => some ("missing field `" ++ name ++ "`")
  | .duplicateField name => some ("duplicate field `" ++ name ++ "`")
  | .unknownVariant name known => some ("unknown variant `" ++ name ++ "`, " ++ choices known)
  | .wrongType found expected => some ("invalid type: " ++ found.text ++ ", expected " ++ expected)
  | .wrongLength length expected =>
    some ("invalid length " ++ Text.decimal length ++ ", expected " ++ expected)
  | .surplus length =>
    some ("invalid length " ++ Text.decimal length ++ ", expected fewer elements in array")
  | .noAlternative type => some ("data did not match any variant of untagged enum " ++ type)
  | .refused reason => some reason

end Fault

end CodeStencil.Json
