/-
  CodeStencil/Modifier.lean
  =========================
  **Modifiers of texts** — named changes such as `modifier:to_lower`, and chains of them that are
  applied from left to right.
-/
import CodeStencil.Text.Affix
import CodeStencil.Text.Case
import CodeStencil.Text.Digits
import CodeStencil.Text.Lines
import CodeStencil.Text.Naming

namespace CodeStencil

inductive Modifier where
  | toLower
  | toUpper
  | lowerFirst
  | snakeCase
  | pascalCase
  | removeSuffix (suffix : String)
  deriving DecidableEq, Repr

namespace Modifier

/-- The changed text. A suffix that is not there changes nothing. -/
def apply : Modifier → String → String
  | .toLower, s => Text.toLower s
  | .toUpper, s => Text.toUpper s
  | .lowerFirst, s => Text.lowerFirst s
  | .snakeCase, s => Text.snakeCase s
  | .pascalCase, s => Text.pascalCase s
  | .removeSuffix suffix, s => Text.withoutEnd suffix s

/-! ### Written form -/

/-- Why an entry is no modifier: it has not the form of one, it has more than one argument, or no
    modifier of this name takes so many arguments. -/
inductive Fault where
  | malformed (entry : String)
  | tooManyArguments (entry : String)
  | unknown (name : String) (arity : Nat)
  deriving DecidableEq, Repr

def Fault.message : Fault → String
  | .malformed entry => "Modifier '" ++ entry ++ "' does not start with 'modifier:'."
  | .tooManyArguments entry => "Modifier '" ++ entry ++ "' has too many arguments."
  | .unknown name arity =>
    "Unknown modifier '" ++ name ++ "' taking " ++ Text.decimal arity ++ " arguments."

/-- What every entry begins with. -/
def lead : List Char := "modifier:".toList

/-- The arguments between the parentheses: none if there is only white space, else the texts
    between commas, without white space at their ends. -/
def arguments (inner : List Char) : List (List Char) :=
  if (Text.trimBlank inner).isEmpty then [] else (Text.splitAt ',' inner).map Text.trimBlank

/-- The name and the arguments of an entry after its lead; none if the parentheses do not match.
    The first opening parenthesis ends the name, and its partner is the last character. -/
def nameAndArguments? (body : List Char) : Option (List Char × List (List Char)) :=
  match body.dropWhile (· != '(') with
  | _ :: rest =>
    (Text.beforeWord? [')'] rest).map fun inner => (body.takeWhile (· != '('), arguments inner)
  | [] => if body.getLast? = some ')' then none else some (body, [])

/-- The modifier of this name with these arguments. -/
def ofName? (name : List Char) (args : List (List Char)) : Option Modifier :=
  match String.ofList name, args with
  | "to_lower", [] => some .toLower
  | "to_upper", [] => some .toUpper
  | "lower_first", [] => some .lowerFirst
  | "snake_case", [] => some .snakeCase
  | "pascal_case", [] => some .pascalCase
  | "remove_suffix", [suffix] => some (.removeSuffix (String.ofList suffix))
  | _, _ => none

def parse (entry : String) : Except Fault Modifier :=
  match Text.afterWord? lead entry.toList with
  | none => .error (.malformed entry)
  | some body =>
    match nameAndArguments? body with
    | none => .error (.malformed entry)
    | some (name, args) =>
      if 1 < args.length then .error (.tooManyArguments entry)
      else match ofName? name args with
        | some m => .ok m
        | none => .error (.unknown (String.ofList name) args.length)

/-! ### Chains -/

/-- Modifiers in the order of their application. -/
abbrev Chain := List Modifier

namespace Chain

/-- The chain that the entries denote; the first bad entry decides about the fault. -/
def parse (entries : List String) : Except Fault Chain := entries.mapM Modifier.parse

def apply (chain : Chain) (s : String) : String := chain.foldl (fun s m => m.apply s) s

end Chain

end Modifier

end CodeStencil
