/-
  CodeStencil/Error.lean
  ======================
  **What can go wrong** — the causes of failure, their classes and their wording.
-/
import CodeStencil.Json.Fault
import CodeStencil.Modifier
import CodeStencil.Schema.Basic
import CodeStencil.Template.Token

namespace CodeStencil

/-- What is wrong with a configuration that could be read. -/
inductive ConfigProblem where
  | untestedField (template : String)
  | filteredList (template : String)
  | listWithoutRule (field : String)
  | textWithRule (field : String)
  | derivedFlags (field : String)
  | noDescriptionsFolder (id : String)
  | cannotScan (id : String)
  | unknownMember (group member : String)
  | invalidSchema
  | emptyFileName (nameTemplate template : String)
  | missingFolder (role path : String)
  | noCaptureGroup (pattern : String)
  deriving DecidableEq, Repr

def ConfigProblem.text : ConfigProblem → String
  | .untestedField t => "template '" ++ t ++ "' uses 'not_empty' without 'value_to_empty_test'"
  | .filteredList t =>
    "file '" ++ t ++ "' is a list file and cannot use 'whitelist' or 'blacklist'; " ++
      "filter its aggregate templates instead"
  | .listWithoutRule f => "list placeholder '" ++ f ++ "' does not have list_placeholder_rule"
  | .textWithRule f => "string placeholder '" ++ f ++ "' cannot have list_placeholder_rule"
  | .derivedFlags f => "meta attribute list '" ++ f ++ "' cannot have derived placeholders"
  | .noDescriptionsFolder id => "generator '" ++ id ++ "' requires 'descriptions_dir'"
  | .cannotScan id =>
    "generator '" ++ id ++ "' is not a string_ids generator and cannot scan sources"
  | .unknownMember g m => "group '" ++ g ++ "' refers to unknown generator '" ++ m ++ "'"
  | .invalidSchema => "invalid description schema"
  | .emptyFileName n t =>
    "name template '" ++ n ++ "' of template '" ++ t ++ "' renders an empty file name"
  | .missingFolder role path => role ++ " directory '" ++ path ++ "' does not exist"
  | .noCaptureGroup p => "string literal pattern '" ++ p ++ "' has no capture group"

inductive DescriptionProblem where
  | shape (fault : Json.Fault)
  | violations (found : List Schema.Violation)
  | notAnObject
  | notAText (field : String)
  | notAList (field : String)
  | noListRule (field : String)

/-- The wording of a problem; none for a text that is no JSON. -/
def DescriptionProblem.text? : DescriptionProblem → Option String
  | .shape fault => fault.message?
  | .violations found => some (String.intercalate "; " (found.map Schema.Violation.text))
  | .notAnObject => some "description is not an object"
  | .notAText f => some ("field '" ++ f ++ "' is not a string")
  | .notAList f => some ("field '" ++ f ++ "' is not a list of strings")
  | .noListRule f => some ("list field '" ++ f ++ "' does not have list_placeholder_rule")

inductive Error where
  | io
  | walk
  | json (fault : Json.Fault)
  | yaml
  | glob
  | pattern
  | registryNotFound (folder : String)
  | fileNotFound (path : String)
  | config (problem : ConfigProblem)
  | templateNotFound (name folder : String)
  | malformedTemplate (name : String) (problem : Template.Problem)
  | unboundPlaceholder (template placeholder : String)
  | modifier (fault : Modifier.Fault)
  | invalidDescription (description : String) (problem : DescriptionProblem)
  | missingField (description field : String)
  | collision (first second : String) (fingerprint : UInt64)
  | unknownSelection (role name : String) (available : List String)
  | generator (id : String) (cause : Error)
  | noFileName (path : String)

namespace Error

/-- Classes of causes: settings, data that does not have its declared shape, literals with one
    fingerprint, and the file system. -/
inductive Kind where
  | configuration
  | validation
  | collision
  | io
  deriving DecidableEq, Repr

/-- The class of a cause. A failing generator has the class of what it failed of. -/
def kind : Error → Kind
  | .io | .walk => .io
  | .invalidDescription .. | .missingField .. => .validation
  | .collision .. => .collision
  | .generator _ cause => cause.kind
  | _ => .configuration

/-- The names of the registry file, in the order in which they are tried. -/
def registryNames : List String := ["generators.json", "generators.yaml", "generators.yml"]

/-- Names one after the other, or the word for none. -/
def listing (names : List String) : String :=
  if names.isEmpty then "none" else String.intercalate ", " names

/-- The wording of a cause; none where it is up to the file system or to another format. -/
def message? : Error → Option String
  | .io | .walk | .yaml | .glob | .pattern => none
  | .json fault => fault.message?.map ("Failed to parse JSON. Original error: " ++ ·)
  | .registryNotFound folder =>
    some ("No generator registry found in '" ++ folder ++ "'. Tried: " ++
      String.intercalate ", " registryNames ++ ".")
  | .fileNotFound path => some ("Required configuration file '" ++ path ++ "' does not exist.")
  | .config .invalidSchema => some ("Configuration error: " ++ ConfigProblem.invalidSchema.text)
  | .config problem => some ("Configuration error: " ++ problem.text ++ ".")
  | .templateNotFound name folder =>
    some ("Template '" ++ name ++ "' not found in '" ++ folder ++ "'.")
  | .malformedTemplate name problem =>
    some ("Template '" ++ name ++ "' is malformed: " ++ problem.text ++ ".")
  | .unboundPlaceholder template placeholder =>
    some ("Template '" ++ template ++ "' references placeholder '" ++ placeholder ++
      "' which is not defined.")
  | .modifier fault => some fault.message
  | .invalidDescription description problem =>
    problem.text?.map fun text => "Description '" ++ description ++ "' is invalid: " ++ text ++ "."
  | .missingField description field =>
    some ("Field '" ++ field ++ "' is required but missing in '" ++ description ++ "'.")
  | .collision first second fingerprint =>
    some ("Hash collision between " ++ first ++ " and " ++ second ++ ": " ++
      Text.decimal fingerprint.toNat)
  | .unknownSelection role name available =>
    some ("Unknown " ++ role ++ " '" ++ name ++ "'. Available: " ++ listing available ++ ".")
  | .generator id cause => cause.message?.map ("Error in generator '" ++ id ++ "': " ++ ·)
  | .noFileName path => some ("Path '" ++ path ++ "' has no valid file name")

/-- Names the generator that failed, unless one is named already. -/
def inGenerator (id : String) : Error → Error
  | .generator inner cause => .generator inner cause
  | cause => .generator id cause

end Error

/-- A description whose reading ended with a fault of shape. -/
def Error.ofShape (description : String) (fault : Json.Fault) : Error :=
  .invalidDescription description (.shape fault)

end CodeStencil
