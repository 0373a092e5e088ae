/-
  CodeStencil/Config/OutputFile.lean
  ==================================
  **Entries of the output plan** — which template makes up a file, where the file goes, and for what
  it is written: each entity, each element, or all entities together.
-/
import CodeStencil.Error
import CodeStencil.Filter

namespace CodeStencil

/-- For what a file is written: once for each entity, for each element of an entity, or for all
    entities together, with the list templates or with the attribute templates. -/
inductive OutputFile.Mode where
  | perDescription
  | perAttribute
  | list
  | attributeList
  deriving DecidableEq, Repr

inductive OutputFile.Flag where
  | perAttribute
  | list
  | attributeList
  deriving DecidableEq, Repr

/-- An entry of the output plan. `folder` is relative to the output folder of the generator, and
    `nameTemplate` is itself a template. -/
structure OutputFile where
  template : String
  folder : String
  nameTemplate : String
  flags : List OutputFile.Flag
  filter : FlagFilter
  deriving DecidableEq, Repr

namespace OutputFile

def mode (f : OutputFile) : Mode :=
  if f.flags.contains .perAttribute then .perAttribute
  else if f.flags.contains .attributeList then .attributeList
  else if f.flags.contains .list then .list
  else .perDescription

/-- The mode puts all entities into one file. -/
def Mode.isAggregated : Mode → Bool
  | .list | .attributeList => true
  | .perDescription | .perAttribute => false

/-- A file for all entities has nothing that a filter could select. -/
def validate (f : OutputFile) : Except Error Unit :=
  if f.mode.isAggregated && (f.filter.whitelist.isSome || f.filter.blacklist.isSome) then
    .error (.config (.filteredList f.template))
  else .ok ()

def flagNames : List (String × Flag) :=
  [("per_attribute", .perAttribute), ("list", .list), ("attribute_list", .attributeList)]

open Json

/-- The fields that do not belong to the filter. -/
def record : Record (FlagFilter → OutputFile) :=
  OutputFile.mk
    <$> .required "template" Decode.string
    <*> .required "output_dir" Decode.string
    <*> .required "name_template" Decode.string
    <*> .withDefault "flags" [] (Decode.list (Decode.choice flagNames))

def decoder : Decoder OutputFile := fun d =>
  (record.openDecoder "FileToGenerate" FlagFilter.record.ofMembers d).map fun p => p.1 p.2

end OutputFile

end CodeStencil
