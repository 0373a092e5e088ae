/-
  CodeStencil/Description/Component.lean
  ======================================
  **Components** — descriptions of a named set of attributes. The component is the entity, and its
  attributes are the elements.
-/
import CodeStencil.Description.Entity
import CodeStencil.Description.Source

namespace CodeStencil

/-- An attribute of a component. `fields` are the members that have no meaning of their own. -/
structure Attribute where
  name : String
  flags : List String
  includes : List String
  fields : List (String × Json.Value)

structure Component where
  description : String
  flags : List String
  attributes : List Attribute

/-- Values for the attributes that do not declare them. -/
abbrev OptionalFields := Table Json.Value

namespace Attribute

def key (field : String) : String := "attribute_" ++ field

def includeLine (file : String) : String := "#include " ++ file

/-- The fields that the attribute declares, with their bindings, in the order of binding. -/
def declared (a : Attribute) : List (String × Binding) :=
  [(key "name", .text a.name), (key "flags", .list a.flags), (key "includes", .list a.includes)] ++
    a.fields.map fun f => (key f.1, Binding.ofJson f.2)

/-- The placeholders that are made from the name and the included files. -/
def derived (a : Attribute) : List (String × Binding) :=
  [(key "name_capital", .text (Text.upperFirst a.name)),
    (key "tolower", .text (Text.toLower a.name)),
    (key "include_full", .text (String.intercalate "\n" (a.includes.map includeLine)))]

/-- The placeholders of an attribute. Optional fields fill what is not bound. -/
def dictionary (a : Attribute) (optional : OptionalFields) : Dictionary :=
  optional.entries.foldl (fun d f => d.insertMissing (key f.1) (Binding.ofJson f.2))
    (Table.ofList (a.declared ++ a.derived))

def element (optional : OptionalFields) (a : Attribute) : Element :=
  ⟨a.name, a.flags, a.dictionary optional⟩

open Json

/-- The members with a meaning of their own. -/
def record : Record (List (String × Json.Value) → Attribute) :=
  Attribute.mk
    <$> .required "name" Decode.string
    <*> .withDefault "flags" [] (Decode.list Decode.string)
    <*> .withDefault "includes" [] (Decode.list Decode.string)

def decoder : Decoder Attribute := fun d =>
  (record.openDecoder "AttributeDescription" Members.values d).map fun p => p.1 p.2

end Attribute

namespace Component

/-- What the name of a description may end with. -/
def nameSuffix : String := "Component"

/-- The name of the component that is described in a file of this stem. -/
def nameOf (stem : String) : String := Text.withoutEnd nameSuffix stem

/-- The placeholders of a component of this name. -/
def dictionary (c : Component) (name : String) : Dictionary :=
  Table.ofList [
    ("component_name", .text (Text.lowerFirst name)),
    ("component_name_capital", .text name),
    ("class_name", .text (name ++ nameSuffix)),
    ("component_tolower", .text (Text.toLower name)),
    ("component_description", .text c.description),
    ("component_flags", .list c.flags)]

open Json in
def record : Record Component :=
  Component.mk
    <$> .required "description" Decode.string
    <*> .withDefault "flags" [] (Decode.list Decode.string)
    <*> .withDefault "attributes" [] (Decode.list Attribute.decoder)

def decoder : Json.Decoder Component := record.decoder "ComponentDescription"

def entity (optional : OptionalFields) (d : Description) : Except Error Entity := do
  let c ← d.decode decoder
  let name := nameOf d.stem
  return ⟨name, c.flags, c.dictionary name, c.attributes.map (Attribute.element optional)⟩

end Component

end CodeStencil
