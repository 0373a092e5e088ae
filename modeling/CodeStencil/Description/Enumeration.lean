/-
  CodeStencil/Description/Enumeration.lean
  ========================================
  **Enumerations** — descriptions of a list of values, named by their file.
-/
import CodeStencil.Description.Entity
import CodeStencil.Description.Source

namespace CodeStencil.Enumeration

def element (value : String) : Element := ⟨value, [], Table.ofList [("enum_value", .text value)]⟩

def ofValues (name : String) (values : List String) : Entity :=
  ⟨name, [], Table.ofList [("enum_name", .text name), ("enum_values", .list values)],
    values.map element⟩

open Json in
def decoder : Decoder (List String) :=
  (Record.required "values" (Decode.list Decode.string)).decoder "EnumDescription"

def entity (d : Description) : Except Error Entity := do
  return ofValues d.stem (← d.decode decoder)

end CodeStencil.Enumeration
