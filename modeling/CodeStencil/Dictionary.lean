/-
  CodeStencil/Dictionary.lean
  ===========================
  **Placeholder dictionaries** — what the placeholders of a template are bound to, in the order in
  which they were bound.
-/
import CodeStencil.Json.Value
import CodeStencil.Table

namespace CodeStencil

/-- What a placeholder is bound to: one text, or a list of texts. -/
inductive Binding where
  | text (s : String)
  | list (items : List String)
  deriving DecidableEq, Repr

namespace Binding

/-- An item of a list: a string stands for itself, all else for its JSON text. -/
def itemText : Json.Value → String
  | .string s => s
  | v => v.text

/-- The binding that a JSON value denotes: a string is a text, a sequence a list, `null` the empty
    text, and all else its JSON text. -/
def ofJson : Json.Value → Binding
  | .string s => .text s
  | .null => .text ""
  | .array items => .list (items.map itemText)
  | v => .text v.text

/-- Nothing to show: no text, or a list without items. -/
def isEmpty : Binding → Bool
  | .text s => s.isEmpty
  | .list items => items.isEmpty

/-- The text, unless it is a list. -/
def asText? : Binding → Option String
  | .text s => some s
  | .list _ => none

/-- The list, unless it is a text. -/
def asList? : Binding → Option (List String)
  | .text _ => none
  | .list items => some items

/-- What stands between the items of a list in a template. -/
def listSeparator : String := ", "

/-- What a template shows. -/
def display : Binding → String
  | .text s => s
  | .list items => String.intercalate listSeparator items

end Binding

abbrev Dictionary := Table Binding

namespace Dictionary

/-- The text a name is bound to, unless it is a list. -/
def text? (d : Dictionary) (key : String) : Option String := (d.get? key).bind Binding.asText?

end Dictionary

end CodeStencil
