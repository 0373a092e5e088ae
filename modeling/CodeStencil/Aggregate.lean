/-
  CodeStencil/Aggregate.lean
  ==========================
  **Aggregates** — one template rendered for many items, the results joined by delimiters.

  Delimiters are placeholders that have their text for every item but the last accepted one, for
  which they are empty.
-/
import CodeStencil.Config.AggregateTemplate
import CodeStencil.Template.Basic
import CodeStencil.Text.Lines

namespace CodeStencil

/-- An item that may take part in an aggregate: the name that errors give it, its flags, and its
    dictionaries, the later ones taking precedence. -/
structure Aggregate.Item where
  owner : String
  flags : List String
  layers : List Dictionary

abbrev Delimiters := Table String

namespace Delimiters

def dictionary (ds : Delimiters) : Dictionary := ds.map Binding.text

/-- The delimiters as placeholders for nothing. -/
def emptyDictionary (ds : Delimiters) : Dictionary := ds.map fun _ => Binding.text ""

end Delimiters

namespace AggregateTemplate

/-- An item with these flags and placeholders takes part. The field that is tested for emptiness
    comes first and has to be there; then the filter decides. -/
def accepts (t : AggregateTemplate) (owner : String) (flags : List String) (d : Dictionary) :
    Except Error Bool := do
  if t.hasParam .notEmpty then
    match t.testField with
    | none => throw (.config (.untestedField t.name))
    | some field =>
      match d.get? field with
      | none => throw (.missingField owner field)
      | some b => return !b.isEmpty && t.filter.passes flags
  else return t.filter.passes flags

/-- The lines without repetitions, sorted, or as they are. -/
def processLines (t : AggregateTemplate) (lines : List String) : List String :=
  let distinct := if t.hasParam .removeDuplicates then lines.eraseDups else lines
  if t.hasParam .sort then distinct.mergeSort (· ≤ ·) else distinct

/-- An aggregate whose lines are processed as the switches ask. -/
def postProcess (t : AggregateTemplate) (content : String) : String :=
  if t.hasParam .removeDuplicates || t.hasParam .sort then
    String.intercalate "\n" (t.processLines (Text.pieces content))
  else content

end AggregateTemplate

namespace Aggregate

/-- The dictionaries of the accepted items, in order. -/
def accepted (t : AggregateTemplate) : List Item → Except Error (List Dictionary)
  | [] => .ok []
  | item :: rest => do
    let d := Table.layered item.layers
    let keep ← t.accepts item.owner item.flags d
    let more ← accepted t rest
    return if keep then d :: more else more

/-- The template rendered with each dictionary, the last one without delimiters. -/
def renderAll (template : Template) (delimiters : Delimiters) :
    List Dictionary → Except Error String
  | [] => .ok ""
  | [d] => template.render (d.merge delimiters.emptyDictionary)
  | d :: rest => do
    let text ← template.render (d.merge delimiters.dictionary)
    return text ++ (← renderAll template delimiters rest)

end Aggregate

/-- The aggregate of a template over the items. -/
def aggregate (template : Template) (t : AggregateTemplate) (delimiters : Delimiters)
    (items : List Aggregate.Item) : Except Error String := do
  let ds ← Aggregate.accepted t items
  return t.postProcess (← Aggregate.renderAll template delimiters ds)

end CodeStencil
