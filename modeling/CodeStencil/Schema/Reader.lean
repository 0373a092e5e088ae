/-
  CodeStencil/Schema/Reader.lean
  ==============================
  **Schemas written as JSON** — a value is a schema when each keyword that is read has an argument of
  its own form. Names that are no keywords have no effect.

  Of the keywords of JSON Schema only these are read: `type`, `enum`, `minimum`, `minLength`,
  `minItems`, `required`, `properties`, `items` with one schema for all items, and
  `additionalProperties` with a truth value or an empty schema. Annotations only have to be of their
  own form. A schema with any other keyword of the standard (`unread`) is refused as a whole, rather
  than checked in part: references and dialects, combinations and conditions, all other bounds,
  patterns and formats, and what is said about single items or names of properties.
-/
import CodeStencil.Schema.Basic

namespace CodeStencil.Schema

/-- A natural number; a fraction of zero may be written. -/
def natural? : Json.Value → Option Nat
  | .number (.integer n) => if 0 ≤ n then some n.toNat else none
  | .number (.double d) =>
    let (n, k) := d.toQuotient
    if n % k = 0 && (!d.negative || n = 0) then some (n / k) else none
  | _ => none

/-- All values are texts, and no two are the same. -/
def distinctTexts? (items : List Json.Value) : Option (List String) := do
  let texts ← items.mapM Json.Value.asString?
  if texts.eraseDups.length = texts.length then some texts else none

/-- The types of the keyword `type`: one name, or a list of some. -/
def types? : Json.Value → Option (List TypeName)
  | .string s => (TypeName.ofText? s).map ([·])
  | .array [] => none
  | .array items => do
    let texts ← distinctTexts? items
    texts.mapM TypeName.ofText?
  | _ => none

/-- The argument of a keyword, or a value of its own where the keyword is absent. -/
def keyword {α : Type} (members : List (String × Json.Value)) (key : String) (absent : α)
    (read : Json.Value → Option α) : Option α :=
  match members.lookup key with
  | some v => read v
  | none => some absent

/-- Keywords of the standard that are not read. -/
def unread : List String := [
  "$schema", "$id", "$anchor", "$dynamicAnchor", "$recursiveAnchor", "$vocabulary", "$ref",
  "$dynamicRef", "$recursiveRef", "$defs", "definitions",
  "allOf", "anyOf", "oneOf", "not", "if", "then", "else",
  "dependentSchemas", "dependentRequired", "dependencies",
  "const", "multipleOf", "maximum", "exclusiveMaximum", "exclusiveMinimum",
  "maxLength", "pattern", "format", "contentEncoding", "contentMediaType", "contentSchema",
  "maxItems", "uniqueItems", "prefixItems", "additionalItems", "unevaluatedItems", "contains",
  "minContains", "maxContains",
  "maxProperties", "minProperties", "patternProperties", "propertyNames", "unevaluatedProperties"]

/-- Keywords that say nothing about values, with the form of their arguments. -/
def annotations : List (String × (Json.Value → Bool)) :=
  let isText (v : Json.Value) := v.asString?.isSome
  let isTruth : Json.Value → Bool
    | .bool _ => true
    | _ => false
  let isList : Json.Value → Bool
    | .array _ => true
    | _ => false
  [("title", isText), ("description", isText), ("$comment", isText), ("deprecated", isTruth),
    ("readOnly", isTruth), ("writeOnly", isTruth), ("examples", isList)]

/-- Nothing is there that is not read, and all annotations are of their own form. -/
def isReadable (members : List (String × Json.Value)) : Bool :=
  unread.all (fun key => (members.lookup key).isNone) &&
    annotations.all fun a => (members.lookup a.1).all a.2

/-- The rules for the value itself. -/
def limits? (members : List (String × Json.Value)) : Option Limits := do
  let types ← keyword members "type" [] types?
  let options ← keyword members "enum" none fun
    | .array items => some (some items)
    | _ => none
  let minimum ← keyword members "minimum" none fun
    | .number n => some (some n)
    | _ => none
  let minLength ← keyword members "minLength" none fun v => (natural? v).map some
  let minItems ← keyword members "minItems" none fun v => (natural? v).map some
  let required ← keyword members "required" [] fun
    | .array items => distinctTexts? items
    | _ => none
  some ⟨types, options, minimum, minLength, minItems, required⟩

/-- What is said about other members. -/
def extra? (members : List (String × Json.Value)) : Option Extra :=
  keyword members "additionalProperties" .allowed fun
    | .bool false =>
      some (if (members.lookup "properties").isSome then .unexpected else .never)
    | .bool true | .object [] => some .allowed
    | _ => none

mutual

/-- The schema that a value denotes, if it denotes one. -/
def ofValue? : Json.Value → Option Schema
  | .bool true => some .any
  | .bool false => some .never
  | .object members =>
    if isReadable members then do
      let limits ← limits? members
      let extra ← extra? members
      let (properties, items) ← parts? members
      some (.rules limits properties extra items)
    else none
  | _ => none

/-- The schemas of the properties and of the items among the members of a schema. -/
def parts? : List (String × Json.Value) → Option (List (String × Schema) × Schema)
  | [] => some ([], .any)
  | (key, v) :: rest => do
    let (properties, items) ← parts? rest
    if key = "properties" then
      match v with
      | .object members => some (← properties? members, items)
      | _ => none
    else if key = "items" then some (properties, ← ofValue? v)
    else some (properties, items)

def properties? : List (String × Json.Value) → Option (List (String × Schema))
  | [] => some []
  | (key, v) :: rest => do
    let schema ← ofValue? v
    let more ← properties? rest
    some ((key, schema) :: more)

end

/-- A keyword that is not read is never passed over. -/
theorem ofValue?_of_unread {members : List (String × Json.Value)} {key : String} {v : Json.Value}
    (hkey : key ∈ unread) (h : members.lookup key = some v) : ofValue? (.object members) = none := by
  have hreadable : isReadable members = false := by
    rw [isReadable, Bool.and_eq_false_iff]
    exact Or.inl (List.all_eq_false.2 ⟨key, hkey, by simp [h]⟩)
  simp [ofValue?, hreadable]

end CodeStencil.Schema
