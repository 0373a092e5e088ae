/-
  CodeStencil/Yaml/Node.lean
  ==========================
  **Values of a YAML text** — scalars, lists and maps, and typed views of them. Every scalar may be
  taken as a text, whatever it looks like.
-/
import CodeStencil.Table

namespace CodeStencil.Yaml

/-- A value: a scalar without or with quotes, a list, or a map in the order of the text. -/
inductive Node where
  | plain (text : String)
  | quoted (text : String)
  | list (items : List Node)
  | map (entries : List (String × Node))

namespace Node

variable {α : Type}

def text? : Node → Option String
  | .plain s | .quoted s => some s
  | .list _ | .map _ => none

/-- A scalar that stands for the absence of a value. -/
def isNull : Node → Bool
  | .plain s => ["", "~", "null", "Null", "NULL"].contains s
  | _ => false

def nullable? (f : Node → Option α) (n : Node) : Option (Option α) :=
  if n.isNull then some none else (f n).map some

/-- The items of a list; nothing at all is a list without items. -/
def items? : Node → Option (List Node)
  | .list items => some items
  | .plain "" => some []
  | _ => none

/-- The entries of a map; nothing at all is a map without entries. -/
def entries? : Node → Option (List (String × Node))
  | .map entries => some entries
  | .plain "" => some []
  | _ => none

def list? (f : Node → Option α) (n : Node) : Option (List α) := do (← n.items?).mapM f

def table? (f : Node → Option α) (n : Node) : Option (Table α) := do
  let pairs ← (← n.entries?).mapM fun e => (f e.2).map fun a => (e.1, a)
  some (Table.ofList pairs)

/-- The one of several choices that a scalar names. -/
def choice? (choices : List (String × α)) (n : Node) : Option α := do choices.lookup (← n.text?)

/-- The entries of a record, none of whose fields may be there twice. A list holds the values of the
    fields in their order. -/
def record? (fields : List String) : Node → Option (List (String × Node))
  | .list items => if items.length ≤ fields.length then some (fields.zip items) else none
  | n => do
    let entries ← n.entries?
    let known := (entries.map Prod.fst).filter fields.contains
    if known.eraseDups.length = known.length then some entries else none

def required? (entries : List (String × Node)) (name : String) (f : Node → Option α) :
    Option α := do
  f (← entries.lookup name)

/-- A field that has a value of its own when it is left out. -/
def withDefault? (entries : List (String × Node)) (name : String) (default : α)
    (f : Node → Option α) : Option α :=
  match entries.lookup name with
  | some n => f n
  | none => some default

end Node

end CodeStencil.Yaml
