/-
  CodeStencil/Template/Basic.lean
  ===============================
  **Templates** — texts with named placeholders, which a dictionary fills. What a placeholder is
  bound to is never looked at for placeholders again.
-/
import CodeStencil.Dictionary
import CodeStencil.Error

namespace CodeStencil

/-- A part of a template: text as it is, or a placeholder. -/
inductive Template.Segment where
  | literal (text : List Char)
  | placeholder (name : String)
  deriving DecidableEq, Repr

structure Template where
  name : String
  segments : List Template.Segment
  deriving DecidableEq, Repr

namespace Template

/-! ### Segments -/

/-- Puts a character before segments; it joins a literal that comes first. -/
def consChar (c : Char) : List Segment → List Segment
  | .literal text :: rest => .literal (c :: text) :: rest
  | rest => .literal [c] :: rest

def segmentsOf : List Token → List Segment
  | [] => []
  | .char c :: rest => consChar c (segmentsOf rest)
  | .openBrace :: rest => consChar '\x7b' (segmentsOf rest)
  | .closeBrace :: rest => consChar '\x7d' (segmentsOf rest)
  | .placeholder name :: rest => .placeholder (String.ofList name) :: segmentsOf rest

def readSegments (text : String) : Except Problem (List Segment) :=
  (tokens 0 text.toList).map segmentsOf

/-- The template of this name that a text denotes. -/
def parse (name text : String) : Except Error Template :=
  match readSegments text with
  | .ok segments => .ok ⟨name, segments⟩
  | .error problem => .error (.malformedTemplate name problem)

/-! ### Placeholders and rendering -/

/-- The name of a segment that is a placeholder. -/
def Segment.name? : Segment → Option String
  | .literal _ => none
  | .placeholder name => some name

/-- The names of the placeholders, each once, in the order of their first appearance. -/
def placeholders (t : Template) : List String := (t.segments.filterMap Segment.name?).eraseDups

/-- The text of a segment of the template of this name. -/
def Segment.render (template : String) (d : Dictionary) : Segment → Except Error String
  | .literal text => .ok (String.ofList text)
  | .placeholder name =>
    match d.get? name with
    | some b => .ok b.display
    | none => .error (.unboundPlaceholder template name)

/-- The text of a template with every placeholder replaced by what it is bound to. The first name
    that is not bound is the error. -/
def render (t : Template) (d : Dictionary) : Except Error String :=
  (t.segments.mapM (Segment.render t.name d)).map String.join

/-- Parses and renders a text, which is named by itself in errors. -/
def renderText (text : String) (d : Dictionary) : Except Error String := do
  (← parse text text).render d

end Template

end CodeStencil
