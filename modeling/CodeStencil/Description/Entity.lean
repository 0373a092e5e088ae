/-
  CodeStencil/Description/Entity.lean
  ===================================
  **Entities** — what generators work on, whatever kind of description it was made of.
-/
import CodeStencil.Dictionary

namespace CodeStencil

/-- A part of an entity that templates can be rendered for. -/
structure Element where
  name : String
  flags : List String
  dictionary : Dictionary
  deriving DecidableEq

/-- A named thing with flags, placeholders and elements. -/
structure Entity where
  name : String
  flags : List String
  dictionary : Dictionary
  elements : List Element
  deriving DecidableEq

end CodeStencil
