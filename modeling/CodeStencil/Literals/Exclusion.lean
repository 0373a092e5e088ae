/-
  CodeStencil/Literals/Exclusion.lean
  ===================================
  **Excluded paths** — which files and folders a scan leaves out: what version control keeps, and
  what the patterns of the configuration match.
-/
import CodeStencil.Files.Path
import CodeStencil.Glob.Reader
import CodeStencil.Text.Blank

namespace CodeStencil

/-- Patterns for paths that are left out. -/
abbrev Exclusion := List Glob

namespace Exclusion

/-- The patterns that always apply. -/
def defaults : List String :=
  [".git/**", ".git", ".hg/**", ".hg", ".svn/**", ".svn", "**/.DS_Store"]

/-- A text without white space at its ends. -/
def trim (s : String) : String := String.ofList (Text.trimBlank s.toList)

/-- Something is written, and it is no comment. -/
def isPattern (s : String) : Bool :=
  match s.toList with
  | [] => false
  | c :: _ => c != '#'

/-- The patterns that count, without white space at their ends. -/
def listed (patterns : List String) : List String :=
  ((defaults ++ patterns).map trim).filter isPattern

/-- The patterns relative to a root. The root is part of each pattern and is read as such. -/
def build (root : Path) (patterns : List String) : Except Error Exclusion :=
  match (listed patterns).mapM fun p => Glob.parse? (root / p).text with
  | some globs => .ok globs
  | none => .error .glob

def excludes (e : Exclusion) (p : Path) : Bool := e.any (·.isMatch p.text)

end Exclusion

end CodeStencil
