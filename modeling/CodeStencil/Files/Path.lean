/-
  CodeStencil/Files/Path.lean
  ===========================
  **Paths** — texts that name files and folders. A path is kept as it is spelled; two spellings with
  the same components name the same entry of a record.
-/
import CodeStencil.Error
import CodeStencil.Text.Lines

namespace CodeStencil

structure Path where
  text : String
  deriving DecidableEq, Repr, Inhabited

namespace Path

/-- A part of a path that counts: the root, a dot at the very start, the folder above, or a name. -/
inductive Component where
  | root
  | here
  | above
  | name (s : String)
  deriving DecidableEq, Repr

def parts (p : Path) : List (List Char) := Text.splitAt '/' p.text.toList

def isAbsolute (p : Path) : Bool := p.text.toList.head? = some '/'

/-- What a part stands for; none for empty parts and for dots that are not at the start. -/
def component? (first : Bool) (part : List Char) : Option Component :=
  if part = [] then none
  else if part = ['.'] then (if first then some .here else none)
  else if part = ['.', '.'] then some .above
  else some (.name (String.ofList part))

/-- The components of parts, of which the first one starts the path. -/
def componentsOf : List (List Char) → List Component
  | [] => []
  | first :: rest => (component? true first).toList ++ rest.filterMap (component? false)

def components (p : Path) : List Component :=
  (if p.isAbsolute then [Component.root] else []) ++ componentsOf p.parts

/-- A path taken relative to a folder. An absolute path stands for itself. -/
def join (base p : Path) : Path :=
  if p.isAbsolute then p
  else if base.text.isEmpty || base.text.toList.getLast? = some '/' then ⟨base.text ++ p.text⟩
  else ⟨base.text ++ "/" ++ p.text⟩

instance : HDiv Path String Path := ⟨fun base name => base.join ⟨name⟩⟩

/-- How many parts lead to the last component, that one included; zero if there is none. -/
def countToLast (parts : List (List Char)) : Nat :=
  let counted := parts.zipIdx.filter fun p => (component? (p.2 == 0) p.1).isSome
  match counted.getLast? with
  | some (_, i) => i + 1
  | none => 0

def ofParts (parts : List (List Char)) : Path :=
  ⟨String.ofList (['/'].intercalate parts)⟩

/-- The path before its last component; none if it has no component but the root. -/
def parent? (p : Path) : Option Path :=
  match countToLast p.parts with
  | 0 => none
  | n + 1 =>
    match countToLast (p.parts.take n) with
    | 0 => some ⟨if p.isAbsolute then "/" else ""⟩
    | m => some (ofParts (p.parts.take m))

/-- The name that the path ends with; none if the last component is no name. -/
def fileName? (p : Path) : Option String :=
  match p.components.getLast? with
  | some (.name s) => some s
  | _ => none

/-- A file name in front of its last dot and behind it. A dot at the start parts nothing. -/
def splitName (name : String) : String × Option String :=
  match (Text.splitAt '.' name.toList).reverse with
  | last :: before :: more =>
    let stem := ['.'].intercalate (before :: more).reverse
    if stem = [] then (name, none) else (String.ofList stem, some (String.ofList last))
  | _ => (name, none)

def stem? (p : Path) : Option String := p.fileName?.map fun name => (splitName name).1

def extension? (p : Path) : Option String := p.fileName?.bind fun name => (splitName name).2

/-- The file name without its extension, which has to be there. -/
def stem (p : Path) : Except Error String :=
  match p.stem? with
  | some s => .ok s
  | none => .error (.noFileName p.text)

end Path

end CodeStencil
