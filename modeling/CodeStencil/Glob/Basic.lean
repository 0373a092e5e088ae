/-
  CodeStencil/Glob/Basic.lean
  ===========================
  **Globs** — patterns for whole paths, and which paths they match. Paths are matched byte by byte,
  and no byte is special: a star also runs over slashes.
-/

namespace CodeStencil

/-- A set of bytes: closed ranges, or all bytes outside of them. -/
structure ByteSet where
  negated : Bool
  ranges : List (UInt8 × UInt8)
  deriving DecidableEq, Repr

namespace ByteSet

def contains (s : ByteSet) (b : UInt8) : Bool :=
  (s.ranges.any fun r => r.1 ≤ b && b ≤ r.2) != s.negated

def only (b : UInt8) : ByteSet := ⟨false, [(b, b)]⟩

def all : ByteSet := ⟨true, []⟩

end ByteSet

/-- A pattern: the empty text, one byte of a set, any bytes, one pattern after the other, or either
    of two. -/
inductive Glob where
  | empty
  | byte (set : ByteSet)
  | anything
  | seq (a b : Glob)
  | either (a b : Glob)
  deriving DecidableEq, Repr

namespace Glob

/-- Some end of the text, the whole of it included, satisfies `k`. -/
def someEnd (k : List UInt8 → Bool) : List UInt8 → Bool
  | [] => k []
  | b :: rest => k (b :: rest) || someEnd k rest

/-- The pattern matches a beginning of the text, after which `k` holds of the rest. -/
def matchThen : Glob → (List UInt8 → Bool) → List UInt8 → Bool
  | .empty, k, bs => k bs
  | .byte _, _, [] => false
  | .byte set, k, b :: rest => set.contains b && k rest
  | .anything, k, bs => someEnd k bs
  | .seq a b, k, bs => a.matchThen (b.matchThen k) bs
  | .either a b, k, bs => a.matchThen k bs || b.matchThen k bs

def matchesBytes (g : Glob) (bs : List UInt8) : Bool := g.matchThen List.isEmpty bs

def isMatch (g : Glob) (path : String) : Bool := g.matchesBytes path.toUTF8.data.toList

/-! ### Patterns made of others -/

def sequence (gs : List Glob) : Glob := gs.foldr .seq .empty

/-- A character, as the bytes of its encoding. -/
def char (c : Char) : Glob := sequence ((String.utf8EncodeChar c).map fun b => .byte (.only b))

def slash : Glob := char '/'

/-- Nothing, a slash, or anything up to a slash. -/
def leading : Glob := .either (.either .empty slash) (.seq .anything slash)

def trailing : Glob := .seq slash .anything

/-- A slash, or two with anything between them. -/
def between : Glob := .either slash (.seq slash (.seq .anything slash))

def oneOf : List Glob → Option Glob
  | [] => none
  | g :: gs => some (gs.foldl .either g)

end Glob

end CodeStencil
