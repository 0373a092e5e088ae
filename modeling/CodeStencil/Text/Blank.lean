/-
  CodeStencil/Text/Blank.lean
  ===========================
  **White space** — the property White_Space, and texts without it at their ends.
-/
import CodeStencil.Text.Ranges

namespace CodeStencil.Text

/-- White space from U+0080 on. -/
def blankTable : List (Nat × Nat) := [
  (0x85, 0x85), (0xA0, 0xA0), (0x1680, 0x1680), (0x2000, 0x200A), (0x2028, 0x2029),
  (0x202F, 0x202F), (0x205F, 0x205F), (0x3000, 0x3000)]

/-- Tab, line feed, vertical tab, form feed, carriage return and the space. -/
def isAsciiBlank (c : Char) : Bool := (0x9 ≤ c.toNat && c.toNat ≤ 0xD) || c == ' '

def isBlank : Char → Bool := hasProperty isAsciiBlank blankTable

/-- The characters without the last ones that satisfy `p`. -/
def dropEndWhile (p : Char → Bool) (cs : List Char) : List Char :=
  (cs.reverse.dropWhile p).reverse

/-- The characters without white space at either end. -/
def trimBlank (cs : List Char) : List Char := dropEndWhile isBlank (cs.dropWhile isBlank)

end CodeStencil.Text
