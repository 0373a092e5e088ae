/-
  CodeStencil/Text/Ranges.lean
  ============================
  **Sets of code points** — a property of characters is a list of closed
  ranges above the ASCII block, beside a decidable test for the ASCII block itself.

  Every property of this folder is the property of the Unicode standard of that name; its
  table lists the members from U+0080 on, in increasing order.
-/

namespace CodeStencil.Text

/-- The code point of a character lies in one of the ranges (both ends included). -/
def inRanges (ranges : List (Nat × Nat)) (c : Char) : Bool :=
  ranges.any fun r => r.1 ≤ c.toNat && c.toNat ≤ r.2

/-- A property given by its ASCII members and its table for the rest. -/
def hasProperty (ascii : Char → Bool) (table : List (Nat × Nat)) (c : Char) : Bool :=
  if c.toNat < 128 then ascii c else inRanges table c

/-- On ASCII characters the table is not consulted. -/
theorem hasProperty_of_lt {ascii : Char → Bool} {table : List (Nat × Nat)} {c : Char}
    (h : c.toNat < 128) : hasProperty ascii table c = ascii c := by
  simp [hasProperty, h]

end CodeStencil.Text
