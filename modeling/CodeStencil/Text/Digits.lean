/-
  CodeStencil/Text/Digits.lean
  ============================
  **Digits** — numbers in decimal and hexadecimal digits of ASCII, written and read.
-/

namespace CodeStencil.Text

/-! ### Writing -/

def decimal (n : Nat) : String := String.ofList (Nat.toDigits 10 n)

/-- A number in base sixteen, in small letters and without leading zeros. -/
def hexadecimal (n : Nat) : String := String.ofList (Nat.toDigits 16 n)

/-! ### Reading -/

def digitValue (c : Char) : Nat := c.toNat - '0'.toNat

def ofDecimal (cs : List Char) : Nat := cs.foldl (fun n c => n * 10 + digitValue c) 0

@[simp] theorem ofDecimal_decimal (n : Nat) : ofDecimal (decimal n).toList = n := by
  have hread : ∀ cs, ofDecimal cs = Nat.ofDigitChars 10 cs 0 := by
    intro cs
    simp only [ofDecimal, digitValue, Nat.ofDigitChars_eq_foldl, Nat.mul_comm]
  rw [hread, decimal, String.toList_ofList]
  exact Nat.ofDigitChars_toDigits (by decide) (by decide)

/-- The value of a hexadecimal digit, of either case. -/
def hexValue? (c : Char) : Option Nat :=
  if c.isDigit then some (digitValue c)
  else if 'a' ≤ c && c ≤ 'f' then some (c.toNat - 'a'.toNat + 10)
  else if 'A' ≤ c && c ≤ 'F' then some (c.toNat - 'A'.toNat + 10)
  else none

/-- The number that hexadecimal digits denote; none if one of the characters is no such digit. -/
def ofHexadecimal? (cs : List Char) : Option Nat :=
  cs.foldlM (fun n c => (hexValue? c).map (n * 16 + ·)) 0

/-- The character with a number, if there is one. -/
def charOf? (n : Nat) : Option Char := if n.isValidChar then some (Char.ofNat n) else none

end CodeStencil.Text
