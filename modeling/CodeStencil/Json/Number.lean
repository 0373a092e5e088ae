/-
  CodeStencil/Json/Number.lean
  ============================
  **Numbers of a JSON text** — integers of 64 bits stay integers; a number with a
  fraction or an exponent, a negative zero and an integer out of range are doubles.
-/
import CodeStencil.Json.Double
import CodeStencil.Text.Digits

namespace CodeStencil.Json

inductive Number where
  | integer (n : Int)
  | double (d : Double)
  deriving DecidableEq, Repr

namespace Number

/-- The greatest significand that is kept exactly. -/
def maxSignificand : Nat := Nat.pow 2 64 - 1

/-- Takes digits into a significand until the next one would pass 64 bits; gives the significand
    and the number of digits taken. -/
def gather (significand taken : Nat) : List Char → Nat × Nat
  | [] => (significand, taken)
  | c :: rest =>
    let next := significand * 10 + Text.digitValue c
    if maxSignificand < next then (significand, taken) else gather next (taken + 1) rest

/-- The parts of a number: sign, digits before and after the point, and the exponent. -/
structure Parts where
  negative : Bool
  whole : List Char
  fraction : List Char
  exponent : Option Int

/-- What the parts denote; none if the number is too large for a double. -/
def ofParts (p : Parts) : Option Number :=
  let (whole, taken) := gather 0 0 p.whole
  let left := p.whole.length - taken
  match p.fraction, p.exponent, left with
  | [], none, 0 =>
    if !p.negative then some (.integer whole)
    else if whole = 0 || Nat.pow 2 63 < whole then
      (Double.ofQuotient true whole 1).map .double
    else some (.integer (-(whole : Int)))
  | _, _, _ =>
    let (significand, places) := gather whole 0 p.fraction
    let exponent := (left : Int) - places + p.exponent.getD 0
    (Double.ofDecimal p.negative significand exponent).map .double

/-- The digits at the start of the characters, and the rest. -/
def digits (cs : List Char) : List Char × List Char :=
  (cs.takeWhile Char.isDigit, cs.dropWhile Char.isDigit)

/-- The exponent at the start of the characters, if there is one; none if it has no digit. -/
def readExponent (cs : List Char) : Option (Option Int × List Char) :=
  match cs with
  | 'e' :: rest | 'E' :: rest =>
    let (minus, rest) := match rest with
      | '-' :: more => (true, more)
      | '+' :: more => (false, more)
      | more => (false, more)
    match digits rest with
    | ([], _) => none
    | (ds, more) =>
      let n := Text.ofDecimal ds
      some (some (if minus then -(n : Int) else n), more)
  | _ => some (none, cs)

/-- The fraction at the start of the characters, if there is one; none if it has no digit. -/
def readFraction (cs : List Char) : Option (List Char × List Char) :=
  match cs with
  | '.' :: rest =>
    match digits rest with
    | ([], _) => none
    | found => some found
  | _ => some ([], cs)

/-- The parts of the number at the start of the characters, and the rest; none if it is not
    well formed. No zero stands before another digit. -/
def readParts (cs : List Char) : Option (Parts × List Char) := do
  let (negative, cs) := match cs with
    | '-' :: rest => (true, rest)
    | _ => (false, cs)
  let (whole, cs) := digits cs
  match whole with
  | [] => none
  | '0' :: _ :: _ => none
  | _ =>
    let (fraction, cs) ← readFraction cs
    let (exponent, cs) ← readExponent cs
    some (⟨negative, whole, fraction, exponent⟩, cs)

/-- The number at the start of the characters, and the rest. The outer option is none if it is not
    well formed, the inner one if it is too large. -/
def read (cs : List Char) : Option (Option Number × List Char) :=
  (readParts cs).map fun (p, rest) => (ofParts p, rest)

/-- The digits of an integer, with a minus before them if it is negative. -/
def integerText (n : Int) : String :=
  (if n < 0 then "-" else "") ++ Text.decimal n.natAbs

def text : Number → String
  | .integer n => integerText n
  | .double d => d.text

/-- The value as a quotient of an integer by a natural. -/
def toQuotient : Number → Int × Nat
  | .integer n => (n, 1)
  | .double d =>
    let (n, k) := d.toQuotient
    (if d.negative then -(n : Int) else n, k)

/-- The first value is smaller than the second. -/
def less (a b : Number) : Bool :=
  let (an, ad) := a.toQuotient
  let (bn, bd) := b.toQuotient
  decide (an * bd < bn * ad)

/-- The values are equal, however they are written. -/
def same (a b : Number) : Bool := !less a b && !less b a

def isIntegral : Number → Bool
  | .integer _ => true
  | .double d => d.isIntegral

end Number

end CodeStencil.Json
