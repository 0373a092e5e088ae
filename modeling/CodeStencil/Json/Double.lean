/-
  CodeStencil/Json/Double.lean
  ============================
  **Numbers of 64 bits in floating point** — a finite double is a sign and a
  mantissa times a power of two. Rounding is exact: a quotient of naturals goes to the nearest
  double, a tie to the even mantissa. The shortest text is searched on the decimal grids of one,
  two, … digits: the first grid with a point that reads back wins.
-/

namespace CodeStencil.Json

/-- The double `± mantissa · 2 ^ exponent`. The mantissa has at most 53 bits, and fewer only at the
    least exponent. -/
structure Double where
  negative : Bool
  mantissa : Nat
  exponent : Int
  deriving DecidableEq, Repr

namespace Double

def minExponent : Int := -1074

def maxExponent : Int := 971

def zero (negative : Bool) : Double := ⟨negative, 0, minExponent⟩

/-- The natural number nearest to `num / den`, a tie going to the even one. -/
def roundDiv (num den : Nat) : Nat :=
  let q := num / den
  let r := num % den
  if den < 2 * r || (2 * r == den && q % 2 == 1) then q + 1 else q

/-- The fraction `num / den · 2 ^ (-e)` with natural numerator and denominator. -/
def scaleDown (num den : Nat) (e : Int) : Nat × Nat :=
  if 0 ≤ e then (num, den * Nat.pow 2 e.toNat) else (num * Nat.pow 2 (-e).toNat, den)

/-- The mantissa and exponent nearest to `num / den` at exponent `e`, carried to the next exponent
    when rounding gives one bit too many. -/
def roundAt (num den : Nat) (e : Int) : Nat × Int :=
  let (n, d) := scaleDown num den e
  let m := roundDiv n d
  if m == Nat.pow 2 53 then (Nat.pow 2 52, e + 1) else (m, e)

/-- The least exponent at which `num / den` has no more than 53 bits. -/
def fittingExponent (num den : Nat) : Int :=
  let e := max minExponent ((num.log2 : Int) - (den.log2 : Int) - 53)
  let (n, d) := scaleDown num den e
  if n / d < Nat.pow 2 53 then e else e + 1

/-- The double nearest to `± num / den`; none if it is too large for a finite one. -/
def ofQuotient (negative : Bool) (num den : Nat) : Option Double :=
  if num = 0 then some (zero negative)
  else
    let (m, e) := roundAt num den (fittingExponent num den)
    if maxExponent < e then none else some ⟨negative, m, e⟩

/-- The absolute value as a quotient of naturals. -/
def toQuotient (d : Double) : Nat × Nat :=
  if 0 ≤ d.exponent then (d.mantissa * Nat.pow 2 d.exponent.toNat, 1)
  else (d.mantissa, Nat.pow 2 (-d.exponent).toNat)

/-- The power of ten as a double, for exponents up to 308. -/
def powerOfTen (k : Nat) : Double := (ofQuotient false (Nat.pow 10 k) 1).getD (zero false)

/-- The rounded product; none if it is too large. -/
def times (a b : Double) : Option Double :=
  let (an, ad) := a.toQuotient
  let (bn, bd) := b.toQuotient
  ofQuotient (a.negative != b.negative) (an * bn) (ad * bd)

/-- The rounded quotient of `a` by a positive `b` of at least one. -/
def dividedBy (a b : Double) : Double :=
  let (an, ad) := a.toQuotient
  let (bn, bd) := b.toQuotient
  (ofQuotient a.negative (an * bd) (ad * bn)).getD a

/-- Divides by ten `k` times, in rounded steps of at most 308 places. -/
def shiftRight (d : Double) (k : Nat) : Double :=
  if k ≤ 308 then d.dividedBy (powerOfTen k)
  else if d.mantissa = 0 then d
  else shiftRight (d.dividedBy (powerOfTen 308)) (k - 308)
termination_by k

/-- Multiplies by ten `k` times; none if the product is too large. -/
def shiftLeft (d : Double) (k : Nat) : Option Double :=
  if k ≤ 308 then d.times (powerOfTen k)
  else if d.mantissa = 0 then some d
  else none

/-- The double for `± significand · 10 ^ exponent`. The significand is rounded first and then
    scaled, so that the result may miss the nearest double by a place when more than 15 digits or
    a power of ten beyond 22 are involved. -/
def ofDecimal (negative : Bool) (significand : Nat) (exponent : Int) : Option Double := do
  let d ← ofQuotient negative significand 1
  if 0 ≤ exponent then d.shiftLeft exponent.toNat else some (d.shiftRight (-exponent).toNat)

def isIntegral (d : Double) : Bool :=
  let (n, k) := d.toQuotient
  n % k == 0

/-! ### The shortest text -/

/-- The open or closed interval of values that round to the double, as numerators over one
    denominator: value, lower end, upper end, denominator. -/
def roundingInterval (d : Double) : Nat × Nat × Nat × Nat :=
  let (n, k) := d.toQuotient
  -- One unit of the mantissa is `n / mantissa`; the interval reaches half a unit to both sides,
  -- and a quarter below when the next double down has a smaller unit.
  let unit := n / d.mantissa
  let below := if d.mantissa == Nat.pow 2 52 && d.exponent != minExponent then unit else 2 * unit
  (4 * n, 4 * n - below, 4 * n + 2 * unit, 4 * k)

/-- The greatest power of ten that is no more than `num / den`, for a positive quotient within the
    range of doubles. -/
def decimalExponent (num den : Nat) : Int :=
  if den ≤ num then ((Nat.toDigits 10 (num / den)).length : Int) - 1
  else match (List.range 400).find? fun j => decide (den ≤ num * Nat.pow 10 (j + 1)) with
    | some j => -((j : Int) + 1)
    | none => -400

/-- Scales `num / den` so that a unit is `10 ^ e`. -/
def inDecimalUnits (num den : Nat) (e : Int) : Nat × Nat :=
  if 0 ≤ e then (num, den * Nat.pow 10 e.toNat) else (num * Nat.pow 10 (-e).toNat, den)

/-- The point of the grid `10 ^ e` nearest to the double among those that round to it. -/
def gridPoint (d : Double) (e : Int) : Option Nat :=
  let (v, lo, hi, k) := d.roundingInterval
  let (vn, vd) := inDecimalUnits v k e
  let (ln, ld) := inDecimalUnits lo k e
  let (hn, hd) := inDecimalUnits hi k e
  let closed := d.mantissa % 2 == 0
  let reads (c : Nat) : Bool :=
    (if closed then decide (ln ≤ c * ld) else decide (ln < c * ld)) &&
      (if closed then decide (c * hd ≤ hn) else decide (c * hd < hn))
  let c := vn / vd
  let r := vn % vd
  let upFirst := decide (vd < 2 * r) || (2 * r == vd && c % 2 == 1)
  let near := if upFirst then [c + 1, c] else [c, c + 1]
  near.find? fun x => x != 0 && reads x

/-- The digits and the decimal exponent of the shortest text that reads back. -/
def shortest (d : Double) : Nat × Int :=
  let (n, k) := d.toQuotient
  let top := decimalExponent n k
  match (List.range 18).findSome? fun (i : Nat) =>
      (d.gridPoint (top - (i : Int))).map fun c => (c, top - (i : Int)) with
  | some found => found
  | none => (d.mantissa, 0)

/-- The digits of a positive number without the zeros at its end, and how many these were. -/
def withoutZeros (n : Nat) : List Char × Nat :=
  let digits := Nat.toDigits 10 n
  let kept := (digits.reverse.dropWhile (· == '0')).reverse
  (kept, digits.length - kept.length)

/-- Digits with the point after the first `point` of them, filled with zeros where digits are
    missing; there is a digit on both sides of the point. -/
def positional (digits : List Char) (point : Int) : List Char :=
  if point ≤ 0 then
    '0' :: '.' :: List.replicate (-point).toNat '0' ++ digits
  else if digits.length ≤ point.toNat then
    digits ++ List.replicate (point.toNat - digits.length) '0' ++ ['.', '0']
  else digits.take point.toNat ++ '.' :: digits.drop point.toNat

/-- One digit before the point, no point for a single digit, and a signed exponent. -/
def scientific (digits : List Char) (exponent : Int) : List Char :=
  let body := match digits with
    | [] => []
    | [c] => [c]
    | c :: rest => c :: '.' :: rest
  body ++ 'e' :: (if exponent < 0 then '-' else '+') :: Nat.toDigits 10 exponent.natAbs

/-- The text of a double: positional from `10 ^ -5` up to below `10 ^ 16`, else with an exponent. -/
def text (d : Double) : String :=
  let sign := if d.negative then ['-'] else []
  if d.mantissa = 0 then String.ofList (sign ++ ['0', '.', '0'])
  else
    let (n, e) := d.shortest
    let (digits, zeros) := withoutZeros n
    let exponent := e + zeros + digits.length - 1
    if -5 ≤ exponent && exponent ≤ 15 then
      String.ofList (sign ++ positional digits (exponent + 1))
    else String.ofList (sign ++ scientific digits exponent)

end Double

end CodeStencil.Json
