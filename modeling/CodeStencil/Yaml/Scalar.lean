/-
  CodeStencil/Yaml/Scalar.lean
  ============================
  **Scalars of a YAML text** — plain ones, and those between single or double quotes. Inside of
  quotes, a line end counts as a space, and each empty line as a line feed.
-/
import CodeStencil.Text.Blank
import CodeStencil.Text.Digits

namespace CodeStencil.Yaml

def isGap (c : Char) : Bool := c == ' ' || c == '\t' || c == '\r'

/-- White space, a line end or the end of the text comes next. -/
def endsToken : List Char → Bool
  | [] => true
  | c :: _ => isGap c || c == '\n'

/-- Characters that part the items of a flow collection. -/
def isFlowMark (c : Char) : Bool := [',', '[', ']', '\x7b', '\x7d'].contains c

/-- A colon before these characters ends a key. -/
def endsKey (inFlow : Bool) (rest : List Char) : Bool :=
  endsToken rest || (inFlow && rest.head?.any isFlowMark)

/-! ### Plain scalars -/

/-- The characters of a plain scalar up to its end, with the white space before that. -/
def plainChars (inFlow : Bool) : List Char → List Char
  | [] => []
  | c :: rest =>
    if c = '\n' || (c = ':' && endsKey inFlow rest) || (inFlow && isFlowMark c) ||
        (isGap c && rest.head? = some '#') then []
    else c :: plainChars inFlow rest

def beginsPlain (inFlow : Bool) : List Char → Bool
  | [] => false
  | c :: rest =>
    if c == '-' || c == '?' || c == ':' then !endsKey inFlow rest
    else !(isFlowMark c || ['#', '&', '*', '!', '|', '>', '\'', '"', '%', '@'].contains c ||
      c.toNat == 0x60)

def readPlain (inFlow : Bool) (cs : List Char) : Option (String × List Char) :=
  if beginsPlain inFlow cs then
    let chars := plainChars inFlow cs
    some (String.ofList (Text.dropEndWhile isGap chars), cs.drop chars.length)
  else none

/-! ### Quoted scalars -/

/-- Ends a line of a quoted scalar: what has been read, the latest first, loses its white space at
    the end, and the empty lines that follow become line feeds. -/
def foldLine (done rest : List Char) : List Char × List Char :=
  let skipped := rest.takeWhile fun c => isGap c || c == '\n'
  let feeds := skipped.filter (· == '\n')
  let done := done.dropWhile isGap
  (if feeds.isEmpty then ' ' :: done else feeds ++ done, rest.drop skipped.length)

/-- A scalar after its opening single quote; a quote is written twice. -/
def readSingle (fuel : Nat) (done : List Char) (cs : List Char) : Option (String × List Char) :=
  match fuel, cs with
  | 0, _ | _, [] => none
  | fuel + 1, '\'' :: '\'' :: rest => readSingle fuel ('\'' :: done) rest
  | _ + 1, '\'' :: rest => some (String.ofList done.reverse, rest)
  | fuel + 1, '\n' :: rest =>
    let (done, rest) := foldLine done rest
    readSingle fuel done rest
  | fuel + 1, c :: rest => readSingle fuel (c :: done) rest

/-- The character whose number has so many digits, and what follows it. -/
def readCode (digits : Nat) (cs : List Char) : Option (Char × List Char) := do
  if cs.length < digits then none
  else some (← Text.charOf? (← Text.ofHexadecimal? (cs.take digits)), cs.drop digits)

/-- The character that an escape stands for, and what follows it. -/
def readEscape : List Char → Option (Char × List Char)
  | [] => none
  | c :: rest =>
    match c with
    | '0' => some (Char.ofNat 0, rest)
    | 'a' => some (Char.ofNat 7, rest)
    | 'b' => some (Char.ofNat 8, rest)
    | 't' | '\t' => some ('\t', rest)
    | 'n' => some ('\n', rest)
    | 'v' => some (Char.ofNat 11, rest)
    | 'f' => some (Char.ofNat 12, rest)
    | 'r' => some ('\r', rest)
    | 'e' => some (Char.ofNat 27, rest)
    | ' ' | '"' | '/' | '\\' => some (c, rest)
    | 'N' => some (Char.ofNat 0x85, rest)
    | '_' => some (Char.ofNat 0xA0, rest)
    | 'L' => some (Char.ofNat 0x2028, rest)
    | 'P' => some (Char.ofNat 0x2029, rest)
    | 'x' => readCode 2 rest
    | 'u' => readCode 4 rest
    | 'U' => readCode 8 rest
    | _ => none

/-- A scalar after its opening double quote. An escaped line end joins its lines. -/
def readDouble (fuel : Nat) (done : List Char) (cs : List Char) : Option (String × List Char) :=
  match fuel, cs with
  | 0, _ | _, [] => none
  | _ + 1, '"' :: rest => some (String.ofList done.reverse, rest)
  | fuel + 1, '\\' :: '\n' :: rest => readDouble fuel done (rest.dropWhile isGap)
  | fuel + 1, '\\' :: rest => do
    let (c, rest) ← readEscape rest
    readDouble fuel (c :: done) rest
  | fuel + 1, '\n' :: rest =>
    let (done, rest) := foldLine done rest
    readDouble fuel done rest
  | fuel + 1, c :: rest => readDouble fuel (c :: done) rest

end CodeStencil.Yaml
