/-
  CodeStencil/Yaml/Reader.lean
  ============================
  **Reading YAML texts** — one document of block and flow collections and of scalars.

  What is not read is refused: anchors and aliases, tags, directives, block scalars, complex keys,
  single pairs as items of a flow list, plain scalars that go on in another line, and a second
  document. There is no limit on the depth of a text.
-/
import CodeStencil.Text.Lines
import CodeStencil.Yaml.Node
import CodeStencil.Yaml.Scalar

namespace CodeStencil.Yaml

/-- A place in a text: what is left, the column, and whether it is the first thing in its line. -/
structure Cursor where
  rest : List Char
  column : Nat
  fresh : Bool

/-- Skips white space, comments and line ends. A comment begins a line or follows white space.
    Outside of flow collections, a tab may not stand before what begins a line. -/
def skip (inFlow fresh afterGap inComment : Bool) (column : Nat) : List Char → Option Cursor
  | [] => some ⟨[], column, true⟩
  | c :: rest =>
    if c = '\n' then skip inFlow true true false 0 rest
    else if inComment then skip inFlow fresh true true (column + 1) rest
    else if c = '#' && afterGap then skip inFlow fresh true true (column + 1) rest
    else if c = '\t' && fresh && !inFlow then
      match rest.dropWhile isGap with
      | [] | '\n' :: _ | '#' :: _ => skip inFlow fresh true false (column + 1) rest
      | _ => none
    else if isGap c then skip inFlow fresh true false (column + 1) rest
    else some ⟨c :: rest, column, fresh⟩

/-- What comes next inside of a flow collection. -/
def skipFlow (cs : List Char) : List Char :=
  ((skip true false true false 0 cs).map Cursor.rest).getD []

/-! ### Flow collections and scalars -/

def readScalar (inFlow : Bool) (cs : List Char) : Option (Node × List Char) :=
  match cs with
  | '"' :: rest => (readDouble (rest.length + 1) [] rest).map fun p => (.quoted p.1, p.2)
  | '\'' :: rest => (readSingle (rest.length + 1) [] rest).map fun p => (.quoted p.1, p.2)
  | _ => (readPlain inFlow cs).map fun p => (.plain p.1, p.2)

mutual

/-- A flow collection or a scalar, and what follows it. -/
def readAtom (fuel : Nat) (inFlow : Bool) (cs : List Char) : Option (Node × List Char) :=
  match fuel with
  | 0 => none
  | fuel + 1 =>
    match cs with
    | '[' :: rest => (readFlowItems fuel (skipFlow rest)).map fun p => (.list p.1, p.2)
    | '\x7b' :: rest => (readFlowEntries fuel (skipFlow rest)).map fun p => (.map p.1, p.2)
    | _ => readScalar inFlow cs

/-- The items of a flow list up to its closing bracket. -/
def readFlowItems (fuel : Nat) (cs : List Char) : Option (List Node × List Char) := do
  match fuel, cs with
  | 0, _ => none
  | _ + 1, ']' :: rest => some ([], rest)
  | fuel + 1, _ =>
    let (item, rest) ← readAtom fuel true cs
    match skipFlow rest with
    | ',' :: rest =>
      let (items, rest) ← readFlowItems fuel (skipFlow rest)
      some (item :: items, rest)
    | ']' :: rest => some ([item], rest)
    | _ => none

/-- The entries of a flow map up to its closing brace. -/
def readFlowEntries (fuel : Nat) (cs : List Char) : Option (List (String × Node) × List Char) := do
  match fuel, cs with
  | 0, _ => none
  | _ + 1, '\x7d' :: rest => some ([], rest)
  | fuel + 1, _ =>
    let (key, rest) ← readScalar true cs
    let (value, rest) ← readFlowValue fuel (skipFlow rest)
    match skipFlow rest with
    | ',' :: rest =>
      let (entries, rest) ← readFlowEntries fuel (skipFlow rest)
      some ((key.text?.getD "", value) :: entries, rest)
    | '\x7d' :: rest => some ([(key.text?.getD "", value)], rest)
    | _ => none

/-- The value after a key of a flow map; nothing if it is left out. -/
def readFlowValue (fuel : Nat) (cs : List Char) : Option (Node × List Char) :=
  match fuel, cs with
  | 0, _ => none
  | fuel + 1, ':' :: rest =>
    match skipFlow rest with
    | ',' :: rest => some (.plain "", ',' :: rest)
    | '\x7d' :: rest => some (.plain "", '\x7d' :: rest)
    | rest => readAtom fuel true rest
  | _ + 1, _ => some (.plain "", cs)

end

/-! ### Block collections -/

/-- What comes next after something of the same line. -/
def next (cs : List Char) : Option Cursor := skip false false false false 0 cs

/-- The colon that ends a key, and what follows it. -/
def afterColon (cs : List Char) : Option (List Char) :=
  match cs.dropWhile isGap with
  | ':' :: rest => if endsToken rest then some rest else none
  | _ => none

/-- A dash that begins an item comes next. -/
def atDash (cs : List Char) : Bool :=
  match cs with
  | '-' :: rest => endsToken rest
  | _ => false

/-- A key and what follows its colon. The key stands in one line. -/
def readKey (cs : List Char) : Option (String × List Char) := do
  let (key, rest) ← readScalar false cs
  let inner := cs.take (cs.length - rest.length)
  if inner.contains '\n' then none
  else some (← key.text?, ← afterColon rest)

/-- A value that is no block, and what comes after it in another line. -/
def readInline (fuel : Nat) (cs : List Char) : Option (Node × Cursor) := do
  let (node, rest) ← readAtom fuel false cs
  if (afterColon rest).isSome then none
  else
    let after ← next rest
    if after.fresh then some (node, after) else none

mutual

/-- A value that begins with a place of its own. -/
def readBlock (fuel : Nat) (c : Cursor) : Option (Node × Cursor) :=
  match fuel with
  | 0 => none
  | fuel + 1 =>
    if atDash c.rest then (readItems fuel c.column c).map fun p => (.list p.1, p.2)
    else if (readKey c.rest).isSome then
      (readEntries fuel c.column c).map fun p => (.map p.1, p.2)
    else readInline (2 * c.rest.length + 2) c.rest

/-- The items of a block list whose dashes stand in this column. -/
def readItems (fuel : Nat) (column : Nat) (c : Cursor) : Option (List Node × Cursor) := do
  match fuel with
  | 0 => none
  | fuel + 1 =>
    let c ← skip false false true false (column + 1) (c.rest.drop 1)
    let (item, c) ←
      if c.rest.isEmpty || (c.fresh && c.column ≤ column) then some (.plain "", c)
      else readBlock fuel c
    if c.rest.isEmpty || c.column < column || (c.column = column && !atDash c.rest) then
      some ([item], c)
    else if column < c.column then none
    else
      let (items, c) ← readItems fuel column c
      some (item :: items, c)

/-- The entries of a block map whose keys stand in this column. -/
def readEntries (fuel : Nat) (column : Nat) (c : Cursor) :
    Option (List (String × Node) × Cursor) := do
  match fuel with
  | 0 => none
  | fuel + 1 =>
    let (key, rest) ← readKey c.rest
    let c ← next rest
    let (value, c) ← readValue fuel column c
    if c.rest.isEmpty || c.column < column then some ([(key, value)], c)
    else if column < c.column then none
    else
      let (entries, c) ← readEntries fuel column c
      some ((key, value) :: entries, c)

/-- The value of a key that stands in this column. A list may stand in the column of its key. -/
def readValue (fuel : Nat) (column : Nat) (c : Cursor) : Option (Node × Cursor) :=
  match fuel with
  | 0 => none
  | fuel + 1 =>
    if c.rest.isEmpty then some (.plain "", c)
    else if !c.fresh then
      if atDash c.rest then none else readInline (2 * c.rest.length + 2) c.rest
    else if column < c.column then readBlock fuel c
    else if c.column = column && atDash c.rest then
      (readItems fuel column c).map fun p => (.list p.1, p.2)
    else some (.plain "", c)

end

/-! ### Documents -/

/-- A line that holds nothing but white space and a comment. -/
def isIdle (line : List Char) : Bool :=
  match line.dropWhile isGap with
  | [] => true
  | c :: _ => c == '#'

/-- A line that begins with three times this character. -/
def isMark (c : Char) (line : List Char) : Bool :=
  line.take 3 = [c, c, c] && endsToken (line.drop 3)

/-- The lines of the document: a mark at its start is blanked, one at its end leaves it off. No
    second document may follow. -/
def documentLines (lines : List (List Char)) : Option (List (List Char)) :=
  let body := lines.dropWhile isIdle
  let body := match body with
    | line :: rest => if isMark '-' line then ([' ', ' ', ' '] ++ line.drop 3) :: rest else body
    | [] => []
  let inside := body.takeWhile fun line => !isMark '-' line && !isMark '.' line
  match body.drop inside.length with
  | [] => some inside
  | line :: rest => if isMark '.' line && rest.all isIdle then some inside else none

def parse? (s : String) : Option Node := do
  let cs := match s.toList with
    | c :: rest => if c.toNat = 0xFEFF then rest else c :: rest
    | [] => []
  let cs := ['\n'].intercalate (← documentLines (Text.splitAt '\n' cs))
  let c ← skip false true true false 0 cs
  if c.rest.isEmpty then some (.plain "")
  else
    let (node, c) ← readBlock (2 * cs.length + 2) c
    if c.rest.isEmpty then some node else none

end CodeStencil.Yaml
