/-
  CodeStencil/Glob/Reader.lean
  ============================
  **Globs as they are written** — `?` is one byte, `*` any bytes, `**` between slashes any number of
  folders, `[a-z]` and `[!a-z]` are sets, `{a,b}` are alternatives, and a backslash takes away the
  meaning of the next character.
-/
import CodeStencil.Glob.Basic

namespace CodeStencil.Glob

/-- A piece of a written pattern. A group without a pattern that could match anything but nothing
    at all is dropped. -/
inductive Piece where
  | char (c : Char)
  | one
  | many
  | leading
  | trailing
  | between
  | set (s : ByteSet)
  | group (g : Option Glob)

def Piece.glob? : Piece → Option Glob
  | .char c => some (.char c)
  | .one => some (.byte .all)
  | .many => some .anything
  | .leading => some .leading
  | .trailing => some .trailing
  | .between => some .between
  | .set s => some (.byte s)
  | .group g => g

/-- The pattern of pieces, the last of which comes first; none if there is nothing to match. -/
def ofPieces (pieces : List Piece) : Option Glob :=
  match pieces.reverse.filterMap Piece.glob? with
  | [] => none
  | gs => some (sequence gs)

/-- What is known while reading: the branches of each open group, the branch around it coming after
    them, the pieces of the present branch, and the last character. Lists start with the latest. -/
structure Reading where
  groups : List (List (List Piece) × List Piece)
  branch : List Piece
  last : Option Char

namespace Reading

/-- Adds a piece to the present branch. -/
def push (r : Reading) (p : Piece) (last : Char) : Reading :=
  { r with branch := p :: r.branch, last := some last }

def openGroup (r : Reading) : Reading := ⟨([], r.branch) :: r.groups, [], some '\x7b'⟩

/-- Ends a branch of a group; outside of groups a comma stands for itself. -/
def comma (r : Reading) : Reading :=
  match r.groups with
  | (branches, around) :: more => ⟨(r.branch :: branches, around) :: more, [], some ','⟩
  | [] => r.push (.char ',') ','

/-- Closes a group, which has to be open. -/
def closeGroup? (r : Reading) : Option Reading :=
  match r.groups with
  | (branches, around) :: more =>
    let alternatives := (r.branch :: branches).reverse.filterMap ofPieces
    some ⟨more, .group (oneOf alternatives) :: around, some '\x7d'⟩
  | [] => none

/-- Two stars that stand for themselves. -/
def twoStars (r : Reading) : Reading :=
  { r with branch := .many :: .many :: r.branch, last := some '*' }

/-- Puts folders in the place of the slash before two stars, unless folders stand there already. -/
def folders (r : Reading) (p : Piece) (last : Char) : Reading :=
  { r with
    branch := match r.branch with
      | .leading :: rest => .leading :: rest
      | .trailing :: rest => .trailing :: rest
      | _ :: rest => p :: rest
      | [] => [p]
    last := some last }

/-- Reads the second of two stars, given what follows it, and tells whether a slash that follows
    belongs to it. -/
def secondStar (r : Reading) (rest : List Char) : Reading × Bool :=
  if r.branch.isEmpty then
    match rest with
    | [] => (r.push .leading '*', false)
    | c :: _ => if c = '/' then (r.push .leading '/', true) else (r.twoStars, false)
  else if r.last != some '/' && (r.groups.isEmpty || (r.last != some ',' && r.last != some '\x7b'))
  then (r.twoStars, false)
  else
    match rest with
    | [] => (r.folders .trailing '*', false)
    | c :: _ =>
      if !r.groups.isEmpty && (c = ',' || c = '\x7d') then (r.folders .trailing '*', false)
      else if c = '/' then (r.folders .between '/', true)
      else (r.twoStars, false)

end Reading

/-! ### Sets -/

/-- Reads the ranges of a set up to its closing bracket, the latest range first; `pending` says that
    a dash waits for the end of its range. A bracket or a dash at the start stands for itself. -/
def readRanges (ranges : List (Char × Char)) (pending : Bool) :
    List Char → Option (List (Char × Char) × List Char)
  | [] => none
  | c :: rest =>
    match ranges with
    | [] => readRanges [(c, c)] false rest
    | (low, high) :: more =>
      if c = ']' then some (if pending then ('-', '-') :: ranges else ranges, rest)
      else if c = '-' && !pending then readRanges ranges true rest
      else if pending then
        if c < low then none else readRanges ((low, c) :: more) false rest
      else readRanges ((c, c) :: (low, high) :: more) false rest

/-- The ranges of bytes that a range of characters is written with. -/
def byteRanges (r : Char × Char) : List (UInt8 × UInt8) :=
  let low := String.utf8EncodeChar r.1
  let high := String.utf8EncodeChar r.2
  let alone (b : UInt8) : UInt8 × UInt8 := (b, b)
  if r.1 = r.2 then low.map alone
  else match low.getLast?, high with
    | some a, b :: rest => low.dropLast.map alone ++ (a, b) :: rest.map alone
    | _, _ => []

/-- The set after an opening bracket, and the rest. -/
def readSet (cs : List Char) : Option (ByteSet × List Char) := do
  let (negated, cs) := match cs with
    | '!' :: rest | '^' :: rest => (true, rest)
    | _ => (false, cs)
  let (ranges, rest) ← readRanges [] false cs
  let bytes := ranges.reverse.flatMap byteRanges
  if bytes.all fun r => r.1 ≤ r.2 then some (⟨negated, bytes⟩, rest) else none

/-! ### Whole patterns -/

/-- The pattern of all pieces of a text. Two stars alone match everything. -/
def ofAll : List Piece → Glob
  | [.leading] => .anything
  | pieces => (ofPieces pieces).getD .empty

/-- Reads the characters that are left, at most `fuel` pieces of them. -/
def read (fuel : Nat) (r : Reading) (cs : List Char) : Option Glob :=
  match fuel, cs with
  | 0, _ => none
  | _ + 1, [] => if r.groups.isEmpty then some (ofAll r.branch) else none
  | fuel + 1, c :: rest =>
    match c with
    | '?' => read fuel (r.push .one c) rest
    | '*' =>
      match rest with
      | '*' :: more =>
        let (r, slash) := r.secondStar more
        read fuel r (if slash then more.drop 1 else more)
      | _ => read fuel (r.push .many c) rest
    | '[' => do
      let (s, rest) ← readSet rest
      read fuel (r.push (.set s) ']') rest
    | '\x7b' => read fuel r.openGroup rest
    | '\x7d' => do read fuel (← r.closeGroup?) rest
    | ',' => read fuel r.comma rest
    | '\\' =>
      match rest with
      | [] => none
      | c :: rest => read fuel (r.push (.char c) c) rest
    | _ => read fuel (r.push (.char c) c) rest

def parse? (s : String) : Option Glob := read (s.length + 1) ⟨[], [], none⟩ s.toList

end CodeStencil.Glob
