/-
  CodeStencil/Json/Reader.lean
  ============================
  **Reading JSON texts** — from characters to a document. Reading never fails: what is no
  JSON shows as a broken place of the document.
-/
import CodeStencil.Json.Document
import CodeStencil.Text.Affix
import CodeStencil.Text.Digits

namespace CodeStencil.Json

def isSpace (c : Char) : Bool := c == ' ' || c == '\t' || c == '\n' || c == '\r'

/-- The characters after the blanks at their start. -/
def skipSpace (cs : List Char) : List Char := cs.dropWhile isSpace

/-! ### Strings -/

/-- The number written in four hexadecimal digits, and the rest. -/
def readHex : List Char → Option (Nat × List Char)
  | a :: b :: c :: d :: rest => (Text.ofHexadecimal? [a, b, c, d]).map fun n => (n, rest)
  | _ => none

/-- A piece of a string: a character, or a code unit written by its number. -/
inductive Unit16 where
  | char (c : Char)
  | unit (n : Nat)

def simpleEscape? (c : Char) : Option Char :=
  match c with
  | '"' | '\\' | '/' => some c
  | 'b' => some (Char.ofNat 8)
  | 'f' => some (Char.ofNat 12)
  | 'n' => some '\n'
  | 'r' => some '\r'
  | 't' => some '\t'
  | _ => none

/-- The pieces of a string after its opening quote, and what follows its closing quote; none if
    the string is not well formed. -/
def readUnits (fuel : Nat) (cs : List Char) : Option (List Unit16 × List Char) :=
  match fuel, cs with
  | 0, _ => none
  | _, [] => none
  | _ + 1, '"' :: rest => some ([], rest)
  | fuel + 1, '\\' :: 'u' :: rest => do
    let (n, rest) ← readHex rest
    let (units, rest) ← readUnits fuel rest
    some (.unit n :: units, rest)
  | fuel + 1, '\\' :: c :: rest => do
    let c ← simpleEscape? c
    let (units, rest) ← readUnits fuel rest
    some (.char c :: units, rest)
  | _ + 1, ['\\'] => none
  | fuel + 1, c :: rest =>
    if c.toNat < 32 then none
    else do
      let (units, rest) ← readUnits fuel rest
      some (.char c :: units, rest)

/-- The characters of the pieces. Two units may form a surrogate pair; a surrogate without its
    partner has no character. -/
def joinUnits : List Unit16 → Option (List Char)
  | [] => some []
  | .char c :: rest => (joinUnits rest).map (c :: ·)
  | .unit n :: rest =>
    if 0xD800 ≤ n && n < 0xDC00 then
      match rest with
      | .unit m :: more =>
        if 0xDC00 ≤ m && m < 0xE000 then
          (joinUnits more).map (Char.ofNat ((n - 0xD800) * 0x400 + (m - 0xDC00) + 0x10000) :: ·)
        else none
      | _ => none
    else if 0xDC00 ≤ n && n < 0xE000 then none
    else (joinUnits rest).map (Char.ofNat n :: ·)

/-- The string after an opening quote, and what follows its closing quote. -/
def readString (cs : List Char) : Option (Option String × List Char) :=
  (readUnits (cs.length + 1) cs).map fun (units, rest) =>
    ((joinUnits units).map String.ofList, rest)

/-! ### Values -/

/-- How many sequences and maps may be entered, one inside the other. -/
def maxNesting : Nat := 127

/-- Marks a sequence or map with `level` others around it as too deep where it is so. -/
def atLevel (level : Nat) (d : Document) : Document :=
  if level < maxNesting then d else .deep d

def readWord (word : List Char) (d : Document) (cs : List Char) : Document × Option (List Char) :=
  match Text.afterWord? word cs with
  | some rest => (d, some rest)
  | none => (.broken, none)

mutual

/-- The value at the start of the characters, inside of `level` sequences and maps, and what follows
    it; nothing follows a broken one. -/
def readValue (fuel level : Nat) (cs : List Char) : Document × Option (List Char) :=
  match fuel with
  | 0 => (.broken, none)
  | fuel + 1 =>
    match skipSpace cs with
    | 'n' :: rest => readWord ['u', 'l', 'l'] .null rest
    | 't' :: rest => readWord ['r', 'u', 'e'] (.bool true) rest
    | 'f' :: rest => readWord ['a', 'l', 's', 'e'] (.bool false) rest
    | '"' :: rest =>
      match readString rest with
      | some (s, rest) => (.string s, some rest)
      | none => (.broken, none)
    | '[' :: rest =>
      match skipSpace rest with
      | ']' :: rest => (atLevel level (.seq .done), some rest)
      | rest =>
        let (items, rest) := readItems fuel (level + 1) rest
        (atLevel level (.seq items), rest)
    | '\x7b' :: rest =>
      match skipSpace rest with
      | '\x7d' :: rest => (atLevel level (.map .done), some rest)
      | rest =>
        let (members, rest) := readMembers fuel (level + 1) rest
        (atLevel level (.map members), rest)
    | cs =>
      match Number.read cs with
      | some (n, rest) => (.number n, some rest)
      | none => (.broken, none)

def readItems (fuel level : Nat) (cs : List Char) : Items × Option (List Char) :=
  match fuel with
  | 0 => (.broken, none)
  | fuel + 1 =>
    let (item, rest) := readValue fuel level cs
    match rest.map skipSpace with
    | some (']' :: rest) => (.cons item .done, some rest)
    | some (',' :: rest) =>
      let (items, rest) := readItems fuel level rest
      (.cons item items, rest)
    | _ => (.cons item .broken, none)

def readMembers (fuel level : Nat) (cs : List Char) : Members × Option (List Char) :=
  match fuel with
  | 0 => (.broken, none)
  | fuel + 1 =>
    match skipSpace cs with
    | '"' :: rest =>
      match readString rest with
      | none => (.broken, none)
      | some (key, rest) =>
        match skipSpace rest with
        | ':' :: rest =>
          let (value, rest) := readValue fuel level rest
          match rest.map skipSpace with
          | some ('\x7d' :: rest) => (.cons key value .done, some rest)
          | some (',' :: rest) =>
            let (members, rest) := readMembers fuel level rest
            (.cons key value members, rest)
          | _ => (.cons key value .broken, none)
        | _ => (.cons key .broken .broken, none)
    | _ => (.broken, none)

end

/-- A text that was read: its first value, and whether nothing but blanks follows it. -/
structure Reading where
  document : Document
  complete : Bool

def read (s : String) : Reading :=
  let cs := s.toList
  let (document, rest) := readValue (2 * cs.length + 2) 0 cs
  ⟨document, match rest with
    | some rest => (skipSpace rest).isEmpty
    | none => false⟩

/-- In a text, an item too many stands where the sequence has to end. -/
def asWritten : Fault → Fault
  | .surplus _ => .malformed
  | fault => fault

/-- Reads a text and decodes its value. Text after the value is looked at last. -/
def decode {α : Type} (f : Document → Except Fault α) (s : String) : Except Fault α := do
  let reading := read s
  let a ← (f reading.document).mapError asWritten
  if reading.complete then .ok a else .error .malformed

def parse (s : String) : Except Fault Value := decode Document.value s

end CodeStencil.Json
