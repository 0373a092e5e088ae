/-
  CodeStencil/Pattern/Basic.lean
  ==============================
  **Patterns with groups** — what a pattern matches, and which texts its groups take. Alternatives
  are tried in order, and the first one by which the whole can succeed wins.
-/
import CodeStencil.Text.Blank
import CodeStencil.Text.Case
import CodeStencil.Text.Numeral
import CodeStencil.Text.WordChar

namespace CodeStencil

/-- Some characters of a set: a range, or a class by its property. -/
inductive CharSet.Item where
  | range (low high : Char)
  | word (inside : Bool)
  | digit (inside : Bool)
  | blank (inside : Bool)
  deriving DecidableEq, Repr

/-- A set of characters: all of its items, or all outside of them. -/
structure CharSet where
  negated : Bool
  items : List CharSet.Item
  ignoreCase : Bool
  deriving DecidableEq, Repr

namespace CharSet

def Item.contains (c : Char) : Item → Bool
  | .range low high => low ≤ c && c ≤ high
  | .word inside => Text.isWord c == inside
  | .digit inside => Text.isDecimalDigit c == inside
  | .blank inside => Text.isBlank c == inside

/-- The image of a character, if it is a single character. -/
def single (c : Char) : List Char → Char
  | [d] => d
  | _ => c

/-- The forms of a character that differ from it in case only. -/
def caseForms (c : Char) : List Char :=
  let low := single c (Text.lowerChar c)
  let up := single c (Text.upperChar c)
  [c, low, up, single up (Text.lowerChar up), single low (Text.upperChar low)]

def contains (s : CharSet) (c : Char) : Bool :=
  let forms := if s.ignoreCase then caseForms c else [c]
  (forms.any fun d => s.items.any (Item.contains d)) != s.negated

end CharSet

/-- A place between characters that a pattern may ask for. -/
inductive Pattern.Anchor where
  | textStart
  | textEnd
  | lineStart
  | lineEnd
  | wordEdge (inside : Bool)
  deriving DecidableEq, Repr

/-- A pattern. `many` repeats at least `least` times and at most `extra` times more, without limit
    if there is no `extra`; a greedy one repeats as often as it can. -/
inductive Pattern where
  | empty
  | char (set : CharSet)
  | anchor (a : Pattern.Anchor)
  | seq (a b : Pattern)
  | either (a b : Pattern)
  | group (index : Nat) (inner : Pattern)
  | many (least : Nat) (extra : Option Nat) (greedy : Bool) (inner : Pattern)
  deriving DecidableEq, Repr

namespace Pattern

/-- A place in a text: the character before it, the characters after it, and what the groups have
    taken so far, the latest first. -/
structure Place where
  before : Option Char
  rest : List Char
  groups : List (Nat × List Char)

/-- What comes next: the outcome at a place, if there is one. -/
abbrev Next := Place → Option Place

def Anchor.holds (a : Anchor) (p : Place) : Bool :=
  match a with
  | .textStart => p.before.isNone
  | .textEnd => p.rest.isEmpty
  | .lineStart => p.before.all (· == '\n')
  | .lineEnd => p.rest.head?.all (· == '\n')
  | .wordEdge inside => (p.before.any Text.isWord != p.rest.head?.any Text.isWord) == inside

def times (step : Next → Next) : Nat → Next → Next
  | 0, next => next
  | n + 1, next => step (times step n next)

/-- Repeats a step at most `n` times. A repetition that takes no character is the last one. -/
def upTo (step : Next → Next) (greedy : Bool) : Nat → Next → Next
  | 0, next => next
  | n + 1, next => fun p =>
    let again (_ : Unit) : Option Place :=
      step (fun q => if q.rest.length < p.rest.length then upTo step greedy n next q else next q) p
    if greedy then (again ()).or (next p) else (next p).or (again ())

/-- Matches a pattern at a place and goes on from where it ends. -/
def run : Pattern → Next → Next
  | .empty, next => next
  | .char set, next => fun p =>
    match p.rest with
    | c :: rest => if set.contains c then next ⟨some c, rest, p.groups⟩ else none
    | [] => none
  | .anchor a, next => fun p => if a.holds p then next p else none
  | .seq a b, next => a.run (b.run next)
  | .either a b, next => fun p => (a.run next p).or (b.run next p)
  | .group index inner, next => fun p =>
    inner.run (fun q =>
      next { q with groups := (index, p.rest.take (p.rest.length - q.rest.length)) :: q.groups }) p
  | .many least extra greedy inner, next => fun p =>
    times inner.run least (upTo inner.run greedy (extra.getD (p.rest.length + 1)) next) p

/-- Where a match that begins at the first possible place ends. -/
def search (pattern : Pattern) (before : Option Char) : List Char → Option Place
  | [] => pattern.run some ⟨before, [], []⟩
  | c :: rest =>
    (pattern.run some ⟨before, c :: rest, []⟩).or (pattern.search (some c) rest)

/-- The ends of all matches from a place on, none reaching into the next, at most `fuel` steps.
    `adjacent` says that a match has just ended there: no empty match may follow it at once. -/
def searchAll (pattern : Pattern) (fuel : Nat) (adjacent : Bool) (before : Option Char)
    (cs : List Char) : List Place :=
  match fuel with
  | 0 => []
  | fuel + 1 =>
    match pattern.search before cs with
    | none => []
    | some p =>
      if adjacent && p.rest.length == cs.length then
        match cs with
        | [] => []
        | c :: rest => searchAll pattern fuel false (some c) rest
      else p :: searchAll pattern fuel true p.before p.rest

/-- The texts that the first group takes in the matches of a text. A match that does not enter the
    group gives none. -/
def captures (pattern : Pattern) (text : String) : List String :=
  let cs := text.toList
  (searchAll pattern (2 * cs.length + 2) false none cs).filterMap fun p =>
    (p.groups.lookup 1).map String.ofList

def groupCount : Pattern → Nat
  | .empty | .char _ | .anchor _ => 0
  | .seq a b | .either a b => a.groupCount + b.groupCount
  | .group _ inner => inner.groupCount + 1
  | .many _ _ _ inner => inner.groupCount

end Pattern

end CodeStencil
