/-
  CodeStencil/Pattern/Reader.lean
  ===============================
  **Patterns as they are written** — sets, groups, repetitions, anchors and flags in the usual
  notation of regular expressions.

  What is not read is refused: sets within sets, named sets as in `[[:alpha:]]`, the operations `&&`,
  `--` and `~~` between sets, an unescaped opening bracket as a member of a set, classes by property
  as in `\p{L}`, the edges of words `\<`, `\>` and `\b{start}`, the flags `x`, `U` and `R`, `u` after a
  dash, and white space or no lower number within the bounds of a repetition. There are no limits on
  the nesting and the size of a pattern.
-/
import CodeStencil.Pattern.Basic
import CodeStencil.Text.Digits

namespace CodeStencil.Pattern

/-- Flags that change the meaning of what follows them in a group. -/
structure Flags where
  ignoreCase : Bool
  multiLine : Bool
  dotAll : Bool

/-- What is left to read, the flags in force, the number of groups opened so far and the names in
    use. -/
structure Reading where
  rest : List Char
  flags : Flags
  groups : Nat
  names : List (List Char)

/-! ### Characters and sets -/

def rangeSet (flags : Flags) (low high : Char) : CharSet :=
  ⟨false, [.range low high], flags.ignoreCase⟩

/-- The character given by its number: so many digits, or any number of them between braces. -/
def readHex (digits : Nat) (cs : List Char) : Option (Char × List Char) :=
  match cs with
  | '\x7b' :: rest => do
    let inner := rest.takeWhile (· != '\x7d')
    if inner.isEmpty || inner.length = rest.length then none
    else some (← Text.charOf? (← Text.ofHexadecimal? inner), rest.drop (inner.length + 1))
  | _ =>
    if cs.length < digits then none
    else do some (← Text.charOf? (← Text.ofHexadecimal? (cs.take digits)), cs.drop digits)

/-- What stands behind a backslash: a class, or a character. -/
inductive Escape where
  | item (i : CharSet.Item)
  | char (c : Char)

/-- The meaning of the characters after a backslash that it has everywhere. -/
def readEscape : List Char → Option (Escape × List Char)
  | [] => none
  | c :: rest =>
    match c with
    | 'w' => some (.item (.word true), rest)
    | 'W' => some (.item (.word false), rest)
    | 'd' => some (.item (.digit true), rest)
    | 'D' => some (.item (.digit false), rest)
    | 's' => some (.item (.blank true), rest)
    | 'S' => some (.item (.blank false), rest)
    | 'n' => some (.char '\n', rest)
    | 't' => some (.char '\t', rest)
    | 'r' => some (.char '\r', rest)
    | 'a' => some (.char (Char.ofNat 7), rest)
    | 'f' => some (.char (Char.ofNat 12), rest)
    | 'v' => some (.char (Char.ofNat 11), rest)
    | 'x' => (readHex 2 rest).map fun p => (.char p.1, p.2)
    | 'u' => (readHex 4 rest).map fun p => (.char p.1, p.2)
    | 'U' => (readHex 8 rest).map fun p => (.char p.1, p.2)
    | _ =>
      if c.isAlphanum || c == '<' || c == '>' || 128 ≤ c.toNat then none
      else some (.char c, rest)

/-- One member of a set: a class, or a character that may begin a range. -/
def readMember : List Char → Option (Escape × List Char)
  | '\\' :: rest => readEscape rest
  | '[' :: _ => none
  | c :: rest => some (.char c, rest)
  | [] => none

/-- Two equal signs that stand for an operation between sets. -/
def startsOperation : List Char → Bool
  | a :: b :: _ => a = b && ['&', '-', '~'].contains a
  | _ => false

/-- The members of a set up to its closing bracket, at most `fuel` of them. -/
def readMembers (fuel : Nat) (items : List CharSet.Item) (cs : List Char) :
    Option (List CharSet.Item × List Char) :=
  match fuel, cs with
  | 0, _ => none
  | _ + 1, ']' :: rest => some (items.reverse, rest)
  | fuel + 1, cs => do
    guard (!startsOperation cs)
    let (member, rest) ← readMember cs
    match rest with
    | '-' :: next :: more =>
      if next = ']' || next = '-' then readMembers fuel (itemOf member :: items) rest
      else
        match member, ← readMember (next :: more) with
        | .char low, (.char high, rest) =>
          if low ≤ high then readMembers fuel (.range low high :: items) rest else none
        | _, _ => none
    | _ => readMembers fuel (itemOf member :: items) rest
where
  /-- The item of a member that begins no range. -/
  itemOf : Escape → CharSet.Item
    | .item i => i
    | .char c => .range c c

/-- The set after an opening bracket. Dashes at the start, and a closing bracket there, stand for
    themselves. -/
def readSet (flags : Flags) (cs : List Char) : Option (CharSet × List Char) := do
  let (negated, cs) := match cs with
    | '^' :: rest => (true, rest)
    | _ => (false, cs)
  let dashes := (cs.takeWhile (· == '-')).map fun c => CharSet.Item.range c c
  let cs := cs.dropWhile (· == '-')
  let (first, cs) := match cs with
    | ']' :: rest => if dashes.isEmpty then ([CharSet.Item.range ']' ']'], rest) else ([], cs)
    | _ => ([], cs)
  let (items, rest) ← readMembers (cs.length + 1) (first ++ dashes) cs
  some (⟨negated, items, flags.ignoreCase⟩, rest)

/-! ### Repetitions -/

/-- The decimal digits at the start, as a number, and the rest. -/
def readCount (cs : List Char) : Option (Nat × List Char) :=
  let digits := cs.takeWhile Char.isDigit
  if digits.isEmpty then none
  else some (Text.ofDecimal digits, cs.drop digits.length)

/-- The least number of repetitions and how many more there may be, after an opening brace. -/
def readBounds (cs : List Char) : Option ((Nat × Option Nat) × List Char) := do
  let (least, rest) ← readCount cs
  match rest with
  | '\x7d' :: rest => some ((least, some 0), rest)
  | ',' :: '\x7d' :: rest => some ((least, none), rest)
  | ',' :: rest =>
    let (most, rest) ← readCount rest
    match rest with
    | '\x7d' :: rest => if least ≤ most then some ((least, some (most - least)), rest) else none
    | _ => none
  | _ => none

/-- The repetition that is written next, if there is one; none if it is not well formed. -/
def readBoundsSign : List Char → Option (Option (Nat × Option Nat) × List Char)
  | '*' :: rest => some (some (0, none), rest)
  | '+' :: rest => some (some (1, none), rest)
  | '?' :: rest => some (some (0, some 1), rest)
  | '\x7b' :: rest => (readBounds rest).map fun p => (some p.1, p.2)
  | cs => some (none, cs)

/-- Puts the repetitions that follow around a pattern, at most `fuel` of them. A question mark
    behind a repetition makes it reluctant. -/
def readRepetitions (fuel : Nat) (pattern : Pattern) (cs : List Char) :
    Option (Pattern × List Char) := do
  match fuel with
  | 0 => none
  | fuel + 1 =>
    match ← readBoundsSign cs with
    | (none, rest) => some (pattern, rest)
    | (some (least, extra), '?' :: rest) =>
      readRepetitions fuel (.many least extra false pattern) rest
    | (some (least, extra), rest) => readRepetitions fuel (.many least extra true pattern) rest

/-! ### Groups and sequences -/

/-- Changes the flags as the letters say; after a dash they are taken away. -/
def readFlags (flags : Flags) (value : Bool) : List Char → Option Flags
  | [] => some flags
  | c :: rest =>
    match c with
    | 'i' => readFlags { flags with ignoreCase := value } value rest
    | 'm' => readFlags { flags with multiLine := value } value rest
    | 's' => readFlags { flags with dotAll := value } value rest
    | 'u' => if value then readFlags flags value rest else none
    | '-' => if value && !rest.isEmpty then readFlags flags false rest else none
    | _ => none

/-- The name of a group: a letter or an underscore, and more of these, digits and a few marks. -/
def isGroupName (name : List Char) : Bool :=
  match name with
  | [] => false
  | c :: rest => (Text.isAlphabetic c || c == '_') &&
      rest.all fun c => Text.isAlphanumeric c || ['_', '.', '[', ']'].contains c

/-- How a group begins: it takes its text, it only holds its parts together, or it is not a group
    but changes flags. -/
inductive Opening where
  | taking
  | plain
  | flags

/-- Reads what stands after an opening parenthesis and before the parts of the group. -/
def readOpening (r : Reading) : Option (Opening × Reading) :=
  let named (cs : List Char) : Option (Opening × Reading) :=
    let name := cs.takeWhile (· != '>')
    if isGroupName name && name.length < cs.length && !r.names.contains name then
      some (.taking, { r with rest := cs.drop (name.length + 1), names := name :: r.names })
    else none
  match r.rest with
  | '?' :: 'P' :: '<' :: rest => named rest
  | '?' :: '<' :: rest => named rest
  | '?' :: rest =>
    let letters := rest.takeWhile fun c => c != ':' && c != ')'
    match readFlags r.flags true letters, rest.drop letters.length with
    | some flags, ':' :: rest => some (.plain, { r with rest, flags })
    | some flags, ')' :: rest =>
      if letters.isEmpty then none else some (.flags, { r with rest, flags })
    | _, _ => none
  | _ => some (.taking, r)

/-- An anchor or a character that needs no closing mark; none if the character has another job. -/
def simple? (flags : Flags) (c : Char) : Option Pattern :=
  match c with
  | '^' => some (.anchor (if flags.multiLine then .lineStart else .textStart))
  | '$' => some (.anchor (if flags.multiLine then .lineEnd else .textEnd))
  | '.' => some (.char ⟨true, if flags.dotAll then [] else [.range '\n' '\n'], false⟩)
  | '*' | '+' | '?' | '\x7b' | '[' | '(' | ')' | '|' | '\\' => none
  | _ => some (.char (rangeSet flags c c))

/-- What follows a backslash outside of sets. -/
def readEscaped (flags : Flags) (cs : List Char) : Option (Pattern × List Char) :=
  match cs with
  | 'b' :: rest => some (.anchor (.wordEdge true), rest)
  | 'B' :: rest => some (.anchor (.wordEdge false), rest)
  | 'A' :: rest => some (.anchor .textStart, rest)
  | 'z' :: rest => some (.anchor .textEnd, rest)
  | _ =>
    (readEscape cs).map fun
      | (.item i, rest) => (.char ⟨false, [i], false⟩, rest)
      | (.char c, rest) => (.char (rangeSet flags c c), rest)

def startsRepetition : List Char → Bool
  | c :: _ => ['*', '+', '?', '\x7b'].contains c
  | [] => false

mutual

/-- Reads alternatives up to the end of their group. -/
def readAlternatives (fuel : Nat) (r : Reading) : Option (Pattern × Reading) := do
  match fuel with
  | 0 => none
  | fuel + 1 =>
    let (a, r) ← readSequence fuel r
    match r.rest with
    | '|' :: rest =>
      let (b, r) ← readAlternatives fuel { r with rest }
      some (.either a b, r)
    | _ => some (a, r)

/-- Reads the parts of a sequence up to the end of its group or to the next alternative. -/
def readSequence (fuel : Nat) (r : Reading) : Option (Pattern × Reading) := do
  match fuel with
  | 0 => none
  | fuel + 1 =>
    match r.rest with
    | [] | ')' :: _ | '|' :: _ => some (.empty, r)
    | '(' :: rest =>
      let (opening, inner) ← readOpening { r with rest }
      match opening with
      | .flags => if startsRepetition inner.rest then none else readSequence fuel inner
      | .plain => readGroup fuel r.flags none inner
      | .taking =>
        let index := r.groups + 1
        readGroup fuel r.flags (some index) { inner with groups := index }
    | '[' :: rest =>
      let (set, rest) ← readSet r.flags rest
      readFrom fuel (.char set) { r with rest }
    | '\\' :: rest =>
      let (p, rest) ← readEscaped r.flags rest
      readFrom fuel p { r with rest }
    | c :: rest => readFrom fuel (← simple? r.flags c) { r with rest }

/-- Reads the parts of a group and what follows it; the flags from before hold again there. -/
def readGroup (fuel : Nat) (flags : Flags) (index : Option Nat) (r : Reading) :
    Option (Pattern × Reading) := do
  match fuel with
  | 0 => none
  | fuel + 1 =>
    let (p, r) ← readAlternatives fuel r
    match r.rest with
    | ')' :: rest =>
      let p := match index with
        | some n => .group n p
        | none => p
      readFrom fuel p { r with rest, flags }
    | _ => none

/-- Reads the repetitions of a part and the parts that follow it. -/
def readFrom (fuel : Nat) (p : Pattern) (r : Reading) : Option (Pattern × Reading) := do
  match fuel with
  | 0 => none
  | fuel + 1 =>
    let (p, rest) ← readRepetitions (r.rest.length + 1) p r.rest
    let (more, r) ← readSequence fuel { r with rest }
    some (.seq p more, r)

end

def parse? (s : String) : Option Pattern := do
  let cs := s.toList
  let (p, r) ← readAlternatives (4 * cs.length + 4) ⟨cs, ⟨false, false, false⟩, 0, []⟩
  if r.rest.isEmpty then some p else none

/-- Sets are not combined, and no sign of an operation is taken for a member. -/
example : ["[a-z&&b]", "[\\w--a]", "[a~~b]"].map parse? = [none, none, none] := by decide +kernel

end CodeStencil.Pattern
