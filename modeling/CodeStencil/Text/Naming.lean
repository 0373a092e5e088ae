/-
  CodeStencil/Text/Naming.lean
  ============================
  **Names in words** — `snake_case` and `PascalCase` spellings of a name.

  Both see separators in all characters but letters and numerals, and both leave letters outside
  ASCII in the case they have.
-/
import CodeStencil.Text.Blank
import CodeStencil.Text.Numeral

namespace CodeStencil.Text

/-- Characters that part the words of a name. -/
def isSeparator (c : Char) : Bool := !isAlphanumeric c

/-- Whether the character with this number is a small letter; past the end there is none. -/
def isLowercaseAt (cs : List Char) (n : Nat) : Bool := (cs[n]?).any isLowercase

/-- A word starts at a character that has no ASCII small form of its own when a small letter
    stands beside it. The characters beside the one at byte offset `offset` are taken to be
    those numbered `offset - 1` and `offset + 1` of the text: its neighbours as long as only ASCII
    characters come before. -/
def startsWord (text : List Char) (offset : Nat) (c : Char) : Bool :=
  c == c.toUpper && (isLowercaseAt text (offset + 1) || isLowercaseAt text (offset - 1))

/-- Spells the rest of a name from byte offset `offset` on; `fresh` says that a word has just
    begun. -/
def snakeFrom (text : List Char) (offset : Nat) (fresh : Bool) : List Char → List Char
  | [] => []
  | c :: rest =>
    let after := offset + c.utf8Size
    if isSeparator c then
      if fresh then snakeFrom text after true rest
      else '_' :: snakeFrom text after true rest
    else if !fresh && startsWord text offset c then
      '_' :: c.toLower :: snakeFrom text after false rest
    else c.toLower :: snakeFrom text after false rest

def snakeCase (s : String) : String :=
  String.ofList (snakeFrom s.toList 0 true (dropEndWhile isSeparator s.toList))

/-- The state of a name being spelled: something was written, a word begins here, and the last
    letter that was written in its small form. -/
structure PascalState where
  started : Bool
  fresh : Bool
  last : Char

def pascalFrom (st : PascalState) : List Char → List Char
  | [] => []
  | c :: rest =>
    if isSeparator c then
      pascalFrom (if st.started then { st with fresh := true } else st) rest
    else if isNumeric c then c :: pascalFrom ⟨true, true, st.last⟩ rest
    else if st.fresh || (isLowercase st.last && isUppercase c && st.last != ' ') then
      c.toUpper :: pascalFrom ⟨true, false, st.last⟩ rest
    else c.toLower :: pascalFrom ⟨true, false, c⟩ rest

/-- Words with a capital at their start, joined without a mark between them. -/
def pascalCase (s : String) : String :=
  String.ofList (pascalFrom ⟨false, true, ' '⟩ (dropEndWhile isSeparator s.toList))

end CodeStencil.Text
