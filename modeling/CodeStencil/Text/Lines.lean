/-
  CodeStencil/Text/Lines.lean
  ===========================
  **Lines** — texts cut at line feeds, and put together again.
-/

namespace CodeStencil.Text

/-- The pieces between the marks `mark`, one more than there are marks. -/
def splitAt (mark : Char) : List Char → List (List Char)
  | [] => [[]]
  | c :: rest =>
    if c = mark then [] :: splitAt mark rest
    else match splitAt mark rest with
      | [] => [[c]]
      | piece :: more => (c :: piece) :: more

theorem splitAt_ne_nil (mark : Char) (cs : List Char) : splitAt mark cs ≠ [] := by
  induction cs with
  | nil => simp [splitAt]
  | cons c rest ih =>
    unfold splitAt
    split
    · simp
    · split <;> simp

def pieces (s : String) : List String := (splitAt '\n' s.toList).map String.ofList

/-- A line that is closed by a line feed, without the carriage return before it. -/
def withoutReturn (line : List Char) : List Char :=
  if line.getLast? = some '\r' then line.dropLast else line

/-- The lines of a text. The last piece is a line only if it is not empty, and it keeps a carriage
    return at its end since no line feed follows. -/
def closedLines : List (List Char) → List (List Char)
  | [] => []
  | [piece] => if piece = [] then [] else [piece]
  | piece :: more => withoutReturn piece :: closedLines more

/-- The lines of a text, each without its line end. -/
def lines (s : String) : List String := (closedLines (splitAt '\n' s.toList)).map String.ofList

end CodeStencil.Text
