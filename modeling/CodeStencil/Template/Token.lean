/-
  CodeStencil/Template/Token.lean
  ===============================
  **Tokens of a template** — `{name}` is a placeholder, `{{` and `}}` stand for single braces, and
  all other characters but braces stand for themselves.
-/
import CodeStencil.Text.Digits

namespace CodeStencil.Template

/-- The smallest parts of the text of a template. -/
inductive Token where
  | char (c : Char)
  | openBrace
  | closeBrace
  | placeholder (name : List Char)
  deriving DecidableEq, Repr

/-- Why a text is no template, with the byte position where the bad token starts. -/
inductive Problem where
  | unterminated (position : Nat)
  | invalidName (inner : String) (position : Nat)
  | singleBrace (position : Nat)
  deriving DecidableEq, Repr

def Problem.text : Problem → String
  | .unterminated p => "unterminated placeholder at byte " ++ Text.decimal p
  | .invalidName inner p =>
    "invalid placeholder '\x7b" ++ inner ++ "\x7d' at byte " ++ Text.decimal p
  | .singleBrace p => "single '\x7d' encountered at byte " ++ Text.decimal p

/-- Letters, digits and underscores of ASCII make up names. -/
def isNameChar (c : Char) : Bool := c.isAlphanum || c == '_'

def isName (cs : List Char) : Bool := !cs.isEmpty && cs.all isNameChar

def byteLength : List Char → Nat
  | [] => 0
  | c :: rest => c.utf8Size + byteLength rest

/-- The tokens of a text that starts at a byte position. -/
def tokens (position : Nat) : List Char → Except Problem (List Token)
  | [] => .ok []
  | '\x7b' :: '\x7b' :: more => return .openBrace :: (← tokens (position + 2) more)
  | '\x7b' :: rest =>
    let inner := rest.takeWhile (· != '\x7d')
    match _h : rest.dropWhile (· != '\x7d') with
    | [] => .error (.unterminated position)
    | _ :: more =>
      if isName inner then
        return .placeholder inner :: (← tokens (position + byteLength inner + 2) more)
      else .error (.invalidName (String.ofList inner) position)
  | '\x7d' :: '\x7d' :: more => return .closeBrace :: (← tokens (position + 2) more)
  | '\x7d' :: _ => .error (.singleBrace position)
  | c :: rest => return .char c :: (← tokens (position + c.utf8Size) rest)
termination_by cs => cs.length
decreasing_by
  · simp only [List.length_cons]; omega
  · have shorter := (List.dropWhile_sublist (· != '\x7d') : List.Sublist _ rest).length_le
    rw [_h] at shorter
    simp at shorter ⊢
    omega
  · simp only [List.length_cons]; omega
  · simp

end CodeStencil.Template
