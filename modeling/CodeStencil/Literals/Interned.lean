/-
  CodeStencil/Literals/Interned.lean
  ==================================
  **Interned literals** — texts with their fingerprints, ordered by fingerprint. No two different
  texts may have one fingerprint.
-/
import CodeStencil.Description.Entity
import CodeStencil.Error
import CodeStencil.Literals.Fingerprint

namespace CodeStencil

structure Literal where
  text : String
  fingerprint : UInt64
  deriving DecidableEq, Repr

namespace Literal

def ofText (s : String) : Literal := ⟨s, CodeStencil.fingerprint s⟩

/-- A number in sixteen hexadecimal digits after `0x`. -/
def hexText (n : UInt64) : String :=
  let digits := Text.hexadecimal n.toNat
  "0x" ++ String.ofList (List.replicate (16 - digits.length) '0') ++ digits

def entity (l : Literal) : Entity :=
  ⟨l.text, [], Table.ofList [
    ("string_text", .text l.text),
    ("string_hash", .text (Text.decimal l.fingerprint.toNat)),
    ("string_hash_hex", .text (hexText l.fingerprint))], []⟩

/-- No two neighbours have one fingerprint and different texts; the first two that do are reported.
    In a table ordered by fingerprint, neighbours are all that has to be looked at. -/
def checkCollisions : List Literal → Except Error Unit
  | a :: b :: rest =>
    if a.fingerprint = b.fingerprint ∧ a.text ≠ b.text then
      .error (.collision a.text b.text a.fingerprint)
    else checkCollisions (b :: rest)
  | _ => .ok ()

/-- The literals in the order of their fingerprints; equal ones stay in the order given. -/
def sorted (literals : List Literal) : List Literal :=
  literals.mergeSort fun a b => a.fingerprint ≤ b.fingerprint

/-- The table of the texts, ordered by fingerprint and free of collisions. -/
def intern (texts : List String) : Except Error (List Literal) := do
  let table := sorted (texts.map ofText)
  checkCollisions table
  return table

end Literal

end CodeStencil
