/-
  CodeStencil/Json/Document.lean
  ==============================
  **JSON texts as they are written** — a document keeps the order and the repetitions
  of members, and it also stands for texts that break off: `broken` marks the place from which on
  the text is no JSON. A reader that walks the document from left to right so meets a wrong shape
  and a broken place in the order of the text.
-/
import CodeStencil.Json.Fault

namespace CodeStencil.Json

mutual

/-- A written value. A number that no double can hold is `number none`, and a string with half of a
    surrogate pair `string none`: both are well formed as long as nobody asks for their value.
    `deep` is a sequence or map inside of more than 126 others, which nobody may enter. -/
inductive Document where
  | null
  | bool (b : Bool)
  | number (n : Option Number)
  | string (s : Option String)
  | seq (items : Items)
  | map (members : Members)
  | deep (inner : Document)
  | broken

/-- The items of a sequence, up to its end or to the place where the text breaks. -/
inductive Items where
  | done
  | broken
  | cons (item : Document) (rest : Items)

/-- The members of a map, up to its end or to the place where the text breaks. -/
inductive Members where
  | done
  | broken
  | cons (key : Option String) (value : Document) (rest : Members)

end

/-! ### Well-formed documents -/

mutual

/-- No place of the document is broken. -/
def Document.sound : Document → Bool
  | .seq items => items.sound
  | .map members => members.sound
  | .deep inner => inner.sound
  | .broken => false
  | _ => true

def Items.sound : Items → Bool
  | .done => true
  | .broken => false
  | .cons item rest => item.sound && rest.sound

def Members.sound : Members → Bool
  | .done => true
  | .broken => false
  | .cons _ value rest => value.sound && rest.sound

end

/-! ### The value of a document -/

mutual

/-- The value of a document that is well formed and within the limits of numbers, strings and
    nesting. -/
def Document.value : Document → Except Fault Value
  | .null => .ok .null
  | .bool b => .ok (.bool b)
  | .number (some n) => .ok (.number n)
  | .string (some s) => .ok (.string s)
  | .seq items => return .array (← items.values)
  | .map members => return Value.ofMembers (← members.values)
  | .number none | .string none | .deep _ | .broken => .error .malformed

def Items.values : Items → Except Fault (List Value)
  | .done => .ok []
  | .broken => .error .malformed
  | .cons item rest => do
    let v ← item.value
    return v :: (← rest.values)

def Members.values : Members → Except Fault (List (String × Value))
  | .done => .ok []
  | .broken => .error .malformed
  | .cons none _ _ => .error .malformed
  | .cons (some key) value rest => do
    let v ← value.value
    return (key, v) :: (← rest.values)

end

mutual

def Document.ofValue : Value → Document
  | .null => .null
  | .bool b => .bool b
  | .number n => .number (some n)
  | .string s => .string (some s)
  | .array items => .seq (Items.ofValues items)
  | .object members => .map (Members.ofValues members)

def Items.ofValues : List Value → Items
  | [] => .done
  | v :: rest => .cons (Document.ofValue v) (Items.ofValues rest)

def Members.ofValues : List (String × Value) → Members
  | [] => .done
  | (key, v) :: rest => .cons (some key) (Document.ofValue v) (Members.ofValues rest)

end

/-- The fault of a document that is not what was expected. -/
def Document.mismatch (expected : String) : Document → Fault
  | .null => .wrongType .null expected
  | .bool b => .wrongType (.bool b) expected
  | .number (some n) => .wrongType (.number n) expected
  | .string (some s) => .wrongType (.string s) expected
  | .seq _ => .wrongType .sequence expected
  | .map _ => .wrongType .map expected
  | .deep inner => inner.mismatch expected
  | .number none | .string none | .broken => .malformed

end CodeStencil.Json
