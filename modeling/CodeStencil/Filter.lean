/-
  CodeStencil/Filter.lean
  =======================
  **Filters on flags** — a blacklist shuts out, a whitelist lets in, and the blacklist is the
  stronger one.
-/
import CodeStencil.Json.Decode

namespace CodeStencil

/-- Flags that are let in, and flags that are shut out; a list that is absent has no say. -/
structure FlagFilter where
  whitelist : Option (List String)
  blacklist : Option (List String)
  deriving DecidableEq, Repr

namespace FlagFilter

def none : FlagFilter := ⟨.none, .none⟩

/-- The two lists have a flag in common. -/
def meets (flags list : List String) : Bool := flags.any (list.contains ·)

def isBlacklisted (f : FlagFilter) (flags : List String) : Bool := f.blacklist.any (meets flags)

/-- There is no whitelist, or a flag is on it. -/
def isWhitelisted (f : FlagFilter) (flags : List String) : Bool := f.whitelist.all (meets flags)

def passes (f : FlagFilter) (flags : List String) : Bool :=
  !f.isBlacklisted flags && f.isWhitelisted flags

open Json in
def record : Record FlagFilter :=
  FlagFilter.mk
    <$> .withDefault "whitelist" .none (Decode.nullable (Decode.list Decode.string))
    <*> .withDefault "blacklist" .none (Decode.nullable (Decode.list Decode.string))

def decoder : Json.Decoder FlagFilter := record.decoder "FlagFilter"

end FlagFilter

end CodeStencil
