/-
  CodeStencil/Literals/Fingerprint.lean
  =====================================
  **Fingerprints** — numbers of 64 bits that stand for texts. Each byte is mixed in by an exclusive
  or and a multiplication that wraps around (FNV-1a).
-/

namespace CodeStencil

def fingerprintBasis : UInt64 := 0xcbf29ce484222325

/-- The odd number to multiply with. -/
def fingerprintPrime : UInt64 := 0x100000001b3

def mixByte (h : UInt64) (b : UInt8) : UInt64 := (h ^^^ b.toUInt64) * fingerprintPrime

def mixBytes (h : UInt64) (bytes : List UInt8) : UInt64 := bytes.foldl mixByte h

/-- The fingerprint of a text, taken over its UTF-8 bytes. -/
def fingerprint (s : String) : UInt64 := mixBytes fingerprintBasis s.toUTF8.data.toList

end CodeStencil
