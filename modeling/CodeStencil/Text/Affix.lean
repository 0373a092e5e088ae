/-
  CodeStencil/Text/Affix.lean
  ===========================
  **Beginnings and ends of texts** — a text without a given beginning or a given end.
-/

namespace CodeStencil.Text

/-- The characters after the word at their start; none if they do not start with it. -/
def afterWord? (word cs : List Char) : Option (List Char) :=
  if word.isPrefixOf cs then some (cs.drop word.length) else none

/-- The characters before the word at their end; none if they do not end with it. -/
def beforeWord? (word cs : List Char) : Option (List Char) :=
  (afterWord? word.reverse cs.reverse).map List.reverse

/-- The text after the one it starts with. -/
def afterLead? (lead s : String) : Option String :=
  (afterWord? lead.toList s.toList).map String.ofList

/-- The text before the one it ends with. -/
def beforeEnd? (tail s : String) : Option String :=
  (beforeWord? tail.toList s.toList).map String.ofList

/-- The text without an end, if it has this end. -/
def withoutEnd (tail s : String) : String := (beforeEnd? tail s).getD s

theorem afterWord?_eq_some_iff {word cs rest : List Char} :
    afterWord? word cs = some rest ↔ cs = word ++ rest := by
  unfold afterWord?
  constructor
  · intro h
    split at h
    · next hp =>
      obtain ⟨t, rfl⟩ := List.isPrefixOf_iff_prefix.1 hp
      simp_all
    · simp at h
  · rintro rfl
    simp

theorem beforeWord?_eq_some_iff {word cs rest : List Char} :
    beforeWord? word cs = some rest ↔ cs = rest ++ word := by
  unfold beforeWord?
  rw [Option.map_eq_some_iff]
  constructor
  · rintro ⟨t, ht, rfl⟩
    have h := afterWord?_eq_some_iff.1 ht
    have h' := congrArg List.reverse h
    simpa using h'
  · rintro rfl
    exact ⟨rest.reverse, afterWord?_eq_some_iff.2 (by simp), by simp⟩

end CodeStencil.Text
