/-
  CodeStencil/Proofs/Template/Grammar.lean
  ========================================
  **The grammar of templates** — how each token is spelled, and which tokens there are. No token is
  the beginning of another one, so a text has one longest part that is made of tokens. Tokens are
  read off that part one after the other, and what is behind it is reported by its position
  (`tokens_cases`).
-/
import CodeStencil.Proofs.Text.Splitting
import CodeStencil.Template.Token

namespace CodeStencil.Template

/-! ### Tokens as they are spelled -/

/-- The names that the grammar has for placeholders. -/
def IsPlaceholderName (cs : List Char) : Prop :=
  cs ≠ [] ∧ ∀ c ∈ cs,
    'A' ≤ c ∧ c ≤ 'Z' ∨ 'a' ≤ c ∧ c ≤ 'z' ∨ '0' ≤ c ∧ c ≤ '9' ∨ c = '_'

namespace Token

def text : Token → List Char
  | .char c => [c]
  | .openBrace => ['\x7b', '\x7b']
  | .closeBrace => ['\x7d', '\x7d']
  | .placeholder name => '\x7b' :: (name ++ ['\x7d'])

/-- The grammar: a brace is never a character, and a placeholder has a name. -/
def Valid : Token → Prop
  | .char c => c ≠ '\x7b' ∧ c ≠ '\x7d'
  | .openBrace => True
  | .closeBrace => True
  | .placeholder name => IsPlaceholderName name

end Token

def spell (ts : List Token) : List Char := ts.flatMap Token.text

@[simp] theorem spell_nil : spell [] = [] := rfl

@[simp] theorem spell_cons (t : Token) (ts : List Token) :
    spell (t :: ts) = t.text ++ spell ts := rfl

@[simp] theorem spell_append (ts us : List Token) : spell (ts ++ us) = spell ts ++ spell us :=
  List.flatMap_append

/-- A token of the grammar begins here. -/
def StartsToken (cs : List Char) : Prop := ∃ t rest, Token.Valid t ∧ cs = t.text ++ rest

/-- Where the bad token starts. -/
def Problem.position : Problem → Nat
  | .unterminated p => p
  | .invalidName _ p => p
  | .singleBrace p => p

/-! ### Names -/

theorem isNameChar_iff {c : Char} :
    isNameChar c = true ↔
      'A' ≤ c ∧ c ≤ 'Z' ∨ 'a' ≤ c ∧ c ≤ 'z' ∨ '0' ≤ c ∧ c ≤ '9' ∨ c = '_' := by
  have hranges : isNameChar c = (((decide ('A' ≤ c ∧ c ≤ 'Z') ||
      (decide ('a' ≤ c) && decide (c ≤ 'z'))) || (decide ('0' ≤ c) && decide (c ≤ '9'))) ||
        c == '_') := rfl
  rw [hranges]
  simp only [Bool.or_eq_true, Bool.and_eq_true, decide_eq_true_eq, beq_iff_eq, or_assoc]

theorem isName_iff {cs : List Char} : isName cs = true ↔ IsPlaceholderName cs := by
  simp only [isName, IsPlaceholderName, Bool.and_eq_true, Bool.not_eq_true',
    List.isEmpty_eq_false_iff, List.all_eq_true, isNameChar_iff, ne_eq]

theorem closeBrace_not_mem {cs : List Char} (h : IsPlaceholderName cs) : '\x7d' ∉ cs := by
  intro hmem
  have hname := h.2 _ hmem
  revert hname
  decide

theorem exists_cons_of_name {cs : List Char} (h : IsPlaceholderName cs) :
    ∃ c rest, cs = c :: rest ∧ c ≠ '\x7b' := by
  obtain ⟨c, rest, rfl⟩ := List.exists_cons_of_ne_nil h.1
  refine ⟨c, rest, rfl, ?_⟩
  rintro rfl
  have hname := h.2 _ List.mem_cons_self
  revert hname
  decide

/-! ### Single tokens -/

@[simp] theorem byteLength_append (cs ds : List Char) :
    byteLength (cs ++ ds) = byteLength cs + byteLength ds := by
  induction cs with
  | nil => simp [byteLength]
  | cons c rest ih => simp [byteLength, ih, Nat.add_assoc]

theorem tokens_placeholder {inner : List Char} (h : IsPlaceholderName inner) (p : Nat)
    (rest : List Char) :
    tokens p ('\x7b' :: (inner ++ '\x7d' :: rest)) =
      (tokens (p + byteLength inner + 2) rest).map (.placeholder inner :: ·) := by
  have hclosed := closeBrace_not_mem h
  have hname := isName_iff.2 h
  obtain ⟨c, cs, hinner, hc⟩ := exists_cons_of_name h
  have hsingle : ∀ more, inner ++ '\x7d' :: rest = '\x7b' :: more → False := by
    intro more heq
    rw [hinner] at heq
    exact hc (List.cons.inj heq).1
  rw [tokens.eq_3 p _ hsingle]
  split
  · next hnone => simp [Text.dropWhile_append_mark hclosed] at hnone
  · next first more hdrop =>
    rw [Text.dropWhile_append_mark hclosed] at hdrop
    obtain ⟨-, rfl⟩ := List.cons.inj hdrop
    rw [Text.takeWhile_append_mark hclosed, if_pos hname]
    rfl

/-- A token of the grammar is read as it was spelled. -/
theorem tokens_text_append {t : Token} (ht : t.Valid) (p : Nat) (rest : List Char) :
    tokens p (t.text ++ rest) = (tokens (p + byteLength t.text) rest).map (t :: ·) := by
  cases t with
  | char c =>
    obtain ⟨hopen, hclose⟩ := ht
    exact tokens.eq_6 p c rest (fun _ heq => absurd heq hopen) hopen
      (fun _ heq => absurd heq hclose) hclose
  | openBrace => exact tokens.eq_2 p rest
  | closeBrace => exact tokens.eq_4 p rest
  | placeholder name =>
    have hlength : byteLength (Token.placeholder name).text = byteLength name + 2 := by
      have hopen : '\x7b'.utf8Size = 1 := by decide
      have hclose : '\x7d'.utf8Size = 1 := by decide
      simp only [Token.text, byteLength, byteLength_append, hopen, hclose]
      omega
    rw [hlength, ← Nat.add_assoc, ← tokens_placeholder ht]
    simp [Token.text]

/-- Where no token begins there is nothing, or a problem. -/
theorem tokens_eq_error_of_not_startsToken {cs : List Char} (hne : cs ≠ []) (h : ¬StartsToken cs)
    (p : Nat) : ∃ problem, tokens p cs = .error problem ∧ problem.position = p := by
  have hstart : ∀ (t : Token) (rest : List Char), t.Valid → cs ≠ t.text ++ rest := by
    intro t rest ht heq
    exact h ⟨t, rest, ht, heq⟩
  fun_cases tokens p cs with
  | case1 => exact absurd rfl hne
  | case2 more => exact absurd rfl (hstart .openBrace more trivial)
  | case3 rest hsingle hdrop => exact ⟨_, rfl, rfl⟩
  | case4 rest hsingle inner first more hdrop hname =>
    have hfirst := List.head?_dropWhile_not (· != '\x7d') rest
    rw [hdrop] at hfirst
    have hclose : first = '\x7d' := by simpa using hfirst
    have hrest : rest = inner ++ '\x7d' :: more := by
      rw [← hclose, ← hdrop, List.takeWhile_append_dropWhile]
    refine absurd ?_ (hstart (.placeholder inner) more (isName_iff.1 hname))
    simp [Token.text, ← hrest]
  | case5 rest hsingle inner first more hdrop hname => exact ⟨_, rfl, rfl⟩
  | case6 more => exact absurd rfl (hstart .closeBrace more trivial)
  | case7 tail hsingle => exact ⟨_, rfl, rfl⟩
  | case8 c rest hdouble hopen hdouble' hclose =>
    exact absurd rfl (hstart (.char c) rest ⟨hopen, hclose⟩)

/-! ### All tokens of a text -/

theorem text_ne_nil (t : Token) : t.text ≠ [] := by
  cases t <;> simp [Token.text]

/-- Tokens are taken off a text until none begins. -/
theorem exists_spell (cs : List Char) :
    ∃ ts rest, (∀ t ∈ ts, Token.Valid t) ∧ cs = spell ts ++ rest ∧ ¬StartsToken rest := by
  by_cases h : StartsToken cs
  · obtain ⟨t, more, ht, rfl⟩ := h
    have hshorter : more.length < (t.text ++ more).length := by
      have hlength := List.length_pos_iff.2 (text_ne_nil t)
      rw [List.length_append]
      omega
    obtain ⟨ts, rest, hts, rfl, hrest⟩ := exists_spell more
    refine ⟨t :: ts, rest, ?_, by simp, hrest⟩
    rw [List.forall_mem_cons]
    exact ⟨ht, hts⟩
  · exact ⟨[], cs, by simp, rfl, h⟩
termination_by cs.length

theorem tokens_spell_append {ts : List Token} (hts : ∀ t ∈ ts, Token.Valid t) (p : Nat)
    (rest : List Char) :
    tokens p (spell ts ++ rest) = (tokens (p + byteLength (spell ts)) rest).map (ts ++ ·) := by
  induction ts generalizing p with
  | nil =>
    simp only [spell_nil, List.nil_append, byteLength, Nat.add_zero]
    cases tokens p rest <;> rfl
  | cons t ts ih =>
    obtain ⟨ht, hts⟩ := List.forall_mem_cons.1 hts
    rw [spell_cons, List.append_assoc, tokens_text_append ht, ih hts, byteLength_append,
      Nat.add_assoc]
    cases tokens (p + (byteLength t.text + byteLength (spell ts))) rest <;> rfl

/-- A text is read as far as it is made of tokens. What comes then, if anything, is a problem. -/
theorem tokens_cases (p : Nat) (cs : List Char) :
    (∃ ts, (∀ t ∈ ts, Token.Valid t) ∧ cs = spell ts ∧ tokens p cs = .ok ts) ∨
      ∃ ts rest problem, (∀ t ∈ ts, Token.Valid t) ∧ cs = spell ts ++ rest ∧ rest ≠ [] ∧
        ¬StartsToken rest ∧ tokens p cs = .error problem ∧
        problem.position = p + byteLength (spell ts) := by
  obtain ⟨ts, rest, hts, rfl, hrest⟩ := exists_spell cs
  have hread := tokens_spell_append hts p rest
  by_cases hne : rest = []
  · subst hne
    refine Or.inl ⟨ts, hts, by simp, ?_⟩
    rw [hread, tokens]
    simp [Except.map]
  · obtain ⟨problem, herror, hposition⟩ :=
      tokens_eq_error_of_not_startsToken hne hrest (p + byteLength (spell ts))
    refine Or.inr ⟨ts, rest, problem, hts, rfl, hne, hrest, ?_, hposition⟩
    rw [hread, herror]
    rfl

/-- The texts that can be read are those that are made of tokens, and these are what is read. -/
theorem tokens_eq_ok_iff {p : Nat} {cs : List Char} {ts : List Token} :
    tokens p cs = .ok ts ↔ (∀ t ∈ ts, Token.Valid t) ∧ cs = spell ts := by
  constructor
  · intro h
    rcases tokens_cases p cs with ⟨us, hus, heq, hread⟩ | ⟨us, rest, problem, -, -, -, -, hread, -⟩
    · rw [h] at hread
      obtain rfl := Except.ok.inj hread
      exact ⟨hus, heq⟩
    · rw [h] at hread
      cases hread
  · rintro ⟨hts, rfl⟩
    have hread := tokens_spell_append hts p []
    rw [List.append_nil, tokens] at hread
    simpa [Except.map] using hread

theorem tokens_eq_error {p : Nat} {cs : List Char} {problem : Problem}
    (h : tokens p cs = .error problem) :
    ∃ ts rest, (∀ t ∈ ts, Token.Valid t) ∧ cs = spell ts ++ rest ∧ rest ≠ [] ∧ ¬StartsToken rest ∧
      problem.position = p + byteLength (spell ts) := by
  rcases tokens_cases p cs with ⟨us, -, -, hread⟩ |
    ⟨us, rest, found, hus, heq, hne, hrest, hread, hp⟩
  · rw [h] at hread
    cases hread
  · rw [h] at hread
    obtain rfl := Except.error.inj hread
    exact ⟨us, rest, hus, heq, hne, hrest, hp⟩

end CodeStencil.Template
