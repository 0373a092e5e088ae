/-
  CodeStencil/Proofs/Template/Parsing.lean
  ========================================
  **Templates and their texts** — a template is written by doubling the braces of its literals. What
  is read from a text is written as that text again, and what is written is read as it was, if names
  are names and literals are kept together (`parse_accepts_grammar`).
-/
import Mathlib.Data.List.Chain
import CodeStencil.Proofs.Template.Grammar
import CodeStencil.Template.Basic

namespace CodeStencil.Template

/-! ### Writing -/

/-- A character as it stands in the text of a template. -/
def spellChar (c : Char) : List Char := if c = '\x7b' ∨ c = '\x7d' then [c, c] else [c]

def Segment.spell : Segment → List Char
  | .literal text => text.flatMap spellChar
  | .placeholder name => '\x7b' :: (name.toList ++ ['\x7d'])

def spellAll (segments : List Segment) : List Char := segments.flatMap Segment.spell

@[simp] theorem spellAll_nil : spellAll [] = [] := rfl

@[simp] theorem spellAll_cons (s : Segment) (segments : List Segment) :
    spellAll (s :: segments) = s.spell ++ spellAll segments := rfl

/-- The text that segments are written as. -/
def written (segments : List Segment) : String := String.ofList (spellAll segments)

namespace Segment

def IsLiteral : Segment → Prop
  | .literal _ => True
  | .placeholder _ => False

def Valid : Segment → Prop
  | .literal text => text ≠ []
  | .placeholder name => IsPlaceholderName name.toList

end Segment

/-- Names are names, no literal is empty, and none follows another one. -/
structure Tidy (segments : List Segment) : Prop where
  valid : ∀ s ∈ segments, s.Valid
  apart : segments.IsChain fun s s' => s.IsLiteral → ¬s'.IsLiteral

/-! ### From tokens to segments -/

@[simp] theorem spellAll_consChar (c : Char) (segments : List Segment) :
    spellAll (consChar c segments) = spellChar c ++ spellAll segments := by
  cases segments with
  | nil => simp [consChar, Segment.spell]
  | cons s rest => cases s <;> simp [consChar, Segment.spell]

theorem spellAll_segmentsOf {ts : List Token} (hts : ∀ t ∈ ts, Token.Valid t) :
    spellAll (segmentsOf ts) = spell ts := by
  induction ts with
  | nil => rfl
  | cons t ts ih =>
    obtain ⟨ht, hrest⟩ := List.forall_mem_cons.1 hts
    have hmore := ih hrest
    cases t with
    | char c =>
      obtain ⟨hopen, hclose⟩ := ht
      simp [segmentsOf, spellChar, hopen, hclose, Token.text, hmore]
    | openBrace => simp [segmentsOf, spellChar, Token.text, hmore]
    | closeBrace => simp [segmentsOf, spellChar, Token.text, hmore]
    | placeholder name => simp [segmentsOf, Segment.spell, Token.text, hmore]

theorem tidy_nil : Tidy [] := ⟨by simp, .nil⟩

theorem tidy_cons {s : Segment} {segments : List Segment} :
    Tidy (s :: segments) ↔
      s.Valid ∧ (s.IsLiteral → ∀ s' ∈ segments.head?, ¬s'.IsLiteral) ∧ Tidy segments := by
  constructor
  · rintro ⟨hvalid, hapart⟩
    obtain ⟨hs, hrest⟩ := List.forall_mem_cons.1 hvalid
    obtain ⟨hnext, hmore⟩ := List.isChain_cons.1 hapart
    exact ⟨hs, fun hliteral s' hs' => hnext s' hs' hliteral, hrest, hmore⟩
  · rintro ⟨hs, hnext, hrest, hmore⟩
    constructor
    · exact List.forall_mem_cons.2 ⟨hs, hrest⟩
    · exact List.isChain_cons.2 ⟨fun s' hs' hliteral => hnext hliteral s' hs', hmore⟩

/-- A character in front makes up a literal, or becomes part of one. -/
theorem Tidy.consChar {segments : List Segment} (h : Tidy segments) (c : Char) :
    Tidy (consChar c segments) := by
  cases segments with
  | nil => exact tidy_cons.2 ⟨List.cons_ne_nil c [], fun _ => by simp, tidy_nil⟩
  | cons s rest =>
    cases s with
    | literal text =>
      obtain ⟨-, hnext, hrest⟩ := tidy_cons.1 h
      exact tidy_cons.2 ⟨List.cons_ne_nil c text, hnext, hrest⟩
    | placeholder name =>
      refine tidy_cons.2 ⟨List.cons_ne_nil c [], ?_, h⟩
      intro _ s' hs'
      rw [← Option.some.inj hs']
      exact id

theorem tidy_segmentsOf {ts : List Token} (hts : ∀ t ∈ ts, Token.Valid t) :
    Tidy (segmentsOf ts) := by
  induction ts with
  | nil => exact tidy_nil
  | cons t ts ih =>
    obtain ⟨ht, hrest⟩ := List.forall_mem_cons.1 hts
    have hmore := ih hrest
    cases t with
    | char c => exact hmore.consChar c
    | openBrace => exact hmore.consChar '\x7b'
    | closeBrace => exact hmore.consChar '\x7d'
    | placeholder name =>
      refine tidy_cons.2 ⟨?_, False.elim, hmore⟩
      rw [Segment.Valid, String.toList_ofList]
      exact ht

/-! ### From segments to tokens -/

def tokenOf (c : Char) : Token :=
  if c = '\x7b' then .openBrace else if c = '\x7d' then .closeBrace else .char c

def Segment.tokens : Segment → List Token
  | .literal text => text.map tokenOf
  | .placeholder name => [.placeholder name.toList]

@[simp] theorem text_tokenOf (c : Char) : (tokenOf c).text = spellChar c := by
  by_cases hopen : c = '\x7b'
  · simp [tokenOf, spellChar, hopen, Token.text]
  · by_cases hclose : c = '\x7d'
    · simp [tokenOf, spellChar, hclose, Token.text]
    · simp [tokenOf, spellChar, hopen, hclose, Token.text]

theorem valid_tokenOf (c : Char) : (tokenOf c).Valid := by
  unfold tokenOf
  split
  · trivial
  · next hopen =>
    split
    · trivial
    · next hclose => exact ⟨hopen, hclose⟩

@[simp] theorem segmentsOf_tokenOf (c : Char) (ts : List Token) :
    segmentsOf (tokenOf c :: ts) = consChar c (segmentsOf ts) := by
  unfold tokenOf
  split
  · next hopen => rw [segmentsOf, hopen]
  · split
    · next hclose => rw [segmentsOf, hclose]
    · rw [segmentsOf]

theorem spell_tokens (s : Segment) : Template.spell s.tokens = s.spell := by
  cases s with
  | literal text => simp [Segment.tokens, Segment.spell, Template.spell, List.flatMap_map]
  | placeholder name => simp [Segment.tokens, Segment.spell, Token.text]

theorem valid_tokens {s : Segment} (h : s.Valid) : ∀ t ∈ s.tokens, t.Valid := by
  cases s with
  | literal text =>
    intro t ht
    obtain ⟨c, -, rfl⟩ := List.mem_map.1 ht
    exact valid_tokenOf c
  | placeholder name =>
    intro t ht
    rw [List.mem_singleton.1 ht]
    exact h

/-- The characters of a literal become one segment, unless a literal comes next. -/
theorem segmentsOf_literal {text : List Char} (hne : text ≠ []) {ts : List Token}
    (hnext : ∀ s ∈ (segmentsOf ts).head?, ¬s.IsLiteral) :
    segmentsOf (text.map tokenOf ++ ts) = .literal text :: segmentsOf ts := by
  induction text with
  | nil => exact absurd rfl hne
  | cons c rest ih =>
    rw [List.map_cons, List.cons_append, segmentsOf_tokenOf]
    by_cases hrest : rest = []
    · subst hrest
      rw [List.map_nil, List.nil_append]
      cases hsegments : segmentsOf ts with
      | nil => rfl
      | cons s more =>
        cases s with
        | literal text => exact absurd trivial (hnext (.literal text) (by simp [hsegments]))
        | placeholder name => rfl
    · rw [ih hrest]
      rfl

theorem segmentsOf_tokens {segments : List Segment} (h : Tidy segments) :
    segmentsOf (segments.flatMap Segment.tokens) = segments := by
  induction segments with
  | nil => rfl
  | cons s rest ih =>
    obtain ⟨hs, hnext, hrest⟩ := tidy_cons.1 h
    have hback := ih hrest
    rw [List.flatMap_cons]
    cases s with
    | literal text =>
      rw [Segment.tokens, segmentsOf_literal hs, hback]
      rw [hback]
      exact hnext trivial
    | placeholder name => simp [Segment.tokens, segmentsOf, hback]

theorem spell_flatMap_tokens (segments : List Segment) :
    Template.spell (segments.flatMap Segment.tokens) = spellAll segments := by
  induction segments with
  | nil => rfl
  | cons s rest ih => rw [List.flatMap_cons, spell_append, spell_tokens, ih, spellAll_cons]

theorem valid_flatMap_tokens {segments : List Segment} (h : Tidy segments) :
    ∀ t ∈ segments.flatMap Segment.tokens, t.Valid := by
  intro t ht
  obtain ⟨s, hs, ht⟩ := List.mem_flatMap.1 ht
  exact valid_tokens (h.valid s hs) t ht

/-! ### Reading -/

theorem readSegments_eq_ok {text : String} {segments : List Segment} :
    readSegments text = .ok segments ↔ Tidy segments ∧ written segments = text := by
  unfold readSegments written
  constructor
  · intro h
    cases hread : tokens 0 text.toList with
    | error problem =>
      rw [hread] at h
      cases h
    | ok ts =>
      rw [hread] at h
      obtain rfl : segmentsOf ts = segments := Except.ok.inj h
      obtain ⟨hts, hspell⟩ := tokens_eq_ok_iff.1 hread
      refine ⟨tidy_segmentsOf hts, ?_⟩
      rw [spellAll_segmentsOf hts, ← hspell, String.ofList_toList]
  · rintro ⟨htidy, rfl⟩
    have hread : tokens 0 (spellAll segments) = .ok (segments.flatMap Segment.tokens) :=
      tokens_eq_ok_iff.2 ⟨valid_flatMap_tokens htidy, (spell_flatMap_tokens segments).symm⟩
    rw [String.toList_ofList, hread]
    exact congrArg Except.ok (segmentsOf_tokens htidy)

theorem parse_eq_ok {name text : String} {t : Template} :
    parse name text = .ok t ↔ t.name = name ∧ readSegments text = .ok t.segments := by
  unfold parse
  obtain ⟨n, segments⟩ := t
  cases readSegments text with
  | error problem => simp
  | ok found => simp [eq_comm]

theorem parse_eq_error {name text : String} {e : Error} (h : parse name text = .error e) :
    ∃ problem, tokens 0 text.toList = .error problem ∧ e = .malformedTemplate name problem := by
  unfold parse readSegments at h
  cases hread : tokens 0 text.toList with
  | error problem =>
    rw [hread] at h
    exact ⟨problem, rfl, (Except.error.inj h).symm⟩
  | ok ts =>
    rw [hread] at h
    cases h

theorem exists_parse_iff {name text : String} :
    (∃ t, parse name text = .ok t) ↔
      ∃ ts, (∀ t ∈ ts, Token.Valid t) ∧ text.toList = spell ts := by
  constructor
  · rintro ⟨t, h⟩
    obtain ⟨htidy, hwritten⟩ := readSegments_eq_ok.1 (parse_eq_ok.1 h).2
    refine ⟨t.segments.flatMap Segment.tokens, valid_flatMap_tokens htidy, ?_⟩
    rw [spell_flatMap_tokens, ← hwritten, written, String.toList_ofList]
  · rintro ⟨ts, hts, htext⟩
    refine ⟨⟨name, segmentsOf ts⟩, parse_eq_ok.2 ⟨rfl, readSegments_eq_ok.2 ?_⟩⟩
    refine ⟨tidy_segmentsOf hts, ?_⟩
    rw [written, spellAll_segmentsOf hts, ← htext, String.ofList_toList]

theorem utf8ByteSize_ofList (cs : List Char) : (String.ofList cs).utf8ByteSize = byteLength cs := by
  induction cs with
  | nil => rfl
  | cons c rest ih =>
    rw [← List.singleton_append, String.ofList_append, String.utf8ByteSize_append, ih,
      ← String.singleton_eq_ofList, String.utf8ByteSize_singleton, byteLength_append]
    rfl

/-- The wording of a problem ends with its position. -/
theorem Problem.exists_text_eq (problem : Problem) :
    ∃ what, problem.text = what ++ " at byte " ++ Text.decimal problem.position := by
  cases problem with
  | unterminated p =>
    have htext : "unterminated placeholder at byte " =
        "unterminated placeholder" ++ " at byte " := by decide +kernel
    exact ⟨"unterminated placeholder", congrArg (· ++ Text.decimal p) htext⟩
  | invalidName inner p =>
    have htext : "\x7d' at byte " = "\x7d'" ++ " at byte " := by decide +kernel
    have hinner := (congrArg ("invalid placeholder '\x7b" ++ inner ++ ·) htext).trans
      String.append_assoc.symm
    exact ⟨_, congrArg (· ++ Text.decimal p) hinner⟩
  | singleBrace p =>
    have htext : "single '\x7d' encountered at byte " =
        "single '\x7d' encountered" ++ " at byte " := by decide +kernel
    exact ⟨"single '\x7d' encountered", congrArg (· ++ Text.decimal p) htext⟩

/-- A text is a template exactly if it is made of tokens. The segments that are read are tidy and
    are written as the text again; tidy segments that are written are read as they were. A text that
    is no template is one up to a position, which is reported, and no token begins there. -/
theorem parse_accepts_grammar (name text : String) :
    ((∃ t, parse name text = .ok t) ↔
        ∃ ts, (∀ t ∈ ts, Token.Valid t) ∧ text.toList = spell ts) ∧
      (∀ t, parse name text = .ok t →
        t.name = name ∧ Tidy t.segments ∧ written t.segments = text) ∧
      (∀ segments, Tidy segments → parse name (written segments) = .ok ⟨name, segments⟩) ∧
      ∀ e, parse name text = .error e →
        ∃ problem before after, e = .malformedTemplate name problem ∧ text = before ++ after ∧
          before.utf8ByteSize = problem.position ∧ (∃ t, parse name before = .ok t) ∧
          after ≠ "" ∧ ¬StartsToken after.toList ∧
          ∃ what, problem.text = what ++ " at byte " ++ Text.decimal problem.position := by
  refine ⟨exists_parse_iff, ?_, ?_, ?_⟩
  · intro t h
    obtain ⟨hname, hread⟩ := parse_eq_ok.1 h
    exact ⟨hname, readSegments_eq_ok.1 hread⟩
  · intro segments htidy
    exact parse_eq_ok.2 ⟨rfl, readSegments_eq_ok.2 ⟨htidy, rfl⟩⟩
  · intro e h
    obtain ⟨problem, hproblem, rfl⟩ := parse_eq_error h
    obtain ⟨ts, rest, hts, htext, hne, hrest, hposition⟩ := tokens_eq_error hproblem
    refine ⟨problem, String.ofList (spell ts), String.ofList rest, rfl, ?_, ?_, ?_, ?_, ?_,
      problem.exists_text_eq⟩
    · rw [← String.ofList_append, ← htext, String.ofList_toList]
    · rw [utf8ByteSize_ofList, hposition, Nat.zero_add]
    · exact exists_parse_iff.2 ⟨ts, hts, String.toList_ofList⟩
    · intro hempty
      apply hne
      rw [← String.toList_ofList (l := rest), hempty]
      rfl
    · rw [String.toList_ofList]
      exact hrest

/-- Three braces are a doubled one and a placeholder; and an inner brace spoils the placeholder that
    begins before it, here behind a letter of two bytes. -/
theorem braces_are_told_apart :
    parse "t" "\x7b\x7b\x7ba\x7d\x7d\x7d" =
        .ok ⟨"t", [.literal ['\x7b'], .placeholder "a", .literal ['\x7d']]⟩ ∧
      ∃ before after, "é\x7ba\x7bb\x7d" = before ++ after ∧ before.utf8ByteSize = 2 ∧
        (∃ t, parse "t" before = .ok t) ∧ ¬StartsToken after.toList := by
  have hfails : parse "t" "é\x7ba\x7bb\x7d" =
      .error (.malformedTemplate "t" (.invalidName "a\x7bb" 2)) := by
    have hproblem : (match tokens 0 "é\x7ba\x7bb\x7d".toList with
        | .ok _ => none
        | .error problem => some problem) = some (.invalidName "a\x7bb" 2) := by
      decide +kernel
    cases htokens : tokens 0 "é\x7ba\x7bb\x7d".toList with
    | ok ts =>
      rw [htokens] at hproblem
      cases hproblem
    | error problem =>
      rw [htokens] at hproblem
      unfold parse readSegments
      rw [htokens, Option.some.inj hproblem]
      rfl
  have htidy : Tidy [.literal ['\x7b'], .placeholder "a", .literal ['\x7d']] := by
    refine tidy_cons.2 ⟨List.cons_ne_nil _ [], ?_, tidy_cons.2 ⟨?_, False.elim, ?_⟩⟩
    · intro _ s hs
      rw [← Option.some.inj hs]
      exact id
    · exact isName_iff.1 (by decide)
    · exact tidy_cons.2 ⟨List.cons_ne_nil _ [], fun _ => by simp, tidy_nil⟩
  obtain ⟨-, -, hback, herror⟩ := parse_accepts_grammar "t" "é\x7ba\x7bb\x7d"
  obtain ⟨problem, before, after, heq, htext, hsize, hparses, -, hstarts, -⟩ := herror _ hfails
  obtain ⟨-, rfl⟩ := Error.malformedTemplate.inj heq
  have hwritten : written [.literal ['\x7b'], .placeholder "a", .literal ['\x7d']] =
      "\x7b\x7b\x7ba\x7d\x7d\x7d" := by decide +kernel
  have hread := hback _ htidy
  rw [hwritten] at hread
  exact ⟨hread, before, after, htext, hsize, hparses, hstarts⟩

end CodeStencil.Template
