/-
  CodeStencil/Proofs/Patterns/Matching.lean
  =========================================
  **What patterns match** — a word matches itself, and a repeated set takes all it can before
  something that is not in the set (`run_repeated_eq_some`). A search finds the first place at which
  a match begins (`search_eq_some`). If no match is empty, the next search begins right where a match
  ends (`searchAll_succ`).
-/
import CodeStencil.Pattern.Basic
import CodeStencil.Proofs.Text.Splitting
import Mathlib.Data.List.TakeWhile

namespace CodeStencil

namespace CharSet

/-- The set of one character. -/
def only (c : Char) : CharSet := ⟨false, [.range c c], false⟩

/-- All characters but one. -/
def allBut (c : Char) : CharSet := ⟨true, [.range c c], false⟩

theorem contains_only {c d : Char} : (only c).contains d = true ↔ d = c := by
  have hcontains : (only c).contains d = (decide (c ≤ d) && decide (d ≤ c)) := by
    simp [contains, only, Item.contains]
  rw [hcontains, Bool.and_eq_true, decide_eq_true_eq, decide_eq_true_eq]
  constructor
  · rintro ⟨hle, hge⟩
    exact Char.le_antisymm hge hle
  · rintro rfl
    exact ⟨Char.le_refl _, Char.le_refl _⟩

theorem contains_allBut {c d : Char} : (allBut c).contains d = true ↔ d ≠ c := by
  have hnegated : (allBut c).contains d = !(only c).contains d := by
    simp [contains, only, allBut]
  rw [hnegated, Bool.not_eq_true', ne_eq, ← contains_only, Bool.not_eq_true]

end CharSet

namespace Pattern

variable {set : CharSet} {next : Next} {p q : Place}

/-! ### Places -/

/-- The place behind some characters, with these after it. -/
def Place.behind (p : Place) (taken rest : List Char) : Place :=
  ⟨taken.getLast?.or p.before, rest, p.groups⟩

@[simp] theorem Place.rest_behind (p : Place) (taken rest : List Char) :
    (p.behind taken rest).rest = rest := rfl

theorem Place.behind_nil {rest : List Char} (hrest : p.rest = rest) : p.behind [] rest = p := by
  rw [← hrest]
  rfl

theorem Place.behind_behind (p : Place) (xs ys rest more : List Char) :
    (p.behind xs rest).behind ys more = p.behind (xs ++ ys) more := by
  simp [behind, List.getLast?_append, Option.or_assoc]

/-! ### Characters and words -/

theorem run_char_of_cons {c : Char} {rest : List Char} (hrest : p.rest = c :: rest) :
    (Pattern.char set).run next p =
      if set.contains c then next (p.behind [c] rest) else none := by
  rw [run]
  dsimp only
  rw [hrest]
  rfl

theorem run_char_of_nil (hrest : p.rest = []) : (Pattern.char set).run next p = none := by
  rw [run]
  dsimp only
  rw [hrest]

theorem run_char_eq_some : (Pattern.char set).run next p = some q ↔
    ∃ c rest, p.rest = c :: rest ∧ set.contains c = true ∧ next (p.behind [c] rest) = some q := by
  cases hrest : p.rest with
  | nil => simp [run_char_of_nil hrest]
  | cons c rest =>
    rw [run_char_of_cons hrest, Option.ite_none_right_eq_some]
    constructor
    · rintro ⟨hc, hnext⟩
      exact ⟨c, rest, rfl, hc, hnext⟩
    · rintro ⟨c', rest', heq, hc, hnext⟩
      obtain ⟨rfl, rfl⟩ := List.cons.inj heq
      exact ⟨hc, hnext⟩

theorem run_only_eq_some {c : Char} : (Pattern.char (.only c)).run next p = some q ↔
    ∃ rest, p.rest = c :: rest ∧ next (p.behind [c] rest) = some q := by
  rw [run_char_eq_some]
  constructor
  · rintro ⟨d, rest, hrest, hd, hnext⟩
    obtain rfl := CharSet.contains_only.1 hd
    exact ⟨rest, hrest, hnext⟩
  · rintro ⟨rest, hrest, hnext⟩
    exact ⟨c, rest, hrest, CharSet.contains_only.2 rfl, hnext⟩

/-- The characters of a word one by one, and then something else. -/
def word (chars : List Char) (tail : Pattern) : Pattern :=
  chars.foldr (fun c pattern => .seq (.char (.only c)) pattern) tail

theorem run_word_eq_some {chars : List Char} {tail : Pattern} :
    (word chars tail).run next p = some q ↔
      ∃ rest, p.rest = chars ++ rest ∧ tail.run next (p.behind chars rest) = some q := by
  induction chars generalizing p with
  | nil =>
    constructor
    · intro h
      exact ⟨p.rest, rfl, h⟩
    · rintro ⟨rest, hrest, h⟩
      rw [Place.behind_nil (by simpa using hrest)] at h
      exact h
  | cons c chars ih =>
    change (Pattern.char (.only c)).run ((word chars tail).run next) p = some q ↔ _
    rw [run_only_eq_some]
    constructor
    · rintro ⟨rest, hrest, h⟩
      obtain ⟨more, rfl, h⟩ := ih.1 h
      rw [Place.behind_behind] at h
      exact ⟨more, hrest, h⟩
    · rintro ⟨rest, hrest, h⟩
      refine ⟨chars ++ rest, hrest, ih.2 ⟨rest, rfl, ?_⟩⟩
      rw [Place.behind_behind]
      exact h

/-! ### Repetitions -/

/-- As many characters of a set as there are. -/
def repeated (set : CharSet) : Pattern := .many 0 none true (.char set)

/-- What comes next does not begin with a character of the set. -/
def StopsAt (set : CharSet) (next : Next) : Prop :=
  ∀ q : Place, ∀ c rest, q.rest = c :: rest → set.contains c = true → next q = none

theorem upTo_char (hstop : StopsAt set next) {n : Nat} (hn : p.rest.length < n) :
    upTo (Pattern.char set).run true n next p =
      next (p.behind (p.rest.takeWhile set.contains) (p.rest.dropWhile set.contains)) := by
  induction n generalizing p with
  | zero => exact absurd hn (Nat.not_lt_zero _)
  | succ n ih =>
    rw [upTo]
    dsimp only
    rw [if_pos rfl]
    cases hrest : p.rest with
    | nil =>
      rw [run_char_of_nil hrest, Option.none_or, List.takeWhile_nil, List.dropWhile_nil,
        Place.behind_nil hrest]
    | cons c rest =>
      rw [run_char_of_cons hrest]
      by_cases hc : set.contains c = true
      · have hshorter : (p.behind [c] rest).rest.length < (c :: rest).length := by simp
        have hfits : (p.behind [c] rest).rest.length < n := by
          rw [hrest] at hn
          exact Nat.lt_of_succ_lt_succ hn
        rw [if_pos hc, if_pos hshorter, ih hfits, hstop p c rest hrest hc, Option.or_none,
          Place.behind_behind, List.takeWhile_cons_of_pos hc, List.dropWhile_cons_of_pos hc]
        rfl
      · rw [if_neg hc, Option.none_or, List.takeWhile_cons_of_neg hc,
          List.dropWhile_cons_of_neg hc, Place.behind_nil hrest]

theorem run_repeated (hstop : StopsAt set next) : (repeated set).run next p =
    next (p.behind (p.rest.takeWhile set.contains) (p.rest.dropWhile set.contains)) :=
  upTo_char hstop (Nat.lt_succ_self _)

theorem run_repeated_eq_some (hstop : StopsAt set next) : (repeated set).run next p = some q ↔
    ∃ taken rest, p.rest = taken ++ rest ∧ (∀ c ∈ taken, set.contains c = true) ∧
      next (p.behind taken rest) = some q := by
  rw [run_repeated hstop]
  constructor
  · intro h
    exact ⟨_, _, List.takeWhile_append_dropWhile.symm, List.all_eq_true.1 List.all_takeWhile, h⟩
  · rintro ⟨taken, rest, hrest, htaken, h⟩
    -- what is taken cannot be longer, since something else comes next
    have hnone : rest.takeWhile set.contains = [] ∧ rest.dropWhile set.contains = rest := by
      cases rest with
      | nil => exact ⟨rfl, rfl⟩
      | cons c more =>
        have hc : ¬set.contains c = true := by
          intro hc
          rw [hstop _ c more rfl hc] at h
          cases h
        exact ⟨List.takeWhile_cons_of_neg hc, List.dropWhile_cons_of_neg hc⟩
    rw [hrest, List.takeWhile_append_of_pos htaken, List.dropWhile_append_of_pos htaken, hnone.1,
      hnone.2, List.append_nil]
    exact h

/-- What comes after a group that began where these characters were ahead. -/
def taking (index : Nat) (ahead : List Char) (next : Next) : Next := fun q =>
  next { q with groups := (index, ahead.take (ahead.length - q.rest.length)) :: q.groups }

theorem StopsAt.taking (hstop : StopsAt set next) (index : Nat) (ahead : List Char) :
    StopsAt set (taking index ahead next) := by
  intro q c rest hrest hc
  exact hstop _ c rest hrest hc

/-- A group around a repetition takes what is repeated. -/
theorem run_group_repeated_eq_some (hstop : StopsAt set next) {index : Nat} :
    (Pattern.group index (.seq (repeated set) .empty)).run next p = some q ↔
      ∃ taken rest, p.rest = taken ++ rest ∧ (∀ c ∈ taken, set.contains c = true) ∧
        next ⟨taken.getLast?.or p.before, rest, (index, taken) :: p.groups⟩ = some q := by
  have htaken : ∀ taken rest, p.rest = taken ++ rest →
      taking index p.rest next (p.behind taken rest) =
        next ⟨taken.getLast?.or p.before, rest, (index, taken) :: p.groups⟩ := by
    intro taken rest hrest
    simp [taking, Place.behind, hrest]
  change (repeated set).run (taking index p.rest next) p = some q ↔ _
  rw [run_repeated_eq_some (hstop.taking index p.rest)]
  constructor
  · rintro ⟨taken, rest, hrest, hall, h⟩
    rw [htaken taken rest hrest] at h
    exact ⟨taken, rest, hrest, hall, h⟩
  · rintro ⟨taken, rest, hrest, hall, h⟩
    rw [← htaken taken rest hrest] at h
    exact ⟨taken, rest, hrest, hall, h⟩

theorem stopsAt_char {other : CharSet} (h : ∀ c, set.contains c = true → other.contains c = false) :
    StopsAt set ((Pattern.char other).run next) := by
  intro q c rest hrest hc
  rw [run_char_of_cons hrest, h c hc]
  rfl

/-! ### Searching -/

section Search

variable {pattern : Pattern} {before : Option Char} {cs : List Char}

/-- The match that begins at a place between characters. -/
def matchAt (pattern : Pattern) (before : Option Char) (front back : List Char) : Option Place :=
  pattern.run some ⟨front.getLast?.or before, back, []⟩

theorem matchAt_cons (c : Char) (front back : List Char) :
    pattern.matchAt before (c :: front) back = pattern.matchAt (some c) front back := by
  simp [matchAt, List.getLast?_cons, Option.or_some]

theorem search_eq_none : pattern.search before cs = none ↔
    ∀ front back, cs = front ++ back → pattern.matchAt before front back = none := by
  induction cs generalizing before with
  | nil =>
    constructor
    · intro h front back hcs
      obtain ⟨rfl, rfl⟩ := List.append_eq_nil_iff.1 hcs.symm
      exact h
    · intro h
      exact h [] [] rfl
  | cons c rest ih =>
    rw [search, Option.or_eq_none_iff, ih]
    constructor
    · rintro ⟨hhere, hrest⟩ front back hcs
      cases front with
      | nil =>
        rw [← hcs.trans (List.nil_append back)]
        exact hhere
      | cons d front =>
        obtain ⟨rfl, htail⟩ := List.cons.inj hcs
        rw [matchAt_cons]
        exact hrest front back htail
    · intro h
      refine ⟨h [] (c :: rest) rfl, ?_⟩
      intro front back hcs
      rw [← matchAt_cons]
      exact h (c :: front) back (congrArg (c :: ·) hcs)

/-- A search ends at the match that begins first. -/
theorem search_eq_some : pattern.search before cs = some q ↔
    ∃ front back, cs = front ++ back ∧ pattern.matchAt before front back = some q ∧
      ∀ front' more, front = front' ++ more → more ≠ [] →
        pattern.matchAt before front' (more ++ back) = none := by
  induction cs generalizing before with
  | nil =>
    constructor
    · intro h
      refine ⟨[], [], rfl, h, ?_⟩
      intro front' more hfront hmore
      exact absurd (List.append_eq_nil_iff.1 hfront.symm).2 hmore
    · rintro ⟨front, back, hcs, hmatch, -⟩
      obtain ⟨rfl, rfl⟩ := List.append_eq_nil_iff.1 hcs.symm
      exact hmatch
  | cons c rest ih =>
    rw [search, Option.or_eq_some_iff, ih]
    constructor
    · rintro (hhere | ⟨hnone, front, back, rfl, hmatch, hfirst⟩)
      · refine ⟨[], c :: rest, rfl, hhere, ?_⟩
        intro front' more hfront hmore
        exact absurd (List.append_eq_nil_iff.1 hfront.symm).2 hmore
      · refine ⟨c :: front, back, rfl, by rw [matchAt_cons]; exact hmatch, ?_⟩
        intro front' more hfront hmore
        cases front' with
        | nil =>
          obtain rfl : c :: front = more := hfront
          exact hnone
        | cons d front' =>
          obtain ⟨rfl, htail⟩ := List.cons.inj hfront
          rw [matchAt_cons]
          exact hfirst front' more htail hmore
    · rintro ⟨front, back, hcs, hmatch, hfirst⟩
      cases front with
      | nil =>
        rw [← hcs.trans (List.nil_append back)] at hmatch
        exact Or.inl hmatch
      | cons d front =>
        obtain ⟨rfl, rfl⟩ := List.cons.inj hcs
        refine Or.inr ⟨hfirst [] (c :: front) rfl (by simp), front, back, rfl, ?_, ?_⟩
        · rw [← matchAt_cons]
          exact hmatch
        · intro front' more hfront hmore
          rw [← matchAt_cons]
          exact hfirst (c :: front') more (congrArg (c :: ·) hfront) hmore

/-- No match of the pattern is empty. -/
def Consumes (pattern : Pattern) : Prop :=
  ∀ p q : Place, pattern.run some p = some q → q.rest.length < p.rest.length

theorem Consumes.search (h : pattern.Consumes) (hsearch : pattern.search before cs = some q) :
    q.rest.length < cs.length := by
  obtain ⟨front, back, rfl, hmatch, -⟩ := search_eq_some.1 hsearch
  have hback := h _ _ hmatch
  rw [List.length_append]
  dsimp only at hback
  omega

/-- Behind a match that is not empty, the search goes on at once. -/
theorem searchAll_succ (h : pattern.Consumes) (fuel : Nat) (adjacent : Bool) :
    pattern.searchAll (fuel + 1) adjacent before cs =
      match pattern.search before cs with
      | none => []
      | some p => p :: pattern.searchAll fuel true p.before p.rest := by
  rw [searchAll.eq_def]
  dsimp only
  cases hsearch : pattern.search before cs with
  | none => rfl
  | some p =>
    have hlength : (p.rest.length == cs.length) = false := by
      have hshorter := h.search hsearch
      rw [beq_eq_false_iff_ne]
      omega
    simp [hlength]

end Search

end Pattern

end CodeStencil
