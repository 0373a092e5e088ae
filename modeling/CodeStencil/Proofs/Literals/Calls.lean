/-
  CodeStencil/Proofs/Literals/Calls.lean
  ======================================
  **Calls that mark literals** — the default pattern matches a call together with the character
  before it, which is no word character (`run_callPattern_eq_some`). Matches are taken from left to
  right and share no character. So a call is found exactly if such a character stands before it that
  belongs to no call found further left (`mem_captures_iff`). At the start of a text and right behind
  a call that is found, calls are missed.
-/
import CodeStencil.Proofs.Literals.Walking
import CodeStencil.Proofs.Patterns.Matching
import CodeStencil.Proofs.Text.Trimming

namespace CodeStencil.Literals

open Pattern (Place Next StopsAt)

/-! ### Calls -/

/-- What marks a literal. -/
def marker : List Char := "STR_TO_ID(".toList

/-- What stands in a call: a literal without quotes, and white space around its quotes. -/
structure Call where
  left : List Char
  literal : List Char
  right : List Char
  blank_left : Text.Blank left
  closed : '"' ∉ literal
  blank_right : Text.Blank right

def Call.text (k : Call) : List Char :=
  marker ++ (k.left ++ '"' :: (k.literal ++ '"' :: (k.right ++ [')'])))

theorem not_mem_of_blank {cs : List Char} {c : Char} (h : Text.Blank cs)
    (hc : Text.isBlank c = false) : c ∉ cs := by
  intro hmem
  rw [h c hmem] at hc
  cases hc

/-- A text begins with at most one call. -/
theorem Call.text_append_inj {k k' : Call} {rest rest' : List Char}
    (h : k.text ++ rest = k'.text ++ rest') : k.text = k'.text ∧ k.literal = k'.literal := by
  simp only [text, List.append_assoc, List.cons_append, List.nil_append] at h
  obtain ⟨hleft, h⟩ := Text.append_mark_inj (not_mem_of_blank k.blank_left (by decide))
    (not_mem_of_blank k'.blank_left (by decide)) (List.append_cancel_left h)
  obtain ⟨hliteral, h⟩ := Text.append_mark_inj k.closed k'.closed h
  obtain ⟨hright, -⟩ := Text.append_mark_inj (not_mem_of_blank k.blank_right (by decide))
    (not_mem_of_blank k'.blank_right (by decide)) h
  simp [text, hleft, hliteral, hright]

/-! ### The default pattern -/

def blanks : Pattern := .repeated ⟨false, [.blank true], false⟩

/-- The end of a call, from the second quote on. -/
def closing : Pattern := .seq (.char (.only '"')) (.seq blanks (.seq (.char (.only ')')) .empty))

/-- The literal, which the first group takes. -/
def literalGroup : Pattern := .group 1 (.seq (.repeated (.allBut '"')) .empty)

/-- A call and the character before it. -/
def callPattern : Pattern :=
  .seq (.char ⟨false, [.word false], false⟩)
    (.word marker (.seq blanks (.seq (.char (.only '"')) (.seq literalGroup closing))))

theorem compile_defaultPattern : compile defaultPattern = .ok callPattern := by
  have hparse : Pattern.parse? defaultPattern = some callPattern := by decide +kernel
  rw [compile, hparse]

variable {p q : Place} {next : Next}

theorem contains_blank {c : Char} :
    CharSet.contains ⟨false, [.blank true], false⟩ c = Text.isBlank c := by
  simp [CharSet.contains, CharSet.Item.contains]

theorem contains_nonWord {c : Char} :
    CharSet.contains ⟨false, [.word false], false⟩ c = !Text.isWord c := by
  cases h : Text.isWord c <;> simp [CharSet.contains, CharSet.Item.contains, h]

/-- White space ends where another character has to come. -/
theorem run_blanks_eq_some {mark : Char} (hmark : Text.isBlank mark = false) :
    blanks.run ((Pattern.char (.only mark)).run next) p = some q ↔
      ∃ w rest, p.rest = w ++ mark :: rest ∧ Text.Blank w ∧
        next (p.behind (w ++ [mark]) rest) = some q := by
  have hstop : StopsAt ⟨false, [.blank true], false⟩ ((Pattern.char (.only mark)).run next) := by
    apply Pattern.stopsAt_char
    intro c hc
    rw [contains_blank] at hc
    rw [Bool.eq_false_iff, ne_eq, CharSet.contains_only]
    rintro rfl
    rw [hc] at hmark
    cases hmark
  rw [blanks, Pattern.run_repeated_eq_some hstop]
  simp only [contains_blank, Pattern.run_only_eq_some, Place.rest_behind, Place.behind_behind]
  constructor
  · rintro ⟨w, rest, hrest, hw, more, rfl, h⟩
    exact ⟨w, more, hrest, hw, h⟩
  · rintro ⟨w, rest, hrest, hw, h⟩
    exact ⟨w, mark :: rest, hrest, hw, rest, rfl, h⟩

theorem run_closing_eq_some : closing.run next p = some q ↔
    ∃ w rest, p.rest = '"' :: (w ++ ')' :: rest) ∧ Text.Blank w ∧
      next (p.behind ('"' :: (w ++ [')'])) rest) = some q := by
  change (Pattern.char (.only '"')).run
    (blanks.run ((Pattern.char (.only ')')).run next)) p = some q ↔ _
  rw [Pattern.run_only_eq_some]
  simp only [run_blanks_eq_some (show Text.isBlank ')' = false by decide), Place.rest_behind,
    Place.behind_behind]
  constructor
  · rintro ⟨rest, hrest, w, more, rfl, hw, h⟩
    exact ⟨w, more, hrest, hw, h⟩
  · rintro ⟨w, rest, hrest, hw, h⟩
    exact ⟨w ++ ')' :: rest, hrest, w, rest, rfl, hw, h⟩

/-- The group takes all up to the next quote. -/
theorem run_literalGroup_eq_some : literalGroup.run (closing.run next) p = some q ↔
    ∃ literal rest, p.rest = literal ++ rest ∧ '"' ∉ literal ∧
      closing.run next ⟨literal.getLast?.or p.before, rest, (1, literal) :: p.groups⟩ = some q := by
  have hstop : StopsAt (.allBut '"') (closing.run next) := by
    apply Pattern.stopsAt_char
    intro c hc
    rw [CharSet.contains_allBut] at hc
    rw [Bool.eq_false_iff, ne_eq, CharSet.contains_only]
    exact hc
  have hclosed : ∀ literal : List Char,
      (∀ c ∈ literal, (CharSet.allBut '"').contains c = true) ↔ '"' ∉ literal := by
    intro literal
    simp only [CharSet.contains_allBut]
    exact List.forall_mem_ne'
  rw [literalGroup, Pattern.run_group_repeated_eq_some hstop]
  simp only [hclosed]

/-- The pattern matches a call behind a character that is no word character. -/
theorem run_callPattern_eq_some : callPattern.run some p = some q ↔
    ∃ c, ∃ k : Call, ∃ rest, p.rest = c :: (k.text ++ rest) ∧ Text.isWord c = false ∧
      q = ⟨some ')', rest, (1, k.literal) :: p.groups⟩ := by
  change (Pattern.char ⟨false, [.word false], false⟩).run
    ((Pattern.word marker (.seq blanks (.seq (.char (.only '"')) (.seq literalGroup closing)))).run
      some) p = some q ↔ _
  rw [Pattern.run_char_eq_some]
  constructor
  · rintro ⟨c, rest, hrest, hc, h⟩
    obtain ⟨rest, rfl, h⟩ := Pattern.run_word_eq_some.1 h
    obtain ⟨left, rest, rfl, hleft, h⟩ := (run_blanks_eq_some (by decide)).1 h
    obtain ⟨literal, rest, rfl, hliteral, h⟩ := run_literalGroup_eq_some.1 h
    obtain ⟨right, rest, rfl, hright, h⟩ := run_closing_eq_some.1 h
    refine ⟨c, ⟨left, literal, right, hleft, hliteral, hright⟩, rest, ?_, ?_, ?_⟩
    · simpa [Call.text] using hrest
    · simpa [contains_nonWord] using hc
    · rw [← Option.some.inj h]
      simp [Place.behind, List.getLast?_cons]
  · rintro ⟨c, k, rest, hrest, hc, rfl⟩
    refine ⟨c, k.text ++ rest, hrest, by simp [contains_nonWord, hc], ?_⟩
    apply Pattern.run_word_eq_some.2
    refine ⟨k.left ++ '"' :: (k.literal ++ '"' :: (k.right ++ ')' :: rest)), ?_, ?_⟩
    · simp [Call.text]
    · apply (run_blanks_eq_some (by decide)).2
      refine ⟨k.left, _, rfl, k.blank_left, ?_⟩
      apply run_literalGroup_eq_some.2
      refine ⟨k.literal, _, rfl, k.closed, ?_⟩
      apply run_closing_eq_some.2
      refine ⟨k.right, rest, rfl, k.blank_right, ?_⟩
      simp [Place.behind, List.getLast?_cons]

/-! ### Calls in a text -/

/-- A call at a place of a text. -/
structure Occurrence (cs : List Char) where
  before : List Char
  call : Call
  behind : List Char
  eq : cs = before ++ (call.text ++ behind)

namespace Occurrence

variable {cs done rest : List Char}

/-- How many characters stand before the call. -/
def start (o : Occurrence cs) : Nat := o.before.length

/-- How many characters the text has up to the end of the call. -/
def stop (o : Occurrence cs) : Nat := o.start + o.call.text.length

/-- A character that is no word character stands before the call, and no call that is found further
    left reaches up to it. -/
def Found (o : Occurrence cs) : Prop :=
  ∃ front c, o.before = front ++ [c] ∧ Text.isWord c = false ∧
    ∀ o' : Occurrence cs, o'.start < o.start → o'.Found → o'.stop ≤ front.length
termination_by o.start

/-- No call is found at the start of a text. -/
theorem Found.start_pos {o : Occurrence cs} (h : o.Found) : 0 < o.start := by
  rw [Found] at h
  obtain ⟨front, c, hbefore, -⟩ := h
  rw [start, hbefore, List.length_append]
  exact Nat.succ_pos _

/-- A call is found if such a character stands before it and no call further left reaches up to it. -/
theorem found_of_apart {o : Occurrence cs} {front : List Char} {c : Char}
    (hbefore : o.before = front ++ [c]) (hc : Text.isWord c = false)
    (h : ∀ o' : Occurrence cs, o'.start < o.start → 0 < o'.start → o'.stop ≤ front.length) :
    o.Found := by
  rw [Found]
  refine ⟨front, c, hbefore, hc, ?_⟩
  intro o' hlt ho'
  exact h o' hlt ho'.start_pos

/-- Calls that are found share no character, and there is one between them. -/
theorem Found.apart {o o' : Occurrence cs} (h : o.Found) (h' : o'.Found)
    (hlt : o.start < o'.start) : o.stop < o'.start := by
  rw [Found] at h'
  obtain ⟨front, c, hbefore, -, hfree⟩ := h'
  have hstop := hfree o hlt h
  rw [start, hbefore, List.length_append]
  exact Nat.lt_succ_of_le hstop

/-- Calls at one place are the same. -/
theorem same_of_start {o o' : Occurrence cs} (h : o.start = o'.start) :
    o.stop = o'.stop ∧ o.call.literal = o'.call.literal := by
  obtain ⟨-, hcalls⟩ := List.append_inj (o.eq.symm.trans o'.eq) h
  obtain ⟨htext, hliteral⟩ := Call.text_append_inj hcalls
  exact ⟨by rw [stop, stop, h, htext], hliteral⟩

/-- A call that is found behind the first part of a text lies in the second part, and the character
    before it too. -/
theorem Found.ahead {o : Occurrence cs} (h : o.Found) (hcs : cs = done ++ rest)
    (hlt : done.length < o.start) :
    ∃ more c, o.start = done.length + more.length + 1 ∧ Text.isWord c = false ∧
      rest = more ++ c :: (o.call.text ++ o.behind) := by
  rw [Found] at h
  obtain ⟨front, c, hbefore, hc, -⟩ := h
  have hstart : o.start = front.length + 1 := by
    rw [start, hbefore, List.length_append, List.length_singleton]
  have hwhole : done ++ rest = front ++ c :: (o.call.text ++ o.behind) :=
    hcs.symm.trans (o.eq.trans (by simp [hbefore]))
  obtain ⟨more, rfl⟩ : done <+: front :=
    List.prefix_of_prefix_length_le (List.prefix_append done rest)
      (hwhole ▸ List.prefix_append _ _) (by omega)
  rw [List.append_assoc] at hwhole
  exact ⟨more, c, by rw [hstart, List.length_append], hc, List.append_cancel_left hwhole⟩

/-- A call begins with the marker. -/
theorem isPrefixOf_drop_start (o : Occurrence cs) : marker.isPrefixOf (cs.drop o.start) = true := by
  have hdrop : cs.drop o.start = o.call.text ++ o.behind :=
    (congrArg (List.drop o.start) o.eq).trans List.drop_left
  rw [hdrop, Call.text, List.append_assoc, List.isPrefixOf_iff_prefix]
  exact List.prefix_append _ _

end Occurrence

/-! ### Matches from left to right -/

open Occurrence

variable {cs : List Char}

theorem matchAt_callPattern {before : Option Char} {front back : List Char} :
    callPattern.matchAt before front back = some q ↔
      ∃ c, ∃ k : Call, ∃ rest, back = c :: (k.text ++ rest) ∧ Text.isWord c = false ∧
        q = ⟨some ')', rest, [(1, k.literal)]⟩ := run_callPattern_eq_some

theorem search_callPattern_eq_none {before : Option Char} {ahead : List Char}
    (h : callPattern.search before ahead = none) {front : List Char} {c : Char} {k : Call}
    {rest : List Char} (hahead : ahead = front ++ c :: (k.text ++ rest)) :
    Text.isWord c = true := by
  by_contra hc
  have hnone := Pattern.search_eq_none.1 h _ _ hahead
  rw [matchAt_callPattern.2 ⟨c, k, rest, rfl, by simpa using hc, rfl⟩] at hnone
  cases hnone

/-- A search stops at the first call behind a character that is no word character. -/
theorem search_callPattern_eq_some {before : Option Char} {ahead : List Char}
    (h : callPattern.search before ahead = some q) :
    ∃ front c, ∃ k : Call, ∃ rest, ahead = front ++ c :: (k.text ++ rest) ∧
      Text.isWord c = false ∧ q = ⟨some ')', rest, [(1, k.literal)]⟩ ∧
      ∀ front' c', ∀ k' : Call, ∀ rest', ahead = front' ++ c' :: (k'.text ++ rest') →
        Text.isWord c' = false → front.length ≤ front'.length := by
  obtain ⟨front, back, hahead, hback, hfirst⟩ := Pattern.search_eq_some.1 h
  obtain ⟨c, k, rest, rfl, hc, rfl⟩ := matchAt_callPattern.1 hback
  refine ⟨front, c, k, rest, hahead, hc, rfl, ?_⟩
  intro front' c' k' rest' hahead' hc'
  by_contra hlt
  obtain ⟨more, rfl⟩ : front' <+: front :=
    List.prefix_of_prefix_length_le (hahead' ▸ List.prefix_append front' _)
      (hahead ▸ List.prefix_append front _) (Nat.le_of_not_le hlt)
  have hnone := hfirst front' more rfl (by rintro rfl; simp at hlt)
  rw [hahead, List.append_assoc] at hahead'
  rw [List.append_cancel_left hahead',
    matchAt_callPattern.2 ⟨c', k', rest', rfl, hc', rfl⟩] at hnone
  cases hnone

theorem consumes_callPattern : callPattern.Consumes := by
  intro p q h
  obtain ⟨c, k, rest, hrest, -, rfl⟩ := run_callPattern_eq_some.1 h
  rw [hrest, List.length_cons, List.length_append]
  dsimp only
  omega

/-- No call that is found crosses the end of what has been read, and none begins right there. -/
def Read (cs done : List Char) : Prop :=
  ∀ o : Occurrence cs, o.Found → o.stop ≤ done.length ∨ done.length < o.start

/-- A search finds the first call behind what has been read. -/
theorem exists_first {before : Option Char} {done ahead : List Char} (hcs : cs = done ++ ahead)
    (hread : Read cs done) (hsearch : callPattern.search before ahead = some q) :
    ∃ first : Occurrence cs, first.Found ∧ done.length < first.start ∧
      q = ⟨some ')', first.behind, [(1, first.call.literal)]⟩ ∧
      ∀ o : Occurrence cs, o.Found → done.length < o.start → first.start ≤ o.start := by
  obtain ⟨front, c, k, rest, rfl, hc, rfl, hfirst⟩ := search_callPattern_eq_some hsearch
  have heq : cs = (done ++ front ++ [c]) ++ (k.text ++ rest) := by
    rw [hcs]
    simp
  let first : Occurrence cs := ⟨done ++ front ++ [c], k, rest, heq⟩
  have hstart : first.start = done.length + front.length + 1 := by
    simp only [first, start, List.length_append, List.length_singleton]
  have hleast : ∀ o : Occurrence cs, o.Found → done.length < o.start → first.start ≤ o.start := by
    intro o ho hbehind
    obtain ⟨more, d, hlength, hd, hahead⟩ := ho.ahead hcs hbehind
    have hle := hfirst more d o.call o.behind hahead hd
    omega
  refine ⟨first, ?_, by omega, rfl, hleast⟩
  rw [Found]
  refine ⟨done ++ front, c, rfl, hc, ?_⟩
  intro o hlt ho
  rw [List.length_append]
  rcases hread o ho with hle | hbehind
  · omega
  · have hle := hleast o ho hbehind
    omega

theorem read_of_found {first : Occurrence cs} (h : first.Found) :
    Read cs (first.before ++ first.call.text) := by
  intro o ho
  rw [List.length_append]
  change o.stop ≤ first.stop ∨ first.stop < o.start
  rcases Nat.lt_trichotomy o.start first.start with hlt | heq | hgt
  · have hstop := ho.apart h hlt
    exact Or.inl (hstop.le.trans (Nat.le_add_right first.start _))
  · exact Or.inl (same_of_start heq).1.le
  · exact Or.inr (h.apart ho hgt)

/-- What the first group took in a match. -/
def captured (p : Place) : Option String := (p.groups.lookup 1).map String.ofList

/-- The matches to come are the calls that are found behind what has been read. -/
theorem mem_searchAll_iff {fuel : Nat} {adjacent : Bool} {before : Option Char}
    {done ahead : List Char} (hcs : cs = done ++ ahead) (hfuel : ahead.length < fuel)
    (hread : Read cs done) {s : String} :
    s ∈ (callPattern.searchAll fuel adjacent before ahead).filterMap captured ↔
      ∃ o : Occurrence cs, o.Found ∧ done.length < o.start ∧ s = String.ofList o.call.literal := by
  induction fuel generalizing adjacent before done ahead with
  | zero => exact absurd hfuel (Nat.not_lt_zero _)
  | succ fuel ih =>
    rw [Pattern.searchAll_succ consumes_callPattern]
    cases hsearch : callPattern.search before ahead with
    | none =>
      refine iff_of_false (by simp) ?_
      rintro ⟨o, ho, hstart, -⟩
      obtain ⟨more, c, -, hc, hahead⟩ := ho.ahead hcs hstart
      rw [search_callPattern_eq_none hsearch hahead] at hc
      cases hc
    | some q =>
      have hshorter := consumes_callPattern.search hsearch
      obtain ⟨first, hfound, hstart, rfl, hleast⟩ := exists_first hcs hread hsearch
      have hmore : s ∈ (callPattern.searchAll fuel true (some ')') first.behind).filterMap captured ↔
          ∃ o : Occurrence cs, o.Found ∧ first.stop < o.start ∧ s = String.ofList o.call.literal := by
        have hrest : first.behind.length < fuel := by
          dsimp only at hshorter
          omega
        rw [ih (first.eq.trans (List.append_assoc _ _ _).symm) hrest (read_of_found hfound),
          List.length_append]
        rfl
      change s ∈ String.ofList first.call.literal :: _ ↔ _
      rw [List.mem_cons, hmore]
      constructor
      · rintro (rfl | ⟨o, ho, hbehind, rfl⟩)
        · exact ⟨first, hfound, hstart, rfl⟩
        · have hle : first.start ≤ first.stop := Nat.le_add_right first.start _
          exact ⟨o, ho, by omega, rfl⟩
      · rintro ⟨o, ho, hbehind, rfl⟩
        rcases (hleast o ho hbehind).eq_or_lt with heq | hlt
        · exact Or.inl (by rw [(same_of_start heq).2])
        · exact Or.inr ⟨o, ho, hfound.apart ho hlt, rfl⟩

/-- The literals of a text are those of the calls that are found in it. -/
theorem mem_captures_iff {text s : String} :
    s ∈ callPattern.captures text ↔
      ∃ o : Occurrence text.toList, o.Found ∧ s = String.ofList o.call.literal := by
  have hread : Read text.toList [] := fun o ho => Or.inr ho.start_pos
  change s ∈ (callPattern.searchAll (2 * text.toList.length + 2) false none text.toList).filterMap
    captured ↔ _
  rw [mem_searchAll_iff (List.nil_append _).symm (by omega) hread]
  constructor
  · rintro ⟨o, ho, -, hs⟩
    exact ⟨o, ho, hs⟩
  · rintro ⟨o, ho, hs⟩
    exact ⟨o, ho, ho.start_pos, hs⟩

/-! ### Calls in sources -/

variable {disk : Disk} {root : Path} {loc : Location}

theorem mem_below_iff {names : Location} {bytes : ByteArray} :
    (names, bytes) ∈ below disk loc ↔ (loc ++ names, bytes) ∈ disk.files := by
  simp only [below, List.mem_mergeSort, List.mem_filterMap, Option.ite_none_right_eq_some,
    List.isPrefixOf_iff_prefix, Option.some.injEq, Prod.mk.injEq]
  constructor
  · rintro ⟨⟨_, _⟩, hf, ⟨more, rfl⟩, hnames, rfl⟩
    rw [List.drop_left] at hnames
    rw [← hnames]
    exact hf
  · intro hf
    exact ⟨_, hf, List.prefix_append loc names, List.drop_left, rfl⟩

theorem mem_scan_iff {capture : String → List String} {e : Exclusion} {s : String} :
    s ∈ scan root capture e (below disk loc) ↔ ∃ names bytes text,
      (loc ++ names, bytes) ∈ disk.files ∧
      (∀ front, front <+: names → e.excludes (Entries.along root front) = false) ∧
      String.fromUTF8? bytes = some text ∧ s ∈ capture text := by
  simp only [scan, List.mem_eraseDups, List.mem_flatMap, List.mem_filter, isScanned_iff]
  constructor
  · rintro ⟨⟨names, bytes⟩, ⟨hf, hopen⟩, hs⟩
    rw [capturesIn] at hs
    dsimp only at hs hopen
    cases htext : String.fromUTF8? bytes with
    | none =>
      rw [htext] at hs
      cases hs
    | some text =>
      rw [htext] at hs
      exact ⟨names, bytes, text, mem_below_iff.1 hf, hopen, htext, hs⟩
  · rintro ⟨names, bytes, text, hf, hopen, htext, hs⟩
    refine ⟨(names, bytes), ⟨mem_below_iff.2 hf, hopen⟩, ?_⟩
    rw [capturesIn, htext]
    exact hs

/-- With the default pattern, the literals are those of the calls that are found in the well-formed
    texts of a folder, if nothing on the way to the text is excluded. That there is a result at all
    rests on every folder below being listed, as it is on a disk. -/
theorem gather_finds_calls (hloc : disk.locate root = some loc)
    (hthere : (disk.isFileAt loc || disk.isFolderAt loc) = true) (e : Exclusion) :
    ∃ pattern literals, compile defaultPattern = .ok pattern ∧
      gather disk root pattern.captures e = .ok literals ∧
      ∀ s, s ∈ literals ↔ ∃ names bytes text, (loc ++ names, bytes) ∈ disk.files ∧
        (∀ front, front <+: names → e.excludes (Entries.along root front) = false) ∧
        String.fromUTF8? bytes = some text ∧
        ∃ o : Occurrence text.toList, o.Found ∧ s = String.ofList o.call.literal := by
  refine ⟨callPattern, _, compile_defaultPattern, gather_eq_ok_iff.2 ⟨loc, hloc, hthere, rfl⟩, ?_⟩
  intro s
  rw [mem_scan_iff]
  simp only [mem_captures_iff]

namespace Sample

/-- The first call stands at the start, the last one right behind another. -/
def calls : String := "STR_TO_ID(\"dig\") STR_TO_ID(\"axe\")STR_TO_ID(\"hoe\")"

def workshop : Disk where
  files := [(["src", "tools.c"], calls.toUTF8)]
  folders := [["src"]]
  current := []

/-- A call without white space around the quotes. -/
def plain (literal : List Char) (closed : '"' ∉ literal) : Call where
  left := []
  literal := literal
  right := []
  blank_left := by simp [Text.Blank]
  closed := closed
  blank_right := by simp [Text.Blank]

def dig : Occurrence calls.toList where
  before := []
  call := plain "dig".toList (by decide)
  behind := " STR_TO_ID(\"axe\")STR_TO_ID(\"hoe\")".toList
  eq := by decide +kernel

def axe : Occurrence calls.toList where
  before := "STR_TO_ID(\"dig\") ".toList
  call := plain "axe".toList (by decide)
  behind := "STR_TO_ID(\"hoe\")".toList
  eq := by decide +kernel

def hoe : Occurrence calls.toList where
  before := "STR_TO_ID(\"dig\") STR_TO_ID(\"axe\")".toList
  call := plain "hoe".toList (by decide)
  behind := []
  eq := by decide +kernel

/-- Only the call at the start stands further left, which is not found. -/
theorem found_axe : axe.Found := by
  have honly : ∀ n, n < 17 → marker.isPrefixOf (calls.toList.drop n) = true → n = 0 := by
    decide +kernel
  have hbefore : axe.before = "STR_TO_ID(\"dig\")".toList ++ [' '] := rfl
  refine found_of_apart hbefore (by decide) ?_
  intro o hlt hpos
  have hstart := honly o.start hlt o.isPrefixOf_drop_start
  omega

end Sample

theorem gather_calls : ∃ literals, gather Sample.workshop ⟨"/src"⟩ callPattern.captures [] =
    .ok literals ∧ "axe" ∈ literals := by
  have hloc : Sample.workshop.locate ⟨"/src"⟩ = some ["src"] := by decide +kernel
  obtain ⟨pattern, literals, hpattern, hgather, hmem⟩ :=
    gather_finds_calls hloc (by decide +kernel) []
  obtain rfl : callPattern = pattern :=
    Except.ok.inj (compile_defaultPattern.symm.trans hpattern)
  refine ⟨literals, hgather, (hmem "axe").2 ?_⟩
  refine ⟨["tools.c"], Sample.calls.toUTF8, Sample.calls, ?_, ?_, ?_, Sample.axe,
    Sample.found_axe, rfl⟩
  · exact List.mem_singleton_self _
  · intro front _
    rfl
  · decide +kernel

/-- Calls at the start of a text and right behind another call are missed, though no word character
    stands before them. -/
theorem gather_misses_calls : ∃ pattern literals, compile defaultPattern = .ok pattern ∧
    gather Sample.workshop ⟨"/src"⟩ pattern.captures [] = .ok literals ∧
    (["src", "tools.c"], Sample.calls.toUTF8) ∈ Sample.workshop.files ∧
    (∃ o : Occurrence Sample.calls.toList, o.before = [] ∧ o.call.literal = "dig".toList) ∧
    (∃ o : Occurrence Sample.calls.toList, o.before.getLast? = some ')' ∧
      o.call.literal = "hoe".toList) ∧
    "dig" ∉ literals ∧ "hoe" ∉ literals := by
  have hscan : ["axe"] = scan ⟨"/src"⟩ callPattern.captures [] (below Sample.workshop ["src"]) := by
    decide +kernel
  exact ⟨callPattern, ["axe"], compile_defaultPattern,
    gather_eq_ok_iff.2 ⟨["src"], by decide +kernel, by decide +kernel, hscan⟩,
    List.mem_singleton_self _, ⟨Sample.dig, rfl, rfl⟩, ⟨Sample.hoe, by decide +kernel, rfl⟩,
    by decide, by decide⟩

end CodeStencil.Literals
