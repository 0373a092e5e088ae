/-
  CodeStencil/Proofs/Globs/Below.lean
  ===================================
  **Globs below a folder** — a pattern behind the path of a folder matches, of the paths in that
  folder, those whose rest the pattern matches alone (`rel_below`), if the path of the folder has no
  character that patterns give a meaning to. A question mark does no harm: it matches itself, and the
  length of what it stands for is known.
-/
import CodeStencil.Proofs.Globs.Matching
import CodeStencil.Proofs.Globs.Reading

namespace CodeStencil.Glob

open Reading

variable {c : Char} {cs front rest : List Char} {ps base : List Piece} {p q : Piece} {g h : Glob}
  {bs u v : List UInt8} {fuel : Nat} {r s : Reading}

/-! ### Text that stands for itself -/

/-- How a plain character is read. -/
def pieceOf (c : Char) : Piece := if c = '?' then .one else .char c

/-- Plain text as it is read, the last character first. -/
def spelled (cs : List Char) : List Piece := (cs.map pieceOf).reverse

theorem step?_plain (hc : isPlain c = true) (last : Option Char) :
    (⟨[], base, last⟩ : Reading).step? c rest = some (⟨[], pieceOf c :: base, some c⟩, rest) := by
  unfold step?
  split
  · rfl
  · cases hc
  · cases hc
  · cases hc
  · cases hc
  · rfl
  · cases hc
  · next h _ _ _ _ _ _ => rw [pieceOf, if_neg h]; rfl

theorem read_plain (hfront : ∀ c ∈ front, isPlain c = true) (last : Option Char) :
    read (fuel + front.length + 1) ⟨[], base, last⟩ (front ++ '/' :: rest) =
      read fuel ⟨[], .char '/' :: (spelled front ++ base), some '/'⟩ rest := by
  induction front generalizing base last with
  | nil => exact (read_cons).trans (by rw [step?_plain (by decide)]; rfl)
  | cons c cs ih =>
    have hc := hfront c List.mem_cons_self
    rw [List.length_cons, ← Nat.add_assoc, List.cons_append, read_cons, step?_plain hc last,
      Option.bind_some, ih fun d hd => hfront d (List.mem_cons_of_mem c hd)]
    simp [spelled]

/-! ### Pieces one after the other -/

theorem matches_whole_append : (whole (ps ++ base)).Matches bs ↔
    ∃ u v, bs = u ++ v ∧ (whole base).Matches u ∧ (whole ps).Matches v := by
  unfold whole
  rw [List.reverse_append, List.filterMap_append, matches_sequence_append]

theorem matches_whole_singleton (hp : p.glob? = some g) :
    (whole [p]).Matches bs ↔ g.Matches bs := by
  simp [whole, hp, Matches]

theorem matches_whole_concat (hq : q.glob? = some g) : (whole (ps ++ [q])).Matches bs ↔
    ∃ u v, bs = u ++ v ∧ g.Matches u ∧ (whole ps).Matches v := by
  simp only [matches_whole_append, matches_whole_singleton hq]

theorem matches_pieceOf : (whole [pieceOf c]).Matches (String.utf8EncodeChar c) := by
  unfold pieceOf
  split
  · next hc =>
    subst hc
    exact (matches_whole_singleton (g := .byte .all) rfl).2 ⟨63, rfl, rfl⟩
  · exact (matches_whole_singleton rfl).2 (matches_char.2 rfl)

theorem length_of_matches_pieceOf (hbs : (whole [pieceOf c]).Matches bs) :
    bs.length = (String.utf8EncodeChar c).length := by
  unfold pieceOf at hbs
  split at hbs
  · next hc =>
    subst hc
    obtain ⟨b, rfl, -⟩ := (matches_whole_singleton rfl).1 hbs
    rfl
  · rw [matches_char.1 ((matches_whole_singleton rfl).1 hbs)]

theorem matches_spelled (cs : List Char) : (whole (spelled cs)).Matches (spelling cs) := by
  induction cs with
  | nil => rfl
  | cons c cs ih =>
    rw [spelled, List.map_cons, List.reverse_cons, spelling_cons]
    exact matches_whole_append.2 ⟨_, _, rfl, matches_pieceOf, ih⟩

theorem length_of_matches_spelled (hbs : (whole (spelled cs)).Matches bs) :
    bs.length = (spelling cs).length := by
  induction cs generalizing bs with
  | nil =>
    obtain rfl : bs = [] := hbs
    rfl
  | cons c cs ih =>
    rw [spelled, List.map_cons, List.reverse_cons] at hbs
    obtain ⟨u, v, rfl, hu, hv⟩ := matches_whole_append.1 hbs
    rw [List.length_append, length_of_matches_pieceOf hu, ih hv, spelling_cons, List.length_append]

/-- Behind plain text a pattern matches what it matches alone. -/
theorem matches_behind_spelled :
    (whole (ps ++ spelled front)).Matches (spelling front ++ bs) ↔ (whole ps).Matches bs := by
  rw [matches_whole_append]
  constructor
  · rintro ⟨u, v, heq, hu, hv⟩
    obtain ⟨-, rfl⟩ := List.append_inj heq (length_of_matches_spelled hu).symm
    exact hv
  · intro hbs
    exact ⟨_, _, rfl, matches_spelled front, hbs⟩

/-! ### The slash in front of a pattern -/

theorem matches_slash : slash.Matches bs ↔ bs = [47] := matches_char

theorem matches_between : between.Matches bs ↔ ∃ u, bs = 47 :: u ∧ leading.Matches u := by
  simp only [between, leading, Matches, matches_slash]
  constructor
  · rintro (rfl | ⟨_, _, rfl, rfl, u, _, rfl, -, rfl⟩)
    · exact ⟨[], rfl, Or.inl (Or.inl rfl)⟩
    · exact ⟨u ++ [47], rfl, Or.inr ⟨u, [47], rfl, trivial, rfl⟩⟩
  · rintro ⟨_, rfl, (rfl | rfl) | ⟨u, _, rfl, -, rfl⟩⟩
    · exact Or.inl rfl
    · exact Or.inr ⟨[47], [47], rfl, rfl, [], [47], rfl, trivial, rfl⟩
    · exact Or.inr ⟨[47], u ++ [47], rfl, rfl, u, [47], rfl, trivial, rfl⟩

theorem matches_trailing : trailing.Matches (47 :: bs) :=
  ⟨[47], bs, rfl, matches_slash.2 rfl, trivial⟩

/-- Of the paths in a folder, the second glob matches those whose rest the first one matches. -/
def FitsBelow (front : List Char) (g h : Glob) : Prop :=
  ∀ rest, h.Matches (spelling (front ++ '/' :: rest)) ↔ g.Matches (spelling rest)

theorem spelling_below (front rest : List Char) :
    spelling (front ++ '/' :: rest) = spelling front ++ 47 :: spelling rest := by
  rw [spelling_append, spelling_cons]
  rfl

theorem FitsBelow.isMatch_iff (hfits : FitsBelow front g h) {path rel : String}
    (hpath : path.toList = front ++ '/' :: rel.toList) :
    h.isMatch path = true ↔ g.isMatch rel = true := by
  rw [Glob.isMatch_iff, Glob.isMatch_iff, bytesOf_eq_spelling, bytesOf_eq_spelling, hpath]
  exact hfits rel.toList

theorem fitsBelow_pieces (front : List Char) (ps : List Piece) :
    FitsBelow front (whole ps) (whole (ps ++ .char '/' :: spelled front)) := by
  intro rest
  rw [spelling_below, List.append_cons, matches_behind_spelled, matches_whole_concat rfl]
  constructor
  · rintro ⟨u, v, heq, hu, hv⟩
    obtain rfl := matches_slash.1 hu
    obtain rfl := (List.cons.inj heq).2
    exact hv
  · intro h
    exact ⟨[47], _, rfl, matches_slash.2 rfl, h⟩

/-- The slash that folders take up stands in front of the path, too. -/
theorem fitsBelow_folders (front : List Char) (ps : List Piece) :
    FitsBelow front (whole (ps ++ [.leading])) (whole (ps ++ .between :: spelled front)) := by
  intro rest
  rw [spelling_below, List.append_cons, matches_behind_spelled, matches_whole_concat rfl,
    matches_whole_concat rfl]
  constructor
  · rintro ⟨_, v, heq, hbetween, hv⟩
    obtain ⟨u, rfl, hu⟩ := matches_between.1 hbetween
    exact ⟨u, v, (List.cons.inj heq).2, hu, hv⟩
  · rintro ⟨u, v, heq, hu, hv⟩
    exact ⟨47 :: u, v, by rw [heq]; rfl, matches_between.2 ⟨u, rfl, hu⟩, hv⟩

theorem fitsBelow_anything (front : List Char) :
    FitsBelow front .anything (whole (.trailing :: spelled front)) := by
  intro rest
  rw [spelling_below, ← List.singleton_append, matches_behind_spelled, matches_whole_singleton rfl]
  exact iff_of_true matches_trailing trivial

/-! ### Patterns in a folder -/

/-- A pattern that names folders only, at any depth. -/
def onlyFolders : List Char → Bool
  | '*' :: '*' :: '/' :: rest => rest.isEmpty || onlyFolders rest
  | _ => false

/-- What a pattern stands for in a folder. The folder itself and all below it are folders, whereas
    the reader takes two stars and a slash alone for any path. -/
def below? (pattern : String) : Option Glob :=
  if onlyFolders pattern.toList then some .leading else parse? pattern

theorem isSome_below? {pattern : String} (h : (parse? pattern).isSome = true) :
    (below? pattern).isSome = true := by
  unfold below?
  split
  · rfl
  · exact h

theorem onlyFolders_cons (rest : List Char) :
    onlyFolders ('*' :: '*' :: '/' :: rest) = (rest.isEmpty || onlyFolders rest) := by
  rw [onlyFolders]

/-- What may stand before a pattern and gives way to folders that it starts with. -/
def GivesWay (q : Piece) : Prop := q ≠ .leading ∧ q ≠ .trailing

theorem folders_of_givesWay (hq : GivesWay q) (p : Piece) (last : Char) :
    (⟨[], q :: base, some '/'⟩ : Reading).folders p last = ⟨[], p :: base, some last⟩ := by
  cases q with
  | leading => exact absurd rfl hq.1
  | trailing => exact absurd rfl hq.2
  | _ => rfl

theorem read_stars : read (fuel + 1) r ('*' :: '*' :: rest) =
    read fuel (r.secondStar rest).1 (if (r.secondStar rest).2 then rest.drop 1 else rest) :=
  read_cons

theorem read_folders (hq : GivesWay q) :
    read (fuel + 1) ⟨[], q :: base, some '/'⟩ ('*' :: '*' :: '/' :: rest) =
      read fuel ⟨[], .between :: base, some '/'⟩ rest := by
  rw [read_stars, ← folders_of_givesWay hq .between '/']
  rfl

theorem read_lastStars (hq : GivesWay q) :
    read (fuel + 1) ⟨[], q :: base, some '/'⟩ ['*', '*'] =
      read fuel ⟨[], .trailing :: base, some '*'⟩ [] := by
  rw [read_stars, ← folders_of_givesWay hq .trailing '*']
  rfl

/-- Folders only, behind something: the slash before them, and all of the folders. -/
theorem read_onlyFolders (hq : GivesWay q) (hcs : onlyFolders cs = true) (hfuel : cs.length ≤ fuel) :
    read (fuel + 1) ⟨[], q :: base, some '/'⟩ cs = some (whole (.between :: base)) := by
  fun_induction onlyFolders cs generalizing q fuel with
  | case1 rest ih =>
    rw [read_folders hq]
    obtain ⟨fuel, rfl⟩ : ∃ n, fuel = n + 1 := ⟨fuel - 1, by simp at hfuel; omega⟩
    rcases Bool.or_eq_true_iff.1 hcs with hempty | hmore
    · rw [List.isEmpty_iff.1 hempty]
      exact congrArg some (ofAll_eq fun heq => by cases heq)
    · exact ih ⟨by simp, by simp⟩ hmore (by simp at hfuel; omega)
  | case2 => cases hcs

/-- A reading of a pattern at its start, and one of the same pattern in a folder: both are still at
    the start, or folders are all that has been read. -/
inductive Abreast (front : List Char) : Reading → Reading → Prop
  | start : Abreast front ⟨[], [], none⟩ ⟨[], .char '/' :: spelled front, some '/'⟩
  | folders : Abreast front ⟨[], [.leading], some '/'⟩ ⟨[], .between :: spelled front, some '/'⟩

theorem Abreast.read_folders (hr : Abreast front r s) (fuel : Nat) (rest : List Char) :
    ∃ r' s', Abreast front r' s' ∧
      read (fuel + 1) r ('*' :: '*' :: '/' :: rest) = read fuel r' rest ∧
      read (fuel + 1) s ('*' :: '*' :: '/' :: rest) = read fuel s' rest := by
  refine ⟨_, _, .folders, ?_, ?_⟩
  · cases hr <;> exact read_stars
  · cases hr <;> exact Glob.read_folders ⟨by simp, by simp⟩

theorem Abreast.rel_read_lastStars (hr : Abreast front r s) (fuel : Nat) :
    Option.Rel (FitsBelow front) (read (fuel + 1) r ['*', '*']) (read (fuel + 1) s ['*', '*']) := by
  have halone : read (fuel + 1) r ['*', '*'] = read fuel ⟨[], [.leading], some '*'⟩ [] := by
    cases hr <;> exact read_stars
  have hbelow : read (fuel + 1) s ['*', '*'] =
      read fuel ⟨[], .trailing :: spelled front, some '*'⟩ [] := by
    cases hr <;> exact read_lastStars ⟨by simp, by simp⟩
  rw [halone, hbelow]
  cases fuel with
  | zero => exact .none
  | succ fuel =>
    have hall : ofAll (.trailing :: spelled front) = whole (.trailing :: spelled front) :=
      ofAll_eq fun heq => by cases heq
    exact .some (hall ▸ fitsBelow_anything front)

/-- What is read in a folder fits what is read alone. -/
theorem Abreast.rel_read (hr : Abreast front r s) (hne : cs ≠ []) (hcs : onlyFolders cs = false) :
    Option.Rel (FitsBelow front) (read fuel r cs) (read fuel s cs) := by
  -- folders at the start keep the two readings abreast; after anything else they differ only in
  -- what is behind them, which is read already
  induction fuel generalizing r s cs with
  | zero => exact .none
  | succ fuel ih =>
    by_cases halone : cs = ['*', '*']
    · rw [halone]
      exact hr.rel_read_lastStars fuel
    · by_cases hfolders : ∃ more, cs = '*' :: '*' :: '/' :: more
      · obtain ⟨more, rfl⟩ := hfolders
        rw [onlyFolders_cons, Bool.or_eq_false_iff] at hcs
        obtain ⟨r', s', hr', halone', hbelow⟩ := hr.read_folders fuel more
        rw [halone', hbelow]
        exact ih hr' (by simpa using hcs.1) hcs.2
      · obtain ⟨c, rest, rfl⟩ := List.exists_cons_of_ne_nil hne
        obtain ⟨o, hstart, hbehind⟩ :=
          exists_read_start halone (fun more heq => hfolders ⟨more, heq⟩) (fuel + 1)
        cases hr with
        | start =>
          rw [hstart, hbehind]
          cases o with
          | none => exact .none
          | some ps => exact .some (fitsBelow_pieces front ps)
        | folders =>
          rw [hbehind, hbehind]
          cases o with
          | none => exact .none
          | some ps => exact .some (fitsBelow_folders front ps)

/-- **Plain folders leave patterns alone.** Where the path of a folder is plain, a pattern behind it
    is refused if it is refused alone, and otherwise matches in the folder what it stands for. -/
theorem rel_below (hfront : ∀ c ∈ front, isPlain c = true) {pattern path : String}
    (hne : pattern ≠ "") (hpath : path.toList = front ++ '/' :: pattern.toList) :
    Option.Rel (FitsBelow front) (below? pattern) (parse? path) := by
  have hchars : pattern.toList ≠ [] := by simpa using hne
  have hjoined : parse? path = read (pattern.toList.length + 1)
      ⟨[], .char '/' :: spelled front, some '/'⟩ pattern.toList := by
    unfold parse?
    have hlength : path.length + 1 = pattern.toList.length + 1 + front.length + 1 := by
      rw [← String.length_toList, hpath, List.length_append, List.length_cons]
      omega
    rw [hlength, hpath, read_plain hfront, List.append_nil]
  rw [hjoined, below?]
  split
  · next honly =>
    rw [read_onlyFolders ⟨by simp, by simp⟩ honly (Nat.le_refl _)]
    refine .some fun rest => ?_
    rw [← List.nil_append (Piece.between :: spelled front), fitsBelow_folders front [] rest]
    exact matches_whole_singleton rfl
  · next honly => exact Abreast.start.rel_read hchars (by simpa using honly)

end CodeStencil.Glob
