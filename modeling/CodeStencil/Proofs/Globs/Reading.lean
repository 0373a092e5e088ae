/-
  CodeStencil/Proofs/Globs/Reading.lean
  =====================================
  **Reading globs** — one character after the other (`step?`, `read_cons`). What a reading has behind
  it stays as it is, so a pattern means the same after other text (`exists_read_behind`), but for the
  stars it begins with: after a slash they take up the slash as well.
-/
import CodeStencil.Glob.Reader

namespace CodeStencil.Glob

variable {fuel : Nat} {r s : Reading} {c : Char} {rest cs : List Char} {p : Piece}
  {ps base : List Piece}

/-- The glob of all pieces, the last of which comes first. -/
def whole (ps : List Piece) : Glob := sequence (ps.reverse.filterMap Piece.glob?)

theorem ofPieces_getD (ps : List Piece) : (ofPieces ps).getD .empty = whole ps := by
  unfold ofPieces whole
  split
  · next h => rw [h]; rfl
  · rfl

theorem ofAll_eq (h : ps ≠ [.leading]) : ofAll ps = whole ps := by
  unfold ofAll
  split
  · exact absurd rfl h
  · exact ofPieces_getD ps

/-- The characters that a pattern reads one by one, and outside of groups as themselves or, for a
    question mark, as any byte. -/
def isPlain (c : Char) : Bool := c ∉ ['*', '[', '\x7b', '\x7d', '\\']

namespace Reading

/-- Reads one piece of a pattern, and gives what is left of it. -/
def step? (r : Reading) (c : Char) (rest : List Char) : Option (Reading × List Char) :=
  match c with
  | '?' => some (r.push .one c, rest)
  | '*' =>
    match rest with
    | '*' :: more =>
      some ((r.secondStar more).1, if (r.secondStar more).2 then more.drop 1 else more)
    | _ => some (r.push .many c, rest)
  | '[' => (readSet rest).map fun s => (r.push (.set s.1) ']', s.2)
  | '\x7b' => some (r.openGroup, rest)
  | '\x7d' => r.closeGroup?.map fun s => (s, rest)
  | ',' => some (r.comma, rest)
  | '\\' =>
    match rest with
    | [] => none
    | c :: rest => some (r.push (.char c) c, rest)
  | _ => some (r.push (.char c) c, rest)

end Reading

theorem read_cons : read (fuel + 1) r (c :: rest) =
    (r.step? c rest).bind fun s => read fuel s.1 s.2 := by
  conv => lhs; unfold read
  unfold Reading.step?
  dsimp only
  split
  · rfl
  · split
    · rfl
    · simp [*]
  · cases readSet rest <;> rfl
  · rfl
  · cases r.closeGroup? <;> rfl
  · rfl
  · split <;> rfl
  · simp [*]

namespace Reading

/-! ### What a step can do -/

/-- A step of a reading that does not fail, from the next character on. -/
inductive Step (r : Reading) : Char → List Char → Reading → List Char → Prop
  | one (rest : List Char) : Step r '?' rest (r.push .one '?') rest
  | stars (more : List Char) : Step r '*' ('*' :: more) (r.secondStar more).1
      (if (r.secondStar more).2 then more.drop 1 else more)
  | star (rest : List Char) : Step r '*' rest (r.push .many '*') rest
  | set {rest more : List Char} {set : ByteSet} (h : readSet rest = some (set, more)) :
      Step r '[' rest (r.push (.set set) ']') more
  | opening (rest : List Char) : Step r '\x7b' rest r.openGroup rest
  | closing {s : Reading} (h : r.closeGroup? = some s) (rest : List Char) :
      Step r '\x7d' rest s rest
  | comma (rest : List Char) : Step r ',' rest r.comma rest
  | escaped (c : Char) (more : List Char) : Step r '\\' (c :: more) (r.push (.char c) c) more
  | plain {c : Char} (h : isPlain c = true) (rest : List Char) :
      Step r c rest (r.push (.char c) c) rest

theorem step_of_step? {more : List Char} (h : r.step? c rest = some (s, more)) :
    Step r c rest s more := by
  unfold step? at h
  split at h
  · cases h
    exact .one rest
  · split at h
    · cases h
      exact .stars _
    · cases h
      exact .star rest
  · obtain ⟨⟨set, more⟩, hset, heq⟩ := Option.map_eq_some_iff.1 h
    cases heq
    exact .set hset
  · cases h
    exact .opening rest
  · obtain ⟨closed, hclosed, heq⟩ := Option.map_eq_some_iff.1 h
    cases heq
    exact .closing hclosed rest
  · cases h
    exact .comma rest
  · split at h
    · cases h
    · cases h
      exact .escaped _ _
  · cases h
    refine .plain ?_ rest
    simp only [isPlain, List.mem_cons, List.not_mem_nil, or_false, not_or, decide_eq_true_eq]
    exact ⟨‹_›, ‹_›, ‹_›, ‹_›, ‹_›⟩

/-- A pair of stars is the start of a branch, stands for itself, or takes the place of a slash; only
    in front of a slash it may stand for folders that the path goes on behind. -/
theorem secondStar_cases (r : Reading) (rest : List Char) :
    (∃ last slash, r.secondStar rest = (r.push .leading last, slash)) ∨
      r.secondStar rest = (r.twoStars, false) ∨
      r.secondStar rest = (r.folders .trailing '*', false) ∨
      ∃ more, rest = '/' :: more ∧ r.secondStar rest = (r.folders .between '/', true) := by
  unfold secondStar
  split
  · cases rest with
    | nil => exact Or.inl ⟨'*', false, rfl⟩
    | cons c more =>
      dsimp only
      split
      · exact Or.inl ⟨'/', true, rfl⟩
      · exact Or.inr (Or.inl rfl)
  · split
    · exact Or.inr (Or.inl rfl)
    · cases rest with
      | nil => exact Or.inr (Or.inr (Or.inl rfl))
      | cons c more =>
        dsimp only
        split
        · exact Or.inr (Or.inr (Or.inl rfl))
        · split
          · next hc => exact Or.inr (Or.inr (Or.inr ⟨more, by rw [hc], rfl⟩))
          · exact Or.inr (Or.inl rfl)

/-! ### What lies behind -/

/-- More pieces at the far end of the outermost branch. -/
def groupsBehind (base : List Piece) :
    List (List (List Piece) × List Piece) → List (List (List Piece) × List Piece)
  | [] => []
  | [(branches, around)] => [(branches, around ++ base)]
  | g :: h :: more => g :: groupsBehind base (h :: more)

/-- The same reading with more pieces behind it. -/
def behind (base : List Piece) : Reading → Reading
  | ⟨[], branch, last⟩ => ⟨[], branch ++ base, last⟩
  | ⟨g :: gs, branch, last⟩ => ⟨groupsBehind base (g :: gs), branch, last⟩

/-- Outside of groups there is something already, and not just two stars. -/
def Underway (r : Reading) : Prop := r.groups = [] → r.branch ≠ [] ∧ r.branch ≠ [.leading]

theorem groupsBehind_nil (gs : List (List (List Piece) × List Piece)) : groupsBehind [] gs = gs := by
  fun_induction groupsBehind [] gs with
  | case1 => rfl
  | case2 branches around => rw [List.append_nil]
  | case3 g h more ih => rw [ih]

theorem behind_nil (r : Reading) : r.behind [] = r := by
  obtain ⟨_ | ⟨g, gs⟩, branch, last⟩ := r
  · rw [behind, List.append_nil]
  · rw [behind, groupsBehind_nil]

theorem isEmpty_behind : (r.behind base).groups.isEmpty = r.groups.isEmpty := by
  obtain ⟨_ | ⟨g, _ | ⟨h, more⟩⟩, branch, last⟩ := r <;> rfl

theorem push_behind (p : Piece) (last : Char) :
    (r.behind base).push p last = (r.push p last).behind base := by
  obtain ⟨_ | ⟨g, gs⟩, branch, last⟩ := r <;> rfl

theorem openGroup_behind : (r.behind base).openGroup = r.openGroup.behind base := by
  obtain ⟨_ | ⟨g, gs⟩, branch, last⟩ := r <;> rfl

theorem comma_behind : (r.behind base).comma = r.comma.behind base := by
  obtain ⟨_ | ⟨g, _ | ⟨h, more⟩⟩, branch, last⟩ := r <;> rfl

theorem closeGroup?_behind : (r.behind base).closeGroup? = r.closeGroup?.map (behind base) := by
  obtain ⟨_ | ⟨g, _ | ⟨h, more⟩⟩, branch, last⟩ := r <;> rfl

theorem isEmpty_branch_behind (h : r.Underway) :
    (r.behind base).branch.isEmpty = r.branch.isEmpty := by
  obtain ⟨_ | ⟨g, gs⟩, branch, last⟩ := r
  · obtain ⟨q, qs, rfl⟩ := List.exists_cons_of_ne_nil (h rfl).1
    rfl
  · rfl

theorem last_behind : (r.behind base).last = r.last := by
  obtain ⟨_ | ⟨g, gs⟩, branch, last⟩ := r <;> rfl

theorem twoStars_behind : (r.behind base).twoStars = r.twoStars.behind base := by
  obtain ⟨_ | ⟨g, gs⟩, branch, last⟩ := r <;> rfl

theorem folders_behind (h : r.Underway) (p : Piece) (last : Char) :
    (r.behind base).folders p last = (r.folders p last).behind base := by
  obtain ⟨_ | ⟨g, gs⟩, branch, last⟩ := r
  · obtain ⟨q, qs, rfl⟩ := List.exists_cons_of_ne_nil (h rfl).1
    cases q <;> rfl
  · rfl

/-- A pair of stars does not look at what lies behind, once there is something. -/
theorem secondStar_behind (h : r.Underway) :
    (r.behind base).secondStar rest = ((r.secondStar rest).1.behind base, (r.secondStar rest).2) := by
  unfold secondStar
  rw [isEmpty_branch_behind h, last_behind, isEmpty_behind]
  simp only [push_behind, twoStars_behind, folders_behind h]
  split
  · cases rest with
    | nil => rfl
    | cons c more => dsimp only; split <;> rfl
  · split
    · rfl
    · cases rest with
      | nil => rfl
      | cons c more =>
        dsimp only
        split
        · rfl
        · split <;> rfl

/-- What is behind a reading stays as it is. -/
theorem step?_behind (h : r.Underway) :
    (r.behind base).step? c rest = (r.step? c rest).map fun s => (s.1.behind base, s.2) := by
  unfold step?
  split
  · rw [push_behind]; rfl
  · split
    · rw [secondStar_behind h]; rfl
    · rw [push_behind]; rfl
  · simp only [push_behind, Option.map_map, Function.comp_def]
  · rw [openGroup_behind]; rfl
  · simp only [closeGroup?_behind, Option.map_map, Function.comp_def]
  · rw [comma_behind]; rfl
  · split
    · rfl
    · rw [push_behind]; rfl
  · rw [push_behind]; rfl

/-! ### Readings that go on -/

theorem underway_push (h : r.Underway ∨ p ≠ .leading) (last : Char) : (r.push p last).Underway := by
  intro hgroups
  refine ⟨List.cons_ne_nil _ _, fun heq => ?_⟩
  obtain ⟨hp, hbranch⟩ := List.cons.inj heq
  exact h.elim (fun h => (h hgroups).1 hbranch) (fun hne => hne hp)

theorem underway_twoStars : r.twoStars.Underway :=
  fun _ => ⟨List.cons_ne_nil _ _, fun heq => by cases heq⟩

theorem underway_openGroup : r.openGroup.Underway := fun heq => by cases heq

theorem underway_comma : r.comma.Underway := by
  unfold comma
  split
  · intro heq
    cases heq
  · exact underway_push (Or.inr (by simp)) ','

theorem underway_closeGroup? (h : r.closeGroup? = some s) : s.Underway := by
  unfold closeGroup? at h
  split at h
  · cases h
    exact fun _ => ⟨List.cons_ne_nil _ _, fun heq => by cases heq⟩
  · cases h

theorem underway_folders (h : r.Underway) (hp : p ≠ .leading) (last : Char) :
    (r.folders p last).Underway := by
  obtain ⟨groups, branch, _⟩ := r
  intro hgroups
  obtain ⟨hne, hleading⟩ := h hgroups
  obtain ⟨q, qs, rfl⟩ := List.exists_cons_of_ne_nil hne
  have hhead (a : Piece) (ha : a ≠ .leading) : a :: qs ≠ [] ∧ a :: qs ≠ [.leading] :=
    ⟨List.cons_ne_nil a qs, fun heq => ha (List.cons.inj heq).1⟩
  cases q with
  | leading => exact ⟨hne, hleading⟩
  | trailing => exact hhead .trailing (by simp)
  | _ => exact hhead p hp

theorem underway_secondStar (h : r.Underway) : (r.secondStar rest).1.Underway := by
  rcases secondStar_cases r rest with ⟨last, slash, heq⟩ | heq | heq | ⟨more, -, heq⟩ <;> rw [heq]
  · exact underway_push (Or.inl h) last
  · exact underway_twoStars
  · exact underway_folders h (by simp) '*'
  · exact underway_folders h (by simp) '/'

/-- Only a pair of stars could leave a reading with nothing but folders. -/
theorem Step.underway {more : List Char} (h : Step r c rest s more)
    (hstars : ∀ after, c = '*' → rest = '*' :: after → (r.secondStar after).1.Underway) :
    s.Underway := by
  cases h with
  | one => exact underway_push (Or.inr (by simp)) '?'
  | stars more => exact hstars more rfl rfl
  | star => exact underway_push (Or.inr (by simp)) '*'
  | set => exact underway_push (Or.inr (by simp)) ']'
  | opening => exact underway_openGroup
  | closing hclosed => exact underway_closeGroup? hclosed
  | comma => exact underway_comma
  | escaped c => exact underway_push (Or.inr (by simp)) c
  | plain => exact underway_push (Or.inr (by simp)) c

theorem underway_step? (h : r.Underway) {more : List Char}
    (hstep : r.step? c rest = some (s, more)) : s.Underway :=
  (step_of_step? hstep).underway fun _ _ _ => underway_secondStar h

end Reading

open Reading

/-- A reading that is underway gives the same pieces whatever is behind it. -/
theorem exists_read_behind (fuel : Nat) (h : r.Underway) (cs : List Char) :
    ∃ o : Option (List Piece), ∀ base,
      read fuel (r.behind base) cs = o.map fun ps => whole (ps ++ base) := by
  induction fuel generalizing r cs with
  | zero => exact ⟨none, fun base => rfl⟩
  | succ fuel ih =>
    cases cs with
    | nil =>
      -- `ofAll` looks at all pieces at once, which is where two stars alone have to be ruled out
      obtain ⟨_ | ⟨g, _ | ⟨h, more⟩⟩, branch, last⟩ := r
      · obtain ⟨hne, hleading⟩ := h rfl
        refine ⟨some branch, fun base => congrArg some (ofAll_eq fun heq => ?_)⟩
        rcases List.append_eq_singleton_iff.1 heq with ⟨hnil, -⟩ | ⟨hlead, -⟩
        · exact hne hnil
        · exact hleading hlead
      · exact ⟨none, fun base => rfl⟩
      · exact ⟨none, fun base => rfl⟩
    | cons c rest =>
      cases hstep : r.step? c rest with
      | none => exact ⟨none, fun base => by rw [read_cons, step?_behind h, hstep]; rfl⟩
      | some s =>
        obtain ⟨o, ho⟩ := ih (underway_step? h hstep) s.2
        exact ⟨o, fun base => by rw [read_cons, step?_behind h, hstep]; exact ho base⟩

/-! ### Where a pattern starts -/

section Start

variable (halone : c :: rest ≠ ['*', '*']) (hfolders : ∀ more, c :: rest ≠ '*' :: '*' :: '/' :: more)
include halone hfolders

/-- A pair of stars that starts a pattern and is not all of a folder's name stands for itself. -/
theorem secondStar_start {last : Option Char} {more : List Char} (hc : c = '*')
    (hrest : rest = '*' :: more) (hbase : base = [] ∨ last = some '/') :
    (⟨[], base, last⟩ : Reading).secondStar more = (⟨[], .many :: .many :: base, some '*'⟩, false) := by
  subst hc hrest
  cases more with
  | nil => exact absurd rfl halone
  | cons d more =>
    have hd : d ≠ '/' := fun hd => hfolders more (by rw [hd])
    rcases base with - | ⟨q, qs⟩
    · simp [secondStar, twoStars, hd]
    · obtain rfl : last = some '/' := hbase.resolve_left (List.cons_ne_nil q qs)
      simp [secondStar, twoStars, hd]

theorem step?_start (base : List Piece) : (⟨[], base, some '/'⟩ : Reading).step? c rest =
    ((⟨[], [], none⟩ : Reading).step? c rest).map fun s => (s.1.behind base, s.2) := by
  unfold step?
  split
  · rfl
  · split
    · rw [secondStar_start halone hfolders rfl rfl (Or.inr rfl),
        secondStar_start halone hfolders rfl rfl (Or.inl rfl)]
      rfl
    · rfl
  · simp only [Option.map_map]
    rfl
  · rfl
  · rfl
  · rfl
  · split <;> rfl
  · rfl

theorem underway_start {more : List Char}
    (hstep : (⟨[], [], none⟩ : Reading).step? c rest = some (s, more)) : s.Underway := by
  refine (step_of_step? hstep).underway fun after hc hrest => ?_
  rw [secondStar_start halone hfolders hc hrest (Or.inl rfl)]
  exact fun _ => ⟨List.cons_ne_nil _ _, fun heq => by cases heq⟩

/-- A pattern that does not start with folders reads the same after a slash. -/
theorem exists_read_start (fuel : Nat) : ∃ o : Option (List Piece),
    read fuel ⟨[], [], none⟩ (c :: rest) = o.map whole ∧
      ∀ base, read fuel ⟨[], base, some '/'⟩ (c :: rest) = o.map fun ps => whole (ps ++ base) := by
  cases fuel with
  | zero => exact ⟨none, rfl, fun base => rfl⟩
  | succ fuel =>
    simp only [read_cons, step?_start halone hfolders]
    cases hstep : (⟨[], [], none⟩ : Reading).step? c rest with
    | none => exact ⟨none, rfl, fun base => rfl⟩
    | some s =>
      obtain ⟨o, ho⟩ := exists_read_behind fuel (underway_start halone hfolders hstep) s.2
      refine ⟨o, ?_, ho⟩
      simpa only [behind_nil, List.append_nil, Option.bind_some] using ho []

end Start

end CodeStencil.Glob
