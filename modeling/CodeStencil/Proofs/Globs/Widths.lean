/-
  CodeStencil/Proofs/Globs/Widths.lean
  ====================================
  **Globs that match their own text** — no character is read as more bytes than it is written with,
  and one with a meaning as fewer (`Step.width_le`, `width_read`). So if a text with such characters is
  matched by what is read from it, a star has been run over, and the glob matches more than that text
  (`isMatch_around`).
-/
import CodeStencil.Proofs.Globs.Below

namespace CodeStencil.Glob

open Reading

variable {c : Char} {cs rest more : List Char} {p : Piece} {ps : List Piece} {g : Glob}
  {r s : Reading} {fuel : Nat}

/-! ### Widths of what has been read -/

def Piece.width (p : Piece) : Nat := p.glob?.elim 0 Glob.width

def branchWidth (ps : List Piece) : Nat := (ps.map Piece.width).sum

@[simp] theorem branchWidth_nil : branchWidth [] = 0 := rfl

@[simp] theorem branchWidth_cons (p : Piece) (ps : List Piece) :
    branchWidth (p :: ps) = p.width + branchWidth ps := rfl

def groupWidth (g : List (List Piece) × List Piece) : Nat :=
  (g.1.map branchWidth).sum + branchWidth g.2

def Reading.width (r : Reading) : Nat := branchWidth r.branch + (r.groups.map groupWidth).sum

theorem width_filterMap (ps : List Piece) :
    ((ps.filterMap Piece.glob?).map width).sum = branchWidth ps := by
  induction ps with
  | nil => rfl
  | cons p ps ih =>
    rw [branchWidth_cons, ← ih, Piece.width]
    cases hp : p.glob? with
    | none => rw [List.filterMap_cons_none hp, Option.elim_none, Nat.zero_add]
    | some g => rw [List.filterMap_cons_some hp, List.map_cons, List.sum_cons, Option.elim_some]

theorem branchWidth_reverse (ps : List Piece) : branchWidth ps.reverse = branchWidth ps := by
  rw [branchWidth, List.map_reverse, List.sum_reverse, branchWidth]

theorem width_whole (ps : List Piece) : (whole ps).width = branchWidth ps := by
  rw [whole, width_sequence, width_filterMap, branchWidth_reverse]

theorem width_ofAll_le (ps : List Piece) : (ofAll ps).width ≤ branchWidth ps := by
  by_cases hps : ps = [.leading]
  · rw [hps]
    exact Nat.zero_le _
  · rw [ofAll_eq hps, width_whole]

theorem width_ofPieces (ps : List Piece) : (ofPieces ps).elim 0 width ≤ branchWidth ps := by
  rw [← width_whole, ← ofPieces_getD]
  cases ofPieces ps with
  | none => exact Nat.zero_le _
  | some g => exact Nat.le_refl _

theorem width_oneOf (gs : List Glob) : (oneOf gs).elim 0 width ≤ (gs.map width).sum := by
  cases gs with
  | nil => exact Nat.le_refl 0
  | cons g gs =>
    rw [oneOf, Option.elim_some, List.map_cons, List.sum_cons]
    induction gs generalizing g with
    | nil => exact Nat.le_refl _
    | cons h gs ih =>
      have hrest := ih (.either g h)
      rw [width] at hrest
      rw [List.foldl_cons, List.map_cons, List.sum_cons]
      omega

theorem width_alternatives (branches : List (List Piece)) :
    ((branches.filterMap ofPieces).map width).sum ≤ (branches.map branchWidth).sum := by
  induction branches with
  | nil => exact Nat.le_refl 0
  | cons ps branches ih =>
    have hps := width_ofPieces ps
    cases hglob : ofPieces ps with
    | none =>
      rw [List.filterMap_cons_none hglob, List.map_cons, List.sum_cons]
      omega
    | some g =>
      rw [hglob, Option.elim_some] at hps
      rw [List.filterMap_cons_some hglob, List.map_cons, List.map_cons, List.sum_cons, List.sum_cons]
      omega

/-! ### Widths of a step -/

namespace Reading

theorem width_push (p : Piece) (last : Char) : (r.push p last).width = p.width + r.width :=
  Nat.add_assoc _ _ _

theorem width_openGroup : r.openGroup.width = r.width := by
  simp [openGroup, width, groupWidth]

theorem width_comma_le : r.comma.width ≤ r.width + 1 := by
  unfold comma
  split
  · next heq =>
    simp only [width, groupWidth, heq, List.map_cons, List.sum_cons, branchWidth_nil]
    omega
  · rw [width_push, Nat.add_comm]
    exact Nat.le_refl _

theorem width_closeGroup?_le (h : r.closeGroup? = some s) : s.width ≤ r.width := by
  unfold closeGroup? at h
  split at h
  · next branches around more heq =>
    cases h
    have hgroup := (width_oneOf _).trans (width_alternatives (r.branch :: branches).reverse)
    rw [List.map_reverse, List.sum_reverse, List.map_cons, List.sum_cons] at hgroup
    simp only [width, groupWidth, heq, List.map_cons, List.sum_cons, branchWidth_cons]
    have hpiece : (Piece.group (oneOf ((r.branch :: branches).reverse.filterMap ofPieces))).width =
        (oneOf ((r.branch :: branches).reverse.filterMap ofPieces)).elim 0 Glob.width := rfl
    omega
  · cases h

theorem width_twoStars : r.twoStars.width = r.width := by
  simp [twoStars, width, Piece.width, Piece.glob?, Glob.width]

theorem width_folders_le (p : Piece) (last : Char) : (r.folders p last).width ≤ p.width + r.width := by
  unfold folders width
  dsimp only
  split
  · next heq =>
    rw [heq]
    omega
  · next heq =>
    rw [heq]
    omega
  · next q rest _ _ heq =>
    rw [heq, branchWidth_cons, branchWidth_cons]
    omega
  · next heq =>
    rw [heq, branchWidth_cons]
    omega

theorem width_secondStar_lt (r : Reading) (rest : List Char) : (r.secondStar rest).1.width +
    (spelling (if (r.secondStar rest).2 then rest.drop 1 else rest)).length <
      r.width + (spelling rest).length + 2 := by
  have hleading : Piece.width .leading = 1 := rfl
  have htrailing : Piece.width .trailing = 1 := rfl
  have hbetween : Piece.width .between = 2 := rfl
  rcases secondStar_cases r rest with ⟨last, slash, heq⟩ | heq | heq | ⟨more, rfl, heq⟩ <;>
    simp only [heq, if_true, Bool.false_eq_true, if_false]
  · have hrest : (spelling (if slash then rest.drop 1 else rest)).length ≤ (spelling rest).length := by
      split
      · cases rest with
        | nil => exact Nat.le_refl _
        | cons c rest => simp
      · exact Nat.le_refl _
    rw [width_push]
    omega
  · rw [width_twoStars]
    omega
  · have hfolders := width_folders_le (r := r) .trailing '*'
    omega
  · have hfolders := width_folders_le (r := r) .between '/'
    have hslash : (spelling ('/' :: more)).length = (spelling more).length + 1 := by
      rw [spelling_cons, List.length_append, Nat.add_comm]
      rfl
    rw [List.drop_one, List.tail_cons]
    omega

end Reading

/-! ### Widths of a whole reading -/

theorem length_spelling_cons (c : Char) (cs : List Char) :
    (spelling (c :: cs)).length = c.utf8Size + (spelling cs).length := by
  rw [spelling_cons, List.length_append, String.length_utf8EncodeChar]

theorem length_spelling_lt (c : Char) (cs : List Char) :
    (spelling cs).length < (spelling (c :: cs)).length := by
  have hpos := Char.utf8Size_pos c
  rw [length_spelling_cons]
  omega

theorem length_readRanges_lt {ranges out : List (Char × Char)} {pending : Bool}
    (h : readRanges ranges pending cs = some (out, rest)) :
    (spelling rest).length < (spelling cs).length := by
  fun_induction readRanges ranges pending cs with
  | case1 => cases h
  | case2 _ c more ih => exact (ih h).trans (length_spelling_lt c more)
  | case3 _ more =>
    cases h
    exact length_spelling_lt ']' rest
  | case4 _ c more _ _ _ _ _ ih => exact (ih h).trans (length_spelling_lt c more)
  | case5 => cases h
  | case6 c more _ _ _ _ _ _ ih => exact (ih h).trans (length_spelling_lt c more)
  | case7 _ c more _ _ _ _ _ _ ih => exact (ih h).trans (length_spelling_lt c more)

theorem length_readSet_lt {set : ByteSet} (h : readSet cs = some (set, rest)) :
    (spelling rest).length < (spelling cs).length := by
  unfold readSet at h
  split at h
  next negated inner heq =>
    obtain ⟨⟨ranges, after⟩, hranges, h⟩ := Option.bind_eq_some_iff.1 h
    have hinner : (spelling inner).length ≤ (spelling cs).length := by
      split at heq
      · cases heq
        exact (length_spelling_lt '!' inner).le
      · cases heq
        exact (length_spelling_lt '^' inner).le
      · cases heq
        exact Nat.le_refl _
    have hlt := length_readRanges_lt hranges
    dsimp only at h
    split at h
    · cases h
      omega
    · cases h

theorem width_pieceChar (c : Char) : Piece.width (.char c) = c.utf8Size := by
  rw [Piece.width, Piece.glob?, Option.elim_some, width_char, String.length_utf8EncodeChar]

/-- A step makes no room: what is read is at least as long as what it stands for, and longer where
    the character has a meaning. -/
theorem Reading.Step.width_le (h : Step r c rest s more) :
    s.width + (spelling more).length + (if isPlain c then 0 else 1) ≤
      r.width + (spelling (c :: rest)).length := by
  rw [length_spelling_cons]
  cases h with
  | one =>
    change _ + 0 ≤ _ + (1 + _)
    rw [width_push, show Piece.width .one = 1 from rfl]
    omega
  | stars after =>
    change _ + 1 ≤ _ + (1 + _)
    have hstars := width_secondStar_lt r after
    have hstar : (spelling ('*' :: after)).length = 1 + (spelling after).length :=
      length_spelling_cons '*' after
    omega
  | star =>
    change _ + 1 ≤ _ + (1 + _)
    rw [width_push, show Piece.width .many = 0 from rfl]
    omega
  | @set _ _ bytes hset =>
    change _ + 1 ≤ _ + (1 + _)
    have hlt := length_readSet_lt hset
    rw [width_push, show Piece.width (.set bytes) = 1 from rfl]
    omega
  | opening =>
    change _ + 1 ≤ _ + (1 + _)
    rw [width_openGroup]
    omega
  | closing hclosed =>
    change _ + 1 ≤ _ + (1 + _)
    have hclose := width_closeGroup?_le hclosed
    omega
  | comma =>
    change _ + 0 ≤ _ + (1 + _)
    have hcomma := width_comma_le (r := r)
    omega
  | escaped d =>
    change _ + 1 ≤ _ + (1 + _)
    rw [width_push, length_spelling_cons, width_pieceChar]
    omega
  | plain hplain =>
    rw [width_push, width_pieceChar, if_pos hplain]
    omega

theorem Reading.Step.rest_eq (h : Step r c rest s more) (hc : isPlain c = true) : more = rest := by
  cases h with
  | one | comma | plain => rfl
  | stars | star | set | opening | closing | escaped => cases hc

/-- A reading makes no room, and leaves some unused where a character has a meaning. -/
theorem width_read (h : read fuel r cs = some g) :
    g.width + (if cs.all isPlain then 0 else 1) ≤ r.width + (spelling cs).length := by
  induction fuel generalizing r cs with
  | zero => cases h
  | succ fuel ih =>
    cases cs with
    | nil =>
      unfold read at h
      split at h
      · cases h
        have hall := width_ofAll_le r.branch
        simp [Reading.width]
        omega
      · cases h
    | cons c rest =>
      rw [read_cons] at h
      obtain ⟨⟨s, more⟩, hstep, hread⟩ := Option.bind_eq_some_iff.1 h
      have hstep := step_of_step? hstep
      have hwidth := hstep.width_le
      have hmore := ih hread
      dsimp only at hmore
      -- a plain character leaves those with a meaning to the rest; any other is one itself
      by_cases hc : isPlain c = true
      · obtain rfl := hstep.rest_eq hc
        rw [if_pos hc] at hwidth
        rw [List.all_cons, hc, Bool.true_and]
        omega
      · rw [if_neg hc] at hwidth
        rw [List.all_cons, if_neg (by simp [hc])]
        omega

/-- **A glob that has a meaning matches more than its own text.** If it matches that text at all, it
    also matches anything between two copies of it. -/
theorem isMatch_around {path : String} (hpath : path.toList.all isPlain = false)
    (hg : parse? path = some g) (hmatch : g.isMatch path = true) (mid : String) :
    g.isMatch (path ++ mid ++ path) = true := by
  have hwidth := width_read hg
  rw [hpath, if_neg (by simp)] at hwidth
  rw [isMatch_iff, bytesOf_eq_spelling] at hmatch ⊢
  rcases hmatch.pump with hshort | ⟨u, v, w, heq, hany⟩
  · have hzero : Reading.width ⟨[], [], none⟩ = 0 := rfl
    omega
  · have hcopies : spelling (path ++ mid ++ path).toList =
        u ++ (v ++ w ++ spelling mid.toList ++ u ++ v) ++ w := by
      simp [String.toList_append, heq]
    rw [hcopies]
    exact hany _

end CodeStencil.Glob
