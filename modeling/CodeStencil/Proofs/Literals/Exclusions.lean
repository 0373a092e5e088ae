/-
  CodeStencil/Proofs/Literals/Exclusions.lean
  ===========================================
  **Excludes below a root** — the root is read as part of each pattern. Patterns mean below it what
  they say exactly if no character of the root has a meaning of its own (`worksBelow_iff`).
-/
import CodeStencil.Literals.Exclusion
import CodeStencil.Proofs.Globs.Widths
import CodeStencil.Proofs.Lists.Results

namespace CodeStencil.Exclusion

variable {root : Path} {patterns : List String} {e : Exclusion} {front : List Char} {rel p : String}

/-- What a pattern says about a path below the root. -/
def Selects (pattern rel : String) : Prop :=
  ∃ g, Glob.below? pattern = some g ∧ g.isMatch rel = true

/-- A pattern that says something about the paths below a root. -/
structure IsRelativeGlob (pattern : String) : Prop where
  relative : (⟨pattern⟩ : Path).isAbsolute = false
  valid : (Glob.parse? pattern).isSome = true

/-- Whatever patterns are listed below a root, the paths below it that are left out are those that a
    default pattern or a listed one says, blank lines and comments apart. -/
def WorksBelow (root : Path) : Prop :=
  ∀ patterns : List String, (∀ p ∈ patterns, isPattern (trim p) = true → IsRelativeGlob (trim p)) →
    ∃ e, build root patterns = .ok e ∧
      ∀ rel : String, (⟨rel⟩ : Path).isAbsolute = false → (e.excludes (root / rel) = true ↔
        (∃ p ∈ defaults, Selects p rel) ∨
          ∃ p ∈ patterns, isPattern (trim p) = true ∧ Selects (trim p) rel)

/-! ### The patterns of a set -/

theorem isRelativeGlob_of_mem_defaults (hp : p ∈ defaults) : IsRelativeGlob p := by
  have hrelative : ∀ p ∈ defaults, (⟨p⟩ : Path).isAbsolute = false := by decide
  have hvalid : ∀ p ∈ defaults, (Glob.parse? p).isSome = true := by decide
  exact ⟨hrelative p hp, hvalid p hp⟩

theorem trim_defaults : defaults.map trim = defaults := by decide

theorem mem_listed : p ∈ listed patterns ↔
    p ∈ defaults ∨ ∃ q ∈ patterns, isPattern (trim q) = true ∧ trim q = p := by
  have hdefaults : defaults.filter isPattern = defaults := by decide
  rw [listed, List.map_append, List.filter_append, List.mem_append, trim_defaults, hdefaults]
  refine or_congr_right ?_
  simp only [List.mem_filter, List.mem_map]
  constructor
  · rintro ⟨⟨q, hq, rfl⟩, hp⟩
    exact ⟨q, hq, hp, rfl⟩
  · rintro ⟨q, hq, hp, rfl⟩
    exact ⟨⟨q, hq, rfl⟩, hp⟩

theorem build_eq_ok : build root patterns = .ok e ↔
    (listed patterns).mapM (fun p => Glob.parse? (root / p).text) = some e := by
  unfold build
  split
  · next globs h => rw [h]; simp
  · next h => rw [h]; simp

/-- A set leaves out what one of its patterns matches, the root in front. -/
theorem excludes_iff (h : build root patterns = .ok e) {path : Path} : e.excludes path = true ↔
    ∃ p ∈ listed patterns, ∃ g, Glob.parse? (root / p).text = some g ∧ g.isMatch path.text = true := by
  unfold excludes
  simp only [List.any_eq_true, mem_mapM_some_iff (build_eq_ok.1 h)]
  constructor
  · rintro ⟨g, ⟨p, hp, hg⟩, hmatch⟩
    exact ⟨p, hp, g, hg, hmatch⟩
  · rintro ⟨p, hp, g, hg, hmatch⟩
    exact ⟨g, ⟨p, hp, hg⟩, hmatch⟩

theorem ne_empty_of_mem_listed (hp : p ∈ listed patterns) : p ≠ "" := by
  rintro rfl
  cases (List.mem_filter.1 hp).2

/-! ### Paths below a root -/

/-- What the paths below a root start with. -/
def Leads (root : Path) (front : List Char) : Prop :=
  ∀ rel : String, (⟨rel⟩ : Path).isAbsolute = false →
    (root / rel).text.toList = front ++ '/' :: rel.toList

/-- They start with the root, without a slash at its end. -/
theorem exists_leads (hroot : root.isAbsolute = true) : ∃ front,
    Leads root front ∧ front.all Glob.isPlain = root.text.toList.all Glob.isPlain := by
  have hslash (rel : String) : root / rel = root.join ⟨rel⟩ := rfl
  by_cases hlast : root.text.toList.getLast? = some '/'
  · obtain ⟨front, hfront⟩ := List.getLast?_eq_some_iff.1 hlast
    refine ⟨front, fun rel hrel => ?_, ?_⟩
    · rw [hslash, Path.join, if_neg (by simp [hrel]), if_pos (by simp [hlast])]
      simp [String.toList_append, hfront]
    · rw [hfront, List.all_append]
      simp [Glob.isPlain]
  · have hne : root.text ≠ "" := by
      intro hempty
      rw [Path.isAbsolute, hempty] at hroot
      cases hroot
    refine ⟨root.text.toList, fun rel hrel => ?_, rfl⟩
    rw [hslash, Path.join, if_neg (by simp [hrel]), if_neg (by simp [hlast, hne])]
    simp [String.toList_append]

theorem isAbsolute_append {name : String} (hne : name ≠ "") (more : String) :
    (⟨name ++ more⟩ : Path).isAbsolute = (⟨name⟩ : Path).isAbsolute := by
  have hchars : name.toList ≠ [] := by simpa using hne
  obtain ⟨c, cs, hcs⟩ := List.exists_cons_of_ne_nil hchars
  simp [Path.isAbsolute, String.toList_append, hcs]

/-! ### Roots that stand for themselves -/

section Plain

variable (hleads : Leads root front) (hplain : front.all Glob.isPlain = true)
include hleads hplain

theorem rel_below (hp : (⟨p⟩ : Path).isAbsolute = false) (hne : p ≠ "") :
    Option.Rel (Glob.FitsBelow front) (Glob.below? p) (Glob.parse? (root / p).text) :=
  Glob.rel_below (List.all_eq_true.1 hplain) hne (hleads p hp)

theorem isSome_parse? (hp : IsRelativeGlob p) (hne : p ≠ "") :
    (Glob.parse? (root / p).text).isSome = true := by
  have hbelow := Glob.isSome_below? hp.valid
  have hfits := rel_below hleads hplain hp.relative hne
  generalize Glob.below? p = alone, Glob.parse? (root / p).text = joined at hbelow hfits
  cases hfits with
  | none => exact hbelow
  | some => rfl

theorem isMatch_iff_selects (hp : (⟨p⟩ : Path).isAbsolute = false) (hne : p ≠ "")
    (hrel : (⟨rel⟩ : Path).isAbsolute = false) :
    (∃ g, Glob.parse? (root / p).text = some g ∧ g.isMatch (root / rel).text = true) ↔
      Selects p rel := by
  have hfits := rel_below hleads hplain hp hne
  unfold Selects
  generalize Glob.below? p = alone, Glob.parse? (root / p).text = joined at hfits
  cases hfits with
  | none => simp
  | some hfits => simpa using hfits.isMatch_iff (hleads rel hrel)

/-- The defaults always apply. -/
theorem excludes_of_selects_default (he : build root patterns = .ok e) (hp : p ∈ defaults)
    (hrel : (⟨rel⟩ : Path).isAbsolute = false) (hsel : Selects p rel) :
    e.excludes (root / rel) = true := by
  have hlisted : p ∈ listed patterns := mem_listed.2 (Or.inl hp)
  have hglob := isRelativeGlob_of_mem_defaults hp
  have hmatch := isMatch_iff_selects hleads hplain hglob.relative (ne_empty_of_mem_listed hlisted) hrel
  exact (excludes_iff he).2 ⟨p, hlisted, hmatch.2 hsel⟩

theorem worksBelow_of_plain : WorksBelow root := by
  intro patterns hvalid
  have hglobs : ∀ p ∈ listed patterns, IsRelativeGlob p := by
    intro p hp
    rcases mem_listed.1 hp with hp | ⟨q, hq, hpattern, rfl⟩
    · exact isRelativeGlob_of_mem_defaults hp
    · exact hvalid q hq hpattern
  obtain ⟨e, he⟩ := exists_mapM_some fun p hp =>
    isSome_parse? hleads hplain (hglobs p hp) (ne_empty_of_mem_listed hp)
  refine ⟨e, build_eq_ok.2 he, fun rel hrel => ?_⟩
  rw [excludes_iff (build_eq_ok.2 he)]
  have hselects : (∃ p ∈ listed patterns, ∃ g, Glob.parse? (root / p).text = some g ∧
      g.isMatch (root / rel).text = true) ↔ ∃ p ∈ listed patterns, Selects p rel :=
    exists_congr fun p => and_congr_right fun hp =>
      isMatch_iff_selects hleads hplain (hglobs p hp).relative (ne_empty_of_mem_listed hp) hrel
  rw [hselects]
  simp only [mem_listed, or_and_right, exists_or]
  refine or_congr_right ?_
  constructor
  · rintro ⟨_, ⟨q, hq, hpattern, rfl⟩, hsel⟩
    exact ⟨q, hq, hpattern, hsel⟩
  · rintro ⟨q, hq, hpattern, hsel⟩
    exact ⟨_, ⟨q, hq, hpattern, rfl⟩, hsel⟩

end Plain

/-! ### What the defaults say -/

/-- The folders that version control keeps. -/
def repositories : List String := [".git", ".hg", ".svn"]

theorem defaults_eq :
    defaults = (repositories.flatMap fun name => [name ++ "/**", name]) ++ ["**/.DS_Store"] := by
  decide

theorem mem_defaults_of_repository : ∀ name ∈ repositories,
    name ∈ defaults ∧ name ++ "/**" ∈ defaults := by
  decide

theorem below?_repository : ∀ name ∈ repositories,
    Glob.below? name = some (.sequence (name.toList.map .char)) ∧
      Glob.below? (name ++ "/**") = some (.sequence (name.toList.map .char ++ [.trailing])) := by
  decide

theorem below?_finderData : Glob.below? "**/.DS_Store" =
    some (.sequence (.leading :: ".DS_Store".toList.map .char)) := by
  decide

/-- Version control keeps a folder and what is in it. -/
theorem selects_repository {name : String} (hname : name ∈ repositories) :
    Selects name name ∧ ∀ more : String, Selects (name ++ "/**") (name ++ "/" ++ more) := by
  obtain ⟨halone, hinside⟩ := below?_repository name hname
  refine ⟨⟨_, halone, ?_⟩, fun more => ⟨_, hinside, ?_⟩⟩
  · rw [Glob.isMatch_iff, Glob.bytesOf_eq_spelling]
    exact Glob.matches_sequence_chars.2 rfl
  · have hbytes : Text.bytesOf (name ++ "/" ++ more) =
        Glob.spelling name.toList ++ 47 :: Glob.spelling more.toList := by
      rw [Glob.bytesOf_eq_spelling, ← Glob.spelling_below]
      simp [String.toList_append]
    rw [Glob.isMatch_iff, hbytes]
    exact Glob.matches_sequence_append.2 ⟨_, _, rfl, Glob.matches_sequence_chars.2 rfl,
      _, [], (List.append_nil _).symm, Glob.matches_trailing, rfl⟩

theorem head?_spelling_repository : ∀ name ∈ repositories,
    (Glob.spelling name.toList).head? = some 46 := by
  decide

/-- A default pattern looks for a dot at the start, or for a name at the end. -/
theorem ends_of_selects_default (hp : p ∈ defaults) (h : Selects p rel) :
    (Text.bytesOf rel).head? = some 46 ∨ (Text.bytesOf rel).getLast? = some 101 := by
  obtain ⟨g, hg, hmatch⟩ := h
  rw [Glob.isMatch_iff] at hmatch
  rw [defaults_eq, List.mem_append, List.mem_flatMap, List.mem_singleton] at hp
  rcases hp with ⟨name, hname, hp⟩ | rfl
  · left
    have hdot := head?_spelling_repository name hname
    obtain ⟨halone, hinside⟩ := below?_repository name hname
    rcases List.mem_pair.1 hp with rfl | rfl
    · rw [hinside] at hg
      obtain rfl := Option.some.inj hg
      obtain ⟨u, v, heq, hu, -⟩ := Glob.matches_sequence_append.1 hmatch
      rw [heq, Glob.matches_sequence_chars.1 hu, List.head?_append, hdot]
      rfl
    · rw [halone] at hg
      obtain rfl := Option.some.inj hg
      rw [Glob.matches_sequence_chars.1 hmatch]
      exact hdot
  · right
    rw [below?_finderData] at hg
    obtain rfl := Option.some.inj hg
    obtain ⟨u, v, heq, -, hv⟩ := hmatch
    rw [heq, Glob.matches_sequence_chars.1 hv, List.getLast?_append]
    rfl

/-! ### Roots that say something else -/

theorem selects_x : Selects "x" rel ↔ Text.bytesOf rel = [120] := by
  have hbelow : Glob.below? "x" = some (.sequence ("x".toList.map .char)) := by decide
  unfold Selects
  simp only [hbelow, Option.some.injEq, exists_eq_left', Glob.isMatch_iff,
    Glob.matches_sequence_chars]
  rfl

/-- Where a character of the root has a meaning, a pattern for one file either misses it or leaves
    out files further down. -/
theorem not_worksBelow (hroot : root.isAbsolute = true)
    (hspecial : root.text.toList.all Glob.isPlain = false) : ¬WorksBelow root := by
  intro hworks
  obtain ⟨front, hleads, hfront⟩ := exists_leads hroot
  have htrim : trim "x" = "x" := by decide
  have hx : IsRelativeGlob "x" := ⟨by decide, by decide⟩
  obtain ⟨e, he, hnone⟩ := hworks [] (by simp)
  obtain ⟨e', he', hone⟩ := hworks ["x"] (by simpa [htrim] using fun _ => hx)
  have hkept : ¬e.excludes (root / "x") = true := by
    rw [hnone "x" hx.relative]
    rintro (⟨p, hp, hsel⟩ | ⟨p, hp, -⟩)
    · rcases ends_of_selects_default hp hsel with hhead | hlast
      · exact absurd hhead (by decide)
      · exact absurd hlast (by decide)
    · cases hp
  have hout : e'.excludes (root / "x") = true :=
    (hone "x" hx.relative).2 (Or.inr ⟨"x", List.mem_singleton_self _, by decide,
      htrim.symm ▸ selects_x.2 (by decide)⟩)
  obtain ⟨p, hp, g, hg, hmatch⟩ := (excludes_iff he').1 hout
  obtain rfl : p = "x" := by
    rcases mem_listed.1 hp with hdefault | ⟨q, hq, -, rfl⟩
    · exact absurd ((excludes_iff he).2 ⟨p, mem_listed.2 (Or.inl hdefault), g, hg, hmatch⟩) hkept
    · rw [List.mem_singleton.1 hq, htrim]
  -- the glob has run over a star, which may also take up a second copy of the path
  have htext := hleads "x" hx.relative
  have hcopies : g.isMatch ((root / "x").text ++ "y" ++ (root / "x").text) = true := by
    refine Glob.isMatch_around ?_ hg hmatch "y"
    rw [htext, List.all_append, hfront, hspecial]
    rfl
  have hdeeper : (⟨"xy" ++ (root / "x").text⟩ : Path).isAbsolute = false := by
    simp [Path.isAbsolute, String.toList_append]
  have hpath : (root / ("xy" ++ (root / "x").text)).text =
      (root / "x").text ++ "y" ++ (root / "x").text := by
    rw [← String.toList_inj, hleads _ hdeeper]
    simp [String.toList_append, htext]
  have hbytes : Text.bytesOf ("xy" ++ (root / "x").text) =
      (120 :: 121 :: Glob.spelling front ++ [47]) ++ [120] := by
    rw [Glob.bytesOf_eq_spelling, String.toList_append, htext, Glob.spelling_append,
      Glob.spelling_below, List.append_assoc]
    rfl
  rcases (hone _ hdeeper).1 ((excludes_iff he').2 ⟨"x", hp, g, hg, hpath ▸ hcopies⟩) with
    ⟨q, hq, hsel⟩ | ⟨q, hq, -, hsel⟩
  · rcases ends_of_selects_default hq hsel with hhead | hlast
    · rw [hbytes] at hhead
      exact absurd hhead (by simp)
    · rw [hbytes, List.getLast?_concat] at hlast
      exact absurd hlast (by decide)
  · rw [List.mem_singleton.1 hq, htrim, selects_x, hbytes] at hsel
    simp at hsel

/-- **Excludes below a root.** The excludes work exactly below roots without a character that
    patterns give a meaning to. Below those, what version control keeps is always left out. -/
theorem worksBelow_iff (hroot : root.isAbsolute = true) :
    (WorksBelow root ↔ ∀ c ∈ root.text.toList, Glob.isPlain c = true) ∧
      ((∀ c ∈ root.text.toList, Glob.isPlain c = true) →
        ∀ patterns e, build root patterns = .ok e → ∀ name ∈ repositories,
          e.excludes (root / name) = true ∧
            ∀ more : String, e.excludes (root / (name ++ "/" ++ more)) = true) := by
  rw [← List.all_eq_true]
  obtain ⟨front, hleads, hfront⟩ := exists_leads hroot
  refine ⟨⟨fun hworks => ?_, fun hplain => ?_⟩, fun hplain patterns e he name hname => ?_⟩
  · cases hspecial : root.text.toList.all Glob.isPlain with
    | true => rfl
    | false => exact absurd hworks (not_worksBelow hroot hspecial)
  · exact worksBelow_of_plain hleads (hfront.trans hplain)
  · obtain ⟨halone, hinside⟩ := selects_repository hname
    obtain ⟨hdefault, hdefault'⟩ := mem_defaults_of_repository name hname
    have hrelative := (isRelativeGlob_of_mem_defaults hdefault).relative
    refine ⟨?_, fun more => ?_⟩
    · exact excludes_of_selects_default hleads (hfront.trans hplain) he hdefault hrelative halone
    · refine excludes_of_selects_default hleads (hfront.trans hplain) he hdefault' ?_ (hinside more)
      have hlisted : name ∈ listed patterns := mem_listed.2 (Or.inl hdefault)
      rw [String.append_assoc, isAbsolute_append (ne_empty_of_mem_listed hlisted)]
      exact hrelative

/-- A question mark in a root does no harm, but brackets do. -/
theorem brackets_in_root :
    (∃ e, build ⟨"/repo"⟩ ["docs/*", "# all"] = .ok e ∧
      e.excludes ((⟨"/repo"⟩ : Path) / ".git/HEAD") = true) ∧
      WorksBelow ⟨"/home/game, v?"⟩ ∧ ¬WorksBelow ⟨"/repo[1]"⟩ := by
  refine ⟨?_, ?_, ?_⟩
  · have hroot : (⟨"/repo"⟩ : Path).isAbsolute = true := by decide
    have hplain := List.all_eq_true.1 (by decide : "/repo".toList.all Glob.isPlain = true)
    obtain ⟨hworks, hkept⟩ := worksBelow_iff hroot
    have hpatterns : ∀ p ∈ ["docs/*", "# all"], isPattern (trim p) = true →
        (⟨trim p⟩ : Path).isAbsolute = false ∧ (Glob.parse? (trim p)).isSome = true := by
      decide
    obtain ⟨e, he, -⟩ := hworks.2 hplain ["docs/*", "# all"] fun p hp hpattern =>
      ⟨(hpatterns p hp hpattern).1, (hpatterns p hp hpattern).2⟩
    exact ⟨e, he, (hkept hplain _ e he ".git" (by decide)).2 "HEAD"⟩
  · exact (worksBelow_iff (by decide)).1.2 (List.all_eq_true.1 (by decide))
  · intro hworks
    have hplain := List.all_eq_true.2 ((worksBelow_iff (by decide)).1.1 hworks)
    exact absurd hplain (by decide)

end CodeStencil.Exclusion
