/-
  CodeStencil/Proofs/Files/Nesting.lean
  =====================================
  **Folders of paths** — the path before the last component of a path has all other components
  (`components_parent?`), and a name put behind a path leads one step further (`locate_child`).
-/
import Mathlib.Data.List.Induction
import CodeStencil.Proofs.Files.Changes
import CodeStencil.Proofs.Text.Splitting

namespace CodeStencil

namespace Path

/-! ### Parts one by one -/

theorem isAbsolute_iff_parts {p : Path} :
    p.isAbsolute = true ↔ ∃ part rest, p.parts = [] :: part :: rest := by
  unfold isAbsolute parts
  cases htext : p.text.toList with
  | nil => simp [Text.splitAt]
  | cons c cs =>
    by_cases hc : c = '/'
    · obtain ⟨part, rest, hcs⟩ := List.exists_cons_of_ne_nil (Text.splitAt_ne_nil '/' cs)
      simp [Text.splitAt, hc, hcs]
    · obtain ⟨part, rest, hcs⟩ := List.exists_cons_of_ne_nil (Text.splitAt_ne_nil '/' cs)
      simp [Text.splitAt, hc, hcs]

theorem componentsOf_append (parts more : List (List Char)) (h : parts ≠ []) :
    componentsOf (parts ++ more) = componentsOf parts ++ more.filterMap (component? false) := by
  obtain ⟨first, rest, rfl⟩ := List.exists_cons_of_ne_nil h
  simp [componentsOf]

/-- What the last part adds to the components. -/
theorem componentsOf_concat (parts : List (List Char)) (part : List Char) :
    componentsOf (parts ++ [part]) =
      componentsOf parts ++ (component? (parts.length == 0) part).toList := by
  cases parts with
  | nil => simp [componentsOf]
  | cons first rest =>
    rw [componentsOf_append _ _ (by simp)]
    cases hc : component? false part <;> simp [hc]

theorem countToLast_concat (parts : List (List Char)) (part : List Char) :
    countToLast (parts ++ [part]) =
      if (component? (parts.length == 0) part).isSome then parts.length + 1
      else countToLast parts := by
  unfold countToLast
  cases hc : component? (parts.length == 0) part <;> simp [List.zipIdx_append, hc]

/-- Up to the last part that counts there are all components, and without it one fewer. -/
theorem countToLast_spec (parts : List (List Char)) :
    countToLast parts ≤ parts.length ∧
      componentsOf (parts.take (countToLast parts)) = componentsOf parts ∧
      ∀ n, countToLast parts = n + 1 →
        ∃ c, componentsOf parts = componentsOf (parts.take n) ++ [c] := by
  induction parts using List.reverseRecOn with
  | nil => exact ⟨by simp [countToLast], by simp, by simp [countToLast]⟩
  | append_singleton parts part ih =>
    obtain ⟨hle, htake, hlast⟩ := ih
    rw [countToLast_concat, componentsOf_concat]
    cases hc : component? (parts.length == 0) part with
    | none =>
      simp only [Option.isSome_none, Bool.false_eq_true, if_false, Option.toList_none,
        List.append_nil, List.length_append, List.length_singleton]
      refine ⟨by omega, by rw [List.take_append_of_le_length hle, htake], ?_⟩
      intro n hn
      rw [List.take_append_of_le_length (by omega)]
      exact hlast n hn
    | some c =>
      simp only [Option.isSome_some, if_true, Option.toList_some, List.length_append,
        List.length_singleton]
      refine ⟨by omega, ?_, ?_⟩
      · rw [List.take_of_length_le (by simp), componentsOf_concat, hc]
        rfl
      · intro n hn
        have hn : n = parts.length := by omega
        subst hn
        exact ⟨c, by simp⟩

/-! ### The path before the last component -/

theorem parts_ofParts {p : Path} {m : Nat} (hm : p.parts.take m ≠ []) :
    (ofParts (p.parts.take m)).parts = p.parts.take m := by
  have hparts : ∀ part ∈ p.parts.take m, '/' ∉ part := fun part hpart =>
    Text.not_mem_of_mem_splitAt (List.mem_of_mem_take hpart)
  simpa [ofParts, parts] using Text.splitAt_intercalate hm hparts

@[simp] theorem components_root : (⟨"/"⟩ : Path).components = [.root] := by decide

@[simp] theorem components_empty : (⟨""⟩ : Path).components = [] := by decide

/-- A path whose first parts have a component starts at the root if and only if these do. -/
theorem isAbsolute_ofParts {p : Path} {m : Nat} (h : componentsOf (p.parts.take m) ≠ []) :
    (ofParts (p.parts.take m)).isAbsolute = p.isAbsolute := by
  have hne : p.parts.take m ≠ [] := by
    intro hnil
    simp [hnil, componentsOf] at h
  rw [Bool.eq_iff_iff, isAbsolute_iff_parts, isAbsolute_iff_parts, parts_ofParts hne]
  constructor
  · rintro ⟨part, rest, hcut⟩
    refine ⟨part, rest ++ p.parts.drop m, ?_⟩
    rw [← List.cons_append, ← List.cons_append, ← hcut, List.take_append_drop]
  · rintro ⟨part, rest, hp⟩
    -- the empty part in front of the root is no component
    cases m with
    | zero => simp [componentsOf] at h
    | succ m =>
      cases m with
      | zero => simp [hp, componentsOf, component?] at h
      | succ m => exact ⟨part, rest.take m, by rw [hp]; rfl⟩

/-- The parent has all components but the last one. -/
theorem components_parent? {p q : Path} (h : p.parent? = some q) :
    ∃ c, p.components = q.components ++ [c] := by
  unfold parent? at h
  obtain ⟨-, -, hlast⟩ := countToLast_spec p.parts
  cases hcount : countToLast p.parts with
  | zero => simp [hcount] at h
  | succ n =>
    obtain ⟨c, hc⟩ := hlast n hcount
    refine ⟨c, ?_⟩
    obtain ⟨hle, htake, hlast'⟩ := countToLast_spec (p.parts.take n)
    rw [List.length_take] at hle
    rw [List.take_take, Nat.min_eq_left (by omega)] at htake
    cases hcount' : countToLast (p.parts.take n) with
    | zero =>
      -- nothing is left but the root
      simp only [hcount, hcount', Option.some.injEq] at h
      rw [hcount', List.take_zero] at htake
      subst h
      unfold components
      rw [hc, ← htake]
      by_cases habs : p.isAbsolute = true
      · rw [if_pos habs, if_pos habs]
        exact congrArg (· ++ [c]) components_root.symm
      · rw [if_neg habs, if_neg habs]
        rfl
    | succ m =>
      simp only [hcount, hcount', Option.some.injEq] at h
      rw [hcount'] at htake
      subst h
      have hsome : componentsOf (p.parts.take (m + 1)) ≠ [] := by
        obtain ⟨c', hc'⟩ := hlast' m hcount'
        rw [htake, hc']
        simp
      have hne : p.parts.take (m + 1) ≠ [] := by
        intro hnil
        simp [hnil, componentsOf] at hsome
      unfold components
      rw [isAbsolute_ofParts hsome, parts_ofParts hne, htake, hc, List.append_assoc]

/-- A path without a parent has at most the root. -/
theorem components_of_parent?_none {p : Path} (h : p.parent? = none) :
    p.components.dropLast = [] := by
  unfold parent? at h
  obtain ⟨-, htake, -⟩ := countToLast_spec p.parts
  cases hcount : countToLast p.parts with
  | zero =>
    rw [hcount, List.take_zero] at htake
    unfold components
    rw [← htake]
    split <;> rfl
  | succ n =>
    simp only [hcount] at h
    split at h <;> cases h

end Path

namespace Disk

/-! ### The folders on the way -/

/-- The locations of the folders that the last component of a path lies behind. -/
def way (d : Disk) (p : Path) : List Location :=
  Path.Component.trail d.current p.components.dropLast

theorem way_congr {d d' : Disk} (h : d'.current = d.current) (p : Path) : d'.way p = d.way p := by
  simp [way, h]

theorem way_subset_trail (d : Disk) (p : Path) : d.way p ⊆ d.trail p :=
  Path.trail_subset_of_prefix (List.dropLast_prefix _) _

theorem trail_parent? {p q : Path} (h : p.parent? = some q) (d : Disk) :
    d.trail q = d.way p := by
  obtain ⟨c, hc⟩ := Path.components_parent? h
  simp [trail, way, hc]

theorem way_of_parent?_none {p : Path} (h : p.parent? = none) (d : Disk) : d.way p = [] := by
  simp [way, Path.components_of_parent?_none h, Path.Component.trail]

/-! ### Names behind paths -/

theorem follow_append (d : Disk) (loc : Location) (parts more : List (List Char)) :
    d.follow loc (parts ++ more) = (d.follow loc parts).bind fun l => d.follow l more := by
  induction parts generalizing loc with
  | nil => rfl
  | cons part rest ih =>
    rw [List.cons_append]
    rcases Path.component?_cases part with hc | hc | hc
    · rw [follow_cons_of_none hc, follow_cons_of_none hc]
      split
      · exact ih loc
      · rfl
    · rw [follow_cons_of_above hc, follow_cons_of_above hc]
      split
      · exact ih loc.dropLast
      · rfl
    · rw [follow_cons_of_name hc, follow_cons_of_name hc]
      split
      · exact ih _
      · rfl

end Disk

/-- The text is one part of a path, and a name that files may have. -/
def Path.Simple (name : String) : Prop :=
  Path.component? false name.toList = some (.name name) ∧ '/' ∉ name.toList ∧
    Disk.isName name = true

instance (name : String) : Decidable (Path.Simple name) := inferInstanceAs (Decidable (_ ∧ _ ∧ _))

namespace Path

theorem isAbsolute_of_not_mem {name : String} (h : '/' ∉ name.toList) :
    (⟨name⟩ : Path).isAbsolute = false := by
  unfold isAbsolute
  cases hchars : name.toList with
  | nil => rfl
  | cons c cs =>
    rw [hchars, List.mem_cons, not_or] at h
    simpa using fun heq => h.1 heq.symm

/-- What is put behind a path comes after its parts, but for the empty part behind a slash at its
    end. -/
theorem parts_join {p q : Path} (hp : p.text.isEmpty = false) (hq : q.isAbsolute = false) :
    (p.join q).text.isEmpty = false ∧ (p.join q).isAbsolute = p.isAbsolute ∧
      ∃ front, (p.join q).parts = front ++ q.parts ∧
        (p.parts = front ∨ p.parts = front ++ [[]]) := by
  have hempty : p.text ≠ "" := by simpa using hp
  obtain ⟨c, cs, hcs⟩ := List.exists_cons_of_ne_nil (show p.text.toList ≠ [] by simpa using hempty)
  unfold join
  rw [if_neg (by simp [hq])]
  by_cases hend : p.text.toList.getLast? = some '/'
  · obtain ⟨front, hfront⟩ := List.getLast?_eq_some_iff.1 hend
    have hbehind : (p.text ++ q.text).toList = front ++ '/' :: q.text.toList := by
      simp [String.toList_append, hfront]
    rw [if_pos (by simp [hend])]
    refine ⟨by simp [hempty], ?_, Text.splitAt '/' front, ?_, Or.inr ?_⟩
    · simp [isAbsolute, String.toList_append, hcs]
    · rw [parts, hbehind, Text.splitAt_append_mark]
      rfl
    · rw [parts, hfront, Text.splitAt_append_mark]
      rfl
  · have hbehind : (p.text ++ "/" ++ q.text).toList = p.text.toList ++ '/' :: q.text.toList := by
      simp [String.toList_append]
    rw [if_neg (by simp [hempty, hend])]
    refine ⟨by simp, ?_, p.parts, ?_, Or.inl rfl⟩
    · simp [isAbsolute, String.toList_append, hcs]
    · rw [parts, hbehind, Text.splitAt_append_mark]
      rfl

end Path

namespace Disk

/-- A name put behind a path leads one step further if there is a folder. -/
theorem locate_child (d : Disk) {base : Path} {name : String} (hbase : base.text.isEmpty = false)
    (hname : Path.Simple name) :
    d.locate (base / name) =
      (d.locate base).bind fun l => if d.isFolderAt l then some (l ++ [name]) else none := by
  obtain ⟨hcomponent, hslash, hfit⟩ := hname
  have hlast : ∀ l, d.follow l [name.toList] =
      if d.isFolderAt l then some (l ++ [name]) else none := by
    intro l
    rw [follow_cons_of_name hcomponent, hfit, Bool.and_true]
    rfl
  have hparts : (⟨name⟩ : Path).parts = [name.toList] := Text.splitAt_of_not_mem hslash
  obtain ⟨hempty, habs, front, hjoin, hfront⟩ :=
    Path.parts_join hbase (Path.isAbsolute_of_not_mem hslash)
  have hstart : d.start (base.join ⟨name⟩) = d.start base := by rw [start, start, habs]
  change d.locate (base.join ⟨name⟩) = _
  rw [locate, locate, if_neg (Bool.eq_false_iff.1 hempty), if_neg (Bool.eq_false_iff.1 hbase),
    hstart, hjoin, hparts, follow_append]
  rcases hfront with hfront | hfront
  · rw [hfront]
    congr 1
    funext l
    exact hlast l
  · rw [hfront, follow_append, Option.bind_assoc]
    congr 1
    funext l
    rw [hlast, follow_cons_of_none (by decide)]
    cases hfolder : d.isFolderAt l <;> simp [follow, hfolder]

end Disk

end CodeStencil
