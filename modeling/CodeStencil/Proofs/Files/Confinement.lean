/-
  CodeStencil/Proofs/Files/Confinement.lean
  =========================================
  **Paths that stay inside** — a path that is put behind another one leads on from where that one
  leads (`resolve_join`). It stays strictly inside, whatever the folder is, exactly if its components
  never lead above the place where they start and end below it (`descends_iff`).
-/
import CodeStencil.Proofs.Files.Nesting

namespace CodeStencil

/-- The location lies in the folder, or in a folder inside of it. -/
def Location.Inside (folder loc : Location) : Prop := folder <+: loc ∧ folder ≠ loc

namespace Path

variable {loc : Location} {cs : List Component} {s : String}

/-- Where a path leads from a location. -/
def lead (p : Path) (loc : Location) : Location := p.components.foldl Component.step loc

/-- How far below its start a walk ends that is this far below it now; none if it ever leads above. -/
def Component.depth? : Nat → List Component → Option Nat
  | n, [] => some n
  | n, .name _ :: rest => depth? (n + 1) rest
  | n, .here :: rest => depth? n rest
  | n + 1, .above :: rest => depth? n rest
  | 0, .above :: _ => none
  | _, .root :: _ => none

/-- The path never leads above its start and ends below it. -/
def descends (p : Path) : Bool := (Component.depth? 0 p.components).any (0 < ·)

/-! ### Walks that stay below -/

/-- A walk that never leads above the location from which it went down stays below it. -/
theorem exists_of_depth? (loc : Location) {n m : Nat} (h : Component.depth? n cs = some m)
    {below : List String} (hbelow : below.length = n) : ∃ below' : List String,
      below'.length = m ∧ cs.foldl Component.step (loc ++ below) = loc ++ below' := by
  induction cs generalizing n below with
  | nil =>
    rw [Component.depth?, Option.some.injEq] at h
    exact ⟨below, hbelow.trans h, rfl⟩
  | cons c rest ih =>
    rw [List.foldl_cons]
    cases c with
    | root =>
      rw [Component.depth?] at h
      cases h
    | here =>
      rw [Component.depth?] at h
      exact ih h hbelow
    | name t =>
      rw [Component.depth?] at h
      rw [Component.step, List.append_assoc]
      exact ih h (by rw [List.length_append, hbelow, List.length_singleton])
    | above =>
      cases n with
      | zero =>
        rw [Component.depth?] at h
        cases h
      | succ n =>
        rw [Component.depth?] at h
        have hne : below ≠ [] := List.ne_nil_of_length_eq_add_one hbelow
        rw [Component.step, List.dropLast_append_of_ne_nil hne]
        exact ih h (by rw [List.length_dropLast, hbelow, Nat.add_sub_cancel])

/-- A walk ends in the names on its way and those where it starts. -/
theorem not_mem_foldl_step (hloc : s ∉ loc) (hcs : Component.name s ∉ cs) :
    s ∉ cs.foldl Component.step loc := by
  induction cs generalizing loc with
  | nil => exact hloc
  | cons c rest ih =>
    obtain ⟨hc, hrest⟩ := not_or.1 (mt List.mem_cons.2 hcs)
    refine ih ?_ hrest
    cases c with
    | root => exact List.not_mem_nil
    | here => exact hloc
    | above => exact fun hmem => hloc (List.dropLast_subset loc hmem)
    | name t =>
      rw [Component.step, List.mem_append, List.mem_singleton]
      rintro (hmem | rfl)
      · exact hloc hmem
      · exact hc rfl

/-- A walk that leads above the folder in which it starts loses its name for good. -/
theorem not_mem_of_depth?_none {below : List String} (h : Component.depth? below.length cs = none)
    (hbelow : s ∉ below) (hcs : Component.name s ∉ cs) :
    s ∉ cs.foldl Component.step (s :: below) := by
  induction cs generalizing below with
  | nil =>
    rw [Component.depth?] at h
    cases h
  | cons c rest ih =>
    obtain ⟨hc, hrest⟩ := not_or.1 (mt List.mem_cons.2 hcs)
    rw [List.foldl_cons]
    cases c with
    | root => exact not_mem_foldl_step List.not_mem_nil hrest
    | here =>
      rw [Component.depth?] at h
      exact ih h hbelow hrest
    | name t =>
      rw [Component.depth?] at h
      change s ∉ rest.foldl Component.step (s :: (below ++ [t]))
      refine ih ?_ ?_ hrest
      · rw [List.length_append]
        exact h
      · rw [List.mem_append, List.mem_singleton]
        rintro (hmem | rfl)
        · exact hbelow hmem
        · exact hc rfl
    | above =>
      cases below with
      | nil => exact not_mem_foldl_step List.not_mem_nil hrest
      | cons first more =>
        rw [List.length_cons, Component.depth?] at h
        change s ∉ rest.foldl Component.step (s :: (first :: more).dropLast)
        refine ih ?_ ?_ hrest
        · rw [List.length_dropLast]
          exact h
        · exact fun hmem => hbelow (List.dropLast_subset _ hmem)

theorem slash_not_name (p : Path) : Component.name "/" ∉ p.components := by
  intro hmem
  rw [components, List.mem_append] at hmem
  rcases hmem with hmem | hmem
  · split at hmem <;> simp at hmem
  · obtain ⟨part, hpart, hname⟩ := List.mem_filterMap.1 (name_mem_componentsOf_iff.1 hmem)
    obtain ⟨-, -, hslash⟩ := not_special_of_component?_name hname
    refine Text.not_mem_of_mem_splitAt hpart ?_
    rw [← String.toList_ofList (l := part), ← hslash]
    decide

/-- The paths that descend are those that lead strictly inside of every folder. -/
theorem descends_iff {p : Path} : p.descends = true ↔ ∀ loc, Location.Inside loc (p.lead loc) := by
  rw [descends, Option.any_eq_true]
  constructor
  · rintro ⟨m, hm, hpos⟩ loc
    obtain ⟨below, hlength, hlead⟩ := exists_of_depth? loc hm List.length_nil
    rw [List.append_nil] at hlead
    rw [lead, hlead]
    refine ⟨List.prefix_append loc below, ?_⟩
    intro heq
    rw [List.self_eq_append_right.1 heq, List.length_nil] at hlength
    simp [← hlength] at hpos
  · intro h
    cases hdepth : Component.depth? 0 p.components with
    | none =>
      -- no path has a name with a slash
      have hmem : "/" ∈ p.lead ["/"] := (h ["/"]).1.subset List.mem_cons_self
      exact absurd hmem (not_mem_of_depth?_none hdepth List.not_mem_nil p.slash_not_name)
    | some m =>
      refine ⟨m, rfl, ?_⟩
      obtain ⟨below, hlength, hlead⟩ := exists_of_depth? [] hdepth List.length_nil
      have hne : [] ≠ p.lead [] := (h []).2
      rw [decide_eq_true_eq, ← hlength, List.length_pos_iff]
      rintro rfl
      exact hne hlead.symm

/-! ### Names and relative paths -/

theorem components_of_name {name : String} (h : component? true name.toList = some (.name name))
    (hslash : '/' ∉ name.toList) : (⟨name⟩ : Path).components = [.name name] := by
  rw [components, if_neg (by simp [isAbsolute_of_not_mem hslash]), parts,
    Text.splitAt_of_not_mem hslash, componentsOf, h]
  rfl

/-- A text without slashes is a name, unless it is empty or made of one dot or two. -/
theorem lead_name {name : String} (hslash : '/' ∉ name.toList) (hne : name ≠ "") (hdot : name ≠ ".")
    (hdots : name ≠ "..") (loc : Location) : (⟨name⟩ : Path).lead loc = loc ++ [name] := by
  have hchars : ∀ text : String, name ≠ text → name.toList ≠ text.toList :=
    fun text hname heq => hname (String.toList_inj.1 heq)
  have hcomponent : component? true name.toList = some (.name name) := by
    have hnil : name.toList ≠ [] := hchars "" hne
    have hone : name.toList ≠ ['.'] := hchars "." hdot
    have htwo : name.toList ≠ ['.', '.'] := hchars ".." hdots
    rw [component?, if_neg hnil, if_neg hone, if_neg htwo, String.ofList_toList]
  rw [lead, components_of_name hcomponent hslash]
  rfl

theorem component?_ne_root (first : Bool) (part : List Char) :
    component? first part ≠ some .root := by
  unfold component?
  split_ifs <;> simp

theorem root_not_mem {p : Path} (h : p.isAbsolute = false) : Component.root ∉ p.components := by
  rw [components, h]
  cases p.parts with
  | nil => simp [componentsOf]
  | cons first rest => simp [componentsOf, component?_ne_root]

theorem prefix_foldl_step (hroot : Component.root ∉ cs) (habove : Component.above ∉ cs)
    (loc : Location) : loc <+: cs.foldl Component.step loc := by
  induction cs generalizing loc with
  | nil => exact List.prefix_rfl
  | cons c rest ih =>
    obtain ⟨hc, hroot⟩ := not_or.1 (mt List.mem_cons.2 hroot)
    obtain ⟨hc', habove⟩ := not_or.1 (mt List.mem_cons.2 habove)
    refine List.IsPrefix.trans ?_ (ih hroot habove (c.step loc))
    cases c with
    | root => exact absurd rfl hc
    | above => exact absurd rfl hc'
    | here => exact List.prefix_rfl
    | name t => exact List.prefix_append loc [t]

/-- A relative path without the folder above leads nowhere but below. -/
theorem prefix_lead {p : Path} (habs : p.isAbsolute = false) (hlevel : p.Level) (loc : Location) :
    loc <+: p.lead loc :=
  prefix_foldl_step (root_not_mem habs) hlevel loc

/-! ### Paths behind paths -/

theorem lead_of_isAbsolute {p : Path} (h : p.isAbsolute = true) (loc loc' : Location) :
    p.lead loc = p.lead loc' := by
  rw [lead, lead, components, if_pos h]
  rfl

theorem lead_of_relative {p : Path} (h : p.isAbsolute = false) (loc : Location) :
    p.lead loc = (p.parts.filterMap (component? false)).foldl Component.step loc := by
  rw [← foldl_componentsOf, lead, components, h]
  rfl

end Path

namespace Disk

/-- What is put behind a path leads on from where that path leads; only the root starts anew. -/
theorem resolve_join (d : Disk) (p q : Path) : d.resolve (p.join q) = q.lead (d.resolve p) := by
  by_cases habs : q.isAbsolute = true
  · rw [Path.join, if_pos habs]
    exact Path.lead_of_isAbsolute habs _ _
  have hrelative : q.isAbsolute = false := by simpa using habs
  by_cases hempty : p.text = ""
  · obtain rfl : p = ⟨""⟩ := congrArg Path.mk hempty
    have hbehind : Path.join ⟨""⟩ q = q := by
      rw [Path.join, if_neg habs, if_pos (by simp)]
      exact congrArg Path.mk String.empty_append
    rw [hbehind]
    rfl
  · obtain ⟨-, hstart, front, hjoin, hfront⟩ := Path.parts_join (by simpa using hempty) hrelative
    -- an empty part behind a slash leads nowhere else
    have hparts : p.parts.filterMap (Path.component? false) =
        front.filterMap (Path.component? false) := by
      rcases hfront with hfront | hfront
      · rw [hfront]
      · rw [hfront, List.filterMap_append]
        exact List.append_nil _
    rw [Path.lead_of_relative hrelative, resolve_eq_foldl, resolve_eq_foldl, start, start, hstart,
      hjoin, hparts, List.filterMap_append, List.foldl_append]

end Disk

end CodeStencil
