/-
  CodeStencil/Proofs/Files/Resolution.lean
  ========================================
  **Where paths lead** — the location that a path spells, with its dots resolved by the text alone.
  Since there are no links, following a path over the folders of a disk leads to that location or
  nowhere (`locate_some`). Paths with the same components lead to the same location; for absolute
  paths without `..` the converse holds as well (`resolve_eq_iff`).
-/
import CodeStencil.Files.Disk

namespace CodeStencil

namespace Path

/-- Where a component leads from a location. -/
def Component.step (loc : Location) : Component → Location
  | .root => []
  | .here => loc
  | .above => loc.dropLast
  | .name s => loc ++ [s]

/-- The locations that the names among components lead to, one after the other. -/
def Component.trail (loc : Location) : List Component → List Location
  | [] => []
  | .name s :: rest => (loc ++ [s]) :: trail (loc ++ [s]) rest
  | c :: rest => trail (c.step loc) rest

/-- No component leads to the folder above. -/
def Level (p : Path) : Prop := Component.above ∉ p.components

instance (p : Path) : Decidable p.Level := inferInstanceAs (Decidable (_ ∉ _))

/-! ### Components -/

theorem component?_eq_none_iff {part : List Char} :
    component? false part = none ↔ part = [] ∨ part = ['.'] := by
  unfold component?
  by_cases hnil : part = []
  · simp [hnil]
  · by_cases hdot : part = ['.']
    · simp [hdot]
    · by_cases habove : part = ['.', '.'] <;> simp [hnil, hdot, habove]

/-- Behind the first part, a part leads nowhere else, or to the folder above, or it is a name. -/
theorem component?_cases (part : List Char) :
    component? false part = none ∨ component? false part = some .above ∨
      component? false part = some (.name (String.ofList part)) := by
  unfold component?
  by_cases hnil : part = []
  · simp [hnil]
  · by_cases hdot : part = ['.']
    · simp [hdot]
    · by_cases habove : part = ['.', '.'] <;> simp [hnil, hdot, habove]

theorem eq_of_component?_above {part : List Char} (h : component? false part = some .above) :
    part = ['.', '.'] := by
  unfold component? at h
  by_cases hnil : part = []
  · simp [hnil] at h
  · by_cases hdot : part = ['.']
    · simp [hdot] at h
    · by_cases habove : part = ['.', '.']
      · exact habove
      · simp [hnil, hdot, habove] at h

theorem not_special_of_component?_name {part : List Char} {s : String}
    (h : component? false part = some (.name s)) :
    ¬(part = [] ∨ part = ['.']) ∧ part ≠ ['.', '.'] ∧ s = String.ofList part := by
  refine ⟨fun hnone => ?_, ?_, ?_⟩
  · rw [component?_eq_none_iff.2 hnone] at h
    cases h
  · rintro rfl
    simp [component?] at h
  · rcases component?_cases part with hc | hc | hc <;> rw [hc] at h <;> cases h
    rfl

/-- A dot at the start of a path leads nowhere else, so it may as well be left out. -/
theorem foldl_componentsOf (loc : Location) (parts : List (List Char)) :
    (componentsOf parts).foldl Component.step loc =
      (parts.filterMap (component? false)).foldl Component.step loc := by
  cases parts with
  | nil => rfl
  | cons first rest =>
    by_cases hdot : first = ['.']
    · subst hdot
      simp [componentsOf, component?, Component.step]
    · have hsame : component? true first = component? false first := by
        simp [component?, hdot]
      cases hc : component? false first with
      | none => simp [componentsOf, hsame, hc]
      | some c => simp [componentsOf, hsame, hc]

theorem trail_componentsOf (loc : Location) (parts : List (List Char)) :
    Component.trail loc (componentsOf parts) =
      Component.trail loc (parts.filterMap (component? false)) := by
  cases parts with
  | nil => rfl
  | cons first rest =>
    by_cases hdot : first = ['.']
    · subst hdot
      simp [componentsOf, component?, Component.trail, Component.step]
    · have hsame : component? true first = component? false first := by
        simp [component?, hdot]
      cases hc : component? false first with
      | none => simp [componentsOf, hsame, hc]
      | some c => simp [componentsOf, hsame, hc]

theorem name_mem_componentsOf_iff {s : String} {parts : List (List Char)} :
    .name s ∈ componentsOf parts ↔ .name s ∈ parts.filterMap (component? false) := by
  cases parts with
  | nil => simp [componentsOf]
  | cons first rest =>
    by_cases hdot : first = ['.']
    · subst hdot
      simp [componentsOf, component?]
    · have hsame : component? true first = component? false first := by
        simp [component?, hdot]
      cases hc : component? false first <;> simp [componentsOf, hsame, hc]

/-- Every location on the way of a prefix lies on the way of the whole. -/
theorem trail_subset_of_prefix {cs ds : List Component} (h : cs <+: ds) (loc : Location) :
    Component.trail loc cs ⊆ Component.trail loc ds := by
  induction cs generalizing ds loc with
  | nil => simp [Component.trail]
  | cons c rest ih =>
    obtain ⟨more, rfl⟩ := h
    have hrest := fun loc => ih (List.prefix_append rest more) loc
    cases c with
    | name s =>
      simp only [List.cons_append, Component.trail]
      exact List.cons_subset_cons _ (hrest _)
    | root => simpa [Component.trail] using hrest _
    | here => simpa [Component.trail] using hrest _
    | above => simpa [Component.trail] using hrest _

/-- Names lead ever deeper: what lies on the way is a beginning of the end. -/
theorem prefix_of_mem_trail_names {names : List String} {loc v : Location}
    (h : v ∈ Component.trail loc (names.map Component.name)) : v <+: loc ++ names := by
  induction names generalizing loc with
  | nil => simp [Component.trail] at h
  | cons s rest ih =>
    simp only [List.map_cons, Component.trail, List.mem_cons] at h
    rcases h with rfl | h
    · exact ⟨rest, by simp⟩
    · have hv := ih h
      rwa [List.append_assoc, List.singleton_append] at hv

theorem foldl_step_names (loc : Location) (names : List String) :
    (names.map Component.name).foldl Component.step loc = loc ++ names := by
  induction names generalizing loc with
  | nil => simp
  | cons s rest ih => simp [Component.step, ih]

end Path

namespace Disk

/-- The location that a path spells, whether or not anything is there. -/
def resolve (d : Disk) (p : Path) : Location := p.components.foldl Path.Component.step d.current

/-- The locations that the names of a path lead to. A file that is written at the path needs a
    folder at each of them but the last. -/
def trail (d : Disk) (p : Path) : List Location := Path.Component.trail d.current p.components

theorem resolve_eq_foldl (d : Disk) (p : Path) :
    d.resolve p =
      (p.parts.filterMap (Path.component? false)).foldl Path.Component.step (d.start p) := by
  rw [← Path.foldl_componentsOf]
  unfold resolve Path.components start
  split
  · simp [Path.Component.step]
  · simp

theorem trail_eq (d : Disk) (p : Path) :
    d.trail p = Path.Component.trail (d.start p) (p.parts.filterMap (Path.component? false)) := by
  rw [← Path.trail_componentsOf]
  unfold trail Path.components start
  split
  · simp [Path.Component.trail, Path.Component.step]
  · simp

/-! ### Following part by part -/

section Parts

variable {d : Disk} {loc : Location} {part : List Char} {rest : List (List Char)}

theorem follow_cons_of_none (h : Path.component? false part = none) :
    d.follow loc (part :: rest) = if d.isFolderAt loc then d.follow loc rest else none := by
  have hdot := Path.component?_eq_none_iff.1 h
  rw [follow]
  by_cases hf : d.isFolderAt loc = true
  · simp [hf, hdot]
  · simp [hf]

theorem follow_cons_of_above (h : Path.component? false part = some .above) :
    d.follow loc (part :: rest) =
      if d.isFolderAt loc then d.follow loc.dropLast rest else none := by
  rw [Path.eq_of_component?_above h, follow]
  by_cases hf : d.isFolderAt loc = true
  · simp [hf]
  · simp [hf]

theorem follow_cons_of_name {s : String} (h : Path.component? false part = some (.name s)) :
    d.follow loc (part :: rest) =
      if d.isFolderAt loc && isName s then d.follow (loc ++ [s]) rest else none := by
  obtain ⟨hdot, habove, rfl⟩ := Path.not_special_of_component?_name h
  rw [follow]
  by_cases hf : d.isFolderAt loc = true
  · simp only [hf, Bool.not_true, Bool.false_eq_true, if_false, Bool.true_and]
    rw [if_neg (by simpa using hdot), if_neg habove]
  · simp [hf]

theorem makeFolders_cons_of_none (h : Path.component? false part = none) :
    d.makeFolders loc (part :: rest) = d.makeFolders loc rest := by
  rw [makeFolders, if_pos (by simpa using Path.component?_eq_none_iff.1 h)]

theorem makeFolders_cons_of_above (h : Path.component? false part = some .above) :
    d.makeFolders loc (part :: rest) = d.makeFolders loc.dropLast rest := by
  rw [Path.eq_of_component?_above h, makeFolders]
  simp

theorem makeFolders_cons_of_name {s : String} (h : Path.component? false part = some (.name s)) :
    d.makeFolders loc (part :: rest) =
      if isName s && !d.isFileAt (loc ++ [s]) then
        (d.addFolder (loc ++ [s])).makeFolders (loc ++ [s]) rest
      else (d, false) := by
  obtain ⟨hdot, habove, rfl⟩ := Path.not_special_of_component?_name h
  rw [makeFolders, if_neg (by simpa using hdot), if_neg habove]
  dsimp only
  cases isName (String.ofList part) <;> cases d.isFileAt (loc ++ [String.ofList part]) <;> rfl

end Parts

/-! ### Following and resolving -/

theorem follow_eq_foldl {d : Disk} {loc dest : Location} {parts : List (List Char)}
    (h : d.follow loc parts = some dest) :
    dest = (parts.filterMap (Path.component? false)).foldl Path.Component.step loc := by
  induction parts generalizing loc with
  | nil => simpa [follow] using h.symm
  | cons part rest ih =>
    rcases Path.component?_cases part with hc | hc | hc
    · rw [follow_cons_of_none hc, Option.ite_none_right_eq_some] at h
      rw [List.filterMap_cons_none hc]
      exact ih h.2
    · rw [follow_cons_of_above hc, Option.ite_none_right_eq_some] at h
      rw [List.filterMap_cons_some hc]
      exact ih h.2
    · rw [follow_cons_of_name hc, Option.ite_none_right_eq_some] at h
      rw [List.filterMap_cons_some hc]
      exact ih h.2

/-- A path that leads somewhere leads where it spells. -/
theorem locate_some {d : Disk} {p : Path} {loc : Location} (h : d.locate p = some loc) :
    d.resolve p = loc := by
  unfold locate at h
  split at h
  · cases h
  · rw [resolve_eq_foldl]
    exact (follow_eq_foldl h).symm

/-- More folders keep open every way that is open. -/
theorem follow_mono {d d' : Disk} (hf : ∀ l, d.isFolderAt l = true → d'.isFolderAt l = true)
    {loc dest : Location} {parts : List (List Char)} (h : d.follow loc parts = some dest) :
    d'.follow loc parts = some dest := by
  induction parts generalizing loc with
  | nil => exact h
  | cons part rest ih =>
    rcases Path.component?_cases part with hc | hc | hc
    · rw [follow_cons_of_none hc, Option.ite_none_right_eq_some] at h ⊢
      exact ⟨hf _ h.1, ih h.2⟩
    · rw [follow_cons_of_above hc, Option.ite_none_right_eq_some] at h ⊢
      exact ⟨hf _ h.1, ih h.2⟩
    · rw [follow_cons_of_name hc, Option.ite_none_right_eq_some, Bool.and_eq_true] at h ⊢
      exact ⟨⟨hf _ h.1.1, h.1.2⟩, ih h.2⟩

theorem locate_mono {d d' : Disk} (hcurrent : d'.current = d.current)
    (hf : ∀ l, d.isFolderAt l = true → d'.isFolderAt l = true) {p : Path} {loc : Location}
    (h : d.locate p = some loc) : d'.locate p = some loc := by
  unfold locate at h ⊢
  split at h
  · cases h
  · next htext =>
    rw [if_neg htext]
    have hstart : d'.start p = d.start p := by simp [start, hcurrent]
    rw [hstart]
    exact follow_mono hf h

theorem resolve_congr {d d' : Disk} (h : d'.current = d.current) (p : Path) :
    d'.resolve p = d.resolve p := by
  simp [resolve, h]

theorem trail_congr {d d' : Disk} (h : d'.current = d.current) (p : Path) :
    d'.trail p = d.trail p := by
  simp [trail, h]

/-! ### Absolute paths -/

/-- An absolute path leads to the same location wherever the program runs. -/
theorem resolve_of_isAbsolute {p : Path} (h : p.isAbsolute = true) (d d' : Disk) :
    d'.resolve p = d.resolve p := by
  simp [resolve_eq_foldl, start, h]

theorem isAbsolute_currentPath (d : Disk) : d.currentPath.isAbsolute = true := by
  simp [currentPath, Path.isAbsolute]

end Disk

namespace Path

theorem exists_text_of_isAbsolute {p : Path} (h : p.isAbsolute = true) :
    ∃ cs, p.text.toList = '/' :: cs := by
  unfold isAbsolute at h
  cases htext : p.text.toList with
  | nil => simp [htext] at h
  | cons c cs => exact ⟨cs, by simpa [htext] using h⟩

theorem text_isEmpty_of_isAbsolute {p : Path} (h : p.isAbsolute = true) :
    p.text.isEmpty = false := by
  obtain ⟨cs, hcs⟩ := exists_text_of_isAbsolute h
  rw [Bool.eq_false_iff]
  intro hempty
  rw [String.isEmpty_iff.1 hempty] at hcs
  cases hcs

theorem isAbsolute_join {base : Path} (h : base.isAbsolute = true) (p : Path) :
    (base.join p).isAbsolute = true := by
  unfold join
  split
  · assumption
  · obtain ⟨cs, hcs⟩ := exists_text_of_isAbsolute h
    split <;> simp [isAbsolute, String.toList_append, hcs]

/-- What is below the root of an absolute path without `..` is made of names, and these are the
    location that it spells. -/
theorem components_of_level {p : Path} (habs : p.isAbsolute = true) (hlevel : p.Level)
    (d : Disk) : p.components = .root :: (d.resolve p).map .name := by
  obtain ⟨cs, hcs⟩ := exists_text_of_isAbsolute habs
  have hparts : p.parts = [] :: Text.splitAt '/' cs := by
    simp [parts, hcs, Text.splitAt]
  have hcomp : p.components = .root :: (p.parts.filterMap (component? false)) := by
    simp [components, habs, hparts, componentsOf, component?]
  have hnames : ∀ c ∈ p.parts.filterMap (component? false), ∃ s, c = Component.name s := by
    intro c hc
    have habove : c ≠ .above := by
      rintro rfl
      exact hlevel (by rw [hcomp]; exact List.mem_cons_of_mem _ hc)
    obtain ⟨part, -, hpart⟩ := List.mem_filterMap.1 hc
    rcases component?_cases part with hcase | hcase | hcase <;> rw [hcase] at hpart
    · cases hpart
    · exact absurd (Option.some.inj hpart).symm habove
    · exact ⟨_, (Option.some.inj hpart).symm⟩
  obtain ⟨names, hmap⟩ : ∃ names : List String,
      p.parts.filterMap (component? false) = names.map .name := by
    generalize p.parts.filterMap (component? false) = l at hnames
    induction l with
    | nil => exact ⟨[], rfl⟩
    | cons c rest ih =>
      obtain ⟨s, rfl⟩ := hnames c List.mem_cons_self
      obtain ⟨names, rfl⟩ := ih fun x hx => hnames x (List.mem_cons_of_mem _ hx)
      exact ⟨s :: names, rfl⟩
  have hresolve : d.resolve p = names := by
    rw [Disk.resolve_eq_foldl, hmap, foldl_step_names]
    simp [Disk.start, habs]
  rw [hcomp, hmap, hresolve]

end Path

namespace Disk

/-- Where a path leads depends on its components only. -/
theorem resolve_eq_of_components {p q : Path} (h : p.components = q.components) (d : Disk) :
    d.resolve p = d.resolve q := by
  simp [resolve, h]

/-- Absolute paths without `..` lead to the same location only if they have the same components. -/
theorem resolve_eq_iff {p q : Path} (hp : p.isAbsolute = true) (hp' : p.Level)
    (hq : q.isAbsolute = true) (hq' : q.Level) (d : Disk) :
    d.resolve p = d.resolve q ↔ p.components = q.components := by
  constructor
  · intro h
    rw [Path.components_of_level hp hp' d, Path.components_of_level hq hq' d, h]
  · exact fun h => resolve_eq_of_components h d

/-- All that lies on the way of an absolute path without `..` lies above its end. -/
theorem prefix_of_mem_trail {d : Disk} {p : Path} (habs : p.isAbsolute = true) (hlevel : p.Level)
    {v : Location} (h : v ∈ d.trail p) : v <+: d.resolve p := by
  unfold trail at h
  rw [Path.components_of_level habs hlevel d] at h
  simpa [Path.Component.step] using Path.prefix_of_mem_trail_names h

end Disk

end CodeStencil
