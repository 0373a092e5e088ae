/-
  CodeStencil/Proofs/Literals/Walking.lean
  ========================================
  **Walks through sources** — a walk takes the entries of each folder in the order of their names and
  does not enter what is excluded. It comes to exactly those files that have nothing excluded on the
  way to them (`mem_walk`), in the order of the names on their ways (`pairwise_walk`). Literals are
  gathered from the files of such a walk (`gather_follows_walk`).
-/
import CodeStencil.Proofs.Lists.Distinct
import CodeStencil.Proofs.Literals.Interning
import CodeStencil.Proofs.Text.ByteOrder
import Mathlib.Data.List.Sort

namespace CodeStencil

/-- What is in a folder, in any order: files with their bytes, and folders. -/
inductive Entries where
  | done
  | file (name : String) (bytes : ByteArray) (rest : Entries)
  | folder (name : String) (inner rest : Entries)

namespace Entries

def names : Entries → List String
  | .done => []
  | .file name _ rest => name :: rest.names
  | .folder name _ rest => name :: rest.names

/-- All files, with the names that lead to them. -/
def files : Entries → List (Location × ByteArray)
  | .done => []
  | .file name bytes rest => ([name], bytes) :: rest.files
  | .folder name inner rest => inner.files.map (fun f => (name :: f.1, f.2)) ++ rest.files

/-- No folder has two entries of one name. -/
def Distinct : Entries → Prop
  | .done => True
  | .file name _ rest => name ∉ rest.names ∧ rest.Distinct
  | .folder name inner rest => name ∉ rest.names ∧ inner.Distinct ∧ rest.Distinct

/-! ### The walk -/

/-- What was found in the entries of a folder, entry by entry in the byte order of their names. -/
def inOrder {α : Type} (found : List (String × List α)) : List α :=
  (found.mergeSort fun a b => Text.bytesOf a.1 ≤ Text.bytesOf b.1).flatMap Prod.snd

/-- The texts that are found in each entry of a folder. What is excluded is not entered, and files
    that are no text are left out. -/
def visits (excluded : Path → Bool) (here : Path) : Entries → List (String × List (Location × String))
  | .done => []
  | .file name bytes rest =>
    let found := ((String.fromUTF8? bytes).map fun text => ([name], text)).toList
    (name, if excluded (here / name) then [] else found) :: rest.visits excluded here
  | .folder name inner rest =>
    let found := (inOrder (inner.visits excluded (here / name))).map fun f => (name :: f.1, f.2)
    (name, if excluded (here / name) then [] else found) :: rest.visits excluded here

/-- The texts of a walk that starts in a folder, with the names that lead to them. -/
def walk (excluded : Path → Bool) (root : Path) (t : Entries) : List (Location × String) :=
  if excluded root then [] else inOrder (t.visits excluded root)

/-- The path that leads from a folder along names. -/
def along (root : Path) (names : Location) : Path := names.foldl (· / ·) root

@[simp] theorem along_cons (root : Path) (name : String) (rest : Location) :
    along root (name :: rest) = along (root / name) rest := rfl

/-- Nothing on the way from a folder along names is excluded, apart from the folder itself. -/
def IsOpen (excluded : Path → Bool) (root : Path) : Location → Prop
  | [] => True
  | name :: rest => excluded (root / name) = false ∧ IsOpen excluded (root / name) rest

variable {excluded : Path → Bool} {root : Path} {t : Entries} {names : Location} {text : String}

/-! ### What a walk comes to -/

theorem isOpen_iff : excluded root = false ∧ IsOpen excluded root names ↔
    ∀ front, front <+: names → excluded (along root front) = false := by
  induction names generalizing root with
  | nil => simp [IsOpen, along]
  | cons name rest ih =>
    rw [IsOpen, ih]
    constructor
    · rintro ⟨hroot, hrest⟩ front hfront
      cases front with
      | nil => exact hroot
      | cons first more =>
        obtain ⟨rfl, hmore⟩ := List.cons_prefix_cons.1 hfront
        exact hrest more hmore
    · intro h
      refine ⟨h [] List.nil_prefix, ?_⟩
      intro front hfront
      exact h (name :: front) (List.cons_prefix_cons.2 ⟨rfl, hfront⟩)

theorem mem_inOrder {α : Type} {found : List (String × List α)} {a : α} :
    a ∈ inOrder found ↔ ∃ part ∈ found, a ∈ part.2 := by
  simp only [inOrder, List.mem_flatMap, List.mem_mergeSort]

/-- The texts of entries are those of their files that have nothing excluded on the way. -/
theorem exists_mem_visits : (∃ part ∈ t.visits excluded root, (names, text) ∈ part.2) ↔
    ∃ bytes, (names, bytes) ∈ t.files ∧ String.fromUTF8? bytes = some text ∧
      IsOpen excluded root names := by
  induction t generalizing root names with
  | done => simp [visits, files]
  | file name bytes rest ih =>
    rw [visits, List.exists_mem_cons_iff, ih]
    simp only [files, List.mem_cons, or_and_right, exists_or]
    refine or_congr ?_ Iff.rfl
    simp only [List.mem_ite_nil_left, Option.mem_toList, Option.map_eq_some_iff, Prod.mk.injEq,
      Bool.not_eq_true]
    constructor
    · rintro ⟨hopen, _, htext, rfl, rfl⟩
      exact ⟨bytes, ⟨rfl, rfl⟩, htext, hopen, trivial⟩
    · rintro ⟨_, ⟨rfl, rfl⟩, htext, hopen, -⟩
      exact ⟨hopen, text, htext, rfl, rfl⟩
  | folder name inner rest ihInner ih =>
    rw [visits, List.exists_mem_cons_iff, ih]
    simp only [files, List.mem_append, or_and_right, exists_or]
    refine or_congr ?_ Iff.rfl
    simp only [List.mem_ite_nil_left, List.mem_map, Prod.mk.injEq, Bool.not_eq_true]
    constructor
    · rintro ⟨hopen, ⟨more, _⟩, hmore, rfl, rfl⟩
      obtain ⟨bytes, hbytes, htext, hrest⟩ := ihInner.1 (mem_inOrder.1 hmore)
      exact ⟨bytes, ⟨(more, bytes), hbytes, rfl, rfl⟩, htext, hopen, hrest⟩
    · rintro ⟨_, ⟨⟨more, bytes⟩, hbytes, rfl, rfl⟩, htext, hopen, hrest⟩
      exact ⟨hopen, (more, text), mem_inOrder.2 (ihInner.2 ⟨bytes, hbytes, htext, hrest⟩), rfl, rfl⟩

theorem mem_walk : (names, text) ∈ t.walk excluded root ↔
    ∃ bytes, (names, bytes) ∈ t.files ∧ String.fromUTF8? bytes = some text ∧
      ∀ front, front <+: names → excluded (along root front) = false := by
  simp only [walk, List.mem_ite_nil_left, mem_inOrder, exists_mem_visits, ← isOpen_iff,
    Bool.not_eq_true]
  constructor
  · rintro ⟨hroot, bytes, hbytes, htext, hopen⟩
    exact ⟨bytes, hbytes, htext, hroot, hopen⟩
  · rintro ⟨bytes, hbytes, htext, hroot, hopen⟩
    exact ⟨hroot, bytes, hbytes, htext, hopen⟩

/-! ### In which order -/

theorem map_fst_visits : (t.visits excluded root).map Prod.fst = t.names := by
  induction t with
  | done => rfl
  | file name bytes rest ih => rw [visits, List.map_cons, ih, names]
  | folder name inner rest ihInner ih => rw [visits, List.map_cons, ih, names]

theorem Distinct.nodup (h : t.Distinct) : t.names.Nodup := by
  induction t with
  | done => exact List.nodup_nil
  | file name bytes rest ih => exact List.nodup_cons.2 ⟨h.1, ih h.2⟩
  | folder name inner rest ihInner ih => exact List.nodup_cons.2 ⟨h.1, ih h.2.2⟩

/-- What is found in an entry has its name first. -/
theorem exists_cons_of_mem_visits {part : String × List (Location × String)}
    (hpart : part ∈ t.visits excluded root) {f : Location × String} (hf : f ∈ part.2) :
    ∃ rest, f.1 = part.1 :: rest := by
  induction t with
  | done => cases hpart
  | file name bytes rest ih =>
    rcases List.mem_cons.1 hpart with rfl | hpart
    · simp only [List.mem_ite_nil_left, Option.mem_toList, Option.map_eq_some_iff] at hf
      obtain ⟨-, text, -, rfl⟩ := hf
      exact ⟨[], rfl⟩
    · exact ih hpart
  | folder name inner rest ihInner ih =>
    rcases List.mem_cons.1 hpart with rfl | hpart
    · simp only [List.mem_ite_nil_left, List.mem_map] at hf
      obtain ⟨-, g, -, rfl⟩ := hf
      exact ⟨g.1, rfl⟩
    · exact ih hpart

theorem pairwise_mergeSort_names {α : Type} (found : List (String × α)) :
    (found.mergeSort fun a b => Text.bytesOf a.1 ≤ Text.bytesOf b.1).Pairwise fun a b =>
      a.1 ≤ b.1 := by
  refine (List.pairwise_mergeSort ?_ ?_ found).imp fun {a b} hle => ?_
  · intro a b c hab hbc
    rw [decide_eq_true_eq, Text.bytesOf_le_iff] at hab hbc ⊢
    exact le_trans hab hbc
  · intro a b
    simp only [Bool.or_eq_true, decide_eq_true_eq, Text.bytesOf_le_iff]
    exact le_total a.1 b.1
  · exact Text.bytesOf_le_iff.1 (of_decide_eq_true hle)

/-- Entries are in order if each of them is, since they have different names. -/
theorem pairwise_inOrder_visits (h : t.Distinct)
    (hparts : ∀ part ∈ t.visits excluded root, part.2.Pairwise fun f g => f.1 < g.1) :
    (inOrder (t.visits excluded root)).Pairwise fun f g => f.1 < g.1 := by
  have hperm := List.mergeSort_perm (t.visits excluded root) fun a b =>
    Text.bytesOf a.1 ≤ Text.bytesOf b.1
  have hnames : ((t.visits excluded root).map Prod.fst).Nodup := by
    rw [map_fst_visits]
    exact h.nodup
  have hnodup := List.pairwise_map.1 ((hperm.map Prod.fst).nodup_iff.2 hnames)
  refine List.pairwise_flatMap.2 ⟨fun part hpart => hparts part (hperm.mem_iff.1 hpart), ?_⟩
  refine ((pairwise_mergeSort_names (t.visits excluded root)).and hnodup).imp_of_mem ?_
  rintro a b ha hb ⟨hle, hne⟩ f hf g hg
  obtain ⟨more, hmore⟩ := exists_cons_of_mem_visits (hperm.mem_iff.1 ha) hf
  obtain ⟨more', hmore'⟩ := exists_cons_of_mem_visits (hperm.mem_iff.1 hb) hg
  rw [hmore, hmore', List.cons_lt_cons_iff]
  exact Or.inl (lt_of_le_of_ne hle hne)

theorem pairwise_of_mem_visits (h : t.Distinct) {part : String × List (Location × String)}
    (hpart : part ∈ t.visits excluded root) : part.2.Pairwise fun f g => f.1 < g.1 := by
  induction t generalizing root part with
  | done => cases hpart
  | file name bytes rest ih =>
    rcases List.mem_cons.1 hpart with rfl | hpart
    · split
      · exact .nil
      · cases String.fromUTF8? bytes with
        | none => exact .nil
        | some text => exact List.pairwise_singleton _ _
    · exact ih h.2 hpart
  | folder name inner rest ihInner ih =>
    rcases List.mem_cons.1 hpart with rfl | hpart
    · split
      · exact .nil
      · rw [List.pairwise_map]
        refine (pairwise_inOrder_visits h.2.1 fun part hpart => ihInner h.2.1 hpart).imp ?_
        intro f g hlt
        exact List.cons_lt_cons_iff.2 (Or.inr ⟨rfl, hlt⟩)
    · exact ih h.2.2 hpart

/-- A walk takes the whole of a folder before the next name. -/
theorem pairwise_walk (h : t.Distinct) :
    (t.walk excluded root).Pairwise fun f g => f.1 < g.1 := by
  unfold walk
  split
  · exact .nil
  · exact pairwise_inOrder_visits h fun part hpart => pairwise_of_mem_visits h hpart

theorem exists_cons_of_mem_files {f : Location × ByteArray} (hf : f ∈ t.files) :
    ∃ name ∈ t.names, ∃ rest, f.1 = name :: rest := by
  induction t with
  | done => cases hf
  | file name bytes rest ih =>
    rcases List.mem_cons.1 hf with rfl | hf
    · exact ⟨name, List.mem_cons_self, [], rfl⟩
    · obtain ⟨first, hfirst, hmore⟩ := ih hf
      exact ⟨first, List.mem_cons_of_mem name hfirst, hmore⟩
  | folder name inner rest ihInner ih =>
    rcases List.mem_append.1 hf with hf | hf
    · obtain ⟨g, -, rfl⟩ := List.mem_map.1 hf
      exact ⟨name, List.mem_cons_self, g.1, rfl⟩
    · obtain ⟨first, hfirst, hmore⟩ := ih hf
      exact ⟨first, List.mem_cons_of_mem name hfirst, hmore⟩

/-- Different files are reached by different names. -/
theorem Distinct.nodup_files (h : t.Distinct) : (t.files.map Prod.fst).Nodup := by
  induction t with
  | done => exact List.nodup_nil
  | file name bytes rest ih =>
    refine List.nodup_cons.2 ⟨?_, ih h.2⟩
    intro hmem
    obtain ⟨f, hf, hfst⟩ := List.mem_map.1 hmem
    obtain ⟨first, hfirst, more, hmore⟩ := exists_cons_of_mem_files hf
    rw [hmore] at hfst
    exact h.1 ((List.cons.inj hfst).1 ▸ hfirst)
  | folder name inner rest ihInner ih =>
    have hmap : (inner.files.map fun f => (name :: f.1, f.2)).map Prod.fst =
        (inner.files.map Prod.fst).map (name :: ·) := by
      rw [List.map_map, List.map_map]
      rfl
    rw [files, List.map_append, hmap, List.nodup_append']
    refine ⟨(ihInner h.2.1).map (List.cons_injective), ih h.2.2, ?_⟩
    intro names hinner hrest
    obtain ⟨more, -, rfl⟩ := List.mem_map.1 hinner
    obtain ⟨f, hf, hfst⟩ := List.mem_map.1 hrest
    obtain ⟨first, hfirst, more', hmore⟩ := exists_cons_of_mem_files hf
    rw [hmore] at hfst
    exact h.1 ((List.cons.inj hfst).1 ▸ hfirst)

end Entries

/-- The files of a disk at and below a location are those of entries with different names. -/
structure Disk.Holds (disk : Disk) (loc : Location) (t : Entries) : Prop where
  distinct : t.Distinct
  files : (disk.files.filter fun f => loc.isPrefixOf f.1).Perm
    (t.files.map fun f => (loc ++ f.1, f.2))

namespace Literals

variable {disk : Disk} {loc : Location} {t : Entries} {root : Path} {e e' : Exclusion}
  {capture : String → List String}

/-! ### Walks on a disk -/

theorem before_iff {a b : Location} : before a b = true ↔ ¬b < a := by
  induction a generalizing b with
  | nil => simp [before]
  | cons x xs ih =>
    cases b with
    | nil => simp [before]
    | cons y ys =>
      rw [before, List.cons_lt_cons_iff, not_or]
      split
      · next heq =>
        rw [ih]
        simp [heq]
      · next hne =>
        rw [decide_eq_true_eq, not_lt]
        simp [Ne.symm hne]

theorem below_perm (h : disk.Holds loc t) : (below disk loc).Perm t.files := by
  have hstrip : (t.files.map fun f => (loc ++ f.1, f.2)).map (fun f => (f.1.drop loc.length, f.2)) =
      t.files := by
    rw [List.map_map]
    refine (List.map_congr_left fun f _ => ?_).trans (List.map_id _)
    simp
  have hbelow : (disk.files.filterMap fun f =>
      if loc.isPrefixOf f.1 then some (f.1.drop loc.length, f.2) else none) =
        (disk.files.filter fun f => loc.isPrefixOf f.1).map fun f =>
          (f.1.drop loc.length, f.2) := by
    rw [← List.filterMap_eq_map, List.filterMap_filter]
    rfl
  refine (List.mergeSort_perm _ _).trans ?_
  rw [hbelow, ← hstrip]
  exact h.files.map _

/-- The files stand in the order of the names that lead to them. -/
theorem pairwise_below (h : disk.Holds loc t) :
    (below disk loc).Pairwise fun f g => f.1 < g.1 := by
  have hsorted : (below disk loc).Pairwise fun f g => before f.1 g.1 = true := by
    refine List.pairwise_mergeSort ?_ ?_ _
    · intro a b c hab hbc
      rw [before_iff, not_lt] at hab hbc ⊢
      exact le_trans hab hbc
    · intro a b
      rw [Bool.or_eq_true, before_iff, before_iff, not_lt, not_lt]
      exact le_total a.1 b.1
  have hnodup := List.pairwise_map.1
    (((below_perm h).map Prod.fst).nodup_iff.2 h.distinct.nodup_files)
  refine (hsorted.and hnodup).imp ?_
  rintro a b ⟨hle, hne⟩
  rw [before_iff, not_lt] at hle
  exact lt_of_le_of_ne hle hne

theorem isScanned_iff {names : Location} : isScanned e root names = true ↔
    ∀ front, front <+: names → e.excludes (Entries.along root front) = false := by
  rw [← Entries.isOpen_iff]
  induction names generalizing root with
  | nil => simp [isScanned, pathsAlong, Entries.IsOpen]
  | cons name rest ih =>
    have hstep : isScanned e root (name :: rest) =
        (!e.excludes root && isScanned e (root / name) rest) := rfl
    rw [hstep, Bool.and_eq_true, ih, Bool.not_eq_true', Entries.IsOpen]

/-- The texts that are read are those of the walk. -/
theorem texts_eq_walk (h : disk.Holds loc t) (root : Path) (e : Exclusion) :
    ((below disk loc).filter fun f => isScanned e root f.1).filterMap
      (fun f => (String.fromUTF8? f.2).map fun text => (f.1, text)) = t.walk e.excludes root := by
  have hbelow : (((below disk loc).filter fun f => isScanned e root f.1).filterMap
      (fun f => (String.fromUTF8? f.2).map fun text => (f.1, text))).Pairwise
        fun f g => f.1 < g.1 := by
    refine ((pairwise_below h).filter _).filterMap _ ?_
    intro f g hlt f' hf' g' hg'
    obtain ⟨text, -, rfl⟩ := Option.map_eq_some_iff.1 hf'
    obtain ⟨text', -, rfl⟩ := Option.map_eq_some_iff.1 hg'
    exact hlt
  refine hbelow.eq_of_mem_iff (Entries.pairwise_walk h.distinct) ?_
  rintro ⟨names, text⟩
  rw [Entries.mem_walk, ← isScanned_iff]
  simp only [List.mem_filterMap, List.mem_filter, Option.map_eq_some_iff, Prod.mk.injEq]
  constructor
  · rintro ⟨⟨_, bytes⟩, ⟨hf, hscanned⟩, _, htext, rfl, rfl⟩
    exact ⟨bytes, (below_perm h).mem_iff.1 hf, htext, hscanned⟩
  · rintro ⟨bytes, hf, htext, hscanned⟩
    exact ⟨(names, bytes), ⟨(below_perm h).mem_iff.2 hf, hscanned⟩, text, htext, rfl, rfl⟩

theorem scan_eq_walk (h : disk.Holds loc t) (root : Path) (capture : String → List String)
    (e : Exclusion) : scan root capture e (below disk loc) =
      ((t.walk e.excludes root).flatMap fun f => capture f.2).eraseDups := by
  have hread : ∀ files : List (Location × ByteArray),
      files.flatMap (fun f => capturesIn capture f.2) =
        (files.filterMap fun f => (String.fromUTF8? f.2).map fun text => (f.1, text)).flatMap
          fun f => capture f.2 := by
    intro files
    induction files with
    | nil => rfl
    | cons f rest ih =>
      rw [List.flatMap_cons, List.filterMap_cons, ih, capturesIn]
      cases String.fromUTF8? f.2 with
      | none => rfl
      | some text => rfl
  rw [scan, hread, texts_eq_walk h]

/-- More exclusions leave fewer files. -/
theorem walk_subset (h : ∀ p, e.excludes p = true → e'.excludes p = true) :
    t.walk e'.excludes root ⊆ t.walk e.excludes root := by
  rintro ⟨names, text⟩ hmem
  obtain ⟨bytes, hbytes, htext, hopen⟩ := Entries.mem_walk.1 hmem
  refine Entries.mem_walk.2 ⟨bytes, hbytes, htext, ?_⟩
  intro front hfront
  rw [← Bool.not_eq_true]
  intro hexcluded
  have hwider := h _ hexcluded
  rw [hopen front hfront] at hwider
  cases hwider

/-- The literals are what is captured in the texts of a walk, each once, where it came first. The
    walk takes files in the order of the names that lead to them, and comes to the well-formed texts
    for which neither the file nor a folder on the way is excluded. To exclude more adds no literal. -/
theorem gather_follows_walk (hloc : disk.locate root = some loc)
    (hfolder : disk.isFolderAt loc = true) (h : disk.Holds loc t) (capture : String → List String)
    (e : Exclusion) :
    ∃ literals, gather disk root capture e = .ok literals ∧
      literals = ((t.walk e.excludes root).flatMap fun f => capture f.2).eraseDups ∧
      ((t.walk e.excludes root).Pairwise fun f g => f.1 < g.1) ∧
      (∀ names text, (names, text) ∈ t.walk e.excludes root ↔
        ∃ bytes, (names, bytes) ∈ t.files ∧ String.fromUTF8? bytes = some text ∧
          ∀ front, front <+: names → e.excludes (Entries.along root front) = false) ∧
      literals.Nodup ∧
      ∀ e' : Exclusion, (∀ p, e.excludes p = true → e'.excludes p = true) →
        ∃ literals', gather disk root capture e' = .ok literals' ∧ literals' ⊆ literals := by
  have hgather : ∀ e, gather disk root capture e =
      .ok ((t.walk e.excludes root).flatMap fun f => capture f.2).eraseDups := by
    intro e
    refine gather_eq_ok_iff.2 ⟨loc, hloc, ?_, (scan_eq_walk h root capture e).symm⟩
    rw [hfolder, Bool.or_true]
  refine ⟨_, hgather e, rfl, Entries.pairwise_walk h.distinct, ?_, nodup_eraseDups _, ?_⟩
  · intro names text
    exact Entries.mem_walk
  · intro e' hwider
    refine ⟨_, hgather e', ?_⟩
    intro s hs
    obtain ⟨f, hf, hs⟩ := List.mem_flatMap.1 (List.mem_eraseDups.1 hs)
    exact List.mem_eraseDups.2 (List.mem_flatMap.2 ⟨f, walk_subset hwider hf, hs⟩)

namespace Sample

/-- A folder comes before the file that has its name in front, though a dot comes before a slash. -/
def sources : Entries :=
  .folder "a" (.file "z.cpp" "dig\naxe".toUTF8 .done) <|
    .file "a.cpp" "axe\nhoe".toUTF8 <|
    .folder "old" (.file "b.cpp" "saw".toUTF8 .done) <|
    .file "raw.bin" ⟨#[0xff]⟩ .done

def project : Disk where
  files := [
    (["src", "a", "z.cpp"], "dig\naxe".toUTF8), (["src", "a.cpp"], "axe\nhoe".toUTF8),
    (["src", "old", "b.cpp"], "saw".toUTF8), (["src", "raw.bin"], ⟨#[0xff]⟩),
    (["srcs"], "elsewhere".toUTF8)]
  folders := [["src"], ["src", "a"], ["src", "old"]]
  current := []

theorem holds_sources : project.Holds ["src"] sources := by
  constructor
  · simp [sources, Entries.Distinct, Entries.names]
  · exact .of_eq rfl

theorem locate_src : project.locate ⟨"/src"⟩ = some ["src"] := by decide +kernel

/-- What the pattern for a folder excludes. -/
def withoutOld : Exclusion := (Glob.parse? "/src/old").toList

theorem walk_sources : sources.walk withoutOld.excludes ⟨"/src"⟩ =
    [(["a", "z.cpp"], "dig\naxe"), (["a.cpp"], "axe\nhoe")] := by
  have hinner : Entries.inOrder ((Entries.file "z.cpp" "dig\naxe".toUTF8 .done).visits
      withoutOld.excludes (Path.mk "/src" / "a")) = [(["z.cpp"], "dig\naxe")] := by
    rw [Entries.inOrder, List.mergeSort_of_pairwise (by decide +kernel)]
    decide +kernel
  have hroot : withoutOld.excludes ⟨"/src"⟩ = false := by decide +kernel
  rw [Entries.walk, hroot, sources, Entries.visits, hinner, Entries.inOrder, List.mergeSort_of_pairwise]
  · decide +kernel
  · decide +kernel

end Sample

/-- Lines as literals. -/
theorem gather_sources : ∃ literals,
    gather Sample.project ⟨"/src"⟩ Text.pieces Sample.withoutOld = .ok literals ∧
      literals = ["dig", "axe", "hoe"] := by
  obtain ⟨literals, hgather, hliterals, -⟩ := gather_follows_walk Sample.locate_src
    (by decide +kernel) Sample.holds_sources Text.pieces Sample.withoutOld
  refine ⟨literals, hgather, ?_⟩
  rw [hliterals, Sample.walk_sources]
  decide +kernel

end Literals

end CodeStencil
