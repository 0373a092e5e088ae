/-
  CodeStencil/Proofs/Literals/Interning.lean
  ==========================================
  **Interned literals** — in a table ordered by fingerprint it is enough to compare neighbours: no
  two of them collide exactly if no two literals do (`checkCollisions_eq_ok_iff`). If none collide
  then the fingerprints of different literals increase strictly, and the order in which the literals
  were found does not show (`entities_of_same_literals`).
-/
import CodeStencil.Generator
import CodeStencil.Proofs.Lists.Distinct
import CodeStencil.Proofs.Lists.Results
import CodeStencil.Proofs.Tables.Writes

namespace CodeStencil

namespace Literal

/-! ### Ordered tables -/

theorem decide_le_trans (a b c : Literal) (hab : decide (a.fingerprint ≤ b.fingerprint) = true)
    (hbc : decide (b.fingerprint ≤ c.fingerprint) = true) :
    decide (a.fingerprint ≤ c.fingerprint) = true := by
  rw [decide_eq_true_eq] at hab hbc ⊢
  exact UInt64.le_trans hab hbc

theorem decide_le_total (a b : Literal) :
    (decide (a.fingerprint ≤ b.fingerprint) || decide (b.fingerprint ≤ a.fingerprint)) = true := by
  rw [Bool.or_eq_true, decide_eq_true_eq, decide_eq_true_eq]
  exact UInt64.le_total _ _

theorem sorted_perm (literals : List Literal) : (sorted literals).Perm literals :=
  List.mergeSort_perm literals _

theorem pairwise_sorted (literals : List Literal) :
    (sorted literals).Pairwise fun a b => a.fingerprint ≤ b.fingerprint :=
  (List.pairwise_mergeSort decide_le_trans decide_le_total literals).imp of_decide_eq_true

/-- In an ordered table, literals with one fingerprint stand side by side: whoever has that of the
    first shares it with the second, which lies between. -/
theorem fingerprint_second {a b c : Literal} {rest : List Literal}
    (hsorted : (a :: b :: rest).Pairwise fun a b => a.fingerprint ≤ b.fingerprint)
    (hc : c ∈ b :: rest) (hac : a.fingerprint = c.fingerprint) : a.fingerprint = b.fingerprint := by
  obtain ⟨hle, hrest⟩ := List.pairwise_cons.1 hsorted
  have hbc : b.fingerprint ≤ c.fingerprint := by
    rcases List.mem_cons.1 hc with rfl | hc
    · exact UInt64.le_refl _
    · exact (List.pairwise_cons.1 hrest).1 c hc
  exact UInt64.le_antisymm (hle b List.mem_cons_self) (hac ▸ hbc)

theorem checkCollisions_eq_ok_iff {table : List Literal}
    (hsorted : table.Pairwise fun a b => a.fingerprint ≤ b.fingerprint) :
    checkCollisions table = .ok () ↔
      ∀ a ∈ table, ∀ b ∈ table, a.fingerprint = b.fingerprint → a.text = b.text := by
  fun_induction checkCollisions table with
  | case1 a b rest hcollide =>
    constructor
    · intro h
      cases h
    · intro h
      exact absurd (h a (by simp) b (by simp) hcollide.1) hcollide.2
  | case2 a b rest hcollide ih =>
    rw [ih (List.pairwise_cons.1 hsorted).2]
    constructor
    · intro h
      have hfirst : ∀ c ∈ b :: rest, a.fingerprint = c.fingerprint → a.text = c.text := by
        intro c hc hac
        have hab := fingerprint_second hsorted hc hac
        have htext : a.text = b.text := by
          apply Decidable.byContradiction
          intro hne
          exact hcollide ⟨hab, hne⟩
        exact htext.trans (h b List.mem_cons_self c hc (hab.symm.trans hac))
      intro c hc d hd hcd
      rcases List.mem_cons.1 hc with rfl | hc'
      · rcases List.mem_cons.1 hd with rfl | hd'
        · rfl
        · exact hfirst d hd' hcd
      · rcases List.mem_cons.1 hd with rfl | hd'
        · exact (hfirst c hc' hcd.symm).symm
        · exact h c hc' d hd' hcd
    · intro h c hc d hd
      exact h c (List.mem_cons_of_mem a hc) d (List.mem_cons_of_mem a hd)
  | case3 table hshort =>
    refine iff_of_true rfl ?_
    cases table with
    | nil => simp
    | cons a rest =>
      cases rest with
      | nil => simp
      | cons b more => exact absurd rfl (hshort a b more)

theorem checkCollisions_eq_error {table : List Literal} {e : Error}
    (h : checkCollisions table = .error e) :
    ∃ a ∈ table, ∃ b ∈ table, a.fingerprint = b.fingerprint ∧ a.text ≠ b.text ∧
      e = .collision a.text b.text a.fingerprint := by
  fun_induction checkCollisions table with
  | case1 a b rest hcollide =>
    exact ⟨a, by simp, b, by simp, hcollide.1, hcollide.2, (Except.error.inj h).symm⟩
  | case2 a b rest hcollide ih =>
    obtain ⟨c, hc, d, hd, hfound⟩ := ih h
    exact ⟨c, List.mem_cons_of_mem a hc, d, List.mem_cons_of_mem a hd, hfound⟩
  | case3 table hshort => cases h

/-! ### Tables of texts -/

/-- No two of the texts have one fingerprint. -/
def Apart (texts : List String) : Prop :=
  ∀ s ∈ texts, ∀ s' ∈ texts, CodeStencil.fingerprint s = CodeStencil.fingerprint s' → s = s'

theorem Apart.congr {texts texts' : List String} (h : Apart texts)
    (hsame : ∀ s, s ∈ texts ↔ s ∈ texts') : Apart texts' := by
  intro s hs s' hs'
  exact h s ((hsame s).2 hs) s' ((hsame s').2 hs')

theorem mem_table {texts : List String} {l : Literal} :
    l ∈ sorted (texts.map ofText) ↔ ∃ s ∈ texts, ofText s = l := by
  rw [(sorted_perm _).mem_iff, List.mem_map]

theorem intern_eq (texts : List String) :
    intern texts = (checkCollisions (sorted (texts.map ofText))).map
      fun _ => sorted (texts.map ofText) := by
  unfold intern
  dsimp only
  cases checkCollisions (sorted (texts.map ofText)) <;> rfl

theorem checkCollisions_table (texts : List String) :
    checkCollisions (sorted (texts.map ofText)) = .ok () ↔ Apart texts := by
  rw [checkCollisions_eq_ok_iff (pairwise_sorted _)]
  constructor
  · intro h s hs s' hs'
    exact h _ (mem_table.2 ⟨s, hs, rfl⟩) _ (mem_table.2 ⟨s', hs', rfl⟩)
  · intro h a ha b hb
    obtain ⟨s, hs, rfl⟩ := mem_table.1 ha
    obtain ⟨s', hs', rfl⟩ := mem_table.1 hb
    exact h s hs s' hs'

/-- Two of the texts have one fingerprint, and this is the error. -/
def Collision (texts : List String) (e : Error) : Prop :=
  ∃ s ∈ texts, ∃ s' ∈ texts, CodeStencil.fingerprint s = CodeStencil.fingerprint s' ∧ s ≠ s' ∧
    e = .collision s s' (CodeStencil.fingerprint s)

theorem Collision.congr {texts texts' : List String} {e : Error} (h : Collision texts e)
    (hsame : ∀ s, s ∈ texts ↔ s ∈ texts') : Collision texts' e := by
  obtain ⟨s, hs, s', hs', hfound⟩ := h
  exact ⟨s, (hsame s).1 hs, s', (hsame s').1 hs', hfound⟩

/-- Texts are interned if they are apart; otherwise two of them collide. -/
theorem intern_cases (texts : List String) :
    (Apart texts ∧ intern texts = .ok (sorted (texts.map ofText))) ∨
      (¬Apart texts ∧ ∃ e, intern texts = .error e ∧ Collision texts e) := by
  rw [intern_eq, ← checkCollisions_table]
  cases hcheck : checkCollisions (sorted (texts.map ofText)) with
  | ok u => exact Or.inl ⟨rfl, rfl⟩
  | error e =>
    obtain ⟨a, ha, b, hb, heq, hne, rfl⟩ := checkCollisions_eq_error hcheck
    obtain ⟨s, hs, rfl⟩ := mem_table.1 ha
    obtain ⟨s', hs', rfl⟩ := mem_table.1 hb
    exact Or.inr ⟨by simp, _, rfl, s, hs, s', hs', heq, hne, rfl⟩

theorem sorted_congr {texts texts' : List String} (hperm : texts.Perm texts') (h : Apart texts) :
    sorted (texts.map ofText) = sorted (texts'.map ofText) := by
  have htables : (sorted (texts.map ofText)).Perm (sorted (texts'.map ofText)) :=
    (sorted_perm _).trans ((hperm.map ofText).trans (sorted_perm _).symm)
  apply htables.eq_of_pairwise _ (pairwise_sorted _) (pairwise_sorted _)
  intro a b ha hb hab hba
  obtain ⟨s, hs, rfl⟩ := mem_table.1 ha
  obtain ⟨s', hs', rfl⟩ := mem_table.1 (htables.mem_iff.2 hb)
  exact congrArg ofText (h s hs s' hs' (UInt64.le_antisymm hab hba))

/-- The texts of a table in the order of their fingerprints. -/
def tableTexts (texts : List String) : List String := (sorted (texts.map ofText)).map (·.text)

theorem map_ofText_tableTexts (texts : List String) :
    (tableTexts texts).map ofText = sorted (texts.map ofText) := by
  have hself : ∀ l ∈ sorted (texts.map ofText), ofText l.text = l := by
    intro l hl
    obtain ⟨s, -, rfl⟩ := mem_table.1 hl
    rfl
  rw [tableTexts, List.map_map]
  exact (List.map_congr_left hself).trans (List.map_id _)

theorem tableTexts_perm (texts : List String) : (tableTexts texts).Perm texts := by
  have hperm := (sorted_perm (texts.map ofText)).map (·.text)
  rw [List.map_map] at hperm
  exact hperm.trans (List.Perm.of_eq (List.map_id texts))

/-- Different texts that are apart stand in strictly increasing order. -/
theorem pairwise_tableTexts {texts : List String} (hnodup : texts.Nodup) (h : Apart texts) :
    (tableTexts texts).Pairwise fun s s' =>
      CodeStencil.fingerprint s < CodeStencil.fingerprint s' := by
  have hperm := tableTexts_perm texts
  have hle := pairwise_sorted (texts.map ofText)
  rw [← map_ofText_tableTexts, List.pairwise_map] at hle
  refine (hle.and (hperm.nodup_iff.2 hnodup)).imp_of_mem ?_
  rintro s s' hs hs' ⟨hle, hne⟩
  refine UInt64.lt_of_le_of_ne hle ?_
  intro heq
  exact hne (h s (hperm.mem_iff.1 hs) s' (hperm.mem_iff.1 hs') heq)

/-! ### Entities of texts -/

/-- The number that the decimal hash of an entity shows. -/
def shownHash? (e : Entity) : Option Nat :=
  (e.dictionary.text? "string_hash").map fun digits => Text.ofDecimal digits.toList

/-- An entity that stands for its name: it shows the name and the digits of its fingerprint, and
    nothing else. -/
structure StandsForName (e : Entity) : Prop where
  text : e.dictionary.get? "string_text" = some (.text e.name)
  hash : e.dictionary.get? "string_hash" =
    some (.text (Text.decimal (CodeStencil.fingerprint e.name).toNat))
  hashHex : e.dictionary.get? "string_hash_hex" =
    some (.text (hexText (CodeStencil.fingerprint e.name)))
  keys : e.dictionary.keys = ["string_text", "string_hash", "string_hash_hex"]
  flags : e.flags = []
  elements : e.elements = []

theorem standsForName_entity (s : String) : StandsForName (ofText s).entity := by
  constructor
  case keys => exact (Table.keys_ofList _).trans rfl
  all_goals simp [entity, ofText, Table.ofList, Table.insertAll]

/-- The decimal hash reads back as the fingerprint. -/
theorem StandsForName.shownHash? {e : Entity} (h : StandsForName e) :
    Literal.shownHash? e = some (CodeStencil.fingerprint e.name).toNat := by
  simp [Literal.shownHash?, Dictionary.text?, h.hash, Binding.asText?]

/-- The entities of texts: each text is the name of exactly one of them, each one stands for its
    name, and both the fingerprints of the names and the numbers shown for them increase strictly. -/
structure Tabulates (texts : List String) (entities : List Entity) : Prop where
  nodup : (entities.map (·.name)).Nodup
  mem_names : ∀ s, s ∈ entities.map (·.name) ↔ s ∈ texts
  standsForName : ∀ e ∈ entities, StandsForName e
  increasing : entities.Pairwise fun e e' =>
    CodeStencil.fingerprint e.name < CodeStencil.fingerprint e'.name
  shown : ∃ hashes : List Nat,
    entities.map shownHash? = hashes.map some ∧ hashes.Pairwise (· < ·)

/-- Different texts that are apart make a table of entities. -/
theorem tabulates_sorted {texts : List String} (hnodup : texts.Nodup) (h : Apart texts) :
    Tabulates texts ((sorted (texts.map ofText)).map entity) := by
  have hperm := tableTexts_perm texts
  have hincreasing := pairwise_tableTexts hnodup h
  have hnames : ((tableTexts texts).map (entity ∘ ofText)).map (·.name) = tableTexts texts := by
    rw [List.map_map]
    exact List.map_id _
  rw [← map_ofText_tableTexts, List.map_map]
  constructor
  · rw [hnames]
    exact hperm.nodup_iff.2 hnodup
  · intro s
    rw [hnames]
    exact hperm.mem_iff
  · intro e he
    obtain ⟨s, -, rfl⟩ := List.mem_map.1 he
    exact standsForName_entity s
  · exact List.pairwise_map.2 hincreasing
  · refine ⟨(tableTexts texts).map fun s => (CodeStencil.fingerprint s).toNat, ?_,
      List.pairwise_map.2 hincreasing⟩
    rw [List.map_map, List.map_map]
    exact List.map_congr_left fun s _ => (standsForName_entity s).shownHash?

end Literal

/-! ### Literals of a generator -/

namespace Literals

/-- The literals in files, each once, in the order in which they are found. -/
def scan (root : Path) (capture : String → List String) (e : Exclusion)
    (files : List (Location × ByteArray)) : List String :=
  ((files.filter fun f => isScanned e root f.1).flatMap fun f => capturesIn capture f.2).eraseDups

variable {disk : Disk} {root : Path} {capture : String → List String} {e : Exclusion}
  {literals : List String}

theorem gather_eq_ok_iff : gather disk root capture e = .ok literals ↔ ∃ loc,
    disk.locate root = some loc ∧ (disk.isFileAt loc || disk.isFolderAt loc) = true ∧
      literals = scan root capture e (below disk loc) := by
  unfold gather
  cases disk.locate root with
  | none => simp
  | some loc =>
    dsimp only
    split
    · next hthere =>
      constructor
      · intro h
        exact ⟨loc, rfl, hthere, (Except.ok.inj h).symm⟩
      · rintro ⟨loc', hloc, -, rfl⟩
        rw [Option.some.inj hloc]
        rfl
    · next hnone =>
      constructor
      · intro h
        cases h
      · rintro ⟨loc', hloc, hthere, -⟩
        rw [← Option.some.inj hloc] at hthere
        exact absurd hthere hnone

theorem nodup_gather (h : gather disk root capture e = .ok literals) : literals.Nodup := by
  obtain ⟨loc, -, -, rfl⟩ := gather_eq_ok_iff.1 h
  exact nodup_eraseDups _

end Literals

namespace Generator

/-- The literals are found in the sources of the generator, with its pattern and outside of what it
    excludes. -/
structure Gathers (disk : Disk) (g : Generator) (literals : List String) : Prop where
  isFolder : disk.isFolder g.paths.sources = true
  found : ∃ pattern exclusion,
    Literals.compile (g.config.pattern.getD Literals.defaultPattern) = .ok pattern ∧
      pattern.groupCount ≠ 0 ∧ Exclusion.build g.paths.sources g.config.exclude = .ok exclusion ∧
      Literals.gather disk g.paths.sources pattern.captures exclusion = .ok literals

variable {disk disk' : Disk} {g g' : Generator} {literals literals' : List String}

theorem Gathers.nodup (h : Gathers disk g literals) : literals.Nodup := by
  obtain ⟨-, pattern, exclusion, -, -, -, hgather⟩ := h
  exact Literals.nodup_gather hgather

theorem Gathers.literalEntities_eq (h : Gathers disk g literals) :
    literalEntities disk g =
      (Literal.intern literals).map fun table => table.map Literal.entity := by
  obtain ⟨hfolder, pattern, exclusion, hpattern, hgroups, hexclusion, hgather⟩ := h
  unfold literalEntities
  simp only [hfolder, hpattern, hexclusion, hgather, Bool.not_true, Bool.false_eq_true, if_false,
    bind, Except.bind, pure, Except.pure, hgroups]
  cases Literal.intern literals <;> rfl

/-! ### Two folders with the same literals -/

namespace Sample

/-- Two folders of sources with different marks for literals. A part of the second one is old. -/
def tree : Disk where
  files := [
    (["a", "one.c"], "f('axe')".toUTF8),
    (["a", "two.c"], "f('dig', 'axe')".toUTF8),
    (["b", "new.c"], "<dig><dig><axe>".toUTF8),
    (["b", "old", "one.c"], "<hoe>".toUTF8)]
  folders := [["a"], ["b"], ["b", "old"]]
  current := []

/-- A generator that finds literals in a folder. -/
def scanner (folder pattern : String) (exclude : List String) : Generator where
  id := "ids"
  config := ⟨.stringIds, ⟨"c"⟩, ⟨"templates"⟩, none, ⟨"out"⟩, some ⟨folder⟩, some pattern, exclude⟩
  paths := ⟨⟨"/c"⟩, ⟨"/c/templates"⟩, none, ⟨"/out"⟩, ⟨folder⟩⟩
  bundle := ⟨∅, [], [], [], ∅, none, none⟩
  schema := none
  store := .ofFolder ⟨"/c/templates"⟩

/-- The patterns of a scanner, if both are well formed. -/
def scanned? (folder pattern : String) (exclude : List String)
    (files : List (Location × ByteArray)) : Option (List String) := do
  let p ← Pattern.parse? pattern
  let globs ← (Exclusion.listed exclude).mapM fun name => Glob.parse? (Path.mk folder / name).text
  if p.groupCount = 0 then none else some (Literals.scan ⟨folder⟩ p.captures globs files)

theorem gathers_scanner {folder pattern : String} {exclude : List String} {loc : Location}
    {files : List (Location × ByteArray)} {literals : List String}
    (hloc : tree.locate ⟨folder⟩ = some loc) (hfolder : tree.isFolderAt loc = true)
    (hbelow : Literals.below tree loc = files)
    (hscan : scanned? folder pattern exclude files = some literals) :
    Gathers tree (scanner folder pattern exclude) literals := by
  obtain ⟨p, hp, hscan⟩ := Option.bind_eq_some_iff.1 hscan
  obtain ⟨globs, hglobs, hscan⟩ := Option.bind_eq_some_iff.1 hscan
  have hgroups : p.groupCount ≠ 0 := by
    intro hnone
    rw [if_pos hnone] at hscan
    cases hscan
  rw [if_neg hgroups] at hscan
  constructor
  · change (tree.locate ⟨folder⟩).any tree.isFolderAt = true
    rw [hloc]
    exact hfolder
  · refine ⟨p, globs, ?_, hgroups, ?_, Literals.gather_eq_ok_iff.2 ⟨loc, hloc, ?_, ?_⟩⟩
    · change Literals.compile pattern = _
      simp only [Literals.compile, hp]
    · change Exclusion.build ⟨folder⟩ exclude = _
      simp only [Exclusion.build, hglobs]
    · rw [hfolder, Bool.or_true]
    · rw [hbelow]
      exact (Option.some.inj hscan).symm

theorem gathers_quoted : Gathers tree (scanner "/a" "'([a-z]*)'" []) ["axe", "dig"] := by
  have hbelow : Literals.below tree ["a"] =
      [(["one.c"], "f('axe')".toUTF8), (["two.c"], "f('dig', 'axe')".toUTF8)] := by
    refine (List.mergeSort_of_pairwise ?_).trans rfl
    decide +kernel
  refine gathers_scanner (by decide +kernel) (by decide +kernel) hbelow ?_
  decide +kernel

theorem gathers_bracketed : Gathers tree (scanner "/b" "<(\\w*)>" ["old"]) ["dig", "axe"] := by
  have hbelow : Literals.below tree ["b"] =
      [(["new.c"], "<dig><dig><axe>".toUTF8), (["old", "one.c"], "<hoe>".toUTF8)] := by
    refine (List.mergeSort_of_pairwise ?_).trans rfl
    decide +kernel
  refine gathers_scanner (by decide +kernel) (by decide +kernel) hbelow ?_
  decide +kernel

end Sample

/-- Which literals are found decides what becomes of them. If two of them have one fingerprint, that
    is the error. Otherwise there is exactly one entity for each, and the entities stand in strictly
    increasing order of fingerprints. -/
theorem entities_of_same_literals (h : Gathers disk g literals) (h' : Gathers disk' g' literals')
    (hsame : ∀ s, s ∈ literals ↔ s ∈ literals') :
    (¬Literal.Apart literals ∧
        (∃ e, literalEntities disk g = .error e ∧ Literal.Collision literals e) ∧
        ∃ e, literalEntities disk' g' = .error e ∧ Literal.Collision literals e) ∨
      (Literal.Apart literals ∧ ∃ entities,
        literalEntities disk g = .ok entities ∧ literalEntities disk' g' = .ok entities ∧
        Literal.Tabulates literals entities) := by
  rw [h.literalEntities_eq, h'.literalEntities_eq]
  rcases Literal.intern_cases literals with ⟨hapart, hintern⟩ | ⟨hcollide, e, hintern, he⟩
  · have hperm := (List.perm_ext_iff_of_nodup h.nodup h'.nodup).2 hsame
    have hintern' : Literal.intern literals' = .ok (Literal.sorted (literals.map .ofText)) := by
      rcases Literal.intern_cases literals' with ⟨-, hintern'⟩ | ⟨hcollide, -⟩
      · rw [hintern', Literal.sorted_congr hperm hapart]
      · exact absurd (hapart.congr hsame) hcollide
    rw [hintern, hintern']
    exact Or.inr ⟨hapart, _, rfl, rfl, Literal.tabulates_sorted h.nodup hapart⟩
  · have hsame' := fun s => (hsame s).symm
    rcases Literal.intern_cases literals' with ⟨hapart, -⟩ | ⟨-, e', hintern', he'⟩
    · exact absurd (hapart.congr hsame') hcollide
    · rw [hintern, hintern']
      exact Or.inl ⟨hcollide, ⟨e, rfl, he⟩, e', rfl, he'.congr hsame'⟩

theorem scanners_agree : ∃ entities : List Entity,
    literalEntities Sample.tree (Sample.scanner "/a" "'([a-z]*)'" []) = .ok entities ∧
    literalEntities Sample.tree (Sample.scanner "/b" "<(\\w*)>" ["old"]) = .ok entities ∧
    Literal.Tabulates ["axe", "dig"] entities := by
  have hsame : ∀ s, s ∈ ["axe", "dig"] ↔ s ∈ ["dig", "axe"] := by
    intro s
    simp [or_comm]
  have hapart : Literal.Apart ["axe", "dig"] := by
    unfold Literal.Apart
    decide +kernel
  rcases entities_of_same_literals Sample.gathers_quoted Sample.gathers_bracketed hsame with
    ⟨hcollide, -⟩ | ⟨-, hagree⟩
  · exact absurd hapart hcollide
  · exact hagree

end Generator

end CodeStencil
