/-
  CodeStencil/Proofs/Planning/Probes.lean
  =======================================
  **What planning looks at** — the paths at which the plan of a generator asks the disk for anything
  (`Generator.probes`). If planning succeeds, all of them lead somewhere (`locate_of_mem_probes`).
  A disk on which all that can be read there reads the same has the same plan, if the optional files
  that were missing are missing still (`plan_congr`); otherwise it has none
  (`stillMissing_of_plan`).
-/
import CodeStencil.Proofs.Files.Regions
import CodeStencil.Proofs.Planning.Targets

namespace CodeStencil

open Disk

variable {disk disk' : Disk}

theorem exists_locate_of_isFile {p : Path} (h : disk.isFile p = true) :
    ∃ loc, disk.locate p = some loc := by
  unfold Disk.isFile at h
  cases hloc : disk.locate p with
  | none => simp [hloc] at h
  | some loc => exact ⟨loc, rfl⟩

theorem exists_locate_of_isFolder {p : Path} (h : disk.isFolder p = true) :
    ∃ loc, disk.locate p = some loc := by
  unfold Disk.isFolder at h
  cases hloc : disk.locate p with
  | none => simp [hloc] at h
  | some loc => exact ⟨loc, rfl⟩

theorem exists_locate_of_readText {p : Path} {text : String} (h : disk.readText p = .ok text) :
    ∃ loc, disk.locate p = some loc := by
  unfold Disk.readText Disk.read at h
  cases hloc : disk.locate p with
  | none =>
    rw [hloc] at h
    cases h
  | some loc => exact ⟨loc, rfl⟩

/-! ### Configuration -/

namespace Bundle

theorem loadJson_congr {α : Type} (f : Json.Decoder α) {p : Path} (h : Sees p disk disk') :
    loadJson disk' f p = loadJson disk f p := by
  unfold loadJson
  rw [h.isFile, h.readText]

theorem loadOptional_congr {α : Type} (f : Json.Decoder α) {p : Path} (h : Sees p disk disk')
    (hstill : disk.holds p = false → disk'.holds p = false) :
    loadOptional disk' f p = loadOptional disk f p := by
  unfold loadOptional
  rw [h.holds hstill, loadJson_congr f h]

theorem isFile_of_loadOptional {α : Type} {f : Json.Decoder α} {p : Path} {a : Option α}
    (h : loadOptional disk f p = .ok a) (hholds : disk.holds p = true) : disk.isFile p = true := by
  unfold loadOptional at h
  rw [if_pos hholds] at h
  obtain ⟨b, hb, -⟩ := map_eq_ok.1 h
  unfold loadJson at hb
  split at hb
  · assumption
  · cases hb

/-- The files that a configuration folder may hold or not. -/
def optionalNames : List String :=
  ["attribute_templates.json", "component_templates.json", "attribute_optional_fields.json",
    "description_schema.json", recordSchemaName]

/-- The optional files that loading asks for. Templates for lists are looked for under their second
    name only if there is nothing under the first one. -/
def optionals (disk : Disk) (folder : Path) : List Path :=
  optionalNames.map (folder / ·) ++
    if disk.holds (folder / "component_templates.json") then []
    else [folder / "element_templates.json"]

theorem forall_mem_optionals {folder : Path} {P : Path → Prop} :
    (∀ q ∈ optionals disk folder, P q) ↔ (∀ name ∈ optionalNames, P (folder / name)) ∧
      (disk.holds (folder / "component_templates.json") = false →
        P (folder / "element_templates.json")) := by
  rw [optionals, List.forall_mem_append, List.forall_mem_map]
  cases disk.holds (folder / "component_templates.json") <;> simp

theorem exists_child_of_mem_optionals {folder : Path} :
    ∀ q ∈ optionals disk folder, ∃ name, Path.Simple name ∧ q = folder / name := by
  have hsimple : ∀ name ∈ optionalNames, Path.Simple name := by decide
  exact forall_mem_optionals.2
    ⟨fun name hname => ⟨name, hsimple name hname, rfl⟩, fun _ => ⟨_, by decide, rfl⟩⟩

theorem load_congr {folder : Path} (h : Sees folder disk disk')
    (hfolder : disk.isFolder folder = true)
    (hstill : StillMissing (optionals disk folder) disk disk') :
    load disk' folder = load disk folder := by
  have hchild : ∀ name, Path.Simple name → Sees (folder / name) disk disk' :=
    fun name hname => h.child hfolder hname
  obtain ⟨hnames, hsecond⟩ := forall_mem_optionals.1 hstill
  unfold load
  simp only [loadJson_congr _ (hchild "delimiter_dictionary.json" (by decide)),
    loadJson_congr _ (hchild "files_to_generate.json" (by decide)),
    loadOptional_congr _ (hchild "attribute_templates.json" (by decide)) (hnames _ (by decide)),
    loadOptional_congr _ (hchild "component_templates.json" (by decide)) (hnames _ (by decide)),
    loadOptional_congr _ (hchild "attribute_optional_fields.json" (by decide))
      (hnames _ (by decide)),
    loadOptional_congr _ (hchild "description_schema.json" (by decide)) (hnames _ (by decide)),
    loadOptional_congr _ (hchild recordSchemaName (by decide)) (hnames _ (by decide))]
  cases hcomponent : disk.holds (folder / "component_templates.json") with
  | true =>
    -- list templates are there under their first name, so the second one is not looked for
    refine bind_congr_of_ok fun delimiters _ => bind_congr_of_ok fun files _ =>
      bind_congr_of_ok fun attributeTemplates _ => bind_congr_of_ok fun found hfound => ?_
    cases found with
    | some templates => rfl
    | none =>
      rw [loadOptional, if_pos hcomponent] at hfound
      obtain ⟨templates, -, hnone⟩ := map_eq_ok.1 hfound
      cases hnone
  | false =>
    simp only [loadOptional_congr _ (hchild "element_templates.json" (by decide))
      (hsecond hcomponent)]

/-- What is there in the place of an optional file has to be a file. -/
theorem isFile_of_load {folder : Path} {b : Bundle} (h : load disk folder = .ok b) :
    ∀ q ∈ optionals disk folder, disk.holds q = true → disk.isFile q = true := by
  unfold load at h
  obtain ⟨delimiters, -, h⟩ := bind_eq_ok.1 h
  obtain ⟨files, -, h⟩ := bind_eq_ok.1 h
  obtain ⟨attributeTemplates, hattribute, h⟩ := bind_eq_ok.1 h
  obtain ⟨componentTemplates, hcomponent, h⟩ := bind_eq_ok.1 h
  refine forall_mem_optionals.2 ⟨?_, fun hnone => ?_⟩
  · simp only [optionalNames, List.forall_mem_cons]
    -- what follows is the same wherever the list templates come from
    cases componentTemplates
    all_goals
      obtain ⟨listTemplates, -, h⟩ := bind_eq_ok.1 h
      obtain ⟨optionalFields, hfields, h⟩ := bind_eq_ok.1 h
      obtain ⟨descriptionSchema, hschema, h⟩ := bind_eq_ok.1 h
      obtain ⟨recordSchema, hrecord, -⟩ := bind_eq_ok.1 h
      exact ⟨isFile_of_loadOptional hattribute, isFile_of_loadOptional hcomponent,
        isFile_of_loadOptional hfields, isFile_of_loadOptional hschema,
        isFile_of_loadOptional hrecord, nofun⟩
  · rw [loadOptional, if_neg (by simp [hnone])] at hcomponent
    rw [← Except.ok.inj hcomponent] at h
    obtain ⟨listTemplates, hlist, -⟩ := bind_eq_ok.1 h
    exact isFile_of_loadOptional hlist

/-- If a configuration can still be read, all missing files are missing still. -/
theorem stillMissing_of_load {folder : Path} {b : Bundle} (h : Sees folder disk disk')
    (hfolder : disk.isFolder folder = true) (hload : load disk' folder = .ok b) :
    StillMissing (optionals disk folder) disk disk' := by
  have hstill : ∀ name, Path.Simple name → folder / name ∈ optionals disk' folder →
      disk.holds (folder / name) = false → disk'.holds (folder / name) = false := by
    intro name hname hq hnone
    rw [← Bool.not_eq_true]
    intro hholds
    have hfile := isFile_of_load hload _ hq hholds
    rw [(h.child hfolder hname).isFile] at hfile
    simp [Disk.holds, hfile] at hnone
  obtain ⟨hnames, hsecond⟩ := forall_mem_optionals.1 fun q (hq : q ∈ optionals disk' folder) => hq
  have hsimple : ∀ name ∈ optionalNames, Path.Simple name := by decide
  refine forall_mem_optionals.2
    ⟨fun name hname => hstill name (hsimple name hname) (hnames name hname), fun hcomponent => ?_⟩
  have hcomponent' := hstill "component_templates.json" (by decide) (hnames _ (by decide)) hcomponent
  exact hstill "element_templates.json" (by decide) (hsecond hcomponent')

end Bundle

/-! ### Templates -/

namespace TemplateStore

variable {s s' : TemplateStore} {name : String} {names : List String}

theorem folder_of_add (h : s.add disk name = .ok s') : s'.folder = s.folder := by
  unfold add at h
  split at h
  · rw [← Except.ok.inj h]
  · obtain ⟨t, -, rfl⟩ := map_eq_ok.1 h
    rfl

theorem add_congr (h : Sees (s.path name) disk disk') : s.add disk' name = s.add disk name := by
  unfold add read readText
  rw [h.isFile, h.readText]

theorem preload_congr (h : ∀ name ∈ names, Sees (s.path name) disk disk') :
    preload disk' s names = preload disk s names := by
  induction names generalizing s with
  | nil => rfl
  | cons name rest ih =>
    rw [preload, preload, add_congr (h name List.mem_cons_self)]
    cases hadd : s.add disk name with
    | error e => rfl
    | ok s' =>
      refine ih fun other hother => ?_
      have hpath : s'.path other = s.path other := by
        unfold path
        rw [folder_of_add hadd]
      rw [hpath]
      exact h other (List.mem_cons_of_mem _ hother)

theorem load_congr {folder : Path}
    (h : ∀ name ∈ names, Sees ((ofFolder folder).path name) disk disk') :
    load disk' folder names = load disk folder names := by
  unfold load
  rw [preload_congr h]

/-- What is in the store has a file. -/
def Backed (disk : Disk) (s : TemplateStore) : Prop :=
  ∀ name, s.templates.contains name = true → disk.isFile (s.path name) = true

theorem Backed.add (hs : Backed disk s) (h : s.add disk name = .ok s') :
    Backed disk s' ∧ disk.isFile (s.path name) = true := by
  unfold TemplateStore.add at h
  split at h
  · next hthere =>
    rw [← Except.ok.inj h]
    exact ⟨hs, hs name hthere⟩
  · obtain ⟨t, ht, rfl⟩ := map_eq_ok.1 h
    have hfile : disk.isFile (s.path name) = true := by
      obtain ⟨text, htext, -⟩ := bind_eq_ok.1 ht
      unfold readText at htext
      split at htext
      · assumption
      · cases htext
    refine ⟨fun other hother => ?_, hfile⟩
    change disk.isFile (s.path other) = true
    by_cases heq : other = name
    · rw [heq]
      exact hfile
    · refine hs other ?_
      simpa [Table.contains, heq] using hother

theorem Backed.preload (hs : Backed disk s) (h : TemplateStore.preload disk s names = (s', .ok ())) :
    ∀ name ∈ names, disk.isFile (s.path name) = true := by
  induction names generalizing s with
  | nil => simp
  | cons first rest ih =>
    rw [TemplateStore.preload] at h
    cases hadd : s.add disk first with
    | error e =>
      rw [hadd] at h
      cases h
    | ok s₁ =>
      rw [hadd] at h
      obtain ⟨hs₁, hfirst⟩ := hs.add hadd
      have hpath : s₁.path = s.path := by
        funext other
        unfold path
        rw [folder_of_add hadd]
      have hrest := ih hs₁ h
      rw [hpath] at hrest
      exact List.forall_mem_cons.2 ⟨hfirst, hrest⟩

/-- All templates of a store that was loaded have a file. -/
theorem isFile_of_load {folder : Path} (h : load disk folder names = .ok s) :
    ∀ name ∈ names, disk.isFile ((ofFolder folder).path name) = true := by
  unfold load at h
  cases hpreload : preload disk (ofFolder folder) names with
  | mk s' result =>
    rw [hpreload] at h
    obtain ⟨u, rfl, -⟩ := map_eq_ok.1 h
    refine Backed.preload (fun name hname => ?_) hpreload
    cases hname

end TemplateStore

/-! ### Descriptions and sources -/

namespace Description

/-- The description files in a folder. -/
def files (disk : Disk) (folder : Path) : List Path :=
  match disk.listFiles folder with
  | .ok paths => paths.filter isDescription
  | .error _ => []

theorem readValid_congr {schema : Option Schema} {p : Path} (h : Sees p disk disk') :
    readValid disk' schema p = readValid disk schema p := by
  unfold readValid read
  rw [h.readText]

theorem isFolder_of_load {folder : Path} {schema : Option Schema} {ds : List Description}
    (h : load disk folder schema = .ok ds) : disk.isFolder folder = true := by
  unfold load at h
  split at h
  · assumption
  · cases h

theorem load_congr {folder : Path} {schema : Option Schema} {ds : List Description}
    (hload : load disk folder schema = .ok ds) (h : Sees folder disk disk')
    (hfiles : ∀ p ∈ files disk folder, Sees p disk disk') : load disk' folder schema = .ok ds := by
  have hfolder := isFolder_of_load hload
  rw [← hload]
  unfold load
  rw [if_pos hfolder, if_pos (h.isFolder hfolder), h.listFiles hfolder]
  refine bind_congr_of_ok fun paths hpaths => mapM_congr fun p hp => readValid_congr (hfiles p ?_)
  unfold files
  rwa [hpaths]

/-- What was loaded lies in a folder, and all description files were read. -/
theorem locate_of_load {folder : Path} {schema : Option Schema} {ds : List Description}
    (h : load disk folder schema = .ok ds) :
    ∀ p ∈ folder :: files disk folder, ∃ loc, disk.locate p = some loc := by
  unfold load at h
  split at h
  · next hfolder =>
    obtain ⟨paths, hpaths, hread⟩ := bind_eq_ok.1 h
    refine List.forall_mem_cons.2 ⟨exists_locate_of_isFolder hfolder, fun p hp => ?_⟩
    unfold files at hp
    rw [hpaths] at hp
    obtain ⟨d, hd⟩ := eq_ok_of_mapM hread hp
    obtain ⟨d', hd', -⟩ := bind_eq_ok.1 hd
    obtain ⟨stem, -, hd'⟩ := bind_eq_ok.1 hd'
    obtain ⟨text, htext, -⟩ := bind_eq_ok.1 hd'
    exact exists_locate_of_readText htext
  · cases h

end Description

theorem Literals.gather_congr {root : Path} {capture : String → List String} {e : Exclusion}
    (h : Sees root disk disk') (hfolder : disk.isFolder root = true) :
    gather disk' root capture e = gather disk root capture e := by
  obtain ⟨loc, hd, hd', hkeeps⟩ := h
  have hat := isFolderAt_of_isFolder hfolder hd
  have hbelow : below disk' loc = below disk loc := by
    unfold below
    rw [hkeeps.filterMap_eq]
    intro x b hx
    split at hx
    · next hprefix => exact List.isPrefixOf_iff_prefix.1 hprefix
    · cases hx
  unfold gather
  rw [hd, hd']
  dsimp only
  rw [hat, hkeeps.folders loc hat, Bool.or_true, Bool.or_true, hbelow]

/-! ### Generators -/

namespace Generator

variable {g : Generator}

/-- Where a generator looks for its entities. -/
def inputs (disk : Disk) (g : Generator) : List Path :=
  match g.config.kind with
  | .stringIds => [g.paths.sources]
  | .components | .enums | .schema =>
    g.paths.descriptions.toList.flatMap fun folder => folder :: Description.files disk folder

/-- All that a loaded generator looks at: the folder of its configuration, the files of its
    templates, and its inputs. -/
def lookups (disk : Disk) (g : Generator) : List Path :=
  g.paths.configs ::
    (g.bundle.templateNames.map (TemplateStore.ofFolder g.paths.templates).path ++ inputs disk g)

theorem descriptions_congr (hkind : g.config.kind ≠ .stringIds) {ds : List Description}
    (hds : descriptions disk g = .ok ds) (h : ∀ p ∈ inputs disk g, Sees p disk disk') :
    descriptions disk' g = .ok ds := by
  have hinputs : inputs disk g =
      g.paths.descriptions.toList.flatMap fun folder => folder :: Description.files disk folder := by
    unfold inputs
    cases hk : g.config.kind with
    | stringIds => exact absurd hk hkind
    | components => rfl
    | enums => rfl
    | schema => rfl
  unfold descriptions at hds ⊢
  cases hfolder : g.paths.descriptions with
  | none =>
    rw [hfolder] at hds
    cases hds
  | some folder =>
    rw [hfolder] at hds
    rw [hinputs, hfolder] at h
    simp only [Option.toList_some, List.flatMap_singleton, List.forall_mem_cons] at h
    exact Description.load_congr hds h.1 h.2

theorem locate_of_descriptions (hkind : g.config.kind ≠ .stringIds) {ds : List Description}
    (h : descriptions disk g = .ok ds) : ∀ p ∈ inputs disk g, ∃ loc, disk.locate p = some loc := by
  unfold descriptions at h
  unfold inputs
  cases hfolder : g.paths.descriptions with
  | none =>
    rw [hfolder] at h
    cases h
  | some folder =>
    rw [hfolder] at h
    cases hk : g.config.kind with
    | stringIds => exact absurd hk hkind
    | components => simpa using Description.locate_of_load h
    | enums => simpa using Description.locate_of_load h
    | schema => simpa using Description.locate_of_load h

theorem isFolder_of_literalEntities {es : List Entity} (h : literalEntities disk g = .ok es) :
    disk.isFolder g.paths.sources = true := by
  unfold literalEntities at h
  dsimp only at h
  split at h
  · cases h
  · next hfolder => simpa using hfolder

theorem literalEntities_congr {es : List Entity} (hes : literalEntities disk g = .ok es)
    (h : Sees g.paths.sources disk disk') : literalEntities disk' g = .ok es := by
  have hfolder := isFolder_of_literalEntities hes
  rw [← hes]
  unfold literalEntities
  simp only [hfolder, h.isFolder hfolder, Literals.gather_congr h hfolder]

theorem entities_congr {es : List Entity} (hes : entities disk g = .ok es)
    (h : ∀ p ∈ inputs disk g, Sees p disk disk') : entities disk' g = .ok es := by
  unfold entities at hes ⊢
  cases hk : g.config.kind with
  | components =>
    rw [hk] at hes
    obtain ⟨ds, hds, hes⟩ := bind_eq_ok.1 hes
    exact bind_eq_ok.2 ⟨ds, descriptions_congr (by simp [hk]) hds h, hes⟩
  | enums =>
    rw [hk] at hes
    obtain ⟨ds, hds, hes⟩ := bind_eq_ok.1 hes
    exact bind_eq_ok.2 ⟨ds, descriptions_congr (by simp [hk]) hds h, hes⟩
  | schema =>
    rw [hk] at hes
    dsimp only at hes ⊢
    unfold recordEntities at hes ⊢
    split at hes
    · obtain ⟨ds, hds, hes⟩ := bind_eq_ok.1 hes
      exact bind_eq_ok.2 ⟨ds, descriptions_congr (by simp [hk]) hds h, hes⟩
    · cases hes
  | stringIds =>
    rw [hk] at hes
    refine literalEntities_congr hes (h _ ?_)
    unfold inputs
    rw [hk]
    exact List.mem_singleton_self _

theorem locate_of_entities {es : List Entity} (h : entities disk g = .ok es) :
    ∀ p ∈ inputs disk g, ∃ loc, disk.locate p = some loc := by
  unfold entities at h
  cases hk : g.config.kind with
  | components =>
    rw [hk] at h
    obtain ⟨ds, hds, -⟩ := bind_eq_ok.1 h
    exact locate_of_descriptions (by simp [hk]) hds
  | enums =>
    rw [hk] at h
    obtain ⟨ds, hds, -⟩ := bind_eq_ok.1 h
    exact locate_of_descriptions (by simp [hk]) hds
  | schema =>
    rw [hk] at h
    dsimp only at h
    unfold recordEntities at h
    split at h
    · obtain ⟨ds, hds, -⟩ := bind_eq_ok.1 h
      exact locate_of_descriptions (by simp [hk]) hds
    · cases h
  | stringIds =>
    rw [hk] at h
    unfold inputs
    rw [hk]
    intro p hp
    rw [List.mem_singleton.1 hp]
    exact exists_locate_of_isFolder (isFolder_of_literalEntities h)

/-- The paths at which the plan of a generator looks at the disk. -/
def probes (disk : Disk) (id : String) (config : GeneratorConfig) (working : Path) : List Path :=
  match load disk id config working with
  | .ok g => lookups disk g
  | .error _ => []

theorem probes_eq {id : String} {config : GeneratorConfig} {working : Path}
    (h : load disk id config working = .ok g) : probes disk id config working = lookups disk g := by
  unfold probes
  rw [h]

/-- The optional files that the plan of a generator asks for. -/
def asked (disk : Disk) (config : GeneratorConfig) (working : Path) : List Path :=
  Bundle.optionals disk (config.resolve working).configs

variable {id : String} {config : GeneratorConfig} {working : Path} {ops : List Operation}

theorem load_congr (hload : load disk id config working = .ok g)
    (h : ∀ p ∈ lookups disk g, Sees p disk disk')
    (hstill : StillMissing (asked disk config working) disk disk') :
    load disk' id config working = .ok g := by
  obtain ⟨hfolder, hbundle, hschema, hstore, hid, hconfig, hpaths⟩ := load_eq_ok.1 hload
  rw [lookups, List.forall_mem_cons, List.forall_mem_append, hpaths] at h
  obtain ⟨hconfigs, htemplates, -⟩ := h
  refine load_eq_ok.2 ⟨hconfigs.isFolder hfolder, ?_, hschema, ?_, hid, hconfig, hpaths⟩
  · rw [Bundle.load_congr hconfigs hfolder hstill]
    exact hbundle
  · rw [TemplateStore.load_congr fun name hname => htemplates _ (List.mem_map_of_mem hname)]
    exact hstore

theorem configs_mem_probes (hplan : plan disk id config working = .ok ops) :
    (config.resolve working).configs ∈ probes disk id config working ∧
      disk.isFolder (config.resolve working).configs = true := by
  obtain ⟨g, es, hg, -, -⟩ := plan_eq_ok.1 hplan
  obtain ⟨hfolder, -, -, -, -, -, hpaths⟩ := load_eq_ok.1 hg
  rw [probes_eq hg, lookups, hpaths]
  exact ⟨List.mem_cons_self, hfolder⟩

/-- A disk on which all that was read reads the same, and nothing is there that was missing, has the
    same plan. -/
theorem plan_congr (hplan : plan disk id config working = .ok ops)
    (h : ∀ p ∈ probes disk id config working, Sees p disk disk')
    (hstill : StillMissing (asked disk config working) disk disk') :
    plan disk' id config working = .ok ops := by
  obtain ⟨g, es, hg, hes, hops⟩ := plan_eq_ok.1 hplan
  rw [probes_eq hg] at h
  have hinputs : ∀ p ∈ inputs disk g, Sees p disk disk' := fun p hp =>
    h p (List.mem_cons_of_mem _ (List.mem_append_right _ hp))
  exact plan_eq_ok.2 ⟨g, es, load_congr hg h hstill, entities_congr hes hinputs, hops⟩

/-- If there is a plan still, nothing is there that was missing. -/
theorem stillMissing_of_plan (hplan : plan disk id config working = .ok ops)
    (h : ∀ p ∈ probes disk id config working, Sees p disk disk') {ops' : List Operation}
    (hplan' : plan disk' id config working = .ok ops') :
    StillMissing (asked disk config working) disk disk' := by
  obtain ⟨hconfigs, hfolder⟩ := configs_mem_probes hplan
  obtain ⟨g', es', hg', -, -⟩ := plan_eq_ok.1 hplan'
  obtain ⟨-, hbundle, -⟩ := load_eq_ok.1 hg'
  exact Bundle.stillMissing_of_load (h _ hconfigs) hfolder hbundle

/-- All that a successful plan has looked at can be reached. -/
theorem locate_of_mem_probes (hplan : plan disk id config working = .ok ops) {p : Path}
    (hp : p ∈ probes disk id config working) : ∃ loc, disk.locate p = some loc := by
  obtain ⟨g, es, hg, hes, -⟩ := plan_eq_ok.1 hplan
  obtain ⟨hfolder, -, -, hstore, -, -, hpaths⟩ := load_eq_ok.1 hg
  rw [probes_eq hg, lookups, List.mem_cons, List.mem_append, hpaths] at hp
  rcases hp with rfl | hp | hp
  · exact exists_locate_of_isFolder hfolder
  · obtain ⟨name, hname, rfl⟩ := List.mem_map.1 hp
    exact exists_locate_of_isFile (TemplateStore.isFile_of_load hstore name hname)
  · exact locate_of_entities hes p hp

end Generator

end CodeStencil
