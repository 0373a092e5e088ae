/-
  CodeStencil/Proofs/Run/Probes.lean
  ==================================
  **What a run looks at before it writes** — the candidates for the registry up to the first that is
  there, and whatever the covered generators look at (`probes`). If all that can be read there reads
  the same on another disk, then that disk leads to the same preparation exactly if nothing is there
  that was missing when the run asked for it (`plan_congr`, `stillMissing_of_prepare`).
-/
import CodeStencil.Proofs.Planning.Probes
import CodeStencil.Proofs.Run.Phases

namespace CodeStencil

open Disk

variable {disk disk' : Disk}

/-! ### Registries -/

section UpTo

variable {α : Type} {p q : α → Bool} {as : List α} {a : α}

/-- Everything up to the first that passes, that one included. -/
def upTo (p : α → Bool) : List α → List α
  | [] => []
  | a :: rest => if p a then [a] else a :: upTo p rest

theorem find?_congr_upTo (h : ∀ a ∈ upTo p as, q a = p a) : as.find? q = as.find? p := by
  induction as with
  | nil => rfl
  | cons a rest ih =>
    rw [upTo] at h
    cases hp : p a with
    | true =>
      rw [hp, if_pos rfl] at h
      have hq := h a List.mem_cons_self
      rw [List.find?_cons_of_pos (hq.trans hp), List.find?_cons_of_pos hp]
    | false =>
      rw [hp, if_neg Bool.false_ne_true, List.forall_mem_cons] at h
      have hq := h.1.trans hp
      rw [List.find?_cons_of_neg (by simp [hq]), List.find?_cons_of_neg (by simp [hp]), ih h.2]

/-- Whatever does not pass one test does not pass another one either, if the first that passes the
    other passes both. -/
theorem forall_upTo_of_find? {b : α} (h : as.find? q = some b) (hb : b ∈ upTo p as → p b = true) :
    ∀ a ∈ upTo p as, p a = false → q a = false := by
  induction as with
  | nil => cases h
  | cons first rest ih =>
    rw [upTo] at hb ⊢
    cases hp : p first with
    | true => simp [hp]
    | false =>
      simp only [hp, Bool.false_eq_true, if_false, List.mem_cons] at hb
      rw [if_neg Bool.false_ne_true, List.forall_mem_cons]
      cases hq : q first with
      | true =>
        rw [List.find?_cons_of_pos hq] at h
        have hpass := hb (Or.inl (Option.some.inj h).symm)
        rw [← Option.some.inj h, hp] at hpass
        cases hpass
      | false =>
        rw [List.find?_cons_of_neg (by simp [hq])] at h
        exact ⟨fun _ => rfl, ih h fun hmem => hb (Or.inr hmem)⟩

theorem mem_upTo_of_find? (h : as.find? p = some a) : a ∈ upTo p as := by
  induction as with
  | nil => cases h
  | cons first rest ih =>
    rw [upTo]
    cases hp : p first with
    | true =>
      rw [List.find?_cons_of_pos hp] at h
      rw [if_pos rfl, Option.some.inj h]
      exact List.mem_singleton_self a
    | false =>
      rw [List.find?_cons_of_neg (by simp [hp])] at h
      rw [if_neg Bool.false_ne_true]
      exact List.mem_cons_of_mem _ (ih h)

theorem upTo_subset (p : α → Bool) (as : List α) : upTo p as ⊆ as := by
  induction as with
  | nil => exact fun _ => id
  | cons first rest ih =>
    rw [upTo]
    split
    · exact List.cons_subset_cons _ (List.nil_subset _)
    · exact List.cons_subset_cons _ ih

end UpTo

namespace Registry

/-- The candidates for the registry of a folder, up to the first that is there. -/
def candidates (disk : Disk) (folder : Path) : List Path :=
  upTo disk.holds (Error.registryNames.map (folder / ·))

theorem load_congr {p : Path} (h : Sees p disk disk') : load disk' p = load disk p := by
  unfold load
  rw [h.isFile, h.readText]

theorem isFile_of_load {p : Path} {r : Registry} (h : load disk p = .ok r) :
    disk.isFile p = true := by
  unfold load at h
  split at h
  · assumption
  · cases h

theorem find_congr {folder : Path} (h : ∀ p ∈ candidates disk folder, Sees p disk disk')
    (hstill : StillMissing (candidates disk folder) disk disk') :
    find disk' folder = find disk folder := by
  have hfirst : (Error.registryNames.map (folder / ·)).find? disk'.holds =
      (Error.registryNames.map (folder / ·)).find? disk.holds :=
    find?_congr_upTo fun p hp => (h p hp).holds (hstill p hp)
  unfold find
  rw [hfirst]
  cases hfound : (Error.registryNames.map (folder / ·)).find? disk.holds with
  | none => rfl
  | some p =>
    dsimp only
    rw [load_congr (h p (mem_upTo_of_find? hfound))]

/-- If a registry can still be found, all missing candidates are missing still. -/
theorem stillMissing_of_find {folder : Path} {found : Registry × Path}
    (h : ∀ p ∈ candidates disk folder, Sees p disk disk') (hfind : find disk' folder = .ok found) :
    StillMissing (candidates disk folder) disk disk' := by
  unfold find at hfind
  cases hfirst : (Error.registryNames.map (folder / ·)).find? disk'.holds with
  | none =>
    rw [hfirst] at hfind
    cases hfind
  | some first =>
    rw [hfirst] at hfind
    obtain ⟨registry, hload, -⟩ := bind_eq_ok.1 hfind
    refine forall_upTo_of_find? hfirst fun hmem => ?_
    -- the first candidate that is there now is a file, so it was there before
    have hfile := isFile_of_load hload
    rw [(h first hmem).isFile] at hfile
    rw [Disk.holds, hfile, Bool.true_or]

/-- If one candidate is there then all of them can be reached. -/
theorem locate_of_mem_candidates {folder : Path} {found : Registry × Path}
    (h : find disk folder = .ok found) (hfolder : folder.text.isEmpty = false) {p : Path}
    (hp : p ∈ candidates disk folder) : ∃ loc, disk.locate p = some loc := by
  have hsimple : ∀ name ∈ Error.registryNames, Path.Simple name := by decide
  unfold find at h
  cases hfound : (Error.registryNames.map (folder / ·)).find? disk.holds with
  | none =>
    rw [hfound] at h
    cases h
  | some there =>
    obtain ⟨name, hname, rfl⟩ := List.mem_map.1 (List.mem_of_find?_eq_some hfound)
    obtain ⟨other, hother, rfl⟩ := List.mem_map.1 (upTo_subset _ _ hp)
    have hloc : ∃ loc, disk.locate (folder / name) = some loc := by
      have hholds := List.find?_some hfound
      rw [Disk.holds, Bool.or_eq_true] at hholds
      rcases hholds with hfile | hfolder'
      · exact exists_locate_of_isFile hfile
      · exact exists_locate_of_isFolder hfolder'
    rw [locate_child disk hfolder (hsimple name hname)] at hloc
    rw [locate_child disk hfolder (hsimple other hother)]
    cases hbase : disk.locate folder with
    | none => simp [hbase] at hloc
    | some loc =>
      cases hat : disk.isFolderAt loc with
      | false => simp [hbase, hat] at hloc
      | true => simp [hat]

end Registry

namespace Run

variable {args : Arguments} {s : Site}

/-! ### Runs -/

/-- Where a run looks for its registry. -/
def siteProbes (args : Arguments) (disk : Disk) : List Path :=
  match args.config with
  | some file => [(workingFolder args disk).join file]
  | none => Registry.candidates disk (workingFolder args disk)

/-- Where a run asks whether a registry is there. -/
def siteAsked (args : Arguments) (disk : Disk) : List Path :=
  match args.config with
  | some _ => []
  | none => Registry.candidates disk (workingFolder args disk)

/-- Where a run looks while it plans a generator. -/
def generatorProbes (s : Site) (disk : Disk) (id : String) : List Path :=
  match s.registry.generator id with
  | .ok config => Generator.probes disk id config s.working
  | .error _ => []

/-- What a run asks for while it plans a generator. -/
def generatorAsked (s : Site) (disk : Disk) (id : String) : List Path :=
  match s.registry.generator id with
  | .ok config => Generator.asked disk config s.working
  | .error _ => []

/-- The generators that a run plans. -/
def covered (s : Site) (args : Arguments) : List String :=
  (if args.validateAll then s.registry.generators.keys else []) ++
    match args.selection? with
    | some selection => ((s.registry.select selection).toOption).getD []
    | none => []

/-- All paths at which a run looks at the disk before it writes. -/
def probes (args : Arguments) (disk : Disk) : List Path :=
  siteProbes args disk ++
    match site args disk with
    | .ok s => (covered s args).flatMap (generatorProbes s disk)
    | .error _ => []

/-- All that a run asks for before it writes, and goes on without: candidates for the registry and
    optional files. -/
def asked (args : Arguments) (disk : Disk) : List Path :=
  siteAsked args disk ++
    match site args disk with
    | .ok s => (covered s args).flatMap (generatorAsked s disk)
    | .error _ => []

theorem generatorProbes_eq {id : String} {config : GeneratorConfig}
    (h : s.registry.generator id = .ok config) :
    generatorProbes s disk id = Generator.probes disk id config s.working := by
  simp [generatorProbes, h]

theorem generatorAsked_eq {id : String} {config : GeneratorConfig}
    (h : s.registry.generator id = .ok config) :
    generatorAsked s disk id = Generator.asked disk config s.working := by
  simp [generatorAsked, h]

theorem probes_eq (h : site args disk = .ok s) : probes args disk =
    siteProbes args disk ++ (covered s args).flatMap (generatorProbes s disk) := by
  simp [probes, h]

theorem asked_eq (h : site args disk = .ok s) : asked args disk =
    siteAsked args disk ++ (covered s args).flatMap (generatorAsked s disk) := by
  simp [asked, h]

theorem workingFolder_congr (h : disk'.current = disk.current) (args : Arguments) :
    workingFolder args disk' = workingFolder args disk := by
  unfold workingFolder Disk.currentPath
  rw [h]

theorem site_congr (hcurrent : disk'.current = disk.current)
    (h : ∀ p ∈ siteProbes args disk, Sees p disk disk')
    (hstill : StillMissing (siteAsked args disk) disk disk') :
    site args disk' = site args disk := by
  unfold siteProbes at h
  unfold siteAsked at hstill
  unfold site
  rw [workingFolder_congr hcurrent]
  cases hconfig : args.config with
  | some file =>
    rw [hconfig] at h
    dsimp only
    rw [Registry.load_congr (h _ (List.mem_singleton_self _))]
  | none =>
    rw [hconfig] at h hstill
    dsimp only
    rw [Registry.find_congr h hstill]

theorem stillMissing_of_site (hcurrent : disk'.current = disk.current)
    (h : ∀ p ∈ siteProbes args disk, Sees p disk disk') (hsite : site args disk' = .ok s) :
    StillMissing (siteAsked args disk) disk disk' := by
  unfold siteProbes at h
  unfold siteAsked
  unfold site at hsite
  rw [workingFolder_congr hcurrent] at hsite
  cases hconfig : args.config with
  | some file => exact fun p hp => absurd hp List.not_mem_nil
  | none =>
    rw [hconfig] at h hsite
    obtain ⟨found, hfound, -⟩ := bind_eq_ok.1 hsite
    exact Registry.stillMissing_of_find h hfound

section PlanOf

variable {id : String} {ops : List Operation} (hplan : planOf s disk id = .ok ops)
  (h : ∀ p ∈ generatorProbes s disk id, Sees p disk disk')

include hplan h

theorem planOf_congr (hstill : StillMissing (generatorAsked s disk id) disk disk') :
    planOf s disk' id = .ok ops := by
  obtain ⟨config, hconfig, hplan⟩ := bind_eq_ok.1 hplan
  rw [generatorProbes_eq hconfig] at h
  rw [generatorAsked_eq hconfig] at hstill
  exact bind_eq_ok.2 ⟨config, hconfig, Generator.plan_congr hplan h hstill⟩

theorem stillMissing_of_planOf {ops' : List Operation} (hplan' : planOf s disk' id = .ok ops') :
    StillMissing (generatorAsked s disk id) disk disk' := by
  obtain ⟨config, hconfig, hplan⟩ := bind_eq_ok.1 hplan
  obtain ⟨config', hconfig', hplan'⟩ := bind_eq_ok.1 hplan'
  obtain rfl := Except.ok.inj (hconfig.symm.trans hconfig')
  rw [generatorProbes_eq hconfig] at h
  rw [generatorAsked_eq hconfig]
  exact Generator.stillMissing_of_plan hplan h hplan'

end PlanOf

section Prepare

variable {announce : String → String} {selection : Selection} {ids : List String}

theorem planAll_congr (h : ∀ id ∈ ids, planOf s disk' id = planOf s disk id) :
    planAll s disk' announce ids = planAll s disk announce ids := by
  induction ids with
  | nil => rfl
  | cons id rest ih =>
    rw [planAll, planAll, h id List.mem_cons_self,
      ih fun other hother => h other (List.mem_cons_of_mem _ hother)]

theorem planSelected_congr
    (h : ∀ id ∈ ((s.registry.select selection).toOption).getD [],
      planOf s disk' id = planOf s disk id) :
    planSelected s disk' announce selection = planSelected s disk announce selection := by
  unfold planSelected
  cases hids : s.registry.select selection with
  | error e => rfl
  | ok ids =>
    have hids' : ∀ id ∈ ids, planOf s disk' id = planOf s disk id := by
      rw [hids] at h
      exact h
    dsimp only
    rw [planAll_congr hids']

/-- What a run prepares depends on the plans of the covered generators. -/
theorem prepare_congr (h : ∀ id ∈ covered s args, planOf s disk' id = planOf s disk id) :
    prepare s args disk' = prepare s args disk := by
  unfold covered at h
  rw [List.forall_mem_append] at h
  have hvalidation : validation s args disk' = validation s args disk := by
    unfold validation
    split
    · next hvalidate =>
      rw [hvalidate, if_pos rfl] at h
      have hall : ∀ id ∈ ((s.registry.select .all).toOption).getD [],
          planOf s disk' id = planOf s disk id := h.1
      rw [planSelected_congr hall]
    · rfl
  have hselected : selected s args disk' = selected s args disk := by
    unfold selected
    cases hselection : args.selection? with
    | none => rfl
    | some selection =>
      rw [hselection] at h
      dsimp only
      rw [planSelected_congr h.2]
  unfold prepare
  rw [hvalidation, hselected]

theorem exists_planOf_of_planAll {opss : List (List Operation)}
    (h : (planAll s disk announce ids).result = .ok opss) {id : String} (hid : id ∈ ids) :
    ∃ ops, planOf s disk id = .ok ops := by
  induction ids generalizing opss with
  | nil => cases hid
  | cons first rest ih =>
    rw [planAll] at h
    cases hfirst : planOf s disk first with
    | error e =>
      rw [hfirst] at h
      cases h
    | ok ops =>
      rw [hfirst] at h
      obtain ⟨more, hmore, -⟩ := map_eq_ok.1 h
      rcases List.mem_cons.1 hid with rfl | hid
      · exact ⟨ops, hfirst⟩
      · exact ih hmore hid

/-- A run that gets through its preparation has a plan for each covered generator. -/
theorem exists_planOf_of_covered {prepared : Preparation}
    (h : (prepare s args disk).result = .ok prepared) {id : String} (hid : id ∈ covered s args) :
    ∃ ops, planOf s disk id = .ok ops := by
  obtain ⟨hvalidated, hselected⟩ := prepare_eq_ok h
  have hplans : ∀ {announce selection ids ops},
      (planSelected s disk announce selection).result = .ok (ids, ops) →
      id ∈ ((s.registry.select selection).toOption).getD [] →
      ∃ ops, planOf s disk id = .ok ops := by
    intro announce selection ids ops hplan hid
    obtain ⟨hids, opss, hopss, -⟩ := planSelected_eq_ok hplan
    rw [hids] at hid
    exact exists_planOf_of_planAll hopss hid
  unfold covered at hid
  rcases List.mem_append.1 hid with hid | hid
  · unfold validation at hvalidated
    split at hid
    · next hvalidate =>
      rw [if_pos hvalidate] at hvalidated
      obtain ⟨⟨ids, ops⟩, hplan, -⟩ := map_eq_ok.1 hvalidated
      exact hplans hplan hid
    · cases hid
  · unfold selected at hselected
    cases hselection : args.selection? with
    | none =>
      rw [hselection] at hid
      cases hid
    | some selection =>
      rw [hselection] at hid hselected
      obtain ⟨⟨ids, ops⟩, hplan, -⟩ := map_eq_ok.1 hselected
      exact hplans hplan hid

end Prepare

/-- All that a run has looked at can be reached, if it gets through its preparation. -/
theorem locate_of_mem_probes {prepared : Preparation} (hsite : site args disk = .ok s)
    (hplan : (prepare s args disk).result = .ok prepared) {p : Path}
    (hp : p ∈ probes args disk) : ∃ loc, disk.locate p = some loc := by
  rw [probes_eq hsite] at hp
  rcases List.mem_append.1 hp with hp | hp
  · unfold siteProbes at hp
    unfold site at hsite
    have hfolder := Path.text_isEmpty_of_isAbsolute (isAbsolute_workingFolder args disk)
    cases hconfig : args.config with
    | some file =>
      rw [hconfig] at hp hsite
      obtain ⟨registry, hregistry, -⟩ := bind_eq_ok.1 hsite
      rw [List.mem_singleton.1 hp]
      exact exists_locate_of_isFile (Registry.isFile_of_load hregistry)
    | none =>
      rw [hconfig] at hp hsite
      obtain ⟨found, hfound, -⟩ := bind_eq_ok.1 hsite
      exact Registry.locate_of_mem_candidates hfound hfolder hp
  · obtain ⟨id, hid, hp⟩ := List.mem_flatMap.1 hp
    obtain ⟨ops, hops⟩ := exists_planOf_of_covered hplan hid
    obtain ⟨config, hconfig, hops⟩ := bind_eq_ok.1 hops
    rw [generatorProbes_eq hconfig] at hp
    exact Generator.locate_of_mem_probes hops hp

/-- Whatever a run asks for is one of its probes, or has a place in a folder that is one. -/
theorem exists_probe_of_mem_asked {prepared : Preparation} (hsite : site args disk = .ok s)
    (hplan : (prepare s args disk).result = .ok prepared) {q : Path} (hq : q ∈ asked args disk) :
    ∃ p ∈ probes args disk, q = p ∨
      disk.isFolder p = true ∧ ∃ name, Path.Simple name ∧ q = p / name := by
  rw [asked_eq hsite] at hq
  rw [probes_eq hsite]
  rcases List.mem_append.1 hq with hq | hq
  · refine ⟨q, List.mem_append_left _ ?_, Or.inl rfl⟩
    unfold siteAsked at hq
    unfold siteProbes
    cases hconfig : args.config with
    | some file =>
      rw [hconfig] at hq
      cases hq
    | none =>
      rw [hconfig] at hq
      exact hq
  · obtain ⟨id, hid, hq⟩ := List.mem_flatMap.1 hq
    obtain ⟨ops, hops⟩ := exists_planOf_of_covered hplan hid
    obtain ⟨config, hconfig, hops⟩ := bind_eq_ok.1 hops
    rw [generatorAsked_eq hconfig] at hq
    obtain ⟨hmem, hfolder⟩ := Generator.configs_mem_probes hops
    refine ⟨_, List.mem_append_right _ (List.mem_flatMap.2 ⟨id, hid, ?_⟩),
      Or.inr ⟨hfolder, Bundle.exists_child_of_mem_optionals q hq⟩⟩
    rw [generatorProbes_eq hconfig]
    exact hmem

section Again

variable {prepared : Preparation} (hsite : site args disk = .ok s)
  (hplan : (prepare s args disk).result = .ok prepared) (hcurrent : disk'.current = disk.current)
  (h : ∀ p ∈ probes args disk, Sees p disk disk')

include hsite hplan hcurrent h

/-- A disk on which all that a run has read reads the same, and nothing is there that was missing,
    leads to the same plan. -/
theorem plan_congr (hstill : StillMissing (asked args disk) disk disk') :
    site args disk' = .ok s ∧ prepare s args disk' = prepare s args disk := by
  rw [probes_eq hsite, List.forall_mem_append] at h
  rw [asked_eq hsite, StillMissing, List.forall_mem_append] at hstill
  refine ⟨(site_congr hcurrent h.1 hstill.1).trans hsite, prepare_congr fun id hid => ?_⟩
  obtain ⟨ops, hops⟩ := exists_planOf_of_covered hplan hid
  rw [hops]
  refine planOf_congr hops (fun p hp => ?_) fun p hp => ?_
  · exact h.2 p (List.mem_flatMap.2 ⟨id, hid, hp⟩)
  · exact hstill.2 p (List.mem_flatMap.2 ⟨id, hid, hp⟩)

/-- If a run still gets through its preparation there, nothing is there that was missing. -/
theorem stillMissing_of_prepare {prepared' : Preparation} (hsite' : site args disk' = .ok s)
    (hplan' : (prepare s args disk').result = .ok prepared') :
    StillMissing (asked args disk) disk disk' := by
  rw [probes_eq hsite, List.forall_mem_append] at h
  rw [asked_eq hsite, StillMissing, List.forall_mem_append]
  refine ⟨stillMissing_of_site hcurrent h.1 hsite', fun p hp => ?_⟩
  obtain ⟨id, hid, hp⟩ := List.mem_flatMap.1 hp
  obtain ⟨ops, hops⟩ := exists_planOf_of_covered hplan hid
  obtain ⟨ops', hops'⟩ := exists_planOf_of_covered hplan' hid
  refine stillMissing_of_planOf hops (fun q hq => ?_) hops' p hp
  exact h.2 q (List.mem_flatMap.2 ⟨id, hid, hq⟩)

end Again

end Run

end CodeStencil
