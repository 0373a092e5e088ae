/-
  CodeStencil/Proofs/Planning/Composition.lean
  ============================================
  **Plans are put together** — what a plan holds for an entity is rendered from the jobs of that
  entity (`entityJobs`) and depends on it alone. These parts stand one after the other, so the plans
  of two lists of entities make up the plan of both, except for the files that are for all entities
  (`plan_append`). Every operation of a plan is rendered for one of its jobs (`exists_job`).
-/
import CodeStencil.Plan
import CodeStencil.Proofs.Lists.Results

namespace CodeStencil

namespace Plan.Context

variable {c : Context} {es xs ys : List Entity} {ops : List Operation}

/-! ### Entities -/

/-- The files that an entry asks for with an entity, each with what it is rendered with: one for the
    entity if its flags pass, or one for each element whose flags pass. -/
def entryJobs (e : Entity) (d : Dictionary) (f : OutputFile) : List (OutputFile × Dictionary) :=
  match f.mode with
  | .perDescription => if f.filter.passes e.flags then [(f, d)] else []
  | .perAttribute =>
    (e.elements.filter fun x => f.filter.passes x.flags).map fun x =>
      (f, Table.layered [d, x.dictionary])
  | .list | .attributeList => []

/-- The files for an entity, entry by entry. -/
def entityJobs (c : Context) (e : Entity) (d : Dictionary) : List (OutputFile × Dictionary) :=
  c.bundle.files.flatMap (entryJobs e d)

def renderJob (c : Context) (job : OutputFile × Dictionary) : Except Error Operation :=
  c.renderFile job.1 job.2

theorem entryFiles_eq (e : Entity) (d : Dictionary) (f : OutputFile) :
    c.entryFiles e d f = (entryJobs e d f).mapM c.renderJob := by
  unfold entryFiles entryJobs
  cases f.mode with
  | perDescription =>
    dsimp only
    split
    · rw [List.mapM_cons, List.mapM_nil]
      change _ = (c.renderFile f d).bind fun op => Except.ok [op]
      cases c.renderFile f d <;> rfl
    · rfl
  | perAttribute =>
    dsimp only
    rw [List.mapM_map]
    rfl
  | list => rfl
  | attributeList => rfl

theorem entityFiles_eq (e : Entity) (d : Dictionary) :
    c.entityFiles (e, d) = (c.entityJobs e d).mapM c.renderJob := by
  have hentry : c.entryFiles e d = fun f => (entryJobs e d f).mapM c.renderJob :=
    funext (entryFiles_eq e d)
  unfold entityFiles entityJobs
  rw [mapM_flatMap, hentry]

/-- What a plan holds for an entity. Nothing else that is planned has a say in it. -/
def entityPart (c : Context) (e : Entity) : Except Error (List Operation) := do
  c.entityFiles (e, ← c.fullDictionary e)

theorem entityPart_eq_ok {e : Entity} : c.entityPart e = .ok ops ↔
    ∃ d, c.fullDictionary e = .ok d ∧
      List.Forall₂ (fun job op => c.renderJob job = .ok op) (c.entityJobs e d) ops := by
  unfold entityPart
  rw [bind_eq_ok]
  simp only [entityFiles_eq, mapM_eq_ok]

/-- First all dictionaries are made, then all files. If both succeed, so does one entity after the
    other, and the other way around. -/
theorem parts_eq_ok {parts : List (List Operation)} :
    (∃ ds, c.dictionaries es = .ok ds ∧ ds.mapM c.entityFiles = .ok parts) ↔
      es.mapM c.entityPart = .ok parts := by
  have hpart : c.entityPart = fun e =>
      (do return (e, ← c.fullDictionary e) : Except Error (Entity × Dictionary)) >>=
        c.entityFiles := by
    funext e
    unfold entityPart
    cases c.fullDictionary e <;> rfl
  rw [hpart]
  exact exists_mapM_mapM

/-! ### Files for all entities -/

/-- Each entry gives one file. All of them are rendered with the same placeholders. -/
theorem sharedFiles_eq_ok {mode : OutputFile.Mode} {dictionary : Except Error Dictionary} :
    c.sharedFiles mode dictionary = .ok ops ↔
      List.Forall₂ (fun f op => ∃ d, dictionary = .ok d ∧ c.renderFile f d = .ok op)
        (c.bundle.filesOf mode) ops := by
  unfold sharedFiles
  cases c.bundle.filesOf mode with
  | nil =>
    rw [List.forall₂_nil_left_iff]
    exact ⟨fun h => (Except.ok.inj h).symm, fun h => congrArg Except.ok h.symm⟩
  | cons f rest =>
    dsimp only
    rw [bind_eq_ok]
    simp only [mapM_eq_ok]
    constructor
    · rintro ⟨d, hd, hops⟩
      exact hops.imp fun f op hop => ⟨d, hd, hop⟩
    · intro h
      cases h with
      | cons hfirst hrest =>
        obtain ⟨d, hd, hop⟩ := hfirst
        refine ⟨d, hd, .cons hop (hrest.imp ?_)⟩
        rintro f op ⟨d', hd', hop⟩
        rw [hd] at hd'
        rw [Except.ok.inj hd']
        exact hop

theorem plan_eq_ok : c.plan es = .ok ops ↔
    ∃ ds parts lists attributeLists, c.dictionaries es = .ok ds ∧
      ds.mapM c.entityFiles = .ok parts ∧
      c.sharedFiles .list (c.listDictionary ds) = .ok lists ∧
      c.sharedFiles .attributeList (c.attributeListDictionary ds) = .ok attributeLists ∧
      ops = parts.flatten ++ lists ++ attributeLists := by
  unfold plan
  constructor
  · intro h
    obtain ⟨ds, hds, h⟩ := bind_eq_ok.1 h
    obtain ⟨parts, hparts, h⟩ := bind_eq_ok.1 h
    obtain ⟨lists, hlists, h⟩ := bind_eq_ok.1 h
    obtain ⟨attributeLists, hattributeLists, h⟩ := bind_eq_ok.1 h
    exact ⟨ds, parts, lists, attributeLists, hds, hparts, hlists, hattributeLists,
      (Except.ok.inj h).symm⟩
  · rintro ⟨ds, parts, lists, attributeLists, hds, hparts, hlists, hattributeLists, rfl⟩
    exact bind_eq_ok.2 ⟨ds, hds, bind_eq_ok.2 ⟨parts, hparts, bind_eq_ok.2 ⟨lists, hlists,
      bind_eq_ok.2 ⟨attributeLists, hattributeLists, rfl⟩⟩⟩⟩

/-! ### Jobs of a plan -/

section Jobs

variable {op : Operation} {f : OutputFile} {d : Dictionary}

/-- What is rendered for entities: the jobs of each entity, and the entries for all entities with
    the placeholders that they share. -/
inductive Job (c : Context) (es : List Entity) : OutputFile → Dictionary → Prop where
  | own {e : Entity} {d d' : Dictionary} {f : OutputFile} (he : e ∈ es)
      (hd : c.fullDictionary e = .ok d) (hjob : (f, d') ∈ c.entityJobs e d) : Job c es f d'
  | list {ds : List (Entity × Dictionary)} {d : Dictionary} {f : OutputFile}
      (hds : c.dictionaries es = .ok ds) (hd : c.listDictionary ds = .ok d)
      (hf : f ∈ c.bundle.filesOf .list) : Job c es f d
  | attributeList {ds : List (Entity × Dictionary)} {d : Dictionary} {f : OutputFile}
      (hds : c.dictionaries es = .ok ds) (hd : c.attributeListDictionary ds = .ok d)
      (hf : f ∈ c.bundle.filesOf .attributeList) : Job c es f d

theorem eq_of_mem_entryJobs {e : Entity} {d d' : Dictionary} {f f' : OutputFile}
    (h : (f', d') ∈ entryJobs e d f) : f' = f := by
  unfold entryJobs at h
  cases hmode : f.mode with
  | perDescription =>
    rw [hmode] at h
    simp only [List.mem_ite_nil_right, List.mem_singleton, Prod.mk.injEq] at h
    exact h.2.1
  | perAttribute =>
    rw [hmode] at h
    obtain ⟨x, -, hx⟩ := List.mem_map.1 h
    exact (congrArg Prod.fst hx).symm
  | list =>
    rw [hmode] at h
    cases h
  | attributeList =>
    rw [hmode] at h
    cases h

theorem Job.mem_files (h : c.Job es f d) : f ∈ c.bundle.files := by
  cases h with
  | own he hd hjob =>
    obtain ⟨f', hf', hjob⟩ := List.mem_flatMap.1 hjob
    rw [eq_of_mem_entryJobs hjob]
    exact hf'
  | list hds hd hf => exact List.mem_of_mem_filter hf
  | attributeList hds hd hf => exact List.mem_of_mem_filter hf

theorem exists_of_mem_sharedFiles {mode : OutputFile.Mode} {dictionary : Except Error Dictionary}
    (h : c.sharedFiles mode dictionary = .ok ops) (hop : op ∈ ops) :
    ∃ f ∈ c.bundle.filesOf mode, ∃ d, dictionary = .ok d ∧ c.renderFile f d = .ok op := by
  unfold sharedFiles at h
  split at h
  · cases h
    cases hop
  · obtain ⟨d, hd, h⟩ := bind_eq_ok.1 h
    obtain ⟨f, hf, hrender⟩ := exists_of_mem_mapM h hop
    exact ⟨f, hf, d, hd, hrender⟩

/-- Each operation of a plan is rendered for a job. -/
theorem exists_job (h : c.plan es = .ok ops) (hop : op ∈ ops) :
    ∃ f d, c.Job es f d ∧ c.renderFile f d = .ok op := by
  obtain ⟨ds, parts, lists, attributeLists, hds, hparts, hlists, hattributeLists, rfl⟩ :=
    plan_eq_ok.1 h
  rcases List.mem_append.1 hop with hop | hop
  · rcases List.mem_append.1 hop with hop | hop
    · obtain ⟨part, hpart, hop⟩ := List.mem_flatten.1 hop
      obtain ⟨e, he, hentity⟩ := exists_of_mem_mapM (parts_eq_ok.1 ⟨ds, hds, hparts⟩) hpart
      obtain ⟨d, hd, hentity⟩ := bind_eq_ok.1 hentity
      rw [entityFiles_eq] at hentity
      obtain ⟨job, hjob, hrender⟩ := exists_of_mem_mapM hentity hop
      exact ⟨job.1, job.2, .own he hd hjob, hrender⟩
    · obtain ⟨f, hf, d, hd, hrender⟩ := exists_of_mem_sharedFiles hlists hop
      exact ⟨f, d, .list hds hd hf, hrender⟩
  · obtain ⟨f, hf, d, hd, hrender⟩ := exists_of_mem_sharedFiles hattributeLists hop
    exact ⟨f, d, .attributeList hds hd hf, hrender⟩

end Jobs

/-! ### Parts of plans -/

/-- What stands in a plan before the files for all entities. -/
def ownOf (c : Context) (ops : List Operation) : List Operation :=
  ops.take (ops.length -
    ((c.bundle.filesOf .list).length + (c.bundle.filesOf .attributeList).length))

theorem ownOf_plan {parts : List (List Operation)} (h : c.plan es = .ok ops)
    (hparts : es.mapM c.entityPart = .ok parts) : c.ownOf ops = parts.flatten := by
  obtain ⟨ds, parts', lists, attributeLists, hds, hparts', hlists, hattributeLists, rfl⟩ :=
    plan_eq_ok.1 h
  have hsame : parts' = parts :=
    Except.ok.inj ((parts_eq_ok.1 ⟨ds, hds, hparts'⟩).symm.trans hparts)
  have hlength := (sharedFiles_eq_ok.1 hlists).length_eq
  have hlength' := (sharedFiles_eq_ok.1 hattributeLists).length_eq
  unfold ownOf
  rw [hsame, hlength, hlength', List.append_assoc]
  apply List.take_left'
  rw [List.length_append, List.length_append]
  omega

theorem exists_parts (h : c.plan es = .ok ops) :
    ∃ parts, es.mapM c.entityPart = .ok parts ∧ c.ownOf ops = parts.flatten := by
  obtain ⟨ds, parts, -, -, hds, hparts, -⟩ := plan_eq_ok.1 h
  have hparts := parts_eq_ok.1 ⟨ds, hds, hparts⟩
  exact ⟨parts, hparts, ownOf_plan h hparts⟩

/-- Without files for all entities, a plan succeeds if the part of each entity does. -/
theorem exists_plan_iff (hlist : c.bundle.filesOf .list = [])
    (hattributeList : c.bundle.filesOf .attributeList = []) :
    (∃ ops, c.plan es = .ok ops) ↔ ∃ parts, es.mapM c.entityPart = .ok parts := by
  constructor
  · rintro ⟨ops, h⟩
    obtain ⟨parts, hparts, -⟩ := exists_parts h
    exact ⟨parts, hparts⟩
  · rintro ⟨parts, hparts⟩
    obtain ⟨ds, hds, hparts⟩ := parts_eq_ok.2 hparts
    refine ⟨_, plan_eq_ok.2 ⟨ds, parts, [], [], hds, hparts, ?_, ?_, rfl⟩⟩
    · rw [sharedFiles_eq_ok, hlist]
      exact .nil
    · rw [sharedFiles_eq_ok, hattributeList]
      exact .nil

/-! ### Two entities -/

namespace Sample

/-- A file for each entity that is not hidden, and one for each part that is not thin. -/
def ownFiles : List OutputFile :=
  [⟨"whole", "", "\x7bname\x7d", [], ⟨none, some ["hidden"]⟩⟩,
    ⟨"whole", "", "\x7bname\x7d-\x7bpart\x7d", [.perAttribute], ⟨none, some ["thin"]⟩⟩]

def nameFile : OutputFile := ⟨"all", "", "all", [.list], .none⟩

def context (files : List OutputFile) : Context where
  bundle := ⟨∅, [], [.named "names"], files, ∅, none, none⟩
  store := ⟨⟨"/t"⟩, .ofList [
    ("whole", ⟨"whole", [.placeholder "name"]⟩),
    ("names", ⟨"names", [.placeholder "name", .literal [';']]⟩),
    ("all", ⟨"all", [.placeholder "names"]⟩)]⟩
  output := ⟨"/out"⟩

/-- The names of all entities are listed in a file. -/
def listed : Context := context (nameFile :: ownFiles)

def unlisted : Context := context ownFiles

def part (name : String) (flags : List String) : Element :=
  ⟨name, flags, .ofList [("part", .text name)]⟩

def entity (name : String) (flags : List String) (parts : List Element) : Entity :=
  ⟨name, flags, .ofList [("name", .text name)], parts⟩

def apple : Entity := entity "apple" [] [part "core" [], part "peel" ["thin"]]

def plum : Entity := entity "plum" ["hidden"] [part "stone" []]

end Sample

/-- A plan holds the files of each entity, which depend on that entity alone, and then one file for
    each entry that is for all entities. So the files of `xs` and those of `ys` make up the files of
    both; and if there are no others then both can be planned together if each can be planned. -/
theorem plan_append (c : Context) (xs ys : List Entity) :
    (∀ es ops, c.plan es = .ok ops → ∃ ds parts lists attributeLists,
      c.dictionaries es = .ok ds ∧ ops = parts.flatten ++ lists ++ attributeLists ∧
      c.ownOf ops = parts.flatten ∧
      List.Forall₂ (fun e part => c.entityPart e = .ok part ∧ ∃ d, c.fullDictionary e = .ok d ∧
        List.Forall₂ (fun job op => c.renderJob job = .ok op) (c.entityJobs e d) part) es parts ∧
      List.Forall₂ (fun f op => ∃ d, c.listDictionary ds = .ok d ∧ c.renderFile f d = .ok op)
        (c.bundle.filesOf .list) lists ∧
      List.Forall₂
        (fun f op => ∃ d, c.attributeListDictionary ds = .ok d ∧ c.renderFile f d = .ok op)
        (c.bundle.filesOf .attributeList) attributeLists) ∧
    (∀ p q r, c.plan xs = .ok p → c.plan ys = .ok q → c.plan (xs ++ ys) = .ok r →
      c.ownOf r = c.ownOf p ++ c.ownOf q) ∧
    (c.bundle.filesOf .list = [] → c.bundle.filesOf .attributeList = [] →
      ((∃ r, c.plan (xs ++ ys) = .ok r) ↔
        (∃ p, c.plan xs = .ok p) ∧ ∃ q, c.plan ys = .ok q)) := by
  refine ⟨?_, ?_, ?_⟩
  · intro es ops h
    obtain ⟨ds, parts, lists, attributeLists, hds, hparts, hlists, hattributeLists, hops⟩ :=
      plan_eq_ok.1 h
    have hparts := parts_eq_ok.1 ⟨ds, hds, hparts⟩
    refine ⟨ds, parts, lists, attributeLists, hds, hops, ownOf_plan h hparts, ?_,
      sharedFiles_eq_ok.1 hlists, sharedFiles_eq_ok.1 hattributeLists⟩
    exact (mapM_eq_ok.1 hparts).imp fun e part hpart => ⟨hpart, entityPart_eq_ok.1 hpart⟩
  · intro p q r hp hq hr
    obtain ⟨ps, hps, hown⟩ := exists_parts hp
    obtain ⟨qs, hqs, hown'⟩ := exists_parts hq
    have hboth : (xs ++ ys).mapM c.entityPart = .ok (ps ++ qs) :=
      mapM_append_eq_ok.2 ⟨ps, qs, hps, hqs, rfl⟩
    rw [ownOf_plan hr hboth, hown, hown', List.flatten_append]
  · intro hlist hattributeList
    simp only [exists_plan_iff hlist hattributeList]
    constructor
    · rintro ⟨rs, hrs⟩
      obtain ⟨ps, qs, hps, hqs, -⟩ := mapM_append_eq_ok.1 hrs
      exact ⟨⟨ps, hps⟩, qs, hqs⟩
    · rintro ⟨⟨ps, hps⟩, qs, hqs⟩
      exact ⟨ps ++ qs, mapM_append_eq_ok.2 ⟨ps, qs, hps, hqs, rfl⟩⟩

open Sample

/-- Planned together, the two entities keep their files: the plum is hidden and has no file of its
    own, and the peel of the apple is thin. The names are planned last, for both. -/
theorem plan_apple_and_plum :
    (∃ p q r, listed.plan [apple] = .ok p ∧ listed.plan [plum] = .ok q ∧
      listed.plan [apple, plum] = .ok r ∧ listed.ownOf r = listed.ownOf p ++ listed.ownOf q ∧
      r.map (·.target.text) = ["/out/apple", "/out/apple-core", "/out/plum-stone", "/out/all"] ∧
      ∃ parts : List (List Operation), parts.length = 2 ∧ listed.ownOf r = parts.flatten) ∧
    ∃ r, unlisted.plan [apple, plum] = .ok r := by
  obtain ⟨hparts, happend, -⟩ := plan_append listed [apple] [plum]
  obtain ⟨-, -, halone⟩ := plan_append unlisted [apple] [plum]
  obtain ⟨p, hp⟩ := exists_of_isSome (x := listed.plan [apple]) (by decide +kernel)
  obtain ⟨q, hq⟩ := exists_of_isSome (x := listed.plan [plum]) (by decide +kernel)
  obtain ⟨r, hr⟩ := exists_of_isSome (x := listed.plan [apple, plum]) (by decide +kernel)
  have htargets : (listed.plan [apple, plum]).toOption.map (·.map (·.target.text)) =
      some ["/out/apple", "/out/apple-core", "/out/plum-stone", "/out/all"] := by
    decide +kernel
  rw [hr] at htargets
  obtain ⟨ds, parts, lists, attributeLists, -, -, hown, hentities, -⟩ := hparts _ r hr
  refine ⟨⟨p, q, r, hp, hq, hr, happend p q r hp hq hr, Option.some.inj htargets, parts,
    hentities.length_eq.symm, hown⟩, (halone (by decide) (by decide)).2 ⟨?_, ?_⟩⟩
  · exact exists_of_isSome (by decide +kernel)
  · exact exists_of_isSome (by decide +kernel)

end Plan.Context

end CodeStencil
