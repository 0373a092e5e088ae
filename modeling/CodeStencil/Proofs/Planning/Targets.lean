/-
  CodeStencil/Proofs/Planning/Targets.lean
  ========================================
  **Where planned files go** — a planned file goes below the output folder unless its rendered name
  starts at the root (`renderFile_eq_ok`). So all targets start at the root if the working folder
  does (`isAbsolute_mem_plan`).
-/
import CodeStencil.Proofs.Files.Resolution
import CodeStencil.Proofs.Planning.Composition
import CodeStencil.Generator

namespace CodeStencil

namespace Plan.Context

variable {c : Context} {op : Operation} {f : OutputFile} {d : Dictionary}

/-- A file is named by its rendered name template, which is not empty. -/
theorem renderFile_eq_ok (h : c.renderFile f d = .ok op) :
    ∃ name, Template.renderText f.nameTemplate d = .ok name ∧ name ≠ "" ∧
      op.target = (c.output / f.folder) / name := by
  obtain ⟨template, -, h⟩ := bind_eq_ok.1 h
  obtain ⟨content, -, h⟩ := bind_eq_ok.1 h
  obtain ⟨name, hname, h⟩ := bind_eq_ok.1 h
  split at h
  · cases h
  · next hne =>
    cases h
    exact ⟨name, hname, by simpa using hne, rfl⟩

theorem isAbsolute_renderFile (h : c.renderFile f d = .ok op)
    (houtput : c.output.isAbsolute = true) : op.target.isAbsolute = true := by
  obtain ⟨name, -, -, htarget⟩ := renderFile_eq_ok h
  rw [htarget]
  exact Path.isAbsolute_join (Path.isAbsolute_join houtput ⟨f.folder⟩) ⟨name⟩

end Plan.Context

namespace Generator

/-! ### Generators -/

variable {disk : Disk} {id : String} {config : GeneratorConfig} {working : Path} {g : Generator}
  {ops : List Operation}

/-- All steps of loading a generator. -/
theorem load_eq_ok :
    load disk id config working = .ok g ↔
      disk.isFolder (config.resolve working).configs = true ∧
      Bundle.load disk (config.resolve working).configs = .ok g.bundle ∧
      g.bundle.descriptionSchema.mapM compileSchema = .ok g.schema ∧
      TemplateStore.load disk (config.resolve working).templates g.bundle.templateNames =
        .ok g.store ∧
      g.id = id ∧ g.config = config ∧ g.paths = config.resolve working := by
  unfold load
  dsimp only
  constructor
  · intro h
    split at h
    · cases h
    · next hfolder =>
      obtain ⟨bundle, hbundle, h⟩ := bind_eq_ok.1 h
      obtain ⟨schema, hschema, h⟩ := bind_eq_ok.1 h
      obtain ⟨store, hstore, h⟩ := bind_eq_ok.1 h
      cases h
      exact ⟨by simpa using hfolder, hbundle, hschema, hstore, rfl, rfl, rfl⟩
  · rintro ⟨hfolder, hbundle, hschema, hstore, rfl, rfl, hpaths⟩
    rw [if_neg (by simpa using hfolder)]
    refine bind_eq_ok.2 ⟨_, hbundle, bind_eq_ok.2 ⟨_, hschema, bind_eq_ok.2 ⟨_, hstore, ?_⟩⟩⟩
    rw [← hpaths]
    rfl

/-- All steps of planning a generator. -/
theorem plan_eq_ok :
    plan disk id config working = .ok ops ↔
      ∃ g es, load disk id config working = .ok g ∧ entities disk g = .ok es ∧
        Plan.Context.plan ⟨g.bundle, g.store, g.paths.output⟩ es = .ok ops := by
  unfold plan
  constructor
  · intro h
    cases hplan : (do (← load disk id config working).operations disk) with
    | error e =>
      rw [hplan] at h
      cases h
    | ok ops' =>
      rw [hplan] at h
      obtain rfl : ops' = ops := Except.ok.inj h
      obtain ⟨g, hg, hops⟩ := bind_eq_ok.1 hplan
      obtain ⟨es, hes, hops⟩ := bind_eq_ok.1 hops
      exact ⟨g, es, hg, hes, hops⟩
  · rintro ⟨g, es, hg, hes, hops⟩
    have hplan : (do (← load disk id config working).operations disk) = .ok ops :=
      bind_eq_ok.2 ⟨g, hg, bind_eq_ok.2 ⟨es, hes, hops⟩⟩
    rw [hplan]
    rfl

/-- All targets of a generator lie below its working folder or start at the root. -/
theorem isAbsolute_mem_plan (h : plan disk id config working = .ok ops)
    (hworking : working.isAbsolute = true) {op : Operation} (hop : op ∈ ops) :
    op.target.isAbsolute = true := by
  obtain ⟨g, es, hg, -, hops⟩ := plan_eq_ok.1 h
  obtain ⟨-, -, -, -, -, -, hpaths⟩ := load_eq_ok.1 hg
  obtain ⟨f, d, -, hrender⟩ := Plan.Context.exists_job hops hop
  refine Plan.Context.isAbsolute_renderFile hrender ?_
  rw [hpaths]
  exact Path.isAbsolute_join hworking config.output

end Generator

end CodeStencil
