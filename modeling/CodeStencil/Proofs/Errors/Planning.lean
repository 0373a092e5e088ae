/-
  CodeStencil/Proofs/Errors/Planning.lean
  =======================================
  **Errors while a generator is planned** — nothing below a generator names a generator, so an error
  of a plan names the generator that was planned, around a cause that names none
  (`Generator.plan_eq_error`).
-/
import CodeStencil.Generator
import CodeStencil.Proofs.Errors.Writing
import CodeStencil.Proofs.Planning.Targets

namespace CodeStencil

/-- The error names no generator. -/
def Error.IsPlain (e : Error) : Prop := ∀ id cause, e ≠ .generator id cause

theorem Error.isPlain_of_isIo {e : Error} (h : e.IsIo) : e.IsPlain := by
  rw [h]
  exact nofun

theorem Error.inGenerator_of_isPlain {e : Error} (h : e.IsPlain) (id : String) :
    e.inGenerator id = .generator id e := by
  cases e with
  | generator inner cause => exact absurd rfl (h inner cause)
  | _ => rfl

theorem Disk.plain_readText (d : Disk) (p : Path) : Raises Error.IsPlain (d.readText p) :=
  (d.raises_readText p).mono fun _ => Error.isPlain_of_isIo

theorem plain_config {α : Type} (problem : ConfigProblem) :
    Raises Error.IsPlain (.error (.config problem) : Except Error α) := .error nofun

/-! ### Configuration -/

namespace Bundle

theorem plain_validateAll {α : Type} {validate : α → Except Error Unit}
    (h : ∀ a, Raises Error.IsPlain (validate a)) (as : List α) :
    Raises Error.IsPlain (validateAll validate as) := by
  induction as with
  | nil => exact .ok ()
  | cons a rest ih => exact (h a).bind fun _ _ => ih

theorem plain_validate (b : Bundle) : Raises Error.IsPlain b.validate := by
  refine (plain_validateAll (fun t => ?_) _).bind fun _ _ =>
    (plain_validateAll (fun f => ?_) _).bind fun _ _ => plain_validateAll (fun s => ?_) _
  · unfold AggregateTemplate.validate
    split
    · exact plain_config _
    · exact .ok ()
  · unfold OutputFile.validate
    split
    · exact plain_config _
    · exact .ok ()
  · unfold RecordSchema.validate
    split
    · exact plain_config _
    · exact .ok ()

section Files

variable {α : Type} (disk : Disk) (f : Json.Decoder α) (p : Path)

theorem plain_loadJson : Raises Error.IsPlain (loadJson disk f p) := by
  unfold loadJson
  split
  · exact (disk.plain_readText p).bind fun _ _ => .mapError fun _ => nofun
  · exact .error nofun

theorem plain_loadOptional : Raises Error.IsPlain (loadOptional disk f p) := by
  unfold loadOptional
  split
  · exact (plain_loadJson disk f p).map
  · exact .ok none

end Files

theorem plain_load (disk : Disk) (folder : Path) : Raises Error.IsPlain (load disk folder) := by
  refine (plain_loadJson _ _ _).bind fun _ _ => (plain_loadJson _ _ _).bind fun _ _ => ?_
  refine (plain_loadOptional _ _ _).bind fun _ _ => (plain_loadOptional _ _ _).bind fun found _ => ?_
  -- both files for list templates lead to the same rest
  cases found
  case' some templates => refine Raises.bind (.pure _) fun _ _ => ?_
  case' none => refine (plain_loadOptional _ _ _).bind fun _ _ => ?_
  all_goals
    refine (plain_loadOptional _ _ _).bind fun _ _ => (plain_loadOptional _ _ _).bind fun _ _ => ?_
    refine (plain_loadOptional _ _ _).bind fun _ _ => ?_
    exact (plain_validate _).bind fun _ _ => .pure _

end Bundle

/-! ### Templates -/

namespace TemplateStore

theorem plain_read (s : TemplateStore) (disk : Disk) (name : String) :
    Raises Error.IsPlain (s.read disk name) := by
  refine Raises.bind ?_ fun text _ => ?_
  · unfold readText
    split
    · exact (disk.plain_readText _).map
    · exact .error nofun
  · unfold Template.parse
    split
    · exact .ok _
    · exact .error nofun

theorem plain_preload (disk : Disk) (s : TemplateStore) (names : List String) :
    Raises Error.IsPlain (preload disk s names).2 := by
  induction names generalizing s with
  | nil => exact .ok ()
  | cons name rest ih =>
    have hadd : Raises Error.IsPlain (s.add disk name) := by
      unfold add
      split
      · exact .ok s
      · exact (s.plain_read disk name).map
    rw [preload]
    cases h : s.add disk name with
    | error e => exact .error (hadd e h)
    | ok s' => exact ih s'

theorem plain_load (disk : Disk) (folder : Path) (names : List String) :
    Raises Error.IsPlain (load disk folder names) :=
  (plain_preload disk (ofFolder folder) names).map

theorem plain_get (s : TemplateStore) (name : String) : Raises Error.IsPlain (s.get name) := by
  unfold get
  split
  · exact .ok _
  · exact .error nofun

end TemplateStore

namespace Template

theorem plain_render (t : Template) (d : Dictionary) : Raises Error.IsPlain (t.render d) := by
  refine Raises.map (.mapM fun segment _ => ?_)
  cases segment with
  | literal text => exact .ok _
  | placeholder name =>
    rw [Segment.render]
    split
    · exact .ok _
    · exact .error nofun

theorem plain_renderText (text : String) (d : Dictionary) :
    Raises Error.IsPlain (renderText text d) := by
  refine Raises.bind ?_ fun t _ => t.plain_render d
  unfold parse
  split
  · exact .ok _
  · exact .error nofun

end Template

/-! ### Descriptions -/

namespace Description

variable (disk : Disk) (schema : Option Schema)

theorem plain_readValid (p : Path) : Raises Error.IsPlain (readValid disk schema p) := by
  refine Raises.bind ?_ fun d _ => Raises.bind ?_ fun _ _ => .pure d
  · refine Raises.bind ?_ fun stem _ => (disk.plain_readText p).bind fun text _ => ?_
    · unfold Path.stem
      split
      · exact .ok _
      · exact .error nofun
    · exact Raises.bind (.mapError fun _ => nofun) fun _ _ => .pure _
  · unfold validate
    split
    · exact .ok ()
    · exact .ok ()
    · exact .error nofun

theorem plain_load (folder : Path) : Raises Error.IsPlain (load disk folder schema) := by
  unfold load
  split
  · refine Raises.bind ?_ fun paths _ => .mapM fun p _ => plain_readValid disk schema p
    unfold Disk.listFiles
    split
    · split
      · exact .ok _
      · exact .error nofun
    · exact .error nofun
  · exact plain_config _

theorem plain_decode {α : Type} (d : Description) (f : Json.Decoder α) :
    Raises Error.IsPlain (d.decode f) := .mapError fun _ => nofun

end Description

theorem RecordSchema.plain_entity (s : RecordSchema) (d : Description) :
    Raises Error.IsPlain (s.entity d) := by
  unfold entity
  split
  · refine Raises.bind (.foldlM (fun progress declared _ => ?_) _) fun _ _ => .pure _
    unfold step
    dsimp only
    split
    · exact .ok progress
    · split
      · split
        · exact .ok progress
        · exact .error nofun
      · exact Raises.bind (.mapError fun _ => nofun) fun _ _ => .pure _
  · exact .error nofun

/-! ### Literals -/

theorem Literal.plain_intern (texts : List String) : Raises Error.IsPlain (intern texts) := by
  have hcheck : ∀ table, Raises Error.IsPlain (checkCollisions table) := by
    intro table
    induction table with
    | nil => exact .ok ()
    | cons a rest ih =>
      cases rest with
      | nil => exact .ok ()
      | cons b more =>
        unfold checkCollisions
        split
        · exact .error nofun
        · exact ih
  exact (hcheck _).bind fun _ _ => .pure _

theorem Literals.plain_gather (disk : Disk) (root : Path) (capture : String → List String)
    (e : Exclusion) : Raises Error.IsPlain (gather disk root capture e) := by
  unfold gather
  split
  · exact .error nofun
  · split
    · exact .ok _
    · exact .error nofun

/-! ### Plans -/

theorem AggregateTemplate.plain_accepts (t : AggregateTemplate) (owner : String)
    (flags : List String) (d : Dictionary) : Raises Error.IsPlain (t.accepts owner flags d) := by
  unfold accepts
  split
  · split
    · exact plain_config _
    · split
      · exact .error nofun
      · exact .pure _
  · exact .pure _

namespace Aggregate

theorem plain_accepted (t : AggregateTemplate) (items : List Item) :
    Raises Error.IsPlain (accepted t items) := by
  induction items with
  | nil => exact .ok []
  | cons item rest ih =>
    rw [accepted]
    exact (t.plain_accepts _ _ _).bind fun _ _ => ih.bind fun _ _ => .pure _

/-- Rendering many times raises what rendering once can raise. -/
theorem raises_renderAll {P : Error → Prop} {template : Template}
    (h : ∀ d, Raises P (template.render d)) (delimiters : Delimiters) (ds : List Dictionary) :
    Raises P (renderAll template delimiters ds) := by
  induction ds with
  | nil => exact .ok ""
  | cons d rest ih =>
    rcases rest with _ | ⟨next, more⟩
    · exact h _
    · rw [renderAll]
      · exact (h _).bind fun _ _ => ih.bind fun _ _ => .pure _
      · exact List.cons_ne_nil next more

end Aggregate

namespace Plan.Context

variable (c : Context)

theorem plain_aggregate (t : AggregateTemplate) (items : List Aggregate.Item) :
    Raises Error.IsPlain (c.aggregate t items) := by
  refine (c.store.plain_get t.name).bind fun template _ => ?_
  refine (Aggregate.plain_accepted t items).bind fun ds _ => ?_
  exact (Aggregate.raises_renderAll template.plain_render _ ds).bind fun _ _ => .pure _

theorem plain_renderFile (f : OutputFile) (d : Dictionary) :
    Raises Error.IsPlain (c.renderFile f d) := by
  refine (c.store.plain_get f.template).bind fun template _ => ?_
  refine (template.plain_render d).bind fun content _ => ?_
  refine (Template.plain_renderText f.nameTemplate d).bind fun name _ => ?_
  split
  · exact plain_config _
  · exact .pure _

theorem plain_entryFiles (e : Entity) (d : Dictionary) (f : OutputFile) :
    Raises Error.IsPlain (c.entryFiles e d f) := by
  unfold entryFiles
  cases f.mode with
  | perDescription =>
    dsimp only
    split
    · exact (c.plain_renderFile f d).map
    · exact .ok []
  | perAttribute => exact .mapM fun x _ => c.plain_renderFile f _
  | list => exact .ok []
  | attributeList => exact .ok []

theorem plain_aggregateDictionary (templates : List AggregateTemplate)
    (items : List Aggregate.Item) :
    Raises Error.IsPlain (c.aggregateDictionary templates items) :=
  .foldlM (fun _ t _ => (c.plain_aggregate t items).bind fun _ _ => .pure _) ∅

theorem plain_sharedFiles (mode : OutputFile.Mode) {dictionary : Except Error Dictionary}
    (h : Raises Error.IsPlain dictionary) : Raises Error.IsPlain (c.sharedFiles mode dictionary) := by
  unfold sharedFiles
  split
  · exact .ok []
  · exact h.bind fun d _ => .mapM fun f _ => c.plain_renderFile f d

theorem plain_plan (es : List Entity) : Raises Error.IsPlain (c.plan es) := by
  refine Raises.bind (.mapM fun e _ => ?_) fun ds _ => ?_
  · refine Raises.bind (.foldlM (fun d t _ => ?_) _) fun _ _ => .pure _
    exact (c.plain_aggregate t _).bind fun _ _ => .pure _
  · refine Raises.bind (.mapM fun e _ => ?_) fun own _ => ?_
    · exact Raises.map (.mapM fun f _ => c.plain_entryFiles e.1 e.2 f)
    · refine (c.plain_sharedFiles _ (c.plain_aggregateDictionary _ _)).bind fun _ _ => ?_
      exact (c.plain_sharedFiles _ (c.plain_aggregateDictionary _ _)).bind fun _ _ => .pure _

end Plan.Context

/-! ### Generators -/

namespace Generator

variable (disk : Disk) (g : Generator)

theorem plain_load (id : String) (config : GeneratorConfig) (working : Path) :
    Raises Error.IsPlain (load disk id config working) := by
  unfold load
  dsimp only
  split
  · exact plain_config _
  · refine (Bundle.plain_load disk _).bind fun bundle _ => Raises.bind ?_ fun schema _ => ?_
    · cases bundle.descriptionSchema with
      | none => exact .ok none
      | some v =>
        refine Raises.map ?_
        unfold compileSchema
        split
        · exact .ok _
        · exact plain_config _
    · exact (TemplateStore.plain_load disk _ _).bind fun _ _ => .pure _

theorem plain_descriptions : Raises Error.IsPlain (g.descriptions disk) := by
  unfold descriptions
  split
  · exact Description.plain_load disk g.schema _
  · exact plain_config _

theorem plain_literalEntities : Raises Error.IsPlain (g.literalEntities disk) := by
  unfold literalEntities
  dsimp only
  split
  · exact plain_config _
  · refine Raises.bind ?_ fun pattern _ => ?_
    · unfold Literals.compile
      split
      · exact .ok _
      · exact .error nofun
    · split
      · exact plain_config _
      · refine Raises.bind ?_ fun exclusion _ => ?_
        · unfold Exclusion.build
          split
          · exact .ok _
          · exact .error nofun
        · refine (Literals.plain_gather disk _ _ exclusion).bind fun literals _ => ?_
          exact (Literal.plain_intern literals).bind fun _ _ => .pure _

theorem plain_entities : Raises Error.IsPlain (g.entities disk) := by
  have hdescriptions := g.plain_descriptions disk
  unfold entities
  cases g.config.kind with
  | components =>
    exact hdescriptions.bind fun ds _ => .mapM fun d _ =>
      (d.plain_decode _).bind fun _ _ => .pure _
  | enums =>
    exact hdescriptions.bind fun ds _ => .mapM fun d _ =>
      (d.plain_decode _).bind fun _ _ => .pure _
  | stringIds => exact g.plain_literalEntities disk
  | schema =>
    dsimp only
    unfold recordEntities
    split
    · exact hdescriptions.bind fun ds _ => .mapM fun d _ => RecordSchema.plain_entity _ d
    · exact .error nofun

variable {disk}

/-- If a generator cannot be planned, then the error names it, around a cause that names none. -/
theorem plan_eq_error {id : String} {config : GeneratorConfig} {working : Path} {e : Error}
    (h : plan disk id config working = .error e) :
    ∃ cause, e = .generator id cause ∧ cause.IsPlain := by
  have hplain : Raises Error.IsPlain
      (do (← load disk id config working).operations disk) :=
    (plain_load disk id config working).bind fun g _ =>
      (g.plain_entities disk).bind fun es _ => Plan.Context.plain_plan _ es
  unfold plan at h
  cases hcause : (do (← load disk id config working).operations disk) with
  | ok ops =>
    rw [hcause] at h
    cases h
  | error cause =>
    rw [hcause] at h
    have hcause' := hplain cause hcause
    refine ⟨cause, ?_, hcause'⟩
    rw [← Error.inGenerator_of_isPlain hcause']
    exact (Except.error.inj h).symm

end Generator

end CodeStencil
