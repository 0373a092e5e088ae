/-
  CodeStencil/Proofs/Planning/LateErrors.lean
  ===========================================
  **What can still go wrong in planning** — if a configuration is valid and all its templates have
  been read (`Ready`), then a plan ends with an error only for what entities bind or for the names of
  files (`LateError`). No template turns out to be missing, and no test to have no field
  (`lateError_of_plan`).
-/
import CodeStencil.Plan
import CodeStencil.Proofs.Aggregates.Acceptance
import CodeStencil.Proofs.Errors.Planning
import CodeStencil.Proofs.Template.Substitution

namespace CodeStencil

/-! ### What has been checked before -/

namespace TemplateStore

variable {disk : Disk} {s s' : TemplateStore} {name : String} {names : List String}

theorem contains_of_add (h : s.add disk name = .ok s') : s'.templates.contains name = true ∧
    ∀ other, s.templates.contains other = true → s'.templates.contains other = true := by
  unfold add at h
  split at h
  · next hthere =>
    rw [← Except.ok.inj h]
    exact ⟨hthere, fun _ => id⟩
  · obtain ⟨t, -, rfl⟩ := map_eq_ok.1 h
    refine ⟨by simp [Table.contains], ?_⟩
    intro other hother
    by_cases heq : other = name
    · simp [Table.contains, heq]
    · simpa [Table.contains, heq] using hother

/-- After all templates have been read, they are there, and so are those that were there before. -/
theorem contains_of_preload (h : preload disk s names = (s', .ok ())) :
    (∀ name ∈ names, s'.templates.contains name = true) ∧
      ∀ other, s.templates.contains other = true → s'.templates.contains other = true := by
  induction names generalizing s with
  | nil =>
    obtain ⟨rfl, -⟩ := Prod.mk.inj h
    exact ⟨by simp, fun _ => id⟩
  | cons first rest ih =>
    rw [preload] at h
    cases hadd : s.add disk first with
    | error e =>
      rw [hadd] at h
      cases h
    | ok s₁ =>
      rw [hadd] at h
      obtain ⟨hfirst, hkept⟩ := contains_of_add hadd
      obtain ⟨hrest, hlater⟩ := ih h
      refine ⟨List.forall_mem_cons.2 ⟨hlater first hfirst, hrest⟩, ?_⟩
      intro other hother
      exact hlater other (hkept other hother)

theorem exists_get_of_contains (h : s.templates.contains name = true) :
    ∃ t, s.get name = .ok t := by
  obtain ⟨t, ht⟩ := Table.exists_get?_iff.2 h
  exact ⟨t, by rw [get, ht]⟩

end TemplateStore

namespace Bundle

variable {b : Bundle}

theorem validateAll_eq_ok {α : Type} {validate : α → Except Error Unit} {as : List α} :
    validateAll validate as = .ok () ↔ ∀ a ∈ as, validate a = .ok () := by
  induction as with
  | nil => simp [validateAll]
  | cons a rest ih =>
    rw [validateAll, bind_eq_ok, List.forall_mem_cons, ← ih]
    constructor
    · rintro ⟨⟨⟩, ha, hrest⟩
      exact ⟨ha, hrest⟩
    · rintro ⟨ha, hrest⟩
      exact ⟨(), ha, hrest⟩

theorem template_valid (h : b.validate = .ok ()) {t : AggregateTemplate}
    (ht : t ∈ b.attributeTemplates ++ b.listTemplates) : t.validate = .ok () := by
  obtain ⟨⟨⟩, htemplates, -⟩ := bind_eq_ok.1 h
  exact validateAll_eq_ok.1 htemplates t ht

theorem name_mem_templateNames {t : AggregateTemplate}
    (ht : t ∈ b.attributeTemplates ++ b.listTemplates) : t.name ∈ b.templateNames := by
  rw [templateNames, List.mem_eraseDups, List.mem_append]
  exact .inl (List.mem_map_of_mem ht)

theorem template_mem_templateNames {f : OutputFile} (hf : f ∈ b.files) :
    f.template ∈ b.templateNames := by
  rw [templateNames, List.mem_eraseDups, List.mem_append]
  exact .inr (List.mem_map_of_mem hf)

end Bundle

/-! ### Errors of templates and of tests -/

namespace Template

/-- The error is about a placeholder of the template. -/
def Unbound (t : Template) (e : Error) : Prop :=
  ∃ placeholder ∈ t.placeholders, e = .unboundPlaceholder t.name placeholder

theorem raises_render (t : Template) (d : Dictionary) : Raises t.Unbound (t.render d) := by
  intro e he
  obtain ⟨placeholder, hfirst, rfl⟩ := render_eq_error_iff.1 he
  exact ⟨placeholder, List.mem_of_find?_eq_some hfirst, rfl⟩

end Template

namespace Aggregate

variable {t : AggregateTemplate}

/-- The error is about the field that is tested, and names the owner of an item. -/
def Untested (t : AggregateTemplate) (items : List Item) (e : Error) : Prop :=
  ∃ item ∈ items, ∃ field, t.hasParam .notEmpty = true ∧ t.testField = some field ∧
    e = .missingField item.owner field

theorem raises_accepted (ht : t.validate = .ok ()) (items : List Item) :
    Raises (Untested t items) (accepted t items) := by
  induction items with
  | nil => exact .ok []
  | cons item rest ih =>
    rw [accepted_cons]
    refine Raises.bind ?_ fun _ _ => Raises.bind (ih.mono ?_) fun _ _ => .pure _
    · by_cases htest : t.Testable item
      · rw [AggregateTemplate.accepts_eq_ok.2 ⟨htest, rfl⟩]
        exact .ok _
      · obtain ⟨field, hfield, -, herror⟩ := AggregateTemplate.accepts_eq_error ht htest
        obtain ⟨hparam, -⟩ := Classical.not_imp.1 htest
        rw [herror]
        exact .error ⟨item, List.mem_cons_self, field, hparam, hfield, rfl⟩
    · rintro e ⟨other, hother, h⟩
      exact ⟨other, List.mem_cons_of_mem _ hother, h⟩

end Aggregate

namespace Plan.Context

variable {c : Context} {es : List Entity}

/-- The configuration is valid, and all templates that it refers to have been read. -/
structure Ready (c : Context) : Prop where
  valid : c.bundle.validate = .ok ()
  loaded : ∃ disk s, TemplateStore.preload disk s c.bundle.templateNames = (c.store, .ok ())

/-- What can go wrong although everything was read and valid. -/
inductive LateError (c : Context) (es : List Entity) : Error → Prop
  /-- Nothing is bound to a placeholder of a template that the configuration refers to. -/
  | unbound {name : String} {t : Template} {placeholder : String}
      (hname : name ∈ c.bundle.templateNames) (ht : c.store.get name = .ok t)
      (hplaceholder : placeholder ∈ t.placeholders) :
      LateError c es (.unboundPlaceholder t.name placeholder)
  /-- Nothing is bound to a placeholder in the name of a file. -/
  | unboundInName {f : OutputFile} {t : Template} {placeholder : String}
      (hf : f ∈ c.bundle.files) (ht : Template.parse f.nameTemplate f.nameTemplate = .ok t)
      (hplaceholder : placeholder ∈ t.placeholders) :
      LateError c es (.unboundPlaceholder f.nameTemplate placeholder)
  /-- An entity has nothing to test for emptiness. -/
  | untested {e : Entity} {t : AggregateTemplate} {field : String} (he : e ∈ es)
      (ht : t ∈ c.bundle.attributeTemplates ++ c.bundle.listTemplates)
      (hparam : t.hasParam .notEmpty = true) (hfield : t.testField = some field) :
      LateError c es (.missingField e.name field)
  /-- The name of a file is no template. -/
  | malformedName {f : OutputFile} {problem : Template.Problem} (hf : f ∈ c.bundle.files)
      (hread : Template.readSegments f.nameTemplate = .error problem) :
      LateError c es (.malformedTemplate f.nameTemplate problem)
  /-- The name of a file is empty. -/
  | emptyName {f : OutputFile} (hf : f ∈ c.bundle.files) :
      LateError c es (.config (.emptyFileName f.nameTemplate f.template))

theorem Ready.exists_get (hc : c.Ready) {name : String} (hname : name ∈ c.bundle.templateNames) :
    ∃ t, c.store.get name = .ok t := by
  obtain ⟨disk, s, hloaded⟩ := hc.loaded
  exact TemplateStore.exists_get_of_contains
    ((TemplateStore.contains_of_preload hloaded).1 name hname)

/-! ### Errors of the steps -/

/-- The items belong to entities. -/
def Owned (es : List Entity) (items : List Aggregate.Item) : Prop :=
  ∀ item ∈ items, ∃ e ∈ es, item.owner = e.name

theorem raises_aggregate (hc : c.Ready) {t : AggregateTemplate}
    (ht : t ∈ c.bundle.attributeTemplates ++ c.bundle.listTemplates) {items : List Aggregate.Item}
    (hitems : Owned es items) : Raises (c.LateError es) (c.aggregate t items) := by
  have hname := Bundle.name_mem_templateNames ht
  obtain ⟨template, htemplate⟩ := hc.exists_get hname
  rw [aggregate, htemplate]
  change Raises _ (CodeStencil.aggregate template t c.bundle.delimiters items)
  refine Raises.bind ?_ fun ds _ => Raises.bind ?_ fun _ _ => .pure _
  · refine (Aggregate.raises_accepted (Bundle.template_valid hc.valid ht) items).mono ?_
    rintro _ ⟨item, hitem, field, hparam, hfield, rfl⟩
    obtain ⟨e, he, howner⟩ := hitems item hitem
    rw [howner]
    exact .untested he ht hparam hfield
  · refine (Aggregate.raises_renderAll template.raises_render _ ds).mono ?_
    rintro _ ⟨placeholder, hplaceholder, rfl⟩
    exact .unbound hname htemplate hplaceholder

theorem raises_renderFile (hc : c.Ready) {f : OutputFile} (hf : f ∈ c.bundle.files)
    (d : Dictionary) : Raises (c.LateError es) (c.renderFile f d) := by
  have hname := Bundle.template_mem_templateNames hf
  obtain ⟨template, htemplate⟩ := hc.exists_get hname
  rw [renderFile, htemplate]
  refine Raises.bind (x := template.render d) ?_ fun content _ => Raises.bind ?_ fun name _ => ?_
  · refine (template.raises_render d).mono ?_
    rintro _ ⟨placeholder, hplaceholder, rfl⟩
    exact .unbound hname htemplate hplaceholder
  · refine Raises.bind ?_ fun t ht => (t.raises_render d).mono ?_
    · intro e he
      obtain ⟨problem, hproblem, rfl⟩ := Template.parse_eq_error he
      exact .malformedName hf (by rw [Template.readSegments, hproblem]; rfl)
    · rintro _ ⟨placeholder, hplaceholder, rfl⟩
      rw [(Template.parse_eq_ok.1 ht).1]
      exact .unboundInName hf ht hplaceholder
  · split
    · exact .error (.emptyName hf)
    · exact .pure _

theorem raises_aggregateDictionary (hc : c.Ready) {templates : List AggregateTemplate}
    (htemplates : ∀ t ∈ templates, t ∈ c.bundle.attributeTemplates ++ c.bundle.listTemplates)
    {items : List Aggregate.Item} (hitems : Owned es items) :
    Raises (c.LateError es) (c.aggregateDictionary templates items) := by
  refine .foldlM (fun d t ht => ?_) ∅
  exact (raises_aggregate hc (htemplates t ht) hitems).bind fun _ _ => .pure _

theorem raises_fullDictionary (hc : c.Ready) {e : Entity} (he : e ∈ es) :
    Raises (c.LateError es) (c.fullDictionary e) := by
  refine .foldlM (fun d t ht => ?_) e.dictionary
  have hitems : Owned es (elementItems e d) := by
    intro item hitem
    obtain ⟨x, -, rfl⟩ := List.mem_map.1 hitem
    exact ⟨e, he, rfl⟩
  exact (raises_aggregate hc (List.mem_append_left _ ht) hitems).bind fun _ _ => .pure _

theorem raises_entryFiles (hc : c.Ready) {f : OutputFile} (hf : f ∈ c.bundle.files) (e : Entity)
    (d : Dictionary) : Raises (c.LateError es) (c.entryFiles e d f) := by
  unfold entryFiles
  rcases f.mode with _ | _ | _ | _
  · dsimp only
    split
    · exact (raises_renderFile hc hf d).map
    · exact .ok []
  · exact .mapM fun x _ => raises_renderFile hc hf _
  · exact .ok []
  · exact .ok []

theorem raises_sharedFiles (hc : c.Ready) (mode : OutputFile.Mode)
    {dictionary : Except Error Dictionary} (h : Raises (c.LateError es) dictionary) :
    Raises (c.LateError es) (c.sharedFiles mode dictionary) := by
  have hfiles : ∀ f ∈ c.bundle.filesOf mode, f ∈ c.bundle.files :=
    fun f hf => (List.mem_filter.1 hf).1
  unfold sharedFiles
  split
  · exact .ok []
  · exact h.bind fun d _ => .mapM fun f hf => raises_renderFile hc (hfiles f hf) d

/-! ### Plans -/

/-- The entities with dictionaries are those that are planned. -/
theorem mem_of_dictionaries {ds : List (Entity × Dictionary)} (h : c.dictionaries es = .ok ds)
    {e : Entity × Dictionary} (he : e ∈ ds) : e.1 ∈ es := by
  obtain ⟨e', he', hd⟩ := exists_of_mem_mapM h he
  obtain ⟨d, -, hd⟩ := bind_eq_ok.1 hd
  rwa [← Except.ok.inj hd]

theorem raises_plan (hc : c.Ready) (es : List Entity) : Raises (c.LateError es) (c.plan es) := by
  refine Raises.bind (.mapM fun e he => ?_) fun ds hds => ?_
  · exact (raises_fullDictionary hc he).bind fun _ _ => .pure _
  -- whatever is aggregated over all entities belongs to one of them, which is what errors name
  have hlist : Owned es (ds.map fun e => ⟨e.1.name, e.1.flags, [e.2]⟩) := by
    intro item hitem
    obtain ⟨e, he, rfl⟩ := List.mem_map.1 hitem
    exact ⟨e.1, mem_of_dictionaries hds he, rfl⟩
  have hattributeList : Owned es (ds.flatMap fun e => elementItems e.1 e.2) := by
    intro item hitem
    obtain ⟨e, he, hitem⟩ := List.mem_flatMap.1 hitem
    obtain ⟨x, -, rfl⟩ := List.mem_map.1 hitem
    exact ⟨e.1, mem_of_dictionaries hds he, rfl⟩
  refine Raises.bind (.mapM fun e _ => ?_) fun own _ => ?_
  · exact Raises.map (.mapM fun f hf => raises_entryFiles hc hf e.1 e.2)
  · refine (raises_sharedFiles hc .list ?_).bind fun _ _ => ?_
    · exact raises_aggregateDictionary hc (fun t ht => List.mem_append_right _ ht) hlist
    · refine (raises_sharedFiles hc .attributeList ?_).bind fun _ _ => .pure _
      exact raises_aggregateDictionary hc (fun t ht => List.mem_append_left _ ht) hattributeList

/-- Where everything has been read and is valid, a plan fails only for a placeholder that nothing is
    bound to, for an entity without a field to test, or for the name of a file. In particular all
    templates are found and all tests have a field. -/
theorem lateError_of_plan (hc : c.Ready) (es : List Entity) :
    (∀ e, c.plan es = .error e → c.LateError es e) ∧
      (∀ name folder, c.plan es ≠ .error (.templateNotFound name folder)) ∧
      ∀ name, c.plan es ≠ .error (.config (.untestedField name)) := by
  have hraises := raises_plan hc es
  refine ⟨hraises, ?_, ?_⟩
  · intro name folder h
    cases hraises _ h
  · intro name h
    cases hraises _ h

/-! ### All of it can happen -/

namespace Sample

/-- Parts are listed if they have a unit. Each entity has a file with its name, and each part one
    whose name is no template. -/
def late : Context where
  bundle :=
    { delimiters := ∅
      attributeTemplates := [⟨"parts", [.notEmpty], .none, some "unit"⟩]
      listTemplates := []
      files := [⟨"whole", "", "\x7bname\x7d", [], .none⟩,
        ⟨"whole", "", "\x7b", [.perAttribute], .none⟩]
      optionalFields := ∅
      descriptionSchema := none
      recordSchema := none }
  store := (TemplateStore.preload
    ⟨[(["t", "whole.template"], "\x7bname\x7d".toUTF8), (["t", "parts.template"], "\n".toUTF8)],
      [["t"]], []⟩ (.ofFolder ⟨"/t"⟩) ["parts", "whole"]).1
  output := ⟨"/out"⟩

def nameless : Entity := ⟨"nameless", [], ∅, []⟩

def blank : Entity := ⟨"blank", [], .ofList [("name", .text "")], []⟩

/-- An entity with one part. -/
def whole (part : Dictionary) : Entity :=
  ⟨"whole", [], .ofList [("name", .text "whole")], [⟨"part", [], part⟩]⟩

end Sample

open Sample

/-- Nothing is bound to a name, a name is empty, a part has no unit, and a part that has one would
    need a file. -/
theorem late_errors :
    (∃ e, late.LateError [nameless] e ∧ e.message? =
      some "Template 'whole' references placeholder 'name' which is not defined.") ∧
    (∃ e, late.LateError [blank] e ∧ e.message? = some ("Configuration error: name template " ++
      "'\x7bname\x7d' of template 'whole' renders an empty file name.")) ∧
    (∃ e, late.LateError [whole ∅] e ∧ e.message? =
      some "Field 'unit' is required but missing in 'whole'.") ∧
    ∃ e, late.LateError [whole (.ofList [("unit", .text "px")])] e ∧ e.message? =
      some "Template '\x7b' is malformed: unterminated placeholder at byte 0." := by
  have hready : late.Ready := by
    refine ⟨by rfl, ⟨_, _, Prod.ext rfl ?_⟩⟩
    exact eq_ok_of_toOption (by decide +kernel)
  have hlate : ∀ es message, (reason? (late.plan es)).bind Error.message? = some message →
      ∃ e, late.LateError es e ∧ e.message? = some message := by
    intro es message h
    obtain ⟨e, he, hmessage⟩ := Option.bind_eq_some_iff.1 h
    exact ⟨e, (lateError_of_plan hready es).1 e (reason?_eq_some.1 he), hmessage⟩
  refine ⟨?_, ?_, ?_, ?_⟩
  · exact hlate _ _ (by decide +kernel)
  · exact hlate _ _ (by decide +kernel)
  · exact hlate _ _ (by decide +kernel)
  · exact hlate _ _ (by decide +kernel)

end Plan.Context

end CodeStencil
