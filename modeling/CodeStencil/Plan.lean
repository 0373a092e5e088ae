/-
  CodeStencil/Plan.lean
  =====================
  **Plans** — the files that a generator wants, with their content. A plan is made in memory, so
  that a run can be checked before anything is written.

  Files for one entity or one of its elements come first, entity by entity; then come the files for
  all entities.
-/
import CodeStencil.Aggregate
import CodeStencil.Config.Bundle
import CodeStencil.Description.Entity
import CodeStencil.Template.Store

namespace CodeStencil

/-- A file to be written: the template it is made from, where it goes, and its content without the
    line feed at its end. -/
structure Operation where
  template : String
  target : Path
  content : String
  deriving DecidableEq, Repr

namespace Plan

/-- What planning depends on: the configuration, the templates, and the output folder. -/
structure Context where
  bundle : Bundle
  store : TemplateStore
  output : Path

namespace Context

def aggregate (c : Context) (t : AggregateTemplate) (items : List Aggregate.Item) :
    Except Error String := do
  CodeStencil.aggregate (← c.store.get t.name) t c.bundle.delimiters items

/-- The elements of an entity, each with its placeholders over those of the entity. -/
def elementItems (e : Entity) (d : Dictionary) : List Aggregate.Item :=
  e.elements.map fun x => ⟨e.name, x.flags, [d, x.dictionary]⟩

/-- Binds an attribute template to its aggregate over the elements of an entity. -/
def addAggregate (c : Context) (e : Entity) (d : Dictionary) (t : AggregateTemplate) :
    Except Error Dictionary := do
  return d.insert t.name (.text (← c.aggregate t (elementItems e d)))

/-- All placeholders of an entity: its own, and one for each attribute template. Each aggregate is
    seen by the templates after it. -/
def fullDictionary (c : Context) (e : Entity) : Except Error Dictionary :=
  c.bundle.attributeTemplates.foldlM (c.addAggregate e) e.dictionary

def renderFile (c : Context) (f : OutputFile) (d : Dictionary) : Except Error Operation := do
  let content ← (← c.store.get f.template).render d
  let name ← Template.renderText f.nameTemplate d
  if name.isEmpty then throw (.config (.emptyFileName f.nameTemplate f.template))
  else return ⟨f.template, (c.output / f.folder) / name, content⟩

/-- The files that an entry of the output plan asks for with an entity. -/
def entryFiles (c : Context) (e : Entity) (d : Dictionary) (f : OutputFile) :
    Except Error (List Operation) :=
  match f.mode with
  | .perDescription =>
    if f.filter.passes e.flags then (c.renderFile f d).map ([·]) else .ok []
  | .perAttribute =>
    (e.elements.filter fun x => f.filter.passes x.flags).mapM fun x =>
      c.renderFile f (Table.layered [d, x.dictionary])
  | .list | .attributeList => .ok []

def entityFiles (c : Context) (e : Entity × Dictionary) : Except Error (List Operation) :=
  (c.bundle.files.mapM (c.entryFiles e.1 e.2)).map List.flatten

/-- A placeholder for each template, bound to its aggregate over the items. -/
def aggregateDictionary (c : Context) (templates : List AggregateTemplate)
    (items : List Aggregate.Item) : Except Error Dictionary :=
  templates.foldlM (fun d t => do return d.insert t.name (.text (← c.aggregate t items))) ∅

def listDictionary (c : Context) (es : List (Entity × Dictionary)) : Except Error Dictionary :=
  c.aggregateDictionary c.bundle.listTemplates (es.map fun e => ⟨e.1.name, e.1.flags, [e.2]⟩)

/-- The attribute templates over the elements of all entities. -/
def attributeListDictionary (c : Context) (es : List (Entity × Dictionary)) :
    Except Error Dictionary :=
  c.aggregateDictionary c.bundle.attributeTemplates (es.flatMap fun e => elementItems e.1 e.2)

/-- The files of a mode for all entities. Their dictionary is made only if there is such a file. -/
def sharedFiles (c : Context) (mode : OutputFile.Mode) (dictionary : Except Error Dictionary) :
    Except Error (List Operation) :=
  match c.bundle.filesOf mode with
  | [] => .ok []
  | files => do
    let d ← dictionary
    files.mapM fun f => c.renderFile f d

def dictionaries (c : Context) (entities : List Entity) :
    Except Error (List (Entity × Dictionary)) :=
  entities.mapM fun e => do return (e, ← c.fullDictionary e)

def plan (c : Context) (entities : List Entity) : Except Error (List Operation) := do
  let es ← c.dictionaries entities
  let own ← es.mapM c.entityFiles
  let lists ← c.sharedFiles .list (c.listDictionary es)
  let attributeLists ← c.sharedFiles .attributeList (c.attributeListDictionary es)
  return own.flatten ++ lists ++ attributeLists

end Context

end Plan

end CodeStencil
