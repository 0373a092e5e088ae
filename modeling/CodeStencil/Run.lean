/-
  CodeStencil/Run.lean
  ====================
  **Runs** — all selected generators are planned, then all files are written, then files that are no
  longer produced are removed and the record is brought up to date.
-/
import CodeStencil.Arguments
import CodeStencil.Emission
import CodeStencil.Generator
import CodeStencil.GenerationRecord

namespace CodeStencil

structure Report where
  validated : List String
  generated : List Path
  unchanged : List Path
  removed : List Path
  deriving DecidableEq, Repr

namespace Run

/-- Lines about what is being done, and the result. -/
structure Traced (α : Type) where
  lines : List String
  result : Except Error α

/-! ### Planning -/

/-- Where a run takes place: its working folder, the registry, and the file of the registry. -/
structure Site where
  working : Path
  registry : Registry
  registryFile : Path

/-- The working folder as seen from where the program runs. -/
def workingFolder (args : Arguments) (disk : Disk) : Path :=
  match args.working with
  | some folder => disk.currentPath.join folder
  | none => disk.currentPath

/-- Finds the registry: the one that is named, or that of the working folder. -/
def site (args : Arguments) (disk : Disk) : Except Error Site := do
  let working := workingFolder args disk
  match args.config with
  | some file => return ⟨working, ← Registry.load disk (working.join file), working.join file⟩
  | none =>
    let (registry, file) ← Registry.find disk working
    return ⟨working, registry, file⟩

def planOf (s : Site) (disk : Disk) (id : String) : Except Error (List Operation) := do
  Generator.plan disk id (← s.registry.generator id) s.working

/-- The plans of generators, up to the first one that fails. A line announces each. -/
def planAll (s : Site) (disk : Disk) (announce : String → String) :
    List String → Traced (List (List Operation))
  | [] => ⟨[], .ok []⟩
  | id :: rest =>
    match planOf s disk id with
    | .error e => ⟨[announce id], .error e⟩
    | .ok ops =>
      let more := planAll s disk announce rest
      ⟨announce id :: more.lines, more.result.map (ops :: ·)⟩

/-- The plans of all generators that a selection covers. -/
def planSelected (s : Site) (disk : Disk) (announce : String → String) (selection : Selection) :
    Traced (List String × List Operation) :=
  match s.registry.select selection with
  | .error e => ⟨[], .error e⟩
  | .ok ids =>
    let plans := planAll s disk announce ids
    ⟨plans.lines, plans.result.map fun ops => (ids, ops.flatten)⟩

/-- What a run is going to do: the validated generators, and the files to write if there is anything
    to run. -/
structure Preparation where
  validated : List String
  operations : Option (List Operation)

/-- Plans every registered generator, if that is asked for. -/
def validation (s : Site) (args : Arguments) (disk : Disk) : Traced (List String) :=
  if args.validateAll then
    let plans := planSelected s disk ("Validating generator: " ++ ·) .all
    ⟨plans.lines, plans.result.map Prod.fst⟩
  else ⟨[], .ok []⟩

/-- Plans the selected generators, if there are any. -/
def selected (s : Site) (args : Arguments) (disk : Disk) : Traced (Option (List Operation)) :=
  match args.selection? with
  | some selection =>
    let plans := planSelected s disk ("Running generator: " ++ ·) selection
    ⟨plans.lines, plans.result.map fun p => some p.2⟩
  | none => ⟨[], .ok none⟩

/-- All that a run does before it changes a file. -/
def prepare (s : Site) (args : Arguments) (disk : Disk) : Traced Preparation :=
  let validated := validation s args disk
  match validated.result with
  | .error e => ⟨validated.lines, .error e⟩
  | .ok ids =>
    let ops := selected s args disk
    ⟨validated.lines ++ ops.lines, ops.result.map fun ops => ⟨ids, ops⟩⟩

/-! ### Writing -/

/-- The disk after some steps, with lines about them and the result. -/
structure Done (α : Type) where
  disk : Disk
  lines : List String
  result : Except Error α

/-- The lines about a written file; a file that was there already is passed over in silence. -/
def outcomeLines (op : Operation) : Outcome → List String
  | .unchanged => []
  | outcome => [op.message outcome]

/-- Writes the files in order, up to the first one that cannot be written. -/
def emitAll (dryRun : Bool) : List Operation → Disk → Done (List (Path × Outcome))
  | [], disk => ⟨disk, [], .ok []⟩
  | op :: rest, disk =>
    match (op.emit dryRun).run.run disk with
    | (.error e, disk) => ⟨disk, [], .error e⟩
    | (.ok outcome, disk) =>
      let more := emitAll dryRun rest disk
      ⟨more.disk, outcomeLines op outcome ++ more.lines,
        more.result.map ((op.target, outcome) :: ·)⟩

def targetsWith (outcome : Outcome) (emitted : List (Path × Outcome)) : List Path :=
  (emitted.filter fun e => e.2 = outcome).map Prod.fst

/-- The folder of the record: the one that is named, or one beside the registry. -/
def cachesFolder (s : Site) (args : Arguments) : Path :=
  match args.caches with
  | some folder => s.working.join folder
  | none =>
    match s.registryFile.parent? with
    | some folder => folder / "caches"
    | none => ⟨"caches"⟩

/-- Writes the files, and then removes what is no longer produced. A dry run does neither. -/
def execute (s : Site) (args : Arguments) (validated : List String) (ops : List Operation)
    (disk : Disk) : Done Report :=
  let emitted := emitAll args.dryRun ops disk
  match emitted.result with
  | .error e => ⟨emitted.disk, emitted.lines, .error e⟩
  | .ok outcomes =>
    let report : Report := {
      validated
      generated := targetsWith .written outcomes
      unchanged := targetsWith .unchanged outcomes
      removed := [] }
    if args.dryRun then ⟨emitted.disk, emitted.lines, .ok report⟩
    else
      let record := GenerationRecord.ofList (ops.map (·.target))
      let file := GenerationRecord.pathIn (cachesFolder s args)
      match (GenerationRecord.reconcile file record).run.run emitted.disk with
      | (.error e, disk) => ⟨disk, emitted.lines, .error e⟩
      | (.ok removed, disk) =>
        ⟨disk, emitted.lines ++ removed.map (fun p => "Removed file: " ++ p.text),
          .ok { report with removed }⟩

def runAt (s : Site) (args : Arguments) (disk : Disk) : Done Report :=
  let prepared := prepare s args disk
  match prepared.result with
  | .error e => ⟨disk, prepared.lines, .error e⟩
  | .ok ⟨validated, none⟩ => ⟨disk, prepared.lines, .ok ⟨validated, [], [], []⟩⟩
  | .ok ⟨validated, some ops⟩ =>
    let done := execute s args validated ops disk
    { done with lines := prepared.lines ++ done.lines }

end Run

/-- Makes a run. A quiet one has no lines about what it does. -/
def run (args : Arguments) (disk : Disk) : Run.Done Report :=
  match Run.site args disk with
  | .error e => ⟨disk, [], .error e⟩
  | .ok s =>
    let done := Run.runAt s args disk
    if args.quiet then { done with lines := [] } else done

end CodeStencil
