/-
  CodeStencil/Arguments.lean
  ==========================
  **Command line arguments** — which runs can be asked for, and how.
-/
import CodeStencil.Config.Registry
import CodeStencil.Text.Affix

namespace CodeStencil

structure Arguments where
  validateAll : Bool
  generator : Option String
  group : Option String
  quiet : Bool
  dryRun : Bool
  caches : Option Path
  working : Option Path
  config : Option Path
  verbose : Nat
  deriving DecidableEq, Repr

namespace Arguments

def none : Arguments := ⟨false, .none, .none, false, false, .none, .none, .none, 0⟩

def selection? (a : Arguments) : Option Selection :=
  match a.generator, a.group with
  | some id, _ => some (.generator id)
  | .none, some name => some (.group name)
  | .none, .none => .none

/-- How much is logged. -/
inductive LogLevel where
  | error
  | info
  | debug
  | trace
  deriving DecidableEq, Repr

/-- The level that was asked for by repeating a switch. -/
def logLevel (a : Arguments) : LogLevel :=
  match a.verbose with
  | 0 => .error
  | 1 => .info
  | 2 => .debug
  | _ => .trace

/-! ### Parsing -/

/-- Why no run is made: something is missing, in conflict, unknown or no valid value, a switch has a
    value, or only help or the version is asked for. -/
inductive Refusal where
  | missing
  | conflict
  | unknown
  | invalidValue
  | needlessValue
  | help
  | version
  deriving DecidableEq, Repr

inductive Switch where
  | validateAll
  | quiet
  | dryRun
  | verbose
  | help
  | version
  deriving DecidableEq, Repr

inductive Setting where
  | generator
  | group
  | caches
  | working
  | config
  deriving DecidableEq, Repr

def switches : List (String × Switch) :=
  [("validate-all", .validateAll), ("quiet", .quiet), ("dry-run", .dryRun),
    ("verbose", .verbose), ("help", .help), ("version", .version)]

def letters : List (Char × Switch) :=
  [('q', .quiet), ('v', .verbose), ('h', .help), ('V', .version)]

def settings : List (String × Setting) :=
  [("generator", .generator), ("group", .group), ("caches-dir", .caches),
    ("working-dir", .working), ("config", .config)]

/-- A setting that was named and may have got its value. -/
structure Pending where
  setting : Setting
  value : Option String

/-- What is known while parsing: the arguments taken, the last setting, and whether all that follows
    stands for itself. -/
structure Parsing where
  taken : Arguments
  pending : Option Pending
  closed : Bool

/-- The greatest number of repetitions that is counted. -/
def maxCount : Nat := 255

/-- Takes a switch. Only the one for more output may be repeated. -/
def turnOn (a : Arguments) : Switch → Except Refusal Arguments
  | .validateAll => if a.validateAll then .error .conflict else .ok { a with validateAll := true }
  | .quiet => if a.quiet then .error .conflict else .ok { a with quiet := true }
  | .dryRun => if a.dryRun then .error .conflict else .ok { a with dryRun := true }
  | .verbose => .ok { a with verbose := min maxCount (a.verbose + 1) }
  | .help => .error .help
  | .version => .error .version

/-- A setting that may be given once. -/
def once {α : Type} (old : Option α) (new : Except Refusal α) : Except Refusal (Option α) :=
  if old.isSome then .error .conflict else new.map some

/-- A path, which may not be empty. -/
def pathValue (value : String) : Except Refusal Path :=
  if value.isEmpty then .error .invalidValue else .ok ⟨value⟩

def assign (a : Arguments) (setting : Setting) (value : String) : Except Refusal Arguments := do
  match setting with
  | .generator => return { a with generator := ← once a.generator (.ok value) }
  | .group => return { a with group := ← once a.group (.ok value) }
  | .caches => return { a with caches := ← once a.caches (pathValue value) }
  | .working => return { a with working := ← once a.working (pathValue value) }
  | .config => return { a with config := ← once a.config (pathValue value) }

namespace Parsing

/-- Takes the last setting, which must have got its value. -/
def settle (p : Parsing) : Except Refusal Parsing :=
  match p.pending with
  | .none => .ok p
  | some ⟨_, .none⟩ => .error .invalidValue
  | some ⟨setting, some value⟩ =>
    (assign p.taken setting value).map fun a => { p with taken := a, pending := .none }

/-- Takes a switch after what came before it. -/
def switchOn (p : Parsing) (s : Switch) : Except Refusal Parsing := do
  let p ← p.settle
  return { p with taken := ← turnOn p.taken s }

def takeLetters (p : Parsing) : List Char → Except Refusal Parsing
  | [] => .ok p
  | c :: rest =>
    match letters.lookup c with
    | some s => do takeLetters (← p.switchOn s) rest
    | .none => .error .unknown

/-- Takes a long name, with the value that may be joined to it. -/
def takeName (p : Parsing) (name : String) (value : Option String) : Except Refusal Parsing :=
  match switches.lookup name, settings.lookup name with
  | some s, _ => if value.isSome then .error .needlessValue else p.switchOn s
  | .none, some setting => do
    let p ← p.settle
    match value with
    | some v => return { p with taken := ← assign p.taken setting v }
    | .none => return { p with pending := some ⟨setting, .none⟩ }
  | .none, .none => .error .unknown

/-- A name and the value behind an equals sign. -/
def splitName (cs : List Char) : String × Option String :=
  let name := cs.takeWhile (· != '=')
  match cs.drop name.length with
  | [] => (String.ofList name, .none)
  | _ :: value => (String.ofList name, some (String.ofList value))

/-- Takes a value, for which a setting must be waiting. -/
def takeValue (p : Parsing) (value : String) : Except Refusal Parsing :=
  match p.pending with
  | some ⟨setting, .none⟩ => .ok { p with pending := some ⟨setting, some value⟩ }
  | _ => .error .unknown

def take (p : Parsing) (arg : String) : Except Refusal Parsing :=
  if p.closed then .error .unknown
  else
    match arg.toList with
    | ['-', '-'] => .ok { p with closed := true }
    | '-' :: '-' :: rest =>
      let (name, value) := splitName rest
      p.takeName name value
    | '-' :: c :: rest => p.takeLetters (c :: rest)
    | _ => p.takeValue arg

end Parsing

/-- One generator and one group exclude each other, and there has to be something to do. -/
def check (a : Arguments) : Except Refusal Arguments :=
  if a.generator.isSome && a.group.isSome then .error .conflict
  else if a.validateAll || a.generator.isSome || a.group.isSome then .ok a
  else .error .missing

def parse (args : List String) : Except Refusal Arguments := do
  let p ← args.foldlM Parsing.take ⟨none, .none, false⟩
  check (← p.settle).taken

end Arguments

end CodeStencil
