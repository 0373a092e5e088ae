/-
  CodeStencil/CommandLine.lean
  ============================
  **The program** — from the words of a command line to what is printed and to the exit code.
-/
import CodeStencil.Run

namespace CodeStencil.CommandLine

/-- The exit code of a run that succeeded, and of asking for help. -/
def success : UInt8 := 0

/-- The exit code of a run that failed, and of asking for nothing. -/
def failure : UInt8 := 1

/-- The exit code for arguments that cannot be understood. -/
def usage : UInt8 := 2

/-- The exit code when no run is made. -/
def refusalCode : Arguments.Refusal → UInt8
  | .help | .version => success
  | .missing => failure
  | .conflict | .unknown | .invalidValue | .needlessValue => usage

/-- Lines of text, each with its line feed. -/
def unlines (lines : List String) : String := String.join (lines.map (· ++ "\n"))

def help : String :=
  unlines [
    "Fills code templates from descriptions.",
    "",
    "Usage: [OPTIONS] <--validate-all|--generator <NAME>|--group <NAME>>",
    "",
    "      --validate-all       Plan every registered generator and write nothing",
    "      --generator <NAME>   Run one generator",
    "      --group <NAME>       Run the generators of a group in their order",
    "  -q, --quiet              Print nothing about what is done",
    "      --dry-run            Show what would be written and write nothing",
    "      --caches-dir <DIR>   Folder of the record of generated files",
    "      --working-dir <DIR>  Folder that paths are relative to",
    "      --config <FILE>      Registry of generators and groups",
    "  -v, --verbose            Log more; may be repeated",
    "  -h, --help               Print this help",
    "  -V, --version            Print the version"]

def version : String := unlines ["0.1.0"]

/-- What is printed when no run is made. -/
def refusalText : Arguments.Refusal → String
  | .help => help
  | .version => version
  | .missing => unlines ["There is nothing to do.", ""] ++ help
  | .conflict => unlines ["Arguments exclude each other or are repeated."]
  | .unknown => unlines ["An argument is unknown."]
  | .invalidValue => unlines ["A value is missing or invalid."]
  | .needlessValue => unlines ["A switch has a value."]

/-- What a run leaves behind: the disk, the output, the error output and the exit code. -/
structure Finish where
  disk : Disk
  out : String
  err : String
  code : UInt8

/-- Makes the run that was asked for. A failure whose wording is up to others is only named. -/
def finish (args : Arguments) (disk : Disk) : Finish :=
  let done := run args disk
  match done.result with
  | .ok _ => ⟨done.disk, unlines done.lines, "", success⟩
  | .error e =>
    ⟨done.disk, unlines done.lines, e.message?.getD "The run failed." ++ "\n", failure⟩

end CodeStencil.CommandLine
