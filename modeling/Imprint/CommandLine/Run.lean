import Imprint.CommandLine.Filter
import Imprint.CommandLine.Options

/-!
# Running the command line

A run reads the arguments, works through the batch, and leaves a status, two
outputs, and the files.
-/

namespace Imprint

namespace CommandLine

/-- What a run finds around it: the directories that are searched for programs, and
a specification of what to report, which counts more than the verbosity where it
can be read. -/
structure Environment where
  searchPath : Text := Program.defaultSearchPath
  reports : Option Text := none

/-- What a run leaves besides files. -/
structure Verdict where
  code : Nat
  out : Text := []
  err : Text := []
deriving DecidableEq

/-- A cause in a list of causes: its lines stand behind a number, if there are
several causes, and line up. -/
def causeText (number? : Option Nat) (cause : Text) : Text :=
  let lead := match number? with
    | some n => List.replicate (5 - (Radix.decimal.numeral n).length) ' ' ++
        Radix.decimal.numeral n ++ ": ".toList
    | none => "    ".toList
  let indent := List.replicate (if number?.isSome then 7 else 4) ' '
  lead ++ List.intercalate ('\n' :: indent) (cutAt '\n' cause)

/-- The report of a failure: what failed, and the causes, outermost first. -/
def failureReport (outputDir : Path) (failure : Failure) : Text :=
  let causes := failure.chain
  let listed :=
    if causes.length = 1 then
      causes.map (causeText none)
    else
      causes.zipIdx.map fun c => causeText (some c.2) c.1
  "Error: Failed to generate models into ".toList ++ outputDir.display ++
    "\n\nCaused by:\n".toList ++ List.intercalate ['\n'] listed ++ ['\n']

def reportLines (f : Filter) (events : List Event) : Text :=
  (events.filter f.admits).flatMap fun e => e.line ++ ['\n']

def usage : Text :=
  "Usage: riscv2ucl [OPTIONS] [FILES]...\n".toList

def helpText : Text :=
  ("Generate UCLID5 verification modules from riscv-tests binaries\n\n".toList ++ usage ++
    "\nArguments:\n".toList ++
    "  [FILES]...  Test binaries to translate (default: scan --input-dir)\n".toList ++
    "\nOptions:\n".toList ++
    "  -i, --input-dir <INPUT_DIR>    Directory holding the compiled tests [default: riscv-tests]\n".toList ++
    "  -o, --output-dir <OUTPUT_DIR>  Directory the generated modules are written to [default: autogen-riscv-tests]\n".toList ++
    "  -p, --prefix <PREFIX>          Only binaries whose name starts with this prefix [default: rv32ui-p-]\n".toList ++
    "      --objdump <OBJDUMP>        Disassembler to run [default: riscv64-unknown-elf-objdump]\n".toList ++
    "  -k, --keep-going               Keep going after a binary fails\n".toList ++
    "  -v, --verbose...               Verbose output (repeat for more)\n".toList ++
    "  -h, --help                     Print help\n".toList ++
    "  -V, --version                  Print version\n".toList)

def runOptions (env : Environment) (options : Options) (store : Store) : Verdict × Store :=
  let filter := (env.reports.bind Filter.ofSpecification?).getD
    (Filter.ofVerbosity options.verbosity)
  let d := Disassembler.ofProgram env.searchPath options.program
  match Batch.run d options.batch { store := store } with
  | (.ok summary, p) =>
      let events := p.events ++ [.finished summary.written.length options.batch.outputDir]
      ({ code := 0, err := reportLines filter events }, p.store)
  | (.error failure, p) =>
      ({ code := 1
         err := reportLines filter p.events ++ failureReport options.batch.outputDir failure },
        p.store)

def run (env : Environment) (arguments : List Text) (store : Store) : Verdict × Store :=
  match requestOf arguments with
  | .run options => runOptions env options store
  | .version => ({ code := 0, out := generatorName ++ ['\n'] }, store)
  | .help => ({ code := 0, out := helpText }, store)
  | .misuse =>
      ({ code := 2, err := "error: the arguments are not understood\n\n".toList ++ usage }, store)

end CommandLine

end Imprint
