import Imprint.Generation

/-!
# Batches

A batch makes the models of several binaries: those given, or those found in a
directory.  After a failure it ends, or goes on and fails at the end with a
summary.
-/

namespace Imprint

/-- What a batch works on: a directory and the beginning of the names to look for,
or explicit files; where models go; and whether to go on after a failure. -/
structure Batch where
  inputDir : Path := .ofText "riscv-tests".toList
  outputDir : Path := .ofText "autogen-riscv-tests".toList
  stem : Text := "rv32ui-p-".toList
  files : List Path := []
  keepGoing : Bool := false
deriving DecidableEq

namespace Batch

/-- A name is a candidate when it is text that begins with the stem and has no dot. -/
def isCandidate (stem : Text) (name : Name) : Bool :=
  match Utf8.decode? name with
  | some text => (Text.after? stem text).isSome && !text.contains '.'
  | none => false

/-- The candidates of a directory that lead to no directory themselves, in order. -/
def discover (store : Store) (dir : Path) (stem : Text) : Except Failure (List Path) :=
  match store.list dir with
  | .error cause => .error (.io dir cause)
  | .ok names =>
      let candidates := (names.filter (isCandidate stem)).map dir.child
      .ok ((candidates.filter fun p => !store.isDirectory p).mergeSort Path.le)

def binaries (b : Batch) (store : Store) : Except Failure (List Path) :=
  if b.files = [] then discover store b.inputDir b.stem else .ok b.files

/-- Processes binaries in order and adds to the summary.  The first failure ends it
unless the batch keeps going. -/
def processAll (d : Disassembler) (b : Batch) : List Path → Summary → Job Summary
  | [], summary => pure summary
  | binary :: rest, summary => fun p =>
      match process d b.outputDir binary p with
      | (.ok path, q) =>
          processAll d b rest { summary with written := summary.written ++ [path] } q
      | (.error failure, q) =>
          if b.keepGoing then
            processAll d b rest { summary with failed := summary.failed ++ [binary] }
              { q with events := q.events ++ [.failed binary failure] }
          else
            (.error failure, q)

/-- Runs a batch.  It fails with its summary when some binary failed. -/
def run (d : Disassembler) (b : Batch) : Job Summary := do
  let binaries ← Job.look b.binaries
  Job.report [.selected binaries.length]
  let summary ← processAll d b binaries {}
  if summary.failed = [] then
    pure summary
  else
    Job.look fun _ => .error (.batch summary)

end Batch

end Imprint
