import Imprint.Dump
import Imprint.Job
import Imprint.Listing
import Imprint.Model

/-!
# Generation of models

From a binary to its written model: the image is inspected, the disassembler is
asked for the code and, where the listing names a data section, for the data,
and the model is written under the name of the binary.
-/

namespace Imprint

/-- The machine number of the processors that the models are about. -/
def riscvMachine : Nat := 243

def imageOf (binary : Path) (contents : Bytes) : Except Failure Elf.Image :=
  match Elf.read contents with
  | .error fault => .error (.invalidImage binary fault)
  | .ok image =>
      if image.machine = riscvMachine then
        .ok image
      else
        .error (.otherMachine binary image.machine)

def inspect (store : Store) (binary : Path) : Except Failure Elf.Image :=
  match store.read binary with
  | .error cause => .error (.io binary cause)
  | .ok contents => imageOf binary contents

def modelExtension : Text :=
  "ucl".toList

/-- The path of a model in `dir`: the file name of the binary with the ending. -/
def outputPath (dir binary : Path) : Path :=
  dir.child (binary.fileName?.getD [] ++ Utf8.encode ('.' :: modelExtension))

/-- The data statements of a binary whose listing names a data section. -/
def dataStatements (d : Disassembler) (binary : Path) : Job (List Text) := do
  let dump ← Job.ask d .data binary
  Job.report ((Dump.skipped dump).map .skippedRow)
  Job.report [.dataWords (Dump.words dump).length]
  pure (Dump.statements dump)

/-- Makes the model of a binary from the answers of a disassembler. -/
def generate (d : Disassembler) (binary : Path) : Job Model := do
  let answer ← Job.ask d .code binary
  let listing := Listing.read answer
  Job.report [.instructions listing.instructionCount]
  let data ← if listing.hasData then dataStatements d binary else pure []
  pure
    { source := binary.display
      bound := listing.instructionCount
      init := listing.statements ++ data }

def Model.save (m : Model) (dir : Path) (store : Store) : Except Failure Path × Store :=
  match store.makeDirectories dir with
  | (.error cause, made) => (.error (.io dir cause), made)
  | (.ok (), made) =>
      let path := outputPath dir (Path.ofText m.source)
      match made.write path (Utf8.encode m.render) with
      | .error cause => (.error (.io path cause), made)
      | .ok written => (.ok path, written)

def Model.writeTo (m : Model) (dir : Path) : Job Path := do
  let path ← Job.change (m.save dir)
  Job.report [.wrote path]
  pure path

def process (d : Disassembler) (outputDir binary : Path) : Job Path := do
  Job.report [.parsing binary]
  let image ← Job.look fun store => inspect store binary
  Job.report [.inspected image]
  let model ← generate d binary
  model.writeTo outputDir

end Imprint
