import Imprint.Batch
import Imprint.Program

/-!
# Options

The arguments of the command line: options with values, flags, and the binaries
to process.  Arguments are read from left to right, and the first one that is
wrong, or that asks for the version or for help, decides.
-/

namespace Imprint

namespace CommandLine

/-- An option that takes a value. -/
inductive ValueOption where
  | inputDir
  | outputDir
  | stem
  | program
deriving DecidableEq

/-- What an option name stands for. -/
inductive OptionKind where
  | value (option : ValueOption)
  | keepGoing
  | verbose
  | version
  | help
deriving DecidableEq

def longOption? (name : Text) : Option OptionKind :=
  match String.ofList name with
  | "input-dir" => some (.value .inputDir)
  | "output-dir" => some (.value .outputDir)
  | "prefix" => some (.value .stem)
  | "objdump" => some (.value .program)
  | "keep-going" => some .keepGoing
  | "verbose" => some .verbose
  | "version" => some .version
  | "help" => some .help
  | _ => none

def shortOption? (letter : Char) : Option OptionKind :=
  match letter with
  | 'i' => some (.value .inputDir)
  | 'o' => some (.value .outputDir)
  | 'p' => some (.value .stem)
  | 'k' => some .keepGoing
  | 'v' => some .verbose
  | 'V' => some .version
  | 'h' => some .help
  | _ => none

/-- The options given so far. -/
structure Draft where
  inputDir : Option Text := none
  outputDir : Option Text := none
  stem : Option Text := none
  program : Option Text := none
  keepGoing : Bool := false
  verbosity : Nat := 0
  files : List Text := []
deriving DecidableEq

/-- What is to be done: a batch with a disassembler program and a verbosity. -/
structure Options where
  batch : Batch
  program : Text
  verbosity : Nat
deriving DecidableEq

/-- What the arguments ask for. -/
inductive Request where
  | run (options : Options)
  | version
  | help
  | misuse
deriving DecidableEq

namespace Draft

def finish (d : Draft) : Options :=
  let base : Batch := {}
  { batch :=
      { inputDir := (d.inputDir.map Path.ofText).getD base.inputDir
        outputDir := (d.outputDir.map Path.ofText).getD base.outputDir
        stem := d.stem.getD base.stem
        files := d.files.map Path.ofText
        keepGoing := d.keepGoing }
    program := d.program.getD defaultDisassembler
    verbosity := d.verbosity }

/-- Gives a value to an option: once, and directories must not be empty. -/
def give? (d : Draft) (option : ValueOption) (value : Text) : Option Draft :=
  match option with
  | .inputDir =>
      if d.inputDir.isSome ∨ value = [] then none else some { d with inputDir := some value }
  | .outputDir =>
      if d.outputDir.isSome ∨ value = [] then none else some { d with outputDir := some value }
  | .stem => if d.stem.isSome then none else some { d with stem := some value }
  | .program => if d.program.isSome then none else some { d with program := some value }

def addFile? (d : Draft) (file : Text) : Option Draft :=
  if file = [] then none else some { d with files := d.files ++ [file] }

def addFiles? (d : Draft) : List Text → Option Draft
  | [] => some d
  | file :: rest => (d.addFile? file).bind fun d => d.addFiles? rest

end Draft

/-- How reading goes on after an argument: with options given so far, with the value
of an option still to come, or not at all. -/
inductive Continuation where
  | more (d : Draft)
  | awaiting (option : ValueOption) (d : Draft)
  | decided (request : Request)

def Continuation.ofDraft? : Option Draft → Continuation
  | some d => .more d
  | none => .decided .misuse

def takeFlag (kind : OptionKind) (d : Draft) : Continuation :=
  match kind with
  | .value option => .awaiting option d
  | .keepGoing => if d.keepGoing then .decided .misuse else .more { d with keepGoing := true }
  | .verbose => .more { d with verbosity := d.verbosity + 1 }
  | .version => .decided .version
  | .help => .decided .help

/-- Reads letters after a single dash.  The first option with a value takes the rest
of the letters, less an equals sign in front. -/
def readLetters : Text → Draft → Continuation
  | [], d => .more d
  | letter :: rest, d =>
      match shortOption? letter with
      | none => .decided .misuse
      | some (.value option) =>
          match rest with
          | [] => .awaiting option d
          | '=' :: value => .ofDraft? (d.give? option value)
          | value => .ofDraft? (d.give? option value)
      | some kind =>
          match takeFlag kind d with
          | .more d => readLetters rest d
          | other => other

/-- Reads a long option, without its dashes; an equals sign parts name and value. -/
def readLong (argument : Text) (d : Draft) : Continuation :=
  let name := argument.takeWhile (· ≠ '=')
  match longOption? name, argument.drop name.length with
  | none, _ => .decided .misuse
  | some (.value option), _ :: value => .ofDraft? (d.give? option value)
  | some _, _ :: _ => .decided .misuse
  | some kind, [] => takeFlag kind d

/-- Arguments that begin with a dash are options, a single dash apart. -/
def isOption (argument : Text) : Bool :=
  argument.head? == some '-' && argument != ['-']

def readArguments : Option ValueOption → Draft → List Text → Request
  | none, d, [] => .run d.finish
  | some _, _, [] => .misuse
  | some option, d, argument :: rest =>
      if isOption argument then
        .misuse
      else
        match d.give? option argument with
        | some d => readArguments none d rest
        | none => .misuse
  | none, d, argument :: rest =>
      if argument = ['-', '-'] then
        match d.addFiles? rest with
        | some d => .run d.finish
        | none => .misuse
      else
        let step :=
          match argument with
          | '-' :: '-' :: long => readLong long d
          | '-' :: letter :: letters => readLetters (letter :: letters) d
          | file => .ofDraft? (d.addFile? file)
        match step with
        | .more d => readArguments none d rest
        | .awaiting option d => readArguments (some option) d rest
        | .decided request => request

def requestOf (arguments : List Text) : Request :=
  readArguments none {} arguments

end CommandLine

end Imprint
