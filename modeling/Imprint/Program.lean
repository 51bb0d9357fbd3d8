import Imprint.Disassembler
import Imprint.Process.FirstLine
import Imprint.Sections
import Imprint.Utility.Table

/-!
# Programs

A program is looked for like a command: by its path if the name has a slash, and
else in the directories of a search path.  An executable file is a script that
names its interpreter; the utilities are always there.

The theory is about any disassembler.  The shell and the utilities serve the
programs that are run as one, and nothing is proved of them.
-/

namespace Imprint

namespace Program

/-- How many files may be looked at to start a program: scripts, each of which names the next
one as its interpreter, and at the end a utility. -/
def maxSteps : Nat := 6

/-- Starts what a path names, a utility or a script by way of its interpreter, where so many
more files may be looked at. -/
def start (system : System) : (left : Nat) → (path : Text) → Process → (arguments : List Text) →
    Except Cause (ExitStatus × OpenFiles)
  | left, path, p, arguments =>
      match p.files.store.entry (Path.ofBytes path) with
      | .ok (.file contents true) =>
          match left, FirstLine.interpreter? (Text.ofBytes contents) with
          | 0, _ => .error .tooManyLinks
          | _ + 1, none => .error .badFormat
          | _ + 1, some ([], _) => .error .permissionDenied
          | left + 1, some (interpreter, given) =>
              start system left interpreter { p with name := interpreter }
                (given ++ path :: arguments)
      | .ok _ => .error .permissionDenied
      | .error cause =>
          match Fixture.ofPath path, left with
          | .ok .directory, _ => .error .permissionDenied
          | .ok (.program _), 0 => .error .tooManyLinks
          | .ok (.program name), _ + 1 =>
              match Utility.ofName? (String.ofList name) with
              | some utility => .ok ((utility system arguments).run p)
              | none => .error cause
          | .error .notDirectory, _ => .error .notDirectory
          | .error _, _ => .error cause

/-- The programs that can be started, where programs start others up to a depth. -/
def system : (depth : Nat) → System
  | 0 => { offers := fun _ => false, start := fun _ _ _ => .error .tooManyLinks }
  | depth + 1 =>
      { offers := fun name => (Utility.ofName? (String.ofList name)).isSome
        start := start (system depth) maxSteps }

def defaultSearchPath : Text :=
  System.defaultSearchPath

def maxDepth : Nat := 100

/-- When a program is launched that no other one starts, in microseconds. -/
def startTime : Nat := 10000

/-- What a program leaves when it ends: its status, its two outputs, and the files. -/
structure Finish where
  status : ExitStatus
  out : Bytes
  err : Bytes
  store : Store

/-- Launches a program by its name, with an empty input and the search path in its
environment; no argument holds a zero byte. -/
def launch (store : Store) (searchPath : Text) (name : Text) (arguments : List Text) :
    Except Cause Finish :=
  if (name :: arguments).any fun t => t.contains '\x00' then
    .error .nulInArgument
  else
    let p : Process :=
      { name := name
        environment := [("PATH".toList, searchPath)]
        files :=
          { store := store, channels := #[.nothing, .sink [], .sink []], clock := startTime }
        descriptors := [(0, 0), (1, 1), (2, 2)] }
    match (system maxDepth).byName searchPath p name arguments with
    | .error cause => .error cause
    | .ok (status, files) =>
        .ok
          { status := status
            out := Text.toBytes (files.collected 1)
            err := Text.toBytes (files.collected 2)
            store := files.store.enter store.workingDirectory }

end Program

def defaultDisassembler : Text :=
  "riscv64-unknown-elf-objdump".toList

namespace Disassembler

/-- The arguments that ask a program for a pass, up to the binary. -/
def arguments : Pass → List Text
  | .code => ["-d".toList, "-j".toList, Sections.code]
  | .data => ["-s".toList, "-j".toList, Sections.data]

/-- The answer of a program to a call: its output, if it succeeds. -/
def outputOf (program : Text) (binary : Path) :
    Except Cause Program.Finish → Except Failure Text
  | .error .notFound => .error (.toolNotFound program .notFound)
  | .error cause => .error (.io binary cause)
  | .ok finish =>
      if finish.status.succeeded then
        .ok (Utf8.decode finish.out)
      else
        .error (.toolFailed program binary finish.status (Utf8.decode finish.err).trim)

def ofProgram (searchPath program : Text) : Disassembler where
  answer _ store call :=
    let finish := Program.launch store (Text.ofBytes (Utf8.encode searchPath))
      (Text.ofBytes (Utf8.encode program))
      (arguments call.pass ++ [Text.ofBytes call.binary.bytes])
    (outputOf program call.binary finish,
      match finish with
      | .ok finish => finish.store
      | .error _ => store)
  announce call :=
    [.launched program (arguments call.pass ++ [call.binary.display])]

end Disassembler

end Imprint
