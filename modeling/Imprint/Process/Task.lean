import Imprint.Failure
import Imprint.Process.Channel
import Imprint.Process.Fixture

/-!
# Tasks

A task is what a program does: it reads and writes through descriptors, works on
the files, and ends with a status.  A program may start others.
-/

namespace Imprint

/-- A running program: its name, its environment, the files, where its descriptors lead, and
the signals that do nothing to it. -/
structure Process where
  name : Text
  environment : List (Text × Text) := []
  files : OpenFiles
  descriptors : List (Nat × Nat) := []
  ignored : List Nat := []

abbrev Task := ExceptT ExitStatus (StateM Process)

/-- The programs that can be started: the names of those that are always there, and how the
one at a path is run with arguments, in place of a process. -/
structure System where
  offers : (name : Text) → Bool
  start : (path : Text) → Process → (arguments : List Text) → Except Cause (ExitStatus × OpenFiles)

/-- A program that is always there: given the others and its arguments, it does its work
and gives its status. -/
abbrev Utility := System → List Text → Task Nat

namespace ExitStatus

def code : ExitStatus → Nat
  | exited code => code.toNat
  | signaled signal _ => 128 + signal

end ExitStatus

namespace Task

def finish (status : Nat) : Task α :=
  throw (.exited (UInt8.ofNat status))

def write (descriptor : Nat) (t : Text) : Task Unit :=
  modify fun p =>
    match p.descriptors.lookup descriptor with
    | some id => { p with files := p.files.write id t }
    | none => p

def out (t : Text) : Task Unit :=
  write 1 t

def err (t : Text) : Task Unit :=
  write 2 t

def complain (t : Text) : Task Unit := do
  err ((← get).name ++ ": ".toList ++ t ++ ['\n'])

def fail (status : Nat) (t : Text) : Task α := do
  complain t
  finish status

def store : Task Store :=
  return (← get).files.store

def setStore (s : Store) : Task Unit :=
  modify fun p => { p with files := p.files.changeStore s }

/-- Lets those who opened the file of a path keep it, and its other names too, though another one
takes its place. -/
def lose (path : Text) : Task Unit :=
  modify fun p =>
    let s := p.files.store
    match s.locate .followed (Path.ofBytes path) with
    | .ok (.found location) =>
        let lost := p.files.lose (s.remove location) location
        match s.at? location with
        | some entry => { p with files := { lost with store := s.put location entry } }
        | none => { p with files := lost }
    | _ => p

def wait (time : Nat) : Task Unit :=
  modify fun p => { p with files := p.files.wait time }

def change (work : Store → Except Cause Store) : Task (Except Cause Unit) := do
  match work (← store) with
  | .ok s =>
      setStore s
      return .ok ()
  | .error cause => return .error cause

def input : Task (Except Cause Text) := do
  let p ← get
  match p.descriptors.lookup 0 with
  | none => return .error .badDescriptor
  | some id =>
      match p.files.unread id with
      | .ok t =>
          set { p with files := p.files.advance id t.length }
          return .ok t
      | .error cause => return .error cause

def giveBack (count : Nat) : Task Unit :=
  modify fun p =>
    match p.descriptors.lookup 0 with
    | none => p
    | some id =>
        match p.files.channels[id]? with
        | some (.file location offset appends) =>
            { p with files := p.files.setChannel id (.file location (offset - count) appends) }
        | some (.lost contents offset appends) =>
            { p with files := p.files.setChannel id (.lost contents (offset - count) appends) }
        | _ => p

def isInput (operand : Text) : Bool :=
  operand == ['-'] || operand == "/dev/stdin".toList || operand == "/dev/fd/0".toList

def contents (operand : Text) : Task (Except Cause Text) := do
  if isInput operand then
    input
  else
    match Device.ofPath? operand with
    | some device => return .ok device.contents
    | none => return ((← store).read (Path.ofBytes operand)).map Text.ofBytes

def writeFile (path : Text) (mode : OpenMode) (t : Text) : Task (Except Cause Unit) := do
  let p ← get
  match p.files.openPath p.descriptors mode path with
  | .error cause => return .error cause
  | .ok (id, files) =>
      set { p with files := files.write id t }
      return .ok ()

def run (task : Task Nat) (p : Process) : ExitStatus × OpenFiles :=
  match StateT.run (ExceptT.run task) p with
  | (.ok status, q) => (.exited (UInt8.ofNat status), q.files)
  | (.error status, q) => (status, q.files)

end Task

namespace System

def fixture (system : System) (path : Text) : Except Cause Fixture :=
  match Fixture.ofPath path with
  | .ok (.program name) => if system.offers name then .ok (.program name) else .error .notFound
  | other => other

def goesOn (cause : Cause) : Bool :=
  cause == .notFound || cause == .notDirectory || cause == .permissionDenied

/-- The path of a name in a directory of a search path; the empty one is the working
directory. -/
def pathIn (dir name : Text) : Text :=
  if dir = [] then name else dir ++ '/' :: name

/-- Starts the first program of the name in a list of directories.  Where none can be
started, one that may not be is the reason, or else the last reason met. -/
def search (system : System) (p : Process) (name : Text) (arguments : List Text) :
    (denied : Bool) → (last : Cause) → List Text → Except Cause (ExitStatus × OpenFiles)
  | denied, last, [] => .error (if denied then .permissionDenied else last)
  | denied, _, dir :: rest =>
      match system.start (pathIn dir name) p arguments with
      | .error cause =>
          if goesOn cause then
            search system p name arguments (denied || cause == .permissionDenied) cause rest
          else
            .error cause
      | finished => finished

def defaultSearchPath : Text :=
  "/usr/local/bin:/usr/bin:/bin".toList

/-- Starts a program by its name: by its path if the name has a slash, and else from the
directories of a search path. -/
def byName (system : System) (searchPath : Text) (p : Process) (name : Text)
    (arguments : List Text) : Except Cause (ExitStatus × OpenFiles) :=
  if name = [] then
    .error .notFound
  else if name.contains '/' then
    system.start name p arguments
  else if Name.maxLength < name.length then
    .error .nameTooLong
  else
    search system p name arguments false .notFound (cutAt ':' searchPath)

/-- Why the program at a path cannot be started, if it cannot; a file has to be executable. -/
def refusal? (system : System) (store : Store) (path : Text) : Option Cause :=
  match store.entry (Path.ofBytes path) with
  | .ok (.file _ true) => none
  | .ok _ => some .permissionDenied
  | .error cause =>
      match system.fixture path with
      | .ok (.program _) => none
      | .ok .directory => some .permissionDenied
      | .error _ => if path.getLast? = some '/' then some .permissionDenied else some cause

def find (system : System) (store : Store) (searchPath name : Text) : Except Cause Text :=
  let paths := (cutAt ':' searchPath).map fun dir => pathIn dir name
  match paths.find? fun path => (system.refusal? store path).isNone with
  | some path => .ok path
  | none =>
      if paths.any fun path => system.refusal? store path == some .permissionDenied then
        .error .permissionDenied
      else
        .error .notFound

end System

end Imprint
