import Imprint.Process.Task
import Imprint.Script.Reader

/-!
# Shells

A shell is the state of a script that runs: its files and descriptors, its
variables and functions, its options, and how it is about to go on.
-/

namespace Imprint

namespace Script

structure Variable where
  value : Option Text := none
  isExported : Bool := false
  isReadOnly : Bool := false

/-- How commands that follow are left out: up to the end of loops, up to the next turn of a
loop, or up to the end of a function. -/
inductive Leaving where
  | staying
  | breaking (loops : Nat)
  | continuing (loops : Nat)
  | returning
deriving DecidableEq

/-- Why a command does not come to its end: the shell ends, there is an error, or a signal
ends the shell. -/
inductive Abort where
  | exit
  | error
  | killed (signal : Nat)
deriving DecidableEq

/-- A command that runs in the background: its number, when it began, the time and the signal
that end it, if one was sent, and what it does by the time that this happens: its status, the
files, and the signals that it sends. -/
structure Job where
  number : Nat
  start : Nat
  deadline : Option (Nat × Nat) := none
  run : (deadline : Option (Nat × Nat)) → OpenFiles → ExitStatus × OpenFiles × List Nat

/-- The state of a shell.  Children are the commands in the background that came to an end, with
their statuses, and jobs those that may still run. -/
structure Shell where
  files : OpenFiles
  descriptors : List (Nat × Nat)
  name : Text
  arguments : List Text := []
  bindings : List (Text × Variable) := []
  functions : List (Text × Command) := []
  documents : List (Nat × Word) := []
  nextDocument : Nat := 0
  options : List Char := []
  status : Nat := 0
  outputStatus : Nat := 0
  line : Nat := 1
  commandName : Option Text := none
  leaving : Leaving := .staying
  loops : Nat := 0
  frames : List (List (Text × Option Variable)) := []
  traps : List (Nat × Text) := []
  ignored : List Nat := []
  pending : List Nat := []
  finalStatus : Option Nat := none
  children : List (Nat × ExitStatus) := []
  jobs : List Job := []
  deadline : Option (Nat × Nat) := none
  lastChild : Option Nat := none
  nextNumber : Nat := 1001
  number : Nat := 1000
  depth : Nat := 0
  outerSignals : List Nat := []
  optionIndex : Nat := 1
  letterOffset : Nat := 0
  isOutputLost : Bool := false
  isTracing : Bool := false

def Shell.hasTraps (s : Shell) : Bool :=
  s.traps.any fun e => !e.2.isEmpty

abbrev Run := ExceptT Abort (StateM Shell)

namespace Run

def write (descriptor : Nat) (t : Text) : Run Unit :=
  modify fun s =>
    match s.descriptors.lookup descriptor with
    | some id => { s with files := s.files.write id t }
    | none => { s with isOutputLost := s.isOutputLost || descriptor == 1 }

def out (t : Text) : Run Unit :=
  write 1 t

/-- Writes a message to the error output: the script's name, the line, and the utility that
reports it, if one does. -/
def warn (t : Text) : Run Unit := do
  let s ← get
  let reporter := match s.commandName with
    | some name => name ++ ": ".toList
    | none => []
  write 2 (s.name ++ ": ".toList ++ Radix.decimal.numeral s.line ++ ": ".toList ++ reporter ++ t ++
    ['\n'])

def setStatus (status : Nat) : Run Unit :=
  modify fun s => { s with status := status }

def fail (t : Text) : Run α := do
  warn t
  setStatus 2
  throw .error

def failWith (status : Nat) (t : Text) : Run α := do
  warn t
  setStatus status
  throw .exit

def hasOption (letter : Char) : Run Bool :=
  return (← get).options.contains letter

def setOption (letter : Char) (on : Bool) : Run Unit :=
  modify fun s =>
    { s with options :=
        if on then (if s.options.contains letter then s.options else letter :: s.options)
        else s.options.filter (· ≠ letter) }

def valueOf? (name : Text) : Run (Option Text) :=
  return ((← get).bindings.lookup name).bind Variable.value

def valueOf (name : String) : Run Text :=
  return (← valueOf? name.toList).getD []

def restartOptions (index : Nat) : Run Unit :=
  modify fun s => { s with optionIndex := max index 1, letterOffset := 0 }

/-- Puts a variable in place of the one of its name, or else first.  One of them tells where
options are read. -/
def putVariable (name : Text) (v : Option Variable) : Run Unit := do
  modify fun s =>
    { s with
      bindings := match v with
        | none => s.bindings.filter fun e => e.1 != name
        | some v =>
            if (s.bindings.lookup name).isNone then (name, v) :: s.bindings
            else s.bindings.map fun e => if e.1 = name then (name, v) else e }
  if name = "OPTIND".toList then
    let value := (v.bind Variable.value).getD []
    match Text.natural? value with
    | some n => restartOptions n
    | none => fail ("Illegal number: ".toList ++ value)

def assign (name value : Text) (exports : Bool) : Run Unit := do
  let old := ((← get).bindings.lookup name).getD {}
  if old.isReadOnly then
    fail (name ++ ": is read only".toList)
  let exported := old.isExported || exports || (← hasOption 'a')
  putVariable name (some { old with value := some value, isExported := exported })

def keep (name : Text) : Run Unit :=
  modify fun s =>
    match s.frames with
    | frame :: others =>
        if frame.any fun e => e.1 == name then s
        else { s with frames := ((name, s.bindings.lookup name) :: frame) :: others }
    | [] => s

def enterFrame : Run Unit :=
  modify fun s => { s with frames := [] :: s.frames }

def leaveFrame : Run Unit := do
  match (← get).frames with
  | [] => return
  | frame :: others =>
      modify fun s => { s with frames := others }
      for (name, v) in frame do
        if name = ['-'] then
          modify fun s => { s with options := ((v.bind Variable.value).getD []) }
        else
          putVariable name v

def shelf (name : Text) : Nat :=
  let points := name.map Char.toNat
  (16 * points.headD 0 + points.foldl (· + ·) 0) % 39

/-- The environment that programs get: the variables that are exported, shelf by shelf. -/
def environment : Run (List (Text × Text)) := do
  let exported := (← get).bindings.reverse.filterMap fun e =>
    match e.2 with
    | ⟨some value, true, _⟩ => some (e.1, value)
    | _ => none
  return exported.mergeSort fun a b => decide (shelf a.1 ≤ shelf b.1)

def lead (descriptor : Nat) (id : Option Nat) : Run Unit :=
  modify fun s =>
    let others := s.descriptors.filter fun d => d.1 != descriptor
    { s with
      descriptors := match id with
        | some id => (descriptor, id) :: others
        | none => others }

def ending (body : Run α) (after : Run Unit) : Run α := fun s =>
  let (result, t) := body s
  let (ended, u) := after t
  match ended with
  | .ok () => (result, u)
  | .error abort =>
      match result with
      | .ok _ => (.error abort, u)
      | .error first => (.error first, u)

/-- A process that begins in the shell under a name.  The signals for which nothing is to be
done do nothing to it either. -/
def process (name : Text) : Run Process := do
  let s ← get
  let hushed := (s.traps.filter fun e => e.1 != 0 && e.2.isEmpty).map Prod.fst
  return {
    name := name
    environment := ← environment
    files := s.files
    descriptors := s.descriptors
    ignored := hushed ++ s.ignored }

def signalMessage? (signal : Nat) : Option Text :=
  ([(1, "Hangup"), (3, "Quit"), (4, "Illegal instruction"), (5, "Trace/breakpoint trap"),
    (6, "Aborted"), (7, "Bus error"), (8, "Floating point exception"), (9, "Killed"),
    (10, "User defined signal 1"), (11, "Segmentation fault"), (12, "User defined signal 2"),
    (14, "Alarm clock"), (15, "Terminated"), (16, "Stack fault"), (24, "CPU time limit exceeded"),
    (25, "File size limit exceeded"), (26, "Virtual timer expired"),
    (27, "Profiling timer expired"), (29, "I/O possible"), (30, "Power failure"),
    (31, "Bad system call")].lookup signal).map String.toList

def tellSignal (status : ExitStatus) : Run Unit := do
  match status with
  | .signaled signal _ =>
      match signalMessage? signal with
      | some t => write 2 (t ++ ['\n'])
      | none => pure ()
  | .exited _ => pure ()

def numeral (n : Nat) : Text :=
  Radix.decimal.numeral n

end Run

end Script

end Imprint
