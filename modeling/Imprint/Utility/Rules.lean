import Imprint.Utility.Rules.Evaluation
import Imprint.Utility.Rules.Reader

/-!
# The utility of rules

The utility that runs a program of rules over the records of files.
-/

namespace Imprint

namespace Utility

open Imprint.Task

namespace Rules

structure Call where
  files : List Text := []
  separator : Option Text := none
  assignments : List Text := []
  operands : List Text := []

def version : Text :=
  "mawk 1.3.4 20240123\n".toList

def usage : List String :=
  ["Usage: mawk [Options] [Program] [file ...]",
    "",
    "Program:",
    "    The -f option value is the name of a file containing program text.",
    "    If no -f option is given, a \"--\" ends option processing; the following",
    "    parameters are the program text.",
    "",
    "Options:",
    "    -f program-file  Program  text is read from file instead of from the",
    "                     command-line.  Multiple -f options are accepted.",
    "    -F value         sets the field separator, FS, to value.",
    "    -v var=value     assigns value to program variable var.",
    "    --               unambiguous end of options.",
    "",
    "    Implementation-specific options are prefixed with \"-W\".  They can be",
    "    abbreviated:",
    "",
    "    -W version       show version information and exit.",
    "    -W compat        pre-POSIX 2001.",
    "    -W dump          show assembler-like listing of program and exit.",
    "    -W help          show this message and exit.",
    "    -W interactive   set unbuffered output, line-buffered input.",
    "    -W exec file     use file as program as well as last option.",
    "    -W posix         stricter POSIX checking.",
    "    -W random=number set initial random seed.",
    "    -W sprintf=number adjust size of sprintf buffer.",
    "    -W usage         show this message and exit."]

def showUsage (descriptor status : Nat) : Task α := do
  write descriptor (usage.flatMap fun line => line.toList ++ ['\n'])
  finish status

def special (t : Text) : Task Unit := do
  let name := t.takeWhile (· != '=')
  let isMeant (full : String) : Bool := !name.isEmpty && name.isPrefixOf full.toList
  if isMeant "version" then
    out version
    finish 0
  else if isMeant "usage" || isMeant "help" then
    showUsage 1 0
  else
    unless ["compat", "dump", "interactive", "posix", "random", "sprintf", "traditional"].any isMeant do
      complain ("vacuous option: -W \"".toList ++ t ++ ['"'])

def readCall : (fuel : Nat) → Call → List Text → Task Call
  | 0, call, _ => return call
  | fuel + 1, call, arguments => do
      let withValue (letter : Char) (value rest : List Text) : Task Call := do
        match value with
        | [] => fail 2 ("option -".toList ++ letter :: " lacks argument".toList)
        | v :: _ =>
            match letter with
            | 'F' => readCall fuel { call with separator := some v } rest
            | 'v' =>
                if (Work.assignment? v).isNone then
                  fail 2 ("improper assignment: -v ".toList ++ v)
                readCall fuel { call with assignments := call.assignments ++ [v] } rest
            | 'f' => readCall fuel { call with files := call.files ++ [v] } rest
            | _ => do
                special v
                readCall fuel call rest
      match arguments with
      | ['-', '-'] :: rest => return { call with operands := rest }
      | ('-' :: '-' :: name) :: _ =>
          if name = "version".toList then
            out version
            finish 0
          else if name = "help".toList ∨ name = "usage".toList then
            showUsage 1 0
          else
            fail 2 ("not an option: --".toList ++ name)
      | ('-' :: letter :: value) :: rest =>
          if "FvfW".toList.contains letter then
            if value.isEmpty then withValue letter (rest.take 1) (rest.drop 1)
            else withValue letter [value] rest
          else
            fail 2 ("not an option: -".toList ++ letter :: value)
      | operands => return { call with operands := operands }

def readFiles (names : List Text) : Task Text := do
  let parts ← names.mapM fun name => do
    match ← contents name with
    | .ok t => return t ++ ['\n']
    | .error cause => fail 2 ("cannot open \"".toList ++ name ++ "\" (".toList ++ cause.wording ++ [')'])
  return parts.flatten

def Machine.start (p : Process) (arguments : List Text) : Machine :=
  let table (entries : List (Text × Value)) : Table :=
    entries.foldl (fun t e => ((t.findText true e.1).2).put e.1 e.2) {}
  let value (name : String) (v : Value) : Text × Slot := (name.toList, .value v)
  { process := p
    globals :=
      [value "NF" (.number 0.0), value "NR" (.number 0.0), value "FNR" (.number 0.0),
        value "FS" (.text [' ']), value "OFS" (.text [' ']), value "ORS" (.text ['\n']),
        value "RS" (.text ['\n']), value "FILENAME" (.text []), value "SUBSEP" (.text ['\x1c']),
        value "RSTART" (.number 0.0), value "RLENGTH" (.number (-1.0)),
        value "CONVFMT" (.text "%.6g".toList), value "OFMT" (.text "%.6g".toList),
        value "ARGC" (Value.ofNat (arguments.length + 1)),
        ("ENVIRON".toList, .table 0), ("ARGV".toList, .table 1)]
    tables :=
      #[table (p.environment.map fun e => (e.1, Value.ofInput e.2)),
        table (((p.name :: arguments).zipIdx).map fun e =>
          (Radix.decimal.numeral e.2, Value.ofInput e.1))] }

def assignFirst (functions : List Function) (call : Call) : Work Unit := do
  match call.separator with
  | none => pure ()
  | some t =>
      let t := Source.unescaped (t.length + 1) t
      match Separator.ofText t with
      | .ok _ => Work.assign (.shared "FS".toList) (.text t)
      | .error e =>
          Work.fail ("line 0: regular expression compile failed (".toList ++ e.message ++ ")\n".toList ++ t)
  for a in call.assignments do
    match Work.assignment? a with
    | some (name, v) => Work.assignGiven functions name v
    | none => pure ()

def run (system : System) (program : Program) (call : Call) (operands : List Text) : Task Nat := do
  let p ← get
  let work : Work Unit := do
    assignFirst program.functions call
    runAll system program
  let (result, m) := (ExceptT.run work).run (Machine.start p operands)
  let (_, m) := (ExceptT.run (Work.closeAll system)).run m
  set m.process
  match result with
  | .error .failed => return 2
  | _ => return m.status

end Rules

def awk : Utility := fun system arguments => do
  let name := ((← get).name.reverse.takeWhile (· != '/')).reverse
  modify fun p => { p with name := name }
  let call ← Rules.readCall (arguments.length + 1) {} arguments
  let (text, title, operands) ← match call.files, call.operands with
    | [], [] => Rules.showUsage 2 0
    | [], text :: operands => pure (text ++ ['\n'], name ++ ": ".toList, operands)
    | file :: _, operands =>
        pure (← Rules.readFiles call.files, name ++ ": ".toList ++ file ++ ": ".toList, operands)
  match Rules.Program.read title text with
  | .error messages =>
      err (messages.flatMap fun t => t ++ ['\n'])
      return 2
  | .ok program => Rules.run system program call operands

end Utility

end Imprint
