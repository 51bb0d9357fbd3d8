import Imprint.Utility.Files

/-!
# Launching a program

The utility that launches a program in another environment, or tells the environment.
-/

namespace Imprint

namespace Utility

open Imprint.Task

/-- Runs a program by its name to its end, in an environment and with descriptors.  A file that
names no interpreter is a script of the shell. -/
def runProgram (system : System) (environment : List (Text × Text))
    (descriptors : List (Nat × Nat)) (words : List Text) : Task (Except Cause ExitStatus) := do
  let p ← get
  let name := words.headD []
  let started := { p with name := name, environment := environment, descriptors := descriptors }
  let searchPath := (environment.lookup "PATH".toList).getD System.defaultSearchPath
  let result := match system.byName searchPath started name (words.drop 1) with
    | .error .badFormat =>
        system.start "/bin/sh".toList { started with name := "/bin/sh".toList } words
    | result => result
  match result with
  | .ok (status, files) =>
      set { p with files := files }
      return .ok status
  | .error cause => return .error cause

def withValue (environment : List (Text × Text)) (name value : Text) : List (Text × Text) :=
  if (environment.lookup name).isSome then
    environment.map fun e => if e.1 = name then (name, value) else e
  else
    environment ++ [(name, value)]

def assignments : List Text → List (Text × Text) × List Text
  | [] => ([], [])
  | t :: rest =>
      if t.contains '=' then
        let name := t.takeWhile (· ≠ '=')
        let (others, rest) := assignments rest
        ((name, t.drop (name.length + 1)) :: others, rest)
      else
        ([], t :: rest)

def env : Utility := fun system arguments => do
  let forms := [flag 'i' "ignore-environment", valued 'u' "unset"]
  let (given, operands) ← leadingOptions forms arguments 125
  let (own, words) := assignments operands
  let unset := (given.filter fun g => g.name == "unset").map Given.value
  let p ← get
  let old := if has given "ignore-environment" then [] else p.environment
  let environment :=
    own.foldl (fun e v => withValue e v.1 v.2) (old.filter fun e => !unset.contains e.1)
  if words.isEmpty then
    for (name, value) in environment do
      out (name ++ '=' :: value ++ ['\n'])
    return 0
  match ← runProgram system environment p.descriptors words with
  | .ok status => throw status
  | .error cause =>
      fail (if cause = .notFound then 127 else 126)
        (Text.inShellQuotes (words.headD []) ++ ": ".toList ++ cause.wording)

end Utility

end Imprint
