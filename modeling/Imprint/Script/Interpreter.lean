import Imprint.Script.Evaluation

/-!
# The interpreter

The program that runs scripts: from a file, from its arguments, or from its input.
-/

namespace Imprint

namespace Script

/-- What a shell is started with: its state, and the text to run; one that is given as an
argument ends with the shell. -/
structure Invocation where
  shell : Shell
  script : Text
  isCommand : Bool := false

def readInvocation (arguments : List Text) : Run Invocation := do
  let (rest, _) ← Builtin.takeOptions true none arguments
  let isCommand ← Run.hasOption 'c'
  Run.setOption 'c' false
  let s ← get
  match isCommand, rest with
  | true, [] =>
      set { s with name := "ash".toList }
      Run.fail "-c requires an argument".toList
  | true, [t] => return ⟨s, t, true⟩
  | true, t :: name :: rest => return ⟨{ s with name := name, arguments := rest }, t, true⟩
  | false, rest =>
      match if s.options.contains 's' then none else rest.head? with
      | some file =>
          match s.files.openPath s.descriptors .reading file with
          | .error cause =>
              Run.fail ("cannot open ".toList ++ file ++ ": ".toList ++ Cause.ofOpening false cause)
          | .ok (id, files) =>
              let t := (files.unread id).toOption.getD []
              return ⟨{ s with name := file, arguments := rest.drop 1 }, t, false⟩
      | none =>
          let input := (s.descriptors.lookup 0).map fun id => (id, (s.files.unread id).toOption.getD [])
          let (files, t) := match input with
            | some (id, t) => (s.files.advance id t.length, t)
            | none => (s.files, [])
          Run.setOption 's' true
          return ⟨{ (← get) with files := files, arguments := rest }, t, false⟩

def interpret : Utility := fun system arguments => do
  let p ← get
  let start : Shell := { Shell.ofProcess p p.name [] with line := 0 }
  match readInvocation arguments start with
  | (.ok i, _) =>
      let (status, files) := { i.shell with line := 1 }.run system i.isCommand i.script
      modify fun p => { p with files := files }
      throw status
  | (.error _, s) =>
      modify fun p => { p with files := s.files }
      return s.status

end Script

end Imprint
