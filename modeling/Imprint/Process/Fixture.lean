import Imprint.Cause
import Imprint.Path

/-!
# Fixtures

Some directories are always there, whatever a store holds, and two of them hold the
programs that are always there.  One of these is reached by a shorter name, too.
-/

namespace Imprint

/-- What is always there at a path: a directory, or the place of a program of a name. -/
inductive Fixture where
  | directory
  | program (name : Text)
deriving DecidableEq

namespace Fixture

def shortcuts : List String :=
  ["bin", "lib", "lib64", "sbin"]

def directories : List String :=
  ["boot", "dev", "etc", "home", "media", "mnt", "opt", "proc", "root", "run", "srv", "sys", "tmp",
    "usr", "usr/bin", "usr/lib", "usr/lib64", "usr/local", "usr/local/bin", "usr/sbin", "usr/share",
    "var", "var/tmp"]

def settle (names : List Text) : List Text :=
  match names with
  | first :: rest =>
      if shortcuts.contains (String.ofList first) then "usr".toList :: first :: rest else first :: rest
  | [] => []

/-- Walks from a directory, given by its names from the root down, along pieces of a path. -/
def walk (here : List Text) : List Text → Except Cause Fixture
  | [] => .ok .directory
  | piece :: rest =>
      if piece = [] ∨ piece = ['.'] then walk here rest
      else if piece = ['.', '.'] then walk here.dropLast rest
      else
        let names := settle (here ++ [piece])
        if directories.contains (String.ofList (List.intercalate ['/'] names)) then walk names rest
        else if here = ["usr".toList, "bin".toList] then
          if rest.isEmpty then .ok (.program piece) else .error .notDirectory
        else
          .error .notFound

def ofPath (path : Text) : Except Cause Fixture :=
  match cutAt '/' path with
  | [] :: pieces@(_ :: _) => walk [] pieces
  | _ => .error .notFound

end Fixture

end Imprint
