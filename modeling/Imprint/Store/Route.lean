import Imprint.Cause
import Imprint.Store.Sharing

/-!
# Routes

How a path leads to a place in a store: its steps are walked from the root or
the working directory, and a link on the way is replaced by the steps of its
target.  A walk ends at an entry, or at a vacant name of a directory.
-/

namespace Imprint

/-- One step of a walk: nothing between two slashes or behind the last one, stay, go
up, or go to a name. -/
inductive Step where
  | slash
  | stay
  | up
  | name (bytes : Name)
deriving DecidableEq

namespace Step

def ofPiece (piece : Bytes) : Step :=
  if piece = [] then .slash
  else if piece = [Path.dot] then .stay
  else if piece = [Path.dot, Path.dot] then .up
  else .name piece

end Step

namespace Path

/-- The steps of a path; an empty piece at the end still asks for a directory. -/
def steps (p : Path) : List Step :=
  p.pieces.map Step.ofPiece

def maxLength : Nat := 4095

end Path

/-- What becomes of the last name of a path: a link there is followed or kept, or it is
followed to a place to write to, which no slash may follow. -/
inductive Ending where
  | followed
  | kept
  | writable
deriving DecidableEq

/-- Where a walk ends. -/
inductive Spot where
  | found (location : Location)
  | vacant (dir : Location) (name : Name)
deriving DecidableEq

namespace Store

/-- Walks from a directory along steps.  `jump` continues the walk from another
directory when a link is followed; a link at the end is followed unless `ending`
keeps it.  Nothing is found by a name that no directory takes, and a slash behind a
name to write to asks for a directory. -/
def walkWith (s : Store) (ending : Ending)
    (jump : Location → List Step → Except Cause Spot) :
    Location → List Step → Except Cause Spot
  | here, [] => .ok (.found here)
  | here, .slash :: rest => walkWith s ending jump here rest
  | here, .stay :: rest => walkWith s ending jump here rest
  | here, .up :: rest => walkWith s ending jump here.tail rest
  | here, .name name :: rest =>
      if ending = .writable ∧ rest ≠ [] ∧ rest.all (· = .slash) then
        .error .isDirectory
      else if name.Valid then
        match s.at? (name :: here) with
        | none => if rest = [] then .ok (.vacant here name) else .error .notFound
        | some .directory => walkWith s ending jump (name :: here) rest
        | some (.file ..) =>
            if rest = [] then .ok (.found (name :: here)) else .error .notDirectory
        | some (.link target) =>
            if rest = [] ∧ ending = .kept then
              .ok (.found (name :: here))
            else
              jump (if target.isAbsolute then [] else here) (target.steps ++ rest)
      else
        .error (if Name.maxLength < name.length then .nameTooLong else .notFound)

def walk (s : Store) (ending : Ending) :
    (links : Nat) → Location → List Step → Except Cause Spot
  | 0 => s.walkWith ending fun _ _ => .error .tooManyLinks
  | links + 1 => s.walkWith ending (s.walk ending links)

def maxLinks : Nat := 40

/-- Where a path leads.  The empty path leads nowhere, and no name holds a zero byte. -/
def locate (s : Store) (ending : Ending) (p : Path) : Except Cause Spot :=
  if 0 ∈ p.bytes then
    .error .nulInPath
  else if p.bytes = [] then
    .error .notFound
  else if Path.maxLength < p.bytes.length then
    .error .nameTooLong
  else
    s.walk ending maxLinks (if p.isAbsolute then [] else s.workingDirectory) p.steps

end Store

end Imprint
