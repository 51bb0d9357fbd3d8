import Imprint.Numeral
import Imprint.Store.Route

/-!
# Files and directories

The operations on a store that paths name: reading and writing files, listing
and making directories, and links.
-/

namespace Imprint

namespace Store

def entry (s : Store) (p : Path) : Except Cause Entry :=
  match s.locate .followed p with
  | .error cause => .error cause
  | .ok (.vacant ..) => .error .notFound
  | .ok (.found location) =>
      match s.at? location with
      | some entry => .ok entry
      | none => .error .notFound

def read (s : Store) (p : Path) : Except Cause Bytes :=
  match s.entry p with
  | .error cause => .error cause
  | .ok (.file contents _) => .ok contents
  | .ok .directory => .error .isDirectory
  | .ok (.link _) => .error .tooManyLinks

def isDirectory (s : Store) (p : Path) : Bool :=
  match s.entry p with
  | .ok .directory => true
  | _ => false

def leadToOne (s : Store) (p other : Path) : Bool :=
  match s.locate .followed p, s.locate .followed other with
  | .ok (.found location), .ok (.found place) => decide (s.SameFile location place)
  | _, _ => false

/-- The names in the directory that a path leads to, in listing order. -/
def list (s : Store) (p : Path) : Except Cause (List Name) :=
  match s.locate .followed p with
  | .error cause => .error cause
  | .ok (.vacant ..) => .error .notFound
  | .ok (.found location) =>
      if s.at? location = some .directory then
        .ok (s.namesIn location)
      else
        .error .notDirectory

/-- Writes a file: a file that is there gets the contents, under all its names, and keeps its
mode, and a vacant name becomes a file. -/
def write (s : Store) (p : Path) (contents : Bytes) : Except Cause Store :=
  match s.locate .writable p with
  | .error cause => .error cause
  | .ok (.vacant dir name) => .ok (s.put (name :: dir) (.file contents false))
  | .ok (.found location) =>
      match s.at? location with
      | some (.file _ executable) => .ok (s.overwrite location contents executable)
      | _ => .error .isDirectory

/-- A path without the slashes at its end, unless it has nothing else. -/
def withoutTrailingSlashes (p : Path) : Path :=
  match p.bytes.reverse.dropWhile (· = Path.slash) with
  | [] => p
  | kept => ⟨kept.reverse⟩

/-- Where a path leads that names a directory: slashes at its end add nothing but length. -/
def locateDirectory (s : Store) (p : Path) : Except Cause Spot :=
  if 0 ∉ p.bytes ∧ Path.maxLength < p.bytes.length then
    .error .nameTooLong
  else
    s.locate .kept (withoutTrailingSlashes p)

def makeDirectory (s : Store) (p : Path) : Except Cause Store :=
  match s.locateDirectory p with
  | .error cause => .error cause
  | .ok (.found _) => .error .alreadyExists
  | .ok (.vacant dir name) => .ok (s.put (name :: dir) .directory)

/-- Sees to it that the first path of a list leads to a directory, where each path
is followed by the one that it lies in.  Directories made before a refusal stay. -/
def ensureDirectories (s : Store) : List Path → Except Cause Unit × Store
  | [] => (.ok (), s)
  | p :: outer =>
      match s.makeDirectory p with
      | .ok made => (.ok (), made)
      | .error .notFound =>
          match s.ensureDirectories outer with
          | (.error cause, made) => (.error cause, made)
          | (.ok (), made) =>
              match made.makeDirectory p with
              | .ok done => (.ok (), done)
              | .error cause =>
                  if made.isDirectory p then (.ok (), made) else (.error cause, made)
      | .error cause => if s.isDirectory p then (.ok (), s) else (.error cause, s)

/-- Sees to it that a path leads to a directory, with all directories on the way.
The empty path asks for none. -/
def makeDirectories (s : Store) (p : Path) : Except Cause Unit × Store :=
  if p.bytes = [] then (.ok (), s) else s.ensureDirectories (p :: p.ancestors)

def makeLink (s : Store) (p target : Path) : Except Cause Store :=
  match s.locate .kept p with
  | .error cause => .error cause
  | .ok (.found _) => .error .alreadyExists
  | .ok (.vacant dir name) => .ok (s.put (name :: dir) (.link target))

def delete (s : Store) (p : Path) : Except Cause Store :=
  match s.locate .kept p with
  | .error cause => .error cause
  | .ok (.vacant ..) => .error .notFound
  | .ok (.found location) =>
      if s.at? location = some .directory then .error .isDirectory else .ok (s.remove location)

def deleteDirectory (s : Store) (p : Path) : Except Cause Store :=
  match s.locateDirectory p with
  | .error cause => .error cause
  | .ok (.vacant ..) => .error .notFound
  | .ok (.found location) =>
      if s.at? location = some .directory then
        if s.namesIn location = [] ∧ location ≠ s.workingDirectory then
          .ok (s.removeDirectory location)
        else
          .error .notEmpty
      else
        .error .notDirectory

def setExecutable (s : Store) (p : Path) (executable : Bool) : Except Cause Store :=
  match s.locate .followed p with
  | .error cause => .error cause
  | .ok (.vacant ..) => .error .notFound
  | .ok (.found location) =>
      match s.at? location with
      | some (.file contents _) => .ok (s.overwrite location contents executable)
      | _ => .ok s

def makeExecutable (s : Store) (p : Path) : Except Cause Store :=
  s.setExecutable p true

/-- The names from the working directory down to a location below it. -/
def below? (s : Store) (location : Location) : Option (List Name) :=
  let depth := location.length - s.workingDirectory.length
  if location.drop depth = s.workingDirectory ∧ depth ≠ 0 then
    some (location.take depth).reverse
  else
    none

/-- The line of an entry in an inventory: its path, marked as a directory or a link
or followed by the size of its contents. -/
def inventoryLine (names : List Name) (entry : Entry) : Text :=
  let path := Utf8.decode (List.intercalate [Path.slash] names)
  match entry with
  | .directory => path ++ "/".toList
  | .link _ => path ++ "@".toList
  | .file contents _ => path ++ ' ' :: Radix.decimal.numeral contents.length

/-- Everything below the working directory: a directory stands before its contents,
and names are in the order of their bytes. -/
def inventory (s : Store) : List Text :=
  let found := s.entries.filterMap fun e => (s.below? e.1).map fun names => (names, e.2)
  let sorted := found.mergeSort fun a b => !(b.1.lex a.1 fun x y => decide (x < y))
  sorted.map fun e => inventoryLine e.1 e.2

end Store

end Imprint
