import Imprint.Utility.Files
import Imprint.Utility.Order

/-!
# View directories

The utility that shows what is in directories: the names in their order, each on a line of its
own.
-/

namespace Imprint

namespace Utility

open Imprint.Task

/-- Which names of a directory are shown: those that do not begin with a dot, all, or all but
those of the directory itself and the one around it. -/
inductive Concealment where
  | dotted
  | nothing
  | around
deriving DecidableEq

/-- Which signs stand behind names: none, a slash behind directories, or signs for links and
executable files, too. -/
inductive Signs where
  | none
  | directories
  | all
deriving DecidableEq

structure View where
  reversed : Bool := false
  conceals : Concealment := .dotted
  signs : Signs := .none
  recursive : Bool := false
  asItself : Bool := false

/-- What is listed: by which name, the path to it, and what stands there. -/
structure Item where
  name : Text
  path : Text
  entry : Entry

namespace Item

def isDirectory (i : Item) : Bool :=
  i.entry == .directory

def ofPath (s : Store) (follows : Bool) (name path : Text) : Except Cause Item := do
  let (_, entry) ← standing s (if follows then .followed else .kept) path
  return ⟨name, path, entry⟩

end Item

namespace View

def sort (v : View) (items : List Item) : List Item :=
  let sorted := items.mergeSort fun a b => textOrder a.name b.name != .gt
  if v.reversed then sorted.reverse else sorted

def line (v : View) (i : Item) : Text :=
  let sign : Text := match i.entry with
    | .directory => if v.signs = .none then [] else ['/']
    | .link _ => if v.signs = .all then ['@'] else []
    | .file _ executable => if executable && v.signs = .all then ['*'] else []
  i.name ++ sign ++ ['\n']

def itemsIn (v : View) (s : Store) (dir : Text) : List Item :=
  let around : List Item :=
    if v.conceals = .nothing then
      [['.'], ['.', '.']].map fun name => ⟨name, inDirectory dir name, .directory⟩
    else
      []
  let names := (s.list (Path.ofBytes dir)).toOption.getD []
  let shown := (names.map Text.ofBytes).filter fun name =>
    v.conceals ≠ .dotted || name.head? != some '.'
  v.sort (around ++ shown.filterMap fun name =>
    (Item.ofPath s false name (inDirectory dir name)).toOption)

/-- Shows directories one after the other, and those in them after each where that is wanted,
up to a depth.  They have their names above them where there may be several. -/
def showAll (v : View) (s : Store) (named : Bool) : (depth : Nat) → List Text → List Text
  | 0, _ => []
  | depth + 1, dirs =>
      dirs.flatMap fun dir =>
        let items := v.itemsIn s dir
        let heading : Text := if named then dir ++ [':', '\n'] else []
        let inner := items.filter fun i => i.isDirectory && i.name != ['.'] && i.name != ['.', '.']
        (heading ++ items.flatMap v.line) ::
          if v.recursive then showAll v s named depth (inner.map Item.path) else []

/-- What an operand stands for.  A link to a directory is followed unless more is told of it. -/
def operand (v : View) (system : System) (s : Store) (path : Text) : Except Cause Item :=
  let keepsLinks := v.asItself || v.signs == .all
  match Item.ofPath s false path path, Item.ofPath s true path path, system.fixture path with
  | .ok i, .ok followed, _ => .ok (if !keepsLinks && followed.isDirectory then followed else i)
  | .error _, _, .ok .directory => .ok ⟨path, path, .directory⟩
  | .error _, _, .ok (.program _) => .ok ⟨path, path, .file [] true⟩
  | found, _, _ => found

end View

def ls : Utility := fun system arguments => do
  let forms :=
    [flag '1' "", flag 'a' "all", flag 'A' "almost-all", flag 'd' "directory", flag 'F' "classify",
      flag 'p' "", flag 'r' "reverse", flag 'R' "recursive"]
  let (given, operands) ← options forms arguments 2
  let v : View :=
    { reversed := has given "reverse"
      conceals := if has given "all" then .nothing else if has given "almost-all" then .around
        else .dotted
      signs := if has given "classify" then .all else if has given "p" then .directories else .none
      recursive := has given "recursive"
      asItself := has given "directory" }
  let s ← store
  let paths := if operands.isEmpty then [['.']] else operands
  let mut items : List Item := []
  let mut status := 0
  for path in paths do
    match v.operand system s path with
    | .ok i => items := items ++ [i]
    | .error cause =>
        let _ ← cannot "access" path cause
        status := 2
  let dirs := if v.asItself then [] else items.filter Item.isDirectory
  let files := if v.asItself then items else items.filter (!·.isDirectory)
  let parts := v.showAll s (v.recursive || paths.length != 1) (maxNesting + 1)
    ((v.sort dirs).map Item.path)
  let first := (v.sort files).flatMap v.line
  out (List.intercalate ['\n'] ((if files.isEmpty then [] else [first]) ++ parts))
  return status

end Utility

end Imprint
