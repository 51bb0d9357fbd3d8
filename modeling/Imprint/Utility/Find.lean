import Imprint.Script.Pattern
import Imprint.Utility.Files

/-!
# Looking for files

The utility that goes through directories and all that is in them, and prints the paths of
which a condition holds.
-/

namespace Imprint

namespace Utility

open Imprint.Task

namespace Find

structure Visit where
  path : Text
  entry : Entry

inductive Condition where
  | named (whole : Bool) (pattern : Script.Pattern)
  | ofKind (letters : Text)
  | negation (c : Condition)

def Condition.holds (v : Visit) : Condition → Bool
  | named whole pattern => pattern.fits (if whole then v.path else lastPiece v.path)
  | ofKind letters =>
      letters.contains (match v.entry with
        | .file .. => 'f'
        | .directory => 'd'
        | .link _ => 'l')
  | negation c => !c.holds v

structure Extent where
  least : Nat := 0
  most : Option Nat := none

/-- What was read of a condition: how deeply it looks, the conditions joined so far, and those
of the part that is being read. -/
structure Reading where
  extent : Extent := {}
  parts : List (List Condition) := []
  part : List Condition := []

def quoted (t : Text) : Text :=
  Char.ofNat 0x60 :: t ++ ['\'']

/-- Takes a test, or how deeply to look, with the value behind its name; `negates` tells that
the test is negated. -/
def Reading.take (r : Reading) (negates : Bool) (name value : Text) : Except Text Reading := do
  let test (c : Condition) : Reading :=
    { r with part := r.part ++ [if negates then .negation c else c] }
  let pattern : Script.Pattern := .read (value.map fun c => { char := c })
  let depth : Except Text Nat :=
    match Text.natural? value with
    | some n => .ok n
    | none => .error ("Expected a positive decimal integer argument to ".toList ++ name ++
        ", but got ".toList ++ Text.inShellQuotes value)
  match String.ofList name with
  | "-name" => return test (.named false pattern)
  | "-path" => return test (.named true pattern)
  | "-type" =>
      match value.find? fun c => !"dfl".toList.contains c with
      | some c => throw ("Unknown argument to -type: ".toList ++ [c])
      | none => return test (.ofKind value)
  | "-maxdepth" => return { r with extent := { r.extent with most := some (← depth) } }
  | _ => return { r with extent := { r.extent with least := ← depth } }

def read : (negates : Bool) → Reading → List Text → Except Text Reading
  | _, r, [] => .ok r
  | negates, r, name :: rest =>
      match String.ofList name with
      | "!" | "-not" => read (!negates) r rest
      | "-a" | "-and" | "-print" => read negates r rest
      | "-o" | "-or" => read false { r with parts := r.parts ++ [r.part], part := [] } rest
      | "-name" | "-path" | "-type" | "-maxdepth" | "-mindepth" =>
          match rest with
          | [] => .error ("missing argument to ".toList ++ quoted name)
          | value :: rest =>
              match r.take negates name value with
              | .ok r => read false r rest
              | .error t => .error t
      | _ =>
          if name.head? = some '-' then .error ("unknown predicate ".toList ++ quoted name)
          else .error ("paths must precede expression: ".toList ++ quoted name)

def Reading.holds (r : Reading) (v : Visit) : Bool :=
  (r.parts ++ [r.part]).any fun part => part.all (Condition.holds v)

/-- Goes through what is at a path and, if it is a directory, below it, up to a depth, and tells
whether all of it was there. -/
def visit (r : Reading) : (left : Nat) → (depth : Nat) → (path : Text) → Task Bool
  | 0, _, _ => return true
  | left + 1, depth, path => do
      let s ← store
      match standing s .kept path with
      | .error cause =>
          complain (Text.inShellQuotes path ++ ": ".toList ++ cause.wording)
          return false
      | .ok (location, entry) =>
          if r.extent.least ≤ depth && r.holds ⟨path, entry⟩ then
            out (path ++ ['\n'])
          let mut isDone := true
          if entry = .directory && r.extent.most.all (fun n => depth < n) then
            for name in (s.namesIn location).map Text.ofBytes do
              unless ← visit r left (depth + 1) (inDirectory path name) do
                isDone := false
          return isDone

end Find

/-- Looks for files below paths, and prints the paths of those of which a condition holds. -/
def find : Utility := fun _ arguments => do
  let startsCondition (t : Text) : Bool :=
    t.head? == some '-' && 1 < t.length || t == ['!']
  let paths := arguments.takeWhile fun t => !startsCondition t
  match Find.read false {} (arguments.drop paths.length) with
  | .error t => fail 1 t
  | .ok r =>
      forAll (if paths.isEmpty then [['.']] else paths) (Find.visit r (maxNesting + 1) 0)

end Utility

end Imprint
