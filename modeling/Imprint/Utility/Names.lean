import Imprint.Script.Builtin
import Imprint.Utility.Excerpt

/-!
# Utilities about names

The utilities that take paths apart, or test texts and files.
-/

namespace Imprint

namespace Utility

open Imprint.Task

def lastPiece (path : Text) : Text :=
  let trimmed := (path.reverse.dropWhile (· = '/')).reverse
  if trimmed = [] then path.take 1 else (trimmed.reverse.takeWhile (· ≠ '/')).reverse

def outerPath (path : Text) : Text :=
  let trimmed := path.reverse.dropWhile (· = '/')
  let outer := ((trimmed.dropWhile (· ≠ '/')).dropWhile (· = '/')).reverse
  if outer ≠ [] then outer else if path.head? = some '/' then ['/'] else ['.']

def withoutEnding (ending name : Text) : Text :=
  match Text.after? ending.reverse name.reverse with
  | some (c :: kept) => (c :: kept).reverse
  | _ => name

def basename : Utility := fun _ arguments => do
  let forms := [flag 'a' "multiple", valued 's' "suffix", flag 'z' "zero"]
  let (given, operands) ← leadingOptions forms arguments 1
  let ending := (value? given "suffix").getD []
  let final : Text := if has given "zero" then ['\x00'] else ['\n']
  let print (ending path : Text) : Task Unit := out (withoutEnding ending (lastPiece path) ++ final)
  match operands with
  | [] => misuse 1 "missing operand".toList
  | path :: rest =>
      if has given "multiple" || has given "suffix" then
        operands.forM (print ending)
      else
        match rest with
        | [] => print [] path
        | [ending] => print ending path
        | _ :: extra :: _ => misuse 1 ("extra operand ".toList ++ Text.inPlainQuotes extra)
      return 0

def dirname : Utility := fun _ arguments => do
  let (given, operands) ← options [flag 'z' "zero"] arguments 1
  if operands.isEmpty then
    misuse 1 "missing operand".toList
  for path in operands do
    out (outerPath path ++ if has given "zero" then ['\x00'] else ['\n'])
  return 0

def pathOf (location : Location) : Text :=
  '/' :: List.intercalate ['/'] (location.reverse.map Text.ofBytes)

def pwd : Utility := fun _ arguments => do
  let _ ← options [flag 'L' "logical", flag 'P' "physical"] arguments 1
  out (pathOf (← store).workingDirectory ++ ['\n'])
  return 0

/-- Tells by its status whether a condition holds.  Under its other name it wants a closing
bracket. -/
def test : Utility := fun system arguments => do
  let p ← get
  let arguments ←
    if lastPiece p.name = ['['] then
      if arguments.getLast? = some [']'] then pure arguments.dropLast
      else fail 2 "missing ']'".toList
    else
      pure arguments
  let c : Script.Condition.Context := ⟨p.files.store, system.fixture, fun t => p.files.changedAt? (Path.ofBytes t), true⟩
  let shown := Text.inPlainQuotes
  match Script.Condition.truth c (arguments.length + 1) arguments with
  | .ok truth => return if truth then 0 else 1
  | .error (.unexpected _ rest) =>
      match arguments with
      | [first, second] =>
          if first.length = 2 ∧ first.head? = some '-' then
            fail 2 (shown first ++ ": unary operator expected".toList)
          else
            fail 2 ("missing argument after ".toList ++ shown second)
      | [_, second, _] => fail 2 (shown second ++ ": binary operator expected".toList)
      | _ => fail 2 ("extra argument ".toList ++ shown (rest.headD []))
  | .error (.lonely o) => fail 2 ("missing argument after ".toList ++ shown o)
  | .error .unclosed => fail 2 ("missing argument after ".toList ++ shown (arguments.getLast?.getD []))
  | .error (.badNumber t) => fail 2 ("invalid integer ".toList ++ shown t)

end Utility

end Imprint
