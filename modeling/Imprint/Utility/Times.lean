import Imprint.Utility.Files
import Imprint.Utility.Output

/-!
# Utilities about time

The utilities that let time pass, and say when files were changed.
-/

namespace Imprint

namespace Utility

open Imprint.Task

def interval? (t : Text) : Option Nat :=
  let units : List (Char × Nat) := [('s', 1), ('m', 60), ('h', 3600), ('d', 86400)]
  let (body, unit) := match t.getLast?.bind fun c => units.lookup c with
    | some unit => (t.dropLast, unit)
    | none => (t, 1)
  match readFraction? 64 body with
  | some (false, .finite mantissa exponent, []) =>
      some (mantissa * unit * 1000000 * Nat.pow 2 exponent.toNat / Nat.pow 2 (-exponent).toNat)
  | some (false, .infinite, []) => some (Nat.pow 10 18)
  | _ => none

def sleep : Utility := fun _ arguments => do
  let (_, operands) ← options [] arguments 1
  if operands.isEmpty then
    misuse 1 "missing operand".toList
  let wrong := operands.filter fun t => (interval? t).isNone
  for t in wrong do
    complain ("invalid time interval ".toList ++ Text.inPlainQuotes t)
  unless wrong.isEmpty do
    seeHelp 1
  wait ((operands.filterMap interval?).foldl (· + ·) 0)
  return 0

/-- The count of days from the start of 1970 to a date.  Years begin in March here, so that a
leap day is the last of its year. -/
def daysOf (year : Int) (month day : Nat) : Int :=
  let y := if month ≤ 2 then year - 1 else year
  let era := Int.fdiv y 400
  let yearOfEra := y - era * 400
  let monthFromMarch : Int := ((month + 9) % 12 : Nat)
  let dayOfYear := (153 * monthFromMarch + 2) / 5 + day - 1
  let dayOfEra := yearOfEra * 365 + yearOfEra / 4 - yearOfEra / 100 + dayOfYear
  era * 146097 + dayOfEra - 719468

/-- The seconds from the start of 1970 to the moment from which the times of files count. -/
def beginning : Int :=
  daysOf 2026 1 1 * 86400

def numbers? (separator : Char) (t : Text) : Option (List Nat) :=
  (cutAt separator t).mapM Text.natural?

/-- The seconds from the start of 1970 to a moment: so many, or a date with or without a time of
day. -/
def secondsOf? (t : Text) : Option Int :=
  match t with
  | '@' :: digits => (Text.natural? digits).map fun n => (n : Int)
  | t =>
      match (Text.words t).map String.ofList with
      | [date] => day? date.toList
      | [date, time] => do
          let start ← day? date.toList
          match ← numbers? ':' time.toList with
          | [h, m] => some (start + (h * 3600 + m * 60 : Nat))
          | [h, m, s] => some (start + (h * 3600 + m * 60 + s : Nat))
          | _ => none
      | _ => none
where
  day? (t : Text) : Option Int :=
    match numbers? '-' t with
    | some [year, month, day] =>
        if 1 ≤ month ∧ month ≤ 12 ∧ 1 ≤ day ∧ day ≤ 31 then some (daysOf year month day * 86400)
        else none
    | _ => none

def touch : Utility := fun _ arguments => do
  let forms := [flag 'c' "no-create", valued 'd' "date", flag 'm' "", valued 'r' "reference"]
  let (given, operands) ← options forms arguments 1
  let time : Int ← match value? given "date", value? given "reference" with
    | some t, _ =>
        match secondsOf? t with
        | some seconds => pure ((seconds - beginning) * 1000000)
        | none => fail 1 ("invalid date format ".toList ++ Text.inPlainQuotes t)
    | none, some path =>
        match (← store).entry (Path.ofBytes path) with
        | .ok _ => pure (((← get).files.changedAt? (Path.ofBytes path)).getD 0)
        | .error cause =>
            fail 1 ("failed to get attributes of ".toList ++ Text.inShellQuotes path ++ ": ".toList ++
              cause.wording)
    | none, none => pure (← get).files.now
  if operands.isEmpty then
    misuse 1 "missing file operand".toList
  let stamp (path : Text) : Task Bool := do
    modify fun p =>
      match p.files.store.locate .followed (Path.ofBytes path) with
      | .ok (.found location) => { p with files := p.files.stamp location time }
      | _ => p
    return true
  forAll operands fun path => do
    match (← store).entry (Path.ofBytes path) with
    | .ok _ => stamp path
    | .error cause =>
        if has given "no-create" then
          return true
        if path.getLast? = some '/' then
          complain ("setting times of ".toList ++ Text.inShellQuotes path ++ ": ".toList ++ cause.wording)
          return false
        match ← change fun s => s.write (Path.ofBytes path) [] with
        | .ok () => stamp path
        | .error cause => cannot "touch" path cause

end Utility

end Imprint
