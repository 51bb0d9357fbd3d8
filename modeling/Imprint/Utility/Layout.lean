import Imprint.Utility.Excerpt

/-!
# The utility that breaks lines

Lines that are too long are broken.  Columns count from zero.
-/

namespace Imprint

namespace Utility

open Imprint.Task

/-- Gives digits behind a dash, or behind letters of options without values, as the value of an
option.  The value of that option itself is left as it is. -/
def numberOptions (flags : Text) (letter : Char) : (isValue : Bool) → List Text → List Text
  | _, [] => []
  | true, a :: rest => a :: numberOptions flags letter false rest
  | false, a :: rest =>
      match a with
      | ['-', '-'] => a :: rest
      | '-' :: t =>
          let lead := t.takeWhile flags.contains
          let number := t.drop lead.length
          if number.head?.any Char.isDigit then
            (if lead.isEmpty then id else (('-' :: lead) :: ·))
              (('-' :: letter :: number) :: numberOptions flags letter false rest)
          else
            a :: numberOptions flags letter (number == [letter]) rest
      | _ => a :: numberOptions flags letter false rest

structure Folding where
  width : Nat := 80
  byBytes : Bool := false
  atBlanks : Bool := false

namespace Folding

def columnAfter (f : Folding) (column : Nat) (c : Char) : Nat :=
  if f.byBytes then column + 1
  else if c = '\x08' then column - 1
  else if c = '\r' then 0
  else if c = '\t' then column / 8 * 8 + 8
  else column + 1

def columnBehind (f : Folding) (t : Text) : Nat :=
  t.foldl f.columnAfter 0

/-- Breaks a line without its end, where what is already on the last line is given last
first. -/
def line (f : Folding) : (fuel : Nat) → (column : Nat) → (reversed : Text) → Text → Text
  | 0, _, reversed, t => reversed.reverse ++ t
  | _ + 1, _, reversed, [] => reversed.reverse
  | fuel + 1, column, reversed, c :: rest =>
      let next := f.columnAfter column c
      if next ≤ f.width then
        line f fuel next (c :: reversed) rest
      else
        let isFieldBlank (d : Char) : Bool := d == ' ' || d == '\t'
        let tail := (reversed.takeWhile fun d => !isFieldBlank d).reverse
        if f.atBlanks && reversed.any isFieldBlank then
          (reversed.drop tail.length).reverse ++ '\n' ::
            line f fuel (f.columnBehind tail) tail.reverse (c :: rest)
        else if reversed.isEmpty then
          line f fuel next [c] rest
        else
          reversed.reverse ++ '\n' :: line f fuel 0 [] (c :: rest)

def text (f : Folding) (t : Text) : Text :=
  (Text.records '\n' t).flatMap fun record =>
    let body := Text.withoutEnd '\n' record
    f.line (4 * body.length + 4) 0 [] body ++ record.drop body.length

end Folding

def fold : Utility := fun _ arguments => do
  let forms := [flag 'b' "bytes", flag 's' "spaces", valued 'w' "width"]
  let columnsOf (g : Given) : Except Complaint Int := wholeNumber "invalid number of columns" 1 g.value
  let rules : OptionRules :=
    { forms := forms
      check := fun g => if g.name = "width" then faultOf (columnsOf g) else none }
  let (given, operands) ← optionsBy rules (numberOptions "bs".toList 'w' false arguments) 1
  let width : Int := ((given.reverse.find? fun g => g.name == "width").bind
    fun g => (columnsOf g).toOption).getD 80
  let f : Folding :=
    { width := width.toNat, byBytes := has given "bytes", atBlanks := has given "spaces" }
  forAll (orInput operands) fun operand => do
    match ← contents operand with
    | .ok t =>
        out (f.text t)
        return true
    | .error cause =>
        refuse operand cause
        return false

end Utility

end Imprint
