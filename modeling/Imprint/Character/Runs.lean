import Imprint.Character.Set
import Imprint.Text.Basic

/-!
# Runs

A table that tells something of every code point is written as runs: how many
code points come next, and a label for all of them.
-/

namespace Imprint

namespace Character

/-- Reads runs, each a number of decimal digits and a label without digits.  The run that is
being read starts at a code point; its number and its label, last first, are read so far. -/
def runsFrom (start size : Nat) (label : Text) : Text → List ((Nat × Nat) × String)
  | [] => [((start, start + size - 1), String.ofList label.reverse)]
  | c :: rest =>
      if c.isDigit then
        let digit := c.toNat - '0'.toNat
        if label.isEmpty then
          runsFrom start (10 * size + digit) [] rest
        else
          ((start, start + size - 1), String.ofList label.reverse) ::
            runsFrom (start + size) digit [] rest
      else
        runsFrom start size (c :: label) rest

def rangesOfRuns (wanted : String → Bool) (table : List String) : List (Nat × Nat) :=
  (runsFrom 0 0 [] (table.flatMap String.toList)).filterMap fun run =>
    if wanted run.2 then some run.1 else none

end Character

end Imprint
