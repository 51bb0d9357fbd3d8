import Imprint.Regex.Reader

/-!
# Commands of edit scripts

An edit script is a list of commands, each for the lines that its selector picks.  A
block is a command that tells where it ends.
-/

namespace Imprint

namespace Utility

namespace Edit

/-- A line, or a set of lines.  Where no expression is given, the last one used counts. -/
inductive Address where
  | line (number : Nat)
  | every (first step : Nat)
  | last
  | fitting (pattern : Option Regex)

inductive RangeEnd where
  | at (address : Address)
  | behind (count : Nat)
  | multiple (factor : Nat)

/-- The lines that a command is for: all, those of an address, or ranges from an address
on.  A range may be open before the first line. -/
structure Selector where
  first : Option Address := none
  stop : Option RangeEnd := none
  fromStart : Bool := false
  negated : Bool := false

inductive Casing where
  | upper
  | lower
  | nextUpper
  | nextLower
  | plain
deriving DecidableEq

/-- A part of a replacement: a text, what a group matched, or a change of case. -/
inductive Piece where
  | text (t : Text)
  | group (index : Nat)
  | casing (c : Casing)

/-- A substitution: what is replaced and by what, from which match on, whether further ones
follow, and whether the result is printed or written to a file. -/
structure Substitution where
  pattern : Option Regex
  replacement : List Piece
  number : Nat := 1
  isGlobal : Bool := false
  prints : Bool := false
  file : Option Text := none

inductive Action where
  | block (stop : Nat)
  | close
  | label
  | jump (target : Option Text)
  | jumpIf (replaced : Bool) (target : Option Text)
  | append (t : Text)
  | insert (t : Text)
  | change (t : Text)
  | delete
  | deleteFirst
  | number
  | fileName
  | get
  | getAppend
  | hold
  | holdAppend
  | exchange
  | list (width : Option Nat)
  | next
  | nextAppend
  | print
  | printFirst
  | quit (status : Nat) (prints : Bool)
  | read (file : Text)
  | readLine (file : Text)
  | substitute (s : Substitution)
  | write (file : Text)
  | writeFirst (file : Text)
  | translate (table : List (Char × Char))
  | empty

structure Command where
  selector : Selector
  action : Action

structure Program where
  commands : Array Command
  labels : List (Text × Nat) := []

end Edit

end Utility

end Imprint
