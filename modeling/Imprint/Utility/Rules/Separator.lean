import Imprint.Path
import Imprint.Utility.Rules.Pattern

/-!
# Separators of rules

How a text is cut into fields, and an input into records.
-/

namespace Imprint

namespace Utility

namespace Rules

/-- What stands between fields: blanks, nothing, so that every character is a field, one
character, or what matches an expression. -/
inductive Separator where
  | blanks
  | nothing
  | mark (c : Char)
  | pattern (r : Regex)

/-- What stands behind records: empty lines, one character, or what matches an expression. -/
inductive Ending where
  | emptyLines
  | mark (c : Char)
  | pattern (r : Regex)

/-- The first place from `start` on at which an expression matches something, and the place behind
it. -/
def firstMatch? (r : Regex) (input : Array Char) (start : Nat) : Option (Nat × Nat) :=
  (List.range (input.size - start)).findSome? fun offset =>
    match r.longestAt input (start + offset) with
    | some (stop, _) => if start + offset < stop then some (start + offset, stop) else none
    | none => none

namespace Separator

/-- The separator that a text stands for, where an expression is read from longer ones. -/
def ofText (t : Text) : Except Pattern.Fault Separator :=
  match t with
  | [] => .ok nothing
  | [' '] => .ok blanks
  | [c] => .ok (mark c)
  | t => (Pattern.read t).map pattern

def words : (fuel : Nat) → Text → List Text
  | 0, _ => []
  | fuel + 1, t =>
      let isBlank (c : Char) : Bool := c == ' ' || c == '\t' || c == '\n'
      match t.dropWhile isBlank with
      | [] => []
      | t =>
          let word := t.takeWhile fun c => !isBlank c
          word :: words fuel (t.drop word.length)

def pieces (r : Regex) (input : Array Char) : (fuel start : Nat) → List Text
  | 0, start => [Regex.slice input start input.size]
  | fuel + 1, start =>
      match firstMatch? r input start with
      | some (first, stop) => Regex.slice input start first :: pieces r input fuel stop
      | none => [Regex.slice input start input.size]

def cut (s : Separator) (t : Text) : List Text :=
  if t.isEmpty then []
  else
    match s with
    | blanks => words (t.length + 1) t
    | nothing => t.map fun c => [c]
    | mark c => cutAt c t
    | pattern r => pieces r t.toArray t.length 0

end Separator

namespace Ending

/-- The ending that a text stands for, where an expression is read from longer ones. -/
def ofText (t : Text) : Except Pattern.Fault Ending :=
  match t with
  | [] => .ok emptyLines
  | [c] => .ok (mark c)
  | t => (Pattern.read t).map pattern

/-- An input as it is when reading begins: empty lines at its start do not count where they
end records. -/
def start (e : Ending) (t : Text) : Text :=
  match e with
  | emptyLines => t.dropWhile (· == '\n')
  | _ => t

/-- The text before the first empty line, and what stands behind all that follow it. -/
def paragraph : Text → Text × Text
  | '\n' :: '\n' :: rest => ([], rest.dropWhile (· == '\n'))
  | ['\n'] => ([], [])
  | [] => ([], [])
  | c :: rest =>
      let (t, behind) := paragraph rest
      (c :: t, behind)

def first? (e : Ending) (t : Text) : Option (Text × Text) :=
  if t.isEmpty then none
  else
    match e with
    | emptyLines => some (paragraph t)
    | mark c =>
        let record := t.takeWhile (· != c)
        some (record, t.drop (record.length + 1))
    | pattern r =>
        let input := t.toArray
        match firstMatch? r input 0 with
        | some (place, stop) => some (Regex.slice input 0 place, Regex.slice input stop input.size)
        | none => some (t, [])

end Ending

end Rules

end Utility

end Imprint
