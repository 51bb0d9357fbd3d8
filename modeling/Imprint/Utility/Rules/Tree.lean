import Imprint.Regex.Basic

/-!
# Programs of rules

A program consists of rules, each of which says what is done with the records that a
pattern selects, and of functions.  Numbers are fractions in binary.
-/

namespace Imprint

namespace Utility

namespace Rules

/-- A variable: one of the whole program, or one of a function, by its place. -/
inductive Name where
  | shared (name : Text)
  | own (place : Nat)
deriving DecidableEq

inductive Operation where
  | add
  | subtract
  | multiply
  | divide
  | remainder
  | power
deriving DecidableEq

inductive Comparison where
  | equal
  | unequal
  | less
  | lessOrEqual
  | greater
  | greaterOrEqual
deriving DecidableEq

inductive Expression where
  | number (x : Float)
  | text (t : Text)
  | pattern (r : Regex)
  | variable (n : Name)
  | element (table : Name) (keys : List Expression)
  | field (index : Expression)
  | grouped (e : Expression)
  | tuple (es : List Expression)
  | assign (operation : Option Operation) (target value : Expression)
  | step (op : Operation) (isAfter : Bool) (target : Expression)
  | negated (e : Expression)
  | positive (e : Expression)
  | opposite (e : Expression)
  | arithmetic (op : Operation) (first second : Expression)
  | joined (first second : Expression)
  | compared (c : Comparison) (first second : Expression)
  | found (isWanted : Bool) (t : Expression) (pattern : Expression)
  | both (first second : Expression)
  | either (first second : Expression)
  | choice (condition yes no : Expression)
  | within (keys : List Expression) (table : Name)
  | call (function : Text) (arguments : List Expression)
  | builtin (name : Text) (arguments : List Expression)
  | nextRecord (target : Option Expression)
  | recordOfFile (file : Expression) (target : Option Expression)
  | recordOfCommand (command : Expression) (target : Option Expression)

/-- Where output goes: to a file that is written anew or continued, or to a command. -/
inductive Direction where
  | file
  | behindFile
  | command
deriving DecidableEq

inductive Statement where
  | expression (e : Expression)
  | print (es : List Expression) (to? : Option (Direction × Expression))
  | printFormat (es : List Expression) (to? : Option (Direction × Expression))
  | block (ss : List Statement)
  | branch (condition : Expression) (yes : Statement) (no : Option Statement)
  | whileLoop (condition : Expression) (body : Statement)
  | untilLoop (body : Statement) (condition : Expression)
  | forLoop (start condition step : Option Expression) (body : Statement)
  | forEach (key : Expression) (table : Name) (body : Statement)
  | leaveLoop
  | nextTurn
  | nextRecord
  | nextFile
  | exit (status : Option Expression)
  | giveBack (value : Option Expression)
  | delete (table : Name) (keys : Option (List Expression))

/-- Which records a rule is about: none, but the time before the first or behind the last one,
all, some, or all from one to another. -/
inductive Selection where
  | before
  | behind
  | all
  | only (condition : Expression)
  | range (first last : Expression)

/-- What is done with records; they are printed where nothing else is said. -/
structure Rule where
  selection : Selection
  action : Option Statement

/-- A function: its name, which of its arguments are tables, and its body. -/
structure Function where
  name : Text
  tables : List Bool
  body : Statement

structure Program where
  rules : List Rule := []
  functions : List Function := []

end Rules

end Utility

end Imprint
