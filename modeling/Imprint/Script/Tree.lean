import Imprint.Text.Basic

/-!
# Trees of scripts

A script is a sequence of commands; commands are made of words, and words of
parts, some of which hold words or commands again.  Characters stand for bytes.
-/

namespace Imprint

namespace Script

/-- What is done with the value of a parameter.  Where `nullToo` holds, an empty value
counts as no value. -/
inductive Operator where
  | value
  | length
  | orElse (nullToo : Bool)
  | orAssign (nullToo : Bool)
  | orFail (nullToo : Bool)
  | ifSet (nullToo : Bool)
  | trim (fromEnd longest : Bool)
  | unknown
deriving DecidableEq

inductive Opening where
  | reading
  | writing
  | appending
  | both
  | clobbering
deriving DecidableEq

mutual

/-- A part of a word.  Quoted parts stand for themselves, and an empty one marks that
there were quotes. -/
inductive Part where
  | plain (t : Text)
  | quoted (t : Text)
  | parameter (name : Text) (operator : Operator) (word : List Part) (isQuoted : Bool)
  | output (body : Command) (isQuoted : Bool)
  | arithmetic (expression : List Part) (isQuoted : Bool)

/-- Where a descriptor leads: to a file, to what another descriptor leads to, or to a
document that follows in the script. -/
inductive Redirection where
  | file (descriptor : Nat) (opening : Opening) (target : List Part)
  | copy (descriptor : Nat) (source : Nat)
  | close (descriptor : Nat)
  | copyNamed (descriptor : Nat) (source : List Part)
  | document (descriptor : Nat) (id : Nat)

/-- A command; those that report errors know the line on which they stand. -/
inductive Command where
  | skip
  | simple (line : Nat) (assignments : List (Text × List Part)) (words : List (List Part))
      (redirections : List Redirection)
  | pipeline (commands : List Command) (inBackground : Bool)
  | negated (body : Command)
  | sequence (commands : List Command)
  | both (first second : Command)
  | either (first second : Command)
  | branch (condition consequence alternative : Command)
  | loop (wanted : Bool) (condition body : Command)
  | forEach (line : Nat) (name : Text) (values : List (List Part)) (body : Command)
  | choose (line : Nat) (subject : List Part) (arms : List (List (List Part) × Command))
  | subshell (line : Nat) (inBackground : Bool) (body : Command)
      (redirections : List Redirection)
  | redirected (line : Nat) (body : Command) (redirections : List Redirection)
  | definition (line : Nat) (name : Text) (body : Command)

end

abbrev Word := List Part

instance : Inhabited Command := ⟨.skip⟩

def Command.isSkip : Command → Bool
  | .skip => true
  | _ => false

def backquote : Char := Char.ofNat 0x60

def isNameStart (c : Char) : Bool :=
  c.isAlpha || c == '_'

def isNameChar (c : Char) : Bool :=
  c.isAlphanum || c == '_'

def isName : Text → Bool
  | [] => false
  | c :: rest => isNameStart c && rest.all isNameChar

def isSpecial (c : Char) : Bool :=
  c.isDigit || "!#$*-?@".toList.contains c

def plain? : Word → Option Text
  | [] => some []
  | .plain t :: rest => (plain? rest).map (t ++ ·)
  | _ :: _ => none

def literal : Word → Text
  | [] => []
  | .plain t :: rest => t ++ literal rest
  | .quoted t :: rest => t ++ literal rest
  | _ :: rest => literal rest

end Script

end Imprint
