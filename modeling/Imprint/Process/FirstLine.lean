import Imprint.Text.Basic

/-!
# First lines

The first line of a script names its interpreter and may hold one argument for it.
Only so much of a file is looked at, and zero bytes stand behind a short one.  A
name that may have been cut off is refused, an argument is not.
-/

namespace Imprint

namespace FirstLine

def size : Nat := 256

def isSpace (c : Char) : Bool :=
  c == ' ' || c == '\t'

def endsName (c : Char) : Bool :=
  isSpace c || c == '\x00'

def upToZero (t : Text) : Text :=
  t.takeWhile (· ≠ '\x00')

def withoutEndBlanks (t : Text) : Text :=
  (t.reverse.dropWhile isSpace).reverse

/-- The part of a file behind its first two characters that counts, if no name is cut off. -/
def part? (rest : Text) : Option Text :=
  let line := rest.takeWhile fun c => c != '\n' && c != '\x00'
  match rest.drop line.length with
  | '\n' :: _ => some (withoutEndBlanks line)
  | _ =>
      let seen := rest.dropLast
      if (seen.dropWhile isSpace).any endsName then some (withoutEndBlanks seen) else none

/-- The interpreter of a script and the argument given to it, if a file is a script. -/
def interpreter? (contents : Text) : Option (Text × List Text) :=
  match (contents ++ List.replicate size '\x00').take size with
  | '#' :: '!' :: rest =>
      match part? rest with
      | none => none
      | some t =>
          match t.dropWhile isSpace with
          | [] => none
          | t =>
              let name := t.takeWhile fun c => !endsName c
              match t.drop name.length with
              | [] | '\x00' :: _ => some (name, [])
              | behind =>
                  match behind.dropWhile isSpace with
                  | [] => some (name, [])
                  | argument => some (name, [upToZero argument])
  | _ => none

end FirstLine

end Imprint
