import Imprint.Numeral

/-!
# Escapes

A backslash makes another character of what follows it: of a letter, or of the
digits of a number.  Characters stand for bytes.
-/

namespace Imprint

namespace Text

def escapeLetter? (c : Char) : Option Char :=
  [('\\', '\\'), ('a', '\x07'), ('b', '\x08'), ('e', '\x1b'), ('f', '\x0c'), ('n', '\n'),
    ('r', '\r'), ('t', '\t'), ('v', '\x0b')].lookup c

def isOctalDigit (c : Char) : Bool :=
  '0' ≤ c && c ≤ '7'

def octalValue (digits : Text) : Nat :=
  digits.foldl (fun n c => 8 * n + (c.toNat - '0'.toNat)) 0

def octalEscape (t : Text) : Char × Text :=
  let digits := (t.take 3).takeWhile isOctalDigit
  (Char.ofNat (octalValue digits % 256), t.drop digits.length)

def hexEscape? (t : Text) : Option (Char × Text) :=
  let digits := (t.take 2).takeWhile isHexDigit
  if digits.isEmpty then none else some (Char.ofNat (hexValue digits), t.drop digits.length)

/-- What an escape does: it stands for a text, ends all output, or is broken. -/
inductive Escaped where
  | text (t rest : Text)
  | stop
  | broken (message : Text)

/-- The escape after a backslash, of a letter or an octal number.  A backslash before
anything else stands for itself. -/
def simpleEscape (t : Text) : Escaped :=
  match t with
  | [] => .text ['\\'] []
  | c :: rest =>
      if isOctalDigit c then
        let (d, rest) := octalEscape t
        .text [d] rest
      else
        match escapeLetter? c with
        | some d => .text [d] rest
        | none => .text ['\\'] t

/-- The escape after a backslash in a text to be printed: the letter `c` ends the output,
and an octal number may have one more zero in front. -/
def endingEscape (t : Text) : Escaped :=
  match t with
  | 'c' :: _ => .stop
  | '0' :: rest =>
      let (d, rest) := octalEscape rest
      .text [d] rest
  | _ => simpleEscape t

/-- Replaces escapes, and tells how it ends: by the end of all output, or with a message. -/
def unescape (escape : Text → Escaped) : (fuel : Nat) → Text → Text × Bool × Option Text
  | 0, _ => ([], false, none)
  | _ + 1, [] => ([], false, none)
  | fuel + 1, '\\' :: rest =>
      match escape rest with
      | .stop => ([], true, none)
      | .broken message => ([], true, some message)
      | .text t rest =>
          let (tail, ended) := unescape escape fuel rest
          (t ++ tail, ended)
  | fuel + 1, c :: rest =>
      let (tail, ended) := unescape escape fuel rest
      (c :: tail, ended)

end Text

end Imprint
