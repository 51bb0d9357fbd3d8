import Imprint.Text.Format

/-!
# Operands in messages

How messages show the operands they are about: between quotes, so that a shell
would read the same text back, or so that nothing garbles the line.  Characters
stand for bytes, and only those of ASCII are shown as they are.
-/

namespace Imprint

namespace Text

def isShown (c : Char) : Bool :=
  ' ' ≤ c && c ≤ '~'

def hiddenEscape (c : Char) : Text :=
  match [('\x07', 'a'), ('\x08', 'b'), ('\x0c', 'f'), ('\n', 'n'), ('\r', 'r'), ('\t', 't'),
      ('\x0b', 'v')].lookup c with
  | some letter => ['\\', letter]
  | none =>
      let octal := Format.octalRadix.numeral c.toNat
      '\\' :: List.replicate (3 - octal.length) '0' ++ octal

def hasMeaning (c : Char) : Bool :=
  !isShown c || c == Char.ofNat 0x60 || " !\"$&()*;<=>[^'|?\\".toList.contains c

def needsQuotes (t : Text) : Bool :=
  match t with
  | [] => true
  | ['{'] | ['}'] => true
  | '#' :: _ | '~' :: _ => true
  | t => t.any fun c => hasMeaning c && c != '\\' || c == '\\' && 1 < t.length

def isTame (c : Char) : Bool :=
  c.isAlphanum || " %+,-./:@_]'".toList.contains c || c == '#' || c == '~'

/-- A text between single quotes, where `isOpen` tells whether an escape stands before it. -/
def singleQuoted : (isOpen : Bool) → Text → Text
  | _, [] => ['\'']
  | isOpen, c :: rest =>
      let back : Text := if isOpen then ['\'', '\''] else []
      if c = '\'' then back ++ ['\'', '\\', '\'', '\''] ++ singleQuoted false rest
      else if isShown c then back ++ c :: singleQuoted false rest
      else (if isOpen then [] else ['\'', '$', '\'']) ++ hiddenEscape c ++ singleQuoted true rest

def inShellQuotes (t : Text) : Text :=
  if t.contains '\'' && t.all isTame && !t.any (fun c => c == '#' || c == '~') then
    '"' :: t ++ ['"']
  else
    '\'' :: singleQuoted false t

def asShellWord (t : Text) : Text :=
  if needsQuotes t then inShellQuotes t else t

def inPlainQuotes (t : Text) : Text :=
  '\'' :: (t.flatMap fun c =>
    if c = '\'' || c = '\\' then ['\\', c]
    else if isShown c then [c]
    else hiddenEscape c) ++ ['\'']

end Text

end Imprint
