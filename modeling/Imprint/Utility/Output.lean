import Imprint.Text.Printing
import Imprint.Utility.Options

/-!
# Utilities that print

The utilities that print their arguments, or numbers.
-/

namespace Imprint

namespace Utility

open Imprint.Task

/-- The escape of a hexadecimal number after its letter; without digits there is none. -/
def hexEscaped (t : Text) (otherwise : Text.Escaped) : Text.Escaped :=
  match Text.hexEscape? t with
  | some (c, rest) => .text [c] rest
  | none => otherwise

def echoEscape (t : Text) : Text.Escaped :=
  match t with
  | 'x' :: rest => hexEscaped rest (.text ['\\'] t)
  | _ => Text.endingEscape t

/-- The letters of the options at the front of the arguments of `echo`, and the rest. -/
def echoOptions : List Text → Text × List Text
  | ('-' :: c :: letters) :: rest =>
      if (c :: letters).all fun c => "neE".toList.contains c then
        let (others, rest) := echoOptions rest
        (c :: letters ++ others, rest)
      else
        ([], ('-' :: c :: letters) :: rest)
  | rest => ([], rest)

def echo : Utility := fun _ arguments => do
  let (letters, arguments) := echoOptions arguments
  let line := List.intercalate [' '] arguments
  let escapes := (letters.reverse.find? (· ≠ 'n')) == some 'e'
  let (text, stopped) :=
    if escapes then
      let (text, stopped, _) := Text.unescape echoEscape (line.length + 1) line
      (text, stopped)
    else
      (line, false)
  out (if letters.contains 'n' || stopped then text else text ++ ['\n'])
  return 0

/-- A code point as an escape, with `count` digits after its letter; only those that ASCII
does not have are escaped. -/
def codePointEscape (letter : Char) (count : Nat) (t : Text) : Text.Escaped :=
  let digits := (t.take count).takeWhile Text.isHexDigit
  if digits.length < count then
    .broken "missing hexadecimal number in escape".toList
  else
    let value := Text.hexValue digits
    let rest := t.drop count
    if value < 0x80 then .text [Char.ofNat value] rest
    else if value < 0x10000 then .text ('\\' :: 'u' :: Radix.upperHex.padded 4 value) rest
    else .text ('\\' :: letter :: Radix.upperHex.padded 8 value) rest

def formatEscape (t : Text) : Text.Escaped :=
  match t with
  | 'c' :: _ => .stop
  | '"' :: rest => .text ['"'] rest
  | 'x' :: rest => hexEscaped rest (.broken "missing hexadecimal number in escape".toList)
  | 'u' :: rest => codePointEscape 'u' 4 rest
  | 'U' :: rest => codePointEscape 'U' 8 rest
  | _ => Text.simpleEscape t

def argumentEscape (t : Text) : Text.Escaped :=
  match t with
  | '0' :: _ => Text.endingEscape t
  | _ => formatEscape t

def allowsDirective (flags : Text) (hasPrecision : Bool) (letter : Char) : Bool :=
  let excluded : Text :=
    (if flags.contains '\'' || flags.contains 'I' then "aAceEosxX".toList else []) ++
      (if flags.contains '#' then "cdisu".toList else []) ++
      (if flags.contains '0' then "cs".toList else []) ++
      if hasPrecision then ['c'] else []
  if letter = 'b' ∨ letter = 'q' then flags.isEmpty && !hasPrecision
  else "aAcdeEfFgGiosuxX".toList.contains letter && !excluded.contains letter

def printingStyle : PrintingStyle where
  bits := 64
  escape := formatEscape
  argumentEscape := argumentEscape
  skipsSizes := true
  allows := allowsDirective
  shown := Text.inPlainQuotes
  takesEmpty := true
  warnsOfQuoted := true
  notNumeric := ": expected a numeric value".toList
  notWhole := ": value not completely converted".toList
  invalid := ": invalid conversion specification".toList
  missing directive := directive ++ ": invalid conversion specification".toList

def printf : Utility := fun _ arguments => do
  let arguments := match arguments with
    | ['-', '-'] :: rest => rest
    | arguments => arguments
  match arguments with
  | [] => misuse 1 "missing operand".toList
  | format :: arguments =>
      let p := Printing.run printingStyle format arguments
      for t in p.complaints.reverse do
        complain t
      out p.text
      match p.failure with
      | some t => fail 1 t
      | none =>
          unless p.stopped do
            match p.arguments with
            | a :: _ =>
                complain ("warning: ignoring excess arguments, starting with ".toList ++ Text.inPlainQuotes a)
            | [] => pure ()
          return if p.hasFailed then 1 else 0

structure Decimal where
  units : Int
  places : Nat

namespace Decimal

def withPlaces (d : Decimal) (places : Nat) : Int :=
  d.units * Nat.pow 10 (places - d.places)

def read? (t : Text) : Option Decimal := do
  let body := t.dropWhile Char.isWhitespace
  let (isNegative, body) := match body with
    | '-' :: rest => (true, rest)
    | '+' :: rest => (false, rest)
    | rest => (false, rest)
  let signed (n : Nat) : Int := if isNegative then -(n : Int) else n
  match body with
  | '0' :: 'x' :: digits =>
      if digits.all Text.isHexDigit && !digits.isEmpty then some ⟨signed (Text.hexValue digits), 0⟩ else none
  | _ =>
      let (whole, places, rest) ← readPlaces? Char.isDigit body
      let (power, rest) := readPower 'e' rest
      if rest.isEmpty && power.natAbs ≤ 400 then
        let n := Text.decimalValue (whole ++ places)
        let left := (places.length : Int) - power
        if 0 ≤ left then some ⟨signed n, left.toNat⟩ else some ⟨signed (n * Nat.pow 10 (-left).toNat), 0⟩
      else
        none

def text (units : Int) (places : Nat) : Text :=
  let f : Format := {}
  f.sign (decide (units < 0)) ++ f.positional units.natAbs (Nat.pow 10 places) places

end Decimal

def checkSequenceFormat (t : Text) : Except Text Unit :=
  let shown := "format ".toList ++ Text.inPlainQuotes t ++ " has ".toList
  let rec go : (fuel : Nat) → (found : Bool) → Text → Except Text Unit
    | 0, _, _ => .ok ()
    | _ + 1, found, [] => if found then .ok () else .error (shown ++ "no % directive".toList)
    | fuel + 1, found, '%' :: '%' :: rest => go fuel found rest
    | fuel + 1, found, '%' :: rest =>
        if found then .error (shown ++ "too many % directives".toList)
        else
          match rest.dropWhile fun c => "-+#0 '.".toList.contains c || c.isDigit with
          | [] => .error (shown.take (shown.length - 4) ++ "ends in %".toList)
          | c :: rest =>
              if "efgaEFGA".toList.contains c then go fuel true rest
              else .error (shown ++ "unknown %".toList ++ c :: " directive".toList)
    | fuel + 1, found, _ :: rest => go fuel found rest
  go (t.length + 1) false t

def seq : Utility := fun _ arguments => do
  let rules : OptionRules :=
    { forms := [valued 's' "separator", valued 'f' "format", flag 'w' "equal-width"]
      permutes := false
      isOperand := fun t => match t.drop 1 with
        | c :: _ => c.isDigit || c == '.'
        | [] => false }
  let (given, operands) ← optionsBy rules arguments 1
  if operands.isEmpty then
    misuse 1 "missing operand".toList
  match operands.drop 3 with
  | extra :: _ => misuse 1 ("extra operand ".toList ++ Text.inPlainQuotes extra)
  | [] => pure ()
  match value? given "format" with
  | none => pure ()
  | some format =>
      if let .error t := checkSequenceFormat format then
        fail 1 t
      if has given "equal-width" then
        misuse 1 "format string may not be specified when printing equal width strings".toList
  let number (t : Text) : Task Decimal := do
    match Decimal.read? t with
    | some d => return d
    | none => misuse 1 ("invalid floating point argument: ".toList ++ Text.inPlainQuotes t)
  let (first, step, last) ← match operands with
    | [last] => pure (⟨1, 0⟩, ⟨1, 0⟩, ← number last)
    | [first, last] => do
        let first ← number first
        pure (first, ⟨1, 0⟩, ← number last)
    | first :: step :: last :: _ => do
        let first ← number first
        let parsed ← number step
        if parsed.units = 0 then
          misuse 1 ("invalid Zero increment value: ".toList ++ Text.inPlainQuotes step)
        pure (first, parsed, ← number last)
    | [] => pure (⟨1, 0⟩, ⟨1, 0⟩, ⟨0, 0⟩)
  let places := max first.places step.places
  let scale := max places last.places
  let start := first.withPlaces scale
  let stride := step.withPlaces scale
  let stop := last.withPlaces scale
  let count : Nat :=
    if 0 < stride then (if start ≤ stop then ((stop - start) / stride).toNat + 1 else 0)
    else if stop ≤ start then ((start - stop) / -stride).toNat + 1 else 0
  let unit : Int := Nat.pow 10 (scale - places)
  let texts := (List.range count).map fun (i : Nat) => Decimal.text ((start + (i : Int) * stride) / unit) places
  let texts ← match value? given "format" with
    | some format => pure (texts.map fun t => (Printing.run printingStyle format [t]).text)
    | none =>
        if has given "equal-width" then
          let bound := Decimal.text (stop / unit) places
          let width := (bound :: texts.take 1 ++ texts.drop (count - 1)).foldl (fun w t => max w t.length) 0
          let f : Format := { width := width, zeros := true }
          pure (texts.map fun t => match t with
            | '-' :: digits => f.padNumber true ['-'] digits
            | digits => f.padNumber true [] digits)
        else
          pure texts
  unless texts.isEmpty do
    out (List.intercalate ((value? given "separator").getD ['\n']) texts ++ ['\n'])
  return 0

end Utility

end Imprint
