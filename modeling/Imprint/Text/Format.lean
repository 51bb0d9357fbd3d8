import Imprint.Numeral

/-!
# Formats of numbers and texts

A format says how a text or a number fills a field: its width, on which side it
stands, its sign, and its precision.  Fractions are binary ones, rounded to a
count of bits, and their decimals are exact.
-/

namespace Imprint

structure Format where
  left : Bool := false
  plus : Bool := false
  space : Bool := false
  alternate : Bool := false
  zeros : Bool := false
  width : Nat := 0
  precision : Option Nat := none

/-- A number that is not negative: so many times a power of two, or beyond all. -/
inductive Magnitude where
  | finite (mantissa : Nat) (exponent : Int)
  | infinite
  | undefined
deriving DecidableEq

namespace Magnitude

def roundedQuotient (a b : Nat) : Nat :=
  let q := a / b
  let r := a % b
  if 2 * r < b then q else if b < 2 * r then q + 1 else if q % 2 = 0 then q else q + 1

def ofQuotient (bits : Nat) (a b : Nat) : Magnitude :=
  if a = 0 then .finite 0 0
  else
    let shift : Int := (Nat.log2 a : Int) - Nat.log2 b - bits
    let scaled (shift : Int) : Nat :=
      if 0 ≤ shift then roundedQuotient a (b * Nat.pow 2 shift.toNat)
      else roundedQuotient (a * Nat.pow 2 (-shift).toNat) b
    let first := scaled shift
    if first < Nat.pow 2 bits then .finite first shift else .finite (scaled (shift + 1)) (shift + 1)

def quotient (mantissa : Nat) (exponent : Int) : Nat × Nat :=
  if 0 ≤ exponent then (mantissa * Nat.pow 2 exponent.toNat, 1)
  else (mantissa, Nat.pow 2 (-exponent).toNat)

end Magnitude

namespace Format

def pad (f : Format) (t : Text) : Text :=
  let blanks := List.replicate (f.width - t.length) ' '
  if f.left then t ++ blanks else blanks ++ t

def padNumber (f : Format) (withZeros : Bool) (sign digits : Text) : Text :=
  if f.zeros && withZeros && !f.left then
    sign ++ List.replicate (f.width - sign.length - digits.length) '0' ++ digits
  else
    f.pad (sign ++ digits)

def text (f : Format) (t : Text) : Text :=
  f.pad (match f.precision with
    | some n => t.take n
    | none => t)

def digits (f : Format) (r : Radix) (n : Nat) : Text :=
  match f.precision with
  | none => r.numeral n
  | some count =>
      let t := if n = 0 then [] else r.numeral n
      List.replicate (count - t.length) '0' ++ t

def sign (f : Format) (isNegative : Bool) : Text :=
  if isNegative then ['-'] else if f.plus then ['+'] else if f.space then [' '] else []

def integer (f : Format) (n : Int) : Text :=
  f.padNumber f.precision.isNone (f.sign (decide (n < 0))) (f.digits .decimal n.natAbs)

def octalRadix : Radix where
  base := 8
  digit := Radix.digitFrom 'a'

def natural (f : Format) (letter : Char) (n : Nat) : Text :=
  match letter with
  | 'x' => f.padNumber f.precision.isNone
      (if f.alternate && n != 0 then ['0', 'x'] else []) (f.digits .lowerHex n)
  | 'X' => f.padNumber f.precision.isNone
      (if f.alternate && n != 0 then ['0', 'X'] else []) (f.digits .upperHex n)
  | 'o' =>
      let t := f.digits octalRadix n
      f.padNumber f.precision.isNone [] (if f.alternate && t.head? != some '0' then '0' :: t else t)
  | _ => f.padNumber f.precision.isNone [] (f.digits .decimal n)

/-- The nearest decimal with a count of places behind the point, as digits without it. -/
def decimals (a b places : Nat) : Nat :=
  Magnitude.roundedQuotient (a * Nat.pow 10 places) b

def positional (f : Format) (a b places : Nat) : Text :=
  let t := Radix.decimal.numeral (decimals a b places)
  let t := List.replicate (places + 1 - t.length) '0' ++ t
  let whole := t.take (t.length - places)
  if places = 0 then (if f.alternate then whole ++ ['.'] else whole)
  else whole ++ '.' :: t.drop (t.length - places)

/-- The nearest decimal of a count of digits, and the power of ten of its first digit. -/
def significant (a b count : Nat) : Nat × Int :=
  if a = 0 then (0, 0)
  else
    let lengthOf (n : Nat) : Int := (Radix.decimal.numeral n).length
    let guess : Int := lengthOf a - lengthOf b
    let scaled (power : Int) : Nat :=
      let shift := (count : Int) - 1 - power
      if 0 ≤ shift then Magnitude.roundedQuotient (a * Nat.pow 10 shift.toNat) b
      else Magnitude.roundedQuotient a (b * Nat.pow 10 (-shift).toNat)
    let first := scaled (guess - 1)
    let power := if first < Nat.pow 10 count then guess - 1 else guess
    let n := scaled power
    if n < Nat.pow 10 count then (n, power) else (n / 10, power + 1)

def exponent (letter : Char) (power : Int) : Text :=
  let t := Radix.decimal.numeral power.natAbs
  letter :: (if power < 0 then '-' else '+') :: List.replicate (2 - t.length) '0' ++ t

def pointed (f : Format) (t : Text) : Text :=
  match t with
  | [d] => if f.alternate then [d, '.'] else [d]
  | d :: rest => d :: '.' :: rest
  | [] => []

def scientific (f : Format) (letter : Char) (a b places : Nat) : Text :=
  let (n, power) := significant a b (places + 1)
  let t := Radix.decimal.numeral n
  let t := List.replicate (places + 1 - t.length) '0' ++ t
  f.pointed t ++ exponent letter power

def withoutZeros (t : Text) : Text :=
  if t.contains '.' then
    let kept := t.reverse.dropWhile (· = '0')
    (if kept.head? = some '.' then kept.drop 1 else kept).reverse
  else
    t

def general (f : Format) (letter : Char) (a b count : Nat) : Text :=
  let count := max count 1
  let power := (significant a b count).2
  if -4 ≤ power ∧ power < count then
    let t := f.positional a b ((count : Int) - 1 - power).toNat
    if f.alternate then t else withoutZeros t
  else
    let t := f.scientific letter a b (count - 1)
    if f.alternate then t
    else
      let lead := t.takeWhile (· ≠ letter)
      withoutZeros lead ++ t.drop lead.length

/-- A number in base sixteen with a power of two, whose first digit has a count of bits. -/
def hexadecimal (f : Format) (leadBits : Nat) (letter : Char) (mantissa : Nat) (power : Int) :
    Text :=
  let radix : Radix := if letter = 'A' then .upperHex else .lowerHex
  let marks : Text := if letter = 'A' then ['0', 'X'] else ['0', 'x']
  let p := if letter = 'A' then 'P' else 'p'
  if mantissa = 0 then marks ++ ['0', p, '+', '0']
  else
    let bits := Nat.log2 mantissa + 1 - leadBits
    let places := (bits + 3) / 4
    let t := radix.numeral (mantissa * Nat.pow 2 (leadBits - 1 - Nat.log2 mantissa) * Nat.pow 2 (4 * places - bits))
    let t := f.pointed (t.take 1 ++ ((t.drop 1).reverse.dropWhile (· = '0')).reverse)
    let power := power + Nat.log2 mantissa - (leadBits - 1 : Nat)
    marks ++ t ++ p :: (if power < 0 then '-' else '+') :: Radix.decimal.numeral power.natAbs

def fraction (f : Format) (bits : Nat) (letter : Char) (isNegative : Bool) (m : Magnitude) : Text :=
  let leadBits := (bits - 1) % 4 + 1
  let places := f.precision.getD 6
  let upper (t : Text) : Text := if letter.isUpper then t.map Char.toUpper else t
  let sign := f.sign isNegative
  match m with
  | .infinite => f.pad (sign ++ upper "inf".toList)
  | .undefined => f.pad (sign ++ upper "nan".toList)
  | .finite mantissa power =>
      let (a, b) := Magnitude.quotient mantissa power
      let t := match letter with
        | 'e' => f.scientific 'e' a b places
        | 'E' => f.scientific 'E' a b places
        | 'g' => f.general 'e' a b places
        | 'G' => f.general 'E' a b places
        | 'a' => f.hexadecimal leadBits 'a' mantissa power
        | 'A' => f.hexadecimal leadBits 'A' mantissa power
        | _ => f.positional a b places
      f.padNumber true sign t

end Format

/-- A power at the front of a text behind its letter, and the rest; without digits there is
none. -/
def readPower (letter : Char) (t : Text) : Int × Text :=
  match t with
  | e :: rest =>
      let (negated, digits) := match rest with
        | '-' :: more => (true, more)
        | '+' :: more => (false, more)
        | more => (false, more)
      let power := digits.takeWhile Char.isDigit
      if e.toLower == letter && !power.isEmpty then
        let n : Int := (Text.decimalValue power : Nat)
        (if negated then -n else n, digits.drop power.length)
      else
        (0, t)
  | [] => (0, [])

/-- Digits at the front of a text with a point among them: those before it, those behind it,
and the rest.  There has to be one. -/
def readPlaces? (isDigit : Char → Bool) (t : Text) : Option (Text × Text × Text) :=
  let whole := t.takeWhile isDigit
  let behind := t.drop whole.length
  let (places, rest) := match behind with
    | '.' :: rest =>
        let places := rest.takeWhile isDigit
        (places, rest.drop places.length)
    | rest => ([], rest)
  if whole.isEmpty && places.isEmpty then none else some (whole, places, rest)

/-- A number in decimal at the front of a text, with places and a power of ten or not: its
magnitude to a count of bits, and what follows it. -/
def decimalFraction? (bits : Nat) (t : Text) : Option (Magnitude × Text) := do
  let (whole, places, rest) ← readPlaces? Char.isDigit t
  let (power, rest) := readPower 'e' rest
  let n := Text.decimalValue (whole ++ places)
  let power := power - places.length
  let m : Magnitude :=
    if n = 0 then .finite 0 0
    else if power < -5000 then .finite 0 0
    else if 5000 < power then .infinite
    else if 0 ≤ power then Magnitude.ofQuotient bits (n * Nat.pow 10 power.toNat) 1
    else Magnitude.ofQuotient bits n (Nat.pow 10 (-power).toNat)
  pure (m, rest)

def hexFraction? (bits : Nat) (t : Text) : Option (Magnitude × Text) := do
  let (whole, places, rest) ← readPlaces? Text.isHexDigit t
  let (power, rest) := readPower 'p' rest
  let n := Text.hexValue (whole ++ places)
  let m := match Magnitude.ofQuotient bits n 1 with
    | .finite mantissa exponent => .finite mantissa (exponent + power - 4 * places.length)
    | other => other
  pure (m, rest)

/-- A number at the front of a text with a sign or not: whether it is negative, its magnitude
to a count of bits, and what follows it. -/
def readFraction? (bits : Nat) (t : Text) : Option (Bool × Magnitude × Text) :=
  let (isNegative, body) := match t with
    | '-' :: rest => (true, rest)
    | '+' :: rest => (false, rest)
    | rest => (false, rest)
  let named (name : String) : Option Text :=
    if (body.take name.length).map Char.toLower = name.toList then some (body.drop name.length)
    else none
  match named "infinity" <|> named "inf", named "nan" with
  | some rest, _ => some (isNegative, .infinite, rest)
  | none, some rest => some (isNegative, .undefined, rest)
  | none, none =>
      match body with
      | '0' :: x :: digits =>
          match if x = 'x' ∨ x = 'X' then hexFraction? bits digits else none with
          | some (m, rest) => some (isNegative, m, rest)
          | none => (decimalFraction? bits body).map fun read => (isNegative, read.1, read.2)
      | _ => (decimalFraction? bits body).map fun read => (isNegative, read.1, read.2)

end Imprint
