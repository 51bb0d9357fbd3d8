import Imprint.Text.Format

/-!
# Numbers of rules

Numbers are fractions in binary with 53 bits, and infinite ones.  Texts begin with
numbers, and numbers are written in decimal, whole ones with all digits.
-/

namespace Imprint

namespace Utility

namespace Rules

namespace Number

def bits : Nat := 53

def most : Nat := Nat.pow 2 64 - 1

def split (x : Float) : Bool × Magnitude :=
  let n := x.toBits.toNat
  let isNegative := decide (Nat.pow 2 63 ≤ n)
  let power : Nat := n / Nat.pow 2 52 % 2048
  let rest := n % Nat.pow 2 52
  if power = 2047 then (if rest = 0 then (isNegative, .infinite) else (true, .undefined))
  else if power = 0 then (isNegative, .finite rest (-1074))
  else (isNegative, .finite (rest + Nat.pow 2 52) ((power : Int) - 1075))

def ofMagnitude (isNegative : Bool) (m : Magnitude) : Float :=
  let x : Float := match m with
    | .finite mantissa exponent => Float.scaleB (Float.ofNat mantissa) exponent
    | .infinite => 1.0 / 0.0
    | .undefined => 0.0 / 0.0
  if isNegative then -x else x

def ofInt (n : Int) : Float :=
  if n < 0 then -Float.ofNat n.natAbs else Float.ofNat n.toNat

def whole? (x : Float) : Option Int :=
  match split x with
  | (isNegative, .finite mantissa exponent) =>
      let n := if 0 ≤ exponent then mantissa * Nat.pow 2 exponent.toNat else mantissa / Nat.pow 2 (-exponent).toNat
      some (if isNegative then -(n : Int) else n)
  | _ => none

def bounded (x : Float) : Int :=
  match whole? x with
  | some n => max (-Nat.pow 2 63) (min n most)
  | none =>
      match split x with
      | (false, .infinite) => most
      | _ => -Nat.pow 2 63

def read? (t : Text) : Option (Float × Text) :=
  (readFraction? bits (t.dropWhile Char.isWhitespace)).map fun found =>
    (ofMagnitude found.1 found.2.1, found.2.2)

def ofText (t : Text) : Float :=
  match read? t with
  | some (x, _) => x
  | none => 0.0

def ofWhole? (t : Text) : Option Float :=
  let isBlank (c : Char) : Bool := c == ' ' || c == '\t' || c == '\n'
  let body := t.dropWhile isBlank
  match body with
  | [] => none
  | c :: _ =>
      if c.isDigit || c == '+' || c == '-' || c == '.' then
        match readFraction? bits body with
        | some (isNegative, m, rest) => if rest.all isBlank then some (ofMagnitude isNegative m) else none
        | none => none
      else
        none

def wholeText? (x : Float) : Option Text :=
  let n := bounded x
  if ofInt n == x then
    some ((if n < 0 then ['-'] else []) ++ Radix.decimal.numeral n.natAbs)
  else
    none

def remainder (x y : Float) : Float :=
  match split x, split y with
  | (isNegative, .finite m e), (_, .finite n f) =>
      if n = 0 then 0.0 / 0.0
      else
        let low := min e f
        let a := m * Nat.pow 2 (e - low).toNat
        let b := n * Nat.pow 2 (f - low).toNat
        ofMagnitude isNegative (.finite (a % b) low)
  | (_, .finite ..), (_, .infinite) => x
  | _, _ => 0.0 / 0.0

def truncated (x : Float) : Float :=
  if x < 0.0 then x.ceil else x.floor

end Number

end Rules

end Utility

end Imprint
