import Imprint.Text.Basic

/-!
# Numerals

Numbers are written in a radix, without leading zeros or padded to a fixed
count of digits, and hexadecimal digits are read back in either case.
-/

namespace Imprint

/-- A radix is a base above one together with its digits. -/
structure Radix where
  base : Nat
  digit : Nat → Char
  two_le_base : 2 ≤ base := by decide

namespace Radix

/-- The digit characters of bases up to sixteen, with the given first letter. -/
def digitFrom (letter : Char) (n : Nat) : Char :=
  if n < 10 then Char.ofNat ('0'.toNat + n) else Char.ofNat (letter.toNat + (n - 10))

def decimal : Radix where
  base := 10
  digit := digitFrom 'a'

def upperHex : Radix where
  base := 16
  digit := digitFrom 'A'

def lowerHex : Radix where
  base := 16
  digit := digitFrom 'a'

/-- The numeral of a number without leading zeros; zero is a single digit. -/
def numeral (r : Radix) (n : Nat) : Text :=
  if _h : n < r.base then
    [r.digit n]
  else
    numeral r (n / r.base) ++ [r.digit (n % r.base)]
termination_by n
decreasing_by
  have := r.two_le_base
  exact Nat.div_lt_self (by omega) (by omega)

/-- The last `count` digits of a number, with zeros in front where it has fewer. -/
def padded (r : Radix) : Nat → Nat → Text
  | 0, _ => []
  | count + 1, n => padded r count (n / r.base) ++ [r.digit (n % r.base)]

@[simp] theorem length_padded (r : Radix) (count n : Nat) : (r.padded count n).length = count := by
  induction count generalizing n with
  | zero =>
      rfl
  | succ count ih =>
      simp [padded, ih]

end Radix

namespace Text

/-- The digits `0` to `9` and the letters `a` to `f` in either case. -/
def isHexDigit (c : Char) : Bool :=
  ('0' ≤ c && c ≤ '9') || ('a' ≤ c && c ≤ 'f') || ('A' ≤ c && c ≤ 'F')

def hexDigitValue (c : Char) : Nat :=
  if 'a' ≤ c then c.toNat - 'a'.toNat + 10
  else if 'A' ≤ c then c.toNat - 'A'.toNat + 10
  else c.toNat - '0'.toNat

/-- The value of a sequence of hexadecimal digits, most significant first. -/
def hexValue (digits : Text) : Nat :=
  digits.foldl (fun value c => 16 * value + hexDigitValue c) 0

/-- The value of a sequence of decimal digits, most significant first. -/
def decimalValue (digits : Text) : Nat :=
  digits.foldl (fun value c => 10 * value + (c.toNat - '0'.toNat)) 0

def natural? (t : Text) : Option Nat :=
  if t ≠ [] ∧ t.all Char.isDigit then some (decimalValue t) else none

/-- Takes eight hexadecimal digits from the front and gives them and the rest. -/
def eightDigits? (t : Text) : Option (Text × Text) :=
  let digits := t.take 8
  if digits.length = 8 ∧ digits.all isHexDigit then some (digits, t.drop 8) else none

theorem eq_append_of_eightDigits? {t digits rest : Text}
    (h : t.eightDigits? = some (digits, rest)) : t = digits ++ rest := by
  simp only [eightDigits?] at h
  split at h
  · simp only [Option.some.injEq, Prod.mk.injEq] at h
    rw [← h.1, ← h.2, List.take_append_drop]
  · exact absurd h (by simp)

end Text

end Imprint
