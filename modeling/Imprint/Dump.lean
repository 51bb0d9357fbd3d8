import Imprint.Numeral
import Imprint.Sections

/-!
# Data dumps

A dump shows the bytes of a section in rows of an address and four words of
eight digits.  Each full row of the data section becomes four assumptions on
the data memory; padded rows and all other lines say nothing.
-/

namespace Imprint

/-- One word of initialized data: its index and its value. -/
structure DataWord where
  word : BitVec 32
  value : BitVec 32
deriving DecidableEq

namespace DataWord

/-- The assumption that the data memory holds the value at the word. -/
def statement (w : DataWord) : Text :=
  "assume (dmem[0x".toList ++ Radix.upperHex.numeral w.word.toNat ++ "bv30] == 0x".toList ++
    Radix.upperHex.padded 8 w.value.toNat ++ "bv32);".toList

end DataWord

/-- One full row of a dump: the index of its first word, and four values. -/
structure DumpRow where
  start : BitVec 32
  first : BitVec 32
  second : BitVec 32
  third : BitVec 32
  fourth : BitVec 32
deriving DecidableEq

namespace DumpRow

def words (r : DumpRow) : List DataWord :=
  [⟨r.start, r.first⟩, ⟨r.start + 1, r.second⟩, ⟨r.start + 2, r.third⟩, ⟨r.start + 3, r.fourth⟩]

def column? (t : Text) : Option (Text × Text) := do
  let rest ← Text.after? [' '] t
  rest.eightDigits?

/-- What may follow the words of a row: nothing, or two blanks and more and then
anything without a newline. -/
def endsRow : Text → Bool
  | [] => true
  | c :: d :: rest => Text.isBlank c && Text.isBlank d && !(Text.trimLeft rest).contains '\n'
  | _ => false

/-- Reads a row: five groups of eight digits with single spaces between them,
and an end that holds no further words. -/
def read? (line : Text) : Option DumpRow := do
  let (address, rest) ← line.eightDigits?
  let (a, rest) ← column? rest
  let (b, rest) ← column? rest
  let (c, rest) ← column? rest
  let (d, rest) ← column? rest
  if endsRow rest then
    some
      { start := BitVec.ofNat 32 address.hexValue >>> 2
        first := BitVec.ofNat 32 a.hexValue
        second := BitVec.ofNat 32 b.hexValue
        third := BitVec.ofNat 32 c.hexValue
        fourth := BitVec.ofNat 32 d.hexValue }
  else
    none

end DumpRow

namespace Dump

def dropColons (t : Text) : Text :=
  (t.reverse.dropWhile (· == ':')).reverse

/-- The section that a trimmed line announces, if it is a heading. -/
def heading? (line : Text) : Option Text :=
  (Text.after? "Contents of section ".toList line).map dropColons

def dataLines (dump : Text) : List Text :=
  Sections.under heading? Sections.data dump.trimmedLines

def rows (dump : Text) : List DumpRow :=
  (dataLines dump).filterMap DumpRow.read?

def skipped (dump : Text) : List Text :=
  (dataLines dump).filter fun line => (DumpRow.read? line).isNone

def words (dump : Text) : List DataWord :=
  (rows dump).flatMap DumpRow.words

def statements (dump : Text) : List Text :=
  (words dump).map DataWord.statement

end Dump

end Imprint
