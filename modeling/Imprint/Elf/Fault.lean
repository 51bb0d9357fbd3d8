import Imprint.Numeral

/-!
# Faults of ELF images

Why a byte string is no readable ELF image, and how each reason is worded.
-/

namespace Imprint

namespace Elf

/-- The two tables whose entries are counted against the length of the image. -/
inductive Table where
  | programHeaders
  | sectionHeaders
deriving DecidableEq

/-- What is wrong with an image that has the right magic number or is too short
to have one. -/
inductive Defect where
  | tooSmall
  | badClass (byte : UInt8)
  | badOrder (byte : UInt8)
  | nameTableBounds (size offset length : Nat) (overflowed : Bool)
  | sectionBounds (name offset size : Nat) (overflowed : Bool)
  | sectionAddress (name addr size : Nat)
  | tooManySymbols (offset count : Nat)
deriving DecidableEq

/-- Why an image cannot be read: a wrong magic number, a defect, a table too long
for the image, or bytes that end early or are no text. -/
inductive Fault where
  | badMagic (magic : Nat)
  | malformed (defect : Defect)
  | bufferTooShort (table : Table) (count : Nat)
  | unreadable
deriving DecidableEq

def Table.describe : Table → Text
  | programHeaders => "program headers".toList
  | sectionHeaders => "section headers".toList

def decimalText (n : Nat) : Text :=
  Radix.decimal.numeral n

def hexText (n : Nat) : Text :=
  Radix.lowerHex.numeral n

def truthText (b : Bool) : Text :=
  if b then "true".toList else "false".toList

def Defect.describe : Defect → Text
  | tooSmall => "Too small".toList
  | badClass byte => "invalid ELF class ".toList ++ hexText byte.toNat
  | badOrder byte => "invalid ELF endianness DATA type ".toList ++ hexText byte.toNat
  | nameTableBounds size offset length overflowed =>
      "Strtable size (".toList ++ decimalText size ++ ") + offset (".toList ++
        decimalText offset ++ ") is out of bounds for ".toList ++ decimalText length ++
        " #bytes. Overflowed: ".toList ++ truthText overflowed
  | sectionBounds name offset size overflowed =>
      "Section ".toList ++ decimalText name ++ " size (".toList ++ decimalText offset ++
        ") + offset (".toList ++ decimalText size ++ ") is out of bounds. Overflowed: ".toList ++
        truthText overflowed
  | sectionAddress name addr size =>
      "Section ".toList ++ decimalText name ++ " size (".toList ++ decimalText addr ++
        ") + addr (".toList ++ decimalText size ++
        ") is out of bounds. Overflowed: true".toList
  | tooManySymbols offset count =>
      "Too many ELF symbols (offset 0x".toList ++ hexText offset ++ ", count ".toList ++
        decimalText count ++ ")".toList

/-- The wording of a fault; bytes that end early have several and are given none. -/
def Fault.describe? : Fault → Option Text
  | badMagic magic => some ("Invalid magic number: 0x".toList ++ hexText magic)
  | malformed defect => some ("Malformed entity: ".toList ++ defect.describe)
  | bufferTooShort table count =>
      some ("Buffer is too short for ".toList ++ decimalText count ++ [' '] ++ table.describe)
  | unreadable => none

end Elf

end Imprint
