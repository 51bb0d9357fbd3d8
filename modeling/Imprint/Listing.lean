import Imprint.Numeral
import Imprint.Sections

/-!
# Instruction listings

A listing shows the code of a binary, one instruction a line: address, encoding
and mnemonic.  The lines of the code section become assumptions on the
instruction memory, which is addressed by words of four bytes; other lines are
kept as comments.
-/

namespace Imprint

/-- One listed instruction: the index of its word, its encoding, and its text. -/
structure Instruction where
  word : BitVec 32
  bits : BitVec 32
  comment : Text
deriving DecidableEq

namespace Instruction

/-- What one character of a mnemonic becomes in a comment: a tab is a space,
and a comma is followed by a space. -/
def commentChar (c : Char) : Text :=
  if c = '\t' then [' '] else if c = ',' then [',', ' '] else [c]

/-- A mnemonic as a comment: trimmed, then spelled character by character. -/
def commentOf (rest : Text) : Text :=
  rest.trim.flatMap commentChar

/-- Reads a listing line: an address of eight digits and a colon, an encoding of
eight digits, and a mnemonic without newlines, with blanks between them. -/
def read? (line : Text) : Option Instruction := do
  let (address, rest) ← line.eightDigits?
  let rest ← Text.after? [':'] rest
  let rest ← rest.skipBlanks?
  let (encoding, rest) ← rest.eightDigits?
  let rest ← rest.skipBlanks?
  if rest.contains '\n' then
    none
  else
    some
      { word := BitVec.ofNat 32 address.hexValue >>> 2
        bits := BitVec.ofNat 32 encoding.hexValue
        comment := commentOf rest }

/-- The assumption that the instruction memory holds the encoding at the word. -/
def statement (i : Instruction) : Text :=
  "assume (imem[0x".toList ++ Radix.upperHex.numeral i.word.toNat ++ "bv30] == 0x".toList ++
    Radix.upperHex.padded 8 i.bits.toNat ++ "bv32); // ".toList ++ i.comment

end Instruction

/-- One line of the code section: an instruction, or any other line. -/
inductive ListingItem where
  | instruction (i : Instruction)
  | remark (line : Text)
deriving DecidableEq

namespace ListingItem

def ofLine (line : Text) : ListingItem :=
  match Instruction.read? line with
  | some i => .instruction i
  | none => .remark line

def isInstruction : ListingItem → Bool
  | instruction _ => true
  | remark _ => false

def statement : ListingItem → Text
  | instruction i => i.statement
  | remark line => "// ".toList ++ line

end ListingItem

/-- What the instruction pass keeps of a listing: the items of the code section,
and whether a heading names the data section. -/
structure Listing where
  items : List ListingItem
  hasData : Bool
deriving DecidableEq

namespace Listing

/-- The name in a heading: its last word, less one colon at the end. -/
def headingName (title : Text) : Text :=
  let word := title.words.getLast?.getD []
  if word.getLast? = some ':' then word.dropLast else word

/-- The section that a trimmed line announces, if it is a heading. -/
def heading? (line : Text) : Option Text :=
  (Text.after? "Disassembly of section ".toList line).map headingName

def read (listing : Text) : Listing :=
  let lines := listing.trimmedLines
  { items :=
      ((Sections.under heading? Sections.code lines).filter (· ≠ [])).map ListingItem.ofLine
    hasData := Sections.mentions heading? Sections.data lines }

def instructionCount (l : Listing) : Nat :=
  l.items.countP ListingItem.isInstruction

/-- The assumption that every word outside the `count` words from the program's
start holds a no-operation instruction. -/
def fill (count : Nat) : Text :=
  "assume (forall (a : mem_word_addr_t) :: (a < IMEM_PC_START || a >= IMEM_PC_START + ".toList ++
    Radix.decimal.numeral count ++ "bv30) ==> imem[a] == instructions.NOP);".toList

def statements (l : Listing) : List Text :=
  l.items.map ListingItem.statement ++ [fill l.instructionCount]

end Listing

end Imprint
