import Imprint.Failure
import Imprint.Text.Quoted

/-!
# Events

What a run reports while it works: each event has a level of detail, the part
of the program that it comes from, and a wording.
-/

namespace Imprint

/-- How much detail an event is, the least first. -/
inductive Level where
  | error
  | warn
  | info
  | debug
  | trace
deriving DecidableEq

namespace Level

def rank : Level → Nat
  | error => 1
  | warn => 2
  | info => 3
  | debug => 4
  | trace => 5

def name : Level → Text
  | error => "ERROR".toList
  | warn => "WARN".toList
  | info => "INFO".toList
  | debug => "DEBUG".toList
  | trace => "TRACE".toList

def ofName? (name : Text) : Option Level :=
  [error, warn, info, debug, trace].find? fun level =>
    level.name == name.map Char.toUpper

end Level

/-- The part of the program that an event comes from. -/
inductive Origin where
  | program
  | batch
  | disassembler
  | models
  | dumps
deriving DecidableEq

def Origin.name : Origin → Text
  | program => "riscv2ucl".toList
  | batch => "riscv2ucl::driver".toList
  | disassembler => "riscv2ucl::objdump".toList
  | models => "riscv2ucl::ucl".toList
  | dumps => "riscv2ucl::data".toList

/-- Something that a run reports. -/
inductive Event where
  | selected (count : Nat)
  | parsing (binary : Path)
  | inspected (image : Elf.Image)
  | launched (program : Text) (arguments : List Text)
  | instructions (count : Nat)
  | dataWords (count : Nat)
  | skippedRow (row : Text)
  | wrote (path : Path)
  | failed (binary : Path) (failure : Failure)
  | finished (count : Nat) (dir : Path)
deriving DecidableEq

namespace Event

def level : Event → Level
  | selected _ => .debug
  | parsing _ => .info
  | inspected _ => .debug
  | launched .. => .debug
  | instructions _ => .debug
  | dataWords _ => .debug
  | skippedRow _ => .trace
  | wrote _ => .info
  | failed .. => .error
  | finished .. => .info

def origin : Event → Origin
  | selected _ => .batch
  | parsing _ => .batch
  | inspected _ => .batch
  | launched .. => .disassembler
  | instructions _ => .program
  | dataWords _ => .program
  | skippedRow _ => .dumps
  | wrote _ => .models
  | failed .. => .batch
  | finished .. => .program

def message : Event → Text
  | selected count => Radix.decimal.numeral count ++ " binaries to process".toList
  | parsing binary => "parsing file: ".toList ++ binary.display
  | inspected image =>
      "  entry 0x".toList ++ Radix.lowerHex.numeral image.entry ++ ", ".toList ++
        (if image.is64 then "64".toList else "32".toList) ++ "-bit, ".toList ++
        Radix.decimal.numeral image.sections.length ++ " sections, .data ".toList ++
        if image.hasData then "present".toList else "absent".toList
  | launched program arguments => List.intercalate [' '] (program :: arguments)
  | instructions count => "  ".toList ++ Radix.decimal.numeral count ++ " instructions".toList
  | dataWords count => "  ".toList ++ Radix.decimal.numeral count ++ " data words".toList
  | skippedRow row => "skipping data row: ".toList ++ row.quoted
  | wrote path => "wrote ".toList ++ path.display
  | failed binary failure => binary.display ++ ": ".toList ++ failure.message
  | finished count dir =>
      "Wrote ".toList ++ Radix.decimal.numeral count ++ " modules to ".toList ++ dir.display

/-- The line of an event in a report: level, origin in brackets, and wording. -/
def line (e : Event) : Text :=
  e.level.name ++ " [".toList ++ e.origin.name ++ "] ".toList ++ e.message

end Event

end Imprint
