import Imprint.Elf.Fault
import Imprint.Text.Utf8

/-!
# ELF headers

The layout of the file header and of section headers, in two widths and two
byte orders, and how they are read from bytes.
-/

namespace Imprint

namespace Elf

/-- The width of the fields for addresses, offsets and sizes. -/
inductive Width where
  | narrow
  | wide
deriving DecidableEq

/-- Which byte of a number comes first. -/
inductive Order where
  | littleEndian
  | bigEndian
deriving DecidableEq

/-- The numbers that decide the layout of an image. -/
structure Layout where
  width : Width
  order : Order
deriving DecidableEq

def littleValue : Bytes → Nat
  | [] => 0
  | b :: rest => b.toNat + 256 * littleValue rest

def Order.value (order : Order) (bytes : Bytes) : Nat :=
  match order with
  | littleEndian => littleValue bytes
  | bigEndian => littleValue bytes.reverse

def addressSpace : Nat := Nat.pow 2 64

namespace Width

def addressSize : Width → Nat
  | narrow => 4
  | wide => 8

def headerSize : Width → Nat
  | narrow => 52
  | wide => 64

def programHeaderSize : Width → Nat
  | narrow => 32
  | wide => 56

def sectionHeaderSize : Width → Nat
  | narrow => 40
  | wide => 64

def symbolSize : Width → Nat
  | narrow => 16
  | wide => 24

/-- The place of a width-dependent field: its offset in either width. -/
def pick (w : Width) (inNarrow inWide : Nat) : Nat :=
  match w with
  | narrow => inNarrow
  | wide => inWide

end Width

namespace Layout

def field (l : Layout) (record : Bytes) (offset size : Nat) : Nat :=
  l.order.value ((record.drop offset).take size)

/-- The address, offset or size that stands at an offset given for either width. -/
def address (l : Layout) (record : Bytes) (inNarrow inWide : Nat) : Nat :=
  l.field record (l.width.pick inNarrow inWide) l.width.addressSize

end Layout

/-- The fields of the file header that decide how an image is read. -/
structure Header where
  layout : Layout
  machine : Nat
  entry : Nat
  programOffset : Nat
  sectionOffset : Nat
  programCount : Nat
  sectionCount : Nat
  namesIndex : Nat
deriving DecidableEq

namespace Header

def magic : Bytes :=
  [0x7F, 0x45, 0x4C, 0x46]

def identSize : Nat := 16

def widthOf? (byte : UInt8) : Option Width :=
  if byte = 1 then some .narrow else if byte = 2 then some .wide else none

def orderOf? (byte : UInt8) : Option Order :=
  if byte = 1 then some .littleEndian else if byte = 2 then some .bigEndian else none

/-- Reads the identification: length, magic number, width and byte order, in this
order of precedence. -/
def readLayout (image : Bytes) : Except Fault Layout :=
  let ident := image.take identSize
  if ident.length < identSize then
    .error (.malformed .tooSmall)
  else if ident.take 4 ≠ magic then
    .error (.badMagic (littleValue (ident.take 8)))
  else
    match widthOf? (ident.getD 4 0), orderOf? (ident.getD 5 0) with
    | none, _ => .error (.malformed (.badClass (ident.getD 4 0)))
    | some _, none => .error (.malformed (.badOrder (ident.getD 5 0)))
    | some width, some order => .ok ⟨width, order⟩

def ofRecord (l : Layout) (record : Bytes) : Header where
  layout := l
  machine := l.field record 18 2
  entry := l.address record 24 24
  programOffset := l.address record 28 32
  sectionOffset := l.address record 32 40
  programCount := l.field record (l.width.pick 44 56) 2
  sectionCount := l.field record (l.width.pick 48 60) 2
  namesIndex := l.field record (l.width.pick 50 62) 2

def read (image : Bytes) : Except Fault Header := do
  let layout ← readLayout image
  let record := image.take layout.width.headerSize
  if record.length < layout.width.headerSize then
    .error .unreadable
  else
    .ok (ofRecord layout record)

end Header

/-- The fields of a section header that decide what the section is and where. -/
structure SectionHeader where
  name : Nat
  kind : Nat
  addr : Nat
  offset : Nat
  size : Nat
  link : Nat
  entrySize : Nat
deriving DecidableEq

namespace SectionHeader

def symbols : Nat := 2

def relocationsWithAddends : Nat := 4

def withoutContents : Nat := 8

def relocations : Nat := 9

def ofRecord (l : Layout) (record : Bytes) : SectionHeader where
  name := l.field record 0 4
  kind := l.field record 4 4
  addr := l.address record 12 16
  offset := l.address record 16 24
  size := l.address record 20 32
  link := l.field record (l.width.pick 24 40) 4
  entrySize := l.address record 36 56

/-- Reads one section header from the front and gives it and the rest. -/
def read? (l : Layout) (bytes : Bytes) : Option (SectionHeader × Bytes) :=
  let record := bytes.take l.width.sectionHeaderSize
  if record.length < l.width.sectionHeaderSize then
    none
  else
    some (ofRecord l record, bytes.drop l.width.sectionHeaderSize)

def readMany? (l : Layout) : Nat → Bytes → Option (List SectionHeader)
  | 0, _ => some []
  | count + 1, bytes => do
      let (header, rest) ← read? l bytes
      let others ← readMany? l count rest
      some (header :: others)

/-- The bytes of a section; beyond the end of the image there are none. -/
def contents (s : SectionHeader) (image : Bytes) : Bytes :=
  (image.drop s.offset).take s.size

end SectionHeader

end Elf

end Imprint
