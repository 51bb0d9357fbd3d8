import Imprint.Elf.Header
import Imprint.Path

/-!
# ELF images

An image is read as far as its named sections need, and the tables on the way
are checked in a fixed order: program headers, section headers, section names,
symbols with their names, and relocations.

The reader stands for that of `goblin`, version 0.8: the order of the checks and
their faults are an assumption about it.  Its further checks are left out, namely
those of what program headers contain (the tables that a `PT_DYNAMIC` header leads
to, the interpreter of a `PT_INTERP` header) and those of the sections of symbol
versions.  Images without such headers and sections, as those of static programs,
are read alike; of the others `goblin` may refuse some that are read here.
-/

namespace Imprint

namespace Elf

/-- A named section: where it is loaded and how long it is. -/
structure Section where
  name : Text
  addr : Nat
  size : Nat
deriving DecidableEq

/-- What is known of a binary: its machine, its entry point, its width, and its
named sections that take up room in the image. -/
structure Image where
  machine : Nat
  entry : Nat
  is64 : Bool
  sections : List Section
deriving DecidableEq

namespace Image

def section? (image : Image) (name : Text) : Option Section :=
  image.sections.find? fun s => s.name == name

def hasData (image : Image) : Bool :=
  match image.section? ".data".toList with
  | some s => 0 < s.size
  | none => false

end Image

/-- Program headers must fit in the image, first by count and then by place. -/
def checkProgramHeaders (h : Header) (length : Nat) : Except Fault Unit :=
  let size := h.layout.width.programHeaderSize
  if length / size < h.programCount then
    .error (.bufferTooShort .programHeaders h.programCount)
  else if 0 < h.programCount ∧ length < h.programOffset + h.programCount * size then
    .error .unreadable
  else
    .ok ()

/-- Reads the section headers.  Header zero is always read; where the file header
counts no sections, its size field does. -/
def sectionHeaders (h : Header) (image : Bytes) : Except Fault (List SectionHeader) :=
  if h.sectionOffset = 0 then
    .ok []
  else
    match SectionHeader.read? h.layout (image.drop h.sectionOffset) with
    | none => .error .unreadable
    | some (first, rest) =>
        let count := if h.sectionCount = 0 then first.size else h.sectionCount
        if image.length / h.layout.width.sectionHeaderSize < count then
          .error (.bufferTooShort .sectionHeaders count)
        else
          match SectionHeader.readMany? h.layout (count - 1) rest with
          | none => .error .unreadable
          | some others => .ok (first :: others)

/-- A section with contents must lie in the image and in the address space. -/
def checkSection (s : SectionHeader) (length : Nat) : Except Fault Unit :=
  if s.kind = SectionHeader.withoutContents ∨ s.size = 0 then
    .ok ()
  else if addressSpace ≤ s.offset + s.size then
    .error (.malformed (.sectionBounds s.name s.offset s.size true))
  else if length < s.offset + s.size then
    .error (.malformed (.sectionBounds s.name s.offset s.size false))
  else if addressSpace ≤ s.addr + s.size then
    .error (.malformed (.sectionAddress s.name s.addr s.size))
  else
    .ok ()

def checkNameTable (s : SectionHeader) (length : Nat) : Except Fault Unit :=
  if addressSpace ≤ s.offset + s.size then
    .error (.malformed (.nameTableBounds s.size s.offset length true))
  else if length < s.offset + s.size then
    .error (.malformed (.nameTableBounds s.size s.offset length false))
  else
    .ok ()

def holdsNames (table : Bytes) : Bool :=
  (cutAt 0 table).all fun name => (Utf8.decode? name).isSome

/-- The index that stands for a section whose own index does not fit. -/
def deferredIndex : Nat := 0xFFFF

/-- The header of the section with an index; a deferred index is the link of header
zero. -/
def headerAt? (headers : List SectionHeader) (index : Nat) : Option SectionHeader :=
  if index = deferredIndex then
    headers.head?.bind fun first => headers[first.link]?
  else
    headers[index]?

/-- The table of names that is section `index`; no such section is an empty table. -/
def nameTable (headers : List SectionHeader) (index : Nat) (image : Bytes) :
    Except Fault Bytes :=
  match headerAt? headers index with
  | none => .ok []
  | some s => do
      checkSection s image.length
      checkNameTable s image.length
      if holdsNames (s.contents image) then .ok (s.contents image) else .error .unreadable

/-- The last section of symbols must fit in the image and have a table of names. -/
def checkSymbols (width : Width) (headers : List SectionHeader) (image : Bytes) :
    Except Fault Unit :=
  match (headers.filter fun s => s.kind = SectionHeader.symbols).getLast? with
  | none => .ok ()
  | some s =>
      let count := s.size / s.entrySize
      let size := count * width.symbolSize
      if addressSpace ≤ size then
        .error (.malformed (.tooManySymbols s.offset count))
      else if image.length < s.offset + size then
        .error .unreadable
      else do
        let _ ← nameTable headers s.link image
        .ok ()

def isRelocation (s : SectionHeader) : Bool :=
  s.kind == SectionHeader.relocationsWithAddends || s.kind == SectionHeader.relocations

/-- Every section of relocations must be in bounds, the first fault counting. -/
def checkRelocations (length : Nat) : List SectionHeader → Except Fault Unit
  | [] => .ok ()
  | s :: rest => do
      if isRelocation s then checkSection s length else .ok ()
      checkRelocations length rest

/-- The name at an offset of a table: the bytes up to the next zero.  There is none
in the midst of a character, and an empty one is no name. -/
def nameAt? (table : Bytes) (offset : Nat) : Option Text :=
  match (table.drop offset).takeWhile (· ≠ 0) with
  | [] => none
  | bytes => Utf8.decode? bytes

/-- The section that a header stands for, if it has contents and a name. -/
def sectionOf? (names : Bytes) (s : SectionHeader) : Option Section :=
  if s.kind = SectionHeader.withoutContents then
    none
  else
    (nameAt? names s.name).map fun name => ⟨name, s.addr, s.size⟩

def read (image : Bytes) : Except Fault Image := do
  let header ← Header.read image
  checkProgramHeaders header image.length
  let headers ← sectionHeaders header image
  let names ← nameTable headers header.namesIndex image
  checkSymbols header.layout.width headers image
  checkRelocations image.length headers
  .ok
    { machine := header.machine
      entry := header.entry
      is64 := header.layout.width = .wide
      sections := headers.filterMap (sectionOf? names) }

end Elf

end Imprint
