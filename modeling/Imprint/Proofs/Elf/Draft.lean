import Imprint.Generation
import Imprint.Proofs.Elf.Record
import Imprint.Proofs.Path
import Imprint.Proofs.Text.Utf8

/-!
# Images built from sections

An image is built from a list of sections: a file header without program headers,
a table of names, any bytes, and a table of section headers whose first one is null
and whose second one is the table of names.  Every such image is read back as it was
drafted, whatever stands behind it, and is refused only for its machine.
-/

namespace Imprint

namespace Elf

/-!
## Drafts
-/

/-- Whether the bytes of a section are in the image. -/
inductive Storage where
  | stored
  | reserved
deriving DecidableEq

def Storage.kind : Storage → Nat
  | stored => 1
  | reserved => SectionHeader.withoutContents

/-- A section to be: it has a name, and its numbers fit the fields of the width. -/
structure SectionDraft (w : Width) where
  name : Text
  storage : Storage
  flags : Nat
  addr : Nat
  offset : Nat
  size : Nat
  name_ne_nil : name ≠ []
  zero_not_mem_name : Char.ofNat 0 ∉ name
  addr_lt : addr < w.addressLimit
  offset_lt : offset < w.addressLimit
  size_lt : size < w.addressLimit

namespace SectionDraft

variable {w : Width}

def nameBytes (s : SectionDraft w) : Bytes :=
  Utf8.encode s.name ++ [0]

/-- The header of a section whose name begins at a place of the table of names. -/
def header (s : SectionDraft w) (place : Nat) : SectionHeader where
  name := place
  kind := s.storage.kind
  addr := s.addr
  offset := s.offset
  size := s.size
  link := 0
  entrySize := 0

/-- The headers and flags of sections whose names stand one after another from a place on. -/
def table : Nat → List (SectionDraft w) → List (SectionHeader × Nat)
  | _, [] => []
  | place, s :: others => (s.header place, s.flags) :: table (place + s.nameBytes.length) others

def toSection (s : SectionDraft w) : Section :=
  ⟨s.name, s.addr, s.size⟩

end SectionDraft

def tableName : Text :=
  ".shstrtab".toList

def nameFront : Bytes :=
  0 :: (Utf8.encode tableName ++ [0])

def nameTableOf {w : Width} (sections : List (SectionDraft w)) : Bytes :=
  nameFront ++ sections.flatMap SectionDraft.nameBytes

/-- An image to be: its numbers fit their fields, and there is room for every offset. -/
structure Draft where
  layout : Layout
  machine : Nat
  entry : Nat
  sections : List (SectionDraft layout.width)
  /-- What stands between the names and the section headers. -/
  filling : Bytes
  machine_lt : machine < 0x10000
  entry_lt : entry < layout.width.addressLimit
  length_sections_lt : sections.length < 65534
  place_lt : ∀ entry ∈ SectionDraft.table nameFront.length sections,
    entry.1.name < 0x100000000
  offset_lt : layout.width.headerSize + (nameTableOf sections).length + filling.length <
    layout.width.addressLimit

namespace Draft

def names (d : Draft) : Bytes :=
  nameTableOf d.sections

def header (d : Draft) : Header where
  layout := d.layout
  machine := d.machine
  entry := d.entry
  programOffset := 0
  sectionOffset := d.layout.width.headerSize + d.names.length + d.filling.length
  programCount := 0
  sectionCount := d.sections.length + 2
  namesIndex := 1

def nullHeader : SectionHeader :=
  ⟨0, 0, 0, 0, 0, 0, 0⟩

def nameHeader (d : Draft) : SectionHeader where
  name := 1
  kind := 3
  addr := 0
  offset := d.layout.width.headerSize
  size := d.names.length
  link := 0
  entrySize := 0

def table (d : Draft) : List (SectionHeader × Nat) :=
  (nullHeader, 0) :: (d.nameHeader, 0) :: SectionDraft.table nameFront.length d.sections

def bytes (d : Draft) : Bytes :=
  d.header.bytes ++ (d.names ++ (d.filling ++ SectionHeader.tableBytes d.layout d.table))

/-- What is to be read: the table of names and the sections that are stored. -/
def image (d : Draft) : Image where
  machine := d.machine
  entry := d.entry
  is64 := d.layout.width = .wide
  sections := ⟨tableName, 0, d.names.length⟩ ::
    (d.sections.filter fun s => s.storage = .stored).map SectionDraft.toSection

end Draft

/-!
## Names
-/

theorem zero_not_mem_encode {t : Text} (ht : Char.ofNat 0 ∉ t) : 0 ∉ Utf8.encode t :=
  fun hmem => ht (Utf8.zero_mem_encode hmem)

theorem nameAt?_append {name : Text} (hne : name ≠ []) (hzero : Char.ofNat 0 ∉ name)
    (front back : Bytes) :
    nameAt? (front ++ (Utf8.encode name ++ 0 :: back)) front.length = some name := by
  have hbytes : ∀ b ∈ Utf8.encode name, decide (b ≠ 0) = true := by
    intro b hb
    refine decide_eq_true ?_
    rintro rfl
    exact zero_not_mem_encode hzero hb
  have htaken : (Utf8.encode name ++ 0 :: back).takeWhile (· ≠ 0) = Utf8.encode name := by
    rw [List.takeWhile_append_of_pos hbytes, List.takeWhile_cons_of_neg (by decide),
      List.append_nil]
  unfold nameAt?
  rw [List.drop_left, htaken]
  split
  · rename_i hnil
    exact absurd hnil (Utf8.encode_ne_nil hne)
  · exact Utf8.decode?_encode name

theorem holdsNames_append {name : Text} (hzero : Char.ofNat 0 ∉ name) (rest : Bytes) :
    holdsNames (Utf8.encode name ++ 0 :: rest) = holdsNames rest := by
  unfold holdsNames
  rw [cutAt_append, cutAt_of_not_mem (zero_not_mem_encode hzero), List.all_append, List.all_cons,
    Utf8.decode?_encode]
  rfl

@[simp] theorem holdsNames_nameTableOf {w : Width} (sections : List (SectionDraft w)) :
    holdsNames (nameTableOf sections) = true := by
  have hnames : holdsNames (sections.flatMap SectionDraft.nameBytes) = true := by
    induction sections with
    | nil =>
        have hempty := Utf8.decode?_encode []
        simp only [holdsNames, List.flatMap_nil, cutAt, List.all_cons, List.all_nil, Bool.and_true]
        exact Option.isSome_of_eq_some hempty
    | cons s others ih =>
        rw [List.flatMap_cons, SectionDraft.nameBytes, List.append_assoc, List.singleton_append,
          holdsNames_append s.zero_not_mem_name, ih]
  have hfront : nameTableOf sections = Utf8.encode [] ++ 0 :: (Utf8.encode tableName ++
      0 :: sections.flatMap SectionDraft.nameBytes) := by
    simp [nameTableOf, nameFront, Utf8.encode]
  rw [hfront, holdsNames_append List.not_mem_nil, holdsNames_append (by decide), hnames]

/-!
## Section headers
-/

namespace SectionDraft

variable {w : Width}

theorem fits_header (s : SectionDraft w) {place : Nat} (hplace : place < 0x100000000) :
    (s.header place).Fits w where
  name := hplace
  kind := by
    show s.storage.kind < 0x100000000
    cases s.storage <;> decide
  addr := s.addr_lt
  offset := s.offset_lt
  size := s.size_lt
  link := Nat.zero_lt_succ _
  entrySize := Nat.pow_pos (by decide)

theorem mem_table {place : Nat} {sections : List (SectionDraft w)}
    {entry : SectionHeader × Nat} (hentry : entry ∈ table place sections) :
    ∃ s ∈ sections, ∃ here, entry = (s.header here, s.flags) := by
  induction sections generalizing place with
  | nil =>
      cases hentry
  | cons s others ih =>
      rcases List.mem_cons.mp hentry with rfl | hothers
      · exact ⟨s, List.mem_cons_self, place, rfl⟩
      · obtain ⟨other, hother, here⟩ := ih hothers
        exact ⟨other, List.mem_cons_of_mem s hother, here⟩

@[simp] theorem length_table (place : Nat) (sections : List (SectionDraft w)) :
    (table place sections).length = sections.length := by
  induction sections generalizing place with
  | nil =>
      rfl
  | cons s others ih =>
      rw [table, List.length_cons, ih, List.length_cons]

theorem sectionOf?_stored {s : SectionDraft w} (hstorage : s.storage = .stored) (names : Bytes)
    (place : Nat) :
    sectionOf? names (s.header place) =
      (nameAt? names place).map fun name => ⟨name, s.addr, s.size⟩ := by
  refine if_neg ?_
  show ¬ s.storage.kind = SectionHeader.withoutContents
  rw [hstorage]
  decide

theorem sectionOf?_reserved {s : SectionDraft w} (hstorage : s.storage = .reserved)
    (names : Bytes) (place : Nat) : sectionOf? names (s.header place) = none := by
  refine if_pos ?_
  show s.storage.kind = SectionHeader.withoutContents
  rw [hstorage]
  rfl

@[simp] theorem filterMap_table (front : Bytes) (sections : List (SectionDraft w)) :
    ((table front.length sections).map Prod.fst).filterMap
        (sectionOf? (front ++ sections.flatMap nameBytes)) =
      (sections.filter fun s => s.storage = .stored).map toSection := by
  induction sections generalizing front with
  | nil =>
      rfl
  | cons s others ih =>
      have hrest := ih (front ++ s.nameBytes)
      have hname : nameAt? (front ++ (s :: others).flatMap nameBytes) front.length =
          some s.name := by
        rw [List.flatMap_cons, nameBytes, List.append_assoc, List.singleton_append]
        exact nameAt?_append s.name_ne_nil s.zero_not_mem_name front _
      rw [List.length_append, List.append_assoc] at hrest
      cases hstorage : s.storage with
      | stored =>
          have hfirst : sectionOf? (front ++ (s :: others).flatMap nameBytes)
              (s.header front.length) = some s.toSection := by
            rw [sectionOf?_stored hstorage, hname]
            rfl
          rw [table, List.map_cons, List.filterMap_cons_some hfirst, List.filter_cons_of_pos
            (by simp [hstorage]), List.map_cons]
          exact congrArg (s.toSection :: ·) hrest
      | reserved =>
          rw [table, List.map_cons, List.filterMap_cons_none (sectionOf?_reserved hstorage _ _),
            List.filter_cons_of_neg (by simp [hstorage])]
          exact hrest

end SectionDraft

/-!
## Checks that pass
-/

theorem checkProgramHeaders_of_none {h : Header} (hcount : h.programCount = 0) (length : Nat) :
    checkProgramHeaders h length = .ok () := by
  unfold checkProgramHeaders
  rw [hcount, if_neg (Nat.not_lt_zero _), if_neg fun hpositive => Nat.lt_irrefl 0 hpositive.1]

theorem checkSymbols_of_none {headers : List SectionHeader}
    (hheaders : ∀ s ∈ headers, s.kind ≠ SectionHeader.symbols) (w : Width) (image : Bytes) :
    checkSymbols w headers image = .ok () := by
  have hnone : (headers.filter fun s => s.kind = SectionHeader.symbols) = [] :=
    List.filter_eq_nil_iff.mpr fun s hs => by simpa using hheaders s hs
  unfold checkSymbols
  rw [hnone]
  rfl

theorem checkRelocations_of_none {headers : List SectionHeader}
    (hheaders : ∀ s ∈ headers, isRelocation s = false) (length : Nat) :
    checkRelocations length headers = .ok () := by
  induction headers with
  | nil =>
      rfl
  | cons s others ih =>
      have hothers := ih fun other hother => hheaders other (List.mem_cons_of_mem s hother)
      rw [checkRelocations, hheaders s List.mem_cons_self, hothers]
      rfl

theorem sectionHeaders_append {h : Header} {front : Bytes} {first : SectionHeader × Nat}
    {others : List (SectionHeader × Nat)} (hoffset : h.sectionOffset = front.length)
    (hne : front ≠ []) (hcount : h.sectionCount = others.length + 1)
    (hfits : ∀ entry ∈ first :: others, entry.1.Fits h.layout.width) (rest : Bytes) :
    sectionHeaders h (front ++ (SectionHeader.tableBytes h.layout (first :: others) ++ rest)) =
      .ok ((first :: others).map Prod.fst) := by
  have hread := SectionHeader.read?_append (hfits first List.mem_cons_self) first.2
    (SectionHeader.tableBytes h.layout others ++ rest)
  have hmany := SectionHeader.readMany?_append
    (fun entry hentry => hfits entry (List.mem_cons_of_mem first hentry)) rest
  have hoffset' : ¬ h.sectionOffset = 0 := by
    rw [hoffset]
    exact Nat.ne_of_gt (List.length_pos_iff.mpr hne)
  have hroom : ¬ (front ++ (SectionHeader.tableBytes h.layout (first :: others) ++ rest)).length /
      h.layout.width.sectionHeaderSize < others.length + 1 := by
    have hlength := SectionHeader.length_tableBytes h.layout (first :: others)
    have hpositive : 0 < h.layout.width.sectionHeaderSize := by
      cases h.layout.width <;> decide
    rw [Nat.not_lt, Nat.le_div_iff_mul_le hpositive, List.length_append, List.length_append,
      hlength, List.length_cons]
    omega
  unfold sectionHeaders
  rw [if_neg hoffset', hoffset, List.drop_left, SectionHeader.tableBytes_cons_append, hread]
  rw [SectionHeader.tableBytes_cons_append] at hroom
  simp only [hcount, Nat.succ_ne_zero, if_false, hroom, Nat.add_sub_cancel, hmany, List.map_cons]

theorem nameTable_append {headers : List SectionHeader} {s : SectionHeader} {index : Nat}
    (hindex : headerAt? headers index = some s) {front names : Bytes}
    (hoffset : s.offset = front.length) (hsize : s.size = names.length) (haddr : s.addr = 0)
    (hspace : front.length + names.length < addressSpace) (hnames : holdsNames names = true)
    (rest : Bytes) : nameTable headers index (front ++ (names ++ rest)) = .ok names := by
  have hcontents : s.contents (front ++ (names ++ rest)) = names := by
    rw [SectionHeader.contents, hoffset, List.drop_left, hsize, List.take_left]
  have hlength : (front ++ (names ++ rest)).length =
      front.length + names.length + rest.length := by
    simp [Nat.add_assoc]
  have hsection : checkSection s (front ++ (names ++ rest)).length = .ok () := by
    unfold checkSection
    split
    · rfl
    · rw [if_neg (by omega), if_neg (by omega), if_neg (by omega)]
  have htable : checkNameTable s (front ++ (names ++ rest)).length = .ok () := by
    unfold checkNameTable
    rw [if_neg (by omega), if_neg (by omega)]
  unfold nameTable
  simp only [hindex, hsection, htable, hcontents, hnames, bind, Except.bind, if_true]

/-!
## Reading
-/

namespace Draft

theorem addressLimit_le (w : Width) : w.addressLimit ≤ addressSpace := by
  cases w <;> decide

theorem fits_header (d : Draft) : d.header.Fits where
  machine := d.machine_lt
  entry := d.entry_lt
  programOffset := Nat.pow_pos (by decide)
  sectionOffset := d.offset_lt
  programCount := Nat.zero_lt_succ _
  sectionCount := by
    have hlength := d.length_sections_lt
    show d.sections.length + 2 < 0x10000
    omega
  namesIndex := by
    show 1 < 0x10000
    decide

theorem fits_nullHeader (w : Width) : nullHeader.Fits w := by
  have hzero : 0 < w.addressLimit := Nat.pow_pos (by decide)
  exact ⟨by decide, by decide, hzero, hzero, hzero, by decide, hzero⟩

theorem fits_nameHeader (d : Draft) : d.nameHeader.Fits d.layout.width where
  name := show 1 < 0x100000000 by decide
  kind := show 3 < 0x100000000 by decide
  addr := Nat.pow_pos (by decide)
  offset := by
    have hoffset := d.offset_lt
    show d.layout.width.headerSize < d.layout.width.addressLimit
    omega
  size := by
    have hoffset := d.offset_lt
    show (nameTableOf d.sections).length < d.layout.width.addressLimit
    omega
  link := Nat.zero_lt_succ _
  entrySize := Nat.pow_pos (by decide)

theorem fits_table (d : Draft) : ∀ entry ∈ d.table, entry.1.Fits d.layout.width := by
  refine List.forall_mem_cons.mpr ⟨fits_nullHeader d.layout.width,
    List.forall_mem_cons.mpr ⟨d.fits_nameHeader, ?_⟩⟩
  intro entry hentry
  have hplace := d.place_lt entry hentry
  obtain ⟨s, -, place, rfl⟩ := SectionDraft.mem_table hentry
  exact s.fits_header hplace

theorem kind_table (d : Draft) : ∀ entry ∈ d.table,
    entry.1.kind ≠ SectionHeader.symbols ∧ isRelocation entry.1 = false := by
  refine List.forall_mem_cons.mpr ⟨by decide,
    List.forall_mem_cons.mpr ⟨⟨show 3 ≠ SectionHeader.symbols by decide, rfl⟩, ?_⟩⟩
  intro entry hentry
  obtain ⟨s, -, place, rfl⟩ := SectionDraft.mem_table hentry
  unfold isRelocation
  show s.storage.kind ≠ SectionHeader.symbols ∧
    (s.storage.kind == SectionHeader.relocationsWithAddends ||
      s.storage.kind == SectionHeader.relocations) = false
  cases s.storage <;> decide

@[simp] theorem filterMap_table (d : Draft) :
    (d.table.map Prod.fst).filterMap (sectionOf? d.names) = d.image.sections := by
  have hnull : sectionOf? d.names nullHeader = none := rfl
  have hname : nameAt? d.names 1 = some tableName := by
    have hfront : d.names = [0] ++ (Utf8.encode tableName ++
        0 :: d.sections.flatMap SectionDraft.nameBytes) := by
      simp [names, nameTableOf, nameFront]
    rw [hfront]
    exact nameAt?_append (by decide) (by decide) [0] _
  have hfirst : sectionOf? d.names d.nameHeader = some ⟨tableName, 0, d.names.length⟩ := by
    show (nameAt? d.names 1).map (fun name => (⟨name, 0, d.names.length⟩ : Section)) = _
    rw [hname]
    rfl
  rw [table, List.map_cons, List.filterMap_cons_none hnull, List.map_cons,
    List.filterMap_cons_some hfirst]
  exact congrArg _ (SectionDraft.filterMap_table nameFront d.sections)

@[simp] theorem length_bytes_header (d : Draft) :
    d.header.bytes.length = d.layout.width.headerSize :=
  d.header.length_bytes

@[simp] theorem sectionHeaders_bytes (d : Draft) (rest : Bytes) :
    sectionHeaders d.header (d.bytes ++ rest) = .ok (d.table.map Prod.fst) := by
  have hsplit : d.bytes ++ rest = (d.header.bytes ++ (d.names ++ d.filling)) ++
      (SectionHeader.tableBytes d.layout d.table ++ rest) := by
    simp only [bytes, List.append_assoc]
  have hoffset : d.header.sectionOffset =
      (d.header.bytes ++ (d.names ++ d.filling)).length := by
    simp only [List.length_append, length_bytes_header, ← Nat.add_assoc]
    rfl
  have hcount : d.header.sectionCount =
      ((d.nameHeader, 0) :: SectionDraft.table nameFront.length d.sections).length + 1 := by
    simp [header]
  rw [hsplit]
  exact sectionHeaders_append hoffset (List.cons_ne_nil _ _) hcount d.fits_table rest

@[simp] theorem nameTable_bytes (d : Draft) (rest : Bytes) :
    nameTable (d.table.map Prod.fst) d.header.namesIndex (d.bytes ++ rest) = .ok d.names := by
  have hsplit : d.bytes ++ rest = d.header.bytes ++ (d.names ++
      (d.filling ++ (SectionHeader.tableBytes d.layout d.table ++ rest))) := by
    simp only [bytes, List.append_assoc]
  have hspace : d.header.bytes.length + d.names.length < addressSpace := by
    have hoffset := d.offset_lt
    have hlimit := addressLimit_le d.layout.width
    rw [length_bytes_header]
    show d.layout.width.headerSize + (nameTableOf d.sections).length < addressSpace
    omega
  rw [hsplit]
  exact nameTable_append (show headerAt? (d.table.map Prod.fst) 1 = some d.nameHeader from rfl)
    d.length_bytes_header.symm rfl rfl hspace (holdsNames_nameTableOf d.sections) _

@[simp] theorem checkProgramHeaders_header (d : Draft) (length : Nat) :
    checkProgramHeaders d.header length = .ok () :=
  checkProgramHeaders_of_none rfl length

@[simp] theorem checkSymbols_table (d : Draft) (w : Width) (image : Bytes) :
    checkSymbols w (d.table.map Prod.fst) image = .ok () :=
  checkSymbols_of_none (List.forall_mem_map.mpr fun entry hentry => (d.kind_table entry hentry).1)
    w image

@[simp] theorem checkRelocations_table (d : Draft) (length : Nat) :
    checkRelocations length (d.table.map Prod.fst) = .ok () :=
  checkRelocations_of_none
    (List.forall_mem_map.mpr fun entry hentry => (d.kind_table entry hentry).2) length

theorem read_append (d : Draft) (rest : Bytes) : read (d.bytes ++ rest) = .ok d.image := by
  have hheader : Header.read (d.bytes ++ rest) = .ok d.header := by
    rw [bytes, List.append_assoc]
    exact Header.read_append d.fits_header _
  simp [read, hheader, bind, Except.bind, -List.map_map, -List.filterMap_map]
  rfl

end Draft

end Elf

/-- A drafted image is accepted with what was drafted, whatever stands behind it, and is refused
exactly for its machine. -/
theorem imageOf_draft (d : Elf.Draft) (binary : Path) (rest : Bytes) :
    imageOf binary (d.bytes ++ rest) =
      if d.machine = riscvMachine then
        .ok d.image
      else
        .error (.otherMachine binary d.machine) := by
  unfold imageOf
  rw [d.read_append rest]
  rfl

/-- An image with sixteen bytes of data at `0x80002000`, for a machine. -/
def Elf.Draft.loneData (machine : Nat) (hmachine : machine < 0x10000) : Elf.Draft where
  layout := ⟨.narrow, .littleEndian⟩
  machine := machine
  entry := 0x80000000
  sections := [
    { name := ".data".toList
      storage := .stored
      flags := 3
      addr := 0x80002000
      offset := 72
      size := 16
      name_ne_nil := by decide
      zero_not_mem_name := by decide
      addr_lt := by decide
      offset_lt := by decide
      size_lt := by decide }]
  filling := [0, 0, 0, 0xEF, 0xBE, 0xAD, 0xDE] ++ List.replicate 12 0
  machine_lt := hmachine
  entry_lt := by decide
  length_sections_lt := by decide
  place_lt := by decide
  offset_lt := by decide

/-- An image of the other width and order, with a reserved section before one whose name is not
ASCII and whose numbers are the largest ones. -/
def Elf.Draft.farData : Elf.Draft where
  layout := ⟨.wide, .bigEndian⟩
  machine := 243
  entry := 0xFFFFFFFFFFFFFFFF
  sections := [
    { name := ".bss".toList
      storage := .reserved
      flags := 3
      addr := 0x80003000
      offset := 0
      size := 64
      name_ne_nil := by decide
      zero_not_mem_name := by decide
      addr_lt := by decide
      offset_lt := by decide
      size_lt := by decide },
    { name := ".données".toList
      storage := .stored
      flags := 3
      addr := 0xFFFFFFFFFFFFFFFF
      offset := 0xFFFFFFFFFFFFFFFF
      size := 0xFFFFFFFFFFFFFFFF
      name_ne_nil := by decide
      zero_not_mem_name := by decide
      addr_lt := by decide
      offset_lt := by decide
      size_lt := by decide }]
  filling := []
  machine_lt := by decide
  entry_lt := by decide
  length_sections_lt := by decide
  place_lt := by decide
  offset_lt := by decide

/-- The image is accepted for the one machine, also with a byte behind it, and refused for
another; the reserved section is left out. -/
theorem imageOf_draft_data :
    imageOf (.ofText "a.out".toList) ((Elf.Draft.loneData 243 (by decide)).bytes ++ [0xFF]) =
        .ok ⟨243, 0x80000000, false,
          [⟨".shstrtab".toList, 0, 17⟩, ⟨".data".toList, 0x80002000, 16⟩]⟩ ∧
      imageOf (.ofText "a.out".toList) ((Elf.Draft.loneData 62 (by decide)).bytes ++ []) =
        .error (.otherMachine (.ofText "a.out".toList) 62) ∧
      imageOf (.ofText "a.out".toList) (Elf.Draft.farData.bytes ++ []) =
        .ok ⟨243, 0xFFFFFFFFFFFFFFFF, true,
          [⟨".shstrtab".toList, 0, 26⟩,
            ⟨".données".toList, 0xFFFFFFFFFFFFFFFF, 0xFFFFFFFFFFFFFFFF⟩]⟩ :=
  ⟨(imageOf_draft _ _ _).trans (by decide +kernel),
    (imageOf_draft _ _ _).trans (by decide +kernel),
    (imageOf_draft _ _ _).trans (by decide +kernel)⟩

end Imprint
