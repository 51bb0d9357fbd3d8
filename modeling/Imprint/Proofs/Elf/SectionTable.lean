import Mathlib
import Imprint.Proofs.Elf.Draft

/-!
# Sections by their table

The named sections of an image are told from the bytes of its section table: a record at each
index, and names in the contents of the section that the file header appoints.  A name is looked
up from the first record on, so an image with an empty `.data` before one with bytes is taken
for one without data.
-/

namespace Imprint

namespace Elf

/-!
## The table
-/

namespace Header

def sectionAt (h : Header) (image : Bytes) (index : Nat) : SectionHeader :=
  let size := h.layout.width.sectionHeaderSize
  .ofRecord h.layout ((image.drop (h.sectionOffset + index * size)).take size)

/-- The count of section headers, which header zero holds where the file header counts none.
Without a table there are none, and with one there is header zero. -/
def sectionTotal (h : Header) (image : Bytes) : Nat :=
  if h.sectionOffset = 0 then 0
  else max 1 (if h.sectionCount = 0 then (h.sectionAt image 0).size else h.sectionCount)

def namesSection (h : Header) (image : Bytes) : Nat :=
  if h.namesIndex = deferredIndex then (h.sectionAt image 0).link else h.namesIndex

def names (h : Header) (image : Bytes) : Bytes :=
  if h.namesSection image < h.sectionTotal image then
    (h.sectionAt image (h.namesSection image)).contents image
  else
    []

end Header

/-- A name stands at a place of a table: its bytes are there, and a zero or nothing is behind. -/
def Spells (table : Bytes) (place : Nat) (name : Text) : Prop :=
  ∃ back, table.drop place = Utf8.encode name ++ back ∧ ∀ b ∈ back.head?, b = 0

namespace Header

/-- A data section stands at an index of the table: it has contents, and its name is `.data`. -/
structure DataAt (h : Header) (image : Bytes) (index : Nat) : Prop where
  listed : index < h.sectionTotal image
  contents : (h.sectionAt image index).kind ≠ SectionHeader.withoutContents
  name : Spells (h.names image) (h.sectionAt image index).name ".data".toList

/-- The data section at an index is the first one. -/
structure FirstDataAt (h : Header) (image : Bytes) (index : Nat) : Prop where
  data : h.DataAt image index
  first : ∀ earlier < index, ¬ h.DataAt image earlier

end Header

/-!
## Reading the table
-/

namespace SectionHeader

variable {l : Layout} {bytes : Bytes}

theorem eq_of_read? {first : SectionHeader} {rest : Bytes}
    (hread : read? l bytes = some (first, rest)) :
    first = ofRecord l (bytes.take l.width.sectionHeaderSize) ∧
      rest = bytes.drop l.width.sectionHeaderSize := by
  unfold read? at hread
  dsimp only at hread
  split at hread
  · cases hread
  · cases hread
    exact ⟨rfl, rfl⟩

theorem eq_of_readMany? {count : Nat} {headers : List SectionHeader}
    (hread : readMany? l count bytes = some headers) :
    headers = (List.range count).map fun index =>
      ofRecord l ((bytes.drop (index * l.width.sectionHeaderSize)).take
        l.width.sectionHeaderSize) := by
  induction count generalizing bytes headers with
  | zero =>
      cases hread
      rfl
  | succ count ih =>
      simp only [readMany?, Option.bind_eq_bind, Option.bind_eq_some_iff] at hread
      obtain ⟨⟨first, rest⟩, hfirst, others, hothers, heq⟩ := hread
      cases heq
      obtain ⟨rfl, rfl⟩ := eq_of_read? hfirst
      rw [ih hothers, List.range_succ_eq_map, List.map_cons, List.map_map, Nat.zero_mul,
        List.drop_zero]
      refine congrArg _ (List.map_congr_left fun index _ => ?_)
      rw [Function.comp_apply, List.drop_drop, Nat.succ_mul, Nat.add_comm]

end SectionHeader

theorem eq_of_sectionHeaders {h : Header} {image : Bytes} {headers : List SectionHeader}
    (hread : sectionHeaders h image = .ok headers) :
    headers = (List.range (h.sectionTotal image)).map (h.sectionAt image) := by
  unfold sectionHeaders at hread
  unfold Header.sectionTotal
  by_cases hoffset : h.sectionOffset = 0
  · rw [if_pos hoffset] at hread ⊢
    cases hread
    rfl
  · rw [if_neg hoffset] at hread ⊢
    split at hread
    · cases hread
    · rename_i first rest hfirst
      obtain ⟨hzero, rfl⟩ := SectionHeader.eq_of_read? hfirst
      have hsection : first = h.sectionAt image 0 := by
        rw [hzero, Header.sectionAt, Nat.zero_mul, Nat.add_zero]
      subst hsection
      dsimp only at hread
      generalize (if h.sectionCount = 0 then (h.sectionAt image 0).size else h.sectionCount) =
        count at hread ⊢
      split at hread
      · cases hread
      · split at hread
        · cases hread
        · rename_i others hothers
          cases hread
          have htotal : max 1 count = count - 1 + 1 := by
            omega
          rw [SectionHeader.eq_of_readMany? hothers, htotal, List.range_succ_eq_map, List.map_cons,
            List.map_map]
          refine congrArg _ (List.map_congr_left fun index _ => ?_)
          rw [Function.comp_apply, Header.sectionAt, List.drop_drop, List.drop_drop, Nat.succ_mul,
            Nat.add_comm (index * _)]

theorem headerAt?_eq (h : Header) (image : Bytes) :
    headerAt? ((List.range (h.sectionTotal image)).map (h.sectionAt image)) h.namesIndex =
      if h.namesSection image < h.sectionTotal image then
        some (h.sectionAt image (h.namesSection image))
      else
        none := by
  have hget : ∀ index, ((List.range (h.sectionTotal image)).map (h.sectionAt image))[index]? =
      if index < h.sectionTotal image then some (h.sectionAt image index) else none := by
    intro index
    rw [List.getElem?_map]
    split
    · rename_i hlt
      rw [List.getElem?_range hlt, Option.map_some]
    · rename_i hge
      rw [List.getElem?_eq_none (by simpa using hge), Option.map_none]
  have hhead : ((List.range (h.sectionTotal image)).map (h.sectionAt image)).head? =
      if 0 < h.sectionTotal image then some (h.sectionAt image 0) else none := by
    rw [List.head?_eq_getElem?, hget]
  unfold headerAt? Header.namesSection
  split
  · rw [hhead]
    split
    · rw [Option.bind_some, hget]
    · rw [if_neg (by omega), Option.bind_none]
  · exact hget _

theorem eq_of_nameTable {h : Header} {image table : Bytes}
    (hread : nameTable ((List.range (h.sectionTotal image)).map (h.sectionAt image))
      h.namesIndex image = .ok table) : table = h.names image := by
  unfold nameTable at hread
  unfold Header.names
  rw [headerAt?_eq] at hread
  by_cases hlisted : h.namesSection image < h.sectionTotal image
  · rw [if_pos hlisted] at hread ⊢
    simp only [bind, Except.bind] at hread
    split at hread
    · cases hread
    · split at hread
      · cases hread
      · split at hread
        · cases hread
          rfl
        · cases hread
  · rw [if_neg hlisted] at hread ⊢
    cases hread
    rfl

theorem exists_header_of_read {contents : Bytes} {image : Image}
    (hread : read contents = .ok image) :
    ∃ h, Header.read contents = .ok h ∧ image.sections =
      ((List.range (h.sectionTotal contents)).map (h.sectionAt contents)).filterMap
        (sectionOf? (h.names contents)) := by
  unfold read at hread
  simp only [bind, Except.bind] at hread
  split at hread
  · cases hread
  rename_i h hheader
  split at hread
  · cases hread
  split at hread
  · cases hread
  rename_i headers hheaders
  obtain rfl := eq_of_sectionHeaders hheaders
  split at hread
  · cases hread
  rename_i names hnames
  obtain rfl := eq_of_nameTable hnames
  split at hread
  · cases hread
  split at hread
  · cases hread
  cases hread
  exact ⟨h, hheader, rfl⟩

/-!
## Looking up a name
-/

theorem nameAt?_eq_some_iff {table : Bytes} {place : Nat} {name : Text} (hne : name ≠ [])
    (hzero : Char.ofNat 0 ∉ name) : nameAt? table place = some name ↔ Spells table place name := by
  constructor
  · intro hname
    refine ⟨(table.drop place).dropWhile (· ≠ 0), ?_, ?_⟩
    · unfold nameAt? at hname
      split at hname
      · cases hname
      · rw [Utf8.encode_of_decode? hname, List.takeWhile_append_dropWhile]
    · intro b hb
      have hstop := List.head?_dropWhile_not (· ≠ 0) (table.drop place)
      rw [Option.mem_def.mp hb] at hstop
      simpa using hstop
  · rintro ⟨back, hdrop, hback⟩
    have hbytes : ∀ b ∈ Utf8.encode name, decide (b ≠ 0) = true := by
      intro b hb
      refine decide_eq_true ?_
      rintro rfl
      exact zero_not_mem_encode hzero hb
    have htaken : (Utf8.encode name ++ back).takeWhile (· ≠ 0) = Utf8.encode name := by
      rw [List.takeWhile_append_of_pos hbytes]
      cases back with
      | nil =>
          rw [List.takeWhile_nil, List.append_nil]
      | cons b rest =>
          rw [hback b rfl, List.takeWhile_cons_of_neg (by decide), List.append_nil]
    unfold nameAt?
    rw [hdrop, htaken]
    split
    · rename_i hnil
      exact absurd hnil (Utf8.encode_ne_nil hne)
    · exact Utf8.decode?_encode name

/-!
## Data sections
-/

theorem data_ne_nil : ".data".toList ≠ [] := by
  decide

theorem zero_not_mem_data : Char.ofNat 0 ∉ ".data".toList := by
  decide

def isData (names : Bytes) (s : SectionHeader) : Bool :=
  (sectionOf? names s).any fun found => found.name == ".data".toList

section

variable {h : Header} {contents : Bytes} {index : Nat}

theorem isData_iff (hlisted : index < h.sectionTotal contents) :
    isData (h.names contents) (h.sectionAt contents index) = true ↔ h.DataAt contents index := by
  have hname : nameAt? (h.names contents) (h.sectionAt contents index).name = some ".data".toList ↔
      Spells (h.names contents) (h.sectionAt contents index).name ".data".toList :=
    nameAt?_eq_some_iff data_ne_nil zero_not_mem_data
  unfold isData sectionOf?
  split
  · rename_i hkind
    simp only [Option.any_none, Bool.false_eq_true, false_iff]
    exact fun hdata => hdata.contents hkind
  · rename_i hkind
    simp only [Option.any_map, Option.any_eq_true, beq_iff_eq, exists_eq_right]
    rw [hname]
    exact ⟨fun hspells => ⟨hlisted, hkind, hspells⟩, Header.DataAt.name⟩

theorem Header.FirstDataAt.unique {other : Nat} (hfirst : h.FirstDataAt contents index)
    (hother : h.FirstDataAt contents other) : index = other := by
  rcases Nat.lt_trichotomy index other with hlt | heq | hlt
  · exact absurd hfirst.data (hother.first index hlt)
  · exact heq
  · exact absurd hother.data (hfirst.first other hlt)

theorem Header.DataAt.exists_first (hdata : h.DataAt contents index) :
    ∃ first, h.FirstDataAt contents first := by
  classical
  have hsome : ∃ place, h.DataAt contents place := ⟨index, hdata⟩
  exact ⟨Nat.find hsome, Nat.find_spec hsome, fun earlier hlt => Nat.find_min hsome hlt⟩

theorem find?_isData_eq_some_iff :
    ((List.range (h.sectionTotal contents)).find? fun place =>
      isData (h.names contents) (h.sectionAt contents place)) = some index ↔
        h.FirstDataAt contents index := by
  rw [List.find?_range_eq_some]
  constructor
  · rintro ⟨hindex, hlisted, hearlier⟩
    have hlt := List.mem_range.mp hlisted
    refine ⟨(isData_iff hlt).mp hindex, fun earlier hbefore hdata => ?_⟩
    have hnot := hearlier earlier hbefore
    rw [(isData_iff hdata.listed).mpr hdata] at hnot
    cases hnot
  · rintro ⟨hdata, hfirst⟩
    refine ⟨(isData_iff hdata.listed).mpr hdata, List.mem_range.mpr hdata.listed,
      fun earlier hbefore => ?_⟩
    have hlt := Nat.lt_trans hbefore hdata.listed
    rw [Bool.not_eq_true', ← Bool.not_eq_true, isData_iff hlt]
    exact hfirst earlier hbefore

theorem hasData_iff_first {image : Image} (hsections : image.sections =
    ((List.range (h.sectionTotal contents)).map (h.sectionAt contents)).filterMap
      (sectionOf? (h.names contents))) :
    image.hasData = true ↔
      ∃ first, h.FirstDataAt contents first ∧ 0 < (h.sectionAt contents first).size := by
  have hlookup : image.section? ".data".toList =
      ((List.range (h.sectionTotal contents)).find? fun place =>
        isData (h.names contents) (h.sectionAt contents place)).bind fun place =>
          sectionOf? (h.names contents) (h.sectionAt contents place) := by
    rw [Image.section?, hsections, List.find?_filterMap, List.find?_map, Option.bind_map]
    rfl
  unfold Image.hasData
  rw [hlookup]
  cases hfind : (List.range (h.sectionTotal contents)).find? fun place =>
      isData (h.names contents) (h.sectionAt contents place) with
  | none =>
      simp only [Option.bind_none, Bool.false_eq_true, false_iff]
      rintro ⟨first, hfirst, -⟩
      rw [find?_isData_eq_some_iff.mpr hfirst] at hfind
      cases hfind
  | some first =>
      have hfirst := find?_isData_eq_some_iff.mp hfind
      have hname := (nameAt?_eq_some_iff data_ne_nil zero_not_mem_data).mpr hfirst.data.name
      have hsection : sectionOf? (h.names contents) (h.sectionAt contents first) =
          some ⟨".data".toList, (h.sectionAt contents first).addr,
            (h.sectionAt contents first).size⟩ := by
        unfold sectionOf?
        rw [if_neg hfirst.data.contents, hname, Option.map_some]
      rw [Option.bind_some, hsection]
      simp only [decide_eq_true_eq]
      constructor
      · exact fun hsize => ⟨first, hfirst, hsize⟩
      · rintro ⟨other, hother, hsize⟩
        rwa [hfirst.unique hother]

theorem first_suffices_iff :
    ((∃ first, h.FirstDataAt contents first ∧ 0 < (h.sectionAt contents first).size) ↔
        ∃ place, h.DataAt contents place ∧ 0 < (h.sectionAt contents place).size) ↔
      ∀ first, h.FirstDataAt contents first → (h.sectionAt contents first).size = 0 →
        ∀ place, h.DataAt contents place → (h.sectionAt contents place).size = 0 := by
  constructor
  · intro hiff first hfirst hempty place hdata
    by_contra hsize
    obtain ⟨other, hother, hpos⟩ := hiff.mpr ⟨place, hdata, Nat.pos_of_ne_zero hsize⟩
    obtain rfl := hfirst.unique hother
    omega
  · intro hall
    constructor
    · rintro ⟨first, hfirst, hpos⟩
      exact ⟨first, hfirst.data, hpos⟩
    · rintro ⟨place, hdata, hpos⟩
      obtain ⟨first, hfirst⟩ := hdata.exists_first
      refine ⟨first, hfirst, Nat.pos_of_ne_zero fun hempty => ?_⟩
      have hsize := hall first hfirst hempty place hdata
      omega

end

end Elf

/-- An image that is accepted is taken for one with data just when the first section of its table
that has contents and the name `.data` has bytes.  That is the same as for any such section to
have bytes just when no empty one stands before all that have some. -/
theorem imageOf_hasData {binary : Path} {contents : Bytes} {image : Elf.Image}
    (himage : imageOf binary contents = .ok image) :
    ∃ h, Elf.Header.read contents = .ok h ∧
      (image.hasData = true ↔
        ∃ first, h.FirstDataAt contents first ∧ 0 < (h.sectionAt contents first).size) ∧
      ((image.hasData = true ↔
          ∃ place, h.DataAt contents place ∧ 0 < (h.sectionAt contents place).size) ↔
        ∀ first, h.FirstDataAt contents first → (h.sectionAt contents first).size = 0 →
          ∀ place, h.DataAt contents place → (h.sectionAt contents place).size = 0) := by
  have hread : Elf.read contents = .ok image := by
    unfold imageOf at himage
    split at himage
    · cases himage
    · rename_i found hread
      split at himage
      · cases himage
        exact hread
      · cases himage
  obtain ⟨h, hheader, hsections⟩ := Elf.exists_header_of_read hread
  have hdata := Elf.hasData_iff_first hsections
  exact ⟨h, hheader, hdata, by rw [hdata]; exact Elf.first_suffices_iff⟩

/-- An image with two data sections, an empty one before one of 32 bytes. -/
def Elf.Draft.twofoldData (storage : Elf.Storage) : Elf.Draft where
  layout := ⟨.narrow, .littleEndian⟩
  machine := riscvMachine
  entry := 0x80001000
  sections := [
    { name := ".data".toList
      storage := storage
      flags := 3
      addr := 0x80004000
      offset := 76
      size := 0
      name_ne_nil := Elf.data_ne_nil
      zero_not_mem_name := Elf.zero_not_mem_data
      addr_lt := by decide
      offset_lt := by decide
      size_lt := by decide },
    { name := ".data".toList
      storage := .stored
      flags := 3
      addr := 0x80004000
      offset := 76
      size := 32
      name_ne_nil := Elf.data_ne_nil
      zero_not_mem_name := Elf.zero_not_mem_data
      addr_lt := by decide
      offset_lt := by decide
      size_lt := by decide }]
  filling := 0 :: List.replicate 32 0xAB
  machine_lt := by decide
  entry_lt := by decide
  length_sections_lt := by cases storage <;> decide
  place_lt := by cases storage <;> decide
  offset_lt := by cases storage <;> decide

theorem Elf.Draft.imageOf_twofoldData (storage : Elf.Storage) :
    imageOf (.ofText "a.out".toList) (twofoldData storage).bytes =
      .ok (twofoldData storage).image := by
  have hread := (twofoldData storage).read_append []
  rw [List.append_nil] at hread
  unfold imageOf
  rw [hread]
  exact if_pos rfl

theorem Elf.Draft.dataAt_twofoldData (storage : Elf.Storage) :
    (twofoldData storage).header.DataAt (twofoldData storage).bytes 3 ∧
      0 < ((twofoldData storage).header.sectionAt (twofoldData storage).bytes 3).size := by
  have hspells : Elf.Spells ((twofoldData storage).header.names (twofoldData storage).bytes)
      ((twofoldData storage).header.sectionAt (twofoldData storage).bytes 3).name
        ".data".toList :=
    ⟨[0], by cases storage <;> decide +kernel, fun b hb => (Option.some.inj hb).symm⟩
  exact ⟨⟨by cases storage <;> decide +kernel, by cases storage <;> decide +kernel, hspells⟩,
    by cases storage <;> decide +kernel⟩

/-- Where the first of the two is reserved, the other is the first with contents, and the image is
taken for one with data. -/
theorem imageOf_hasData_reserved :
    imageOf (.ofText "a.out".toList) (Elf.Draft.twofoldData .reserved).bytes =
        .ok (Elf.Draft.twofoldData .reserved).image ∧
      (Elf.Draft.twofoldData .reserved).image.hasData = true ∧
        ∃ h, Elf.Header.read (Elf.Draft.twofoldData .reserved).bytes = .ok h ∧
          h.FirstDataAt (Elf.Draft.twofoldData .reserved).bytes 3 := by
  have himage := Elf.Draft.imageOf_twofoldData .reserved
  obtain ⟨h, hheader, hdata, -⟩ := imageOf_hasData himage
  have hread : Elf.Header.read (Elf.Draft.twofoldData .reserved).bytes =
      .ok (Elf.Draft.twofoldData .reserved).header := by
    decide +kernel
  obtain rfl := Except.ok.inj (hread.symm.trans hheader)
  obtain ⟨hthird, hsize⟩ := Elf.Draft.dataAt_twofoldData .reserved
  have hfirst : ∀ earlier < 3, ¬ (Elf.Draft.twofoldData .reserved).header.DataAt
      (Elf.Draft.twofoldData .reserved).bytes earlier := by
    intro earlier hlt hearlier
    have hisData := (Elf.isData_iff hearlier.listed).mpr hearlier
    interval_cases earlier <;> revert hisData <;> decide +kernel
  exact ⟨himage, hdata.mpr ⟨3, ⟨hthird, hfirst⟩, hsize⟩, _, hread, hthird, hfirst⟩

/-- Where the first of the two is stored, the image is taken for one without data, and the bytes
of the second are there. -/
theorem imageOf_hasData_shadowed :
    imageOf (.ofText "a.out".toList) (Elf.Draft.twofoldData .stored).bytes =
        .ok (Elf.Draft.twofoldData .stored).image ∧
      (Elf.Draft.twofoldData .stored).image.hasData = false ∧
        ∃ h, Elf.Header.read (Elf.Draft.twofoldData .stored).bytes = .ok h ∧
          h.DataAt (Elf.Draft.twofoldData .stored).bytes 3 ∧
            0 < (h.sectionAt (Elf.Draft.twofoldData .stored).bytes 3).size :=
  ⟨Elf.Draft.imageOf_twofoldData .stored, by decide +kernel, (Elf.Draft.twofoldData .stored).header,
    by decide +kernel, Elf.Draft.dataAt_twofoldData .stored⟩

end Imprint
