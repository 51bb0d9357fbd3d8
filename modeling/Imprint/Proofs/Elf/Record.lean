import Imprint.Elf.Header

/-!
# Written records

A record is its fields one after another, each a number in a fixed count of
bytes.  What is read at the place of a field is the number that was written
there, in either width and either order, so headers are read back.
-/

namespace Imprint

namespace Elf

/-!
## Writing
-/

def littleBytes : Nat → Nat → Bytes
  | 0, _ => []
  | count + 1, n => UInt8.ofNat n :: littleBytes count (n / 256)

def Order.bytes (order : Order) (count n : Nat) : Bytes :=
  match order with
  | littleEndian => littleBytes count n
  | bigEndian => (littleBytes count n).reverse

/-- A field of a record: the count of its bytes and its number. -/
structure Field where
  size : Nat
  value : Nat

def Field.room : List Nat → Nat
  | [] => 0
  | size :: others => size + room others

def Layout.record (l : Layout) (fields : List Field) : Bytes :=
  fields.flatMap fun f => l.order.bytes f.size f.value

/-- The count of addresses, offsets and sizes that fit their field. -/
def Width.addressLimit (w : Width) : Nat :=
  Nat.pow 256 w.addressSize

def Width.identByte : Width → UInt8
  | narrow => 1
  | wide => 2

/-- The byte of the identification that stands for an order. -/
def Order.identByte : Order → UInt8
  | littleEndian => 1
  | bigEndian => 2

def Layout.ident (l : Layout) : Bytes :=
  Header.magic ++ l.width.identByte :: l.order.identByte :: 1 :: List.replicate 9 0

namespace Header

/-- The fields behind the identification, those that are not read being those of an
executable file. -/
def fields (h : Header) : List Field :=
  let w := h.layout.width
  [⟨2, 2⟩, ⟨2, h.machine⟩, ⟨4, 1⟩, ⟨w.addressSize, h.entry⟩, ⟨w.addressSize, h.programOffset⟩,
    ⟨w.addressSize, h.sectionOffset⟩, ⟨4, 0⟩, ⟨2, w.headerSize⟩, ⟨2, w.programHeaderSize⟩,
    ⟨2, h.programCount⟩, ⟨2, w.sectionHeaderSize⟩, ⟨2, h.sectionCount⟩, ⟨2, h.namesIndex⟩]

def bytes (h : Header) : Bytes :=
  h.layout.ident ++ h.layout.record h.fields

/-- Every number fits its field. -/
structure Fits (h : Header) : Prop where
  machine : h.machine < 0x10000
  entry : h.entry < h.layout.width.addressLimit
  programOffset : h.programOffset < h.layout.width.addressLimit
  sectionOffset : h.sectionOffset < h.layout.width.addressLimit
  programCount : h.programCount < 0x10000
  sectionCount : h.sectionCount < 0x10000
  namesIndex : h.namesIndex < 0x10000

end Header

namespace SectionHeader

/-- The fields of a section header: no further information, and an alignment of one. -/
def fields (s : SectionHeader) (w : Width) (flags : Nat) : List Field :=
  [⟨4, s.name⟩, ⟨4, s.kind⟩, ⟨w.addressSize, flags⟩, ⟨w.addressSize, s.addr⟩,
    ⟨w.addressSize, s.offset⟩, ⟨w.addressSize, s.size⟩, ⟨4, s.link⟩, ⟨4, 0⟩,
    ⟨w.addressSize, 1⟩, ⟨w.addressSize, s.entrySize⟩]

def bytes (s : SectionHeader) (l : Layout) (flags : Nat) : Bytes :=
  l.record (s.fields l.width flags)

/-- Every number fits its field. -/
structure Fits (s : SectionHeader) (w : Width) : Prop where
  name : s.name < 0x100000000
  kind : s.kind < 0x100000000
  addr : s.addr < w.addressLimit
  offset : s.offset < w.addressLimit
  size : s.size < w.addressLimit
  link : s.link < 0x100000000
  entrySize : s.entrySize < w.addressLimit

end SectionHeader

/-!
## Numbers
-/

@[simp] theorem length_littleBytes (count n : Nat) : (littleBytes count n).length = count := by
  induction count generalizing n with
  | zero =>
      rfl
  | succ count ih =>
      rw [littleBytes, List.length_cons, ih]

@[simp] theorem littleValue_littleBytes (count n : Nat) :
    littleValue (littleBytes count n) = n % Nat.pow 256 count := by
  induction count generalizing n with
  | zero =>
      exact (Nat.mod_one n).symm
  | succ count ih =>
      have hpow : Nat.pow 256 (count + 1) = 256 * Nat.pow 256 count := by
        rw [Nat.pow_eq, Nat.pow_eq, Nat.pow_succ, Nat.mul_comm]
      rw [littleBytes, littleValue, ih, hpow, Nat.mod_mul, UInt8.toNat_ofNat']

namespace Order

@[simp] theorem length_bytes (order : Order) (count n : Nat) :
    (order.bytes count n).length = count := by
  cases order with
  | littleEndian =>
      exact length_littleBytes count n
  | bigEndian =>
      rw [bytes, List.length_reverse, length_littleBytes]

@[simp] theorem value_bytes (order : Order) (count n : Nat) :
    order.value (order.bytes count n) = n % Nat.pow 256 count := by
  cases order with
  | littleEndian =>
      exact littleValue_littleBytes count n
  | bigEndian =>
      rw [value, bytes, List.reverse_reverse, littleValue_littleBytes]

end Order

/-!
## Fields
-/

namespace Layout

variable {l : Layout}

theorem record_cons (f : Field) (others : List Field) :
    l.record (f :: others) = l.order.bytes f.size f.value ++ l.record others :=
  List.flatMap_cons

@[simp] theorem length_record (fields : List Field) :
    (l.record fields).length = Field.room (fields.map Field.size) := by
  induction fields with
  | nil =>
      rfl
  | cons f others ih =>
      simp [record_cons, ih, Field.room]

theorem field_append (front record : Bytes) (offset size : Nat) :
    l.field (front ++ record) (front.length + offset) size = l.field record offset size := by
  rw [field, field, List.drop_length_add_append]

theorem field_record (front : Bytes) (fields : List Field) (place : Nat)
    {offset size value : Nat} (hf : fields[place]? = some ⟨size, value⟩)
    (hplace : front.length + Field.room ((fields.map Field.size).take place) = offset)
    (hlt : value < Nat.pow 256 size) :
    l.field (front ++ l.record fields) offset size = value := by
  subst hplace
  rw [field_append]
  induction fields generalizing place with
  | nil =>
      cases hf
  | cons g others ih =>
      have hlength := l.order.length_bytes g.size g.value
      cases place with
      | zero =>
          obtain rfl : g = ⟨size, value⟩ := Option.some.inj hf
          have hfront : (l.record (⟨size, value⟩ :: others)).take size =
              l.order.bytes size value := by
            rw [record_cons, List.take_append_of_le_length (Nat.le_of_eq hlength.symm),
              List.take_of_length_le (Nat.le_of_eq hlength)]
          show l.order.value ((l.record (⟨size, value⟩ :: others)).take size) = value
          rw [hfront, Order.value_bytes, Nat.mod_eq_of_lt hlt]
      | succ place =>
          have hrest := ih place hf
          rw [← field_append (l.order.bytes g.size g.value), hlength] at hrest
          exact hrest

end Layout

/-!
## Headers
-/

namespace SectionHeader

variable {l : Layout}

theorem sizes_fields (s : SectionHeader) (w : Width) (flags : Nat) :
    (s.fields w flags).map Field.size = [4, 4, w.addressSize, w.addressSize, w.addressSize,
      w.addressSize, 4, 4, w.addressSize, w.addressSize] :=
  rfl

@[simp] theorem length_bytes (s : SectionHeader) (l : Layout) (flags : Nat) :
    (s.bytes l flags).length = l.width.sectionHeaderSize := by
  rw [bytes, Layout.length_record, sizes_fields]
  cases l.width <;> rfl

theorem ofRecord_bytes {s : SectionHeader} (hfits : s.Fits l.width) (flags : Nat) :
    ofRecord l (s.bytes l flags) = s := by
  obtain ⟨width, order⟩ := l
  obtain ⟨name, kind, addr, offset, size, link, entrySize⟩ := s
  let a := width.addressSize
  have hplace (place : Nat) : ([] : Bytes).length +
      Field.room ((((SectionHeader.mk name kind addr offset size link entrySize).fields width
        flags).map Field.size).take place) =
        0 + Field.room ([4, 4, a, a, a, a, 4, 4, a, a].take place) :=
    rfl
  simp only [ofRecord, mk.injEq]
  refine ⟨?_, ?_, ?_, ?_, ?_, ?_, ?_⟩
  · exact Layout.field_record [] _ 0 rfl (hplace 0) hfits.name
  · exact Layout.field_record [] _ 1 rfl (hplace 1) hfits.kind
  · exact Layout.field_record [] _ 3 rfl ((hplace 3).trans (by cases width <;> rfl)) hfits.addr
  · exact Layout.field_record [] _ 4 rfl ((hplace 4).trans (by cases width <;> rfl)) hfits.offset
  · exact Layout.field_record [] _ 5 rfl ((hplace 5).trans (by cases width <;> rfl)) hfits.size
  · exact Layout.field_record [] _ 6 rfl ((hplace 6).trans (by cases width <;> rfl)) hfits.link
  · exact Layout.field_record [] _ 9 rfl ((hplace 9).trans (by cases width <;> rfl))
      hfits.entrySize

theorem read?_append {s : SectionHeader} (hfits : s.Fits l.width) (flags : Nat) (rest : Bytes) :
    read? l (s.bytes l flags ++ rest) = some (s, rest) := by
  have htake : (s.bytes l flags ++ rest).take l.width.sectionHeaderSize = s.bytes l flags := by
    rw [← s.length_bytes l flags, List.take_left]
  have hdrop : (s.bytes l flags ++ rest).drop l.width.sectionHeaderSize = rest := by
    rw [← s.length_bytes l flags, List.drop_left]
  simp [read?, htake, hdrop, ofRecord_bytes hfits]

/-- Section headers with their flags, written one after another. -/
def tableBytes (l : Layout) (table : List (SectionHeader × Nat)) : Bytes :=
  table.flatMap fun entry => entry.1.bytes l entry.2

theorem tableBytes_cons_append (l : Layout) (entry : SectionHeader × Nat)
    (others : List (SectionHeader × Nat)) (rest : Bytes) :
    tableBytes l (entry :: others) ++ rest =
      entry.1.bytes l entry.2 ++ (tableBytes l others ++ rest) := by
  rw [tableBytes, List.flatMap_cons, List.append_assoc]
  rfl

@[simp] theorem length_tableBytes (l : Layout) (table : List (SectionHeader × Nat)) :
    (tableBytes l table).length = table.length * l.width.sectionHeaderSize := by
  induction table with
  | nil =>
      exact (Nat.zero_mul _).symm
  | cons entry others ih =>
      simp only [tableBytes] at ih
      simp [tableBytes, ih, Nat.succ_mul, Nat.add_comm]

theorem readMany?_append {table : List (SectionHeader × Nat)}
    (hfits : ∀ entry ∈ table, entry.1.Fits l.width) (rest : Bytes) :
    readMany? l table.length (tableBytes l table ++ rest) = some (table.map Prod.fst) := by
  induction table with
  | nil =>
      rfl
  | cons entry others ih =>
      have hfirst := read?_append (hfits entry List.mem_cons_self) entry.2
        (tableBytes l others ++ rest)
      have hothers := ih fun other hother => hfits other (List.mem_cons_of_mem entry hother)
      simp [tableBytes_cons_append, readMany?, hfirst, hothers]

end SectionHeader

namespace Header

@[simp] theorem length_ident (l : Layout) : l.ident.length = 16 :=
  rfl

theorem sizes_fields (h : Header) :
    h.fields.map Field.size = [2, 2, 4, h.layout.width.addressSize, h.layout.width.addressSize,
      h.layout.width.addressSize, 4, 2, 2, 2, 2, 2, 2] :=
  rfl

@[simp] theorem length_bytes (h : Header) : h.bytes.length = h.layout.width.headerSize := by
  rw [bytes, List.length_append, Layout.length_record, length_ident, sizes_fields]
  cases h.layout.width <;> rfl

@[simp] theorem readLayout_append (h : Header) (rest : Bytes) :
    readLayout (h.bytes ++ rest) = .ok h.layout := by
  have hident : ∀ (l : Layout) (behind : Bytes), readLayout (l.ident ++ behind) = .ok l := by
    rintro ⟨width, order⟩ behind
    cases width <;> cases order <;> rfl
  rw [bytes, List.append_assoc, hident]

theorem ofRecord_bytes {h : Header} (hfits : h.Fits) : ofRecord h.layout h.bytes = h := by
  obtain ⟨⟨width, order⟩, machine, entry, programOffset, sectionOffset, programCount,
    sectionCount, namesIndex⟩ := h
  let a := width.addressSize
  have hplace (place : Nat) : (Layout.ident ⟨width, order⟩).length +
      Field.room (((Header.mk ⟨width, order⟩ machine entry programOffset sectionOffset programCount
        sectionCount namesIndex).fields.map Field.size).take place) =
        16 + Field.room ([2, 2, 4, a, a, a, 4, 2, 2, 2, 2, 2, 2].take place) :=
    rfl
  simp only [ofRecord, mk.injEq, true_and]
  refine ⟨?_, ?_, ?_, ?_, ?_, ?_, ?_⟩
  · exact Layout.field_record _ _ 1 rfl (hplace 1) hfits.machine
  · exact Layout.field_record _ _ 3 rfl ((hplace 3).trans (by cases width <;> rfl)) hfits.entry
  · exact Layout.field_record _ _ 4 rfl ((hplace 4).trans (by cases width <;> rfl))
      hfits.programOffset
  · exact Layout.field_record _ _ 5 rfl ((hplace 5).trans (by cases width <;> rfl))
      hfits.sectionOffset
  · exact Layout.field_record _ _ 9 rfl ((hplace 9).trans (by cases width <;> rfl))
      hfits.programCount
  · exact Layout.field_record _ _ 11 rfl ((hplace 11).trans (by cases width <;> rfl))
      hfits.sectionCount
  · exact Layout.field_record _ _ 12 rfl ((hplace 12).trans (by cases width <;> rfl))
      hfits.namesIndex

theorem read_append {h : Header} (hfits : h.Fits) (rest : Bytes) :
    read (h.bytes ++ rest) = .ok h := by
  have htake : (h.bytes ++ rest).take h.layout.width.headerSize = h.bytes := by
    rw [← length_bytes, List.take_left]
  simp [read, bind, Except.bind, htake, ofRecord_bytes hfits]

end Header

end Elf

end Imprint
