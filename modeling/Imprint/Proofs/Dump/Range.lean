import Imprint.Proofs.Dump.Reading
import Imprint.Proofs.Faithfulness
import Imprint.Proofs.Memory.Listing

/-!
# The range of data words

The data memory has words at indices of 30 bits.  The first word of a row always
stands at such an index, but a row is kept whole whatever its address is, and one
at the end of the address space runs over it.  So all statements are in range
exactly when no row stands at one of the last addresses.
-/

namespace Imprint

namespace DumpRow

def addressOf (line : Text) : Nat :=
  Text.hexValue (line.take 8)

def Fits (r : DumpRow) : Prop :=
  ∀ w ∈ r.words, w.word.toNat < 0x40000000

instance (r : DumpRow) : Decidable r.Fits := by
  unfold Fits
  infer_instance

theorem read?_address {line : Text} {r : DumpRow} (hread : read? line = some r) :
    addressOf line < 0x100000000 ∧ r.start.toNat = addressOf line / 4 := by
  rw [read?_eq, Option.bind_eq_some_iff] at hread
  obtain ⟨⟨address, rest⟩, hfront, hread⟩ := hread
  obtain ⟨⟨values, behind⟩, -, hread⟩ := Option.bind_eq_some_iff.mp hread
  obtain ⟨haddress, hlt⟩ := Text.hexValue_eightDigits? hfront
  have hstart : r.start = BitVec.ofNat 32 address.hexValue >>> 2 := by
    unfold ofColumns? at hread
    split at hread
    · split at hread
      · cases hread
        rfl
      · cases hread
    · cases hread
  refine ⟨hlt, ?_⟩
  rw [hstart, haddress, toNat_wordIndex hlt, addressOf]

theorem index_eq {line : Text} {r : DumpRow} (hread : read? line = some r) :
    r.words.map (fun w => w.word.toNat) =
      (List.range 4).map fun place => addressOf line / 4 + place := by
  obtain ⟨hlt, hstart⟩ := read?_address hread
  have hindex (place : Nat) (hplace : place < 4) :
      (r.start + BitVec.ofNat 32 place).toNat = addressOf line / 4 + place := by
    rw [toNat_add_index (by omega), hstart]
  show [r.start.toNat, (r.start + BitVec.ofNat 32 1).toNat, (r.start + BitVec.ofNat 32 2).toNat,
    (r.start + BitVec.ofNat 32 3).toNat] = _
  rw [hstart, hindex 1 (by decide), hindex 2 (by decide), hindex 3 (by decide)]
  rfl

theorem fits_iff_address {line : Text} {r : DumpRow} (hread : read? line = some r) :
    r.Fits ↔ addressOf line < 0xFFFFFFF4 := by
  have hindices : r.Fits ↔ ∀ index ∈ r.words.map (fun w => w.word.toNat), index < 0x40000000 := by
    rw [List.forall_mem_map]
    rfl
  rw [hindices, index_eq hread, List.forall_mem_map]
  constructor
  · intro hfits
    have hlast := hfits 3 (by decide)
    omega
  · intro haddress place hplace
    have hlt := List.mem_range.mp hplace
    omega

end DumpRow

namespace Dump

/-- The addresses of the full rows of the data section, in order. -/
def rowAddresses (dump : Text) : List Nat :=
  ((dataLines dump).filter fun line => (DumpRow.read? line).isSome).map DumpRow.addressOf

/-- A statement on a word of the data memory, with an index of 30 bits and a value of 32. -/
def InRange (statement : Text) : Prop :=
  ∃ index value, index < 0x40000000 ∧ value < 0x100000000 ∧
    statement = wordStatement (index, value)

def rowStatements (rs : List DumpRow) : List Text :=
  rs.flatMap fun r => r.words.map DataWord.statement

theorem statements_eq_rowStatements (dump : Text) :
    statements dump = rowStatements (rows dump) := by
  simp only [statements, words, List.map_flatMap]
  rfl

@[simp] theorem length_rowStatements (rs : List DumpRow) :
    (rowStatements rs).length = 4 * rs.length := by
  induction rs with
  | nil =>
      rfl
  | cons r rest ih =>
      unfold rowStatements at ih ⊢
      rw [List.flatMap_cons, List.length_append, ih, List.length_map, List.length_cons]
      show 4 + 4 * rest.length = 4 * (rest.length + 1)
      omega

theorem inRange_statement_iff (w : DataWord) :
    InRange w.statement ↔ w.word.toNat < 0x40000000 := by
  constructor
  · rintro ⟨index, value, hindex, -, hstatement⟩
    have hliterals : wordStatement (index, value) =
        "assume (dmem[0x".toList ++ literals index value "bv32);".toList := by
      unfold wordStatement literals
      simp only [List.append_assoc]
    rw [w.statement_eq_literals, hliterals] at hstatement
    obtain ⟨hword, -⟩ := literals_inj (List.append_cancel_left hstatement)
    rw [hword]
    exact hindex
  · intro hindex
    exact ⟨w.word.toNat, w.value.toNat, hindex, w.value.isLt, rfl⟩

theorem inRange_iff_fits (dump : Text) :
    (∀ statement ∈ statements dump, InRange statement) ↔ ∀ r ∈ rows dump, r.Fits := by
  have hstatements : (∀ statement ∈ statements dump, InRange statement) ↔
      ∀ w ∈ words dump, w.word.toNat < 0x40000000 := by
    unfold statements
    rw [List.forall_mem_map]
    exact forall_congr' fun w => imp_congr_right fun _ => inRange_statement_iff w
  rw [hstatements]
  constructor
  · intro hwords r hr w hw
    exact hwords w (List.mem_flatMap.mpr ⟨r, hr, hw⟩)
  · intro hrows w hw
    obtain ⟨r, hr, hword⟩ := List.mem_flatMap.mp hw
    exact hrows r hr w hword

theorem statements_eq_filter_iff_fits (dump : Text) :
    statements dump = rowStatements ((rows dump).filter fun r => r.Fits) ↔
      ∀ r ∈ rows dump, r.Fits := by
  constructor
  · intro heq
    rw [statements_eq_rowStatements] at heq
    have hlength := congrArg List.length heq
    rw [length_rowStatements, length_rowStatements] at hlength
    have hall := List.length_filter_eq_length_iff.mp (Nat.eq_of_mul_eq_mul_left (by decide)
      hlength.symm)
    exact fun r hr => of_decide_eq_true (hall r hr)
  · intro hrows
    rw [statements_eq_rowStatements,
      List.filter_eq_self.mpr fun r hr => decide_eq_true (hrows r hr)]

theorem fits_iff_rowAddresses (dump : Text) :
    (∀ r ∈ rows dump, r.Fits) ↔ ∀ address ∈ rowAddresses dump, address < 0xFFFFFFF4 := by
  constructor
  · intro hrows address haddress
    obtain ⟨line, hline, rfl⟩ := List.mem_map.mp haddress
    obtain ⟨hmem, hsome⟩ := List.mem_filter.mp hline
    obtain ⟨r, hread⟩ := Option.isSome_iff_exists.mp hsome
    exact (DumpRow.fits_iff_address hread).mp
      (hrows r (List.mem_filterMap.mpr ⟨line, hmem, hread⟩))
  · intro haddresses r hr
    obtain ⟨line, hmem, hread⟩ := List.mem_filterMap.mp hr
    refine (DumpRow.fits_iff_address hread).mpr (haddresses _ (List.mem_map_of_mem ?_))
    exact List.mem_filter.mpr ⟨hmem, by rw [hread, Option.isSome_some]⟩

/-- Every statement has a value of 32 bits and an index that leaves 30 bits by three at most.
All indices have 30 bits exactly when no full row stands in the last twelve bytes of the address
space, and the same goes for whether each row that runs over it adds no statement. -/
theorem statements_inRange_iff (dump : Text) :
    (∀ statement ∈ statements dump, ∃ index value, index < 0x40000003 ∧ value < 0x100000000 ∧
        statement = wordStatement (index, value)) ∧
      ((∀ statement ∈ statements dump, InRange statement) ↔
        ∀ address ∈ rowAddresses dump, address < 0xFFFFFFF4) ∧
      (statements dump = rowStatements ((rows dump).filter fun r => r.Fits) ↔
        ∀ address ∈ rowAddresses dump, address < 0xFFFFFFF4) := by
  refine ⟨?_, ?_, ?_⟩
  · intro statement hstatement
    obtain ⟨w, hw, rfl⟩ := List.mem_map.mp hstatement
    obtain ⟨r, hr, hword⟩ := List.mem_flatMap.mp hw
    obtain ⟨line, -, hread⟩ := List.mem_filterMap.mp hr
    refine ⟨w.word.toNat, w.value.toNat, ?_, w.value.isLt, rfl⟩
    have hindex := List.mem_map_of_mem (f := fun w => w.word.toNat) hword
    rw [DumpRow.index_eq hread] at hindex
    obtain ⟨place, hplace, hsum⟩ := List.mem_map.mp hindex
    have hlt := List.mem_range.mp hplace
    have haddress := (DumpRow.read?_address hread).1
    omega
  · rw [inRange_iff_fits, fits_iff_rowAddresses]
  · rw [statements_eq_filter_iff_fits, fits_iff_rowAddresses]

/-- A dump whose only row begins twelve bytes before the end of the address space. -/
def lastBytes : Text :=
  "Contents of section .data:\nfffffff4 00000001 00000002 00000003 00000004\n".toList

/-- The last word of the row is stated at an index of 31 bits. -/
theorem statements_lastBytes :
    statements lastBytes =
        ["assume (dmem[0x3FFFFFFDbv30] == 0x00000001bv32);".toList,
          "assume (dmem[0x3FFFFFFEbv30] == 0x00000002bv32);".toList,
          "assume (dmem[0x3FFFFFFFbv30] == 0x00000003bv32);".toList,
          "assume (dmem[0x40000000bv30] == 0x00000004bv32);".toList] ∧
      ¬ (∀ statement ∈ statements lastBytes, InRange statement) ∧
      statements lastBytes ≠ rowStatements ((rows lastBytes).filter fun r => r.Fits) := by
  have hrows : ¬ ∀ r ∈ rows lastBytes, r.Fits := by
    decide +kernel
  refine ⟨by decide +kernel, ?_, ?_⟩
  · rw [inRange_iff_fits]
    exact hrows
  · intro heq
    exact hrows ((statements_eq_filter_iff_fits lastBytes).mp heq)

end Dump

end Imprint
