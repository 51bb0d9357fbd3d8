import Imprint.Proofs.Dump.Printed

/-!
# Reading printed dumps

Each full row of a printed dump is read back as its four words, whatever its
characters are.  A last row of fewer bytes is read as nothing: a group of it has
a space in the place of a digit, and no character behind the groups can mend that.
-/

namespace Imprint

namespace DumpRow

def columns? : Nat → Text → Option (List Text × Text)
  | 0, t => some ([], t)
  | count + 1, t => do
      let (digits, rest) ← column? t
      let (others, rest) ← columns? count rest
      some (digits :: others, rest)

/-- The row of an address and the values in its columns, where these are four and end it. -/
def ofColumns? (address : Text) (values : List Text) (rest : Text) : Option DumpRow :=
  match values.map fun digits => BitVec.ofNat 32 digits.hexValue with
  | [first, second, third, fourth] =>
      if endsRow rest then
        some ⟨BitVec.ofNat 32 address.hexValue >>> 2, first, second, third, fourth⟩
      else
        none
  | _ => none

theorem read?_eq (line : Text) :
    read? line = line.eightDigits?.bind fun front =>
      (columns? 4 front.2).bind fun columns => ofColumns? front.1 columns.1 columns.2 := by
  simp only [read?, columns?, ofColumns?, Option.bind_eq_bind, Option.bind_assoc, Option.bind_some,
    List.map_cons, List.map_nil]

theorem column?_extend {t digits rest : Text} (ht : column? t = some (digits, rest))
    (more : Text) : column? (t ++ more) = some (digits, rest ++ more) := by
  unfold column? at ht ⊢
  cases t with
  | nil =>
      cases ht
  | cons c others =>
      by_cases hc : ' ' = c
      · simp only [Text.after?, if_pos hc, Option.bind_eq_bind, Option.bind_some,
          List.cons_append] at ht ⊢
        exact Text.eightDigits?_extend ht more
      · simp [Text.after?, hc] at ht

theorem columns?_extend {count : Nat} {t rest : Text} {values : List Text}
    (ht : columns? count t = some (values, rest)) (more : Text) :
    columns? count (t ++ more) = some (values, rest ++ more) := by
  induction count generalizing t values with
  | zero =>
      cases ht
      rfl
  | succ count ih =>
      simp only [columns?, Option.bind_eq_bind, Option.bind_eq_some_iff] at ht
      obtain ⟨⟨digits, behind⟩, hcolumn, ⟨others, rest'⟩, hothers, heq⟩ := ht
      cases heq
      simp only [columns?, Option.bind_eq_bind, column?_extend hcolumn more, Option.bind_some,
        ih hothers]

theorem eightDigits?_of_space {front : Text} (hlength : front.length = 8) (hspace : ' ' ∈ front)
    (rest : Text) : (front ++ rest).eightDigits? = none := by
  have htake : (front ++ rest).take 8 = front := by
    rw [← hlength, List.take_left]
  unfold Text.eightDigits?
  dsimp only
  rw [htake, if_neg]
  rintro ⟨-, hall⟩
  exact absurd (List.all_eq_true.mp hall ' ' hspace) (by decide)

end DumpRow

namespace Dump

/-!
## Columns of a row
-/

theorem column?_group_of_le {bytes : Bytes} (hlength : 4 ≤ bytes.length) (rest : Text) :
    DumpRow.column? (group bytes ++ rest) = some (digitsOf (bytes.take 4), rest) := by
  have hdigits : (digitsOf (bytes.take 4)).length = 8 := by
    rw [length_digitsOf, List.length_take]
    omega
  rw [group_of_le hlength, List.cons_append]
  exact Text.eightDigits?_append hdigits (all_isHexDigit_digitsOf _) rest

theorem column?_group_of_lt {bytes : Bytes} (hlength : bytes.length < 4) (rest : Text) :
    DumpRow.column? (group bytes ++ rest) = none := by
  obtain ⟨digits, hgroup, hdigits, hspace⟩ := group_of_lt hlength
  rw [hgroup, List.cons_append]
  exact DumpRow.eightDigits?_of_space hdigits hspace rest

theorem columns?_groups_of_le {count : Nat} {bytes : Bytes} (hlength : 4 * count ≤ bytes.length)
    (rest : Text) :
    DumpRow.columns? count (groups count bytes ++ rest) =
      some (groupDigits count bytes, rest) := by
  induction count generalizing bytes with
  | zero =>
      rfl
  | succ count ih =>
      have hcolumn := column?_group_of_le (show 4 ≤ bytes.length by omega)
        (groups count (bytes.drop 4) ++ rest)
      have hdrop : 4 * count ≤ (bytes.drop 4).length := by
        rw [List.length_drop]
        omega
      simp only [groups, List.append_assoc, DumpRow.columns?, Option.bind_eq_bind, hcolumn,
        Option.bind_some, ih hdrop, groupDigits]

theorem columns?_groups_of_lt {count : Nat} {bytes : Bytes} (hlength : bytes.length < 4 * count)
    (rest : Text) : DumpRow.columns? count (groups count bytes ++ rest) = none := by
  induction count generalizing bytes with
  | zero =>
      omega
  | succ count ih =>
      rw [groups, List.append_assoc]
      by_cases hfirst : bytes.length < 4
      · simp only [DumpRow.columns?, Option.bind_eq_bind, column?_group_of_lt hfirst,
          Option.bind_none]
      · have hdrop : (bytes.drop 4).length < 4 * count := by
          rw [List.length_drop]
          omega
        simp only [DumpRow.columns?, Option.bind_eq_bind,
          column?_group_of_le (Nat.le_of_not_lt hfirst), Option.bind_some, ih hdrop,
          Option.bind_none]

theorem endsRow_trimRight {chars : Text} (hchars : '\n' ∉ chars) :
    DumpRow.endsRow (Text.trimRight (' ' :: ' ' :: chars)) = true := by
  cases hrest : Text.trimRight (' ' :: ' ' :: chars) with
  | nil =>
      rfl
  | cons c others =>
      have hprefix := Text.trimRight_prefix (' ' :: ' ' :: chars)
      rw [hrest] at hprefix
      obtain ⟨more, hmore⟩ := hprefix
      obtain ⟨rfl, hothers⟩ := List.cons.inj hmore
      cases others with
      | nil =>
          have hlast := List.head?_dropWhile_not Text.isBlank (' ' :: ' ' :: chars).reverse
          have hreversed : (' ' :: ' ' :: chars).reverse.dropWhile Text.isBlank = [' '] := by
            have htrim := congrArg List.reverse hrest
            unfold Text.trimRight at htrim
            rwa [List.reverse_reverse] at htrim
          rw [hreversed] at hlast
          exact absurd (show Text.isBlank ' ' = false from hlast) (by decide)
      | cons d tail =>
          obtain ⟨rfl, htail⟩ := List.cons.inj hothers
          have hnewline : '\n' ∉ Text.trimLeft tail := by
            intro hmem
            have hsub := (List.dropWhile_sublist Text.isBlank).subset hmem
            refine hchars ?_
            rw [← htail]
            exact List.mem_append_left more hsub
          have hcontains : (Text.trimLeft tail).contains '\n' = false := by
            rw [← Bool.not_eq_true, List.contains_iff_mem]
            exact hnewline
          show (Text.isBlank ' ' && Text.isBlank ' ' &&
            !(Text.trimLeft tail).contains '\n') = true
          rw [hcontains]
          decide

/-!
## Rows
-/

theorem toNat_word {bytes : Bytes} (hlength : bytes.length = 4) :
    (BitVec.ofNat 32 (digitsOf bytes).hexValue).toNat = valueOf bytes := by
  rw [hexValue_digitsOf, BitVec.toNat_ofNat]
  exact Nat.mod_eq_of_lt (valueOf_lt hlength)

theorem toNat_start {address : Nat} (haddress : address < 0x100000000) :
    (BitVec.ofNat 32 (Radix.lowerHex.padded 8 address).hexValue >>> 2).toNat = address / 4 := by
  have hvalue : (Radix.lowerHex.padded 8 address).hexValue = address := by
    rw [Text.hexValue_lowerPadded]
    exact Nat.mod_eq_of_lt haddress
  rw [hvalue, toNat_wordIndex haddress]

theorem read?_of_full {address : Nat} {bytes : Bytes} (hlength : bytes.length = 16)
    (haddress : address + 16 ≤ 0x100000000) :
    ∃ row, DumpRow.read? (printRow address bytes).trim = some row ∧
      row.words.map (fun w => (w.word.toNat, w.value.toNat)) = (List.range 4).map fun place =>
        (address / 4 + place, valueOf ((bytes.drop (4 * place)).take 4)) := by
  let chars := Text.trimRight (' ' :: ' ' :: bytes.map charOf)
  let start := BitVec.ofNat 32 (Radix.lowerHex.padded 8 address).hexValue >>> 2
  let value (place : Nat) :=
    BitVec.ofNat 32 (digitsOf ((bytes.drop (4 * place)).take 4)).hexValue
  have hread : DumpRow.read? (printRow address bytes).trim =
      some ⟨start, value 0, value 1, value 2, value 3⟩ := by
    have hfront := Text.eightDigits?_append (Radix.length_padded Radix.lowerHex 8 address)
      (Text.all_isHexDigit_lowerPadded 8 address) (groups 4 bytes ++ chars)
    have hcolumns := columns?_groups_of_le (show 4 * 4 ≤ bytes.length by omega) chars
    rw [trim_printRow_of_le (by omega), DumpRow.read?_eq, hfront, Option.bind_some, hcolumns,
      Option.bind_some, groupDigits_eq]
    exact if_pos (endsRow_trimRight (newline_not_mem_chars bytes))
  have hstart : start.toNat = address / 4 := toNat_start (by omega)
  have hindex (place : Nat) (hplace : place < 4) :
      (start + BitVec.ofNat 32 place).toNat = address / 4 + place := by
    rw [toNat_add_index (by omega), hstart]
  have hvalue (place : Nat) (hplace : place < 4) :
      (value place).toNat = valueOf ((bytes.drop (4 * place)).take 4) :=
    toNat_word (length_word (by omega))
  refine ⟨_, hread, ?_⟩
  show [(start.toNat, (value 0).toNat),
      ((start + BitVec.ofNat 32 1).toNat, (value 1).toNat),
      ((start + BitVec.ofNat 32 2).toNat, (value 2).toNat),
      ((start + BitVec.ofNat 32 3).toNat, (value 3).toNat)] = _
  rw [hstart, hindex 1 (by decide), hindex 2 (by decide), hindex 3 (by decide),
    hvalue 0 (by decide), hvalue 1 (by decide), hvalue 2 (by decide), hvalue 3 (by decide)]
  rfl

theorem read?_of_short {bytes : Bytes} (hlength : bytes.length < 16) (address : Nat) :
    DumpRow.read? (printRow address bytes).trim = none := by
  cases hread : DumpRow.read? (printRow address bytes).trim with
  | none =>
      rfl
  | some row =>
      rw [DumpRow.read?_eq, Option.bind_eq_some_iff] at hread
      obtain ⟨⟨digits, behind⟩, hfront, hread⟩ := hread
      obtain ⟨⟨values, rest⟩, hcolumns, -⟩ := Option.bind_eq_some_iff.mp hread
      obtain ⟨dropped, hdropped⟩ := Text.trimRight_prefix (Radix.lowerHex.padded 8 address ++
        (groups 4 bytes ++ ' ' :: ' ' :: bytes.map charOf))
      have hextended := Text.eightDigits?_extend hfront dropped
      have hwhole := Text.eightDigits?_append (Radix.length_padded Radix.lowerHex 8 address)
        (Text.all_isHexDigit_lowerPadded 8 address)
        (groups 4 bytes ++ ' ' :: ' ' :: bytes.map charOf)
      rw [trim_printRow, hdropped, hwhole] at hextended
      obtain ⟨-, hbehind⟩ := Prod.mk.inj (Option.some.inj hextended)
      have hfour := DumpRow.columns?_extend hcolumns dropped
      rw [← hbehind, columns?_groups_of_lt hlength] at hfour
      cases hfour

/-!
## What is to be read
-/

/-- The indices and values of the words in the full rows of bytes at a base address. -/
def printedWords (base : Nat) (bytes : Bytes) : List (Nat × Nat) :=
  (List.range (bytes.length / 16)).flatMap fun row =>
    (List.range 4).map fun place =>
      ((base + 16 * row) / 4 + place, valueOf ((bytes.drop (16 * row + 4 * place)).take 4))

def wordStatement (word : Nat × Nat) : Text :=
  "assume (dmem[0x".toList ++ Radix.upperHex.numeral word.1 ++ "bv30] == 0x".toList ++
    Radix.upperHex.padded 8 word.2 ++ "bv32);".toList

/-!
## Statements
-/

/-- The statements that a line of the data section is read as. -/
def lineStatements (line : Text) : List Text :=
  (DumpRow.read? line).toList.flatMap fun row => row.words.map DataWord.statement

theorem statements_eq (dump : Text) :
    statements dump = (dataLines dump).flatMap lineStatements := by
  simp only [statements, words, rows, List.filterMap_eq_flatMap_toList, List.flatMap_assoc,
    List.map_flatMap]
  rfl

theorem lineStatements_full {base row : Nat} {bytes : Bytes} (hrow : row < bytes.length / 16)
    (hfits : base + bytes.length ≤ 0x100000000) :
    lineStatements (printRow (base + 16 * row) ((bytes.drop (16 * row)).take 16)).trim =
      (((List.range 4).map fun place => ((base + 16 * row) / 4 + place,
        valueOf ((bytes.drop (16 * row + 4 * place)).take 4))).map wordStatement) := by
  have hlength : ((bytes.drop (16 * row)).take 16).length = 16 := by
    rw [List.length_take, List.length_drop]
    omega
  obtain ⟨dumpRow, hread, hwords⟩ := read?_of_full hlength
    (show base + 16 * row + 16 ≤ 0x100000000 by omega)
  have hplaces : ∀ place ∈ List.range 4,
      (((bytes.drop (16 * row)).take 16).drop (4 * place)).take 4 =
        (bytes.drop (16 * row + 4 * place)).take 4 := by
    intro place hplace
    have hlt := List.mem_range.mp hplace
    rw [List.drop_take, List.take_take, List.drop_drop, Nat.min_eq_left (by omega)]
  have hstatements : lineStatements (printRow (base + 16 * row)
      ((bytes.drop (16 * row)).take 16)).trim =
        (dumpRow.words.map fun w => (w.word.toNat, w.value.toNat)).map wordStatement := by
    rw [lineStatements, hread, Option.toList_some, List.flatMap_singleton, List.map_map]
    rfl
  rw [hstatements, hwords]
  refine congrArg (List.map wordStatement) (List.map_congr_left fun place hplace => ?_)
  rw [hplaces place hplace]

theorem lineStatements_short {base row : Nat} {bytes : Bytes}
    (hrow : bytes.length < 16 * row + 16) :
    lineStatements (printRow (base + 16 * row) ((bytes.drop (16 * row)).take 16)).trim = [] := by
  have hlength : ((bytes.drop (16 * row)).take 16).length < 16 := by
    rw [List.length_take, List.length_drop]
    omega
  rw [lineStatements, read?_of_short hlength]
  rfl

theorem printedWords_pairwise (base : Nat) (bytes : Bytes) :
    (printedWords base bytes).Pairwise fun word later => word.1 < later.1 := by
  refine List.pairwise_flatMap.mpr ⟨fun row _ => ?_, ?_⟩
  · refine List.pairwise_map.mpr (List.pairwise_lt_range.imp fun hlt => ?_)
    exact Nat.add_lt_add_left hlt _
  · refine List.pairwise_lt_range.imp fun hlt word hword later hlater => ?_
    obtain ⟨place, hplace, rfl⟩ := List.mem_map.mp hword
    obtain ⟨place', -, rfl⟩ := List.mem_map.mp hlater
    have := List.mem_range.mp hplace
    dsimp only
    omega

/-- A printed dump is read as the words of its full rows, at rising indices, and a last row of
fewer bytes says nothing. -/
theorem statements_print {base : Nat} {bytes : Bytes}
    (hfits : base + bytes.length ≤ 0x100000000) :
    statements (print base bytes) = (printedWords base bytes).map wordStatement ∧
      (printedWords base bytes).Pairwise fun word later => word.1 < later.1 := by
  refine ⟨?_, printedWords_pairwise base bytes⟩
  let lineOf (row : Nat) : Text :=
    (printRow (base + 16 * row) ((bytes.drop (16 * row)).take 16)).trim
  have hrows : List.range ((bytes.length + 15) / 16) = List.range (bytes.length / 16) ++
      (List.range ((bytes.length + 15) / 16 - bytes.length / 16)).map (bytes.length / 16 + ·) := by
    rw [← List.range_add]
    congr 1
    omega
  have hfull : (List.range (bytes.length / 16)).flatMap (fun row => lineStatements (lineOf row)) =
      (printedWords base bytes).map wordStatement := by
    rw [printedWords, List.map_flatMap]
    exact List.flatMap_congr fun row hrow => lineStatements_full (List.mem_range.mp hrow) hfits
  have hshort : ((List.range ((bytes.length + 15) / 16 - bytes.length / 16)).map
      (bytes.length / 16 + ·)).flatMap (fun row => lineStatements (lineOf row)) = [] := by
    refine List.flatMap_eq_nil_iff.mpr fun row hrow => ?_
    obtain ⟨behind, -, rfl⟩ := List.mem_map.mp hrow
    exact lineStatements_short (by omega)
  calc statements (print base bytes)
      = (List.range ((bytes.length + 15) / 16)).flatMap
          (fun row => lineStatements (lineOf row)) := by
        rw [statements_eq, dataLines_print, printRows, List.map_map, List.flatMap_map]
        rfl
    _ = (printedWords base bytes).map wordStatement := by
        rw [hrows, List.flatMap_append, hfull, hshort, List.append_nil]

/-- A row of blanks is trimmed down to its words, and the characters of the short row below it
look like a word. -/
theorem statements_print_blanks :
    0x80002000 + 28 ≤ 0x100000000 ∧
      statements (print 0x80002000 (List.replicate 16 0x20 ++ List.replicate 12 0x31)) =
        ["assume (dmem[0x20000800bv30] == 0x20202020bv32);".toList,
          "assume (dmem[0x20000801bv30] == 0x20202020bv32);".toList,
          "assume (dmem[0x20000802bv30] == 0x20202020bv32);".toList,
          "assume (dmem[0x20000803bv30] == 0x20202020bv32);".toList] :=
  ⟨by decide, (statements_print (by decide)).1.trans (by decide +kernel)⟩

end Dump

end Imprint
