import Imprint.Dump
import Imprint.Proofs.Numeral
import Imprint.Proofs.Text.Lines
import Imprint.Proofs.Text.Utf8

/-!
# Printed dumps

A printed dump has a heading and a row for sixteen bytes each: an address, four
groups of digits, and the bytes as characters.  All of it is printable, so the
rows are the lines of the dump, and none of them announces a section.
-/

namespace Imprint

namespace Dump

/-!
## Printing
-/

def digitsOf (bytes : Bytes) : Text :=
  bytes.flatMap fun b => Radix.lowerHex.padded 2 b.toNat

def slot : Option UInt8 → Text
  | some b => Radix.lowerHex.padded 2 b.toNat
  | none => [' ', ' ']

def group (bytes : Bytes) : Text :=
  ' ' :: (List.range 4).flatMap fun place => slot bytes[place]?

def groups : Nat → Bytes → Text
  | 0, _ => []
  | count + 1, bytes => group bytes ++ groups count (bytes.drop 4)

/-- The character that shows a byte: a printable one itself, and a dot for all others. -/
def charOf (b : UInt8) : Char :=
  if 0x20 ≤ b ∧ b ≤ 0x7E then Char.ofNat b.toNat else '.'

def printRow (address : Nat) (bytes : Bytes) : Text :=
  ' ' :: (Radix.lowerHex.padded 8 address ++ (groups 4 bytes ++ ' ' :: ' ' :: bytes.map charOf))

example : printRow 0x80002000
      [0x64, 0x65, 0x61, 0x64, 0x62, 0x65, 0x65, 0x66, 0x63, 0x61, 0x66, 0x65] =
    " 80002000 64656164 62656566 63616665           deadbeefcafe".toList := by
  decide +kernel

def printRows (base : Nat) (bytes : Bytes) : List Text :=
  (List.range ((bytes.length + 15) / 16)).map fun row =>
    printRow (base + 16 * row) ((bytes.drop (16 * row)).take 16)

def dataHeading : Text :=
  "Contents of section .data:".toList

def print (base : Nat) (bytes : Bytes) : Text :=
  (dataHeading :: printRows base bytes).flatMap (· ++ ['\n'])

/-!
## Digits of bytes
-/

def valueOf (bytes : Bytes) : Nat :=
  bytes.foldl (fun value b => 256 * value + b.toNat) 0

theorem hexValue_byte (value : Nat) (b : UInt8) :
    (Radix.lowerHex.padded 2 b.toNat).foldl
      (fun total c => 16 * total + Text.hexDigitValue c) value = 256 * value + b.toNat := by
  have hb : b.toNat < 256 := b.toNat_lt
  have hhigh := Text.hexDigitValue_lowerHex (b.toNat / 16 % 16)
    (Nat.mod_lt _ (by decide))
  have hlow := Text.hexDigitValue_lowerHex (b.toNat % 16) (Nat.mod_lt _ (by decide))
  have hdigits : Radix.lowerHex.padded 2 b.toNat =
      [Radix.lowerHex.digit (b.toNat / 16 % 16), Radix.lowerHex.digit (b.toNat % 16)] := rfl
  rw [hdigits, List.foldl_cons, List.foldl_cons, List.foldl_nil, hhigh, hlow]
  omega

@[simp] theorem hexValue_digitsOf (bytes : Bytes) : (digitsOf bytes).hexValue = valueOf bytes := by
  have hfold : ∀ value, (digitsOf bytes).foldl
      (fun total c => 16 * total + Text.hexDigitValue c) value =
        bytes.foldl (fun value b => 256 * value + b.toNat) value := by
    unfold digitsOf
    induction bytes with
    | nil =>
        intro value
        rfl
    | cons b rest ih =>
        intro value
        rw [List.flatMap_cons, List.foldl_append, hexValue_byte, List.foldl_cons, ih]
  exact hfold 0

@[simp] theorem length_digitsOf (bytes : Bytes) : (digitsOf bytes).length = 2 * bytes.length := by
  induction bytes with
  | nil =>
      rfl
  | cons b rest ih =>
      have hb := Radix.length_padded Radix.lowerHex 2 b.toNat
      unfold digitsOf at ih ⊢
      rw [List.flatMap_cons, List.length_append, ih, hb, List.length_cons]
      omega

@[simp] theorem all_isHexDigit_digitsOf (bytes : Bytes) :
    (digitsOf bytes).all Text.isHexDigit = true := by
  refine List.all_eq_true.mpr fun c hc => ?_
  obtain ⟨b, -, hb⟩ := List.mem_flatMap.mp hc
  exact List.all_eq_true.mp (Text.all_isHexDigit_lowerPadded 2 b.toNat) c hb

theorem length_word {bytes : Bytes} {place : Nat} (hlength : 4 * place + 4 ≤ bytes.length) :
    ((bytes.drop (4 * place)).take 4).length = 4 := by
  rw [List.length_take, List.length_drop]
  omega

theorem valueOf_lt {bytes : Bytes} (hlength : bytes.length = 4) : valueOf bytes < 0x100000000 := by
  obtain ⟨a, b, c, d, rfl⟩ : ∃ a b c d, bytes = [a, b, c, d] := by
    match bytes, hlength with
    | [a, b, c, d], _ => exact ⟨a, b, c, d, rfl⟩
  have ha := a.toNat_lt
  have hb := b.toNat_lt
  have hc := c.toNat_lt
  have hd := d.toNat_lt
  simp only [valueOf, List.foldl_cons, List.foldl_nil]
  omega

/-!
## Groups
-/

theorem group_of_le {bytes : Bytes} (hlength : 4 ≤ bytes.length) :
    group bytes = ' ' :: digitsOf (bytes.take 4) := by
  match bytes, hlength with
  | a :: b :: c :: d :: rest, _ => rfl

@[simp] theorem length_slot (b : Option UInt8) : (slot b).length = 2 := by
  cases b with
  | none => rfl
  | some b => exact Radix.length_padded Radix.lowerHex 2 b.toNat

theorem group_of_lt {bytes : Bytes} (hlength : bytes.length < 4) :
    ∃ digits, group bytes = ' ' :: digits ∧ digits.length = 8 ∧ ' ' ∈ digits := by
  refine ⟨_, rfl, ?_, ?_⟩
  · simp [List.range_succ, length_slot]
  · refine List.mem_flatMap.mpr ⟨3, by decide, ?_⟩
    rw [List.getElem?_eq_none (by omega)]
    exact List.mem_cons_self

def groupDigits : Nat → Bytes → List Text
  | 0, _ => []
  | count + 1, bytes => digitsOf (bytes.take 4) :: groupDigits count (bytes.drop 4)

theorem groupDigits_eq (count : Nat) (bytes : Bytes) :
    groupDigits count bytes =
      (List.range count).map fun place => digitsOf ((bytes.drop (4 * place)).take 4) := by
  induction count generalizing bytes with
  | zero =>
      rfl
  | succ count ih =>
      rw [groupDigits, ih, List.range_succ_eq_map, List.map_cons, List.map_map]
      simp only [List.drop_drop, Function.comp_def, Nat.mul_succ, Nat.mul_zero, List.drop_zero]
      simp only [Nat.add_comm]

theorem group_ends {bytes : Bytes} (hlength : 4 ≤ bytes.length) :
    ∃ front c, group bytes = front ++ [c] ∧ Text.isHexDigit c = true := by
  have hdigits : digitsOf (bytes.take 4) ≠ [] := by
    intro hnil
    have hcount := length_digitsOf (bytes.take 4)
    rw [hnil, List.length_nil, List.length_take] at hcount
    omega
  obtain ⟨front, c, hfront⟩ := (List.eq_nil_or_concat' _).resolve_left hdigits
  have hall := all_isHexDigit_digitsOf (bytes.take 4)
  rw [hfront] at hall
  refine ⟨' ' :: front, c, ?_, ?_⟩
  · rw [group_of_le hlength, hfront, List.cons_append]
  · exact List.all_eq_true.mp hall c (List.mem_append_right _ List.mem_cons_self)

theorem groups_ends (count : Nat) {bytes : Bytes} (hlength : 4 * (count + 1) ≤ bytes.length) :
    ∃ front c, groups (count + 1) bytes = front ++ [c] ∧ Text.isHexDigit c = true := by
  induction count generalizing bytes with
  | zero =>
      rw [groups, groups, List.append_nil]
      exact group_ends hlength
  | succ count ih =>
      have hdrop : 4 * (count + 1) ≤ (bytes.drop 4).length := by
        rw [List.length_drop]
        omega
      obtain ⟨front, c, hfront, hc⟩ := ih hdrop
      refine ⟨group bytes ++ front, c, ?_, hc⟩
      rw [groups, hfront, List.append_assoc]

/-!
## Rows
-/

theorem trim_printRow (address : Nat) (bytes : Bytes) :
    (printRow address bytes).trim = Text.trimRight (Radix.lowerHex.padded 8 address ++
      (groups 4 bytes ++ ' ' :: ' ' :: bytes.map charOf)) := by
  have hblank := Text.isBlank_of_isHexDigit
    (Text.isHexDigit_lowerHex (address / 16 / 16 / 16 / 16 / 16 / 16 / 16 % 16)
      (Nat.mod_lt _ (by decide)))
  unfold Text.trim printRow Text.trimLeft
  rw [List.dropWhile_cons_of_pos (by decide)]
  refine congrArg Text.trimRight ?_
  exact List.dropWhile_cons_of_neg (Bool.eq_false_iff.mp hblank)

theorem trim_printRow_of_le {bytes : Bytes} (hlength : 16 ≤ bytes.length) (address : Nat) :
    (printRow address bytes).trim = Radix.lowerHex.padded 8 address ++
      (groups 4 bytes ++ Text.trimRight (' ' :: ' ' :: bytes.map charOf)) := by
  obtain ⟨front, c, hgroups, hc⟩ := groups_ends 3 hlength
  have htrim := Text.trimRight_append (Text.isBlank_of_isHexDigit hc)
    (Radix.lowerHex.padded 8 address ++ front) (' ' :: ' ' :: bytes.map charOf)
  have hrow (rest : Text) : Radix.lowerHex.padded 8 address ++ (groups 4 bytes ++ rest) =
      Radix.lowerHex.padded 8 address ++ front ++ c :: rest := by
    rw [hgroups]
    simp
  rw [trim_printRow, hrow, hrow, htrim]

theorem printable_charOf (b : UInt8) : 0x20 ≤ (charOf b).toNat := by
  unfold charOf
  split
  · rename_i hb
    have hlow : 0x20 ≤ b.toNat := UInt8.le_iff_toNat_le.mp hb.1
    have hhigh : b.toNat ≤ 0x7E := UInt8.le_iff_toNat_le.mp hb.2
    have hvalue : (Char.ofNat b.toNat).toNat = b.toNat :=
      Utf8.toNat_ofNat (Or.inl (show b.toNat < 0xD800 by omega))
    rw [hvalue]
    exact hlow
  · decide

theorem newline_not_mem_chars (bytes : Bytes) : '\n' ∉ bytes.map charOf := by
  intro hmem
  obtain ⟨b, -, hb⟩ := List.mem_map.mp hmem
  have hprintable := printable_charOf b
  rw [hb] at hprintable
  exact absurd hprintable (by decide)

theorem printable_padded (count n : Nat) :
    ∀ c ∈ Radix.lowerHex.padded count n, 0x20 ≤ c.toNat := by
  intro c hc
  have hdigit := Radix.forall_mem_padded Radix.lowerHex (fun c => decide (0x20 ≤ c.toNat))
    (by decide) count n c hc
  exact of_decide_eq_true hdigit

theorem printable_groups (count : Nat) (bytes : Bytes) :
    ∀ c ∈ groups count bytes, 0x20 ≤ c.toNat := by
  induction count generalizing bytes with
  | zero =>
      intro c hc
      cases hc
  | succ count ih =>
      intro c hc
      rcases List.mem_append.mp hc with hgroup | hothers
      · rcases List.mem_cons.mp hgroup with rfl | hslots
        · decide
        · obtain ⟨place, -, hslot⟩ := List.mem_flatMap.mp hslots
          cases hb : bytes[place]? with
          | none =>
              rw [hb] at hslot
              have hreplicate : c ∈ List.replicate 2 ' ' := hslot
              rw [List.eq_of_mem_replicate hreplicate]
              decide
          | some b =>
              rw [hb] at hslot
              exact printable_padded 2 b.toNat c hslot
      · exact ih _ c hothers

theorem printable_printRow (address : Nat) (bytes : Bytes) :
    ∀ c ∈ printRow address bytes, 0x20 ≤ c.toNat := by
  have hblank : 0x20 ≤ ' '.toNat := by decide
  intro c hc
  simp only [printRow, List.mem_cons, List.mem_append, List.mem_map] at hc
  rcases hc with rfl | haddress | hgroups | rfl | rfl | ⟨b, -, rfl⟩
  · exact hblank
  · exact printable_padded 8 address c haddress
  · exact printable_groups 4 bytes c hgroups
  · exact hblank
  · exact hblank
  · exact printable_charOf b

theorem heading?_printRow (address : Nat) (bytes : Bytes) :
    heading? (printRow address bytes).trim = none := by
  obtain ⟨behind, hbehind⟩ := Text.trimRight_prefix (Radix.lowerHex.padded 8 address ++
    (groups 4 bytes ++ ' ' :: ' ' :: bytes.map charOf))
  unfold heading?
  rw [Option.map_eq_none_iff, Option.eq_none_iff_forall_ne_some]
  intro name hname
  have hrow := Text.eq_append_of_after? hname
  rw [trim_printRow] at hrow
  rw [hrow] at hbehind
  have hlead : "Contents of section ".toList = 'C' :: "ontents of section ".toList := by
    decide
  have hdigit : 'C' ∈ Radix.lowerHex.padded 8 address := by
    rw [hlead] at hbehind
    cases hdigits : Radix.lowerHex.padded 8 address with
    | nil =>
        have hlength := Radix.length_padded Radix.lowerHex 8 address
        rw [hdigits] at hlength
        cases hlength
    | cons d digits =>
        rw [hdigits] at hbehind
        rw [(List.cons.inj hbehind).1]
        exact List.mem_cons_self
  have hno := Radix.forall_mem_padded Radix.lowerHex (fun c => decide (c ≠ 'C'))
    (by decide) 8 address 'C' hdigit
  exact absurd rfl (of_decide_eq_true hno)

theorem dataLines_print (base : Nat) (bytes : Bytes) :
    dataLines (print base bytes) = (printRows base bytes).map Text.trim := by
  have hrow : ∀ line ∈ printRows base bytes, ∃ address part, line = printRow address part := by
    intro line hline
    obtain ⟨row, -, rfl⟩ := List.mem_map.mp hline
    exact ⟨_, _, rfl⟩
  have hended : ∀ line ∈ dataHeading :: printRows base bytes, '\n' ∉ line ∧ '\r' ∉ line := by
    intro line hline
    rcases List.mem_cons.mp hline with rfl | hline
    · decide
    · obtain ⟨address, part, rfl⟩ := hrow line hline
      have hprintable := printable_printRow address part
      exact ⟨fun hmem => absurd (hprintable _ hmem) (by decide),
        fun hmem => absurd (hprintable _ hmem) (by decide)⟩
  have hheading : heading? dataHeading.trim = some Sections.data := by
    decide
  have hheadless : ∀ line ∈ (printRows base bytes).map Text.trim, heading? line = none := by
    intro line hline
    obtain ⟨whole, hwhole, rfl⟩ := List.mem_map.mp hline
    obtain ⟨address, part, rfl⟩ := hrow whole hwhole
    exact heading?_printRow address part
  unfold dataLines Text.trimmedLines print
  rw [Text.lines_ended hended]
  exact Sections.under_cons hheading hheadless

end Dump

end Imprint
