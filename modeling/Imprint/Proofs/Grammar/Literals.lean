import Imprint.Proofs.Grammar.DumpRow
import Imprint.Proofs.Grammar.Instruction

/-!
# Literals of statements

A value goes from its digits to a number of 32 bits and back to digits, and comes out as it went
in, its letters in upper case.  An index comes out as the one numeral of its number that has no
zeros to spare.
-/

namespace Imprint

/-!
## One more digit
-/

namespace Radix

theorem div_mod_mul_add (r : Radix) (n : Nat) {d : Nat} (hd : d < r.base) :
    (r.base * n + d) / r.base = n ∧ (r.base * n + d) % r.base = d := by
  have hpos : 0 < r.base := Nat.lt_of_lt_of_le Nat.zero_lt_two r.two_le_base
  rw [Nat.mul_add_div hpos, Nat.div_eq_of_lt hd, Nat.mul_add_mod, Nat.mod_eq_of_lt hd]
  exact ⟨Nat.add_zero n, rfl⟩

theorem padded_mul_add (r : Radix) (count n : Nat) {d : Nat} (hd : d < r.base) :
    r.padded (count + 1) (r.base * n + d) = r.padded count n ++ [r.digit d] := by
  obtain ⟨hdiv, hmod⟩ := r.div_mod_mul_add n hd
  rw [padded, hdiv, hmod]

theorem numeral_of_lt (r : Radix) {d : Nat} (hd : d < r.base) : r.numeral d = [r.digit d] := by
  rw [numeral, dif_pos hd]

theorem numeral_mul_add (r : Radix) {n d : Nat} (hn : n ≠ 0) (hd : d < r.base) :
    r.numeral (r.base * n + d) = r.numeral n ++ [r.digit d] := by
  obtain ⟨hdiv, hmod⟩ := r.div_mod_mul_add n hd
  have hle : r.base ≤ r.base * n := Nat.le_mul_of_pos_right _ (Nat.pos_of_ne_zero hn)
  rw [numeral, dif_neg (by omega), hdiv, hmod]

end Radix

namespace Text

/-!
## Padded digits
-/

theorem digit_hexDigitValue {c : Char} (hc : isHexDigit c = true) :
    Radix.upperHex.digit (hexDigitValue c) = c.toUpper := by
  have hcodes : ∀ code < 103, isHexDigit (Char.ofNat code) = true →
      Radix.upperHex.digit (hexDigitValue (Char.ofNat code)) = (Char.ofNat code).toUpper := by
    decide
  have hlt : c.toNat < 103 := by
    rw [isHexDigit_iff] at hc
    omega
  have hchar := hcodes c.toNat hlt
  rw [Char.ofNat_toNat] at hchar
  exact hchar hc

theorem padded_hexValue {digits : Text} (hdigits : ∀ c ∈ digits, isHexDigit c = true) :
    Radix.upperHex.padded digits.length digits.hexValue = digits.map Char.toUpper := by
  induction digits using List.reverseRecOn with
  | nil =>
      rfl
  | append_singleton front c ih =>
      have hfront := ih fun d hd => hdigits d (List.mem_append_left _ hd)
      have hc := hdigits c (List.mem_append_right _ List.mem_cons_self)
      calc Radix.upperHex.padded (front ++ [c]).length (hexValue (front ++ [c]))
          = Radix.upperHex.padded (front.length + 1) (16 * hexValue front + hexDigitValue c) := by
            rw [hexValue_concat, List.length_append, List.length_singleton]
        _ = Radix.upperHex.padded front.length (hexValue front) ++
              [Radix.upperHex.digit (hexDigitValue c)] :=
            Radix.padded_mul_add _ _ _ (hexDigitValue_lt hc)
        _ = (front ++ [c]).map Char.toUpper := by
            rw [hfront, digit_hexDigitValue hc, List.map_append, List.map_singleton]

theorem IsWord.padded_eq {t : Text} (hword : t.IsWord) :
    Radix.upperHex.padded 8 (BitVec.ofNat 32 t.hexValue).toNat = t.map Char.toUpper := by
  rw [hword.toNat, ← padded_hexValue hword.digits, hword.length]

/-!
## Numerals
-/

def upperHexDigits : List Char :=
  ['0', '1', '2', '3', '4', '5', '6', '7', '8', '9', 'A', 'B', 'C', 'D', 'E', 'F']

/-- The text spells the number in upper-case hexadecimal digits, and no zero leads it unless it is
the numeral of zero. -/
structure IsNumeral (t : Text) (n : Nat) : Prop where
  ne_nil : t ≠ []
  digits : ∀ c ∈ t, c ∈ upperHexDigits
  value : t.hexValue = n
  lead : t.head? = some '0' → t = ['0']

theorem isHexDigit_of_mem_upperHexDigits {c : Char} (hc : c ∈ upperHexDigits) :
    isHexDigit c = true ∧ c.toUpper = c := by
  have hall : (upperHexDigits.all fun d => isHexDigit d && d.toUpper == d) = true := by
    decide
  simpa using List.all_eq_true.mp hall c hc

theorem mem_upperHexDigits :
    ∀ k < Radix.upperHex.base, decide (Radix.upperHex.digit k ∈ upperHexDigits) = true := by
  decide

theorem numeral_of_head?_zero {n : Nat} (hzero : (Radix.upperHex.numeral n).head? = some '0') :
    Radix.upperHex.numeral n = ['0'] := by
  induction n using Radix.numeral.induct Radix.upperHex with
  | case1 n hlt =>
      rw [Radix.numeral_of_lt _ hlt] at hzero ⊢
      rw [Option.some.inj hzero]
  | case2 n hge ih =>
      rw [Radix.numeral, dif_neg hge,
        List.head?_append_of_ne_nil _ (Radix.numeral_ne_nil _ _)] at hzero
      have hvalue : n / Radix.upperHex.base = 0 :=
        (hexValue_numeral _).symm.trans (congrArg hexValue (ih hzero))
      have hpos : 0 < n / Radix.upperHex.base :=
        Nat.div_pos (Nat.le_of_not_lt hge) (by decide)
      omega

theorem isNumeral_numeral (n : Nat) : IsNumeral (Radix.upperHex.numeral n) n where
  ne_nil := Radix.numeral_ne_nil _ n
  digits c hc := of_decide_eq_true
    (Radix.forall_mem_numeral Radix.upperHex (fun c => decide (c ∈ upperHexDigits))
      mem_upperHexDigits n c hc)
  value := hexValue_numeral n
  lead := numeral_of_head?_zero

theorem IsNumeral.eq_numeral {t : Text} {n : Nat} (ht : t.IsNumeral n) :
    t = Radix.upperHex.numeral n := by
  obtain ⟨hne, hdigits, rfl, hlead⟩ := ht
  induction t using List.reverseRecOn with
  | nil =>
      exact absurd rfl hne
  | append_singleton front c ih =>
      obtain ⟨hdigit, hupper⟩ := isHexDigit_of_mem_upperHexDigits (hdigits c (by simp))
      have hlt := hexDigitValue_lt hdigit
      have hc : Radix.upperHex.digit (hexDigitValue c) = c :=
        (digit_hexDigitValue hdigit).trans hupper
      by_cases hfront : front = []
      · subst hfront
        have hvalue : hexValue ([] ++ [c]) = hexDigitValue c := by
          simp [hexValue]
        rw [hvalue, Radix.numeral_of_lt _ hlt, hc, List.nil_append]
      · have hhead : front.head? ≠ some '0' := by
          intro hzero
          have hwhole := hlead (by rwa [List.head?_append_of_ne_nil _ hfront])
          have hlength := congrArg List.length hwhole
          rw [List.length_append, List.length_singleton, List.length_singleton] at hlength
          exact hfront (List.length_eq_zero_iff.mp (by omega))
        have heq := ih hfront (fun d hd => hdigits d (List.mem_append_left _ hd))
          fun hzero => absurd hzero hhead
        have hpos : hexValue front ≠ 0 := by
          intro hzero
          rw [hzero, Radix.numeral_of_lt _ (by decide)] at heq
          exact hhead (by rw [heq]; rfl)
        have hstep : Radix.upperHex.numeral (16 * hexValue front + hexDigitValue c) =
            Radix.upperHex.numeral (hexValue front) ++ [Radix.upperHex.digit (hexDigitValue c)] :=
          Radix.numeral_mul_add _ hpos hlt
        rw [hexValue_concat, hstep, ← heq, hc]

end Text

/-!
## Statements
-/

theorem Instruction.Parts.statement_instruction (parts : Parts) :
    parts.instruction.statement =
      "assume (imem[0x".toList ++ Radix.upperHex.numeral (parts.address.hexValue / 4) ++
        "bv30] == 0x".toList ++ parts.encoding.map Char.toUpper ++ "bv32); // ".toList ++
          parts.instruction.comment := by
  have hbits : Radix.upperHex.padded 8 parts.instruction.bits.toNat =
      parts.encoding.map Char.toUpper := parts.isWord_encoding.padded_eq
  unfold statement
  rw [← parts.toNat_word, ← hbits]

theorem DumpRow.Parts.statement_wordAt (parts : Parts) (place : Fin 4) :
    (parts.wordAt place).statement =
      "assume (dmem[0x".toList ++
        Radix.upperHex.numeral ((parts.group 0).hexValue / 4 + place) ++ "bv30] == 0x".toList ++
          (parts.group place.succ).map Char.toUpper ++ "bv32);".toList := by
  have hvalue : Radix.upperHex.padded 8 (parts.wordAt place).value.toNat =
      (parts.group place.succ).map Char.toUpper := (parts.isWord_group place.succ).padded_eq
  unfold DataWord.statement
  rw [← parts.toNat_wordAt, ← hvalue]

/-- Statements show the digits that were read.  The value of an instruction is its second group in
upper case, and its index is the numeral of the word that the address lies in; the values of a row
are its groups from the second on, and its indices are the numerals of the word that the address
lies in and of the three words behind it. -/
theorem statements_literal :
    (∀ n : Nat, ∃! t : Text, t.IsNumeral n) ∧
      (∀ (line : Text) (i : Instruction), Instruction.read? line = some i →
        (∃ parts : Instruction.Parts, parts.line = line) ∧
          ∀ parts : Instruction.Parts, parts.line = line → ∃ k index,
            4 * k ≤ parts.address.hexValue ∧ parts.address.hexValue < 4 * k + 4 ∧
              Text.IsNumeral index k ∧
                i.statement = "assume (imem[0x".toList ++ index ++ "bv30] == 0x".toList ++
                  parts.encoding.map Char.toUpper ++ "bv32); // ".toList ++ i.comment) ∧
      ∀ (line : Text) (r : DumpRow), DumpRow.read? line = some r →
        (∃ parts : DumpRow.Parts, parts.line = line) ∧
          ∀ parts : DumpRow.Parts, parts.line = line → ∃ (k : Nat) (index : Fin 4 → Text),
            4 * k ≤ (parts.group 0).hexValue ∧ (parts.group 0).hexValue < 4 * k + 4 ∧
              (∀ place : Fin 4, Text.IsNumeral (index place) (k + place)) ∧
                r.words.map DataWord.statement = (List.finRange 4).map fun place =>
                  "assume (dmem[0x".toList ++ index place ++ "bv30] == 0x".toList ++
                    (parts.group place.succ).map Char.toUpper ++ "bv32);".toList := by
  refine ⟨fun n => ?_, fun line i hread => ?_, fun line r hread => ?_⟩
  · exact ⟨_, Text.isNumeral_numeral n, fun t ht => ht.eq_numeral⟩
  · refine ⟨Instruction.exists_parts_of_read? hread, ?_⟩
    rintro parts rfl
    obtain rfl := Option.some.inj ((Instruction.read?_line parts).symm.trans hread)
    exact ⟨parts.address.hexValue / 4, _, by omega, by omega, Text.isNumeral_numeral _,
      parts.statement_instruction⟩
  · refine ⟨DumpRow.exists_parts_of_read? hread, ?_⟩
    rintro parts rfl
    obtain rfl := Option.some.inj ((DumpRow.read?_line parts).symm.trans hread)
    refine ⟨(parts.group 0).hexValue / 4, _, by omega, by omega,
      fun place => Text.isNumeral_numeral _, ?_⟩
    rw [parts.words_row, List.map_map]
    exact List.map_congr_left fun place _ => parts.statement_wordAt place

/-- A line at the third byte of the program, its digits in both cases. -/
def mixedLine : Instruction.Parts :=
  ⟨"00000003".toList, "\t".toList, "00aBcDeF".toList, "\t".toList, "nop".toList,
    by decide, by decide, by decide, by decide, by decide⟩

/-- The statement of the line has index zero and keeps the zeros and digits of its encoding; that
of the last row in memory has the last index of 32 bits and the two behind its limit. -/
theorem statements_literal_mixed :
    (∃ i, Instruction.read? mixedLine.line = some i ∧
      i.statement = "assume (imem[0x0bv30] == 0x00ABCDEFbv32); // nop".toList) ∧
      ∃ r, DumpRow.read? DumpRow.lastRow.line = some r ∧
        r.words.map DataWord.statement =
          ["assume (dmem[0x3FFFFFFDbv30] == 0x00000001bv32);".toList,
            "assume (dmem[0x3FFFFFFEbv30] == 0x0000000Abv32);".toList,
            "assume (dmem[0x3FFFFFFFbv30] == 0xDEADBEEFbv32);".toList,
            "assume (dmem[0x40000000bv30] == 0xFFFFFFFFbv32);".toList] := by
  obtain ⟨-, hline, hrow⟩ := statements_literal
  have hread := Instruction.read?_line mixedLine
  have hreadRow := DumpRow.read?_line DumpRow.lastRow
  obtain ⟨k, index, hlow, hhigh, hindex, hstatement⟩ := (hline _ _ hread).2 mixedLine rfl
  obtain ⟨k', indices, hlow', hhigh', hindices, hstatements⟩ :=
    (hrow _ _ hreadRow).2 DumpRow.lastRow rfl
  refine ⟨⟨_, hread, hstatement.trans ?_⟩, ⟨_, hreadRow, hstatements.trans ?_⟩⟩
  · obtain rfl : k = 0 := by
      have haddress : mixedLine.address.hexValue = 3 := by decide
      omega
    rw [hindex.eq_numeral]
    decide +kernel
  · obtain rfl : k' = 0x3FFFFFFD := by
      have haddress : (DumpRow.lastRow.group 0).hexValue = 0xFFFFFFF7 := by decide
      omega
    obtain rfl : indices = fun place : Fin 4 => Radix.upperHex.numeral (0x3FFFFFFD + place) :=
      funext fun place => (hindices place).eq_numeral
    decide +kernel

end Imprint
